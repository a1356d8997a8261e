import YouSpinMe.FieldCodec
import YouSpinMe.Identity
import YouSpinMe.Kube
import Std.Data.String.ToInt

namespace YouSpinMe.ResourceJson
open FieldCodec Identity Jiff Crd Kube

def isNull : Json → Bool
  | .null => true
  | _ => false

def textOf : Json → Option String
  | .string s => some s
  | _ => none

def itemsOf : Json → Option (List Json)
  | .array items => some items
  | _ => none

def fieldsOf : Json → Option (List (String × Json))
  | .object fields => some fields
  | _ => none

instance : Values Json where
  null := .null
  string := .string
  array := .array
  object := .object
  isNull := isNull
  text := textOf
  items := itemsOf
  fields := fieldsOf
  isNull_null := rfl
  isNull_string _ := rfl
  isNull_array _ := rfl
  isNull_object _ := rfl
  text_string _ := rfl
  items_array _ := rfl
  fields_object _ := rfl

-- A number is an i64 when it has no fraction, no exponent and no sign before a zero.
def readInt64 : Json → Option Int
  | .number text => text.toInt?.filter fun n => toString n = text ∧ i64Min ≤ n ∧ n ≤ i64Max
  | _ => none

def int64 : Codec Json Int where
  fits n := i64Min ≤ n ∧ n ≤ i64Max
  kept n := n
  write n := .number (toString n)
  read := readInt64
  reads {n} inside := by
    simp [readInt64,inside.1,inside.2]
  sound {j n} found := by
    cases j with
    | number text =>
      have fits := (Option.filter_eq_some_iff.mp found).2
      exact (of_decide_eq_true fits).2
    | null | bool | string | array | object => cases found
  rewrites _ := rfl
  filled _ := rfl

def readBool : Json → Option Bool
  | .bool b => some b
  | _ => none

def boolean : Codec Json Bool where
  fits _ := True
  kept b := b
  write := .bool
  read := readBool
  reads _ := rfl
  sound _ := trivial
  rewrites _ := rfl
  filled _ := rfl

-- `Time` and `Condition` of k8s-openapi. A text need not keep all of an instant, and a
-- generation is an i64.
class KubeTypes where
  time : Codec Json Timestamp
  condition : Codec Json Condition
  time_fits : ∀ t, time.fits t
  condition_fits : ∀ c, (∀ n ∈ c.observedGeneration, i64Min ≤ n ∧ n ≤ i64Max) → condition.fits c

def text : Codec Json String := .string

-- `skip_serializing_if = "Vec::is_empty"`.
def vec (name : String) (c : Codec Json α) : Fields Json [name] (List α) :=
  .skipped name c.list [] (List.forall_mem_nil _) List.isEmpty (fun _ => List.isEmpty_iff) (fun _ => List.map_eq_nil_iff)

theorem vec_exact {c : Codec Json α} (exact : c.Exact) (name : String) : (vec name c).Exact := exact.list

def providerText : Provider → String
  | .generic => "generic"
  | .github => "github"
  | .cloudflare => "cloudflare"

def provider : Codec Json Provider :=
  .enumeration providerText [.generic,.github,.cloudflare] (by intro x; cases x <;> simp)
    (by intro x y same; cases x <;> cases y <;> simp_all [providerText])

def setupParts : Setup ≃ List String × Option String where
  toFun s := (s.permissions,s.notes)
  invFun x := ⟨x.1,x.2⟩
  left_inv _ := rfl
  right_inv _ := rfl

def setup : Codec Json Setup :=
  ((vec "permissions" text).and <| Fields.optional "notes" text).as setupParts |>.record

def rotationParts : RotationPolicy ≃ Option String × Option String × Option String where
  toFun r := (r.maxAge,r.warnBefore,r.criticalBefore)
  invFun x := ⟨x.1,x.2.1,x.2.2⟩
  left_inv _ := rfl
  right_inv _ := rfl

def rotation : Codec Json RotationPolicy :=
  ((Fields.optional "maxAge" text).and <| (Fields.optional "warnBefore" text).and <|
    Fields.optional "criticalBefore" text).as rotationParts |>.record

def openBaoParts : OpenBaoTarget ≃ String × String × String where
  toFun t := (t.mount,t.path,t.key)
  invFun x := ⟨x.1,x.2.1,x.2.2⟩
  left_inv _ := rfl
  right_inv _ := rfl

def openBaoTarget : Codec Json OpenBaoTarget :=
  ((Fields.required "mount" text).and <| (Fields.required "path" text).and <|
    Fields.required "key" text).as openBaoParts |>.record

def targetParts : TargetSpec ≃ Option OpenBaoTarget where
  toFun t := t.openbao
  invFun x := ⟨x⟩
  left_inv _ := rfl
  right_inv _ := rfl

def targetSpec : Codec Json TargetSpec := (Fields.optional "openbao" openBaoTarget).as targetParts |>.record

def specParts : ApiKeySpec ≃ Option String × Provider × Option String × Option String × Setup × RotationPolicy ×
    List TargetSpec × List String where
  toFun s := (s.displayName,s.provider,s.owner,s.renewUrl,s.setup,s.rotation,s.targets,s.consumers)
  invFun x := ⟨x.1,x.2.1,x.2.2.1,x.2.2.2.1,x.2.2.2.2.1,x.2.2.2.2.2.1,x.2.2.2.2.2.2.1,x.2.2.2.2.2.2.2⟩
  left_inv _ := rfl
  right_inv _ := rfl

theorem setup_fits (s : Setup) : setup.fits s := ⟨fun _ _ => trivial,fun _ _ => trivial⟩
theorem rotation_fits (r : RotationPolicy) : rotation.fits r := ⟨fun _ _ => trivial,fun _ _ => trivial,fun _ _ => trivial⟩
theorem target_fits (t : TargetSpec) : targetSpec.fits t := fun _ _ => ⟨trivial,trivial,trivial⟩

def specFields :=
  ((Fields.optional "displayName" text).and <| (Fields.defaulted "provider" provider .generic trivial).and <|
    (Fields.optional "owner" text).and <| (Fields.optional "renewUrl" text).and <|
    (Fields.defaulted "setup" setup {} (setup_fits {})).and <| (Fields.defaulted "rotation" rotation {} (rotation_fits {})).and <|
    (vec "targets" targetSpec).and <| vec "consumers" text).as specParts

def spec : Codec Json ApiKeySpec := specFields.record

theorem spec_fits (s : ApiKeySpec) : spec.fits s :=
  ⟨fun _ _ => trivial,trivial,fun _ _ => trivial,fun _ _ => trivial,setup_fits _,rotation_fits _,fun t _ => target_fits t,
    fun _ _ => trivial⟩

def actorParts : Actor ≃ String × String where
  toFun a := (a.sub,a.name)
  invFun x := ⟨x.1,x.2⟩
  left_inv _ := rfl
  right_inv _ := rfl

-- `skip_serializing_if = "String::is_empty"`.
def actor : Codec Json Actor :=
  ((Fields.required "sub" text).and <|
    Fields.skipped "name" text "" trivial (fun name => decide (name = "")) (fun _ => decide_eq_true_iff) (fun _ => Iff.rfl)).as
    actorParts |>.record

def sourceText : ExpirySource → String
  | .probe => "probe"
  | .manual => "manual"
  | .none => "none"

def expirySource : Codec Json ExpirySource :=
  .enumeration sourceText [.probe,.manual,.none] (by intro x; cases x <;> simp)
    (by intro x y same; cases x <;> cases y <;> simp_all [sourceText])

def resultText : TargetResult → String
  | .ok => "ok"
  | .failed => "failed"

def targetResult : Codec Json TargetResult :=
  .enumeration resultText [.ok,.failed] (by intro x; cases x <;> simp)
    (by intro x y same; cases x <;> cases y <;> simp_all [resultText])

def kindText : HistoryKind → String
  | .rotated => "rotated"
  | .recorded => "recorded"

def historyKind : Codec Json HistoryKind :=
  .enumeration kindText [.rotated,.recorded] (by intro x; cases x <;> simp)
    (by intro x y same; cases x <;> cases y <;> simp_all [kindText])

def probeParts : ProbeStatus ≃ Timestamp × Option String × Option Timestamp where
  toFun p := (p.atTime,p.identity,p.expiresAt)
  invFun x := ⟨x.1,x.2.1,x.2.2⟩
  left_inv _ := rfl
  right_inv _ := rfl

def targetStatusParts : TargetStatus ≃ String × Option Timestamp × TargetResult × Option String where
  toFun t := (t.reference,t.lastWritten,t.result,t.message)
  invFun x := ⟨x.1,x.2.1,x.2.2.1,x.2.2.2⟩
  left_inv _ := rfl
  right_inv _ := rfl

def entryParts : HistoryEntry ≃ Timestamp × Actor × HistoryKind × Option Timestamp where
  toFun e := (e.atTime,e.byActor,e.kind,e.expiresAt)
  invFun x := ⟨x.1,x.2.1,x.2.2.1,x.2.2.2⟩
  left_inv _ := rfl
  right_inv _ := rfl

def statusParts : ApiKeyStatus ≃ Option Timestamp × Option Actor × Option Timestamp × Option ExpirySource × Option Timestamp ×
    Option ProbeStatus × List TargetStatus × List HistoryEntry × List Condition × Option Int where
  toFun s := (s.lastRotated,s.rotatedBy,s.expiresAt,s.expiresAtSource,s.manualExpiresAt,s.probe,s.targets,s.history,
    s.conditions,s.observedGeneration)
  invFun x := ⟨x.1,x.2.1,x.2.2.1,x.2.2.2.1,x.2.2.2.2.1,x.2.2.2.2.2.1,x.2.2.2.2.2.2.1,x.2.2.2.2.2.2.2.1,x.2.2.2.2.2.2.2.2.1,
    x.2.2.2.2.2.2.2.2.2⟩
  left_inv _ := rfl
  right_inv _ := rfl

theorem text_exact : text.Exact := fun _ => rfl
theorem int64_exact : int64.Exact := fun _ => rfl
theorem boolean_exact : boolean.Exact := fun _ => rfl
theorem provider_exact : provider.Exact := fun _ => rfl
theorem actor_exact : actor.Exact := fun _ => rfl
theorem openBao_exact : openBaoTarget.Exact := fun _ => rfl

theorem setup_exact : setup.Exact :=
  Fields.Exact.as ((vec_exact text_exact "permissions").and (text_exact.optional "notes")) setupParts

theorem rotation_exact : rotation.Exact :=
  Fields.Exact.as ((text_exact.optional "maxAge").and <| (text_exact.optional "warnBefore").and <|
    text_exact.optional "criticalBefore") rotationParts

theorem target_exact : targetSpec.Exact := Fields.Exact.as (openBao_exact.optional "openbao") targetParts

theorem spec_exact : spec.Exact :=
  Fields.Exact.as ((text_exact.optional "displayName").and <| (provider_exact.defaulted "provider").and <|
    (text_exact.optional "owner").and <| (text_exact.optional "renewUrl").and <| (setup_exact.defaulted "setup").and <|
    (rotation_exact.defaulted "rotation").and <| (vec_exact target_exact "targets").and <| vec_exact text_exact "consumers")
    specParts

section Status
variable [KubeTypes]

def probeStatus : Codec Json ProbeStatus :=
  ((Fields.required "at" KubeTypes.time).and <| (Fields.optional "identity" text).and <|
    Fields.optional "expiresAt" KubeTypes.time).as probeParts |>.record

def targetStatus : Codec Json TargetStatus :=
  ((Fields.required "ref" text).and <| (Fields.optional "lastWritten" KubeTypes.time).and <|
    (Fields.required "result" targetResult).and <| Fields.optional "message" text).as targetStatusParts |>.record

def historyEntry : Codec Json HistoryEntry :=
  ((Fields.required "at" KubeTypes.time).and <| (Fields.required "by" actor).and <|
    (Fields.required "kind" historyKind).and <| Fields.optional "expiresAt" KubeTypes.time).as entryParts |>.record

def statusFields :=
  ((Fields.optional "lastRotated" KubeTypes.time).and <| (Fields.optional "rotatedBy" actor).and <|
    (Fields.optional "expiresAt" KubeTypes.time).and <| (Fields.optional "expiresAtSource" expirySource).and <|
    (Fields.optional "manualExpiresAt" KubeTypes.time).and <| (Fields.optional "probe" probeStatus).and <|
    (vec "targets" targetStatus).and <| (vec "history" historyEntry).and <| (vec "conditions" KubeTypes.condition).and <|
    Fields.optional "observedGeneration" int64).as statusParts

def status : Codec Json ApiKeyStatus := statusFields.record

-- What is left of a status that was stored: its times as the texts keep them.
def keptProbe (probe : ProbeStatus) : ProbeStatus :=
  ⟨KubeTypes.time.kept probe.atTime,probe.identity,probe.expiresAt.map KubeTypes.time.kept⟩

def keptTarget (target : TargetStatus) : TargetStatus :=
  ⟨target.reference,target.lastWritten.map KubeTypes.time.kept,target.result,target.message⟩

def keptEntry (entry : HistoryEntry) : HistoryEntry :=
  ⟨KubeTypes.time.kept entry.atTime,entry.byActor,entry.kind,entry.expiresAt.map KubeTypes.time.kept⟩

def keptStatus (s : ApiKeyStatus) : ApiKeyStatus where
  lastRotated := s.lastRotated.map KubeTypes.time.kept
  rotatedBy := s.rotatedBy
  expiresAt := s.expiresAt.map KubeTypes.time.kept
  expiresAtSource := s.expiresAtSource
  manualExpiresAt := s.manualExpiresAt.map KubeTypes.time.kept
  probe := s.probe.map keptProbe
  targets := s.targets.map keptTarget
  history := s.history.map keptEntry
  conditions := s.conditions.map KubeTypes.condition.kept
  observedGeneration := s.observedGeneration

-- Only conditions and generations can be ones that have no text.
theorem status_fits {s : ApiKeyStatus} :
    status.fits s ↔ (∀ c ∈ s.conditions, KubeTypes.condition.fits c) ∧ ∀ n ∈ s.observedGeneration, i64Min ≤ n ∧ n ≤ i64Max := by
  have time := KubeTypes.time_fits
  constructor
  · rintro ⟨_,_,_,_,_,_,_,_,conditions,generation⟩
    exact ⟨conditions,generation⟩
  · rintro ⟨conditions,generation⟩
    exact ⟨fun t _ => time t,fun _ _ => ⟨trivial,trivial⟩,fun t _ => time t,fun _ _ => trivial,fun t _ => time t,
      fun p _ => ⟨time p.atTime,fun _ _ => trivial,fun t _ => time t⟩,
      fun _ _ => ⟨trivial,fun t _ => time t,trivial,fun _ _ => trivial⟩,
      fun e _ => ⟨time e.atTime,⟨trivial,trivial⟩,trivial,fun t _ => time t⟩,conditions,generation⟩

theorem probeStatus_kept (probe : ProbeStatus) : probeStatus.kept probe = keptProbe probe := by
  change (⟨_,probe.identity.map text.kept,_⟩ : ProbeStatus) = _
  rw [text_exact.option]
  rfl

theorem targetStatus_kept (target : TargetStatus) : targetStatus.kept target = keptTarget target := by
  change (⟨_,_,_,target.message.map text.kept⟩ : TargetStatus) = _
  rw [text_exact.option]
  rfl

theorem status_kept (s : ApiKeyStatus) : status.kept s = keptStatus s := by
  have targets : s.targets.map targetStatus.kept = s.targets.map keptTarget := List.map_congr_left fun t _ => targetStatus_kept t
  have probe : s.probe.map probeStatus.kept = s.probe.map keptProbe := by rw [funext probeStatus_kept]
  have source : expirySource.Exact := fun _ => rfl
  change (⟨_,s.rotatedBy.map actor.kept,_,s.expiresAtSource.map expirySource.kept,_,s.probe.map probeStatus.kept,
    s.targets.map targetStatus.kept,_,_,s.observedGeneration.map int64.kept⟩ : ApiKeyStatus) = _
  rw [actor_exact.option,source.option,int64_exact.option,targets,probe]
  rfl

def specNames : List String :=
  ["displayName","provider","owner","renewUrl","setup","rotation","targets","consumers"]

def statusNames : List String :=
  ["lastRotated","rotatedBy","expiresAt","expiresAtSource","manualExpiresAt","probe","targets","history","conditions",
    "observedGeneration"]

-- A spec comes back as it was, and a status with the times of its text, from any object
-- that has these fields once each, in whatever order and whatever else it has. What comes
-- back is written as the same text again, so that storing it twice loses nothing more.
theorem resource_roundtrip (s : ApiKeySpec) {t : ApiKeyStatus} (fits : status.fits t) :
    (∀ entries : List (String × Json), (entries.map Prod.fst).Nodup →
      (∀ name ∈ specNames, entries.lookup name = (specFields.write s).lookup name) →
      spec.read (.object entries) = some s) ∧
    (∀ entries : List (String × Json), (entries.map Prod.fst).Nodup →
      (∀ name ∈ statusNames, entries.lookup name = (statusFields.write t).lookup name) →
      status.read (.object entries) = some (keptStatus t)) ∧
    status.write (keptStatus t) = status.write t ∧ status.fits (keptStatus t) ∧ keptStatus (keptStatus t) = keptStatus t ∧
    ((specFields.write s).map Prod.fst).Nodup ∧ ((statusFields.write t).map Prod.fst).Nodup := by
  refine ⟨?_,?_,?_,?_,?_,specFields.written_distinct s,statusFields.written_distinct t⟩
  · intro entries _ there
    change specFields.read entries = some s
    rw [specFields.reads_among (spec_fits s) there]
    exact congrArg some (spec_exact s)
  · intro entries _ there
    change statusFields.read entries = some (keptStatus t)
    rw [statusFields.reads_among fits there]
    exact congrArg some (status_kept t)
  · rw [← status_kept,status.rewrites]
  · rw [← status_kept]
    exact status.kept_fits fits
  · rw [← status_kept,← status_kept,status.kept_kept fits]

end Status

-- Times to the second, with the epoch's own text, and conditions by their fields.
def secondText (n : Int) : String := if n = 0 then "1970-01-01T00:00:00Z" else "second " ++ toString n

def ofSecond (n : Int) : Option Timestamp :=
  if inside : -377705023201 ≤ n ∧ n ≤ 253402207200 then some ⟨n * 1000000000,by omega,by omega⟩ else none

def readSecond (text : String) : Option Timestamp :=
  if text = "1970-01-01T00:00:00Z" then some .epoch else (String.ofList (text.toList.drop 7)).toInt?.bind ofSecond

-- A text names the second that an instant lies in, also before 1970.
def floorSecond (t : Timestamp) : Int := t.nanos / 1000000000

theorem floorSecond_bounds (t : Timestamp) : -377705023201 ≤ floorSecond t ∧ floorSecond t ≤ 253402207200 := by
  have := t.lower
  have := t.upper
  unfold floorSecond
  omega

def keptSecond (t : Timestamp) : Timestamp :=
  ⟨floorSecond t * 1000000000,by have := floorSecond_bounds t; omega,by have := floorSecond_bounds t; omega⟩

theorem readSecond_text (t : Timestamp) : readSecond (secondText (floorSecond t)) = some (keptSecond t) := by
  by_cases zero : floorSecond t = 0
  · simp [readSecond,secondText,keptSecond,zero,Timestamp.epoch]
  · have number : "second " ++ toString (floorSecond t) ≠ "1970-01-01T00:00:00Z" := by
      intro same
      have first := congrArg (fun text => text.toList.head?) same
      simp at first
    have digits : String.ofList (("second " ++ toString (floorSecond t)).toList.drop 7) = toString (floorSecond t) := by
      simp [String.toList_append]
    have parsed : (toString (floorSecond t)).toInt? = some (floorSecond t) := Int.toInt?_repr _
    rw [readSecond,secondText,if_neg zero,if_neg number,digits,parsed,Option.bind_some,ofSecond,
      dif_pos (floorSecond_bounds t)]
    rfl

def secondTime : Codec Json Timestamp where
  fits _ := True
  kept := keptSecond
  write t := .string (secondText (floorSecond t))
  read j := (textOf j).bind readSecond
  reads {t} _ := readSecond_text t
  sound _ := trivial
  rewrites t := by simp [keptSecond,floorSecond]
  filled _ := rfl

def conditionParts : Condition ≃ Timestamp × String × Option Int × String × String × String where
  toFun c := (c.lastTransitionTime,c.message,c.observedGeneration,c.reason,c.status,c.type)
  invFun x := ⟨x.2.2.2.2.2,x.2.2.2.2.1,x.2.2.2.1,x.2.1,x.2.2.1,x.1⟩
  left_inv _ := rfl
  right_inv _ := rfl

@[reducible] def secondTypes : KubeTypes where
  time := secondTime
  condition := ((Fields.required "lastTransitionTime" secondTime).and <| (Fields.required "message" text).and <|
    (Fields.optional "observedGeneration" int64).and <| (Fields.required "reason" text).and <|
    (Fields.required "status" text).and <| Fields.required "type" text).as conditionParts |>.record
  time_fits _ := trivial
  condition_fits _ generation := ⟨trivial,trivial,generation,trivial,trivial,trivial⟩

def nanoLate : ApiKeyStatus := {lastRotated := some ⟨17,by decide,by decide⟩, observedGeneration := some 7}

theorem nanoLate_read : let _ := secondTypes
    status.read (.object [("observedGeneration",.number "7"),("phase",.null),("lastRotated",.string "1970-01-01T00:00:00Z")]) =
      some {lastRotated := some .epoch, observedGeneration := some 7} := by
  let _ := secondTypes
  have fits : status.fits nanoLate := by
    refine status_fits.mpr ⟨List.forall_mem_nil _,?_⟩
    intro n member
    cases member
    decide
  apply (resource_roundtrip {} fits).2.1 _ (by decide)
  intro name member
  simp only [statusNames,List.mem_cons,List.not_mem_nil,or_false] at member
  rcases member with rfl | rfl | rfl | rfl | rfl | rfl | rfl | rfl | rfl | rfl
  all_goals rfl

end YouSpinMe.ResourceJson
