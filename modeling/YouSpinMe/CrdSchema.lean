import YouSpinMe.StructuralSchema

namespace YouSpinMe.CrdSchema
open FieldCodec ResourceJson StructuralSchema Identity Jiff Crd

section Scalars
variable [DateTimes] {α : Type}

theorem conforms_text {nullable : Bool} {rule : TextRule} {j : Json} (conform : conforms (.text nullable rule) j = true)
    (filled : isNull j = false) : ∃ s, j = .string s ∧ rule.allows s = true := by
  cases j with
  | string s => exact ⟨s,rfl,by simpa [conforms] using conform⟩
  | null => cases filled
  | bool | number | array | object => simp [conforms] at conform

theorem text_meets (nullable : Bool) (rule : TextRule) : Meets text (.text nullable rule) := by
  refine ⟨?_,?_⟩
  · intro j conform filled
    obtain ⟨s,rfl,_⟩ := conforms_text conform filled
    exact ⟨s,rfl⟩
  · intro j _ _
    rw [store]

theorem text_writes (nullable : Bool) : Writes text (.text nullable .any) fun _ => True := by
  intro s _ _
  change conforms (.text nullable .any) (.string s) = true
  simp [conforms,TextRule.allows]

theorem Meets.nullable {c : Codec Json α} {rule : TextRule} (meets : Meets c (.text false rule)) : Meets c (.text true rule) := by
  have strict : ∀ {j}, conforms (.text true rule) j = true → isNull j = false → conforms (.text false rule) j = true := by
    intro j conform filled
    obtain ⟨s,rfl,allowed⟩ := conforms_text conform filled
    simpa [conforms] using allowed
  refine ⟨?_,?_⟩
  · intro j conform filled
    exact meets.admits (strict conform filled) filled
  · intro j conform filled
    rw [store]

theorem Writes.nullable {c : Codec Json α} {rule : TextRule} {P : α → Prop} (writes : Writes c (.text false rule) P) :
    Writes c (.text true rule) P := by
  intro x fits given
  obtain ⟨s,same,allowed⟩ := conforms_text (writes x fits given) (c.filled x)
  rw [same]
  simpa [conforms] using allowed

theorem enumeration_meets [DecidableEq α] {names : α → String} {all : List α} {complete : ∀ x, x ∈ all}
    {distinct : ∀ x y, names x = names y → x = y} {values : List String} (nullable : Bool)
    (known : ∀ s ∈ values, ∃ x, names x = s) :
    Meets (.enumeration names all complete distinct) (.text nullable (.oneOf values)) := by
  refine ⟨?_,?_⟩
  · intro j conform filled
    obtain ⟨s,rfl,allowed⟩ := conforms_text conform filled
    obtain ⟨x,rfl⟩ := known s (List.contains_iff_mem.mp allowed)
    exact ⟨x,(Codec.enumeration names all complete distinct).reads trivial⟩
  · intro j _ _
    rw [store]

theorem enumeration_writes [DecidableEq α] {names : α → String} {all : List α} {complete : ∀ x, x ∈ all}
    {distinct : ∀ x y, names x = names y → x = y} {values : List String} (nullable : Bool) (listed : ∀ x, names x ∈ values) :
    Writes (.enumeration names all complete distinct) (.text nullable (.oneOf values)) fun _ => True := by
  intro x _ _
  change conforms (.text nullable (.oneOf values)) (.string (names x)) = true
  rw [conforms]
  exact List.contains_iff_mem.mpr (listed x)

theorem int64_meets (nullable : Bool) : Meets int64 (.integer nullable) := by
  refine ⟨?_,?_⟩
  · intro j conform filled
    rw [conforms,filled,Bool.false_and,Bool.false_or] at conform
    exact Option.isSome_iff_exists.mp conform
  · intro j _ _
    rw [store]

theorem int64_writes (nullable : Bool) : Writes int64 (.integer nullable) fun _ => True := by
  intro n fits _
  have read : readInt64 (int64.write n) = some n := int64_exact.reads fits
  rw [conforms,read,Option.isSome_some,Bool.or_true]

end Scalars

-- The schemas of the custom resource definition.
def anyText : Schema := .text true .any
def durationText : Schema := .text true .duration
def filledText : Schema := .text false (.minLength 1)
def someTime : Schema := .text true .dateTime
def theTime : Schema := .text false .dateTime

def setupSchema : Schema :=
  .object false [] [("permissions",none,.array (.text false .any)),("notes",none,anyText)]

def rotationSchema : Schema :=
  .object false [] [("maxAge",none,durationText),("warnBefore",none,durationText),("criticalBefore",none,durationText)]

def openBaoSchema : Schema :=
  .object true ["mount","path","key"] [("mount",none,filledText),("path",none,filledText),("key",none,filledText)]

def targetSchema : Schema := .object false [] [("openbao",none,openBaoSchema)]

def specSchema : Schema :=
  .object false [] [("displayName",none,anyText),
    ("provider",some (.string "generic"),.text false (.oneOf ["github","cloudflare","generic"])),
    ("owner",none,anyText),("renewUrl",none,anyText),("setup",some (.object []),setupSchema),
    ("rotation",some (.object []),rotationSchema),("targets",none,.array targetSchema),
    ("consumers",none,.array (.text false .any))]

def actorSchema (nullable : Bool) : Schema :=
  .object nullable ["sub"] [("sub",none,.text false .any),("name",none,.text false .any)]

def probeSchema : Schema := .object true ["at"] [("at",none,theTime),("identity",none,anyText),("expiresAt",none,someTime)]

def targetStatusSchema : Schema :=
  .object false ["ref","result"] [("ref",none,.text false .any),("lastWritten",none,someTime),
    ("result",none,.text false (.oneOf ["ok","failed"])),("message",none,anyText)]

def entrySchema : Schema :=
  .object false ["at","by","kind"] [("at",none,theTime),("by",none,actorSchema false),
    ("kind",none,.text false (.oneOf ["rotated","recorded"])),("expiresAt",none,someTime)]

def conditionSchema : Schema :=
  .object false ["lastTransitionTime","message","reason","status","type"] [("lastTransitionTime",none,theTime),
    ("message",none,.text false .any),("observedGeneration",none,.integer false),("reason",none,.text false .any),
    ("status",none,.text false .any),("type",none,.text false .any)]

def statusSchema : Schema :=
  .object true [] [("lastRotated",none,someTime),("rotatedBy",none,actorSchema true),("expiresAt",none,someTime),
    ("expiresAtSource",none,.text true (.oneOf ["probe","manual","none"])),("manualExpiresAt",none,someTime),
    ("probe",none,probeSchema),("targets",none,.array targetStatusSchema),("history",none,.array entrySchema),
    ("conditions",none,.array conditionSchema),("observedGeneration",none,.integer true)]

-- From the year 0 on. The year before it is written with a sign, which is no date-time to
-- the API server.
def Dated (t : Timestamp) : Prop := -62167219200000000000 ≤ t.nanos

def timesOf (s : ApiKeyStatus) : List Timestamp :=
  s.lastRotated.toList ++ s.expiresAt.toList ++ s.manualExpiresAt.toList ++
  s.probe.toList.flatMap (fun p => p.atTime :: p.expiresAt.toList) ++
  s.targets.flatMap (fun t => t.lastWritten.toList) ++ s.history.flatMap (fun e => e.atTime :: e.expiresAt.toList) ++
  s.conditions.map Condition.lastTransitionTime

-- What the API server takes for a time that k8s-openapi wrote. A condition is read where
-- its time is, and written with the text of its time among its other fields.
class AdmittedTypes [KubeTypes] [DateTimes] : Prop where
  time_writes : Writes KubeTypes.time theTime Dated
  condition_meets : ∀ [DateTimes], Meets KubeTypes.time theTime → Meets KubeTypes.condition conditionSchema
  condition_writes : ∀ [DateTimes], Writes KubeTypes.condition conditionSchema
    fun c => conforms theTime (KubeTypes.time.write c.lastTransitionTime) = true

-- Conforming with the texts that k8s-openapi reads as times for the server's date-times.
@[reducible] def readTimes [KubeTypes] : DateTimes := ⟨fun s => (KubeTypes.time.read (.string s)).isSome⟩
def readable [KubeTypes] (schema : Schema) (j : Json) : Bool := @conforms readTimes schema j

section Agreement
variable [DateTimes] {α : Type}

theorem vec_meets {c : Codec Json α} {schema : Schema} (meets : Meets c schema) (never : schema.nullable = false) (name : String) :
    FieldsMeet (vec name c) [(name,none,.array schema)] [] :=
  FieldsMeet.default (fun _ => rfl) (meets.list never) rfl fun _ none => by cases none

theorem vec_writes {c : Codec Json α} {schema : Schema} {P : α → Prop} (writes : Writes c schema P) (name : String) :
    FieldsWrite (vec name c) [(name,none,.array schema)] [] fun xs => ∀ x ∈ xs, P x :=
  .skipped writes.list name

theorem setup_meets : Meets setup setupSchema :=
  FieldsMeet.record (.as (.and (vec_meets (text_meets false .any) rfl "permissions") (.optional (text_meets true .any) "notes"))
    setupParts) (by decide) false

theorem rotation_meets : Meets rotation rotationSchema :=
  FieldsMeet.record (.as (.and (.optional (text_meets true .duration) "maxAge") <|
    .and (.optional (text_meets true .duration) "warnBefore") (.optional (text_meets true .duration) "criticalBefore"))
    rotationParts) (by decide) false

theorem openBao_meets : Meets openBaoTarget openBaoSchema :=
  FieldsMeet.record (.as (.and (.required (text_meets false (.minLength 1)) rfl "mount") <|
    .and (.required (text_meets false (.minLength 1)) rfl "path") (.required (text_meets false (.minLength 1)) rfl "key"))
    openBaoParts) (by decide) true

theorem target_meets : Meets targetSpec targetSchema :=
  FieldsMeet.record (.as (.optional openBao_meets "openbao") targetParts) (by decide) false

theorem provider_meets : Meets provider (.text false (.oneOf ["github","cloudflare","generic"])) := by
  apply enumeration_meets
  intro s member
  simp only [List.mem_cons,List.not_mem_nil,or_false] at member
  rcases member with rfl | rfl | rfl
  · exact ⟨.github,rfl⟩
  · exact ⟨.cloudflare,rfl⟩
  · exact ⟨.generic,rfl⟩

theorem spec_meets : Meets spec specSchema :=
  FieldsMeet.record (.as (.and (.optional (text_meets true .any) "displayName") <|
    .and (.default (fun _ => rfl) provider_meets rfl fun j same => by cases same; rfl) <|
    .and (.optional (text_meets true .any) "owner") <| .and (.optional (text_meets true .any) "renewUrl") <|
    .and (.default (fun _ => rfl) setup_meets rfl fun j same => by cases same; rfl) <|
    .and (.default (fun _ => rfl) rotation_meets rfl fun j same => by cases same; rfl) <|
    .and (vec_meets target_meets rfl "targets") (vec_meets (text_meets false .any) rfl "consumers")) specParts) (by decide) false

theorem actor_meets (nullable : Bool) : Meets actor (actorSchema nullable) :=
  FieldsMeet.record (.as (.and (.required (text_meets false .any) rfl "sub")
    (.default (fun _ => rfl) (text_meets false .any) rfl fun _ none => by cases none)) actorParts) (by decide) nullable

theorem actor_writes (nullable : Bool) : Writes actor (actorSchema nullable) fun _ => True :=
  (FieldsWrite.record (.as (.and (.mandatory (text_writes false) "sub") (.skipped (text_writes false) "name")) actorParts)
    nullable).mono fun _ _ => ⟨trivial,trivial⟩

theorem source_meets : Meets expirySource (.text true (.oneOf ["probe","manual","none"])) := by
  apply enumeration_meets
  intro s member
  simp only [List.mem_cons,List.not_mem_nil,or_false] at member
  rcases member with rfl | rfl | rfl
  · exact ⟨.probe,rfl⟩
  · exact ⟨.manual,rfl⟩
  · exact ⟨.none,rfl⟩

theorem source_writes : Writes expirySource (.text true (.oneOf ["probe","manual","none"])) fun _ => True := by
  apply enumeration_writes
  intro x
  cases x <;> simp [sourceText]

theorem result_meets : Meets targetResult (.text false (.oneOf ["ok","failed"])) := by
  apply enumeration_meets
  intro s member
  rcases List.mem_pair.mp member with rfl | rfl
  · exact ⟨.ok,rfl⟩
  · exact ⟨.failed,rfl⟩

theorem result_writes : Writes targetResult (.text false (.oneOf ["ok","failed"])) fun _ => True := by
  apply enumeration_writes
  intro x
  cases x <;> simp [resultText]

theorem kind_meets : Meets historyKind (.text false (.oneOf ["rotated","recorded"])) := by
  apply enumeration_meets
  intro s member
  rcases List.mem_pair.mp member with rfl | rfl
  · exact ⟨.rotated,rfl⟩
  · exact ⟨.recorded,rfl⟩

theorem kind_writes : Writes historyKind (.text false (.oneOf ["rotated","recorded"])) fun _ => True := by
  apply enumeration_writes
  intro x
  cases x <;> simp [kindText]

section Reading
variable [KubeTypes] (times : Meets KubeTypes.time theTime)
include times

theorem probe_meets : Meets probeStatus probeSchema :=
  FieldsMeet.record (.as (.and (.required times rfl "at") <|
    .and (.optional (text_meets true .any) "identity") (.optional (Meets.nullable times) "expiresAt")) probeParts) (by decide) true

theorem targetStatus_meets : Meets targetStatus targetStatusSchema :=
  FieldsMeet.record (.as (.and (.required (text_meets false .any) rfl "ref") <|
    .and (.optional (Meets.nullable times) "lastWritten") <| .and (.required result_meets rfl "result")
    (.optional (text_meets true .any) "message")) targetStatusParts) (by decide) false

theorem entry_meets : Meets historyEntry entrySchema :=
  FieldsMeet.record (.as (.and (.required times rfl "at") <|
    .and (.required (actor_meets false) rfl "by") <| .and (.required kind_meets rfl "kind")
    (.optional (Meets.nullable times) "expiresAt")) entryParts) (by decide) false

theorem status_meets (conditions : Meets KubeTypes.condition conditionSchema) : Meets status statusSchema :=
  FieldsMeet.record (.as (.and (.optional (Meets.nullable times) "lastRotated") <|
    .and (.optional (actor_meets true) "rotatedBy") <| .and (.optional (Meets.nullable times) "expiresAt") <|
    .and (.optional source_meets "expiresAtSource") <| .and (.optional (Meets.nullable times) "manualExpiresAt") <|
    .and (.optional (probe_meets times) "probe") <| .and (vec_meets (targetStatus_meets times) rfl "targets") <|
    .and (vec_meets (entry_meets times) rfl "history") <| .and (vec_meets conditions rfl "conditions")
    (.optional (int64_meets true) "observedGeneration")) statusParts) (by decide) true

end Reading

section Writing
variable [KubeTypes] {P : Timestamp → Prop} (times : Writes KubeTypes.time theTime P)
include times

theorem probe_writes : Writes probeStatus probeSchema fun p => P p.atTime ∧ ∀ t ∈ p.expiresAt, P t :=
  (FieldsWrite.record (.as (.and (.mandatory times "at") <|
    .and (.optional (text_writes true) "identity") (.optional (Writes.nullable times) "expiresAt")) probeParts) true).mono
    fun _ dated => ⟨dated.1,fun _ _ => trivial,dated.2⟩

theorem targetStatus_writes : Writes targetStatus targetStatusSchema fun s => ∀ t ∈ s.lastWritten, P t :=
  (FieldsWrite.record (.as (.and (.mandatory (text_writes false) "ref") <|
    .and (.optional (Writes.nullable times) "lastWritten") <| .and (.mandatory result_writes "result")
    (.optional (text_writes true) "message")) targetStatusParts) false).mono
    fun _ dated => ⟨trivial,dated,trivial,fun _ _ => trivial⟩

theorem entry_writes : Writes historyEntry entrySchema fun e => P e.atTime ∧ ∀ t ∈ e.expiresAt, P t :=
  (FieldsWrite.record (.as (.and (.mandatory times "at") <|
    .and (.mandatory (actor_writes false) "by") <| .and (.mandatory kind_writes "kind")
    (.optional (Writes.nullable times) "expiresAt")) entryParts) false).mono
    fun _ dated => ⟨dated.1,trivial,trivial,dated.2⟩

theorem status_writes (conditions : Writes KubeTypes.condition conditionSchema fun c => P c.lastTransitionTime) :
    Writes status statusSchema fun s => ∀ t ∈ timesOf s, P t := by
  refine Writes.mono (FieldsWrite.record (.as (.and (.optional (Writes.nullable times) "lastRotated") <|
    .and (.optional (actor_writes true) "rotatedBy") <| .and (.optional (Writes.nullable times) "expiresAt") <|
    .and (.optional source_writes "expiresAtSource") <| .and (.optional (Writes.nullable times) "manualExpiresAt") <|
    .and (.optional (probe_writes times) "probe") <| .and (vec_writes (targetStatus_writes times) "targets") <|
    .and (vec_writes (entry_writes times) "history") <| .and (vec_writes conditions "conditions")
    (.optional (int64_writes true) "observedGeneration")) statusParts) true) ?_
  intro s dated
  simp only [timesOf,List.forall_mem_append,List.mem_flatMap,List.forall_mem_map,Option.mem_toList] at dated
  obtain ⟨⟨⟨⟨⟨⟨rotated,expires⟩,manual⟩,probed⟩,written⟩,entered⟩,judged⟩ := dated
  refine ⟨rotated,fun _ _ => trivial,expires,fun _ _ => trivial,manual,?_,?_,?_,judged,fun _ _ => trivial⟩
  · intro p there
    exact ⟨probed _ ⟨p,there,List.mem_cons_self⟩,
      fun t later => probed t ⟨p,there,List.mem_cons_of_mem _ (Option.mem_toList.mpr later)⟩⟩
  · intro target member t there
    exact written t ⟨target,member,there⟩
  · intro e member
    exact ⟨entered _ ⟨e,member,List.mem_cons_self⟩,
      fun t later => entered t ⟨e,member,List.mem_cons_of_mem _ (Option.mem_toList.mpr later)⟩⟩

end Writing

end Agreement

section Readable
variable [KubeTypes]

theorem readTimes_meet : @Meets readTimes _ KubeTypes.time theTime := by
  let _ := readTimes
  refine ⟨?_,?_⟩
  · intro j conform filled
    obtain ⟨s,rfl,allowed⟩ := conforms_text conform filled
    exact Option.isSome_iff_exists.mp allowed
  · intro j _ _
    rw [theTime,store]

variable [dates : DateTimes] [AdmittedTypes]

theorem readTimes_write : @Writes readTimes _ KubeTypes.time theTime Dated := by
  intro t fits dated
  obtain ⟨s,same,_⟩ := conforms_text (AdmittedTypes.time_writes t fits dated) (KubeTypes.time.filled t)
  have read := KubeTypes.time.reads fits
  rw [same] at read ⊢
  exact Option.isSome_iff_exists.mpr ⟨_,read⟩

theorem readable_meets : @Meets readTimes _ status statusSchema :=
  @status_meets readTimes _ readTimes_meet (@AdmittedTypes.condition_meets _ dates _ readTimes readTimes_meet)

theorem readable_admits (conform : readable statusSchema j = true) (filled : isNull j = false) :
    ∃ s, status.read j = some s :=
  (@Meets.admits readTimes _ _ _ readable_meets j conform filled)

theorem readable_stores (conform : readable statusSchema j = true) (filled : isNull j = false) :
    status.read (store statusSchema j) = status.read j :=
  (@Meets.stores readTimes _ _ _ readable_meets j conform filled)

theorem readable_writes (fits : status.fits s) (dated : ∀ t ∈ timesOf s, Dated t) :
    readable statusSchema (status.write s) = true := by
  apply @status_writes readTimes _ _ readTimes_write _ s fits dated
  intro c fit later
  exact @AdmittedTypes.condition_writes _ dates _ readTimes c fit (readTimes_write _ (KubeTypes.time_fits _) later)

theorem dated_writes (fits : status.fits s) (dated : ∀ t ∈ timesOf s, Dated t) :
    conforms statusSchema (status.write s) = true := by
  apply status_writes AdmittedTypes.time_writes _ s fits dated
  intro c fit later
  exact AdmittedTypes.condition_writes c fit (AdmittedTypes.time_writes _ (KubeTypes.time_fits _) later)

-- What the API server admits by the definition's schema is what the program reads: every
-- spec that conforms is read, and every status with times that k8s-openapi reads. Unknown
-- fields dropped and defaults filled in are not noticed. Every status that is written, with
-- times from the year 0 on, conforms.
theorem admitted_resources :
    (∀ j, conforms specSchema j = true → ∃ s, spec.read j = some s ∧ spec.read (store specSchema j) = some s) ∧
    (∀ j, readable statusSchema j = true → isNull j = false →
      ∃ s, status.read j = some s ∧ status.read (store statusSchema j) = some s) ∧
    ∀ s, status.fits s → (∀ t ∈ timesOf s, Dated t) → conforms statusSchema (status.write s) = true ∧
      status.read (store statusSchema (status.write s)) = some (keptStatus s) := by
  refine ⟨?_,?_,?_⟩
  · intro j conform
    have filled := conforms_filled rfl conform
    obtain ⟨s,read⟩ := spec_meets.admits conform filled
    exact ⟨s,read,by rw [spec_meets.stores conform filled,read]⟩
  · intro j conform filled
    obtain ⟨s,read⟩ := readable_admits conform filled
    exact ⟨s,read,by rw [readable_stores conform filled,read]⟩
  · intro s fits dated
    refine ⟨dated_writes fits dated,?_⟩
    rw [readable_stores (readable_writes fits dated) (status.filled s),status.reads fits,status_kept]

end Readable

@[reducible] def secondDates : DateTimes := ⟨fun s => (readSecond s).isSome⟩

theorem second_admitted : @AdmittedTypes secondTypes secondDates := by
  let _ := secondTypes
  let _ := secondDates
  refine ⟨?_,?_,?_⟩
  · intro t _ _
    change conforms theTime (.string (secondText (floorSecond t))) = true
    rw [theTime,conforms]
    exact Option.isSome_iff_exists.mpr ⟨_,readSecond_text t⟩
  · intro _ times
    exact FieldsMeet.record (.as (.and (.required times rfl "lastTransitionTime") <|
      .and (.required (text_meets false .any) rfl "message") <| .and (.optional (int64_meets false) "observedGeneration") <|
      .and (.required (text_meets false .any) rfl "reason") <| .and (.required (text_meets false .any) rfl "status")
      (.required (text_meets false .any) rfl "type")) conditionParts) (by decide) false
  · intro _
    have times : Writes secondTime theTime fun t => conforms theTime (secondTime.write t) = true := fun _ _ given => given
    refine Writes.mono (FieldsWrite.record (.as (.and (.mandatory times "lastTransitionTime") <|
      .and (.mandatory (text_writes false) "message") <| .and (.optional (int64_writes false) "observedGeneration") <|
      .and (.mandatory (text_writes false) "reason") <| .and (.mandatory (text_writes false) "status")
      (.mandatory (text_writes false) "type")) conditionParts) false) ?_
    intro c given
    exact ⟨given,trivial,fun _ _ => trivial,trivial,trivial,trivial⟩

-- The example of the tests, and with a field that nobody knows.
def exampleSpec : Json :=
  .object [("provider",.string "github"),("renewUrl",.string "https://github.com/settings/personal-access-tokens"),
    ("setup",.object [("permissions",.array [.string "contents: read"])]),("rotation",.object [("maxAge",.string "90d")]),
    ("unknown",.bool true),
    ("targets",.array [.object [("openbao",.object [("mount",.string "secret"),("path",.string "ci/renovate"),("key",.string "token")])]])]

def exampleStatus : Json :=
  .object [("lastRotated",.string "1970-01-01T00:00:00Z"),("phase",.null),
    ("targets",.array [.object [("ref",.string "openbao/secret/ci/renovate#token"),("result",.string "ok")]])]

def judgedStatus : ApiKeyStatus where
  lastRotated := nanoLate.lastRotated
  conditions := [⟨"Valid","True","Valid","",some 1,.epoch⟩]

theorem example_admitted : let _ := secondTypes; let _ := secondDates
    (∃ s : ApiKeySpec, spec.read exampleSpec = some s ∧ spec.read (store specSchema exampleSpec) = some s ∧
      s.targets.map TargetSpec.reference = ["openbao/secret/ci/renovate#token"]) ∧
    (∃ s : ApiKeyStatus, status.read exampleStatus = some s ∧ status.read (store statusSchema exampleStatus) = some s ∧
      s.lastRotated = some .epoch ∧ s.targets.map TargetStatus.result = [.ok]) ∧
    conforms statusSchema (status.write judgedStatus) = true ∧
    (status.read (store statusSchema (status.write judgedStatus))).map ApiKeyStatus.lastRotated = some (some .epoch) := by
  let _ := secondTypes
  let _ := secondDates
  let _ := second_admitted
  obtain ⟨specs,statuses,written⟩ := admitted_resources
  refine ⟨?_,?_,?_⟩
  · obtain ⟨s,read,stored⟩ := specs exampleSpec (by decide +kernel)
    have targets : (spec.read exampleSpec).map (fun s => s.targets.map TargetSpec.reference) =
      some ["openbao/secret/ci/renovate#token"] := by decide +kernel
    rw [read] at targets
    exact ⟨s,read,stored,Option.some.inj targets⟩
  · obtain ⟨s,read,stored⟩ := statuses exampleStatus (by decide +kernel) rfl
    have parts : (status.read exampleStatus).map (fun s => (s.lastRotated,s.targets.map TargetStatus.result)) =
      some (some .epoch,[.ok]) := by decide +kernel
    rw [read] at parts
    obtain ⟨rotated,results⟩ := Prod.mk.inj (Option.some.inj parts)
    exact ⟨s,read,stored,rotated,results⟩
  · have fits : status.fits judgedStatus := by
      refine status_fits.mpr ⟨?_,fun _ none => by cases none⟩
      intro c member
      cases List.mem_singleton.mp member
      exact secondTypes.condition_fits _ fun n same => by cases same; decide
    have dated : ∀ t ∈ timesOf judgedStatus, Dated t := by
      intro t member
      rcases List.mem_pair.mp member with rfl | rfl
      · unfold Dated; decide
      · unfold Dated; decide
    obtain ⟨conform,stored⟩ := written judgedStatus fits dated
    refine ⟨conform,?_⟩
    rw [stored]
    rfl

end YouSpinMe.CrdSchema
