import YouSpinMe.Tally
import YouSpinMe.RouterParts
import YouSpinMe.Metrics
import YouSpinMe.Admission
import YouSpinMe.RotationRaces
import Mathlib.Data.Nat.ModEq

namespace YouSpinMe.Counters
open RequestProgram SharedRun Tally Effects Validation Rotation RouterWalk RouterParts Identity Http Auth Web PromQl Metrics Text Jiff Crd

structure ResultLabels where
  result : String
  deriving DecidableEq

structure ProbeLabels where
  provider : String
  result : String
  deriving DecidableEq

def ResultLabels.encode (labels : ResultLabels) : Labels := [("result",labels.result)]
def ProbeLabels.encode (labels : ProbeLabels) : Labels := [("provider",labels.provider),("result",labels.result)]

-- A counter is created when it is first asked for. It has 64 bits, and it wraps.
def inc {L : Type} [DecidableEq L] (labels : L) : List (L × Nat) → List (L × Nat)
  | [] => [(labels,1)]
  | (other,n) :: rest => if other = labels then (other,(n + 1) % 2^64) :: rest else (other,n) :: inc labels rest

structure Metrics where
  rotations : List (ResultLabels × Nat)
  probes : List (ProbeLabels × Nat)
  deriving DecidableEq

def Metrics.new : Metrics := ⟨[],[]⟩

def Metrics.rotation (metrics : Metrics) (result : String) : Metrics :=
  {metrics with rotations := inc ⟨result⟩ metrics.rotations}

def Metrics.probe (metrics : Metrics) (provider result : String) : Metrics :=
  {metrics with probes := inc ⟨provider,result⟩ metrics.probes}

-- The encoder adds `_total` to the name of a counter, and the registry a full stop to
-- its help.
def counterFamily {L : Type} (name help : String) (encode : L → Labels) (counters : List (L × Nat)) : Family :=
  ⟨name ++ "_total",help ++ ".",counters.map fun counter => (encode counter.1,(counter.2 : ℚ))⟩

def Metrics.encode (metrics : Metrics) (collector : KeyCollector) : List Family :=
  [counterFamily "youspinme_rotations" "Key submissions by result (ok, partial, failed, rejected)" ResultLabels.encode
      metrics.rotations,
    counterFamily "youspinme_probe_requests" "Provider probe requests by provider and result" ProbeLabels.encode
      metrics.probes] ++ collector.encode

-- The process counts what its requests ask it to count, whatever else they meet.
def Metrics.after (metrics : Metrics) : Effect → Metrics
  | .countRotation result => metrics.rotation result
  | .countProbe provider result => metrics.probe provider result
  | _ => metrics

def Counted (server : Server σ Answer) : Server (σ × Metrics) Answer :=
  fun s op answer after => server s.1 op answer after.1 ∧ after.2 = s.2.after op

-- What the audit trail tells of a submission, and where it is counted.
inductive Notice where
  | rotated
  | failed
  | recorded
  | rejected
  deriving DecidableEq

def Notice.reason : Notice → String
  | .rotated => "Rotated"
  | .failed => "RotationFailed"
  | .recorded => "Recorded"
  | .rejected => "RotationRejected"

def Notice.metric : Notice → String
  | .rejected => "youspinme_probe_requests_total"
  | _ => "youspinme_rotations_total"

def Notice.results : Notice → List String
  | .rotated => ["ok"]
  | .failed => ["partial","failed"]
  | .recorded => ["recorded"]
  | .rejected => ["rejected","error"]

def Notice.tells (n : Notice) : Effect → Bool
  | .recordEvent _ event => event.reason = n.reason
  | _ => false

def Notice.counts : Notice → Effect → Bool
  | .rejected,.countProbe _ result => Notice.rejected.results.contains result
  | .rejected,_ => false
  | n,.countRotation result => n.results.contains result
  | _,_ => false

-- A refused probe is counted before it is told of, all else after it.
def Notice.first : Notice → Effect → Bool
  | .rejected => Notice.rejected.counts
  | n => n.tells

def Notice.second : Notice → Effect → Bool
  | .rejected => Notice.rejected.tells
  | n => n.counts

theorem later_counted {n : Notice} (submitted : n ≠ .rejected) : n.first = n.tells ∧ n.second = n.counts := by
  cases n with
  | rejected => exact absurd rfl submitted
  | rotated | failed | recorded => exact ⟨rfl,rfl⟩

section Pairing
variable (n : Notice)

def Neutral (op : Effect) : Prop := n.first op = false ∧ n.second op = false

theorem silent_neutral (silent : Silent op) : Neutral n op := by
  cases op with
  | updateStatus | recordEvent | probe | write | countRotation | countProbe => cases silent
  | _ => cases n <;> exact ⟨rfl,rfl⟩

theorem now_neutral : Neutral n .now := silent_neutral n trivial

theorem get_neutral (name : String) : Neutral n (.get name) := silent_neutral n trivial

theorem update_neutral (name : String) (mutate : ApiKeyStatus → ApiKeyStatus) : Neutral n (.updateStatus name mutate) := by
  cases n <;> exact ⟨rfl,rfl⟩

theorem write_neutral (target : TargetSpec) (value : String) : Neutral n (.write target value) := by
  cases n <;> exact ⟨rfl,rfl⟩

theorem probe_neutral (provider : Provider) (value : String) : Neutral n (.probe provider value) := by
  cases n <;> exact ⟨rfl,rfl⟩

variable {n}

theorem pairs_neutral {finish : α → Nat} {op : Effect} {next : Answer op → App α} (few : start ≤ 1) (neutral : Neutral n op)
    (rest : ∀ answer, Pairs n.first n.second start finish (next answer)) :
    Pairs n.first n.second start finish (.request op next) :=
  pairs_untouched few neutral.1 neutral.2 rest

variable (n)

theorem pairs_compositional : Compositional fun program => Pairs n.first n.second 0 (fun _ => 0) program := by
  refine ⟨?_,fun before after => pairs_bind before after⟩
  intro α program silent
  exact Asks.pairs (Nat.zero_le _) (silent.mono fun _ quiet => silent_neutral n quiet)

theorem record_pairs [Format] : Pairs n.first n.second 0 (fun result => if n = .recorded ∧ result.isOk = true then 1 else 0)
    (Rotation.record name actor rotatedAt expiresAt now) := by
  unfold Rotation.record
  have refused : ∀ e : RecordError, Pairs n.first n.second 0
      (fun result : Except RecordError ApiKey => if n = .recorded ∧ result.isOk = true then 1 else 0)
      (pure (.error e) : App (Except RecordError ApiKey)) :=
    fun e => pairs_done (if_neg fun both => by cases both.2)
  split
  · exact refused _
  · split
    · exact refused _
    · apply pairs_neutral (Nat.zero_le _) (update_neutral ..)
      intro answer
      cases answer with
      | error e => exact refused _
      | ok updated =>
        cases n with
        | recorded => exact pairs_opened rfl rfl fun _ => pairs_done rfl
        | rotated | failed | rejected => exact pairs_untouched (Nat.zero_le _) rfl rfl fun _ => pairs_done rfl

theorem saveRecord_pairs [CharTables] [Format] : Pairs n.first n.second 0 (fun _ => 0) (Pages.saveRecord session name rotatedAt expiresAt now) := by
  apply pairs_bind (record_pairs n)
  intro result
  cases result with
  | error e => exact pairs_done (if_neg fun both => by cases both.2).symm
  | ok key =>
    cases n with
    | recorded => exact pairs_settled rfl rfl fun _ => pairs_done rfl
    | rotated | failed | rejected => exact pairs_untouched (Nat.zero_le _) rfl rfl fun _ => pairs_done rfl

theorem checkKey_pairs : Pairs n.first n.second 0 (fun _ => 0) (checkKey key req) := by
  unfold checkKey
  split
  · exact pairs_done rfl
  · split
    · exact pairs_done rfl
    · apply pairs_neutral (Nat.zero_le _) (probe_neutral ..)
      intro answer
      rcases answer with e | result | result
      · cases n with
        | rejected =>
          apply pairs_opened (by cases e <;> rfl) rfl
          intro _
          exact pairs_settled rfl rfl fun _ => pairs_done rfl
        | rotated | failed | recorded =>
          apply pairs_untouched (Nat.zero_le _) rfl rfl
          intro _
          exact pairs_untouched (Nat.zero_le _) rfl rfl fun _ => pairs_done rfl
      · exact pairs_done rfl
      · apply pairs_neutral (Nat.zero_le _) (by cases n <;> exact ⟨rfl,rfl⟩)
        intro _
        exact pairs_done rfl

theorem writeTargets_pairs : Pairs n.first n.second 0 (fun _ => 0) (writeTargets value targets) := by
  induction targets with
  | nil => exact pairs_done rfl
  | cons target targets ih =>
    rw [writeTargets,bind_ask]
    apply pairs_neutral (Nat.zero_le _) (write_neutral ..)
    intro answer
    exact pairs_bind ih fun outcomes => pairs_done rfl

-- What a rotation still has to count when it comes to its end.
def uncounted (result : Except RotateError RotateOutcome) : Nat := (n.second (.countRotation (label result))).toNat

theorem uncounted_error (e : RotateError) : uncounted n (.error e) = 0 := by
  cases n <;> rfl

theorem submitEvent_pairs (key : ApiKey) (actor : Actor) {outcome : RotateOutcome}
    (completed : outcome.completed = allWritten outcome.targets) :
    (n.first (.recordEvent key (submitEvent actor outcome.targets))).toNat =
      uncounted n (.ok outcome) + (n.second (.recordEvent key (submitEvent actor outcome.targets))).toNat := by
  simp only [uncounted,label,submitEvent,completed]
  cases allWritten outcome.targets with
  | true => cases n <;> rfl
  | false =>
    cases (outcome.targets.all fun t => t.error.isSome) with
    | true => cases n <;> rfl
    | false => cases n <;> rfl

theorem submit_pairs : Pairs n.first n.second 0 (uncounted n) (submit name key req probe) := by
  apply pairs_bind (writeTargets_pairs n)
  intro outcomes
  rw [bind_ask]
  apply pairs_neutral (Nat.zero_le _) (now_neutral n)
  intro now
  simp only [bind_ask]
  apply pairs_neutral (Nat.zero_le _) (update_neutral ..)
  intro answer
  cases answer with
  | error e => exact pairs_done (uncounted_error n _)
  | ok updated =>
    let outcome : RotateOutcome := ⟨probe,outcomes,allWritten outcomes,
      expiryMismatch ((probeStatus now probe).bind ProbeStatus.expiresAt) req.manualExpiresAt⟩
    have told := submitEvent_pairs n updated.key req.actor (show outcome.completed = allWritten outcome.targets from rfl)
    exact pairs_request (Nat.zero_le _) ((Nat.zero_add _).trans told) fun _ => pairs_done rfl

theorem rotate_pairs [UrlCrate] : Pairs n.first n.second 0 (fun _ => 0) (Rotation.rotate allowed name req) := by
  have counted : ∀ result, n.first (.countRotation (label result)) = false := by
    intro result
    cases n <;> rfl
  have inner : Pairs n.first n.second 0 (uncounted n) (rotateInner allowed name req) := by
    rw [rotateInner,bind_ask]
    apply pairs_neutral (Nat.zero_le _) (get_neutral n name)
    intro found
    cases gate allowed name req found with
    | error e => exact pairs_done (uncounted_error n _)
    | ok key =>
      apply pairs_bind (checkKey_pairs n)
      intro checked
      cases checked with
      | error e => exact pairs_done (uncounted_error n _)
      | ok probe => exact submit_pairs n
  apply pairs_bind inner
  intro result
  apply pairs_request (Bool.toNat_le _)
  · rw [counted,Nat.zero_add]
    rfl
  · intro _
    exact pairs_done rfl

theorem router_pairs [Crates] [UrlCrate] [Format] {state : AppState} {request : Request} :
    Pairs n.first n.second 0 (fun _ => 0) (router state request) :=
  (pairs_compositional n).router (fun _ _ _ _ _ => saveRecord_pairs n) fun _ _ => rotate_pairs n

end Pairing

section Exposition
variable {L : Type} [DecidableEq L]

def summed (keep : L → Bool) (counters : List (L × Nat)) : Nat := ((counters.filter fun counter => keep counter.1).map Prod.snd).sum

omit [DecidableEq L] in
theorem summed_cons (keep : L → Bool) (labels : L) (value : Nat) (counters : List (L × Nat)) :
    summed keep ((labels,value) :: counters) = (if keep labels then value else 0) + summed keep counters := by
  cases kept : keep labels with
  | false => simp [summed,kept]
  | true => simp [summed,kept]

theorem summed_inc (keep : L → Bool) (labels : L) (counters : List (L × Nat)) :
    summed keep (inc labels counters) ≡ summed keep counters + (keep labels).toNat [MOD 2^64] := by
  induction counters with
  | nil =>
    cases kept : keep labels <;> simp [inc,summed,kept] <;> rfl
  | cons counter counters ih =>
    obtain ⟨other,value⟩ := counter
    unfold inc
    split
    · rename_i same
      subst other
      rw [summed_cons,summed_cons]
      cases keep labels with
      | false => exact Nat.ModEq.refl _
      | true =>
        have wraps : (value + 1) % 2^64 ≡ value + 1 [MOD 2^64] := Nat.mod_modEq _ _
        have moved := wraps.add_right (summed keep counters)
        rw [Nat.add_right_comm] at moved
        exact moved
    · rw [summed_cons,summed_cons,Nat.add_assoc]
      exact ih.add_left _

-- The sum of the series of a name that a selector keeps.
def sumOf (families : List Family) (name : String) (keep : Labels → Bool) : ℚ :=
  (((select (exported families) name).filter fun sample => keep sample.1).map Prod.snd).sum

omit [DecidableEq L] in
theorem counterFamily_sum (name help : String) (encode : L → Labels) (counters : List (L × Nat)) (keep : Labels → Bool) :
    ((((counterFamily name help encode counters).samples.filter fun sample => keep sample.1).map Prod.snd).sum : ℚ) =
      summed (fun labels => keep (encode labels)) counters := by
  induction counters with
  | nil => rfl
  | cons counter counters ih =>
    rw [summed_cons,Nat.cast_add,← ih]
    cases kept : keep (encode counter.1) with
    | false => simp [counterFamily,kept]
    | true => simp [counterFamily,kept]

end Exposition

def Notice.keeps (n : Notice) (labels : Labels) : Bool := (labels.lookup "result").any fun result => n.results.contains result

theorem result_keeps (n : Notice) (labels : ResultLabels) : n.keeps labels.encode = n.results.contains labels.result := by
  simp [Notice.keeps,ResultLabels.encode]

theorem probe_keeps (n : Notice) (labels : ProbeLabels) : n.keeps labels.encode = n.results.contains labels.result := by
  have apart : ("result" == "provider") = false := by decide
  simp [Notice.keeps,ProbeLabels.encode,List.lookup_cons,apart]

def Notice.shown (n : Notice) (metrics : Metrics) : Nat :=
  match n with
  | .rejected => summed (fun labels => n.keeps labels.encode) metrics.probes
  | _ => summed (fun labels => n.keeps labels.encode) metrics.rotations

theorem encode_distinct (metrics : Metrics) (collector : KeyCollector) : ((metrics.encode collector).map Family.name).Nodup := by
  have names : (metrics.encode collector).map Family.name =
      ["youspinme_rotations_total","youspinme_probe_requests_total"] ++ collector.encode.map Family.name := rfl
  rw [names]
  refine List.nodup_append.mpr ⟨by decide,encode_names collector,?_⟩
  intro name counter other gauge same
  subst other
  have listed : name ∈ ["youspinme_apikey_info","youspinme_apikey_expiry_timestamp_seconds",
    "youspinme_apikey_rotate_by_timestamp_seconds","youspinme_apikey_deadline_timestamp_seconds",
    "youspinme_apikey_last_rotated_timestamp_seconds","youspinme_apikey_warn_before_seconds",
    "youspinme_apikey_critical_before_seconds","youspinme_apikey_state_known","youspinme_apikey_target_healthy"] := gauge
  rcases List.mem_pair.mp counter with rfl | rfl
  · revert listed; decide
  · revert listed; decide

-- What a scrape shows for a notice, whatever keys are listed beside it.
theorem shown_scraped (n : Notice) (metrics : Metrics) (collector : KeyCollector) :
    sumOf (metrics.encode collector) n.metric n.keeps = n.shown metrics := by
  have distinct := encode_distinct metrics collector
  cases n with
  | rejected =>
    unfold sumOf
    rw [show Notice.rejected.metric = (counterFamily "youspinme_probe_requests" "Provider probe requests by provider and result"
      ProbeLabels.encode metrics.probes).name from rfl,select_family distinct (by simp [Metrics.encode])]
    exact counterFamily_sum ..
  | rotated | failed | recorded =>
    unfold sumOf
    rw [show Notice.metric _ = (counterFamily "youspinme_rotations" "Key submissions by result (ok, partial, failed, rejected)"
      ResultLabels.encode metrics.rotations).name from rfl,select_family distinct (by simp [Metrics.encode])]
    exact counterFamily_sum ..

theorem rotations_moved (n : Notice) (result : String) (metrics : Metrics) :
    summed (fun labels => n.keeps labels.encode) (metrics.rotation result).rotations ≡
      summed (fun labels => n.keeps labels.encode) metrics.rotations + (n.results.contains result).toNat [MOD 2^64] := by
  have moved := summed_inc (fun labels : ResultLabels => n.keeps labels.encode) ⟨result⟩ metrics.rotations
  rw [result_keeps] at moved
  exact moved

theorem probes_moved (n : Notice) (provider result : String) (metrics : Metrics) :
    summed (fun labels => n.keeps labels.encode) (metrics.probe provider result).probes ≡
      summed (fun labels => n.keeps labels.encode) metrics.probes + (n.results.contains result).toNat [MOD 2^64] := by
  have moved := summed_inc (fun labels : ProbeLabels => n.keeps labels.encode) ⟨provider,result⟩ metrics.probes
  rw [probe_keeps] at moved
  exact moved

-- One request moves what is shown by what it counts.
theorem shown_after (n : Notice) (metrics : Metrics) (op : Effect) :
    n.shown (metrics.after op) ≡ n.shown metrics + (n.counts op).toNat [MOD 2^64] := by
  cases op with
  | countRotation result =>
    cases n with
    | rejected => exact Nat.ModEq.refl _
    | rotated | failed | recorded => exact rotations_moved _ result metrics
  | countProbe provider result =>
    cases n with
    | rejected => exact probes_moved _ provider result metrics
    | rotated | failed | recorded => exact Nat.ModEq.refl _
  | _ => cases n <;> exact Nat.ModEq.refl _

theorem shown_tallied {server : Server σ Answer} (n : Notice) {trace : Trace} {s after : σ × Metrics}
    (path : Serves (Counted server) s trace after) : n.shown after.2 ≡ n.shown s.2 + tally n.counts trace [MOD 2^64] := by
  induction path with
  | nil => exact Nat.ModEq.refl _
  | @cons before op _ _ _ _ served _ ih =>
    have step := shown_after n before.2 op
    rw [← served.2] at step
    rw [tally_cons,← Nat.add_assoc]
    exact ih.trans (step.add_right _)

section Run
variable [UrlCrate] [Format] [Crates] {ι : Type} [DecidableEq ι] {state : AppState} {requests : ι → Request} {server : Server σ Answer}

-- At any moment of any interleaving, a scrape shows of every kind of submission what the
-- audit trail was told of, up to one for each request that is still under way.
theorem counters_told {log : List (ι × Event Answer)} {remainder : ι → App Response} {after : σ × Metrics}
    (path : Runs (Counted server) (fun i => router state (requests i)) (s,Metrics.new) log remainder after)
    (collector : KeyCollector) (n : Notice) :
    ∃ shown owed : Nat, sumOf (after.2.encode collector) n.metric n.keeps = shown ∧ owed ≤ inFlight log remainder ∧
      (n ≠ .rejected → tally n.tells (events log) ≡ shown + owed [MOD 2^64]) ∧
      (n = .rejected → shown ≡ tally n.tells (events log) + owed [MOD 2^64]) := by
  obtain ⟨owed,few,owes⟩ := owed_in_flight path fun i => router_pairs n
  have counted : n.shown after.2 ≡ tally n.counts (events log) [MOD 2^64] := by
    have tallied := shown_tallied n path.serves
    have none : n.shown Metrics.new = 0 := by cases n <;> rfl
    rw [none,Nat.zero_add] at tallied
    exact tallied
  refine ⟨n.shown after.2,owed,shown_scraped n after.2 collector,few,?_,?_⟩
  · intro submitted
    obtain ⟨tells,counts⟩ := later_counted submitted
    rw [Owes,tells,counts] at owes
    rw [owes]
    exact (counted.add_right owed).symm
  · intro refused
    subst n
    rw [show tally Notice.rejected.counts _ = _ from owes] at counted
    exact counted

end Run

-- Two submissions where everyone is an admin: one is over, the other told of but not
-- counted yet.
def openDoor : AppState := {Admission.visitState with auth := .insecureDev Admission.visitToken}

def countingRespond (s : RotationRaces.Site "pair" × Metrics) (op : Effect) :
    Option (Answer op × (RotationRaces.Site "pair" × Metrics)) :=
  (RotationRaces.respond s.1 op).map fun reply => (reply.1,(reply.2,s.2.after op))

theorem countingRespond_serves (s : RotationRaces.Site "pair" × Metrics) (op : Effect) (answer : Answer op)
    (after : RotationRaces.Site "pair" × Metrics) (found : countingRespond s op = some (answer,after)) :
    Counted (RotationRaces.Serve "pair") s op answer after := by
  obtain ⟨⟨reply,site⟩,answered,same⟩ := Option.map_eq_some_iff.mp found
  cases same
  exact ⟨RotationRaces.respond_serves _ _ _ _ answered,rfl⟩

def twoSubmissions : Bool → App Response :=
  let _ := Admission.visitCrates
  let _ := noUrls
  let _ := epochFormat
  fun _ => router openDoor (Admission.visits .submit)

def openDoorRun := schedule countingRespond (List.replicate 9 true ++ List.replicate 8 false) twoSubmissions
  (RotationRaces.pairSite,Metrics.new)

theorem openDoor_told : ∃ shown owed : Nat,
    sumOf (openDoorRun.2.2.2.encode ⟨.single RotationOutcome.pairKey.key,Scheduling.Thresholds.default⟩) "youspinme_rotations_total" Notice.rotated.keeps = shown ∧
      shown = 1 ∧ owed ≤ 1 ∧ 2 ≡ shown + owed [MOD 2^64] := by
  let _ := Admission.visitCrates
  let _ := noUrls
  let _ := epochFormat
  have path := schedule_runs countingRespond_serves (List.replicate 9 true ++ List.replicate 8 false)
    (fun _ : Bool => router openDoor (Admission.visits .submit)) (RotationRaces.pairSite,Metrics.new)
  rw [show schedule countingRespond _ (fun _ : Bool => router openDoor (Admission.visits .submit)) _ = openDoorRun from rfl] at path
  obtain ⟨shown,owed,scraped,few,told,_⟩ := counters_told path ⟨.single RotationOutcome.pairKey.key,Scheduling.Thresholds.default⟩ .rotated
  have twice : tally Notice.rotated.tells (events openDoorRun.1) = 2 := by decide +kernel
  have waiting : inFlight openDoorRun.1 openDoorRun.2.1 = 1 := by decide +kernel
  have once : openDoorRun.2.2.2.rotations = [(⟨"ok"⟩,1)] := by decide +kernel
  have both := told (by decide)
  rw [twice] at both
  rw [waiting] at few
  refine ⟨shown,owed,scraped,?_,few,both⟩
  have value : sumOf (openDoorRun.2.2.2.encode ⟨.single RotationOutcome.pairKey.key,Scheduling.Thresholds.default⟩) "youspinme_rotations_total"
      Notice.rotated.keeps = Notice.rotated.shown openDoorRun.2.2.2 := shown_scraped .rotated _ _
  have one : Notice.rotated.shown openDoorRun.2.2.2 = 1 := by
    change summed (fun labels => Notice.rotated.keeps labels.encode) openDoorRun.2.2.2.rotations = 1
    rw [once]
    decide
  rw [one] at value
  exact Nat.cast_injective (scraped.symm.trans value)

end YouSpinMe.Counters
