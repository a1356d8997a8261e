import YouSpinMe.RotationOutcome
import YouSpinMe.Kube

namespace YouSpinMe.RotationHistory
open RequestProgram SharedRun Effects Validation Rotation RotationTraces RotationOutcome Text Jiff Crd Kube

-- The entry a mutation makes in an empty history is the rotation it applies.
def entered (mutate : ApiKeyStatus → ApiKeyStatus) : List HistoryEntry := (mutate {}).history

theorem entered_record (actor : Actor) (rotatedAt : Timestamp) (expiresAt : Option Timestamp) :
    entered (recordMutation actor rotatedAt expiresAt) = [⟨rotatedAt,actor,.recorded,expiresAt⟩] := by
  cases expiresAt with
  | none | some => rfl

theorem entered_submit (references : List String) (outcomes : List TargetOutcome) (now : Timestamp)
    (req : RotateRequest) (probe : Option ProbeStatus) :
    entered (submitMutation references outcomes now req probe) =
      if allWritten outcomes then [⟨now,req.actor,.rotated,(expiryOf req.manualExpiresAt probe).1⟩] else [] := by
  unfold entered submitMutation
  split
  · rfl
  · rfl

-- The object of one name, and beside it every rotation applied to it so far,
-- the latest first.
structure Ledger where
  key : ApiKey
  applied : List HistoryEntry

def Ledger.status (ledger : Ledger) : ApiKeyStatus := ledger.key.status.getD {}

def Ledger.apply (ledger : Ledger) (mutate : ApiKeyStatus → ApiKeyStatus) : Ledger :=
  ⟨ledger.key.updateStatus mutate,entered mutate ++ ledger.applied⟩

@[simp] theorem Ledger.apply_status (ledger : Ledger) (mutate : ApiKeyStatus → ApiKeyStatus) :
    (ledger.apply mutate).status = mutate ledger.status := rfl

-- What the repository holds for the name moves with its status updates alone. An
-- update that was answered with an error may have been applied all the same.
inductive Repository (name : String) : Server Ledger Answer where
  | applied : Repository name ledger (.updateStatus name mutate) answer (ledger.apply mutate)
  | refused : Repository name ledger (.updateStatus name mutate) (.error e) ledger
  | other (elsewhere : ∀ mutate, op ≠ .updateStatus name mutate) : Repository name ledger op answer ledger

-- One request of some call on any name, one reconciliation or one edit. The
-- requests of different calls may come in any order, and calls may stop midway.
inductive Step [UrlCrate] [Format] (name : String) : Ledger → Ledger → Prop where
  | record (path : Steps (record other actor rotatedAt expiresAt now) trace remainder) (member : event ∈ trace)
      (served : Repository name before event.op event.answer after) : Step name before after
  | rotate (path : Steps (rotate allowed other req) trace remainder) (member : event ∈ trace)
      (served : Repository name before event.op event.answer after) : Step name before after
  | reconcile (found : reconcilePatch seen allowed now = some patch) :
      Step name before ⟨before.key.updateStatus patch.merge,before.applied⟩
  | edit (metadata : Metadata) (spec : ApiKeySpec) :
      Step name before ⟨⟨metadata,spec,before.key.status⟩,before.applied⟩

inductive Run [UrlCrate] [Format] (name : String) : Ledger → Ledger → Prop where
  | start : Run name ledger ledger
  | step (prior : Run name ledger before) (next : Step name before after) : Run name ledger after

-- What every status update of a call does to the rotation fields.
inductive Rotates (mutate : ApiKeyStatus → ApiKeyStatus) : Prop where
  | keeps (same : ∀ status, recordOf (mutate status) = recordOf status)
  | applies (probeless : kind = .recorded → probe = none)
      (set : ∀ status, recordOf (mutate status) = recordOf (applyRotation status atTime byActor kind manual probe))

theorem recordMutation_rotates (actor : Actor) (rotatedAt : Timestamp) (expiresAt : Option Timestamp) :
    Rotates (recordMutation actor rotatedAt expiresAt) :=
  .applies (fun _ => rfl) (fun _ => rfl)

theorem submitMutation_rotates (references : List String) (outcomes : List TargetOutcome) (now : Timestamp)
    (req : RotateRequest) (probe : Option ProbeStatus) :
    Rotates (submitMutation references outcomes now req probe) := by
  cases all : allWritten outcomes with
  | false =>
    refine .keeps fun status => ?_
    rw [recordOf_submitMutation,all]
    rfl
  | true =>
    have other : HistoryKind.rotated = .recorded → probe = none := by intro same; cases same
    apply Rotates.applies other
    intro status
    rw [recordOf_submitMutation,all,if_pos rfl]

def Sound : Effect → Prop
  | .updateStatus _ mutate => Rotates mutate
  | _ => True

theorem RecordRequests.sound (asked : RecordRequests name actor rotatedAt expiresAt op) : Sound op := by
  cases asked with
  | updateStatus => exact recordMutation_rotates ..
  | recordEvent => trivial

theorem RotateRequests.sound (asked : RotateRequests name req op) : Sound op := by
  cases asked with
  | updateStatus => exact submitMutation_rotates ..
  | now | get | probe | countProbe | recordEvent | write | countRotation => trivial

def blank : RotationRecord := ⟨none,none,none,none,none,none,[]⟩

structure Coherent (current : RotationRecord) (applied : List HistoryEntry) : Prop where
  history : current.history = applied.take HISTORY_LIMIT
  untouched : applied = [] → current = blank
  latest : ∀ entry rest, current.history = entry :: rest → current.lastRotated = some entry.atTime ∧
    current.rotatedBy = some entry.byActor ∧ current.expiresAt = entry.expiresAt
  expiry : applied ≠ [] → current.expiresAt = (expiryOf current.manualExpiresAt current.probe).1 ∧
    current.expiresAtSource = some (expiryOf current.manualExpiresAt current.probe).2
  recorded : ∀ entry rest, current.history = entry :: rest → entry.kind = .recorded → current.probe = none

theorem blank_coherent : Coherent blank [] := by
  refine ⟨rfl,fun _ => rfl,?_,fun filled => absurd rfl filled,?_⟩
  · intro entry rest found; cases found
  · intro entry rest found; cases found

theorem rotated_coherent (valid : Coherent current applied) (entry : HistoryEntry)
    (expires : entry.expiresAt = (expiryOf manual probe).1) (probeless : entry.kind = .recorded → probe = none) :
    Coherent (rotated current entry (expiryOf manual probe).2 manual probe) (entry :: applied) := by
  have first : (rotated current entry (expiryOf manual probe).2 manual probe).history =
      entry :: current.history.take (HISTORY_LIMIT - 1) := rfl
  refine ⟨?_,?_,?_,?_,?_⟩
  · rw [first,valid.history,List.take_take]
    rfl
  · intro empty; cases empty
  · intro latest rest found
    rw [first] at found
    obtain ⟨rfl,_⟩ := List.cons.inj found
    exact ⟨rfl,rfl,rfl⟩
  · intro _
    exact ⟨expires,rfl⟩
  · intro latest rest found manually
    rw [first] at found
    obtain ⟨rfl,_⟩ := List.cons.inj found
    exact probeless manually

theorem mutation_coherent (valid : Coherent (recordOf status) applied) (sound : Rotates mutate) :
    Coherent (recordOf (mutate status)) (entered mutate ++ applied) := by
  have fresh : (recordOf (mutate {})).history = entered mutate := rfl
  cases sound with
  | keeps same =>
    rw [same] at fresh
    rw [same,← fresh]
    exact valid
  | @applies kind probe atTime byActor manual probeless set =>
    rw [set] at fresh
    rw [set,← fresh,recordOf_applyRotation]
    exact rotated_coherent valid _ rfl probeless

def Ledger.Coherent (ledger : Ledger) : Prop := RotationHistory.Coherent (recordOf ledger.status) ledger.applied

theorem repository_coherent (valid : Ledger.Coherent before) (sound : Sound op)
    (served : Repository name before op answer after) : after.Coherent := by
  cases served with
  | applied => exact mutation_coherent valid sound
  | refused | other => exact valid

theorem step_coherent [UrlCrate] [Format] (valid : Ledger.Coherent before) (step : Step name before after) :
    after.Coherent := by
  cases step with
  | record path member served => exact repository_coherent valid (RecordRequests.sound (record_asks.steps path _ member)) served
  | rotate path member served => exact repository_coherent valid (RotateRequests.sound (rotate_asks.steps path _ member)) served
  | reconcile found => exact valid
  | edit metadata spec => exact valid

theorem run_coherent [UrlCrate] [Format] (path : Run name start after) (valid : start.Coherent) : after.Coherent := by
  induction path with
  | start => exact valid
  | step prior next ih => exact step_coherent ih next

-- A whole call, served in one piece, is a run.
theorem serves_run [UrlCrate] [Format] (prior : Run name start before)
    (path : Serves (Repository name) before events after)
    (steps : ∀ event ∈ events, ∀ before after, Repository name before event.op event.answer after →
      Step name before after) : Run name start after := by
  induction path with
  | nil => exact prior
  | cons served rest ih =>
    apply ih
    · exact .step prior (steps _ (List.mem_cons_self ..) _ _ served)
    · intro event member
      exact steps event (List.mem_cons_of_mem _ member)

theorem rotate_run [UrlCrate] [Format] (prior : Run name start before)
    (path : Steps (rotate allowed other req) trace remainder)
    (served : Serves (Repository name) before trace after) : Run name start after :=
  serves_run prior served fun _ member _ _ => .rotate path member

theorem expiryOf_exact (manual : Option Timestamp) (probe : Option ProbeStatus) :
    (expiryOf manual probe).1 = (probe.bind ProbeStatus.expiresAt).or manual ∧
    (expiryOf manual probe).2 = if (probe.bind ProbeStatus.expiresAt).isSome then .probe
      else if manual.isSome then .manual else .none := by
  unfold expiryOf
  cases probe.bind ProbeStatus.expiresAt with
  | some expiry => exact ⟨rfl,rfl⟩
  | none =>
    cases manual with
    | some expiry => exact ⟨rfl,rfl⟩
    | none => exact ⟨rfl,rfl⟩

-- A record has passed its own checks by the time it asks for its status update.
def Accepts (name : String) (actor : Actor) (rotatedAt : Timestamp) (expiresAt : Option Timestamp) (now : Timestamp) :
    Effect → Prop
  | .updateStatus other mutate => other = name ∧ mutate = recordMutation actor rotatedAt expiresAt ∧ ¬ now < rotatedAt ∧
      ∀ e, expiresAt = some e → ¬ e < rotatedAt
  | _ => True

theorem record_accepts [Format] : Asks (Accepts name actor rotatedAt expiresAt now) (record name actor rotatedAt expiresAt now) := by
  unfold record
  split
  · trivial
  · rename_i dated
    split
    · trivial
    · rename_i ordered
      rw [bind_ask,asks_request]
      refine ⟨⟨rfl,rfl,dated,fun e same before => ordered ⟨e,same,before⟩⟩,?_⟩
      intro answer
      cases answer with
      | error e => trivial
      | ok updated => exact ⟨trivial,fun _ => trivial⟩

-- A rotation of a name that some call accounts for: a record that passed its checks, or a
-- rotation whose value every store of its key took. The call may have stopped since.
inductive Accounted [UrlCrate] [Format] (name : String) : HistoryEntry → Prop where
  | recorded (path : Steps (record name actor rotatedAt expiresAt now) trace remainder)
      (asked : ⟨.updateStatus name mutate,answer⟩ ∈ trace) (dated : ¬ now < rotatedAt)
      (ordered : ∀ e, expiresAt = some e → ¬ e < rotatedAt) : Accounted name ⟨rotatedAt,actor,.recorded,expiresAt⟩
  | rotated (path : Steps (rotate allowed name req) trace remainder) (asked : ⟨.updateStatus name mutate,answer⟩ ∈ trace)
      (read : ⟨.get name,some found⟩ ∈ trace) (admitted : Admitted allowed req found.key)
      (check : CheckTrace found.key req checks (.ok probe)) (checked : checks ⊆ trace)
      (took : ∀ target ∈ found.key.spec.targets, ⟨.write target req.value,.ok ()⟩ ∈ trace) (clock : ⟨.now,now⟩ ∈ trace) :
      Accounted name ⟨now,req.actor,.rotated,(expiryOf req.manualExpiresAt (probeStatus now probe)).1⟩

-- What the rotations of a ledger count: a call that is saved adds the one rotation it
-- applied, a rotation that left a store out adds none, and nothing else adds any.
structure Counts [UrlCrate] [Format] (name : String) (ledger : Ledger) : Prop where
  recorded : Returns (record name actor rotatedAt expiresAt now) trace (.ok key) → ∃ mutate updated,
    trace.filter isStatusUpdate = [⟨.updateStatus name mutate,.ok updated⟩] ∧
    (ledger.apply mutate).applied = ⟨rotatedAt,actor,.recorded,expiresAt⟩ :: ledger.applied
  rotated : Returns (rotate allowed name req) trace (.ok o) → ∃ mutate updated now,
    trace.filter isStatusUpdate = [⟨.updateStatus name mutate,.ok updated⟩] ∧ ⟨.now,now⟩ ∈ trace ∧
    (ledger.apply mutate).applied = if o.completed
      then ⟨now,req.actor,.rotated,(expiryOf req.manualExpiresAt (probeStatus now o.probe)).1⟩ :: ledger.applied
      else ledger.applied
  step : Step name ledger next → next.applied = ledger.applied ∨
    ∃ entry, Accounted name entry ∧ next.applied = entry :: ledger.applied

theorem recorded_counts [Format] (ledger : Ledger) (path : Returns (record name actor rotatedAt expiresAt now) trace (.ok key)) :
    ∃ mutate updated, trace.filter isStatusUpdate = [⟨.updateStatus name mutate,.ok updated⟩] ∧
      (ledger.apply mutate).applied = ⟨rotatedAt,actor,.recorded,expiresAt⟩ :: ledger.applied := by
  cases record_returns.mp path with
  | recorded dated ordered =>
    refine ⟨_,_,rfl,?_⟩
    rw [Ledger.apply,entered_record]
    rfl

theorem rotated_counts [UrlCrate] (ledger : Ledger) (path : Returns (rotate allowed name req) trace (.ok o)) :
    ∃ mutate updated now, trace.filter isStatusUpdate = [⟨.updateStatus name mutate,.ok updated⟩] ∧
      ⟨.now,now⟩ ∈ trace ∧ (ledger.apply mutate).applied = if o.completed
        then ⟨now,req.actor,.rotated,(expiryOf req.manualExpiresAt (probeStatus now o.probe)).1⟩ :: ledger.applied
        else ledger.applied := by
  rcases rotate_effects (rotate_returns.mp path) with ⟨e,impossible,_⟩ | ⟨key,performed⟩
  · cases impossible
  · obtain ⟨now,mutate,answer,asked,⟨earlier,later,rfl⟩,failed,saved⟩ := performed.update
    cases answer with
    | error e => cases failed e rfl
    | ok updated =>
      obtain ⟨_,same,writes⟩ := saved updated rfl
      cases same
      obtain ⟨complete,partly,_⟩ := writes {}
      refine ⟨mutate,updated,now,asked,by simp,?_⟩
      cases all : o.completed with
      | true =>
        have entry : entered mutate = _ := congrArg RotationRecord.history (complete all)
        rw [Ledger.apply,entry]
        rfl
      | false =>
        have none : entered mutate = _ := congrArg RotationRecord.history (partly all)
        rw [Ledger.apply,none]
        rfl

section Counting
variable [UrlCrate] [Format] {name : String}

-- A call adds at most one rotation, and one that it accounts for.
def Adds (name : String) (mutate : ApiKeyStatus → ApiKeyStatus) : Prop :=
  entered mutate = [] ∨ ∃ entry, Accounted name entry ∧ entered mutate = [entry]

theorem record_adds (path : Steps (record other actor rotatedAt expiresAt now) trace remainder)
    (asked : ⟨.updateStatus name mutate,answer⟩ ∈ trace) : Adds name mutate := by
  obtain ⟨rfl,rfl,dated,ordered⟩ := record_accepts.steps path _ asked
  exact .inr ⟨_,.recorded path asked dated ordered,entered_record ..⟩

theorem rotate_adds (path : Steps (rotate allowed other req) trace remainder)
    (asked : ⟨.updateStatus name mutate,answer⟩ ∈ trace) : Adds name mutate := by
  obtain ⟨before,later,rfl⟩ := List.append_of_mem asked
  obtain ⟨rfl,found,checks,probe,written,now,read,admitted,check,checked,all,tried,clock,rfl⟩ :=
    rotate_submits.steps path
  rw [List.nil_append] at *
  have seen : before ⊆ before ++ ⟨.updateStatus name (mutationOf found.key req probe written now),answer⟩ :: later :=
    List.subset_append_left ..
  unfold Adds
  rw [mutationOf,entered_submit]
  split
  · rename_i complete
    refine .inr ⟨_,.rotated path asked (seen read) admitted check (List.Subset.trans checked seen) ?_ (seen clock),rfl⟩
    intro target member
    rw [← all] at member
    obtain ⟨⟨_,written⟩,listed,rfl⟩ := List.mem_map.mp member
    have took := ((outcomes_all req.value _).1.mp complete) _ listed
    cases written with
    | error e => cases took
    | ok done => exact seen (tried _ listed)
  · exact .inl rfl

theorem repository_counts (served : Repository name before op answer after)
    (adds : ∀ mutate, op = .updateStatus name mutate → Adds name mutate) :
    after.applied = before.applied ∨ ∃ entry, Accounted name entry ∧ after.applied = entry :: before.applied := by
  cases served with
  | applied =>
    rcases adds _ rfl with none | ⟨entry,accounted,one⟩
    · exact .inl (congrArg (· ++ before.applied) none)
    · exact .inr ⟨entry,accounted,congrArg (· ++ before.applied) one⟩
  | refused | other => exact .inl rfl

theorem step_counts (step : Step name before after) :
    after.applied = before.applied ∨ ∃ entry, Accounted name entry ∧ after.applied = entry :: before.applied := by
  cases step with
  | @record _ _ _ _ _ _ _ event _ _ path member served =>
    obtain ⟨op,answer⟩ := event
    apply repository_counts served
    rintro mutate rfl
    exact record_adds path member
  | @rotate _ _ _ _ _ event _ _ path member served =>
    obtain ⟨op,answer⟩ := event
    apply repository_counts served
    rintro mutate rfl
    exact rotate_adds path member
  | reconcile | edit => exact .inl rfl

theorem ledger_counts (ledger : Ledger) : Counts name ledger :=
  ⟨recorded_counts ledger,rotated_counts ledger,step_counts⟩

end Counting

theorem rotation_status_coherent [UrlCrate] [Format] (key : ApiKey) (fresh : key.status = none)
    (path : Run name ⟨key,[]⟩ after) :
    let status := after.status
    let n := after.applied.length
    (status.history.length = min n HISTORY_LIMIT ∧ status.history = after.applied.take HISTORY_LIMIT) ∧
    (n = 0 → status.lastRotated = none ∧ status.rotatedBy = none ∧ status.expiresAt = none ∧
      status.expiresAtSource = none ∧ status.manualExpiresAt = none ∧ status.probe = none) ∧
    (0 < n → ∃ entry rest, status.history = entry :: rest ∧ some entry.atTime = status.lastRotated ∧
      some entry.byActor = status.rotatedBy ∧ entry.expiresAt = status.expiresAt) ∧
    (status.expiresAt = (status.probe.bind ProbeStatus.expiresAt).or status.manualExpiresAt ∧
      (0 < n → status.expiresAtSource = some
        (if (status.probe.bind ProbeStatus.expiresAt).isSome then .probe
          else if status.manualExpiresAt.isSome then .manual else .none))) ∧
    (∀ entry rest, status.history = entry :: rest → entry.kind = .recorded → status.probe = none) ∧
    Counts name after := by
  intro status n
  have start : Ledger.Coherent ⟨key,[]⟩ := by
    unfold Ledger.Coherent Ledger.status
    rw [fresh]
    exact blank_coherent
  have valid : Coherent (recordOf status) after.applied := run_coherent path start
  have bare : n = 0 → status.lastRotated = none ∧ status.rotatedBy = none ∧ status.expiresAt = none ∧
      status.expiresAtSource = none ∧ status.manualExpiresAt = none ∧ status.probe = none := by
    intro zero
    have same := valid.untouched (List.length_eq_zero_iff.mp zero)
    simp only [recordOf,blank,RotationRecord.mk.injEq] at same
    obtain ⟨lastRotated,rotatedBy,expiresAt,expiresAtSource,manualExpiresAt,probe,_⟩ := same
    exact ⟨lastRotated,rotatedBy,expiresAt,expiresAtSource,manualExpiresAt,probe⟩
  have filled : 0 < n → after.applied ≠ [] := fun positive => List.length_pos_iff.mp positive
  have history : status.history = after.applied.take HISTORY_LIMIT := valid.history
  obtain ⟨expires,source⟩ := expiryOf_exact status.manualExpiresAt status.probe
  refine ⟨⟨?_,history⟩,bare,?_,⟨?_,?_⟩,valid.recorded,ledger_counts after⟩
  · rw [history,List.length_take,Nat.min_comm]
  · intro positive
    cases shape : status.history with
    | nil =>
      rw [history,List.take_eq_nil_iff] at shape
      rcases shape with limit | empty
      · cases limit
      · exact absurd empty (filled positive)
    | cons entry rest =>
      obtain ⟨atTime,byActor,expiry⟩ := valid.latest entry rest shape
      exact ⟨entry,rest,rfl,atTime.symm,byActor.symm,expiry.symm⟩
  · rw [← expires]
    cases zero : n with
    | zero =>
      obtain ⟨_,_,expiresAt,_,manualExpiresAt,probe⟩ := bare zero
      rw [expiresAt,manualExpiresAt,probe]
      rfl
    | succ count => exact (valid.expiry (filled (by omega))).1
  · intro positive
    rw [← source]
    exact (valid.expiry (filled positive)).2

theorem pairKey_rotated : ∃ after, @Run noUrls epochFormat "pair" ⟨pairKey.key,[]⟩ after ∧
    after.applied.length = 1 ∧ after.status.history.length = 1 := by
  let _ := noUrls
  let _ := epochFormat
  have submitted := @SubmitTrace.saved "pair" pairKey.key pairRequest .notSupported .epoch pairCompleted pairKey rfl
  have path := rotate_returns.mpr (.submitted pairKey_passes (.generic rfl rfl) submitted)
  have run : Run "pair" ⟨pairKey.key,[]⟩
      (Ledger.apply ⟨pairKey.key,[]⟩ (mutationOf pairKey.key pairRequest .notSupported pairCompleted .epoch)) := by
    apply rotate_run .start path
    refine .cons (.other ?_) (.cons (.other ?_) (.cons (.other ?_) (.cons (.other ?_) (.cons .applied
      (.cons (.other ?_) (.cons (.other ?_) .nil)))))) <;> exact fun _ same => nomatch same
  exact ⟨_,run,rfl,(rotation_status_coherent pairKey.key rfl run).1.1⟩

end YouSpinMe.RotationHistory
