import YouSpinMe.RecordDates
import YouSpinMe.RotationHistory

namespace YouSpinMe.ManualExpiry
open RequestProgram Effects Validation Rotation RotationTraces RotationOutcome RotationHistory RejectionReports RecordDates
  HandlerTraces Admission Kube Text Jiff Crd Identity Http Auth Pages

-- A manual expiry that is stored does not precede the rotation stored with it.
def Kept (status : ApiKeyStatus) : Prop :=
  status.expiresAtSource = some .manual →
    ∃ expiry rotated, status.expiresAt = some expiry ∧ status.lastRotated = some rotated ∧ rotated ≤ expiry

theorem kept_record {first second : ApiKeyStatus} (same : recordOf first = recordOf second) : Kept first ↔ Kept second := by
  simp only [recordOf,RotationRecord.mk.injEq] at same
  obtain ⟨rotated,_,expiry,source,_⟩ := same
  rw [Kept,Kept,rotated,expiry,source]

theorem kept_applied (status : ApiKeyStatus) (atTime : Timestamp) (byActor : Actor) (kind : HistoryKind)
    (manual : Option Timestamp) (probe : Option ProbeStatus) :
    Kept (applyRotation status atTime byActor kind manual probe) ↔
      ∀ m, manual = some m → probe.bind ProbeStatus.expiresAt = none → atTime ≤ m := by
  unfold applyRotation expiryOf
  cases probed : probe.bind ProbeStatus.expiresAt with
  | some p => simp [Kept]
  | none =>
    cases manual with
    | none => simp [Kept]
    | some m => simp [Kept]

theorem kept_submitted (valid : Kept status) (references : List String) (outcomes : List TargetOutcome)
    (now : Timestamp) (req : RotateRequest) (probe : Option ProbeStatus) :
    Kept (submitMutation references outcomes now req probe status) ↔
      ¬ (allWritten outcomes = true ∧ probe.bind ProbeStatus.expiresAt = none ∧
        ∃ m, req.manualExpiresAt = some m ∧ m < now) := by
  have record : recordOf (submitMutation references outcomes now req probe status) = _ := recordOf_submitMutation status
  cases all : allWritten outcomes with
  | false =>
    rw [all] at record
    exact iff_of_true ((kept_record record).mpr valid) (by simp)
  | true =>
    rw [all] at record
    rw [kept_record record,kept_applied]
    constructor
    · rintro kept ⟨_,unreported,m,same,before⟩
      exact absurd before (Int.not_lt.mpr (kept m same unreported))
    · intro ordinary m same unreported
      exact Int.not_lt.mp fun before => ordinary ⟨rfl,unreported,m,same,before⟩

-- What a run shows of the clock, of the provider and of the stores.
def clockOf (trace : Trace) : List Timestamp :=
  trace.filterMap fun event => match event with
    | ⟨.now,now⟩ => some now
    | _ => none

def reportedExpiries (trace : Trace) : List Timestamp :=
  trace.filterMap fun event => match event with
    | ⟨.probe _ _,.ok (some result)⟩ => result.expiresAt
    | _ => none

def tookAll (trace : Trace) : Bool := trace.all fun event => !isWrite event || writeSucceeded event

@[simp] theorem clockOf_append (first second : Trace) : clockOf (first ++ second) = clockOf first ++ clockOf second :=
  List.filterMap_append ..
@[simp] theorem reportedExpiries_append (first second : Trace) :
    reportedExpiries (first ++ second) = reportedExpiries first ++ reportedExpiries second := List.filterMap_append ..
@[simp] theorem tookAll_append (first second : Trace) : tookAll (first ++ second) = (tookAll first && tookAll second) :=
  List.all_append ..

theorem written_shows (value : String) (written : Written) :
    clockOf (written.map (writeEvent value)) = [] ∧ reportedExpiries (written.map (writeEvent value)) = [] ∧
      tookAll (written.map (writeEvent value)) = allWritten (written.map outcomeOf) := by
  refine ⟨?_,?_,?_⟩
  · simp [clockOf,List.filterMap_map,Function.comp_def,writeEvent]
  · simp [reportedExpiries,List.filterMap_map,Function.comp_def,writeEvent]
  · rw [tookAll,allWritten,List.all_map,List.all_map]
    congr 1
    funext entry
    rw [Function.comp_apply,Function.comp_apply,writeSucceeded_outcome]
    rfl

theorem checks_show (check : CheckTrace key req trace (.ok probe)) (now : Timestamp) :
    clockOf trace = [] ∧ tookAll trace = true ∧
      reportedExpiries trace = ((probeStatus now probe).bind ProbeStatus.expiresAt).toList := by
  cases check with
  | skipped | generic | unsupported => exact ⟨rfl,rfl,rfl⟩
  | @checked result consults =>
    refine ⟨rfl,rfl,?_⟩
    cases expiry : result.expiresAt with
    | none | some t => simp [reportedExpiries,probeStatus,expiry]

-- What a status update rests on: the one reading of the clock, what the
-- provider reported and whether every store took the key.
theorem rotate_shows [UrlCrate] (path : RotateTrace allowed name req trace result)
    (asked : ⟨.updateStatus other mutate,answer⟩ ∈ trace) :
    ∃ key probe written now, mutate = mutationOf key req probe written now ∧ clockOf trace = [now] ∧
      tookAll trace = allWritten (written.map outcomeOf) ∧
      reportedExpiries trace = ((probeStatus now probe).bind ProbeStatus.expiresAt).toList := by
  obtain ⟨found,key,checks,probe,written,now,reply,noted,counted,_,check,_,rfl,rest,rfl⟩ := path.submission asked
  obtain ⟨clock,took,reported⟩ := checks_show check now
  obtain ⟨noWriteClock,noWriteReport,writes⟩ := written_shows req.value written
  have opening : clockOf (⟨.get name,found⟩ :: checks) = [] ∧ tookAll (⟨.get name,found⟩ :: checks) = true ∧
      reportedExpiries (⟨.get name,found⟩ :: checks) =
        ((probeStatus now probe).bind ProbeStatus.expiresAt).toList := ⟨clock,took,reported⟩
  have quiet : clockOf noted = [] ∧ tookAll noted = true ∧ reportedExpiries noted = [] := by
    rcases rest with rfl | ⟨about,event,rfl⟩
    · exact ⟨rfl,rfl,rfl⟩
    · exact ⟨rfl,rfl,rfl⟩
  have closing : ∀ mutate, clockOf (⟨.now,now⟩ :: ⟨.updateStatus name mutate,reply⟩ :: noted) = [now] ∧
      tookAll (⟨.now,now⟩ :: ⟨.updateStatus name mutate,reply⟩ :: noted) = true ∧
      reportedExpiries (⟨.now,now⟩ :: ⟨.updateStatus name mutate,reply⟩ :: noted) = [] :=
    fun _ => ⟨congrArg _ quiet.1,quiet.2.1,quiet.2.2⟩
  have count : clockOf [⟨.countRotation counted,()⟩] = [] ∧ tookAll [⟨.countRotation counted,()⟩] = true ∧
      reportedExpiries [⟨.countRotation counted,()⟩] = [] := ⟨rfl,rfl,rfl⟩
  refine ⟨key,probe,written,now,rfl,?_,?_,?_⟩
  · rw [clockOf_append,clockOf_append,clockOf_append,opening.1,noWriteClock,(closing _).1,count.1]
    rfl
  · rw [tookAll_append,tookAll_append,tookAll_append,opening.2.1,writes,(closing _).2.1,count.2.1]
    simp
  · rw [reportedExpiries_append,reportedExpiries_append,reportedExpiries_append,opening.2.2,noWriteReport,(closing _).2.2,
      count.2.2]
    simp

theorem submitted_form [UrlCrate] [Format] (run : Returns (Pages.rotate state session headers name form) trace result)
    (asked : ⟨.updateStatus other mutate,answer⟩ ∈ trace) :
    ∃ manual rotation found outcome, parseDate form.expiresAt = .ok manual ∧ trace = ⟨.get name,found⟩ :: rotation ∧
      RotateTrace state.allowed name (rotateRequest session form manual) rotation outcome := by
  cases rotateHandler_returns.mp run with
  | unmatched refused => cases asked
  | undated matched unread => simp at asked
  | dated matched parsed path => exact ⟨_,_,_,_,parsed,rfl,path⟩

theorem record_passes [CharTables] [Format] (run : Returns (Pages.record state session headers name form) trace result)
    (asked : ⟨.updateStatus other mutate,answer⟩ ∈ trace) :
    ∃ rotatedAt expiresAt now, Passes rotatedAt expiresAt now ∧
      mutate = recordMutation session.actor rotatedAt expiresAt := by
  cases recordHandler_returns.mp run with
  | unmatched refused => cases asked
  | stale matched stale => simp at asked
  | undated matched fresh unread => simp at asked
  | @dated now dates rest _ matched fresh read path =>
    have later : ⟨.updateStatus other mutate,answer⟩ ∈ rest := by simpa using asked
    obtain ⟨passes,same⟩ := save_exact path
    exact ⟨_,_,_,passes.mp ⟨_,later,rfl⟩,same _ _ _ later⟩

inductive Move where
  | record
  | rotate (form : RotateForm) (trace : Trace)
  | reconcile

-- What moves the status: an applied update of some request of either form, or a
-- reconciliation. Requests may come from any sessions and fail at any point.
inductive Step [UrlCrate] [Format] (name : String) : ApiKeyStatus → Move → ApiKeyStatus → Prop where
  | record (run : Returns (Pages.record state session headers name form) trace result)
      (asked : ⟨.updateStatus name mutate,answer⟩ ∈ trace) : Step name before .record (mutate before)
  | rotate (run : Returns (Pages.rotate state session headers name form) trace result)
      (asked : ⟨.updateStatus name mutate,answer⟩ ∈ trace) : Step name before (.rotate form trace) (mutate before)
  | reconcile (found : reconcilePatch seen allowed now = some patch) :
      Step name before .reconcile (patch.merge before)

-- Every store took the key, the provider reported no expiry, and the expiry of
-- the form is before the clock.
def Overdue [CharTables] [Format] (form : RotateForm) (trace : Trace) : Prop :=
  tookAll trace = true ∧ reportedExpiries trace = [] ∧
    ∃ m now, parseDate form.expiresAt = .ok (some m) ∧ now ∈ clockOf trace ∧ m < now

def Permitted [CharTables] [Format] : Move → Prop
  | .rotate form trace => ¬ Overdue form trace
  | .record | .reconcile => True

inductive Run [UrlCrate] [Format] (name : String) (start : ApiKeyStatus) : ApiKeyStatus → Prop where
  | start : Run name start start
  | step (prior : Run name start before) (next : Step name before move after) (permitted : Permitted move) :
      Run name start after

section Steps
variable [UrlCrate] [Format]

theorem step_kept (valid : Kept before) (next : Step name before move after) : Kept after ↔ Permitted move := by
  cases next with
  | record run asked =>
    obtain ⟨rotatedAt,expiresAt,now,passes,rfl⟩ := record_passes run asked
    refine iff_of_true ((kept_applied ..).mpr fun m same _ => ?_) trivial
    exact Int.not_lt.mp (passes.2 m same)
  | rotate run asked =>
    obtain ⟨manual,rotation,found,outcome,parsed,rfl,path⟩ := submitted_form run asked
    rcases List.mem_cons.mp asked with other | inside
    · cases other
    obtain ⟨key,probe,written,now,rfl,clock,took,reported⟩ := rotate_shows path inside
    have shown : tookAll (⟨.get name,found⟩ :: rotation) = allWritten (written.map outcomeOf) := took
    have read : clockOf (⟨.get name,found⟩ :: rotation) = [now] := clock
    have expiries : reportedExpiries (⟨.get name,found⟩ :: rotation) =
        ((probeStatus now probe).bind ProbeStatus.expiresAt).toList := reported
    rw [mutationOf,kept_submitted valid,Permitted,Overdue,shown,read,expiries,parsed,Option.toList_eq_nil_iff]
    simp [rotateRequest]
  | reconcile found => exact iff_of_true valid trivial

theorem run_kept (path : Run name start after) (valid : Kept start) : Kept after := by
  induction path with
  | start => exact valid
  | step prior next permitted ih => exact (step_kept ih next).mpr permitted

theorem manual_expiry_kept (path : Run name {} status) :
    Kept status ∧ ∀ move after, Step name status move after → (Kept after ↔ Permitted move) := by
  have start : Kept {} := by
    intro manual
    cases manual
  have kept := run_kept path start
  exact ⟨kept,fun move after next => step_kept kept next⟩

end Steps

-- A submission whose form says that the key expires on 1970-01-01.
def datedForm : RotateForm := ⟨some "token","v","1970-01-01",none⟩
def datedRequest : RotateRequest := rotateRequest dialogSession datedForm (some .epoch)
def datedStatus (now : Timestamp) : ApiKeyStatus :=
  mutationOf pairKey.key datedRequest .notSupported pairCompleted now {}

theorem dated_step (now : Timestamp) : ∃ trace, clockOf trace = [now] ∧
    @Step noUrls epochFormat "pair" {} (.rotate datedForm trace) (datedStatus now) := by
  let _ := noUrls
  let _ := epochFormat
  have passed : gate openState.allowed "pair" datedRequest (some pairKey) = .ok pairKey.key := pairKey_passes
  have submitted := @SubmitTrace.saved "pair" pairKey.key datedRequest .notSupported now pairCompleted pairKey rfl
  have rotation := rotate_returns.mpr (.submitted passed (.generic rfl rfl) submitted)
  have run : Returns (Pages.rotate openState dialogSession [] "pair" datedForm) (⟨.get "pair",some pairKey⟩ :: _) _ :=
    handler_run epochForm_matched epochForm_dates rotation
  refine ⟨_,?_,.rotate run (.tail _ (.tail _ (.tail _ (.tail _ (.tail _ (.head _))))))⟩
  rfl

theorem dated_kept : Kept (datedStatus .epoch) := by
  let _ := noUrls
  let _ := epochFormat
  obtain ⟨trace,clock,next⟩ := dated_step .epoch
  have permitted : Permitted (.rotate datedForm trace) := by
    rintro ⟨_,_,m,now,parsed,read,before⟩
    rw [clock,List.mem_singleton] at read
    cases epochForm_dates.symm.trans parsed
    subst read
    exact absurd before (by decide)
  exact (manual_expiry_kept (.step .start next permitted)).1

theorem dated_precedes : ∃ trace, @Step noUrls epochFormat "pair" {} (.rotate datedForm trace) (datedStatus nextDay) ∧
    (datedStatus nextDay).expiresAtSource = some .manual ∧ (datedStatus nextDay).expiresAt = some .epoch ∧
    (datedStatus nextDay).lastRotated = some nextDay ∧ ¬ Kept (datedStatus nextDay) := by
  obtain ⟨trace,_,next⟩ := dated_step nextDay
  refine ⟨trace,next,rfl,rfl,rfl,fun kept => ?_⟩
  obtain ⟨expiry,rotated,same,last,after⟩ := kept rfl
  cases same
  cases last
  exact absurd after (by decide)

end YouSpinMe.ManualExpiry
