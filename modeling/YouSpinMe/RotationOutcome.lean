import YouSpinMe.RotationTraces

namespace YouSpinMe.RotationOutcome
open RequestProgram Effects Validation Rotation RotationTraces Text Jiff Crd

-- The seven fields of a status that only a recorded rotation sets.
structure RotationRecord where
  lastRotated : Option Timestamp
  rotatedBy : Option Actor
  expiresAt : Option Timestamp
  expiresAtSource : Option ExpirySource
  manualExpiresAt : Option Timestamp
  probe : Option ProbeStatus
  history : List HistoryEntry
  deriving DecidableEq

def recordOf (status : ApiKeyStatus) : RotationRecord :=
  ⟨status.lastRotated,status.rotatedBy,status.expiresAt,status.expiresAtSource,status.manualExpiresAt,
    status.probe,status.history⟩

def rotated (before : RotationRecord) (entry : HistoryEntry) (source : ExpirySource)
    (manualExpiresAt : Option Timestamp) (probe : Option ProbeStatus) : RotationRecord :=
  ⟨some entry.atTime,some entry.byActor,entry.expiresAt,some source,manualExpiresAt,probe,
    (entry :: before.history).take HISTORY_LIMIT⟩

-- What a submission at an instant makes of the record when every store took the value.
def submitted (before : RotationRecord) (req : RotateRequest) (now : Timestamp) (probe : Option ProbeStatus) :
    RotationRecord :=
  let (expiresAt,source) := expiryOf req.manualExpiresAt probe
  rotated before ⟨now,req.actor,.rotated,expiresAt⟩ source req.manualExpiresAt probe

@[simp] theorem recordOf_applyRotation (status : ApiKeyStatus) :
    recordOf (applyRotation status atTime byActor kind manual probe) =
      rotated (recordOf status) ⟨atTime,byActor,kind,(expiryOf manual probe).1⟩ (expiryOf manual probe).2 manual probe :=
  rfl

theorem recordOf_submitMutation (status : ApiKeyStatus) :
    recordOf (submitMutation references outcomes now req probe status) =
      if allWritten outcomes then recordOf (applyRotation status now req.actor .rotated req.manualExpiresAt probe)
      else recordOf status := by
  unfold submitMutation
  split
  · rfl
  · rfl

-- Why a call is turned away before the prober or a store hears of it. Of
-- several reasons the first one is reported.
inductive Refused [UrlCrate] (allowed : PathAllowList) (name : String) (req : RotateRequest) :
    Option (Named name) → RotateError → Prop where
  | unknown : Refused allowed name req none (.notFound name)
  | blank (blank : trim req.value = "") : Refused allowed name req (some found) .empty
  | noTargets (filled : trim req.value ≠ "") (bare : found.key.spec.targets = []) :
      Refused allowed name req (some found) .noTargets
  | invalid (filled : trim req.value ≠ "") (listed : found.key.spec.targets ≠ [])
      (problems : validate found.key.spec allowed ≠ []) :
      Refused allowed name req (some found) (.invalidSpec ("; ".intercalate (validate found.key.spec allowed)))

structure Admitted [UrlCrate] (allowed : PathAllowList) (req : RotateRequest) (key : ApiKey) : Prop where
  filled : trim req.value ≠ ""
  listed : key.spec.targets ≠ []
  valid : validate key.spec allowed = []

theorem gate_error [UrlCrate] : gate allowed name req found = .error e ↔ Refused allowed name req found e := by
  unfold gate
  refine ⟨?_,?_⟩
  · intro stopped
    split at stopped
    · cases stopped; exact .unknown
    · split at stopped
      · cases stopped; exact .blank ‹_›
      · split at stopped
        · cases stopped; exact .noTargets ‹_› ‹_›
        · split at stopped
          · cases stopped; exact .invalid ‹_› ‹_› ‹_›
          · cases stopped
  · intro refused
    cases refused with
    | unknown => rfl
    | blank blank => simp [blank]
    | noTargets filled bare => simp [filled,bare]
    | invalid filled listed problems => simp [filled,listed,problems]

theorem gate_ok [UrlCrate] : gate allowed name req found = .ok key ↔
    ∃ named, found = some named ∧ named.key = key ∧ Admitted allowed req key := by
  unfold gate
  refine ⟨?_,?_⟩
  · intro passed
    cases found with
    | none => cases passed
    | some named =>
      by_cases filled : trim req.value = ""
      · simp [filled] at passed
      · by_cases listed : named.key.spec.targets = []
        · simp [filled,listed] at passed
        · by_cases valid : validate named.key.spec allowed = []
          · simp only [filled,listed,valid,ne_eq,not_true,if_false,Except.ok.injEq] at passed
            subst passed
            exact ⟨named,rfl,rfl,filled,listed,valid⟩
          · simp [filled,listed,valid] at passed
  · intro passed
    obtain ⟨named,rfl,rfl,admitted⟩ := passed
    simp [admitted.filled,admitted.listed,admitted.valid]

-- Nothing was written anywhere and no status was asked to change.
def Untouched (trace : Trace) : Prop :=
  ∀ event ∈ trace, isWrite event = false ∧ isStatusUpdate event = false

@[simp] theorem writesOf_append (first second : Trace) :
    writesOf (first ++ second) = writesOf first ++ writesOf second := List.filterMap_append ..
@[simp] theorem rotationLabels_append (first second : Trace) :
    rotationLabels (first ++ second) = rotationLabels first ++ rotationLabels second := List.filterMap_append ..

theorem writesOf_nil : writesOf trace = [] ↔ ∀ event ∈ trace, isWrite event = false := by
  rw [writesOf,List.filterMap_eq_nil_iff]
  refine forall₂_congr fun event _ => ?_
  obtain ⟨op,answer⟩ := event
  cases op <;> simp [isWrite]

theorem writesOf_written (value : String) (written : Written) :
    writesOf (written.map (writeEvent value)) = written.map fun entry => (entry.1,value) := by
  simp [writesOf,List.filterMap_map,Function.comp_def,writeEvent]

theorem written_only (value : String) (written : Written) :
    ∀ event ∈ written.map (writeEvent value), isWrite event = true ∧ isStatusUpdate event = false ∧
      isProbe event = false := by
  intro event member
  obtain ⟨entry,_,rfl⟩ := List.mem_map.mp member
  exact ⟨rfl,rfl,rfl⟩

theorem written_labels (value : String) (written : Written) :
    rotationLabels (written.map (writeEvent value)) = [] := by
  simp [rotationLabels,List.filterMap_map,Function.comp_def,writeEvent]

theorem writeSucceeded_outcome (value : String) (entry : TargetSpec × Except TargetError Unit) :
    writeSucceeded (writeEvent value entry) = (outcomeOf entry).error.isNone := by
  obtain ⟨target,answer⟩ := entry
  cases answer with
  | error e => rfl
  | ok value => rfl

theorem CheckTrace.untouched (check : CheckTrace key req trace result) : Untouched trace := by
  intro event member
  cases check with
  | skipped | generic => cases member
  | checked | unsupported | refused =>
    simp only [List.mem_cons,List.not_mem_nil,or_false] at member
    rcases member with rfl | rfl | rfl <;> exact ⟨rfl,rfl⟩

theorem CheckTrace.labels (check : CheckTrace key req trace result) : rotationLabels trace = [] := by
  cases check <;> rfl

-- The prober is asked once when it is consulted, and never otherwise; its
-- error is the error of the check.
theorem CheckTrace.probes (check : CheckTrace key req trace result) :
    (¬ Consults key req ∧ trace.filter isProbe = [] ∧ ∀ e, result ≠ .error e) ∨
    Consults key req ∧ ∃ answer, trace.filter isProbe = [⟨.probe key.spec.provider req.value,answer⟩] ∧
      ∀ e, answer = .error e ↔ result = .error e := by
  cases check with
  | skipped skip => exact .inl ⟨by simp [Consults,skip],rfl,by simp⟩
  | generic verify generic => exact .inl ⟨by simp [Consults,generic],rfl,by simp⟩
  | checked consults => exact .inr ⟨consults,_,rfl,by simp⟩
  | unsupported consults => exact .inr ⟨consults,_,rfl,by simp⟩
  | refused consults => exact .inr ⟨consults,_,rfl,by simp⟩

-- What a call that was admitted, and whose prober did not refuse, did.
structure Performed (name : String) (key : ApiKey) (req : RotateRequest) (trace : Trace)
    (result : Except RotateError RotateOutcome) : Prop where
  probedFirst : ∃ before after, trace = before ++ after ∧ writesOf before = [] ∧ after.filter isProbe = []
  writes : writesOf trace = key.spec.targets.map fun target => (target,req.value)
  completed : ∀ o, result = .ok o →
    (o.completed = true ↔ ∀ event ∈ trace, isWrite event = true → writeSucceeded event = true)
  failed : ∀ o, result = .ok o → ((o.targets.all fun t => t.error.isSome) = true ↔
    ∀ event ∈ trace, isWrite event = true → writeSucceeded event = false)
  update : ∃ now mutate answer, trace.filter isStatusUpdate = [⟨.updateStatus name mutate,answer⟩] ∧
    (∃ earlier later, trace = earlier ++ ⟨.now,now⟩ :: ⟨.updateStatus name mutate,answer⟩ :: later) ∧
    (∀ e, answer = .error e → result = .error (.status e)) ∧
    ∀ updated, answer = .ok updated → ∃ o, result = .ok o ∧ ∀ status,
      (o.completed = true → recordOf (mutate status) = submitted (recordOf status) req now (probeStatus now o.probe)) ∧
      (o.completed = false → recordOf (mutate status) = recordOf status) ∧
      (status.lastRotated ≠ some now → (recordOf (mutate status) ≠ recordOf status ↔ o.completed = true))

theorem recordOf_applyRotation_ne (status : ApiKeyStatus) (fresh : status.lastRotated ≠ some now) :
    recordOf (applyRotation status now byActor kind manual probe) ≠ recordOf status := by
  intro same
  have stamped := congrArg RotationRecord.lastRotated same
  exact fresh stamped.symm

theorem mutationOf_record (key : ApiKey) (req : RotateRequest) (probe : ProbeOutcome) (written : Written)
    (now : Timestamp) (status : ApiKeyStatus) :
    let o := outcomeFor req probe written now
    let mutate := mutationOf key req probe written now
    (o.completed = true → recordOf (mutate status) = submitted (recordOf status) req now (probeStatus now o.probe)) ∧
    (o.completed = false → recordOf (mutate status) = recordOf status) ∧
    (status.lastRotated ≠ some now → (recordOf (mutate status) ≠ recordOf status ↔ o.completed = true)) := by
  intro o mutate
  have changed : recordOf (mutate status) = if o.completed
      then recordOf (applyRotation status now req.actor .rotated req.manualExpiresAt (probeStatus now probe))
      else recordOf status := recordOf_submitMutation status
  refine ⟨?_,?_,?_⟩
  · intro all
    rw [changed,if_pos all]
    rfl
  · intro some
    rw [changed,if_neg (by simp [some])]
  · intro fresh
    cases all : o.completed with
    | false => simp [changed,all]
    | true =>
      rw [changed,if_pos all]
      exact iff_of_true (recordOf_applyRotation_ne status fresh) rfl

-- Around the writes of a target list nothing else is written.
theorem writes_forall {first last : Trace} (opening : writesOf first = []) (closing : writesOf last = [])
    (value : String) (written : Written) (property : Event Answer → Prop) :
    (∀ event ∈ first ++ (written.map (writeEvent value) ++ last), isWrite event = true → property event) ↔
      ∀ entry ∈ written, property (writeEvent value entry) := by
  have before := writesOf_nil.mp opening
  have after := writesOf_nil.mp closing
  refine ⟨?_,?_⟩
  · intro all entry member
    have listed : writeEvent value entry ∈ written.map (writeEvent value) := List.mem_map_of_mem member
    exact all _ (by simp [listed]) rfl
  · intro all event member isWritten
    rcases List.mem_append.mp member with early | later
    · simp [before event early] at isWritten
    · rcases List.mem_append.mp later with own | late
      · obtain ⟨entry,listed,rfl⟩ := List.mem_map.mp own
        exact all entry listed
      · simp [after event late] at isWritten

theorem outcomes_all (value : String) (written : Written) :
    (allWritten (written.map outcomeOf) = true ↔ ∀ entry ∈ written, writeSucceeded (writeEvent value entry) = true) ∧
    (((written.map outcomeOf).all fun t => t.error.isSome) = true ↔
      ∀ entry ∈ written, writeSucceeded (writeEvent value entry) = false) := by
  simp only [allWritten,List.all_map,List.all_eq_true,writeSucceeded_outcome,Function.comp_apply]
  refine ⟨trivial,forall₂_congr fun entry _ => ?_⟩
  cases (outcomeOf entry).error with
  | none => simp
  | some message => simp

-- A submission is its writes, one reading of the clock, one status update and
-- perhaps an event.
theorem SubmitTrace.parts (path : SubmitTrace name key req probe submission result) :
    ∃ written now answer noted, written.map Prod.fst = key.spec.targets ∧
      submission = written.map (writeEvent req.value) ++
        (⟨.now,now⟩ :: ⟨.updateStatus name (mutationOf key req probe written now),answer⟩ :: noted) ∧
      writesOf noted = [] ∧ noted.filter isProbe = [] ∧ noted.filter isStatusUpdate = [] ∧ rotationLabels noted = [] ∧
      (∀ e, answer = .error e → result = .error (.status e)) ∧
      ∀ updated, answer = .ok updated → result = .ok (outcomeFor req probe written now) := by
  cases path with
  | @unsaved e now written all =>
    refine ⟨written,now,.error e,[],all,rfl,rfl,rfl,rfl,rfl,?_,?_⟩
    · intro other same; cases same; rfl
    · intro updated same; cases same
  | @saved now written updated all =>
    refine ⟨written,now,.ok updated,_,all,rfl,rfl,rfl,rfl,rfl,?_,?_⟩
    · intro other same; cases same
    · intro other same; rfl

theorem Untouched.updates (untouched : Untouched trace) : trace.filter isStatusUpdate = [] := by
  rw [List.filter_eq_nil_iff]
  intro event member
  simp [(untouched event member).2]

theorem written_filters (value : String) (written : Written) :
    (written.map (writeEvent value)).filter isProbe = [] ∧
    (written.map (writeEvent value)).filter isStatusUpdate = [] := by
  simp only [List.filter_eq_nil_iff]
  exact ⟨fun event member => by simp [written_only value written event member],
    fun event member => by simp [written_only value written event member]⟩

theorem SubmitTrace.performed (path : SubmitTrace name key req probe submission result)
    (check : CheckTrace key req checks (.ok probe)) (found : Option (Named name)) :
    Performed name key req
      (⟨.get name,found⟩ :: checks ++ submission ++ [⟨.countRotation (label result),()⟩]) result := by
  have untouched := CheckTrace.untouched check
  obtain ⟨written,now,answer,noted,all,rfl,noWrites,noProbes,noUpdates,_,failed,saved⟩ := SubmitTrace.parts path
  obtain ⟨probeless,updateless⟩ := written_filters req.value written
  have checkless : writesOf checks = [] := writesOf_nil.mpr fun event member => (untouched event member).1
  have opening : writesOf (⟨.get name,found⟩ :: checks) = [] := checkless
  have closing : writesOf (⟨.now,now⟩ :: ⟨.updateStatus name (mutationOf key req probe written now),answer⟩ ::
      noted ++ [⟨.countRotation (label result),()⟩]) = [] := by
    change writesOf (noted ++ [_]) = []
    rw [writesOf_append,noWrites]
    rfl
  have outcome : ∀ o, result = .ok o → o = outcomeFor req probe written now := by
    intro o returned
    cases answer with
    | error e => rw [failed e rfl] at returned; cases returned
    | ok updated => rw [saved updated rfl] at returned; cases returned; rfl
  obtain ⟨allOk,allFailed⟩ := outcomes_all req.value written
  refine ⟨⟨⟨.get name,found⟩ :: checks,_,List.append_assoc ..,opening,?_⟩,?_,?_,?_,?_⟩
  · simp [isProbe,probeless,noProbes]
  · rw [List.append_assoc,List.append_assoc,writesOf_append,writesOf_append,opening,closing,writesOf_written,← all]
    simp
  · intro o returned
    rw [outcome o returned,List.append_assoc,List.append_assoc]
    exact allOk.trans (writes_forall opening closing req.value written (writeSucceeded · = true)).symm
  · intro o returned
    rw [outcome o returned,List.append_assoc,List.append_assoc]
    exact allFailed.trans (writes_forall opening closing req.value written (writeSucceeded · = false)).symm
  · refine ⟨now,_,answer,?_,?_,failed,?_⟩
    · simp [List.filter_cons,isStatusUpdate,updateless,noUpdates,untouched.updates]
    · refine ⟨⟨.get name,found⟩ :: checks ++ written.map (writeEvent req.value),
        noted ++ [⟨.countRotation (label result),()⟩],?_⟩
      simp only [List.cons_append,List.append_assoc]
    · intro updated ok
      exact ⟨_,saved updated ok,mutationOf_record key req probe written now⟩

theorem submitted_probes (path : SubmitTrace name key req probe submission result) :
    submission.filter isProbe = [] := by
  obtain ⟨written,now,answer,noted,_,rfl,_,probeless,_⟩ := SubmitTrace.parts path
  simp [isProbe,probeless,written_filters]

theorem submitted_labels (path : SubmitTrace name key req probe submission result) :
    rotationLabels submission = [] := by
  obtain ⟨written,now,answer,noted,_,rfl,_,_,_,labelless,_⟩ := SubmitTrace.parts path
  rw [rotationLabels_append,written_labels]
  exact labelless

theorem checked_labels (check : CheckTrace key req checks result) (found : Option (Named name)) :
    rotationLabels (⟨.get name,found⟩ :: checks) = [] := by
  change rotationLabels checks = []
  exact CheckTrace.labels check

theorem rotate_labels [UrlCrate] (path : RotateTrace allowed name req trace result) :
    rotationLabels trace = [label result] := by
  cases path with
  | gated stopped => rfl
  | refused passed check =>
    rw [rotationLabels_append,checked_labels check]
    rfl
  | submitted passed check rest =>
    rw [rotationLabels_append,rotationLabels_append,checked_labels check,submitted_labels rest]
    rfl

theorem label_exact (o : RotateOutcome) :
    (label (.ok o) = "ok" ↔ o.completed = true) ∧
    (label (.ok o) = "failed" ↔ o.completed = false ∧ (o.targets.all fun t => t.error.isSome) = true) ∧
    (label (.ok o) = "partial" ↔ o.completed = false ∧ (o.targets.all fun t => t.error.isSome) = false) := by
  simp only [label]
  generalize (o.targets.all fun t => t.error.isSome) = allFailed
  cases o.completed with
  | true => simp
  | false => cases allFailed <;> simp

theorem Performed.someWrite (performed : Performed name key req trace result) (listed : key.spec.targets ≠ []) :
    ∃ event ∈ trace, isWrite event = true := by
  by_contra none
  have clean : writesOf trace = [] := writesOf_nil.mpr fun event member =>
    Bool.eq_false_iff.mpr fun isWritten => none ⟨event,member,isWritten⟩
  rw [performed.writes] at clean
  exact listed (List.map_eq_nil_iff.mp clean)

-- The three labels of a call that returned an outcome partition what the
-- stores answered; with a target list that is not empty they exclude each other.
theorem Performed.labels (performed : Performed name key req trace (.ok o)) (listed : key.spec.targets ≠ []) :
    (label (.ok o) = "ok" ↔ ∀ event ∈ trace, isWrite event = true → writeSucceeded event = true) ∧
    (label (.ok o) = "failed" ↔ ∀ event ∈ trace, isWrite event = true → writeSucceeded event = false) ∧
    (label (.ok o) = "partial" ↔ (∃ event ∈ trace, isWrite event = true ∧ writeSucceeded event = true) ∧
      ∃ event ∈ trace, isWrite event = true ∧ writeSucceeded event = false) := by
  obtain ⟨event,member,isWritten⟩ := performed.someWrite listed
  obtain ⟨ok,failed,part⟩ := label_exact o
  have completed := performed.completed o rfl
  have allFailed := performed.failed o rfl
  have exclusive : (o.targets.all fun t => t.error.isSome) = true → o.completed = false := by
    intro all
    by_contra done
    have good := completed.mp (by simpa using done) event member isWritten
    have bad := allFailed.mp all event member isWritten
    simp [good] at bad
  refine ⟨ok.trans completed,?_,?_⟩
  · rw [failed,← allFailed]
    exact ⟨fun both => both.2,fun all => ⟨exclusive all,all⟩⟩
  · rw [part,← Bool.not_eq_true,← Bool.not_eq_true,completed,allFailed]
    simp only [not_forall,Bool.not_eq_true,Bool.not_eq_false,exists_prop]
    exact and_comm

theorem gated_untouched (found : Option (Named name)) :
    Untouched [⟨.get name,found⟩,⟨.countRotation "rejected",()⟩] := by
  intro event member
  simp only [List.mem_cons,List.not_mem_nil,or_false] at member
  rcases member with rfl | rfl
  · exact ⟨rfl,rfl⟩
  · exact ⟨rfl,rfl⟩

theorem refused_untouched (check : CheckTrace key req checks (.error e)) (found : Option (Named name)) :
    Untouched (⟨.get name,found⟩ :: checks ++ [⟨.countRotation "rejected",()⟩]) := by
  intro event member
  simp only [List.cons_append,List.mem_cons,List.mem_append,List.not_mem_nil,or_false] at member
  rcases member with rfl | checked | rfl
  · exact ⟨rfl,rfl⟩
  · exact CheckTrace.untouched check event checked
  · exact ⟨rfl,rfl⟩

-- A call is turned away before it touches anything, or it does all it has to do.
theorem rotate_effects [UrlCrate] (path : RotateTrace allowed name req trace result) :
    (∃ e, result = .error e ∧ Untouched trace) ∨ ∃ key, Performed name key req trace result := by
  cases path with
  | @gated found e stopped => exact .inl ⟨e,rfl,gated_untouched found⟩
  | @refused found key checks e passed check => exact .inl ⟨.probe e,rfl,refused_untouched check found⟩
  | @submitted found key checks probe submission result passed check rest =>
    exact .inr ⟨key,SubmitTrace.performed rest check found⟩

theorem rotate_end_to_end [UrlCrate] (run : Returns (rotate allowed name req) trace result) :
    rotationLabels trace = [label result] ∧
    ∃ found rest, trace = ⟨.get name,found⟩ :: rest ∧
      ((∃ e, Refused allowed name req found e ∧ result = .error e ∧ Untouched trace) ∨
      ∃ named, found = some named ∧ Admitted allowed req named.key ∧
        ((∃ e, Consults named.key req ∧
            trace.filter isProbe = [⟨.probe named.key.spec.provider req.value,.error e⟩] ∧
            result = .error (.probe e) ∧ Untouched trace) ∨
        (¬ Consults named.key req ∧ trace.filter isProbe = [] ∨
          Consults named.key req ∧
            ∃ answer, trace.filter isProbe = [⟨.probe named.key.spec.provider req.value,.ok answer⟩]) ∧
        Performed name named.key req trace result ∧
        ∀ o, result = .ok o →
          (label result = "ok" ↔ ∀ event ∈ trace, isWrite event = true → writeSucceeded event = true) ∧
          (label result = "failed" ↔ ∀ event ∈ trace, isWrite event = true → writeSucceeded event = false) ∧
          (label result = "partial" ↔ (∃ event ∈ trace, isWrite event = true ∧ writeSucceeded event = true) ∧
            ∃ event ∈ trace, isWrite event = true ∧ writeSucceeded event = false))) := by
  have path := rotate_returns.mp run
  refine ⟨rotate_labels path,?_⟩
  cases path with
  | @gated found e stopped =>
    exact ⟨found,_,rfl,.inl ⟨e,gate_error.mp stopped,rfl,gated_untouched found⟩⟩
  | @refused found key checks e passed check =>
    obtain ⟨named,rfl,rfl,admitted⟩ := gate_ok.mp passed
    refine ⟨_,_,rfl,.inr ⟨named,rfl,admitted,.inl ⟨e,?_⟩⟩⟩
    rcases CheckTrace.probes check with ⟨_,_,impossible⟩ | ⟨consults,answer,asked,same⟩
    · exact absurd rfl (impossible e)
    · cases (same e).mpr rfl
      exact ⟨consults,by simpa [isProbe] using asked,rfl,refused_untouched check (some named)⟩
  | @submitted found key checks probe submission result passed check rest =>
    obtain ⟨named,rfl,rfl,admitted⟩ := gate_ok.mp passed
    have performed := SubmitTrace.performed rest check (some named)
    refine ⟨_,_,rfl,.inr ⟨named,rfl,admitted,.inr ⟨?_,performed,?_⟩⟩⟩
    · have asked : submission.filter isProbe = [] := submitted_probes rest
      simp only [List.filter_append,List.filter_cons,isProbe,asked,List.filter_nil,List.append_nil,
        Bool.false_eq_true,if_false]
      rcases CheckTrace.probes check with ⟨exempt,none,_⟩ | ⟨consults,answer,one,same⟩
      · exact .inl ⟨exempt,none⟩
      · cases answer with
        | error e => cases (same e).mp rfl
        | ok answer => exact .inr ⟨consults,answer,one⟩
    · intro o returned
      subst returned
      exact performed.labels admitted.listed

-- What a rotation rests on when it writes, or asks for its status update: the key as the
-- repository gave it, with a spec that passed; and then its check, every write and the clock.
def Submits [UrlCrate] (allowed : PathAllowList) (name : String) (req : RotateRequest) (past : Trace) : Effect → Prop
  | .write target value => value = req.value ∧ ∃ found, ⟨.get name,some found⟩ ∈ past ∧
      Admitted allowed req found.key ∧ target ∈ found.key.spec.targets
  | .updateStatus other mutate => other = name ∧ ∃ found checks probe written now, ⟨.get name,some found⟩ ∈ past ∧
      Admitted allowed req found.key ∧ CheckTrace found.key req checks (.ok probe) ∧ checks ⊆ past ∧
      written.map Prod.fst = found.key.spec.targets ∧ (∀ entry ∈ written, writeEvent req.value entry ∈ past) ∧
      ⟨.now,now⟩ ∈ past ∧ mutate = mutationOf found.key req probe written now
  | _ => True

theorem checkKey_quiet (key : ApiKey) (req : RotateRequest) :
    Asks (fun op => (∀ target value, op ≠ .write target value) ∧ ∀ name mutate, op ≠ .updateStatus name mutate)
      (checkKey key req) := by
  unfold checkKey
  split
  · trivial
  · split
    · trivial
    · refine ⟨⟨nofun,nofun⟩,?_⟩
      intro answer
      rcases answer with e | result | result
      · exact ⟨⟨nofun,nofun⟩,fun _ => ⟨⟨nofun,nofun⟩,fun _ => trivial⟩⟩
      · trivial
      · exact ⟨⟨nofun,nofun⟩,fun _ => trivial⟩

theorem writeTargets_writes (value : String) (targets : List TargetSpec) :
    Asks (fun op => ∃ target ∈ targets, op = .write target value) (writeTargets value targets) := by
  induction targets with
  | nil => trivial
  | cons target rest ih =>
    rw [writeTargets,bind_ask,asks_request]
    refine ⟨⟨target,List.mem_cons_self,rfl⟩,?_⟩
    intro answer
    apply asks_bind
    · apply ih.mono
      intro op asked
      obtain ⟨other,member,same⟩ := asked
      exact ⟨other,List.mem_cons_of_mem _ member,same⟩
    · intro outcomes
      trivial

theorem rotate_submits [UrlCrate] {allowed : PathAllowList} {name : String} {req : RotateRequest} {past : Trace} :
    Follows (Submits allowed name req) past (rotate allowed name req) := by
  apply follows_bind
  · rw [rotateInner,bind_ask,follows_request]
    refine ⟨trivial,?_⟩
    intro found
    cases passed : gate allowed name req found with
    | error e => trivial
    | ok key =>
      simp only
      obtain ⟨named,rfl,rfl,admitted⟩ := gate_ok.mp passed
      apply follows_bind
      · apply (checkKey_quiet named.key req).follows
        intro later op quiet
        cases op with
        | write target value => exact absurd rfl (quiet.1 target value)
        | updateStatus other mutate => exact absurd rfl (quiet.2 other mutate)
        | _ => trivial
      · intro result checks checked
        have check := checkKey_returns.mp checked
        cases result with
        | error e => trivial
        | ok probe =>
          apply follows_bind
          · apply (writeTargets_writes req.value named.key.spec.targets).follows
            intro later op asked
            obtain ⟨target,member,rfl⟩ := asked
            exact ⟨rfl,named,by simp,admitted,member⟩
          · intro outcomes writes tried
            obtain ⟨written,all,rfl,rfl⟩ := writeTargets_returns.mp tried
            refine ⟨trivial,fun now => ⟨?_,?_⟩⟩
            · refine ⟨rfl,named,checks,probe,written,now,by simp,admitted,check,?_,all,?_,by simp,rfl⟩
              · intro event member
                simp [member]
              · intro entry member
                simp [List.mem_map_of_mem (f := writeEvent req.value) member]
            · intro answer
              cases answer with
              | error e => trivial
              | ok updated => exact ⟨trivial,fun _ => trivial⟩
  · intro result events _
    exact ⟨trivial,fun _ => trivial⟩

-- Two targets, the second of which does not take the value.
def pairTargets : List TargetSpec :=
  [{openbao := some ⟨"secret","a","token"⟩},{openbao := some ⟨"secret","b","token"⟩}]
def pairKey : Named "pair" := ⟨{metadata := {name := some "pair"},spec := {targets := pairTargets}},rfl⟩
def pairRequest : RotateRequest := ⟨"v",⟨"sub","ada"⟩,none,false⟩
def pairWritten : Written :=
  [(pairTargets[0],.ok ()),(pairTargets[1],.error (.store "sealed"))]
def pairCompleted : Written := pairTargets.map fun target => (target,.ok ())

theorem pairKey_passes : @gate noUrls .allowAll "pair" pairRequest (some pairKey) = .ok pairKey.key := by
  let _ := noUrls
  exact gate_ok.mpr ⟨pairKey,rfl,rfl,by decide,by decide,(validate_plain pairTargets .allowAll).trans (by decide)⟩

theorem pairKey_partial : ∃ trace o, rotationLabels trace = ["partial"] ∧
    writesOf trace = pairTargets.map (fun target => (target,"v")) ∧
    Returns (@rotate noUrls .allowAll "pair" pairRequest) trace (.ok o) := by
  let _ := noUrls
  have path := @SubmitTrace.saved "pair" pairKey.key pairRequest .notSupported .epoch pairWritten pairKey rfl
  have run := rotate_returns.mpr (.submitted pairKey_passes (.generic rfl rfl) path)
  exact ⟨_,_,(rotate_end_to_end run).1,rfl,run⟩

end YouSpinMe.RotationOutcome
