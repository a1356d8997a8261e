import YouSpinMe.RotationRaces

namespace YouSpinMe.AuditTrail
open RequestProgram SharedRun Effects Validation Rotation RotationTraces RotationOutcome RotationRaces Text Jiff Crd

def proberRefused : Event Answer → Bool
  | ⟨.probe _ _,.error _⟩ => true
  | _ => false

def saveFailed : Event Answer → Bool
  | ⟨.updateStatus _ _,.error _⟩ => true
  | _ => false

def writeFailed (event : Event Answer) : Bool := isWrite event && !writeSucceeded event

-- An event on a key that names an actor.
structure Names (actor : Actor) (name : String) (entry : String × AuditEvent) : Prop where
  key : entry.1 = name
  actor : ∃ rest, entry.2.note = actor.display ++ rest

-- A submission that reached a store or was refused by the prober is told of once.
def RotateAudited (name : String) (actor : Actor) (trace : Trace) : Prop :=
  (∃ event ∈ trace, isWrite event = true ∨ proberRefused event = true) →
    ∃ entry, auditOf trace = [entry] ∧ Names actor name entry ∧
      (entry.2.reason = "Rotated" ↔
        (∃ event ∈ trace, isWrite event = true) ∧ ∀ event ∈ trace, writeFailed event = false) ∧
      (entry.2.reason = "RotationFailed" ↔ ∃ event ∈ trace, writeFailed event = true) ∧
      (entry.2.reason = "RotationFailed" → entry.2.warning = true) ∧
      (entry.2.reason = "RotationRejected" ↔ ∃ event ∈ trace, proberRefused event = true)

def RecordAudited (name : String) (actor : Actor) (trace : Trace) : Prop :=
  ∃ entry, auditOf trace = [entry] ∧ Names actor name entry ∧ entry.2.reason = "Recorded"

theorem record_audited [Format] (path : RecordTrace name actor rotatedAt expiresAt now trace (.ok key)) :
    RecordAudited name actor trace := by
  cases path with
  | recorded dated ordered =>
    rename_i updated
    refine ⟨_,rfl,⟨updated.named,?_⟩,rfl⟩
    simp only [recordNote,String.append_assoc]
    exact ⟨_,rfl⟩

theorem auditOf_append (first second : Trace) : auditOf (first ++ second) = auditOf first ++ auditOf second :=
  List.filterMap_append ..

theorem auditOf_written (value : String) (written : Written) : auditOf (written.map (writeEvent value)) = [] := by
  simp [auditOf,List.filterMap_map,Function.comp_def,writeEvent]

-- What the prober let pass leaves nothing for the trail.
theorem passed_quiet (check : CheckTrace key req checks (.ok probe)) :
    auditOf checks = [] ∧ ∀ event ∈ checks, proberRefused event = false ∧ saveFailed event = false := by
  cases check with
  | skipped | generic => exact ⟨rfl,fun _ member => nomatch member⟩
  | checked | unsupported => exact ⟨rfl,by simp [proberRefused,saveFailed]⟩

theorem refused_audited (check : CheckTrace key req checks (.error e)) (found : Option (Named name)) :
    auditOf (⟨.get name,found⟩ :: checks ++ [⟨.countRotation "rejected",()⟩]) =
      [(key.name,⟨"RotationRejected",req.actor.display ++ ": " ++ e.text,true⟩)] ∧
    (∃ event ∈ checks, proberRefused event = true) ∧
    ∀ event ∈ ⟨.get name,found⟩ :: checks ++ [⟨.countRotation "rejected",()⟩],
      isWrite event = false ∧ saveFailed event = false := by
  cases check with
  | refused consults =>
    refine ⟨rfl,by simp [proberRefused],?_⟩
    simp [isWrite,saveFailed]

theorem submitted_quiet (path : SubmitTrace name key req probe submission result) :
    ∀ event ∈ submission, proberRefused event = false := by
  have written : ∀ written : Written, ∀ event ∈ written.map (writeEvent req.value), proberRefused event = false := by
    intro written event member
    obtain ⟨entry,_,rfl⟩ := List.mem_map.mp member
    rfl
  intro event member
  cases path with
  | unsaved all | saved all =>
    rcases List.mem_append.mp member with early | late
    · exact written _ event early
    · simp only [List.mem_cons,List.not_mem_nil,or_false] at late
      rcases late with rfl | rfl | rfl <;> rfl

theorem submitEvent_exact (actor : Actor) (outcomes : List TargetOutcome) :
    ((submitEvent actor outcomes).reason = "Rotated" ↔ allWritten outcomes = true) ∧
    ((submitEvent actor outcomes).reason = "RotationFailed" ↔ allWritten outcomes = false) ∧
    ((submitEvent actor outcomes).reason = "RotationFailed" → (submitEvent actor outcomes).warning = true) ∧
    (submitEvent actor outcomes).reason ≠ "RotationRejected" ∧
    ∃ rest, (submitEvent actor outcomes).note = actor.display ++ rest := by
  unfold submitEvent
  cases allWritten outcomes with
  | true => simp [String.append_assoc]
  | false => simp [String.append_assoc]

theorem writeFailed_none {trace : Trace} : (∀ event ∈ trace, writeFailed event = false) ↔
    ∀ event ∈ trace, isWrite event = true → writeSucceeded event = true := by
  refine forall₂_congr fun event _ => ?_
  cases written : isWrite event <;> simp [writeFailed,written]

theorem writeFailed_some {trace : Trace} : (∃ event ∈ trace, writeFailed event = true) ↔
    ¬ ∀ event ∈ trace, isWrite event = true → writeSucceeded event = true := by
  rw [← writeFailed_none]
  simp

theorem whole_forall (property : Event Answer → Prop) {checks submission : Trace} {found : Option (Named name)}
    (first : property ⟨.get name,found⟩) (checked : ∀ event ∈ checks, property event)
    (submitted : ∀ event ∈ submission, property event) (counted : property ⟨.countRotation result,()⟩) :
    ∀ event ∈ ⟨.get name,found⟩ :: checks ++ submission ++ [⟨.countRotation result,()⟩], property event := by
  intro event member
  simp only [List.cons_append,List.mem_cons,List.mem_append,List.not_mem_nil,or_false] at member
  rcases member with rfl | (early | late) | rfl
  · exact first
  · exact checked event early
  · exact submitted event late
  · exact counted

-- The event of a saved submission, whatever the stores answered.
theorem saved_audited [UrlCrate] {updated : Named name} {written : Written}
    (performed : Performed name key req trace (.ok (outcomeFor req probe written now))) (listed : key.spec.targets ≠ [])
    (audit : auditOf trace = [(updated.key.name,submitEvent req.actor (written.map outcomeOf))])
    (unrefused : ∀ event ∈ trace, proberRefused event = false) : RotateAudited name req.actor trace := by
  intro _
  obtain ⟨rotated,failed,warning,unrejected,named⟩ := submitEvent_exact req.actor (written.map outcomeOf)
  have completed : allWritten (written.map outcomeOf) = true ↔
      ∀ event ∈ trace, isWrite event = true → writeSucceeded event = true := performed.completed _ rfl
  have someWrite := performed.someWrite listed
  refine ⟨_,audit,⟨updated.named,named⟩,?_,?_,warning,?_⟩
  · rw [writeFailed_none,← completed,rotated]
    exact ⟨fun all => ⟨someWrite,all⟩,fun both => both.2⟩
  · rw [writeFailed_some,← completed,failed,Bool.not_eq_true]
  · refine iff_of_false unrejected ?_
    intro refused
    obtain ⟨event,member,rejected⟩ := refused
    rw [unrefused event member] at rejected
    cases rejected

theorem rotate_audited [UrlCrate] (path : RotateTrace allowed name req trace result) :
    RotateAudited name req.actor trace ↔ ∀ event ∈ trace, saveFailed event = false := by
  cases path with
  | gated stopped =>
    refine iff_of_true ?_ (by simp [saveFailed])
    intro reached
    simp [isWrite,proberRefused] at reached
  | @refused found key checks e passed check =>
    obtain ⟨named,rfl,rfl,_⟩ := gate_ok.mp passed
    obtain ⟨audit,⟨event,asked,refused⟩,quiet⟩ := refused_audited check (some named)
    refine iff_of_true ?_ fun event member => (quiet event member).2
    intro _
    refine ⟨_,audit,⟨named.named,_,String.append_assoc ..⟩,?_,?_,fun _ => rfl,?_⟩
    · refine iff_of_false (by simp) ?_
      intro written
      obtain ⟨⟨event,member,isWritten⟩,_⟩ := written
      rw [(quiet event member).1] at isWritten
      cases isWritten
    · refine iff_of_false (by simp) ?_
      intro failed
      obtain ⟨event,member,failed⟩ := failed
      simp [writeFailed,(quiet event member).1] at failed
    · exact iff_of_true rfl ⟨event,by simp [asked],refused⟩
  | @submitted found key checks probe submission _ passed check rest =>
    obtain ⟨named,rfl,rfl,admitted⟩ := gate_ok.mp passed
    obtain ⟨silent,passing⟩ := passed_quiet check
    have performed := SubmitTrace.performed rest check (some named)
    have unrefused := submitted_quiet rest
    cases rest with
    | @unsaved e now written all =>
      refine iff_of_false ?_ ?_
      · intro audited
        obtain ⟨event,member,isWritten⟩ := performed.someWrite admitted.listed
        obtain ⟨entry,audit,_⟩ := audited ⟨event,member,.inl isWritten⟩
        rw [auditOf_append,auditOf_append,auditOf_append,auditOf_written] at audit
        change (auditOf checks ++ _) ++ _ = _ at audit
        rw [silent] at audit
        cases audit
      · intro clean
        have failed := clean ⟨.updateStatus name (mutationOf named.key req probe written now),.error e⟩
          (List.mem_append_left _ (List.mem_append_right _ (List.mem_append_right _ (by simp))))
        cases failed
    | @saved now written updated all =>
      refine iff_of_true ?_ ?_
      · apply saved_audited performed admitted.listed
        · rw [auditOf_append,auditOf_append,auditOf_append,auditOf_written]
          change (auditOf checks ++ _) ++ _ = _
          rw [silent]
          rfl
        · exact whole_forall (proberRefused · = false) rfl (fun event member => (passing event member).1) unrefused rfl
      · refine whole_forall (saveFailed · = false) rfl (fun event member => (passing event member).2) ?_ rfl
        intro event member
        rcases List.mem_append.mp member with early | late
        · obtain ⟨entry,_,rfl⟩ := List.mem_map.mp early
          rfl
        · simp only [List.mem_cons,List.not_mem_nil,or_false] at late
          rcases late with rfl | rfl | rfl <;> rfl

-- The two kinds of calls, and what one of them returned.
inductive Call where
  | record (name : String) (actor : Actor) (rotatedAt : Timestamp) (expiresAt : Option Timestamp) (now : Timestamp)
  | rotate (allowed : PathAllowList) (name : String) (req : RotateRequest)

inductive Returned where
  | recorded (result : Except RecordError ApiKey)
  | rotated (result : Except RotateError RotateOutcome)

def Call.program [UrlCrate] [Format] : Call → App Returned
  | .record name actor rotatedAt expiresAt now => do
    let result ← Rotation.record name actor rotatedAt expiresAt now
    pure (.recorded result)
  | .rotate allowed name req => do
    let result ← Rotation.rotate allowed name req
    pure (.rotated result)

-- What the trail has to tell of a call that came to its end.
def Audited : Call → Trace → Returned → Prop
  | .record name actor _ _ _,trace,.recorded (.ok _) => RecordAudited name actor trace
  | .rotate _ name req,trace,.rotated _ => RotateAudited name req.actor trace
  | _,_,_ => True

-- The save of a rotation that came to its end was answered with an error.
def SaveFailed : Call → Trace → Prop
  | .rotate .. ,trace => ∃ event ∈ trace, saveFailed event = true
  | .record .. ,_ => False

theorem call_audited [UrlCrate] [Format] {call : Call} (run : Returns call.program trace returned) :
    Audited call trace returned ↔ ¬ SaveFailed call trace := by
  cases call with
  | record name actor rotatedAt expiresAt now =>
    rw [Call.program,returns_bind] at run
    obtain ⟨result,earlier,_,rfl,first,last⟩ := run
    obtain ⟨rfl,rfl⟩ := returns_done.mp last
    refine iff_of_true ?_ (fun none => none)
    cases result with
    | error e => trivial
    | ok key =>
      rw [List.append_nil]
      exact record_audited (record_returns.mp first)
  | rotate allowed name req =>
    rw [Call.program,returns_bind] at run
    obtain ⟨result,earlier,_,rfl,first,last⟩ := run
    obtain ⟨rfl,rfl⟩ := returns_done.mp last
    rw [List.append_nil]
    have exact := rotate_audited (rotate_returns.mp first)
    simp only [Audited,SaveFailed,not_exists,not_and,Bool.not_eq_true]
    exact exact

-- Calls that overlap in any way, on a repository, stores and a prober that
-- answer anything: every finished call is told of exactly when its save did not fail.
theorem audit_trail [UrlCrate] [Format] {ι : Type} [DecidableEq ι] (calls : ι → Call) {server : Server σ Answer}
    {log : List (ι × Event Answer)} {remainder : ι → App Returned}
    (path : Runs server (fun i => (calls i).program) s log remainder after) :
    ((∀ i, ¬ SaveFailed (calls i) (own i log)) → ∀ i returned, remainder i = .done returned →
      Audited (calls i) (own i log) returned) ∧
    ∀ i returned, remainder i = .done returned →
      (Audited (calls i) (own i log) returned ↔ ¬ SaveFailed (calls i) (own i log)) := by
  have each : ∀ i returned, remainder i = .done returned →
      (Audited (calls i) (own i log) returned ↔ ¬ SaveFailed (calls i) (own i log)) := by
    intro i returned ended
    have steps := path.steps i
    rw [ended] at steps
    exact call_audited steps
  exact ⟨fun saved i returned ended => (each i returned ended).mpr (saved i),each⟩

-- Every target took the value, but the save was answered with a conflict.
theorem unsaved_untold : ∃ trace result, Returns (@rotate noUrls .allowAll "pair" pairRequest) trace result ∧
    writesOf trace = pairTargets.map (fun target => (target,"v")) ∧
    trace.any writeFailed = false ∧ auditOf trace = [] := by
  let _ := noUrls
  have path := @SubmitTrace.unsaved "pair" pairKey.key pairRequest .notSupported .conflict .epoch pairCompleted rfl
  have run := rotate_returns.mpr (.submitted pairKey_passes (.generic rfl rfl) path)
  exact ⟨_,_,run,rfl,rfl,rfl⟩

-- The same key rotated by two calls that take turns, and whose saves succeed.
def rivalCalls (i : Bool) : Call := .rotate .allowAll "pair" (rivals i)

theorem rivals_told : ∃ trace, RotateAudited "pair" (rivals true).actor trace ∧
    writesOf trace = pairTargets.map (fun target => (target,"v1")) := by
  let _ := noUrls
  let _ := epochFormat
  have path := schedule_runs respond_serves overtaking (fun i => (rivalCalls i).program) pairSite
  have clean : (own true (schedule respond overtaking (fun i => (rivalCalls i).program) pairSite).1).any saveFailed =
      false := rfl
  have saved : ¬ SaveFailed (rivalCalls true)
      (own true (schedule respond overtaking (fun i => (rivalCalls i).program) pairSite).1) := by
    intro failed
    rw [List.any_eq_true.mpr failed] at clean
    cases clean
  exact ⟨_,((audit_trail rivalCalls path).2 true _ rfl).mpr saved,rfl⟩

end YouSpinMe.AuditTrail
