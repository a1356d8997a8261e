import YouSpinMe.AuditTrail
import YouSpinMe.Admission
import YouSpinMe.HandlerTraces

namespace YouSpinMe.RejectionReports
open RequestProgram Effects Validation Rotation RotationTraces RotationOutcome AuditTrail Admission HandlerTraces
  Identity Http Auth Text Jiff Crd

def Wrote (trace : Trace) : Prop := ∃ event ∈ trace, writeSucceeded event = true
def Unsaved (trace : Trace) : Prop := ∃ event ∈ trace, saveFailed event = true

-- The two ways a submission is told not to have happened: the metric's label
-- and the panel of the dialog.
def CountedRejected (trace : Trace) : Prop := "rejected" ∈ rotationLabels trace

def ShownNothingWritten (result : Except AppError Response) : Prop :=
  ∃ response panel, result = .ok response ∧ response.body = .rotateResult (some panel) ∧
    panel.heading = "Nothing was written"

theorem untouched_exact (untouched : Untouched trace) : ¬ Wrote trace ∧ ¬ Unsaved trace := by
  refine ⟨?_,?_⟩
  · intro wrote
    obtain ⟨event,member,succeeded⟩ := wrote
    have clean := (untouched event member).1
    obtain ⟨op,answer⟩ := event
    cases op with
    | write => cases clean
    | _ => cases succeeded
  · intro unsaved
    obtain ⟨event,member,failed⟩ := unsaved
    have clean := (untouched event member).2
    obtain ⟨op,answer⟩ := event
    cases op with
    | updateStatus => cases clean
    | _ => cases failed

-- A call that did all it had to do returns an error exactly when the save failed.
theorem performed_unsaved (performed : Performed name key req trace result) :
    Unsaved trace ↔ ∃ e, result = .error e := by
  obtain ⟨now,mutate,answer,updates,_,failed,saved⟩ := performed.update
  refine ⟨?_,?_⟩
  · intro unsaved
    obtain ⟨⟨op,reply⟩,member,lost⟩ := unsaved
    cases op with
    | updateStatus other change =>
      have listed : ⟨.updateStatus other change,reply⟩ ∈ trace.filter isStatusUpdate :=
        List.mem_filter.mpr ⟨member,rfl⟩
      rw [updates] at listed
      cases List.mem_singleton.mp listed
      cases answer with
      | error e => exact ⟨_,failed e rfl⟩
      | ok updated => cases lost
    | _ => cases lost
  · intro stopped
    obtain ⟨e,stopped⟩ := stopped
    have asked : ⟨.updateStatus name mutate,answer⟩ ∈ trace.filter isStatusUpdate := by
      rw [updates]
      exact List.mem_cons_self
    refine ⟨_,List.mem_of_mem_filter asked,?_⟩
    cases answer with
    | error e => rfl
    | ok updated =>
      obtain ⟨o,returned,_⟩ := saved updated rfl
      rw [stopped] at returned
      cases returned

theorem rotate_unsaved [UrlCrate] (path : RotateTrace allowed name req trace result) (unsaved : Unsaved trace) :
    ∃ e, result = .error e := by
  rcases rotate_effects path with ⟨e,stopped,_⟩ | ⟨key,performed⟩
  · exact ⟨e,stopped⟩
  · exact (performed_unsaved performed).mp unsaved

theorem rotate_wrote [UrlCrate] (path : RotateTrace allowed name req trace (.error e)) (wrote : Wrote trace) :
    Unsaved trace := by
  rcases rotate_effects path with ⟨_,_,untouched⟩ | ⟨key,performed⟩
  · exact absurd wrote (untouched_exact untouched).1
  · exact (performed_unsaved performed).mpr ⟨e,rfl⟩

theorem counted_error [UrlCrate] (path : RotateTrace allowed name req trace result) :
    CountedRejected trace ↔ ∃ e, result = .error e := by
  rw [CountedRejected,rotate_labels path,List.mem_singleton]
  cases result with
  | error e => exact iff_of_true rfl ⟨e,rfl⟩
  | ok o =>
    refine iff_of_false ?_ (fun stopped => nomatch stopped.choose_spec)
    simp only [label]
    split
    · decide
    · split
      · decide
      · decide

-- A report that is made whenever the save failed, and that is otherwise made
-- only when nothing was written, is wrong exactly when both happened.
theorem report_exact {reported : Prop} (told : Unsaved trace → reported)
    (founded : reported → Wrote trace → Unsaved trace) :
    (reported → ¬ Wrote trace) ↔ ¬ (Wrote trace ∧ Unsaved trace) := by
  refine ⟨?_,?_⟩
  · intro right both
    exact right (told both.2) both.1
  · intro saved report wrote
    exact saved ⟨wrote,founded report wrote⟩

theorem shown_error [CharTables] [Format] {consumers : List String} {result : Except RotateError RotateOutcome} :
    ShownNothingWritten (.ok (Pages.rotated name consumers result)) → ∃ e, result = .error e := by
  intro shown
  obtain ⟨response,panel,equal,body,heading⟩ := shown
  cases equal
  cases result with
  | error e => exact ⟨e,rfl⟩
  | ok o =>
    obtain ⟨probe,targets,completed,mismatch⟩ := o
    cases completed with
    | true =>
      have different : "Key rotated" ≠ "Nothing was written" := by decide
      cases body
      exact absurd heading different
    | false =>
      have different : "Some targets failed" ≠ "Nothing was written" := by decide
      cases body
      exact absurd heading different

theorem wrote_cons {found : Option (Named name)} : Wrote (⟨.get name,found⟩ :: trace) ↔ Wrote trace := by
  simp [Wrote,writeSucceeded]

theorem unsaved_cons {found : Option (Named name)} : Unsaved (⟨.get name,found⟩ :: trace) ↔ Unsaved trace := by
  simp [Unsaved,saveFailed]

-- Either report is made of a submission that reached a store only when its
-- status was not saved, and then it is made although keys were written.
theorem rejection_reports [UrlCrate] [Format] :
    (∀ allowed name req trace result, Returns (Rotation.rotate allowed name req) trace result →
      ((CountedRejected trace → ¬ Wrote trace) ↔ ¬ (Wrote trace ∧ Unsaved trace))) ∧
    ∀ state session headers name form trace result,
      Returns (Pages.rotate state session headers name form) trace result →
      ((CountedRejected trace ∨ ShownNothingWritten result → ¬ Wrote trace) ↔ ¬ (Wrote trace ∧ Unsaved trace)) := by
  refine ⟨?_,?_⟩
  · intro allowed name req trace result run
    have path := rotate_returns.mp run
    apply report_exact
    · intro unsaved
      exact (counted_error path).mpr (rotate_unsaved path unsaved)
    · intro counted wrote
      obtain ⟨e,rfl⟩ := (counted_error path).mp counted
      exact rotate_wrote path wrote
  · intro state session headers name form trace result run
    cases rotateHandler_returns.mp run with
    | unmatched refused =>
      apply report_exact
      · intro unsaved
        cases unsaved.choose_spec.1
      · intro _ wrote
        cases wrote.choose_spec.1
    | undated matched unread =>
      apply report_exact
      · intro unsaved
        simp [Unsaved,saveFailed] at unsaved
      · intro _ wrote
        simp [Wrote,writeSucceeded] at wrote
    | @dated manual rotation outcome found matched read path =>
      rw [wrote_cons,unsaved_cons]
      have counted : CountedRejected (⟨.get name,found⟩ :: rotation) ↔ CountedRejected rotation := Iff.rfl
      apply report_exact
      · intro unsaved
        exact .inl (counted.mpr ((counted_error path).mpr (rotate_unsaved path unsaved)))
      · intro reported wrote
        have stopped : ∃ e, outcome = .error e := by
          rcases reported with label | shown
          · exact (counted_error path).mp (counted.mp label)
          · exact shown_error shown
        obtain ⟨e,rfl⟩ := stopped
        exact rotate_wrote path wrote

def dialogSession : Session := ⟨"sub","ada",true,"token",none,0⟩
def dialogForm : Pages.RotateForm := ⟨some "token","v","",none⟩

theorem handler_run [UrlCrate] [Format] {found : Option (Named name)}
    (matched : session.checkCsrf headers form.csrf = .ok ()) (parsed : Pages.parseDate form.expiresAt = .ok manual)
    (rotation : Returns (Rotation.rotate state.allowed name (Pages.rotateRequest session form manual)) trace outcome) :
    Returns (Pages.rotate state session headers name form) (⟨.get name,found⟩ :: trace)
      (.ok (Pages.rotated name ((found.map fun named => named.key.spec.consumers).getD []) outcome)) :=
  rotateHandler_returns.mpr (.dated matched parsed (rotate_returns.mp rotation))

theorem dialog_run [UrlCrate] [Format] {found : Option (Named "pair")}
    (rotation : Returns (Rotation.rotate visitState.allowed "pair" pairRequest) trace outcome) :
    Returns (Pages.rotate visitState dialogSession [] "pair" dialogForm) (⟨.get "pair",found⟩ :: trace)
      (.ok (Pages.rotated "pair" ((found.map fun named => named.key.spec.consumers).getD []) outcome)) :=
  handler_run (by decide) rfl rotation

-- Both stores took the new key, but the status could not be saved.
theorem lost_save_rejected : ∃ trace result,
    Returns (@Pages.rotate noUrls epochFormat visitState dialogSession [] "pair" dialogForm) trace result ∧
    CountedRejected trace ∧ ShownNothingWritten result ∧ Wrote trace := by
  let _ := noUrls
  let _ := epochFormat
  have path := @SubmitTrace.unsaved "pair" pairKey.key pairRequest .notSupported .conflict .epoch pairCompleted rfl
  have rotation := rotate_returns.mpr (.submitted pairKey_passes (.generic rfl rfl) path)
  refine ⟨_,_,@dialog_run _ _ _ _ (some pairKey) rotation,?_,⟨_,_,rfl,rfl,rfl⟩,?_⟩
  · exact List.mem_cons_self
  · exact ⟨⟨.write pairTargets[0] "v",.ok ()⟩,List.mem_cons_of_mem _ (List.mem_cons_of_mem _ List.mem_cons_self),rfl⟩

theorem unknown_key_rejected : ∃ trace result,
    Returns (@Pages.rotate noUrls epochFormat visitState dialogSession [] "pair" dialogForm) trace result ∧
    CountedRejected trace ∧ ShownNothingWritten result ∧ ¬ Wrote trace := by
  let _ := noUrls
  let _ := epochFormat
  have stopped : gate visitState.allowed "pair" pairRequest none = .error (.notFound "pair") := rfl
  have run := @dialog_run _ _ _ _ none (rotate_returns.mpr (.gated stopped))
  have counted : CountedRejected [⟨.get "pair",none⟩,⟨.get "pair",none⟩,⟨.countRotation "rejected",()⟩] :=
    List.mem_cons_self
  have saved : ¬ Unsaved [⟨.get "pair",none⟩,⟨.get "pair",none⟩,⟨.countRotation "rejected",()⟩] := by
    simp [Unsaved,saveFailed]
  exact ⟨_,_,run,counted,⟨_,_,rfl,rfl,rfl⟩,
    (rejection_reports.2 _ _ _ _ _ _ _ run).mpr (fun both => saved both.2) (.inl counted)⟩

end YouSpinMe.RejectionReports
