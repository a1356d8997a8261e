import YouSpinMe.RotationTraces
import Mathlib.Data.List.Nodup

namespace YouSpinMe.TargetTable
open Effects Validation Rotation RotationTraces Text Jiff Crd

def Once (targets : List TargetStatus) : Prop := (targets.map TargetStatus.reference).Nodup

@[simp] theorem targetEntry_reference (now : Timestamp) (outcome : TargetOutcome) :
    (targetEntry now outcome).reference = outcome.reference := rfl

theorem targetEntry_failed (now : Timestamp) (outcome : TargetOutcome) :
    (targetEntry now outcome).result = .failed ↔ outcome.error.isSome = true := by
  cases found : outcome.error with
  | none => simp [targetEntry,found]
  | some message => simp [targetEntry,found]

-- In a table that names a target once, an entry takes the place of its target's.
theorem upsert_perm (once : Once targets) (entry : TargetStatus) :
    (upsert entry targets).Perm (entry :: targets.filter fun t => t.reference ≠ entry.reference) := by
  induction targets with
  | nil => exact .refl _
  | cons t rest ih =>
    rw [Once,List.map_cons,List.nodup_cons] at once
    unfold upsert
    by_cases same : t.reference = entry.reference
    · have others : rest.filter (fun t => t.reference ≠ entry.reference) = rest := by
        rw [List.filter_eq_self]
        intro other listed
        rw [decide_eq_true_iff]
        intro equal
        exact once.1 (List.mem_map.mpr ⟨other,listed,equal.trans same.symm⟩)
      rw [if_pos same,List.filter_cons_of_neg (by simpa using same),others]
    · rw [if_neg same,List.filter_cons_of_pos (by simpa using same)]
      exact ((ih once.2).cons t).trans (.swap ..)

theorem upsert_once (once : Once targets) (entry : TargetStatus) : Once (upsert entry targets) := by
  rw [Once,((upsert_perm once entry).map _).nodup_iff,List.map_cons,List.nodup_cons]
  refine ⟨?_,once.sublist (List.filter_sublist.map _)⟩
  intro listed
  obtain ⟨t,member,same⟩ := List.mem_map.mp listed
  simp [same] at member

theorem merge_perm (now : Timestamp) {outcomes : List TargetOutcome} {targets : List TargetStatus}
    (distinct : (outcomes.map TargetOutcome.reference).Nodup) (once : Once targets) :
    (outcomes.foldl (fun merged outcome => upsert (targetEntry now outcome) merged) targets).Perm
      (outcomes.map (targetEntry now) ++
        targets.filter fun t => t.reference ∉ outcomes.map TargetOutcome.reference) := by
  induction outcomes generalizing targets with
  | nil => simp
  | cons outcome outcomes ih =>
    rw [List.map_cons,List.nodup_cons] at distinct
    rw [List.foldl_cons]
    refine (ih distinct.2 (upsert_once once _)).trans ?_
    have replaced := (upsert_perm once (targetEntry now outcome)).filter
      fun t => t.reference ∉ outcomes.map TargetOutcome.reference
    have kept : (targetEntry now outcome :: targets.filter fun t => t.reference ≠ outcome.reference).filter
        (fun t => t.reference ∉ outcomes.map TargetOutcome.reference) =
        targetEntry now outcome ::
          targets.filter fun t => t.reference ∉ (outcome :: outcomes).map TargetOutcome.reference := by
      rw [List.filter_cons_of_pos (by simpa using distinct.1),List.filter_filter]
      congr 2
      funext t
      simp only [List.map_cons,List.mem_cons,not_or,Bool.decide_and]
      rw [Bool.and_comm]
    rw [targetEntry_reference,kept] at replaced
    exact (replaced.append_left _).trans List.perm_middle

-- After a submission the table is the list of its outcomes: nothing that was
-- there before is left.
theorem mergeTargets_perm {outcomes : List TargetOutcome} {targets : List TargetStatus}
    (named : outcomes.map TargetOutcome.reference = references) (distinct : references.Nodup)
    (once : Once targets) : (mergeTargets references now outcomes targets).Perm (outcomes.map (targetEntry now)) := by
  subst named
  have kept : Once (targets.filter fun t => t.reference ∈ outcomes.map TargetOutcome.reference) :=
    once.sublist (List.filter_sublist.map _)
  have merged := merge_perm now distinct kept
  rw [List.filter_filter] at merged
  have stale : targets.filter (fun t => decide (t.reference ∉ outcomes.map TargetOutcome.reference) &&
      decide (t.reference ∈ outcomes.map TargetOutcome.reference)) = [] := by
    rw [List.filter_eq_nil_iff]
    intro t _
    simp
  rw [stale,List.append_nil] at merged
  exact merged

theorem mergeTargets_once {outcomes : List TargetOutcome} {targets : List TargetStatus}
    (named : outcomes.map TargetOutcome.reference = references) (distinct : references.Nodup)
    (once : Once targets) : Once (mergeTargets references now outcomes targets) := by
  rw [Once,((mergeTargets_perm named distinct once).map _).nodup_iff,List.map_map]
  exact named ▸ distinct

-- The targets of a status table by reference whose last write failed.
def failing (status : ApiKeyStatus) : List String :=
  (status.targets.filter fun t => t.result = .failed).map TargetStatus.reference

theorem submitMutation_targets (status : ApiKeyStatus) :
    (submitMutation references outcomes now req probe status).targets =
      mergeTargets references now outcomes status.targets := by
  unfold submitMutation
  split
  · rfl
  · rfl

theorem written_references (written : Written) :
    (written.map outcomeOf).map TargetOutcome.reference = (written.map Prod.fst).map TargetSpec.reference := by
  simp [List.map_map,Function.comp_def,outcomeOf]

theorem failing_submit {outcomes : List TargetOutcome} {status : ApiKeyStatus}
    (named : outcomes.map TargetOutcome.reference = references) (distinct : references.Nodup) (once : Once status.targets) :
    (failing (submitMutation references outcomes now req probe status)).Perm (failedReferences outcomes) := by
  rw [failing,submitMutation_targets]
  have merged : (mergeTargets references now outcomes status.targets).Perm (outcomes.map (targetEntry now)) :=
    mergeTargets_perm named distinct once
  have table := (merged.filter fun t => t.result = .failed).map TargetStatus.reference
  refine table.trans (.of_eq ?_)
  have failed : ∀ outcome ∈ outcomes, decide ((targetEntry now outcome).result = .failed) = outcome.error.isSome := by
    intro outcome _
    rw [Bool.eq_iff_iff,decide_eq_true_iff,targetEntry_failed]
  rw [List.filter_map,List.map_map,failedReferences,← List.filter_congr failed]
  rfl

end YouSpinMe.TargetTable
