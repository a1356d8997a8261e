import YouSpinMe.Attribution
import YouSpinMe.RotationHistory
import YouSpinMe.TargetTable

namespace YouSpinMe.Bookkeeping
open RequestProgram SharedRun Effects Validation Rotation RotationTraces RotationOutcome RotationHistory TargetTable RequestGuards RouterWalk
  Repository KubeRepository Attribution Admission Identity Http Auth Web Text Jiff Crd

-- What every status that this application wrote has in common: the rotation fields are
-- those of some list of rotations, and the table has one row for a target, with a
-- message exactly where a write failed.
structure WellKept (status : ApiKeyStatus) : Prop where
  coherent : ∃ applied, Coherent (recordOf status) applied
  once : Once status.targets
  rows : ∀ t ∈ status.targets, (t.result = .failed ↔ t.message.isSome = true) ∧ t.lastWritten.isSome = true

theorem mem_upsert {targets : List TargetStatus} (member : t ∈ upsert entry targets) : t = entry ∨ t ∈ targets := by
  induction targets with
  | nil => exact .inl (List.mem_singleton.mp member)
  | cons head rest ih =>
    unfold upsert at member
    split at member
    · rcases List.mem_cons.mp member with rfl | later
      · exact .inl rfl
      · exact .inr (List.mem_cons_of_mem _ later)
    · rcases List.mem_cons.mp member with rfl | later
      · exact .inr List.mem_cons_self
      · rcases ih later with same | earlier
        · exact .inl same
        · exact .inr (List.mem_cons_of_mem _ earlier)

-- A table of the merge, whatever was tried and however often.
theorem merged_rows {outcomes : List TargetOutcome} {targets : List TargetStatus} (once : Once targets)
    (rows : ∀ t ∈ targets, (t.result = .failed ↔ t.message.isSome = true) ∧ t.lastWritten.isSome = true) :
    Once (outcomes.foldl (fun merged outcome => upsert (targetEntry now outcome) merged) targets) ∧
    ∀ t ∈ outcomes.foldl (fun merged outcome => upsert (targetEntry now outcome) merged) targets,
      (t.result = .failed ↔ t.message.isSome = true) ∧ t.lastWritten.isSome = true := by
  induction outcomes generalizing targets with
  | nil => exact ⟨once,rows⟩
  | cons outcome outcomes ih =>
    apply ih (upsert_once once _)
    intro t member
    rcases mem_upsert member with rfl | earlier
    · exact ⟨targetEntry_failed now outcome,rfl⟩
    · exact rows t earlier

theorem mergeTargets_rows {outcomes : List TargetOutcome} (kept : WellKept status) :
    Once (mergeTargets references now outcomes status.targets) ∧
    ∀ t ∈ mergeTargets references now outcomes status.targets,
      (t.result = .failed ↔ t.message.isSome = true) ∧ t.lastWritten.isSome = true := by
  apply merged_rows
  · exact kept.once.sublist (List.filter_sublist.map _)
  · intro t member
    exact kept.rows t (List.mem_of_mem_filter member)

theorem wellKept_lasting : Lasting WellKept := by
  refine ⟨⟨⟨[],blank_coherent⟩,List.nodup_nil,?_⟩,?_⟩
  · intro t member
    cases member
  · intro status patch kept
    exact ⟨kept.coherent,kept.once,kept.rows⟩

theorem mutation_wellKept (kept : WellKept status) (rotates : Rotates mutate)
    (table : Once (mutate status).targets ∧
      ∀ t ∈ (mutate status).targets, (t.result = .failed ↔ t.message.isSome = true) ∧ t.lastWritten.isSome = true) :
    WellKept (mutate status) := by
  obtain ⟨applied,coherent⟩ := kept.coherent
  exact ⟨⟨_,mutation_coherent coherent rotates⟩,table.1,table.2⟩

theorem RecordRequests.keeps (asked : RecordRequests name actor rotatedAt expiresAt op) : Keeps WellKept op := by
  cases asked with
  | updateStatus =>
    intro status kept
    exact mutation_wellKept kept (recordMutation_rotates ..) ⟨kept.once,kept.rows⟩
  | recordEvent => trivial

theorem RotateRequests.keeps (asked : RotateRequests name req op) : Keeps WellKept op := by
  cases asked with
  | updateStatus =>
    intro status kept
    apply mutation_wellKept kept (submitMutation_rotates ..)
    rw [submitMutation_targets]
    exact mergeTargets_rows kept
  | now | get | probe | countProbe | recordEvent | write | countRotation => trivial

theorem silent_keeps {inv : ApiKeyStatus → Prop} (silent : Silent op) : Keeps inv op := by
  cases op with
  | updateStatus => cases silent
  | _ => trivial

theorem keeps_walk [CharTables] [Crates] {state : AppState} {request : Request} : Walk state request (fun _ op => Keeps WellKept op) := by
  apply Walk.acting
  · intro _ op silent
    exact silent_keeps silent
  · intro _ session past name dates handled _
    exact saveRecord_follows (fun _ _ asked => RecordRequests.keeps asked) fun _ _ => trivial
  · intro _ session past name form manual found _
    apply rotate_asks.follows
    intro _ op asked
    exact RotateRequests.keeps asked

section Run
variable [UrlCrate] [Format] [Crates] {ι : Type} [DecidableEq ι] {state : AppState} {requests : ι → Request} {ρ : Type}
  {rest : Server ρ Answer} {x y : ρ}

-- Whoever asks in between, in whatever order, and whatever is lost on the way: every
-- status that is stored, or that a cache still hands out, is one that is well kept.
theorem statuses_well_kept {w after : World} (numbered : Numbered w)
    (path : Runs (Cluster rest) (fun i => onCluster (router state (requests i))) (w,x) log below (after,y))
    (start : (registryOf w).All WellKept) : (registryOf after).All WellKept :=
  cluster_all wellKept_lasting numbered path (fun _ => router_walk keeps_walk) start

end Run

theorem visited_well_kept : ∃ r, visited.2.2.1.objects "pair" = some r ∧ r.object.status.history ≠ [] ∧
    WellKept r.object.status := by
  let _ := visitCrates
  let _ := noUrls
  let _ := epochFormat
  obtain ⟨r,there,entries⟩ := visited_stored
  have kept := statuses_well_kept (single_numbered _) visited_runs (single_all wellKept_lasting.unwritten)
  refine ⟨r,there,?_,kept.1 "pair" r.object (update_registry there)⟩
  intro none
  rw [none] at entries
  cases entries

end YouSpinMe.Bookkeeping
