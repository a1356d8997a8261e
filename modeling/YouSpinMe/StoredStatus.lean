import YouSpinMe.ResourceJson
import YouSpinMe.RouterWalk
import YouSpinMe.Repository

namespace YouSpinMe.StoredStatus
open RequestProgram SharedRun FieldCodec ResourceJson Effects Validation Rotation RotationTraces RequestGuards RouterWalk
  Identity Http Auth Web Jiff Crd Kube

section Times
variable [KubeTypes]

theorem expiryOf_kept (manual : Option Timestamp) (probe : Option ProbeStatus) :
    expiryOf (manual.map KubeTypes.time.kept) (probe.map keptProbe) =
      ((expiryOf manual probe).1.map KubeTypes.time.kept,(expiryOf manual probe).2) := by
  have detected : (probe.map keptProbe).bind ProbeStatus.expiresAt =
      (probe.bind ProbeStatus.expiresAt).map KubeTypes.time.kept := by
    cases probe with
    | none => rfl
    | some found => rfl
  unfold expiryOf
  rw [detected]
  cases probe.bind ProbeStatus.expiresAt with
  | some _ => rfl
  | none =>
    cases manual with
    | some _ => rfl
    | none => rfl

theorem applyRotation_kept (s : ApiKeyStatus) (atTime : Timestamp) (byActor : Actor) (kind : HistoryKind)
    (manual : Option Timestamp) (probe : Option ProbeStatus) :
    keptStatus (applyRotation s atTime byActor kind manual probe) =
      applyRotation (keptStatus s) (KubeTypes.time.kept atTime) byActor kind (manual.map KubeTypes.time.kept)
        (probe.map keptProbe) := by
  simp only [applyRotation,expiryOf_kept,keptStatus,keptEntry,List.map_take,List.map_cons,Option.map_some]

theorem upsert_kept (entry : TargetStatus) (targets : List TargetStatus) :
    (upsert entry targets).map keptTarget = upsert (keptTarget entry) (targets.map keptTarget) := by
  induction targets with
  | nil => rfl
  | cons head rest ih =>
    by_cases same : head.reference = entry.reference
    · simp [upsert,keptTarget,same]
    · have apart : ¬ (keptTarget head).reference = (keptTarget entry).reference := same
      rw [upsert,if_neg same,List.map_cons,ih,List.map_cons,upsert,if_neg apart]

theorem merged_kept (now : Timestamp) (outcomes : List TargetOutcome) (targets : List TargetStatus) :
    (outcomes.foldl (fun merged outcome => upsert (targetEntry now outcome) merged) targets).map keptTarget =
      outcomes.foldl (fun merged outcome => upsert (targetEntry (KubeTypes.time.kept now) outcome) merged)
        (targets.map keptTarget) := by
  induction outcomes generalizing targets with
  | nil => rfl
  | cons outcome outcomes ih =>
    rw [List.foldl_cons,List.foldl_cons,ih,upsert_kept]
    rfl

theorem mergeTargets_kept (references : List String) (now : Timestamp) (outcomes : List TargetOutcome)
    (targets : List TargetStatus) :
    (mergeTargets references now outcomes targets).map keptTarget =
      mergeTargets references (KubeTypes.time.kept now) outcomes (targets.map keptTarget) := by
  unfold mergeTargets
  rw [merged_kept,List.filter_map]
  rfl

theorem submitMutation_kept (references : List String) (outcomes : List TargetOutcome) (now : Timestamp)
    (req : RotateRequest) (probe : Option ProbeStatus) (s : ApiKeyStatus) :
    keptStatus (submitMutation references outcomes now req probe s) =
      submitMutation references outcomes (KubeTypes.time.kept now)
        {req with manualExpiresAt := req.manualExpiresAt.map KubeTypes.time.kept} (probe.map keptProbe) (keptStatus s) := by
  have merged : keptStatus {s with targets := mergeTargets references now outcomes s.targets} =
      {keptStatus s with targets := mergeTargets references (KubeTypes.time.kept now) outcomes (keptStatus s).targets} := by
    simp only [keptStatus,mergeTargets_kept]
  unfold submitMutation
  split
  · simp only [applyRotation_kept,merged]
  · exact merged

theorem merge_kept (patch : StatusPatch) (s : ApiKeyStatus) :
    keptStatus (patch.merge s) = ({patch with conditions := patch.conditions.map KubeTypes.condition.kept} : StatusPatch).merge (keptStatus s) :=
  rfl

theorem keptStatus_again {s : ApiKeyStatus} (fits : status.fits s) : keptStatus (keptStatus s) = keptStatus s := by
  rw [← status_kept,← status_kept,status.kept_kept fits]

-- A mutation that makes the same of a status and of what is left of it in a store.
structure Robust (mutate : ApiKeyStatus → ApiKeyStatus) : Prop where
  fits : ∀ {s}, status.fits s → status.fits (mutate s)
  kept : ∀ {s}, status.fits s → keptStatus (mutate (keptStatus s)) = keptStatus (mutate s)

theorem submitMutation_robust (references : List String) (outcomes : List TargetOutcome) (now : Timestamp)
    (req : RotateRequest) (probe : Option ProbeStatus) : Robust (submitMutation references outcomes now req probe) := by
  refine ⟨?_,?_⟩
  · intro s fits
    rw [status_fits] at fits ⊢
    unfold submitMutation
    split
    · exact fits
    · exact fits
  · intro s fits
    rw [submitMutation_kept,submitMutation_kept,keptStatus_again fits]

theorem recordMutation_robust (actor : Actor) (rotatedAt : Timestamp) (expiresAt : Option Timestamp) :
    Robust (recordMutation actor rotatedAt expiresAt) := by
  refine ⟨?_,?_⟩
  · intro s fits
    rw [status_fits] at fits ⊢
    exact fits
  · intro s fits
    unfold recordMutation
    rw [applyRotation_kept,applyRotation_kept,keptStatus_again fits]

-- What every request asks of a status is robust.
def Stores : Effect → Prop
  | .updateStatus _ mutate => Robust mutate
  | _ => True

theorem silent_stores (silent : Silent op) : Stores op := by
  cases op with
  | updateStatus => cases silent
  | _ => trivial

theorem stores_walk [Text.CharTables] [Crates] {state : AppState} {request : Request} : Walk state request (fun _ op => Stores op) := by
  apply Walk.acting
  · intro _ op silent
    exact silent_stores silent
  · intro _ session past name dates handled _
    apply saveRecord_follows
    · intro _ op asked
      cases asked with
      | updateStatus => exact recordMutation_robust ..
      | recordEvent => trivial
    · intro _ _
      trivial
  · intro _ session past name form manual found _
    apply rotate_asks.follows
    intro _ op asked
    cases asked with
    | updateStatus => exact submitMutation_robust ..
    | now | get | probe | countProbe | recordEvent | write | countRotation => trivial

theorem reconcilePatch_fits [UrlCrate] (patched : reconcilePatch key allowed now = some patch) (held : status.fits (key.status.getD {}))
    (generation : ∀ n ∈ key.metadata.generation, i64Min ≤ n ∧ n ≤ i64Max) :
    (∀ c ∈ patch.conditions, KubeTypes.condition.fits c) ∧ ∀ n ∈ patch.observedGeneration, i64Min ≤ n ∧ n ≤ i64Max := by
  obtain ⟨condition,desired,rfl⟩ := Option.map_eq_some_iff.mp patched
  refine ⟨?_,generation⟩
  intro c member
  rcases List.mem_append.mp member with kept | added
  · exact (status_fits.mp held).1 c (List.mem_of_mem_filter kept)
  · cases List.mem_singleton.mp added
    apply KubeTypes.condition_fits
    have observed : condition.observedGeneration = key.metadata.generation := by
      unfold desiredValidCondition at desired
      simp only [Option.ite_none_left_eq_some,Option.some.injEq] at desired
      rw [← desired.2]
    rw [observed]
    exact generation

end Times

end YouSpinMe.StoredStatus
