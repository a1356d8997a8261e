import YouSpinMe.Scheduling

namespace YouSpinMe.WarningPhase
open Validation Scheduling Text Jiff Crd

-- No key is critical that would not be in its warning phase otherwise.
def WarnsFirst (schedule : Schedule) : Prop :=
  schedule.thresholds.criticalBefore ≤ schedule.thresholds.warnBefore ∧
  ∀ now r, schedule.remaining now = some r → schedule.state now = .critical → r < schedule.thresholds.warnBefore

theorem state_critical {schedule : Schedule} (left : schedule.remaining now = some r)
    (critical : schedule.state now = .critical) : 0 < r.nanos ∧ r < schedule.thresholds.criticalBefore := by
  simp only [Schedule.state,left,stateOf] at critical
  split at critical
  · cases critical
  · rename_i unexpired
    split at critical
    · rename_i inside
      exact ⟨Int.not_le.mp unexpired,inside⟩
    · split at critical <;> cases critical

theorem warnsFirst_ordered {schedule : Schedule} :
    WarnsFirst schedule ↔ schedule.thresholds.criticalBefore ≤ schedule.thresholds.warnBefore := by
  refine ⟨And.left,fun ordered => ⟨ordered,?_⟩⟩
  intro now r left critical
  have inside := (state_critical left critical).2
  rw [SignedDuration.lt_def] at inside ⊢
  rw [SignedDuration.le_def] at ordered
  omega

-- A threshold that the spec sets alone is on the right side of the default that
-- stands in for the other.
def Fits (rotation : RotationPolicy) (defaults : Thresholds) : Prop :=
  (rotation.criticalBefore = none → ∀ w, parsed rotation.warnBefore = some w → defaults.criticalBefore ≤ w) ∧
  (rotation.warnBefore = none → ∀ c, parsed rotation.criticalBefore = some c → c ≤ defaults.warnBefore)

theorem thresholds_fit {rotation : RotationPolicy} (readable : Readable rotation)
    (ordered : defaults.criticalBefore ≤ defaults.warnBefore) :
    (thresholdsOf rotation defaults).criticalBefore ≤ (thresholdsOf rotation defaults).warnBefore ↔
      Fits rotation defaults := by
  unfold thresholdsOf parseOr Fits
  cases warn : rotation.warnBefore with
  | none =>
    cases critical : rotation.criticalBefore with
    | none => simpa [parsed] using ordered
    | some c =>
      obtain ⟨d,found⟩ := Option.isSome_iff_exists.mp (readable.criticalBefore (by simp [critical]))
      rw [critical] at found
      rw [found]
      simp [parsed]
  | some w =>
    obtain ⟨d,found⟩ := Option.isSome_iff_exists.mp (readable.warnBefore (by simp [warn]))
    cases critical : rotation.criticalBefore with
    | none =>
      rw [warn] at found
      rw [found]
      simp [parsed]
    | some c =>
      obtain ⟨e,read⟩ := Option.isSome_iff_exists.mp (readable.criticalBefore (by simp [critical]))
      have both := readable.ordered d e found read
      rw [warn] at found
      rw [critical] at read
      rw [found,read]
      simpa using both

theorem warning_phase_kept [UrlCrate] (key : ApiKey) (allowed : PathAllowList) (defaults : Thresholds)
    (ordered : defaults.criticalBefore ≤ defaults.warnBefore) (valid : validate key.spec allowed = []) :
    WarnsFirst (Schedule.compute key defaults) ↔ Fits key.spec.rotation defaults :=
  warnsFirst_ordered.trans (thresholds_fit (validate_rotation valid) ordered)

-- A shorter warning than the default critical threshold.
def shortWarning : ApiKey where
  metadata := {name := some "short"}
  spec := {rotation := {warnBefore := some "1d"}}

theorem shortWarning_loses_phase : @validate noUrls shortWarning.spec .allowAll = [] ∧
    Thresholds.default.criticalBefore ≤ Thresholds.default.warnBefore ∧
    ¬ WarnsFirst (Schedule.compute shortWarning .default) := by
  refine ⟨by decide,by decide,?_⟩
  rw [warnsFirst_ordered]
  decide

def longWarning : ApiKey where
  metadata := {name := some "long"}
  spec := {rotation := {warnBefore := some "30d"}}

theorem longWarning_keeps_phase : WarnsFirst (Schedule.compute longWarning .default) := by
  let _ := noUrls
  refine (warning_phase_kept longWarning .allowAll .default (by decide) (by decide)).mpr ⟨?_,?_⟩
  · intro _ w found
    have thirty : parsed (some "30d") = some (.fromSecs 2592000 (by decide) (by decide)) := by decide
    cases thirty.symm.trans found
    decide
  · intro absent
    cases absent

end YouSpinMe.WarningPhase
