import YouSpinMe.Metrics
import Mathlib.Tactic.Ring
import Mathlib.Tactic.FieldSimp

namespace YouSpinMe.Alerts
open Scheduling PromQl Metrics Text Jiff Crd

def remainingExpr : Expr := .sub (.metric "youspinme_apikey_deadline_timestamp_seconds") .time
def warnExpr : Expr := .metric "youspinme_apikey_warn_before_seconds"
def criticalExpr : Expr := .metric "youspinme_apikey_critical_before_seconds"

def expiringSoon : Rule where
  alert := "ApiKeyExpiringSoon"
  expr := .and (.compare .lt remainingExpr warnExpr) (.compare .ge remainingExpr criticalExpr)

def expiringVerySoon : Rule where
  alert := "ApiKeyExpiringVerySoon"
  expr := .and (.compare .lt remainingExpr criticalExpr) (.compareScalar .gt remainingExpr (.literal 0))

def expiredRule : Rule where
  alert := "ApiKeyExpired"
  expr := .compareScalar .le remainingExpr (.literal 0)

def stateUnknown : Rule where
  alert := "ApiKeyStateUnknown"
  expr := .compareScalar .eq (.metric "youspinme_apikey_state_known") (.literal 0)

-- The rules on a key's deadline; the file has two more, on targets and on the
-- scrape itself.
def stateRules : List Rule := [expiringSoon,expiringVerySoon,expiredRule,stateUnknown]

-- Prometheus' own clock, in seconds.
def clock (now : Timestamp) : ℚ := now.nanos / 1000000000

def firing (collector : KeyCollector) (now : Timestamp) (key : ApiKey) : List String :=
  (stateRules.filter fun rule => rule.fires (exported collector.encode) (clock now) (keyLabels key)).map Rule.alert

-- The names of the rules that fire a time `r` before a deadline.
def firingAt (thresholds : Thresholds) (r : SignedDuration) : List String :=
  (if r < thresholds.warnBefore ∧ thresholds.criticalBefore ≤ r then ["ApiKeyExpiringSoon"] else []) ++
  (if r < thresholds.criticalBefore ∧ 0 < r.nanos then ["ApiKeyExpiringVerySoon"] else []) ++
  if r.nanos ≤ 0 then ["ApiKeyExpired"] else []

-- The alerts that say what the interface says.
def alertsOf : State → List String
  | .warning => ["ApiKeyExpiringSoon"]
  | .critical => ["ApiKeyExpiringVerySoon"]
  | .expired => ["ApiKeyExpired"]
  | .unknown => ["ApiKeyStateUnknown"]
  | .ok => []

theorem asSecsF64_lt {a b : SignedDuration} : asSecsF64 a < asSecsF64 b ↔ a < b := by
  rw [asSecsF64,asSecsF64,div_lt_div_iff_of_pos_right (by norm_num),Int.cast_lt]
  rfl

theorem asSecsF64_le {a b : SignedDuration} : asSecsF64 a ≤ asSecsF64 b ↔ a ≤ b := by
  rw [asSecsF64,asSecsF64,div_le_div_iff_of_pos_right (by norm_num),Int.cast_le]
  rfl

theorem asSecsF64_nonpos {d : SignedDuration} : asSecsF64 d ≤ 0 ↔ d.nanos ≤ 0 := by
  rw [asSecsF64,div_le_iff₀ (by norm_num),zero_mul]
  exact_mod_cast Iff.rfl

theorem asSecsF64_pos {d : SignedDuration} : 0 < asSecsF64 d ↔ 0 < d.nanos := by
  rw [← Int.not_le,← asSecsF64_nonpos,not_le]

-- A deadline of whole milliseconds is exported without loss.
theorem remaining_seconds {t : Timestamp} (whole : t.nanos % 1000000 = 0) (now : Timestamp) :
    seconds t - clock now = asSecsF64 (t.durationSince now) := by
  obtain ⟨ms,exact⟩ := Int.dvd_of_emod_eq_zero whole
  have truncated : t.asMillisecond = ms := by simp [Timestamp.asMillisecond,exact]
  have difference : (t.durationSince now).nanos = 1000000 * ms - now.nanos := by
    simp [Timestamp.durationSince,exact]
  rw [seconds,truncated,clock,asSecsF64,difference]
  push_cast
  field_simp
  ring

-- A deadline that no gauge rounds.
def WholeDeadline (schedule : Schedule) : Prop :=
  ∀ d, schedule.deadline = some d → d.1.nanos % 1000000 = 0

section Rules
variable {collector : KeyCollector} {key : ApiKey} {now : Timestamp}

theorem stateRules_metrics : ∀ rule ∈ stateRules, ∀ name ∈ rule.expr.metrics, Judged name := by
  unfold Judged
  decide

theorem rule_fires (listed : rule ∈ stateRules) :
    rule.fires (exported collector.encode) (clock now) (keyLabels key) =
      (rule.expr.at (reading (exported collector.encode) (keyLabels key)) (clock now)).isSome :=
  fires_exact rule (fun name mentioned => judged_once (stateRules_metrics rule listed name mentioned)) _ _

section Listed
variable (member : key ∈ collector.repo.keys)
include member

theorem remainingExpr_at (whole : WholeDeadline (Schedule.compute key collector.thresholds)) :
    remainingExpr.at (reading (exported collector.encode) (keyLabels key)) (clock now) =
      ((Schedule.compute key collector.thresholds).remaining now).map asSecsF64 := by
  have deadline := gauge_reading deadlineGauge_listed member
  simp only [remainingExpr,Expr.at,deadline,rowOf,Option.map_map,Schedule.remaining,Scalar.value]
  cases found : (Schedule.compute key collector.thresholds).deadline with
  | none => rfl
  | some d => exact congrArg some (remaining_seconds (whole d found) now)

theorem warnExpr_at : warnExpr.at (reading (exported collector.encode) (keyLabels key)) (clock now) =
    some (asSecsF64 (Schedule.compute key collector.thresholds).thresholds.warnBefore) :=
  gauge_reading warnGauge_listed member

theorem criticalExpr_at : criticalExpr.at (reading (exported collector.encode) (keyLabels key)) (clock now) =
    some (asSecsF64 (Schedule.compute key collector.thresholds).thresholds.criticalBefore) :=
  gauge_reading criticalGauge_listed member

theorem knownExpr_at : (Expr.metric "youspinme_apikey_state_known").at
    (reading (exported collector.encode) (keyLabels key)) (clock now) =
      some (flag (Schedule.compute key collector.thresholds).deadline.isSome) :=
  gauge_reading knownGauge_listed member

-- What the rules say of a key, in the terms of its schedule.
theorem expiringSoon_fires (whole : WholeDeadline (Schedule.compute key collector.thresholds)) :
    expiringSoon.fires (exported collector.encode) (clock now) (keyLabels key) =
      ((Schedule.compute key collector.thresholds).remaining now).any fun r =>
        r < (Schedule.compute key collector.thresholds).thresholds.warnBefore &&
        (Schedule.compute key collector.thresholds).thresholds.criticalBefore ≤ r := by
  rw [rule_fires (.head _)]
  simp only [expiringSoon,at_and,at_compare,remainingExpr_at member whole,warnExpr_at member,criticalExpr_at member]
  cases (Schedule.compute key collector.thresholds).remaining now with
  | none => rfl
  | some r => simp [Comparison.holds,asSecsF64_lt,asSecsF64_le]

theorem expiringVerySoon_fires (whole : WholeDeadline (Schedule.compute key collector.thresholds)) :
    expiringVerySoon.fires (exported collector.encode) (clock now) (keyLabels key) =
      ((Schedule.compute key collector.thresholds).remaining now).any fun r =>
        r < (Schedule.compute key collector.thresholds).thresholds.criticalBefore && 0 < r.nanos := by
  rw [rule_fires (.tail _ (.head _))]
  simp only [expiringVerySoon,at_and,at_compare,at_compareScalar,remainingExpr_at member whole,criticalExpr_at member]
  cases (Schedule.compute key collector.thresholds).remaining now with
  | none => rfl
  | some r => simp [Comparison.holds,Scalar.value,asSecsF64_lt,asSecsF64_pos]

theorem expiredRule_fires (whole : WholeDeadline (Schedule.compute key collector.thresholds)) :
    expiredRule.fires (exported collector.encode) (clock now) (keyLabels key) =
      ((Schedule.compute key collector.thresholds).remaining now).any fun r => r.nanos ≤ 0 := by
  rw [rule_fires (.tail _ (.tail _ (.head _)))]
  simp only [expiredRule,at_compareScalar,remainingExpr_at member whole]
  cases (Schedule.compute key collector.thresholds).remaining now with
  | none => rfl
  | some r => simp [Comparison.holds,Scalar.value,asSecsF64_nonpos]

theorem stateUnknown_fires : stateUnknown.fires (exported collector.encode) (clock now) (keyLabels key) =
    (Schedule.compute key collector.thresholds).deadline.isNone := by
  rw [rule_fires (.tail _ (.tail _ (.tail _ (.head _))))]
  simp only [stateUnknown,at_compareScalar,knownExpr_at member]
  cases (Schedule.compute key collector.thresholds).deadline with
  | none => rfl
  | some d => rfl

end Listed

-- The deadline has come this very instant, there is no critical phase, but a
-- warning phase there is.
def OnTheInstant (schedule : Schedule) (now : Timestamp) : Prop :=
  schedule.deadline.map Prod.fst = some now ∧ schedule.thresholds.criticalBefore.nanos = 0 ∧
    0 < schedule.thresholds.warnBefore.nanos

theorem thresholds_nonneg (defaults : Thresholds) (warn : 0 ≤ defaults.warnBefore.nanos)
    (critical : 0 ≤ defaults.criticalBefore.nanos) (policy : RotationPolicy) :
    0 ≤ (thresholdsOf policy defaults).warnBefore.nanos ∧ 0 ≤ (thresholdsOf policy defaults).criticalBefore.nanos :=
  ⟨parseOr_nonneg warn _,parseOr_nonneg critical _⟩

-- Only where a deadline is due and no time is critical do two rules fire.
theorem firingAt_state (thresholds : Thresholds) (warn : 0 ≤ thresholds.warnBefore.nanos)
    (critical : 0 ≤ thresholds.criticalBefore.nanos) (r : SignedDuration) :
    firingAt thresholds r = alertsOf (stateOf thresholds (some r)) ↔
      ¬ (r.nanos = 0 ∧ thresholds.criticalBefore.nanos = 0 ∧ 0 < thresholds.warnBefore.nanos) := by
  simp only [firingAt,stateOf,SignedDuration.lt_def,SignedDuration.le_def]
  by_cases due : r.nanos ≤ 0
  · have late : ¬ (r.nanos < thresholds.criticalBefore.nanos ∧ 0 < r.nanos) := by omega
    rw [if_pos due,if_pos due,if_neg late]
    by_cases soon : r.nanos < thresholds.warnBefore.nanos ∧ thresholds.criticalBefore.nanos ≤ r.nanos
    · rw [if_pos soon]
      exact iff_of_false (by simp [alertsOf]) (by omega)
    · rw [if_neg soon]
      exact iff_of_true rfl (by omega)
  · rw [if_neg due,if_neg due]
    refine iff_of_true ?_ (by omega)
    by_cases inside : r.nanos < thresholds.criticalBefore.nanos
    · have soon : ¬ (r.nanos < thresholds.warnBefore.nanos ∧ thresholds.criticalBefore.nanos ≤ r.nanos) := by omega
      have verySoon : r.nanos < thresholds.criticalBefore.nanos ∧ 0 < r.nanos := by omega
      rw [if_neg soon,if_pos verySoon,if_pos inside]
      rfl
    · have verySoon : ¬ (r.nanos < thresholds.criticalBefore.nanos ∧ 0 < r.nanos) := by omega
      rw [if_neg verySoon,if_neg inside]
      by_cases warning : r.nanos < thresholds.warnBefore.nanos
      · have soon : r.nanos < thresholds.warnBefore.nanos ∧ thresholds.criticalBefore.nanos ≤ r.nanos := by omega
        rw [if_pos soon,if_pos warning]
        rfl
      · have soon : ¬ (r.nanos < thresholds.warnBefore.nanos ∧ thresholds.criticalBefore.nanos ≤ r.nanos) := by omega
        rw [if_neg soon,if_neg warning]
        rfl

theorem firing_known (member : key ∈ collector.repo.keys)
    (whole : WholeDeadline (Schedule.compute key collector.thresholds))
    (left : (Schedule.compute key collector.thresholds).remaining now = some r) :
    firing collector now key = firingAt (Schedule.compute key collector.thresholds).thresholds r := by
  have known : (Schedule.compute key collector.thresholds).deadline.isNone = false := by
    unfold Schedule.remaining at left
    obtain ⟨d,found,_⟩ := Option.map_eq_some_iff.mp left
    rw [found]
    rfl
  simp only [firing,stateRules,List.filter_cons,List.filter_nil,expiringSoon_fires member whole,
    expiringVerySoon_fires member whole,expiredRule_fires member whole,stateUnknown_fires member,left,known,
    Option.any_some,firingAt,Bool.and_eq_true,decide_eq_true_eq,Bool.false_eq_true,if_false]
  split <;> split <;> split <;> rfl

theorem firing_unknown (member : key ∈ collector.repo.keys)
    (whole : WholeDeadline (Schedule.compute key collector.thresholds))
    (absent : (Schedule.compute key collector.thresholds).deadline = none) :
    firing collector now key = ["ApiKeyStateUnknown"] := by
  have left : (Schedule.compute key collector.thresholds).remaining now = none := by
    rw [Schedule.remaining,absent]
    rfl
  simp only [firing,stateRules,List.filter_cons,List.filter_nil,expiringSoon_fires member whole,
    expiringVerySoon_fires member whole,expiredRule_fires member whole,stateUnknown_fires member,left,absent,
    Option.any_none,Option.isNone_none,Bool.false_eq_true,if_false,if_true]
  rfl

theorem alerts_match (collector : KeyCollector) (member : key ∈ collector.repo.keys)
    (warn : Duration.parse warnText = .ok collector.thresholds.warnBefore)
    (critical : Duration.parse criticalText = .ok collector.thresholds.criticalBefore)
    (whole : WholeDeadline (Schedule.compute key collector.thresholds)) (now : Timestamp) :
    firing collector now key = alertsOf ((Schedule.compute key collector.thresholds).state now) ↔
      ¬ OnTheInstant (Schedule.compute key collector.thresholds) now := by
  obtain ⟨warnPositive,criticalPositive⟩ := thresholds_nonneg collector.thresholds (Duration.parse_nonneg warn)
    (Duration.parse_nonneg critical) key.spec.rotation
  cases found : (Schedule.compute key collector.thresholds).deadline with
  | none =>
    rw [firing_unknown member whole found]
    refine iff_of_true ?_ ?_
    · simp [Schedule.state,Schedule.remaining,found,stateOf,alertsOf]
    · simp [OnTheInstant,found]
  | some d =>
    have left : (Schedule.compute key collector.thresholds).remaining now = some (d.1.durationSince now) := by
      rw [Schedule.remaining,found]
      rfl
    have due : (d.1.durationSince now).nanos = 0 ↔ d.1 = now := by
      rw [← Timestamp.nanos_inj]
      simp only [Timestamp.durationSince]
      omega
    have classified := firingAt_state (Schedule.compute key collector.thresholds).thresholds warnPositive
      criticalPositive (d.1.durationSince now)
    rw [firing_known member whole left,Schedule.state,left,classified,due]
    simp [OnTheInstant,found]

-- A key without a critical phase, at its deadline.
def zeroCritical : ApiKey where
  metadata := {name := some "zero"}
  spec := {rotation := {criticalBefore := some "0s"}}
  status := some {expiresAt := some .epoch}

def zeroCollector : KeyCollector := ⟨.single zeroCritical,.default⟩

theorem zeroCritical_fires_both :
    (Schedule.compute zeroCritical zeroCollector.thresholds).state .epoch = .expired ∧
    firing zeroCollector .epoch zeroCritical = ["ApiKeyExpiringSoon","ApiKeyExpired"] := by
  refine ⟨by decide,?_⟩
  have whole : WholeDeadline (Schedule.compute zeroCritical zeroCollector.thresholds) := by
    intro d found
    cases found
    rfl
  rw [firing_known (.head _) whole rfl]
  decide

def expiringKey : ApiKey where
  metadata := {name := some "expiring"}
  spec := {}
  status := some {expiresAt := some .epoch}

theorem expiringKey_matches : firing ⟨.single expiringKey,.default⟩ .epoch expiringKey = ["ApiKeyExpired"] := by
  have whole : WholeDeadline (Schedule.compute expiringKey .default) := by
    intro d found
    cases found
    rfl
  have passed : ¬ OnTheInstant (Schedule.compute expiringKey .default) .epoch := by
    intro instant
    have positive : (Schedule.compute expiringKey .default).thresholds.criticalBefore.nanos ≠ 0 := by decide
    exact positive instant.2.1
  have warn : Duration.parse "14d" = .ok Thresholds.default.warnBefore := by decide
  have critical : Duration.parse "5d" = .ok Thresholds.default.criticalBefore := by decide
  exact (alerts_match ⟨.single expiringKey,.default⟩ (.head _) warn critical whole .epoch).mpr passed

end Rules

end YouSpinMe.Alerts
