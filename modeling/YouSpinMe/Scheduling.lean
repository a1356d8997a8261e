import YouSpinMe.Validation

namespace YouSpinMe.Scheduling
open Validation Text Jiff Crd

structure Thresholds where
  warnBefore : SignedDuration
  criticalBefore : SignedDuration
  deriving DecidableEq

def Thresholds.default : Thresholds :=
  ⟨.fromSecs 1209600 (by decide) (by decide),.fromSecs 432000 (by decide) (by decide)⟩

inductive State where
  | expired
  | critical
  | warning
  | unknown
  | ok
  deriving DecidableEq

namespace State

def asStr : State → String
  | .expired => "expired"
  | .critical => "critical"
  | .warning => "warning"
  | .unknown => "unknown"
  | .ok => "ok"

def parse (s : String) : Option State :=
  if s = "expired" then some .expired else if s = "critical" then some .critical
  else if s = "warning" then some .warning else if s = "unknown" then some .unknown
  else if s = "ok" then some .ok else none

def ALL : List State := [.expired,.critical,.warning,.unknown,.ok]

theorem parse_exact (text : String) (s : State) : parse text = some s ↔ s.asStr = text := by
  unfold parse
  constructor
  · intro named
    split_ifs at named <;> (cases named; symm; assumption)
  · intro same
    subst same
    cases s <;> rfl

theorem asStr_inj {s t : State} (same : s.asStr = t.asStr) : s = t :=
  Option.some.inj (((parse_exact _ s).mpr rfl).symm.trans ((parse_exact _ t).mpr same.symm))

end State

inductive DeadlineKind where
  | expiry
  | maxAge
  deriving DecidableEq

structure Schedule where
  lastRotated : Option Timestamp
  expiresAt : Option Timestamp
  rotateBy : Option Timestamp
  deadline : Option (Timestamp × DeadlineKind)
  thresholds : Thresholds
  deriving DecidableEq

def rotateByOf (lastRotated : Option Timestamp) (maxAge : Option SignedDuration) : Option Timestamp :=
  match lastRotated,maxAge with
  | some atTime,some age => atTime.checkedAdd age
  | _,_ => none

def deadlineOf (expiresAt rotateBy : Option Timestamp) : Option (Timestamp × DeadlineKind) :=
  match expiresAt,rotateBy with
  | some e,some r => if r < e then some (r,.maxAge) else some (e,.expiry)
  | some e,none => some (e,.expiry)
  | none,some r => some (r,.maxAge)
  | none,none => none

def parseOr (value : Option String) (fallback : SignedDuration) : SignedDuration := (parsed value).getD fallback

def thresholdsOf (policy : RotationPolicy) (defaults : Thresholds) : Thresholds :=
  ⟨parseOr policy.warnBefore defaults.warnBefore,parseOr policy.criticalBefore defaults.criticalBefore⟩

def Schedule.compute (key : ApiKey) (defaults : Thresholds) : Schedule :=
  let lastRotated := key.status.bind ApiKeyStatus.lastRotated
  let expiresAt := key.status.bind ApiKeyStatus.expiresAt
  let rotateBy := rotateByOf lastRotated (parsed key.spec.rotation.maxAge)
  ⟨lastRotated,expiresAt,rotateBy,deadlineOf expiresAt rotateBy,thresholdsOf key.spec.rotation defaults⟩

def Schedule.remaining (schedule : Schedule) (now : Timestamp) : Option SignedDuration :=
  schedule.deadline.map fun deadline => deadline.1.durationSince now

def stateOf (thresholds : Thresholds) : Option SignedDuration → State
  | none => .unknown
  | some r =>
    if r.nanos ≤ 0 then .expired
    else if r < thresholds.criticalBefore then .critical
    else if r < thresholds.warnBefore then .warning
    else .ok

def Schedule.state (schedule : Schedule) (now : Timestamp) : State :=
  stateOf schedule.thresholds (schedule.remaining now)

theorem parsed_nonneg (found : parsed value = some d) : 0 ≤ d.nanos := by
  obtain ⟨text,_,parses⟩ := Option.bind_eq_some_iff.mp found
  cases result : Duration.parse text with
  | error e => simp [result,Except.toOption] at parses
  | ok duration =>
    simp only [result,Except.toOption,Option.some.injEq] at parses
    subst parses
    exact Duration.parse_nonneg result

theorem parseOr_nonneg (positive : 0 ≤ fallback.nanos) (value : Option String) :
    0 ≤ (parseOr value fallback).nanos := by
  unfold parseOr
  cases found : parsed value with
  | none => exact positive
  | some d => exact parsed_nonneg found

theorem rotateByOf_exact : rotateByOf lastRotated maxAge = some r ↔
    ∃ atTime age, lastRotated = some atTime ∧ maxAge = some age ∧ r.nanos = atTime.nanos + age.nanos := by
  unfold rotateByOf
  cases lastRotated with
  | none => simp
  | some atTime =>
    cases maxAge with
    | none => simp
    | some age => simp [Timestamp.checkedAdd_exact]

-- A valid spec's durations can all be read, and its two thresholds are in order
-- when it sets both.
theorem durationProblem_nil [CharTables] : durationProblem field value = [] ↔ (value.isSome → (parsed value).isSome) := by
  cases value with
  | none => simp [durationProblem]
  | some text =>
    cases result : Duration.parse text with
    | error e => simp [durationProblem,parsed,result,Except.toOption]
    | ok d => simp [durationProblem,parsed,result,Except.toOption]

theorem orderProblem_nil {rotation : RotationPolicy} : orderProblem rotation = [] ↔
    ∀ w c, parsed rotation.warnBefore = some w → parsed rotation.criticalBefore = some c → c ≤ w := by
  unfold orderProblem
  cases parsed rotation.warnBefore with
  | none => simp
  | some w =>
    cases parsed rotation.criticalBefore with
    | none => simp
    | some c => simp [SignedDuration.lt_def,SignedDuration.le_def]

structure Readable (rotation : RotationPolicy) : Prop where
  maxAge : rotation.maxAge.isSome → (parsed rotation.maxAge).isSome
  warnBefore : rotation.warnBefore.isSome → (parsed rotation.warnBefore).isSome
  criticalBefore : rotation.criticalBefore.isSome → (parsed rotation.criticalBefore).isSome
  ordered : ∀ w c, parsed rotation.warnBefore = some w → parsed rotation.criticalBefore = some c → c ≤ w

theorem validate_rotation [UrlCrate] (valid : validate spec allowed = []) : Readable spec.rotation := by
  simp only [validate,List.append_eq_nil_iff,durationProblem_nil,orderProblem_nil] at valid
  obtain ⟨⟨⟨⟨⟨maxAge,warnBefore⟩,criticalBefore⟩,ordered⟩,_⟩,_⟩ := valid
  exact ⟨maxAge,warnBefore,criticalBefore,ordered⟩

end YouSpinMe.Scheduling
