import YouSpinMe.Scheduling
import Mathlib.Order.Lattice

namespace YouSpinMe.Deadlines
open Validation Scheduling Text Jiff Crd

-- The last instant that a timestamp can name.
def lastNanos : Int := 253402207200999999999

def expiryNanos (key : ApiKey) : Option Int := (key.status.bind ApiKeyStatus.expiresAt).map Timestamp.nanos

-- `last_rotated + maxAge` over the integers, when both are set.
def rotateByNanos (key : ApiKey) : Option Int :=
  match key.status.bind ApiKeyStatus.lastRotated,parsed key.spec.rotation.maxAge with
  | some atTime,some age => some (atTime.nanos + age.nanos)
  | _,_ => none

theorem rotateByNanos_isSome : (rotateByNanos key).isSome ↔
    (key.status.bind ApiKeyStatus.lastRotated).isSome ∧ (parsed key.spec.rotation.maxAge).isSome := by
  unfold rotateByNanos
  cases key.status.bind ApiKeyStatus.lastRotated with
  | none => simp
  | some atTime =>
    cases parsed key.spec.rotation.maxAge with
    | none => simp
    | some age => simp

-- An age is never negative, so that a sum can only leave the range at its end.
theorem rotateBy_nanos (key : ApiKey) (defaults : Thresholds) (n : Int) :
    (∃ r, (Schedule.compute key defaults).rotateBy = some r ∧ r.nanos = n) ↔
      rotateByNanos key = some n ∧ n ≤ lastNanos := by
  simp only [Schedule.compute,rotateByOf_exact,rotateByNanos]
  constructor
  · rintro ⟨r,⟨atTime,age,last,found,sum⟩,rfl⟩
    rw [last,found]
    exact ⟨congrArg some sum.symm,r.upper⟩
  · rintro ⟨sum,inside⟩
    cases last : key.status.bind ApiKeyStatus.lastRotated with
    | none => simp [last] at sum
    | some atTime =>
      cases found : parsed key.spec.rotation.maxAge with
      | none => simp [last,found] at sum
      | some age =>
        simp only [last,found,Option.some.injEq] at sum
        have early := atTime.lower
        have positive := parsed_nonneg found
        exact ⟨⟨n,by omega,inside⟩,⟨atTime,age,rfl,rfl,sum.symm⟩,rfl⟩

theorem deadlineOf_isSome : (deadlineOf expiresAt rotateBy).isSome ↔ expiresAt.isSome ∨ rotateBy.isSome := by
  unfold deadlineOf
  cases expiresAt with
  | none => cases rotateBy <;> simp
  | some e =>
    cases rotateBy with
    | none => simp
    | some r =>
      simp only
      split <;> simp

theorem deadlineOf_parts (found : deadlineOf expiresAt rotateBy = some (t,kind)) :
    (kind = .expiry ∧ expiresAt = some t ∧ ∀ r, rotateBy = some r → t ≤ r) ∨
    (kind = .maxAge ∧ rotateBy = some t ∧ ∀ e, expiresAt = some e → t < e) := by
  unfold deadlineOf at found
  cases expiresAt with
  | none =>
    cases rotateBy with
    | none => cases found
    | some r => cases found; exact .inr ⟨rfl,rfl,fun e absent => nomatch absent⟩
  | some e =>
    cases rotateBy with
    | none => cases found; exact .inl ⟨rfl,rfl,fun r absent => nomatch absent⟩
    | some r =>
      simp only at found
      split at found
      · rename_i sooner
        cases found
        exact .inr ⟨rfl,rfl,fun e same => by cases same; exact sooner⟩
      · rename_i later
        cases found
        exact .inl ⟨rfl,rfl,fun r same => by cases same; exact Int.not_lt.mp later⟩

theorem state_unknown (schedule : Schedule) (now : Timestamp) :
    schedule.state now = .unknown ↔ schedule.deadline = none := by
  unfold Schedule.state Schedule.remaining
  cases schedule.deadline with
  | none => simp [stateOf]
  | some deadline =>
    simp only [Option.map_some,stateOf,reduceCtorEq,iff_false]
    split
    · simp
    · split
      · simp
      · split <;> simp

theorem deadline_exact [UrlCrate] (key : ApiKey) (allowed : PathAllowList) (defaults : Thresholds)
    (valid : validate key.spec allowed = []) :
    let schedule := Schedule.compute key defaults
    ((rotateByNanos key).isSome ↔
      (key.status.bind ApiKeyStatus.lastRotated).isSome ∧ key.spec.rotation.maxAge.isSome) ∧
    (schedule.deadline.isSome ↔
      (expiryNanos key).isSome ∨ ∃ n, rotateByNanos key = some n ∧ n ≤ lastNanos) ∧
    (∀ t kind, schedule.deadline = some (t,kind) →
      some t.nanos = Option.merge min (expiryNanos key) (rotateByNanos key) ∧
      (kind = .maxAge ↔ ∃ n, rotateByNanos key = some n ∧ ∀ e, expiryNanos key = some e → n < e)) ∧
    ∀ now, (rotateByNanos key).isSome →
      (schedule.state now = .unknown ↔ expiryNanos key = none ∧ ∀ n, rotateByNanos key = some n → lastNanos < n) := by
  intro schedule
  have sums := rotateBy_nanos key defaults
  have isSome : schedule.deadline.isSome ↔
      (expiryNanos key).isSome ∨ ∃ n, rotateByNanos key = some n ∧ n ≤ lastNanos := by
    have either := @deadlineOf_isSome schedule.expiresAt schedule.rotateBy
    rw [show schedule.deadline = deadlineOf schedule.expiresAt schedule.rotateBy from rfl,either]
    refine or_congr (by rw [expiryNanos,Option.isSome_map]; rfl) ?_
    rw [Option.isSome_iff_exists]
    constructor
    · rintro ⟨r,found⟩
      exact ⟨r.nanos,(sums r.nanos).mp ⟨r,found,rfl⟩⟩
    · rintro ⟨n,inside⟩
      obtain ⟨r,found,_⟩ := (sums n).mpr inside
      exact ⟨r,found⟩
  refine ⟨?_,isSome,?_,?_⟩
  · rw [rotateByNanos_isSome]
    refine and_congr_right fun _ => ⟨?_,(validate_rotation valid).maxAge⟩
    intro readable
    obtain ⟨d,found⟩ := Option.isSome_iff_exists.mp readable
    obtain ⟨text,set,_⟩ := Option.bind_eq_some_iff.mp found
    simp [set]
  · intro t kind found
    rcases deadlineOf_parts found with ⟨rfl,expires,first⟩ | ⟨rfl,rotates,first⟩
    · have expiry : expiryNanos key = some t.nanos := congrArg (Option.map Timestamp.nanos) expires
      -- a sum beyond the range is later than any expiry
      have later : ∀ n, rotateByNanos key = some n → t.nanos ≤ n := by
        intro n sum
        by_cases inside : n ≤ lastNanos
        · obtain ⟨r,rotates,rfl⟩ := (sums n).mpr ⟨sum,inside⟩
          exact first r rotates
        · exact t.upper.trans (Int.le_of_lt (Int.not_le.mp inside))
      rw [expiry]
      cases sum : rotateByNanos key with
      | none => simp
      | some n =>
        have bound := later n sum
        simp only [Option.merge_some_some,Option.some.injEq,forall_eq',exists_eq_left',reduceCtorEq,false_iff,
          Int.not_lt]
        omega
    · obtain ⟨sum,_⟩ := (sums t.nanos).mp ⟨t,rotates,rfl⟩
      rw [sum]
      cases expires : key.status.bind ApiKeyStatus.expiresAt with
      | none => simp [expiryNanos,expires]
      | some e =>
        have bound : t.nanos < e.nanos := first e expires
        simp only [expiryNanos,expires,Option.map_some,Option.merge_some_some,Option.some.injEq,forall_eq',
          exists_eq_left',true_iff]
        omega
  · intro now set
    obtain ⟨n,sum⟩ := Option.isSome_iff_exists.mp set
    rw [state_unknown,← Option.not_isSome_iff_eq_none,isSome]
    simp only [sum,Option.some.injEq,exists_eq_left',forall_eq',not_or,Option.not_isSome_iff_eq_none,Int.not_le]

-- A valid spec whose rotation policy reaches beyond the last timestamp.
def agelessKey : ApiKey where
  metadata := {name := some "ageless"}
  spec := {rotation := {maxAge := some "9000000d"}}
  status := some {lastRotated := some .epoch}

theorem agelessKey_valid : @validate noUrls agelessKey.spec .allowAll = [] := by decide

theorem ageless_key_unknown : @validate noUrls agelessKey.spec .allowAll = [] ∧
    (agelessKey.status.bind ApiKeyStatus.lastRotated).isSome ∧ agelessKey.spec.rotation.maxAge.isSome ∧
    (Schedule.compute agelessKey .default).deadline = none ∧
    (Schedule.compute agelessKey .default).state .epoch = .unknown :=
  ⟨agelessKey_valid,rfl,rfl,by decide,by decide⟩

theorem agelessKey_sum : (rotateByNanos agelessKey).isSome ∧
    ((Schedule.compute agelessKey .default).state .epoch = .unknown ↔
      expiryNanos agelessKey = none ∧ ∀ n, rotateByNanos agelessKey = some n → lastNanos < n) := by
  let _ := noUrls
  have exact := deadline_exact agelessKey .allowAll .default agelessKey_valid
  have set : (rotateByNanos agelessKey).isSome := exact.1.mpr ⟨rfl,rfl⟩
  exact ⟨set,exact.2.2.2 .epoch set⟩

end YouSpinMe.Deadlines
