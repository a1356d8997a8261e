import Mathlib.Order.Monotone.Basic

namespace YouSpinMe.UnitScale

-- Units that grow with the amount that is shown in them. An amount of one unit is
-- shown in that unit.
structure Scale where
  unit : Nat → Nat
  positive : ∀ n, 0 < unit n
  mono : Monotone unit
  below : ∀ n, n ≠ 0 → unit n ≤ n
  fixed : ∀ n, unit (unit n) = unit n

variable (scale : Scale) {m n : Nat}

-- What is shown: so many whole units. And what they come to.
def Scale.count (n : Nat) : Nat := n / scale.unit n
def Scale.floor (n : Nat) : Nat := scale.count n * scale.unit n

theorem floor_le (n : Nat) : scale.floor n ≤ n := Nat.div_mul_le_self n (scale.unit n)

theorem floor_near (n : Nat) : n < scale.floor n + scale.unit n := Nat.lt_div_mul_add (scale.positive n)

theorem count_nonzero (filled : n ≠ 0) : scale.count n ≠ 0 :=
  (Nat.div_pos (scale.below n filled) (scale.positive n)).ne'

-- From one unit on, up to an amount of that unit, everything is of it.
theorem unit_between (above : scale.unit n ≤ m) (upto : m ≤ n) : scale.unit m = scale.unit n := by
  have least := scale.mono above
  rw [scale.fixed] at least
  exact Nat.le_antisymm (scale.mono upto) least

theorem unit_floor (n : Nat) : scale.unit (scale.floor n) = scale.unit n := by
  by_cases filled : n = 0
  · subst filled
    simp [Scale.floor,Scale.count]
  · have whole : 1 ≤ scale.count n := Nat.one_le_iff_ne_zero.mpr (count_nonzero scale filled)
    exact unit_between scale (Nat.le_mul_of_pos_left _ whole) (floor_le scale n)

theorem count_floor (n : Nat) : scale.count (scale.floor n) = scale.count n := by
  rw [Scale.count,unit_floor]
  exact Nat.mul_div_cancel _ (scale.positive n)

-- Across a change of unit the lesser amount is below one of the greater unit.
theorem floor_mono : Monotone scale.floor := by
  intro m n le
  rcases Nat.lt_or_ge m (scale.unit n) with less | same
  · by_cases filled : n = 0
    · subst filled
      rw [Nat.le_zero.mp le]
    · have whole : 1 ≤ scale.count n := Nat.one_le_iff_ne_zero.mpr (count_nonzero scale filled)
      calc scale.floor m ≤ m := floor_le scale m
        _ ≤ scale.unit n := less.le
        _ ≤ scale.floor n := Nat.le_mul_of_pos_left _ whole
  · rw [Scale.floor,Scale.floor,Scale.count,Scale.count,unit_between scale same le]
    exact Nat.mul_le_mul_right _ (Nat.div_le_div_right le)

end YouSpinMe.UnitScale
