import YouSpinMe.DurationGrammar
import YouSpinMe.UnitScale

namespace YouSpinMe.HumanizedDurations
open Text Jiff Duration DurationGrammar UnitScale

-- The largest fitting unit, and its letter.
def unitSecs (secs : Nat) : Nat :=
  if 86400 ≤ secs then 86400 else if 3600 ≤ secs then 3600 else if 60 ≤ secs then 60 else 1

def suffix (secs : Nat) : Char :=
  if 86400 ≤ secs then 'd' else if 3600 ≤ secs then 'h' else if 60 ≤ secs then 'm' else 's'

theorem unitSecs_positive (secs : Nat) : 0 < unitSecs secs := by
  unfold unitSecs
  split_ifs <;> omega

theorem unitSecs_mono : Monotone unitSecs := by
  intro m n le
  unfold unitSecs
  split_ifs <;> omega

theorem unitSecs_below (secs : Nat) (filled : secs ≠ 0) : unitSecs secs ≤ secs := by
  unfold unitSecs
  split_ifs <;> omega

theorem unitSecs_fixed (secs : Nat) : unitSecs (unitSecs secs) = unitSecs secs := by
  unfold unitSecs
  split_ifs <;> omega

def durations : Scale := ⟨unitSecs,unitSecs_positive,unitSecs_mono,unitSecs_below,unitSecs_fixed⟩

theorem suffix_known (secs : Nat) : secondsPerUnit (suffix secs) = some (durations.unit secs) := by
  change _ = some (unitSecs secs)
  unfold suffix unitSecs
  split_ifs <;> rfl

-- Equal units have equal letters.
theorem suffix_unit (same : durations.unit m = durations.unit n) : suffix m = suffix n := by
  change unitSecs m = unitSecs n at same
  unfold unitSecs at same
  unfold suffix
  split_ifs at same ⊢ <;> first | rfl | omega

theorem humanize_text (inside : d.asSecs ≠ i64Min) :
    humanize d = toString (durations.count d.asSecs.natAbs) ++ String.singleton (suffix d.asSecs.natAbs) := by
  have secs : absSecs d = d.asSecs.natAbs := if_neg inside
  have unit : durations.unit d.asSecs.natAbs = unitSecs d.asSecs.natAbs := rfl
  rw [Scale.count,unit]
  simp only [humanize,secs,unitSecs,suffix]
  generalize d.asSecs.natAbs = n
  by_cases day : 86400 ≤ n
  · rw [if_pos (by omega),if_pos day,if_pos day]
    rfl
  · rw [if_neg (by omega),if_neg day,if_neg day]
    by_cases hour : 3600 ≤ n
    · rw [if_pos (by omega),if_pos hour,if_pos hour]
      rfl
    · rw [if_neg (by omega),if_neg hour,if_neg hour]
      by_cases minute : 60 ≤ n
      · rw [if_pos (by omega),if_pos minute,if_pos minute]
        rfl
      · rw [if_neg (by omega),if_neg minute,if_neg minute,Nat.div_one]
        rfl

-- A number is read back from the digits it is written with.
theorem number_digits (n : Nat) : number (Nat.toDigits 10 n) = n := by
  have step : (fun (read : Nat) (c : Char) => read * 10 + (c.toNat - '0'.toNat)) =
      fun read c => 10 * read + (c.toNat - '0'.toNat) := by
    funext read c
    rw [Nat.mul_comm]
  rw [number,step,← Nat.ofDigitChars_eq_foldl]
  exact Nat.ofDigitChars_toDigits (by decide) (by decide)

theorem digits_ascii (n : Nat) : ∀ c ∈ Nat.toDigits 10 n, '0' ≤ c ∧ c ≤ '9' :=
  (digits_range _).mp (List.all_eq_true.mpr fun _ digit => Nat.isDigit_of_mem_toDigits (by decide) (by decide) digit)

theorem digit_visible (lower : '0' ≤ c) (upper : c ≤ '9') : isWhitespace c = false := by
  have least : 48 ≤ c.toNat := lower
  have most : c.toNat ≤ 57 := upper
  simp only [isWhitespace,Bool.or_eq_false_iff,Bool.and_eq_false_iff,decide_eq_false_iff_not,beq_eq_false_iff_ne]
  omega

theorem suffix_visible (secs : Nat) : isWhitespace (suffix secs) = false := by
  unfold suffix
  split_ifs <;> rfl

theorem humanize_toList (inside : d.asSecs ≠ i64Min) : (humanize d).toList =
    Nat.toDigits 10 (durations.count d.asSecs.natAbs) ++ [suffix d.asSecs.natAbs] := by
  rw [humanize_text inside,String.toList_append,String.toList_singleton,Nat.toString_eq_repr,Nat.toList_repr]

-- The printed text has blanks at neither end.
theorem humanize_trim (inside : d.asSecs ≠ i64Min) : (trim (humanize d)).toList =
    Nat.toDigits 10 (durations.count d.asSecs.natAbs) ++ [suffix d.asSecs.natAbs] := by
  have filled := @Nat.toDigits_ne_nil (durations.count d.asSecs.natAbs) 10
  rw [trim,trimMatches,String.toList_ofList,humanize_toList inside]
  refine trimChars_fixed _ _ ?_ ?_
  · intro nonempty
    rw [List.head_append_of_ne_nil filled]
    obtain ⟨lower,upper⟩ := digits_ascii _ _ (List.head_mem filled)
    exact digit_visible lower upper
  · intro nonempty
    rw [List.getLast_append_singleton]
    exact suffix_visible _

theorem secs_bound {d : SignedDuration} (inside : d.asSecs ≠ i64Min) : d.asSecs.natAbs ≤ 9223372036854775807 := by
  have bounds := d.asSecs_bounds
  simp only [i64Min,i64Max] at bounds inside
  omega

theorem humanize_reads (inside : d.asSecs ≠ i64Min) :
    Reads (humanize d) (Nat.toDigits 10 (durations.count d.asSecs.natAbs)) (suffix d.asSecs.natAbs)
      (durations.unit d.asSecs.natAbs) where
  shape := humanize_trim inside
  filled := Nat.toDigits_ne_nil
  ascii := digits_ascii _
  known := suffix_known _
  fits := by
    rw [number_digits]
    exact Nat.le_trans (floor_le durations _) (secs_bound inside)

theorem floor_bound {d : SignedDuration} (inside : d.asSecs ≠ i64Min) :
    (durations.floor d.asSecs.natAbs : Int) ≤ i64Max := by
  have whole := Nat.le_trans (floor_le durations d.asSecs.natAbs) (secs_bound inside)
  simp only [i64Max]
  omega

-- What is read back: the whole units, in seconds.
def shown (d : SignedDuration) (inside : d.asSecs ≠ i64Min) : SignedDuration :=
  .fromSecs (durations.floor d.asSecs.natAbs) (nat_low _) (floor_bound inside)

theorem shown_secs (inside : d.asSecs ≠ i64Min) : (shown d inside).asSecs = durations.floor d.asSecs.natAbs :=
  SignedDuration.asSecs_fromSecs _ (nat_low _) (floor_bound inside)

theorem shown_inside (inside : d.asSecs ≠ i64Min) : (shown d inside).asSecs ≠ i64Min := by
  rw [shown_secs]
  simp only [i64Min]
  omega

theorem parse_humanize (inside : d.asSecs ≠ i64Min) : parse (humanize d) = .ok (shown d inside) := by
  refine (parse_ok _).mpr ⟨_,_,_,humanize_reads inside,?_⟩
  rw [number_digits]
  rfl

theorem humanize_shown (inside : d.asSecs ≠ i64Min) : humanize (shown d inside) = humanize d := by
  rw [humanize_text (shown_inside inside),humanize_text inside,shown_secs,Int.natAbs_natCast,count_floor,
    suffix_unit (unit_floor durations _)]

theorem secs_mono {a b : SignedDuration} (le : a.nanos.natAbs ≤ b.nanos.natAbs) :
    a.asSecs.natAbs ≤ b.asSecs.natAbs := by
  simp only [SignedDuration.asSecs,Int.natAbs_tdiv]
  exact Nat.div_le_div_right le

-- What a text says of the duration it was printed for: no more than its seconds,
-- by less than one unit, and nothing only for less than a second.
structure ReadsBack (d r : SignedDuration) (n : Nat) (unit : Char) (perUnit : Nat) : Prop where
  printed : humanize d = toString n ++ String.singleton unit
  known : secondsPerUnit unit = some perUnit
  least : r.nanos ≤ d.asSecs.natAbs * 1000000000
  near : d.asSecs.natAbs * 1000000000 - r.nanos < perUnit * 1000000000
  filled : 1 ≤ d.asSecs.natAbs → n ≠ 0
  again : humanize r = humanize d

theorem shown_readsBack (inside : d.asSecs ≠ i64Min) : ReadsBack d (shown d inside)
    (durations.count d.asSecs.natAbs) (suffix d.asSecs.natAbs) (durations.unit d.asSecs.natAbs) := by
  have least := floor_le durations d.asSecs.natAbs
  have near := floor_near durations d.asSecs.natAbs
  have value : (shown d inside).nanos = durations.floor d.asSecs.natAbs * 1000000000 := rfl
  refine ⟨humanize_text inside,suffix_known _,?_,?_,?_,humanize_shown inside⟩
  · omega
  · omega
  · intro filled
    exact count_nonzero durations (by omega)

theorem humanize_parse :
    (∀ d : SignedDuration, d.asSecs ≠ i64Min →
      ∃ r n unit perUnit, parse (humanize d) = .ok r ∧ ReadsBack d r n unit perUnit) ∧
    ∀ a b : SignedDuration, a.asSecs ≠ i64Min → b.asSecs ≠ i64Min → a.nanos.natAbs ≤ b.nanos.natAbs →
      ∃ r s, parse (humanize a) = .ok r ∧ parse (humanize b) = .ok s ∧ r.nanos ≤ s.nanos := by
  constructor
  · intro d inside
    exact ⟨_,_,_,_,parse_humanize inside,shown_readsBack inside⟩
  · intro a b ainside binside le
    have floors := floor_mono durations (secs_mono le)
    refine ⟨_,_,parse_humanize ainside,parse_humanize binside,?_⟩
    simp only [shown,SignedDuration.fromSecs]
    omega

def hours : SignedDuration := .fromSecs (-86399) (by decide) (by decide)
def day : SignedDuration := .fromSecs 90000 (by decide) (by decide)

theorem hours_day : (∃ r n unit perUnit, parse (humanize hours) = .ok r ∧ ReadsBack hours r n unit perUnit) ∧
    ∃ r s, parse (humanize hours) = .ok r ∧ parse (humanize day) = .ok s ∧ r.nanos ≤ s.nanos :=
  ⟨humanize_parse.1 hours (by decide),humanize_parse.2 hours day (by decide) (by decide) (by decide)⟩

end YouSpinMe.HumanizedDurations
