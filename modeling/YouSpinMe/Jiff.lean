import Mathlib.Data.Int.Notation
import Mathlib.Logic.Function.Basic

namespace YouSpinMe.Jiff

theorem truncated_bounds {nanos low high : Int} (lower : low * 1000000000 - 999999999 ≤ nanos)
    (upper : nanos ≤ high * 1000000000 + 999999999) (negative : low ≤ 0) (positive : 0 ≤ high) :
    low ≤ nanos.tdiv 1000000000 ∧ nanos.tdiv 1000000000 ≤ high := by
  rw [Int.tdiv_eq_ediv]
  split
  · omega
  · rename_i inexact
    have signed : Int.sign 1000000000 = 1 := rfl
    omega

-- An instant, in nanoseconds since the Unix epoch, inside jiff's range.
structure Timestamp where
  nanos : Int
  lower : -377705023201000000000 ≤ nanos
  upper : nanos ≤ 253402207200999999999
  deriving DecidableEq

namespace Timestamp

theorem nanos_inj {a b : Timestamp} : a.nanos = b.nanos ↔ a = b := by
  cases a
  cases b
  simp

instance : LE Timestamp := ⟨fun a b => a.nanos ≤ b.nanos⟩
instance : LT Timestamp := ⟨fun a b => a.nanos < b.nanos⟩
instance (a b : Timestamp) : Decidable (a ≤ b) := inferInstanceAs (Decidable (a.nanos ≤ b.nanos))
instance (a b : Timestamp) : Decidable (a < b) := inferInstanceAs (Decidable (a.nanos < b.nanos))

theorem le_def {a b : Timestamp} : a ≤ b ↔ a.nanos ≤ b.nanos := Iff.rfl
theorem lt_def {a b : Timestamp} : a < b ↔ a.nanos < b.nanos := Iff.rfl

-- `as_second` truncates towards zero, also before the epoch.
def asSecond (t : Timestamp) : Int := t.nanos.tdiv 1000000000

theorem asSecond_bounds (t : Timestamp) : -377705023201 ≤ t.asSecond ∧ t.asSecond ≤ 253402207200 := by
  have lower := t.lower
  have upper := t.upper
  exact truncated_bounds (by omega) (by omega) (by decide) (by decide)

end Timestamp

-- A civil date, as the number of its day since 1970-01-01.
structure Date where
  day : Int
  deriving DecidableEq

def Timestamp.utcDate (t : Timestamp) : Date := ⟨t.nanos / 86400000000000⟩

-- Midnight UTC; not every date jiff can name has one in a timestamp's range.
def Date.midnight (date : Date) : Option Timestamp :=
  if lower : -377705023201000000000 ≤ date.day * 86400000000000 then
    if upper : date.day * 86400000000000 ≤ 253402207200999999999 then
      some ⟨date.day * 86400000000000,lower,upper⟩
    else none
  else none

theorem Date.midnight_date {date : Date} (found : date.midnight = some t) : t.utcDate = date := by
  unfold Date.midnight at found
  split at found
  · split at found
    · cases Option.some.inj found
      simp [Timestamp.utcDate]
    · cases found
  · cases found

abbrev i64Min : Int := -9223372036854775808
abbrev i64Max : Int := 9223372036854775807

-- A sum or difference of two i64, as the release build computes it.
def wrap (n : Int) : Int := n.bmod 18446744073709551616

theorem wrap_inside {n : Int} (lower : i64Min ≤ n) (upper : n ≤ i64Max) : wrap n = n := by
  simp only [i64Min] at lower
  simp only [i64Max] at upper
  apply Int.bmod_eq_of_le_mul_two
  · omega
  · omega

theorem wrap_above {n : Int} (lower : i64Min ≤ n) : wrap n ≤ n := by
  simp only [i64Min] at lower
  rw [wrap,Int.bmod_def]
  split
  · omega
  · omega

structure SignedDuration where
  nanos : Int
  lower : -9223372036854775808999999999 ≤ nanos
  upper : nanos ≤ 9223372036854775807999999999
  deriving DecidableEq

namespace SignedDuration

instance : LE SignedDuration := ⟨fun a b => a.nanos ≤ b.nanos⟩
instance : LT SignedDuration := ⟨fun a b => a.nanos < b.nanos⟩
instance (a b : SignedDuration) : Decidable (a ≤ b) := inferInstanceAs (Decidable (a.nanos ≤ b.nanos))
instance (a b : SignedDuration) : Decidable (a < b) := inferInstanceAs (Decidable (a.nanos < b.nanos))

theorem le_def {a b : SignedDuration} : a ≤ b ↔ a.nanos ≤ b.nanos := Iff.rfl
theorem lt_def {a b : SignedDuration} : a < b ↔ a.nanos < b.nanos := Iff.rfl

def fromSecs (secs : Int) (lower : i64Min ≤ secs) (upper : secs ≤ i64Max) : SignedDuration :=
  ⟨secs * 1000000000,by simp only [i64Min] at lower; omega,by simp only [i64Max] at upper; omega⟩

def asSecs (d : SignedDuration) : Int := d.nanos.tdiv 1000000000

@[simp] theorem asSecs_fromSecs (secs : Int) (lower : i64Min ≤ secs) (upper : secs ≤ i64Max) :
    (fromSecs secs lower upper).asSecs = secs := by
  simp [fromSecs,asSecs]

theorem asSecs_bounds (d : SignedDuration) : i64Min ≤ d.asSecs ∧ d.asSecs ≤ i64Max := by
  have lower := d.lower
  have upper := d.upper
  exact truncated_bounds (by simp only [i64Min]; omega) (by simp only [i64Max]; omega) (by decide) (by decide)

end SignedDuration

namespace Timestamp

def asMillisecond (t : Timestamp) : Int := t.nanos.tdiv 1000000

-- A sum outside the range of timestamps is an error.
def checkedAdd (t : Timestamp) (d : SignedDuration) : Option Timestamp :=
  if lower : -377705023201000000000 ≤ t.nanos + d.nanos then
    if upper : t.nanos + d.nanos ≤ 253402207200999999999 then some ⟨t.nanos + d.nanos,lower,upper⟩
    else none
  else none

theorem checkedAdd_exact {t sum : Timestamp} {d : SignedDuration} :
    t.checkedAdd d = some sum ↔ sum.nanos = t.nanos + d.nanos := by
  have lower := sum.lower
  have upper := sum.upper
  unfold checkedAdd
  constructor
  · intro added
    split at added
    · split at added
      · cases added
        rfl
      · cases added
    · cases added
  · intro same
    rw [dif_pos (by omega),dif_pos (by omega),Option.some.injEq]
    cases sum
    cases same
    rfl

-- Two timestamps never lie too far apart for a duration.
def durationSince (t other : Timestamp) : SignedDuration where
  nanos := t.nanos - other.nanos
  lower := by
    have first := t.lower
    have second := other.upper
    omega
  upper := by
    have first := t.upper
    have second := other.lower
    omega

end Timestamp

-- What the crate prints and reads as text. Two dates print alike only when they
-- are one date.
class Format where
  timestampText : Timestamp → String
  dateText : Date → String
  dateText_injective : Function.Injective dateText
  parseDate : String → Option Date
  midnightError : Date → String

def Timestamp.epoch : Timestamp := ⟨0,by decide,by decide⟩

-- At the epoch the crate's own text; elsewhere the day number in unary.
def epochDateText (date : Date) : String :=
  match date.day with
  | .ofNat 0 => "1970-01-01"
  | .ofNat (n + 1) => String.ofList (List.replicate (n + 1) '+')
  | .negSucc n => String.ofList (List.replicate (n + 1) '-')

theorem epochDateText_injective : Function.Injective epochDateText := by
  intro a b same
  obtain ⟨a⟩ := a
  obtain ⟨b⟩ := b
  have text : (epochDateText ⟨a⟩).toList = (epochDateText ⟨b⟩).toList := congrArg String.toList same
  unfold epochDateText at text
  rcases a with (_ | a) | a <;> rcases b with (_ | b) | b <;>
    simp_all [List.replicate_succ]

@[reducible] def epochFormat : Format where
  timestampText t := if t.nanos = 0 then "1970-01-01T00:00:00Z" else ""
  dateText := epochDateText
  dateText_injective := epochDateText_injective
  parseDate text := if text = "1970-01-01" then some ⟨0⟩ else none
  midnightError _ := ""

end YouSpinMe.Jiff
