import YouSpinMe.Text
import YouSpinMe.Jiff

namespace YouSpinMe.Duration
open Text Jiff

structure ParseDurationError where
  input : String
  deriving DecidableEq

def ParseDurationError.text [CharTables] (e : ParseDurationError) : String :=
  "invalid duration " ++ debug e.input ++ ": expected <number><s|m|h|d|w>, e.g. 90d"

def secondsPerUnit (unit : Char) : Option Nat :=
  if unit = 's' then some 1 else if unit = 'm' then some 60 else if unit = 'h' then some 3600
  else if unit = 'd' then some 86400 else if unit = 'w' then some (7 * 86400) else none

def number (digits : List Char) : Nat := digits.foldl (fun n c => n * 10 + (c.toNat - '0'.toNat)) 0

-- The split lies one byte before the end, which is inside the last character
-- unless that character is a single byte.
def parse (input : String) : Except ParseDurationError SignedDuration :=
  let trimmed := (trim input).toList
  match trimmed.getLast? with
  | none => .error ⟨input⟩
  | some unit =>
    if unit.utf8Size ≠ 1 then .error ⟨input⟩
    else if trimmed.dropLast = [] ∨ ¬ trimmed.dropLast.all Char.isDigit then .error ⟨input⟩
    else if 9223372036854775807 < number trimmed.dropLast then .error ⟨input⟩
    else match secondsPerUnit unit with
      | none => .error ⟨input⟩
      | some perUnit =>
        if fits : number trimmed.dropLast * perUnit ≤ 9223372036854775807 then
          .ok (.fromSecs (number trimmed.dropLast * perUnit : Nat)
            (by simp only [i64Min]; omega) (by simp only [i64Max]; omega))
        else .error ⟨input⟩

-- `abs` of the least i64 wraps to itself in a release build.
def absSecs (d : SignedDuration) : Int := if d.asSecs = i64Min then i64Min else d.asSecs.natAbs

def humanize (d : SignedDuration) : String :=
  let secs := absSecs d
  if 86400 ≤ secs then toString (secs / 86400) ++ "d"
  else if 3600 ≤ secs then toString (secs / 3600) ++ "h"
  else if 60 ≤ secs then toString (secs / 60) ++ "m"
  else toString secs ++ "s"

theorem parse_nonneg (parsed : parse input = .ok d) : 0 ≤ d.nanos := by
  simp only [parse] at parsed
  split at parsed
  · cases parsed
  · split at parsed
    · cases parsed
    · split at parsed
      · cases parsed
      · split at parsed
        · cases parsed
        · split at parsed
          · cases parsed
          · split at parsed
            · cases parsed
              simp only [SignedDuration.fromSecs]
              omega
            · cases parsed

example : (parse " 2w ").toOption.map SignedDuration.asSecs = some 1209600 := by decide
example : humanize (.fromSecs (-10800) (by decide) (by decide)) = "3h" := by decide

end YouSpinMe.Duration
