import Mathlib.Data.List.DropRight

namespace YouSpinMe.Text

-- The Unicode White_Space property, which `str::trim` removes at both ends.
def isWhitespace (c : Char) : Bool :=
  (9 ≤ c.toNat && c.toNat ≤ 13) || c.toNat == 0x20 || c.toNat == 0x85 || c.toNat == 0xA0 ||
  c.toNat == 0x1680 || (0x2000 ≤ c.toNat && c.toNat ≤ 0x200A) || c.toNat == 0x2028 ||
  c.toNat == 0x2029 || c.toNat == 0x202F || c.toNat == 0x205F || c.toNat == 0x3000

def trimChars (p : Char → Bool) (chars : List Char) : List Char := (chars.dropWhile p).rdropWhile p
def trimMatches (p : Char → Bool) (s : String) : String := String.ofList (trimChars p s.toList)
def trim (s : String) : String := trimMatches isWhitespace s

def split (sep : Char) (s : String) : List String := (s.toList.splitOn sep).map String.ofList

-- The characters beyond ASCII that `{:?}` escapes, by the Unicode tables of the standard
-- library: those without a printed form and those that extend a grapheme.
class CharTables where
  escaped : Char → Bool

-- Rust's `{:?}` of a string.
def escapeDebug [CharTables] (c : Char) : String :=
  if c.toNat = 0 then "\\0" else if c = '\t' then "\\t" else if c = '\n' then "\\n"
  else if c = '\r' then "\\r" else if c.toNat = 34 then "\\\"" else if c = '\\' then "\\\\"
  else if c.toNat < 32 ∨ c.toNat = 127 ∨ (128 ≤ c.toNat ∧ CharTables.escaped c) then
    "\\u\x7b" ++ String.ofList (Nat.toDigits 16 c.toNat) ++ "\x7d"
  else c.toString
def debug [CharTables] (s : String) : String := "\"" ++ s.toList.foldl (fun text c => text ++ escapeDebug c) "" ++ "\""

abbrev Bytes := List UInt8

def asBytes (s : String) : Bytes := s.toByteArray.data.toList

theorem asBytes_inj {s t : String} : asBytes s = asBytes t ↔ s = t := by
  rw [asBytes,asBytes,Array.toList_inj,← String.toByteArray_inj]
  exact ⟨ByteArray.ext,congrArg ByteArray.data⟩

-- Base64 with the URL-safe alphabet and without padding (`URL_SAFE_NO_PAD`).
def base64Digit (n : Nat) : Char :=
  if n < 26 then Char.ofNat (n + 65) else if n < 52 then Char.ofNat (n + 71) else if n < 62 then Char.ofNat (n - 4)
  else if n = 62 then '-' else '_'

def base64Value (c : Char) : Option Nat :=
  if 65 ≤ c.toNat ∧ c.toNat ≤ 90 then some (c.toNat - 65)
  else if 97 ≤ c.toNat ∧ c.toNat ≤ 122 then some (c.toNat - 71)
  else if 48 ≤ c.toNat ∧ c.toNat ≤ 57 then some (c.toNat + 4)
  else if c = '-' then some 62 else if c = '_' then some 63 else none

def base64Digits : List Nat → List Nat
  | [] => []
  | [a] => [a / 4,a % 4 * 16]
  | [a,b] => [a / 4,a % 4 * 16 + b / 16,b % 16 * 4]
  | a :: b :: c :: rest => a / 4 :: (a % 4 * 16 + b / 16) :: (b % 16 * 4 + c / 64) :: c % 64 :: base64Digits rest

-- A last group of one digit, and bits left over that are not zero, are refused.
def base64Bytes : List Nat → Option (List Nat)
  | [] => some []
  | [_] => none
  | [a,b] => if b % 16 = 0 then some [a * 4 + b / 16] else none
  | [a,b,c] => if c % 4 = 0 then some [a * 4 + b / 16,b % 16 * 16 + c / 4] else none
  | a :: b :: c :: d :: rest =>
    (base64Bytes rest).map fun bytes => (a * 4 + b / 16) :: (b % 16 * 16 + c / 4) :: (c % 4 * 64 + d) :: bytes

def base64Encode (bytes : Bytes) : String :=
  String.ofList ((base64Digits (bytes.map UInt8.toNat)).map base64Digit)

def base64Decode (text : String) : Option Bytes :=
  ((text.toList.mapM base64Value).bind base64Bytes).map (List.map UInt8.ofNat)

theorem base64Encode_filled {bytes : Bytes} (filled : bytes ≠ []) : base64Encode bytes ≠ "" := by
  rw [base64Encode,Ne,String.ofList_eq_empty_iff,List.map_eq_nil_iff]
  match bytes,filled with
  | [_],_ => simp [base64Digits]
  | [_,_],_ => simp [base64Digits]
  | _ :: _ :: _ :: _,_ => simp [base64Digits]

-- `form_urlencoded::byte_serialize`, which also encodes what goes into a query.
def hexDigit (n : Nat) : Char := if n < 10 then Char.ofNat (n + 48) else Char.ofNat (n + 55)

def urlencodeByte (b : UInt8) : List Char :=
  if 48 ≤ b ∧ b ≤ 57 ∨ 65 ≤ b ∧ b ≤ 90 ∨ 97 ≤ b ∧ b ≤ 122 ∨ b = 42 ∨ b = 45 ∨ b = 46 ∨ b = 95 then
    [Char.ofNat b.toNat]
  else if b = 32 then ['+']
  else ['%',hexDigit (b.toNat / 16),hexDigit (b.toNat % 16)]

def urlencode (s : String) : String := String.ofList ((asBytes s).flatMap urlencodeByte)

theorem rdropWhile_stop {p : β → Bool} {stop : β} (kept : p stop = false) (front back : List β) :
    (front ++ stop :: back).rdropWhile p = front ++ stop :: back.rdropWhile p := by
  simp only [List.rdropWhile,List.reverse_append,List.reverse_cons,List.append_assoc,List.dropWhile_append]
  split
  · rename_i none
    have gone : back.reverse.dropWhile p = [] := by simpa using none
    simp [gone,kept]
  · simp

-- Text is cut in one way at the first occurrence of a separator.
theorem append_cons_cut {sep : Char} {a b x y : List Char} (first : sep ∉ a) (second : sep ∉ b) :
    a ++ sep :: x = b ++ sep :: y ↔ a = b ∧ x = y := by
  induction a generalizing b with
  | nil =>
    cases b with
    | nil => simp
    | cons c b => simp [List.ne_of_not_mem_cons second]
  | cons c a ih =>
    cases b with
    | nil => simp [Ne.symm (List.ne_of_not_mem_cons first)]
    | cons d b =>
      rw [List.cons_append,List.cons_append,List.cons.injEq,List.cons.injEq,
        ih (List.not_mem_of_not_mem_cons first) (List.not_mem_of_not_mem_cons second),and_assoc]

theorem trimChars_head (p : Char → Bool) (chars : List Char) (kept : trimChars p chars ≠ []) :
    p ((trimChars p chars).head kept) = false := by
  have before : chars.dropWhile p ≠ [] := by
    intro empty; exact kept (by simp [trimChars,empty])
  have same := (List.rdropWhile_prefix p (chars.dropWhile p)).head kept
  rw [show (trimChars p chars).head kept = (chars.dropWhile p).head before from same]
  exact List.head_dropWhile_not p before

theorem trimChars_last (p : Char → Bool) (chars : List Char) (kept : trimChars p chars ≠ []) :
    p ((trimChars p chars).getLast kept) = false :=
  Bool.eq_false_iff.mpr (List.rdropWhile_last_not p (chars.dropWhile p) kept)

-- Text whose two ends are both kept is kept whole.
theorem trimChars_fixed (p : Char → Bool) (chars : List Char)
    (first : ∀ nonempty : chars ≠ [], p (chars.head nonempty) = false)
    (last : ∀ nonempty : chars ≠ [], p (chars.getLast nonempty) = false) : trimChars p chars = chars := by
  cases chars with
  | nil => rfl
  | cons c rest =>
    have starts : p c = false := by simpa using first (by simp)
    rw [trimChars,List.dropWhile_cons_of_neg (by simp [starts]),List.rdropWhile_eq_self_iff]
    intro nonempty
    simp [last nonempty]

theorem trimChars_idem (p : Char → Bool) (chars : List Char) :
    trimChars p (trimChars p chars) = trimChars p chars :=
  trimChars_fixed p _ (trimChars_head p chars) (trimChars_last p chars)

theorem trim_idem (s : String) : trim (trim s) = trim s := by
  simp [trim,trimMatches,trimChars_idem]

end YouSpinMe.Text
