import YouSpinMe.Text

namespace YouSpinMe.FormPairs
open Text

-- `form_urlencoded::parse`: pairs between `&`, cut at the first `=`, with `+` for a
-- blank and `%` before two digits. Bytes are read as text by `lossy`.
def hexValue (b : UInt8) : Option Nat :=
  if 48 ≤ b ∧ b ≤ 57 then some (b.toNat - 48)
  else if 65 ≤ b ∧ b ≤ 70 then some (b.toNat - 55)
  else if 97 ≤ b ∧ b ≤ 102 then some (b.toNat - 87)
  else none

def percentDecode : Bytes → Bytes
  | b :: high :: low :: rest =>
    if b = 37 then
      match hexValue high,hexValue low with
      | some h,some l => UInt8.ofNat (h * 16 + l) :: percentDecode rest
      | _,_ => b :: percentDecode (high :: low :: rest)
    else b :: percentDecode (high :: low :: rest)
  | short => short

def plusToSpace (b : UInt8) : UInt8 := if b = 43 then 32 else b

section Pairs
variable (lossy : Bytes → String)

def decoded (bytes : Bytes) : String := lossy (percentDecode (bytes.map plusToSpace))

def pairOf (part : Bytes) : String × String :=
  (decoded lossy (part.takeWhile (· ≠ 61)),decoded lossy ((part.dropWhile (· ≠ 61)).drop 1))

def formPairs (bytes : Bytes) : List (String × String) :=
  ((bytes.splitOn 38).filter (· ≠ [])).map (pairOf lossy)

end Pairs

def asciiByte (c : Char) : UInt8 := UInt8.ofNat c.toNat

theorem asBytes_append (s t : String) : asBytes (s ++ t) = asBytes s ++ asBytes t := by
  simp [asBytes]

theorem asBytes_singleton (ascii : c.toNat < 128) : asBytes (String.ofList [c]) = [asciiByte c] := by
  have size : c.utf8Size = 1 := by
    rw [Char.utf8Size_eq_one_iff]
    exact UInt32.le_iff_toNat_le.mpr (Nat.le_of_lt_succ ascii)
  simp only [asBytes,String.toByteArray_ofList,List.utf8Encode_singleton,String.utf8EncodeChar_eq_singleton size]
  rfl

theorem asBytes_ascii {chars : List Char} (ascii : ∀ c ∈ chars, c.toNat < 128) :
    asBytes (String.ofList chars) = chars.map asciiByte := by
  induction chars with
  | nil => rfl
  | cons c rest ih =>
    rw [← List.singleton_append,String.ofList_append,asBytes_append,asBytes_singleton (ascii c List.mem_cons_self),
      ih fun d member => ascii d (List.mem_cons_of_mem _ member)]
    rfl

-- A digit is read back, and nothing else is read into it.
theorem hexDigit_facts : ∀ n < 16, (hexDigit n).toNat < 128 ∧ hexValue (asciiByte (hexDigit n)) = some n ∧
    plusToSpace (asciiByte (hexDigit n)) = asciiByte (hexDigit n) ∧ asciiByte (hexDigit n) ≠ 38 ∧
    asciiByte (hexDigit n) ≠ 61 := by
  decide

theorem char_ofNat_ascii : ∀ n < 128, (Char.ofNat n).toNat = n := by decide +kernel

def encodedByte (b : UInt8) : Bytes := (urlencodeByte b).map asciiByte

inductive Encoded (b : UInt8) : Bytes → Prop where
  | plain (kept : b ≠ 37 ∧ b ≠ 43 ∧ b ≠ 38 ∧ b ≠ 61) : Encoded b [b]
  | blank (blank : b = 32) : Encoded b [43]
  | escaped (high : hexValue h = some (b.toNat / 16)) (low : hexValue l = some (b.toNat % 16))
      (digits : ∀ d, d = h ∨ d = l → plusToSpace d = d ∧ d ≠ 38 ∧ d ≠ 61) : Encoded b [37,h,l]

theorem encodedByte_cases (b : UInt8) : Encoded b (encodedByte b) ∧ ∀ c ∈ urlencodeByte b, c.toNat < 128 := by
  have small : b.toNat < 256 := b.toNat_lt
  unfold encodedByte urlencodeByte
  split
  · rename_i kept
    simp only [UInt8.le_iff_toNat_le,← UInt8.toNat_inj,UInt8.reduceToNat] at kept
    have ascii := char_ofNat_ascii b.toNat (by omega)
    have same : asciiByte (Char.ofNat b.toNat) = b := by rw [asciiByte,ascii,UInt8.ofNat_toNat]
    refine ⟨?_,?_⟩
    · rw [List.map_singleton,same]
      refine .plain ?_
      simp only [ne_eq,← UInt8.toNat_inj,UInt8.reduceToNat]
      omega
    · intro c member
      rcases List.mem_singleton.mp member with rfl
      omega
  · split
    · rename_i blank
      refine ⟨.blank blank,?_⟩
      intro c member
      rcases List.mem_singleton.mp member with rfl
      decide
    · obtain ⟨highAscii,high,highKept⟩ := hexDigit_facts (b.toNat / 16) (by omega)
      obtain ⟨lowAscii,low,lowKept⟩ := hexDigit_facts (b.toNat % 16) (by omega)
      refine ⟨.escaped high low ?_,?_⟩
      · rintro d (rfl | rfl)
        · exact highKept
        · exact lowKept
      · intro c member
        simp only [List.mem_cons,List.not_mem_nil,or_false] at member
        rcases member with rfl | rfl | rfl
        · decide
        · exact highAscii
        · exact lowAscii

theorem percentDecode_plain (other : b ≠ 37) (rest : Bytes) : percentDecode (b :: rest) = b :: percentDecode rest := by
  match rest with
  | [] | [_] => rfl
  | _ :: _ :: _ => rw [percentDecode,if_neg other]

theorem percentDecode_encoded (encoded : Encoded b bytes) (rest : Bytes) :
    percentDecode (bytes.map plusToSpace ++ rest) = b :: percentDecode rest := by
  cases encoded with
  | plain kept =>
    obtain ⟨percent,plus,_⟩ := kept
    simpa [plusToSpace,plus] using percentDecode_plain percent rest
  | blank blank =>
    subst blank
    exact percentDecode_plain (by decide) rest
  | @escaped h l high low digits =>
    have small : b.toNat < 256 := b.toNat_lt
    have whole : b.toNat / 16 * 16 + b.toNat % 16 = b.toNat := by omega
    have percent : plusToSpace 37 = 37 := by decide
    simp only [List.map_cons,List.map_nil,List.cons_append,List.nil_append,percent,(digits h (.inl rfl)).1,
      (digits l (.inr rfl)).1,percentDecode,if_true,high,low,whole,UInt8.ofNat_toNat]

theorem percentDecode_bytes (bytes : Bytes) :
    percentDecode ((bytes.flatMap encodedByte).map plusToSpace) = bytes := by
  induction bytes with
  | nil => rfl
  | cons b rest ih =>
    rw [List.flatMap_cons,List.map_append,percentDecode_encoded (encodedByte_cases b).1,ih]

theorem urlencode_bytes (s : String) : asBytes (urlencode s) = (asBytes s).flatMap encodedByte := by
  have ascii : ∀ c ∈ (asBytes s).flatMap urlencodeByte, c.toNat < 128 := by
    intro c member
    obtain ⟨b,_,inside⟩ := List.mem_flatMap.mp member
    exact (encodedByte_cases b).2 c inside
  rw [urlencode,asBytes_ascii ascii,List.map_flatMap]
  rfl

-- Neither separator comes out of the encoder.
theorem urlencode_free (s : String) : 38 ∉ asBytes (urlencode s) ∧ 61 ∉ asBytes (urlencode s) := by
  have free : ∀ d ∈ asBytes (urlencode s), d ≠ 38 ∧ d ≠ 61 := by
    intro d member
    rw [urlencode_bytes] at member
    obtain ⟨b,_,inside⟩ := List.mem_flatMap.mp member
    generalize encoded : encodedByte b = bytes at inside
    have shape := encoded ▸ (encodedByte_cases b).1
    cases shape with
    | plain kept =>
      rcases List.mem_singleton.mp inside with rfl
      exact kept.2.2
    | blank blank =>
      rcases List.mem_singleton.mp inside with rfl
      decide
    | escaped high low digits =>
      rcases List.mem_cons.mp inside with rfl | digit
      · decide
      · simp only [List.mem_cons,List.not_mem_nil,or_false] at digit
        exact (digits d digit).2
  exact ⟨fun member => (free _ member).1 rfl,fun member => (free _ member).2 rfl⟩

def partBytes (pair : String × String) : Bytes := asBytes (urlencode pair.1) ++ 61 :: asBytes (urlencode pair.2)

-- What a serializer of pairs writes is read back as the pairs.
theorem formPairs_serialized {lossy : Bytes → String} (lossless : ∀ s, lossy (asBytes s) = s)
    (pairs : List (String × String)) : formPairs lossy ([38].intercalate (pairs.map partBytes)) = pairs := by
  have component : ∀ s, decoded lossy (asBytes (urlencode s)) = s := by
    intro s
    rw [decoded,urlencode_bytes,percentDecode_bytes,lossless]
  have part : ∀ pair, pairOf lossy (partBytes pair) = pair := by
    intro pair
    have unequal : ∀ b ∈ asBytes (urlencode pair.1), decide (b ≠ 61) = true := by
      intro b member
      rw [decide_eq_true_eq]
      rintro rfl
      exact (urlencode_free pair.1).2 member
    rw [pairOf,partBytes,List.takeWhile_append_of_pos unequal,List.dropWhile_append_of_pos unequal]
    simp [component]
  have separate : ∀ bytes ∈ pairs.map partBytes, 38 ∉ bytes := by
    intro bytes member
    obtain ⟨pair,_,rfl⟩ := List.mem_map.mp member
    simp [partBytes,(urlencode_free pair.1).1,(urlencode_free pair.2).1]
  cases pairs with
  | nil => rfl
  | cons first rest =>
    have filled : ((first :: rest).map partBytes).filter (· ≠ []) = (first :: rest).map partBytes := by
      rw [List.filter_eq_self]
      intro bytes member
      obtain ⟨pair,_,rfl⟩ := List.mem_map.mp member
      simp [partBytes]
    rw [formPairs,List.splitOn_intercalate 38 separate (by simp),filled,List.map_map]
    simp [Function.comp_def,part]

end YouSpinMe.FormPairs
