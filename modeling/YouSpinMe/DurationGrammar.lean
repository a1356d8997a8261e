import YouSpinMe.Duration

namespace YouSpinMe.DurationGrammar
open Text Jiff Duration

-- A value of the type `i64`, and the operations that check for one.
abbrev I64 := {n : Int // i64Min ≤ n ∧ n ≤ i64Max}

def checked (n : Int) : Option I64 :=
  if inside : i64Min ≤ n ∧ n ≤ i64Max then some ⟨n,inside⟩ else none

def checkedMul (a b : I64) : Option I64 := checked (a.val * b.val)
def checkedAdd (a b : I64) : Option I64 := checked (a.val + b.val)

-- `str::len`, in bytes.
def byteLen : List Char → Nat
  | [] => 0
  | c :: rest => c.utf8Size + byteLen rest

-- `str::split_at`; without a result it panics, which it does off a boundary.
def splitAt : List Char → Nat → Option (List Char × List Char)
  | chars,0 => some ([],chars)
  | [],_ + 1 => none
  | c :: rest,i + 1 =>
    if c.utf8Size ≤ i + 1 then (splitAt rest (i + 1 - c.utf8Size)).map fun parts => (c :: parts.1,parts.2) else none

def isCharBoundary (chars : List Char) (i : Nat) : Bool := (splitAt chars i).isSome

def isAsciiDigit (b : UInt8) : Bool := 48 ≤ b && b ≤ 57

-- `str::parse::<i64>` of text that is known to be digits.
def digitValue (c : Char) : Nat := c.toNat - '0'.toNat
def parseStep (n : I64) (c : Char) : Option I64 := do
  let shifted ← checkedMul n ⟨10,by decide⟩
  let digit ← checked (digitValue c)
  checkedAdd shifted digit
def parseI64 (digits : List Char) : Option I64 := digits.foldlM parseStep ⟨0,by decide⟩

def unitSeconds : List Char → Option I64
  | ['s'] => some ⟨1,by decide⟩
  | ['m'] => some ⟨60,by decide⟩
  | ['h'] => some ⟨3600,by decide⟩
  | ['d'] => some ⟨86400,by decide⟩
  | ['w'] => some ⟨7 * 86400,by decide⟩
  | _ => none

-- What is made of the two parts of a text.
def parseParts (input : String) (number unit : List Char) : Except ParseDurationError SignedDuration :=
  if number = [] ∨ ¬(number.flatMap String.utf8EncodeChar).all isAsciiDigit then .error ⟨input⟩
  else match parseI64 number with
    | none => .error ⟨input⟩
    | some n => match unitSeconds unit with
      | none => .error ⟨input⟩
      | some perUnit => match checkedMul n perUnit with
        | none => .error ⟨input⟩
        | some secs => .ok (.fromSecs secs.val secs.property.1 secs.property.2)

-- `parse`, byte for byte. It has no result where the program would panic.
def parseBytes (input : String) : Option (Except ParseDurationError SignedDuration) :=
  let trimmed := (trim input).toList
  if byteLen trimmed < 1 then some (.error ⟨input⟩)
  else if !isCharBoundary trimmed (byteLen trimmed - 1) then some (.error ⟨input⟩)
  else (splitAt trimmed (byteLen trimmed - 1)).map fun parts => parseParts input parts.1 parts.2

theorem checked_inside {n : Int} (lower : i64Min ≤ n) (upper : n ≤ i64Max) : checked n = some ⟨n,lower,upper⟩ :=
  dif_pos ⟨lower,upper⟩

theorem checked_above {n : Int} (above : i64Max < n) : checked n = none :=
  dif_neg fun inside => absurd inside.2 (by omega)

theorem byteLen_append (front back : List Char) : byteLen (front ++ back) = byteLen front + byteLen back := by
  induction front with
  | nil => simp [byteLen]
  | cons c rest ih =>
    rw [List.cons_append,byteLen,byteLen,ih]
    omega

-- One byte before the end there is a boundary only after a last character of one byte.
theorem splitAt_last (front : List Char) (c : Char) : splitAt (front ++ [c]) (byteLen (front ++ [c]) - 1) =
    if c.utf8Size = 1 then some (front,[c]) else none := by
  have filled := c.utf8Size_pos
  induction front with
  | nil =>
    by_cases single : c.utf8Size = 1
    · simp [byteLen,single,splitAt]
    · obtain ⟨i,size⟩ : ∃ i, c.utf8Size = i + 2 := ⟨c.utf8Size - 2,by omega⟩
      simp [byteLen,size,splitAt]
  | cons d front ih =>
    have size : byteLen (d :: front ++ [c]) - 1 = d.utf8Size + (byteLen (front ++ [c]) - 1) := by
      have total : byteLen (front ++ [c]) = byteLen front + c.utf8Size := byteLen_append ..
      have whole : byteLen (d :: front ++ [c]) = d.utf8Size + byteLen (front ++ [c]) := rfl
      omega
    have first := d.utf8Size_pos
    obtain ⟨i,next⟩ : ∃ i, d.utf8Size + (byteLen (front ++ [c]) - 1) = i + 1 :=
      ⟨d.utf8Size + (byteLen (front ++ [c]) - 1) - 1,by omega⟩
    rw [size,next,List.cons_append,splitAt,if_pos (by omega),← next,Nat.add_sub_cancel_left,ih]
    split
    · rfl
    · rfl

theorem high_byte (b mask : UInt8) (high : 192 ≤ mask) : isAsciiDigit (b ||| mask) = false := by
  have above : mask.toNat ≤ (b ||| mask).toNat := by
    rw [UInt8.toNat_or]
    exact Nat.right_le_or
  have least : (192 : UInt8).toNat ≤ mask.toNat := high
  simp only [isAsciiDigit,Bool.and_eq_false_iff,decide_eq_false_iff_not,UInt8.le_iff_toNat_le]
  refine .inr ?_
  simp only [UInt8.reduceToNat] at *
  omega

-- A character of several bytes starts with a byte that is no digit.
theorem encode_digit (c : Char) : (String.utf8EncodeChar c).all isAsciiDigit = c.isDigit := by
  have wide : 127 < c.val → c.isDigit = false := by
    intro above
    simp only [Char.isDigit,Bool.and_eq_false_iff,decide_eq_false_iff_not]
    refine .inr ?_
    rw [UInt32.not_le]
    exact UInt32.lt_trans (by decide) above
  rcases c.utf8Size_eq with size | size | size | size
  · have low := Char.utf8Size_eq_one_iff.mp size
    rw [String.utf8EncodeChar_eq_singleton size]
    have same : c.toUInt8.toNat = c.toNat := by
      have bound : c.toNat ≤ 127 := low
      have byte : c.toUInt8.toNat = c.toNat % 256 := UInt32.toNat_toUInt8 c.val
      omega
    simp [isAsciiDigit,Char.isDigit,UInt8.le_iff_toNat_le,UInt32.le_iff_toNat_le,same]
  · rw [String.utf8EncodeChar_eq_cons_cons size,wide (Char.utf8Size_eq_two_iff.mp size).1,List.all_cons,
      high_byte _ _ (by decide),Bool.false_and]
  · have above := (Char.utf8Size_eq_three_iff.mp size).1
    rw [String.utf8EncodeChar_eq_cons_cons_cons size,wide (UInt32.lt_trans (by decide) above),List.all_cons,
      high_byte _ _ (by decide),Bool.false_and]
  · have above := Char.utf8Size_eq_four_iff.mp size
    rw [String.utf8EncodeChar_eq_cons_cons_cons_cons size,wide (UInt32.lt_trans (by decide) above),List.all_cons,
      high_byte _ _ (by decide),Bool.false_and]

def append (n : Nat) (c : Char) : Nat := n * 10 + digitValue c

theorem append_le (digits : List Char) (n : Nat) : n ≤ digits.foldl append n := by
  induction digits generalizing n with
  | nil => exact Nat.le_refl n
  | cons c digits ih =>
    have next := ih (append n c)
    rw [List.foldl_cons]
    simp only [append] at *
    omega

theorem digitValue_small (c : Char) : (digitValue c : Int) ≤ i64Max := by
  have bound : c.toNat < 4294967296 := c.val.toNat_lt
  simp only [digitValue,i64Max]
  omega

theorem nat_low (n : Nat) : i64Min ≤ (n : Int) := by
  simp only [i64Min]
  omega

theorem parseStep_exact (n : Nat) (inside : i64Min ≤ (n : Int) ∧ (n : Int) ≤ i64Max) (c : Char) :
    parseStep ⟨n,inside⟩ c = checked (append n c : Nat) := by
  have digit := checked_inside (nat_low (digitValue c)) (digitValue_small c)
  have value : (n : Int) * 10 + digitValue c = (append n c : Nat) := by simp [append]
  rw [parseStep]
  by_cases shifted : (n : Int) * 10 ≤ i64Max
  · have product : checkedMul ⟨n,inside⟩ ⟨10,by decide⟩ = some ⟨(n * 10 : Nat),nat_low _,by omega⟩ :=
      checked_inside (nat_low (n * 10)) (by omega)
    rw [product,digit]
    exact congrArg checked (by simp [append])
  · have product : checkedMul ⟨n,inside⟩ ⟨10,by decide⟩ = none := checked_above (by simpa using shifted)
    have beyond : i64Max < ((append n c : Nat) : Int) := by omega
    rw [product,checked_above beyond]
    rfl

-- A number that leaves the range at some digit stays outside with every later one.
theorem foldlM_step (digits : List Char) (n : Nat) (inside : i64Min ≤ (n : Int) ∧ (n : Int) ≤ i64Max) :
    digits.foldlM parseStep ⟨n,inside⟩ = checked (digits.foldl append n : Nat) := by
  induction digits generalizing n with
  | nil => exact (checked_inside inside.1 inside.2).symm
  | cons c digits ih =>
    have kept := append_le digits (append n c)
    rw [List.foldlM_cons,List.foldl_cons,parseStep_exact]
    by_cases fits : ((append n c : Nat) : Int) ≤ i64Max
    · rw [checked_inside (nat_low _) fits]
      exact ih _ _
    · have beyond : i64Max < ((digits.foldl append (append n c) : Nat) : Int) := by omega
      rw [checked_above (by omega),checked_above beyond]
      rfl

theorem parseI64_exact (digits : List Char) : parseI64 digits = checked (number digits : Nat) :=
  foldlM_step digits 0 (by decide)

theorem unit_small (found : secondsPerUnit unit = some perUnit) : (perUnit : Int) ≤ i64Max := by
  unfold secondsPerUnit at found
  simp only [i64Max]
  split_ifs at found <;> (cases found; omega)

theorem unitSeconds_exact (unit : Char) :
    unitSeconds [unit] = (secondsPerUnit unit).bind fun perUnit => checked (perUnit : Nat) := by
  unfold secondsPerUnit
  split_ifs with second minute hour day week
  · subst second
    rfl
  · subst minute
    rfl
  · subst hour
    rfl
  · subst day
    rfl
  · subst week
    rfl
  · unfold unitSeconds
    split <;> simp_all

theorem digits_exact (digits : List Char) :
    (digits.flatMap String.utf8EncodeChar).all isAsciiDigit = digits.all Char.isDigit := by
  rw [List.all_flatMap]
  congr 1
  funext c
  exact encode_digit c

theorem parse_last {input : String} {front : List Char} {unit : Char} (shape : (trim input).toList = front ++ [unit]) :
    parse input = if unit.utf8Size = 1 then parseParts input front [unit] else .error ⟨input⟩ := by
  simp only [parse,shape,List.getLast?_concat,List.dropLast_concat]
  by_cases size : unit.utf8Size = 1
  · rw [if_neg (not_not.mpr size),if_pos size,parseParts,digits_exact]
    by_cases bad : front = [] ∨ ¬front.all Char.isDigit
    · rw [if_pos bad,if_pos bad]
    · rw [if_neg bad,if_neg bad,parseI64_exact,unitSeconds_exact]
      by_cases beyond : 9223372036854775807 < number front
      · rw [if_pos beyond,checked_above (by simp only [i64Max]; omega)]
      · rw [if_neg beyond,checked_inside (nat_low _) (by simp only [i64Max]; omega)]
        cases found : secondsPerUnit unit with
        | none => rfl
        | some perUnit =>
          have small := checked_inside (nat_low perUnit) (unit_small found)
          simp only [Option.bind_some,small,checkedMul,← Int.natCast_mul]
          by_cases fits : number front * perUnit ≤ 9223372036854775807
          · rw [dif_pos fits,checked_inside (nat_low _) (by simp only [i64Max]; omega)]
          · rw [dif_neg fits,checked_above (by simp only [i64Max]; omega)]
  · rw [if_pos size,if_neg size]

-- The program never panics, and computes what the definition over characters says.
theorem parseBytes_exact (input : String) : parseBytes input = some (parse input) := by
  unfold parseBytes
  rcases List.eq_nil_or_concat (trim input).toList with empty | ⟨front,unit,shape⟩
  · simp [empty,parse,byteLen]
  · have size := unit.utf8Size_pos
    have filled : ¬byteLen (front ++ [unit]) < 1 := by
      rw [byteLen_append]
      simp only [byteLen]
      omega
    simp only [List.concat_eq_append] at shape
    rw [parse_last shape]
    simp only [shape,if_neg filled,isCharBoundary,splitAt_last]
    by_cases single : unit.utf8Size = 1
    · simp [single]
    · simp [single]

-- The texts that are read: digits, then one unit.
structure Reads (input : String) (digits : List Char) (unit : Char) (perUnit : Nat) : Prop where
  shape : (trim input).toList = digits ++ [unit]
  filled : digits ≠ []
  ascii : ∀ c ∈ digits, '0' ≤ c ∧ c ≤ '9'
  known : secondsPerUnit unit = some perUnit
  fits : number digits * perUnit ≤ 9223372036854775807

theorem unit_single (found : secondsPerUnit unit = some perUnit) : unit.utf8Size = 1 := by
  unfold secondsPerUnit at found
  split_ifs at found <;> (rename_i same; subst same; rfl)

theorem digits_range (digits : List Char) : digits.all Char.isDigit = true ↔ ∀ c ∈ digits, '0' ≤ c ∧ c ≤ '9' := by
  rw [List.all_eq_true]
  refine forall₂_congr fun c _ => ?_
  simp [Char.isDigit,Char.le_def,UInt32.le_iff_toNat_le]

theorem fromSecs_exact {d : SignedDuration} {secs : Int} (lower : i64Min ≤ secs) (upper : secs ≤ i64Max) :
    SignedDuration.fromSecs secs lower upper = d ↔ d.nanos = secs * 1000000000 := by
  obtain ⟨nanos,_,_⟩ := d
  simp only [SignedDuration.fromSecs,SignedDuration.mk.injEq]
  exact eq_comm

theorem parse_ok (input : String) : parse input = .ok d ↔
    ∃ digits unit perUnit, Reads input digits unit perUnit ∧
      d.nanos = (number digits * perUnit : Nat) * 1000000000 := by
  constructor
  · intro parsed
    simp only [parse] at parsed
    split at parsed
    · cases parsed
    · rename_i unit last
      obtain ⟨digits,shape⟩ := List.getLast?_eq_some_iff.mp last
      simp only [shape,List.dropLast_concat] at parsed
      split_ifs at parsed with wide bad beyond
      split at parsed
      · cases parsed
      · rename_i perUnit known
        split_ifs at parsed with fits
        simp only [not_or,not_not] at bad
        have exact_ := (fromSecs_exact _ _).mp (Except.ok.inj parsed)
        exact ⟨digits,unit,perUnit,⟨shape,bad.1,(digits_range digits).mp bad.2,known,fits⟩,exact_⟩
  · intro given
    obtain ⟨digits,unit,perUnit,reads,exact_⟩ := given
    have fits := reads.fits
    have positive : 0 < perUnit := by
      have known := reads.known
      unfold secondsPerUnit at known
      split_ifs at known <;> (cases known; decide)
    have inside : ¬9223372036854775807 < number digits := by
      have least := Nat.le_mul_of_pos_right (number digits) positive
      omega
    have good : ¬(digits = [] ∨ ¬digits.all Char.isDigit) := by
      rw [not_or,not_not]
      exact ⟨reads.filled,(digits_range digits).mpr reads.ascii⟩
    simp only [parse,reads.shape,List.getLast?_concat,List.dropLast_concat,unit_single reads.known,ne_eq,not_true,
      if_false,if_neg good,if_neg inside,reads.known,dif_pos fits]
    exact congrArg _ ((fromSecs_exact _ _).mpr exact_)

theorem parse_error (failed : parse input = .error e) : e.input = input := by
  simp only [parse] at failed
  split at failed
  · cases failed
    rfl
  · split_ifs at failed
    · cases failed
      rfl
    · cases failed
      rfl
    · cases failed
      rfl
    · split at failed
      · cases failed
        rfl
      · split_ifs at failed
        cases failed
        rfl

theorem parse_grammar (input : String) : ∃ result, parseBytes input = some result ∧
    (∀ d, result = .ok d ↔ ∃ digits unit perUnit, Reads input digits unit perUnit ∧
      d.nanos = (number digits * perUnit : Nat) * 1000000000) ∧
    ∀ e, result = .error e → e.input = input :=
  ⟨parse input,parseBytes_exact input,fun _ => parse_ok input,fun _ => parse_error⟩

example : parseBytes "1é" = some (.error ⟨"1é"⟩) := by decide

end YouSpinMe.DurationGrammar
