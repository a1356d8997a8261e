import YouSpinMe.Text

namespace YouSpinMe.DebugText
open Text

section Codes
variable {α : Type u} {β : Type v} {code : α → List β} {reader : List β → Option (α × List β)}

-- Where each code word can be read off in front of anything, so can a whole text.
theorem flatMap_inj (reads : ∀ a rest, reader (code a ++ rest) = some (a,rest)) (filled : ∀ a, code a ≠ [])
    {xs ys : List α} (equal : xs.flatMap code = ys.flatMap code) : xs = ys := by
  have absent (a : α) (rest : List α) : [] ≠ (a :: rest).flatMap code := by
    intro empty
    rw [List.flatMap_cons] at empty
    exact filled a (List.append_eq_nil_iff.mp empty.symm).1
  induction xs generalizing ys with
  | nil =>
    cases ys with
    | nil => rfl
    | cons b ys => exact absurd equal (absent b ys)
  | cons a xs ih =>
    cases ys with
    | nil => exact absurd equal.symm (absent a xs)
    | cons b ys =>
      rw [List.flatMap_cons,List.flatMap_cons] at equal
      have read := congrArg reader equal
      rw [reads,reads,Option.some.injEq,Prod.mk.injEq] at read
      rw [read.1,ih read.2]

end Codes

def hexDigit (c : Char) : Nat := if c.isDigit then c.toNat - 48 else c.toNat - 87
def hexValue (digits : List Char) : Nat := digits.foldl (fun n c => n * 16 + hexDigit c) 0

theorem hexDigit_digitChar : ∀ d < 16, hexDigit d.digitChar = d ∧ d.digitChar ≠ '\x7d' := by decide

theorem hexValue_digits (n : Nat) : hexValue (Nat.toDigits 16 n) = n ∧ '\x7d' ∉ Nat.toDigits 16 n := by
  induction n using Nat.strongRecOn with
  | ind n ih =>
    by_cases small : n < 16
    · obtain ⟨value,other⟩ := hexDigit_digitChar n small
      rw [Nat.toDigits_of_lt_base small]
      refine ⟨by simp [hexValue,value],?_⟩
      intro member
      exact other (List.mem_singleton.mp member).symm
    · obtain ⟨front,free⟩ := ih (n / 16) (by omega)
      obtain ⟨value,other⟩ := hexDigit_digitChar (n % 16) (by omega)
      rw [Nat.toDigits_of_base_le (by decide) (by omega)]
      refine ⟨?_,?_⟩
      · rw [hexValue,List.foldl_append,← hexValue,front,List.foldl_cons,List.foldl_nil,value]
        omega
      · intro member
        rcases List.mem_append.mp member with inside | last
        · exact free inside
        · exact other (List.mem_singleton.mp last).symm

-- Reads one character of an escaped text, and says what follows it.
def unescape : List Char → Option (Char × List Char)
  | [] => none
  | c :: rest =>
    if c ≠ '\\' then some (c,rest)
    else match rest with
      | [] => none
      | k :: rest =>
        if k = '0' then some (Char.ofNat 0,rest)
        else if k = 't' then some ('\t',rest)
        else if k = 'n' then some ('\n',rest)
        else if k = 'r' then some ('\r',rest)
        else if k = 'u' then
          some (Char.ofNat (hexValue (rest.tail.takeWhile (· ≠ '\x7d'))),(rest.tail.dropWhile (· ≠ '\x7d')).tail)
        else some (k,rest)

theorem ofNat_of_toNat {c : Char} (value : c.toNat = n) : c = Char.ofNat n := by
  rw [← value,Char.ofNat_toNat]

theorem unescape_code (c : Char) (rest : List Char) :
    unescape ('\\' :: 'u' :: '\x7b' :: (Nat.toDigits 16 c.toNat ++ '\x7d' :: rest)) = some (c,rest) := by
  obtain ⟨value,absent⟩ := hexValue_digits c.toNat
  have inside : ∀ d ∈ Nat.toDigits 16 c.toNat, decide (d ≠ '\x7d') = true := by
    intro d digit
    rw [decide_eq_true_eq]
    intro equal
    exact absent (equal ▸ digit)
  have digits : (Nat.toDigits 16 c.toNat ++ '\x7d' :: rest).takeWhile (fun d => decide (d ≠ '\x7d')) =
      Nat.toDigits 16 c.toNat := by
    rw [List.takeWhile_append_of_pos inside,List.takeWhile_cons_of_neg (by decide),List.append_nil]
  have after : (Nat.toDigits 16 c.toNat ++ '\x7d' :: rest).dropWhile (fun d => decide (d ≠ '\x7d')) =
      '\x7d' :: rest := by
    rw [List.dropWhile_append_of_pos inside,List.dropWhile_cons_of_neg (by decide)]
  change some (Char.ofNat (hexValue (List.takeWhile _ _)),(List.dropWhile _ _).tail) = _
  rw [List.tail_cons,digits,after,value,Char.ofNat_toNat,List.tail_cons]

section Escapes
variable [CharTables]

theorem escapeDebug_read (c : Char) (rest : List Char) :
    unescape ((escapeDebug c).toList ++ rest) = some (c,rest) := by
  unfold escapeDebug
  split_ifs with zero tab newline ret quote slash control
  · rw [ofNat_of_toNat zero]
    rfl
  · subst tab
    rfl
  · subst newline
    rfl
  · subst ret
    rfl
  · rw [ofNat_of_toNat quote]
    rfl
  · subst slash
    rfl
  · have shape : ("\\u\x7b" ++ String.ofList (Nat.toDigits 16 c.toNat) ++ "\x7d").toList ++ rest =
        '\\' :: 'u' :: '\x7b' :: (Nat.toDigits 16 c.toNat ++ '\x7d' :: rest) := by
      simp [String.toList_append]
    rw [shape]
    exact unescape_code c rest
  · have shape : c.toString.toList ++ rest = c :: rest := by simp [Char.toString_eq_singleton]
    rw [shape]
    exact if_pos slash

theorem escapeDebug_filled (c : Char) : (escapeDebug c).toList ≠ [] := by
  intro empty
  have read := escapeDebug_read c []
  rw [empty] at read
  cases read

theorem escaped_toList (chars : List Char) (text : String) :
    (chars.foldl (fun text c => text ++ escapeDebug c) text).toList =
      text.toList ++ chars.flatMap fun c => (escapeDebug c).toList := by
  induction chars generalizing text with
  | nil => simp
  | cons c chars ih => rw [List.foldl_cons,ih,String.toList_append,List.flatMap_cons,List.append_assoc]

theorem debug_toList (s : String) :
    (debug s).toList = '"' :: ((s.toList.flatMap fun c => (escapeDebug c).toList) ++ ['"']) := by
  rw [debug,String.toList_append,String.toList_append,escaped_toList]
  rfl

theorem debug_inj {s t : String} : debug s = debug t ↔ s = t := by
  constructor
  · intro equal
    have lists := congrArg String.toList equal
    rw [debug_toList,debug_toList] at lists
    have escaped := List.append_cancel_right (List.cons.inj lists).2
    exact String.toList_inj.mp (flatMap_inj escapeDebug_read escapeDebug_filled escaped)
  · intro equal
    rw [equal]

end Escapes

end YouSpinMe.DebugText
