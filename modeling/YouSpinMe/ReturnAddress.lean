import YouSpinMe.Http

namespace YouSpinMe.ReturnAddress
open Text Identity Http

-- What a browser makes of a reference before it reads it: controls and blanks
-- fall off both ends, then tabs and line breaks anywhere.
def control (c : Char) : Bool := c.toNat ≤ 32
def removed (c : Char) : Bool := c = '\t' || c = '\n' || c = '\r'
def cleaned (chars : List Char) : List Char := (trimChars control chars).filter fun c => !removed c

def slash (c : Char) : Bool := c = '/' || c = '\\'
def schemeChar (c : Char) : Bool := c.isAlphanum || c = '+' || c = '-' || c = '.'

def hasScheme : List Char → Bool
  | c :: rest => c.isAlpha && (rest.dropWhile schemeChar).head? = some ':'
  | [] => false

-- The text up to the path, query or fragment; slashes before it are skipped.
def authority (rest : List Char) : String :=
  String.ofList ((rest.dropWhile slash).takeWhile fun c => !(slash c || c = '?' || c = '#'))

inductive Destination where
  | site
  | host (authority : String)
  | absolute
  deriving DecidableEq

def resolve (reference : String) : Destination :=
  match cleaned reference.toList with
  | c :: d :: rest => if slash c && slash d then .host (authority rest) else if hasScheme (c :: d :: rest) then .absolute
      else .site
  | _ => .site

-- `own` tells which authorities are the one of the public URL.
def Destination.sameOrigin (own : String → Bool) : Destination → Bool
  | .site => true
  | .host authority => own authority
  | .absolute => false

-- A gap of removed characters hides a second slash from the check.
def Slips (own : String → Bool) (next : String) : Prop :=
  '\\' ∉ next.toList ∧ ∃ gap rest, next.toList = '/' :: (gap ++ '/' :: rest) ∧ gap ≠ [] ∧
    (∀ c ∈ gap, removed c = true) ∧ own (authority ((rest.rdropWhile control).filter fun c => !removed c)) = false

theorem cleaned_slash (tail : List Char) :
    cleaned ('/' :: tail) = '/' :: (tail.rdropWhile control).filter fun c => !removed c := by
  have first : control '/' = false := by decide
  have kept : ('/' :: tail).rdropWhile control = '/' :: tail.rdropWhile control := rdropWhile_stop first [] tail
  rw [cleaned,trimChars,List.dropWhile_cons_of_neg (by simp [first]),kept]
  rfl

theorem gap_exact (tail more : List Char) :
    ((tail.rdropWhile control).filter fun c => !removed c) = '/' :: more ↔
      ∃ gap rest, tail = gap ++ '/' :: rest ∧ (∀ c ∈ gap, removed c = true) ∧
        more = (rest.rdropWhile control).filter fun c => !removed c := by
  have first : control '/' = false := by decide
  constructor
  · intro starts
    obtain ⟨gap,rest,found,skipped,_,same⟩ := List.filter_eq_cons_iff.mp starts
    have whole : tail = gap ++ '/' :: (rest ++ tail.rtakeWhile control) := by
      calc
        tail = tail.rdropWhile control ++ tail.rtakeWhile control := List.rdropWhile_append_rtakeWhile.symm
        _ = gap ++ '/' :: (rest ++ tail.rtakeWhile control) := by rw [found,List.append_assoc,List.cons_append]
    refine ⟨gap,_,whole,?_,?_⟩
    · intro c member
      simpa using skipped c member
    · rw [whole,rdropWhile_stop first] at found
      have equal := (List.cons.inj (List.append_cancel_left found)).2
      rw [equal,same]
  · intro given
    obtain ⟨gap,rest,rfl,skipped,rfl⟩ := given
    have gone : gap.filter (fun c => !removed c) = [] := by
      rw [List.filter_eq_nil_iff]
      intro c member
      simp [skipped c member]
    rw [rdropWhile_stop first,List.filter_append,gone]
    rfl

-- What is passed on starts with one slash and has no backslash.
def Accepted (n : String) : Prop := n.toList.head? = some '/' ∧ ¬['/','/'] <+: n.toList ∧ '\\' ∉ n.toList

theorem slips_accepted (slips : Slips own n) : Accepted n := by
  obtain ⟨straight,gap,rest,shape,nonempty,skipped,_⟩ := slips
  refine ⟨by rw [shape]; rfl,?_,straight⟩
  rw [shape,List.cons_prefix_cons]
  intro given
  obtain ⟨_,second⟩ := given
  cases gap with
  | nil => exact nonempty rfl
  | cons c gap =>
    rw [List.cons_append,List.cons_prefix_cons] at second
    have blank := skipped c List.mem_cons_self
    rw [← second.1] at blank
    exact absurd blank (by decide)

theorem accepted_tail (accepted : Accepted n) :
    ∃ tail, n.toList = '/' :: tail ∧ tail.head? ≠ some '/' ∧ '\\' ∉ tail := by
  obtain ⟨first,single,straight⟩ := accepted
  obtain ⟨tail,shape⟩ := List.head?_eq_some_iff.mp first
  refine ⟨tail,shape,?_,?_⟩
  · intro second
    obtain ⟨rest,rfl⟩ := List.head?_eq_some_iff.mp second
    exact single (shape ▸ List.prefix_append ['/','/'] rest)
  · intro member
    exact straight (shape ▸ List.mem_cons_of_mem _ member)

theorem accepted_exact (own : String → Bool) (accepted : Accepted n) :
    (resolve n).sameOrigin own = true ↔ ¬Slips own n := by
  obtain ⟨tail,shape,single,straight⟩ := accepted_tail accepted
  have slips : Slips own n ↔ ∃ more, ((tail.rdropWhile control).filter fun c => !removed c) = '/' :: more ∧
      own (authority more) = false := by
    constructor
    · intro given
      obtain ⟨_,gap,rest,whole,_,skipped,foreign⟩ := given
      rw [shape] at whole
      exact ⟨_,(gap_exact ..).mpr ⟨gap,rest,(List.cons.inj whole).2,skipped,rfl⟩,foreign⟩
    · intro given
      obtain ⟨more,starts,foreign⟩ := given
      obtain ⟨gap,rest,rfl,skipped,rfl⟩ := (gap_exact ..).mp starts
      refine ⟨accepted.2.2,gap,rest,shape,?_,skipped,foreign⟩
      rintro rfl
      exact single rfl
  rw [slips,resolve,shape,cleaned_slash]
  cases filtered : (tail.rdropWhile control).filter fun c => !removed c with
  | nil => simp [Destination.sameOrigin]
  | cons d more =>
    have listed : d ∈ tail := by
      have inside : d ∈ (tail.rdropWhile control).filter fun c => !removed c := filtered ▸ List.mem_cons_self
      exact (List.rdropWhile_prefix _ _).subset (List.mem_filter.mp inside).1
    have forward : d ≠ '\\' := by
      rintro rfl
      exact straight listed
    by_cases second : d = '/'
    · subst second
      simp [slash,Destination.sameOrigin]
    · have schemeless : hasScheme ('/' :: d :: more) = false := by
        have letter : Char.isAlpha '/' = false := by decide
        simp [hasScheme,letter]
      simp [slash,second,forward,schemeless,Destination.sameOrigin]

theorem safe_next_exact (own : String → Bool) (next : Option String) :
    (resolve (safeNext next)).sameOrigin own = true ↔ ∀ n, next = some n → ¬Slips own n := by
  have home : (resolve "/").sameOrigin own = true := rfl
  cases next with
  | none => simp [safeNext,home]
  | some n =>
    simp only [Option.some.injEq,forall_eq',safeNext]
    split
    · rename_i accepted
      exact accepted_exact own accepted
    · rename_i refused
      exact iff_of_true home fun slips => refused (slips_accepted slips)

-- The tab stays in the redirect and falls out of the reference.
theorem tab_slips : let next := some "/\t/evil.example"
    resolve (safeNext next) = .host "evil.example" ∧
    redirect (safeNext next) = {status := 303, headers := [("location","/\t/evil.example")]} ∧
    (resolve (safeNext next)).sameOrigin (fun authority => authority = "keys.example") = false := by
  refine ⟨by decide,by rfl,by decide⟩

end YouSpinMe.ReturnAddress
