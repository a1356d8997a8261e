import YouSpinMe.Glob

namespace YouSpinMe.GlobLanguage
open Text Validation Glob

-- A `+` stands for any segment that is not empty, another segment for itself.
def Stands (seg current : String) : Prop := if seg = "+" then current ≠ "" else current = seg

def Fits (pattern path : String) : Prop := List.Forall₂ Stands (split '/' pattern) (split '/' path)

theorem stands_exact (seg current : String) :
    matchesSegment seg.toList current.toList = true ↔ Stands seg current := by
  have plus : seg.toList = ['+'] ↔ seg = "+" := by
    rw [← String.toList_inj]
    rfl
  unfold matchesSegment Stands
  by_cases wildcard : seg = "+"
  · rw [if_pos (plus.mpr wildcard),if_pos wildcard,Bool.not_eq_true',List.isEmpty_eq_false_iff]
    exact not_congr String.toList_eq_nil_iff
  · rw [if_neg (fun same => wildcard (plus.mp same)),if_neg wildcard,beq_iff_eq]
    exact String.toList_inj

theorem fits_exact (pattern path : String) : Fits pattern path ↔
    List.Forall₂ (fun seg current => matchesSegment seg current = true) (pattern.toList.splitOn '/')
      (path.toList.splitOn '/') := by
  rw [Fits,splitOn_toList,splitOn_toList,List.forall₂_map_left_iff,List.forall₂_map_right_iff]
  exact ⟨List.Forall₂.imp fun _ _ => (stands_exact _ _).mpr,List.Forall₂.imp fun _ _ => (stands_exact _ _).mp⟩

theorem cut_append (remaining : List Char) (free : '/' ∉ before) :
    cut (before ++ '/' :: remaining) = (before,some remaining) := by
  have stops : ∀ c ∈ before, (c != '/') = true := by
    intro c member
    rw [bne_iff_ne]
    exact fun same => free (same ▸ member)
  rw [cut,List.dropWhile_append_of_pos stops,List.takeWhile_append_of_pos stops]
  simp

theorem splitOn_single {s piece : List Char} : s.splitOn '/' = [piece] ↔ s = piece ∧ '/' ∉ s := by
  constructor
  · intro single
    have whole : ['/'].intercalate (s.splitOn '/') = s := List.intercalate_splitOn '/'
    rw [single,List.intercalate_singleton] at whole
    subst whole
    exact ⟨rfl,mem_splitOn_free (single ▸ List.mem_singleton_self _)⟩
  · intro given
    obtain ⟨rfl,free⟩ := given
    exact List.splitOn_eq_singleton free

-- The last segment before the `*` covers a part of the path up to its next slash.
theorem last_wild (free : '/' ∉ seg) (rest : List Char) :
    globLoop true [seg] rest = true ↔
      ∃ s t, rest = s ++ t ∧ '/' ∉ s ∧ matchesSegment seg s = true := by
  unfold globLoop matchesSegment
  by_cases wildcard : seg = ['+']
  · simp only [List.isEmpty_nil,Bool.and_self,if_true,wildcard]
    rcases cut_exact rest with ⟨slashless,parts⟩ | ⟨before,remaining,rfl,slashless,parts⟩
    · rw [parts]
      constructor
      · intro filled
        exact ⟨rest,[],(List.append_nil _).symm,slashless,filled⟩
      · intro given
        obtain ⟨s,t,rfl,_,filled⟩ := given
        simp only [Bool.not_eq_true',List.isEmpty_eq_false_iff] at filled ⊢
        exact List.append_ne_nil_of_left_ne_nil filled t
    · rw [parts]
      constructor
      · intro filled
        exact ⟨before,'/' :: remaining,rfl,slashless,filled⟩
      · intro given
        obtain ⟨s,t,same,other,filled⟩ := given
        cases before with
        | cons => rfl
        | nil =>
          cases s with
          | nil => cases filled
          | cons c s =>
            cases same
            exact absurd List.mem_cons_self other
  · simp only [List.isEmpty_nil,Bool.and_self,if_true,if_neg wildcard,List.isPrefixOf_iff_prefix,beq_iff_eq]
    constructor
    · intro given
      obtain ⟨t,rfl⟩ := given
      exact ⟨seg,t,rfl,free,rfl⟩
    · intro given
      obtain ⟨s,t,rfl,_,rfl⟩ := given
      exact List.prefix_append ..

theorem globLoop_wild {segments : List (List Char)} (nonempty : segments ≠ []) (free : ∀ seg ∈ segments, '/' ∉ seg)
    (rest : List Char) : globLoop true segments rest = true ↔
      ∃ s t, rest = s ++ t ∧
        List.Forall₂ (fun seg current => matchesSegment seg current = true) segments (s.splitOn '/') := by
  induction segments generalizing rest with
  | nil => exact absurd rfl nonempty
  | cons seg segments ih =>
    cases segments with
    | nil =>
      rw [last_wild (free seg List.mem_cons_self)]
      constructor
      · intro given
        obtain ⟨s,t,rfl,slashless,matched⟩ := given
        refine ⟨s,t,rfl,?_⟩
        rw [List.splitOn_eq_singleton slashless]
        exact .cons matched .nil
      · intro given
        obtain ⟨s,t,rfl,matched⟩ := given
        cases pieces : s.splitOn '/' with
        | nil => exact absurd pieces (List.splitOn_ne_nil _ _)
        | cons piece more =>
          rw [pieces] at matched
          cases matched with
          | cons first none =>
            cases none
            obtain ⟨rfl,slashless⟩ := splitOn_single.mp pieces
            exact ⟨s,t,rfl,slashless,first⟩
    | cons next segments =>
      have later := ih (List.cons_ne_nil _ _) fun other listed => free other (List.mem_cons_of_mem _ listed)
      -- the segment is compared whole, and a slash has to follow it
      have step : globLoop true (seg :: next :: segments) rest = true ↔
          matchesSegment seg (cut rest).1 = true ∧
            ∃ remaining, (cut rest).2 = some remaining ∧ globLoop true (next :: segments) remaining = true := by
        rw [globLoop]
        cases matched : matchesSegment seg (cut rest).1 with
        | false => simp
        | true =>
          cases (cut rest).2 with
          | none => simp
          | some remaining => simp
      rw [step]
      constructor
      · intro given
        obtain ⟨first,remaining,found,rest_⟩ := given
        obtain ⟨s,t,rfl,matched⟩ := (later remaining).mp rest_
        rcases cut_exact rest with ⟨_,parts⟩ | ⟨before,_,rfl,slashless,parts⟩
        · rw [parts] at found
          cases found
        · rw [parts] at found first
          cases found
          refine ⟨before ++ '/' :: s,t,by simp,?_⟩
          rw [List.splitOn_append_cons_self_of_not_mem slashless]
          exact .cons first matched
      · intro given
        obtain ⟨s,t,rfl,matched⟩ := given
        rcases cut_exact s with ⟨slashless,_⟩ | ⟨before,remaining,rfl,slashless,_⟩
        · rw [List.splitOn_eq_singleton slashless] at matched
          cases matched with
          | cons _ more => cases more
        · rw [List.splitOn_append_cons_self_of_not_mem slashless] at matched
          cases matched with
          | cons first more =>
            have parts : cut (before ++ '/' :: remaining ++ t) = (before,some (remaining ++ t)) := by
              rw [List.append_assoc,List.cons_append]
              exact cut_append _ slashless
            rw [parts]
            exact ⟨first,remaining ++ t,rfl,(later _).mpr ⟨remaining,t,rfl,more⟩⟩

theorem glob_language (pattern path : String) : globMatch pattern path = true ↔
    (∃ q s t, pattern = q ++ "*" ∧ path = s ++ t ∧ Fits q s) ∨ ((∀ q, pattern ≠ q ++ "*") ∧ Fits pattern path) := by
  by_cases starred : pattern.toList.getLast? = some '*'
  · obtain ⟨q,stripped⟩ := List.getLast?_eq_some_iff.mp starred
    have whole : pattern = String.ofList q ++ "*" := by
      apply String.toList_injective
      rw [stripped]
      simp
    rw [globMatch,if_pos starred,stripped,List.dropLast_concat,
      globLoop_wild (List.splitOn_ne_nil _ _) fun seg member => mem_splitOn_free member]
    constructor
    · intro given
      obtain ⟨s,t,same,matched⟩ := given
      refine .inl ⟨String.ofList q,String.ofList s,String.ofList t,whole,?_,(fits_exact _ _).mpr ?_⟩
      · apply String.toList_injective
        rw [same]
        simp
      · rwa [String.toList_ofList,String.toList_ofList]
    · intro given
      rcases given with ⟨other,s,t,same,rfl,fits⟩ | ⟨unstarred,_⟩
      · have equal : other.toList = q := by
          have both := congrArg String.toList same
          rw [stripped,String.toList_append] at both
          exact (List.append_inj_left' both rfl).symm
        refine ⟨s.toList,t.toList,String.toList_append,?_⟩
        rw [← equal]
        exact (fits_exact _ _).mp fits
      · exact absurd whole (unstarred _)
  · have unstarred : ∀ q, pattern ≠ q ++ "*" := by
      rintro q rfl
      exact starred (by simp)
    rw [globMatch,if_neg starred,globLoop_exact (List.splitOn_ne_nil _ _),← fits_exact]
    constructor
    · intro fits
      exact .inr ⟨unstarred,fits⟩
    · intro given
      rcases given with ⟨q,_,_,same,_⟩ | ⟨_,fits⟩
      · exact absurd same (unstarred q)
      · exact fits

end YouSpinMe.GlobLanguage
