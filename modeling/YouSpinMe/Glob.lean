import YouSpinMe.Validation

namespace YouSpinMe.Glob
open Text Validation

-- The segments of a text, and the text that segments make.
def join (segments : List String) : String := "/".intercalate segments

theorem mem_splitOn_free {sep : Char} {chars segment : List Char} (member : segment ∈ chars.splitOn sep) :
    sep ∉ segment := by
  induction chars generalizing segment with
  | nil =>
    simp only [List.splitOn_nil,List.mem_singleton] at member
    simp [member]
  | cons c chars ih =>
    rw [List.splitOn_cons_eq_if_modifyHead] at member
    split at member
    · rcases List.mem_cons.mp member with rfl | later
      · simp
      · exact ih later
    · rename_i other
      cases shape : chars.splitOn sep with
      | nil => exact absurd shape (List.splitOn_ne_nil _ _)
      | cons first rest =>
        rw [shape,List.modifyHead_cons] at member
        rcases List.mem_cons.mp member with rfl | later
        · have free := ih (shape ▸ List.mem_cons_self ..)
          simp only [List.mem_cons,not_or]
          exact ⟨fun same => other (by simp [same]),free⟩
        · exact ih (shape ▸ List.mem_cons_of_mem _ later)

theorem split_ne_nil (sep : Char) (s : String) : split sep s ≠ [] := by
  simp [split,List.splitOn_ne_nil]

theorem split_free {sep : Char} {s segment : String} (member : segment ∈ split sep s) : sep ∉ segment.toList := by
  obtain ⟨chars,found,rfl⟩ := List.mem_map.mp member
  rw [String.toList_ofList]
  exact mem_splitOn_free found

theorem join_split (s : String) : join (split '/' s) = s := by
  apply String.toList_injective
  rw [join,String.toList_intercalate,split,List.map_map]
  have same : String.toList ∘ String.ofList = id := by
    funext chars
    exact String.toList_ofList
  rw [same,List.map_id]
  exact List.intercalate_splitOn '/'

theorem split_join {segments : List String} (free : ∀ segment ∈ segments, '/' ∉ segment.toList)
    (nonempty : segments ≠ []) : split '/' (join segments) = segments := by
  rw [split,join,String.toList_intercalate]
  have back : ("/".toList.intercalate (segments.map String.toList)).splitOn '/' = segments.map String.toList :=
    List.splitOn_intercalate '/' (by simpa using free) (by simpa using nonempty)
  rw [back,List.map_map]
  have same : String.ofList ∘ String.toList = id := by
    funext s
    exact String.ofList_toList
  rw [same,List.map_id]

theorem mem_join {c : Char} {segments : List String} (member : c ∈ (join segments).toList) :
    c = '/' ∨ ∃ segment ∈ segments, c ∈ segment.toList := by
  induction segments with
  | nil => simp [join] at member
  | cons first rest ih =>
    cases rest with
    | nil => exact .inr ⟨first,List.mem_cons_self ..,by simpa [join] using member⟩
    | cons second rest =>
      rw [join,String.intercalate_cons_cons,String.toList_append,String.toList_append,List.mem_append,
        List.mem_append] at member
      rcases member with (early | slash) | later
      · exact .inr ⟨first,List.mem_cons_self ..,early⟩
      · exact .inl (by simpa using slash)
      · rcases ih later with slash | ⟨segment,listed,inside⟩
        · exact .inl slash
        · exact .inr ⟨segment,List.mem_cons_of_mem _ listed,inside⟩

theorem splitOn_toList (s : String) : s.toList.splitOn '/' = (split '/' s).map String.toList := by
  rw [split,List.map_map]
  have same : String.toList ∘ String.ofList = id := by
    funext chars
    exact String.toList_ofList
  rw [same,List.map_id]

-- `find('/')` splits off the first segment.
theorem cut_exact (rest : List Char) :
    ('/' ∉ rest ∧ cut rest = (rest,none)) ∨
    ∃ before remaining, rest = before ++ '/' :: remaining ∧ '/' ∉ before ∧ cut rest = (before,some remaining) := by
  have whole := List.takeWhile_append_dropWhile (p := (· != '/')) (l := rest)
  cases shape : rest.dropWhile (· != '/') with
  | nil =>
    refine .inl ⟨?_,by simp [cut,shape]⟩
    rw [List.dropWhile_eq_nil_iff] at shape
    intro member
    simpa using shape '/' member
  | cons c remaining =>
    have slash : c = '/' := by
      have stopped := List.head_dropWhile_not (· != '/') (by simp [shape] : rest.dropWhile (· != '/') ≠ [])
      simpa [shape] using stopped
    subst slash
    rw [shape] at whole
    refine .inr ⟨_,remaining,whole.symm,?_,by simp [cut,shape]⟩
    intro member
    simpa using List.mem_takeWhile_imp member

-- Without a final `*`, the loop compares segment by segment.
theorem globLoop_exact {segments : List (List Char)} (nonempty : segments ≠ []) (rest : List Char) :
    globLoop false segments rest = true ↔
      List.Forall₂ (fun seg current => matchesSegment seg current = true) segments (rest.splitOn '/') := by
  induction segments generalizing rest with
  | nil => exact absurd rfl nonempty
  | cons seg segments ih =>
    rw [globLoop]
    rcases cut_exact rest with ⟨free,parts⟩ | ⟨before,remaining,rfl,free,parts⟩
    · rw [parts,List.splitOn_eq_singleton free]
      cases matched : matchesSegment seg rest with
      | false => simp [matched]
      | true =>
        cases segments with
        | nil => simp [matched]
        | cons => simp
    · rw [parts,List.splitOn_append_cons_self_of_not_mem free]
      cases matched : matchesSegment seg before with
      | false => simp [matched]
      | true =>
        cases segments with
        | nil =>
          cases shape : remaining.splitOn '/' with
          | nil => exact absurd shape (List.splitOn_ne_nil _ _)
          | cons => simp [matched,globLoop]
        | cons next segments => simp [matched,ih]

theorem globMatch_exact {pattern : String} (literal : pattern.toList.getLast? ≠ some '*') (path : String) :
    globMatch pattern path = true ↔ List.Forall₂
      (fun seg current : String => matchesSegment seg.toList current.toList = true) (split '/' pattern) (split '/' path) := by
  rw [globMatch,if_neg literal,globLoop_exact (List.splitOn_ne_nil _ _),splitOn_toList,splitOn_toList,
    List.forall₂_map_left_iff,List.forall₂_map_right_iff]

end YouSpinMe.Glob
