import Mathlib.Data.List.Basic

namespace YouSpinMe.Comparators
open Std

variable {α : Type u} {β : Type v}

-- Things compared by their keys.
def byKey (key : β → α) (cmp : α → α → Ordering) (a b : β) : Ordering := cmp (key a) (key b)

instance byKey_trans {key : β → α} {cmp : α → α → Ordering} [TransCmp cmp] : TransCmp (byKey key cmp) where
  eq_swap := by
    intro a b
    exact @OrientedCmp.eq_swap _ cmp _ (key a) (key b)
  isLE_trans := by
    intro a b c one two
    exact @TransCmp.isLE_trans _ cmp _ (key a) (key b) (key c) one two

-- Everything of the first kind comes before everything of the second.
def inTurn (first : α → α → Ordering) (second : β → β → Ordering) : α ⊕ β → α ⊕ β → Ordering
  | .inl a,.inl b => first a b
  | .inl _,.inr _ => .lt
  | .inr _,.inl _ => .gt
  | .inr a,.inr b => second a b

instance inTurn_trans {first : α → α → Ordering} {second : β → β → Ordering} [TransCmp first] [TransCmp second] :
    TransCmp (inTurn first second) where
  eq_swap := by
    intro a b
    cases a with
    | inl a =>
      cases b with
      | inl b => exact @OrientedCmp.eq_swap _ first _ _ _
      | inr b => rfl
    | inr a =>
      cases b with
      | inl b => rfl
      | inr b => exact @OrientedCmp.eq_swap _ second _ _ _
  isLE_trans := by
    intro a b c one two
    cases a with
    | inl a =>
      cases c with
      | inl c =>
        cases b with
        | inl b => exact @TransCmp.isLE_trans _ first _ _ _ _ one two
        | inr b => cases two
      | inr c => rfl
    | inr a =>
      cases b with
      | inl b => cases one
      | inr b =>
        cases c with
        | inl c => cases two
        | inr c => exact @TransCmp.isLE_trans _ second _ _ _ _ one two

-- A stable sort, and the removal of repeated neighbours.
def sortBy (cmp : α → α → Ordering) (items : List α) : List α := items.mergeSort fun a b => (cmp a b).isLE

def dedup [DecidableEq α] : List α → List α
  | [] => []
  | [a] => [a]
  | a :: b :: rest => if a = b then dedup (b :: rest) else a :: dedup (b :: rest)

theorem sortBy_perm (cmp : α → α → Ordering) (items : List α) : (sortBy cmp items).Perm items :=
  List.mergeSort_perm ..

theorem sortBy_sorted (cmp : α → α → Ordering) [TransCmp cmp] (items : List α) :
    (sortBy cmp items).Pairwise fun a b => (cmp a b).isLE = true := by
  apply List.pairwise_mergeSort
  · intro a b c
    exact TransCmp.isLE_trans
  · intro a b
    rw [@OrientedCmp.eq_swap _ cmp _ b a]
    cases cmp a b <;> rfl

-- Where nothing of one kind may follow the other kind, the list falls in two.
theorem sorted_parts {p : α → Prop} [DecidablePred p] {r : α → α → Prop} {items : List α} (sorted : items.Pairwise r)
    (first : ∀ a b, ¬p a → p b → ¬r a b) :
    ∃ front back, items = front ++ back ∧ (∀ a ∈ front, p a) ∧ ∀ b ∈ back, ¬p b := by
  induction items with
  | nil => exact ⟨[],[],rfl,by simp,by simp⟩
  | cons a items ih =>
    obtain ⟨above,rest⟩ := List.pairwise_cons.mp sorted
    by_cases early : p a
    · obtain ⟨front,back,rfl,before,after⟩ := ih rest
      refine ⟨a :: front,back,rfl,?_,after⟩
      intro x present
      rcases List.mem_cons.mp present with equal | present
      · exact equal ▸ early
      · exact before x present
    · refine ⟨[],a :: items,rfl,by simp,?_⟩
      intro x present
      rcases List.mem_cons.mp present with equal | present
      · exact equal ▸ early
      · intro late
        exact first a x early late (above x present)

theorem mem_dedup [DecidableEq α] (items : List α) (x : α) : x ∈ dedup items ↔ x ∈ items := by
  induction items using dedup.induct with
  | case1 => rfl
  | case2 a => rfl
  | case3 a rest ih => simp [dedup,ih]
  | case4 a b rest different ih => simp [dedup,different,ih]

theorem dedup_strict [DecidableEq α] (cmp : α → α → Ordering) [TransCmp cmp] [LawfulEqCmp cmp] {items : List α}
    (sorted : items.Pairwise fun a b => (cmp a b).isLE = true) :
    (dedup items).Pairwise fun a b => cmp a b = .lt := by
  induction items using dedup.induct with
  | case1 => exact .nil
  | case2 a => exact List.pairwise_singleton ..
  | case3 a rest ih =>
    rw [dedup,if_pos rfl]
    exact ih (List.pairwise_cons.mp sorted).2
  | case4 a b rest different ih =>
    obtain ⟨above,later⟩ := List.pairwise_cons.mp sorted
    rw [dedup,if_neg different]
    refine List.pairwise_cons.mpr ⟨?_,ih later⟩
    intro x present
    rw [mem_dedup] at present
    have next : cmp a b = .lt := by
      cases order : cmp a b with
      | lt => rfl
      | eq => exact absurd (LawfulEqCmp.eq_of_compare order) different
      | gt =>
        have least := above b List.mem_cons_self
        rw [order] at least
        cases least
    rcases List.mem_cons.mp present with equal | present
    · exact equal ▸ next
    · exact TransCmp.lt_of_lt_of_isLE next ((List.pairwise_cons.mp later).1 x present)

end YouSpinMe.Comparators
