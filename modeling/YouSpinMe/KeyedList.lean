import Mathlib.Order.Lattice
import Mathlib.Data.List.Basic

namespace YouSpinMe.KeyedList

variable {α : Type u} {β : Type v} [LinearOrder α] {key : β → α}

-- A map kept as the list of its entries, in the order of their keys.
def Ordered (key : β → α) (entries : List β) : Prop := (entries.map key).Pairwise (· < ·)

-- The entry of an equal key is replaced.
def place (key : β → α) (entry : β) : List β → List β
  | [] => [entry]
  | first :: rest =>
    if key entry < key first then entry :: first :: rest
    else if key entry = key first then entry :: rest
    else first :: place key entry rest

theorem ordered_nil : Ordered key [] := .nil

theorem ordered_cons {first : β} {rest : List β} :
    Ordered key (first :: rest) ↔ (∀ other ∈ rest, key first < key other) ∧ Ordered key rest := by
  simp [Ordered]

theorem Ordered.same {entries : List β} (ordered : Ordered key entries) (member : first ∈ entries) (listed : second ∈ entries)
    (same : key first = key second) : first = second := by
  induction entries with
  | nil => cases member
  | cons head rest ih =>
    obtain ⟨smallest,later⟩ := ordered_cons.mp ordered
    rcases List.mem_cons.mp member with rfl | early
    · rcases List.mem_cons.mp listed with rfl | late
      · rfl
      · exact absurd same (ne_of_lt (smallest second late))
    · rcases List.mem_cons.mp listed with rfl | late
      · exact absurd same.symm (ne_of_lt (smallest first early))
      · exact ih later early late

theorem mem_place {entries : List β} (ordered : Ordered key entries) {entry other : β} :
    other ∈ place key entry entries ↔ other = entry ∨ other ∈ entries ∧ key other ≠ key entry := by
  induction entries with
  | nil => simp [place]
  | cons first rest ih =>
    obtain ⟨smallest,later⟩ := ordered_cons.mp ordered
    unfold place
    split
    · rename_i before
      have apart : ∀ x ∈ first :: rest, key x ≠ key entry := by
        intro x member
        rcases List.mem_cons.mp member with rfl | member
        · exact (ne_of_lt before).symm
        · exact (ne_of_lt (before.trans (smallest x member))).symm
      constructor
      · intro member
        rcases List.mem_cons.mp member with rfl | member
        · exact .inl rfl
        · exact .inr ⟨member,apart other member⟩
      · intro found
        rcases found with rfl | ⟨member,_⟩
        · exact List.mem_cons_self
        · exact List.mem_cons_of_mem _ member
    · split
      · rename_i same
        have apart : ∀ x ∈ rest, key x ≠ key entry := by
          intro x member
          rw [same]
          exact (ne_of_lt (smallest x member)).symm
        constructor
        · intro member
          rcases List.mem_cons.mp member with rfl | member
          · exact .inl rfl
          · exact .inr ⟨List.mem_cons_of_mem _ member,apart other member⟩
        · intro found
          rcases found with rfl | ⟨member,different⟩
          · exact List.mem_cons_self
          · rcases List.mem_cons.mp member with rfl | member
            · exact absurd same.symm different
            · exact List.mem_cons_of_mem _ member
      · rename_i different
        rw [List.mem_cons,ih later,List.mem_cons]
        constructor
        · intro found
          rcases found with rfl | rfl | ⟨member,apart⟩
          · exact .inr ⟨.inl rfl,fun same => different same.symm⟩
          · exact .inl rfl
          · exact .inr ⟨.inr member,apart⟩
        · intro found
          rcases found with rfl | ⟨rfl | member,apart⟩
          · exact .inr (.inl rfl)
          · exact .inl rfl
          · exact .inr (.inr ⟨member,apart⟩)

theorem place_ordered {entries : List β} (ordered : Ordered key entries) (entry : β) : Ordered key (place key entry entries) := by
  induction entries with
  | nil => simp [place,Ordered]
  | cons first rest ih =>
    obtain ⟨smallest,later⟩ := ordered_cons.mp ordered
    unfold place
    split
    · rename_i before
      refine ordered_cons.mpr ⟨?_,ordered⟩
      intro other member
      rcases List.mem_cons.mp member with rfl | member
      · exact before
      · exact before.trans (smallest other member)
    · split
      · rename_i same
        refine ordered_cons.mpr ⟨?_,later⟩
        rw [same]
        exact smallest
      · rename_i before different
        refine ordered_cons.mpr ⟨?_,ih later⟩
        intro other member
        rcases (mem_place later).mp member with rfl | ⟨member,_⟩
        · exact lt_of_le_of_ne (not_lt.mp before) (Ne.symm different)
        · exact smallest other member

theorem Ordered.nodup {entries : List β} (ordered : Ordered key entries) : (entries.map key).Nodup :=
  ordered.imp ne_of_lt

end YouSpinMe.KeyedList
