import Mathlib.Data.List.Basic
import Mathlib.Data.List.Forall2

/-!
# `MonkeyScan.Proofs.Lists`: facts about lists

Lists stand here for joined texts, for maps from names to what has the name, and for the
members that a function picks of a longer list.

* `mem_intercalate`: a joined text holds what its parts hold.
* `idxsOf_eq_nil_of_not_mem`: what is not in a list is nowhere in it.
* `lookup_cons_filter`: replacing what has one name changes no other.
* `forall₂_filterMap`: two picks of one list go together if they do at each member.
-/

set_option autoImplicit false

namespace MonkeyScan

variable {α β γ δ : Type}

/-- A joined list holds what its parts hold. -/
theorem mem_intercalate {sep x : α} {part : List α} {parts : List (List α)}
    (hpart : part ∈ parts) (hx : x ∈ part) : x ∈ [sep].intercalate parts := by
  induction parts with
  | nil => exact absurd hpart List.not_mem_nil
  | cons first others ih =>
      cases others with
      | nil =>
          rw [List.intercalate_singleton]
          exact List.mem_singleton.mp hpart ▸ hx
      | cons next more =>
          rw [List.intercalate_cons_cons]
          rcases List.mem_cons.mp hpart with rfl | hothers
          · exact List.mem_append_left _ (List.mem_append_left _ hx)
          · exact List.mem_append_right _ (ih hothers)

/-- What is not in a list is at no index of it, from wherever they count. -/
theorem idxsOf_eq_nil_of_not_mem [BEq α] [LawfulBEq α] {a : α} {l : List α} (h : a ∉ l)
    (first : Nat) : l.idxsOf a first = [] := by
  rw [List.idxsOf_eq_nil_iff]
  intro x hx
  rw [beq_eq_false_iff_ne]
  exact fun heq => h (heq ▸ hx)

/-- After what has a name is replaced, the name has the new value, and every other name
has what it had. -/
theorem lookup_cons_filter [BEq α] [LawfulBEq α] [DecidableEq α] (name other : α) (value : β)
    (l : List (α × β)) :
    ((name, value) :: l.filter fun entry => entry.1 != name).lookup other
      = if other = name then some value else l.lookup other := by
  rw [List.lookup_cons]
  by_cases h : other = name
  · simp [h]
  · simp only [beq_eq_false_iff_ne.mpr h, if_neg h]
    -- What is filtered out has another name.
    induction l with
    | nil => rfl
    | cons entry more ih =>
        obtain ⟨present, v⟩ := entry
        by_cases hpresent : present = name
        · have hne : (other == present) = false := beq_eq_false_iff_ne.mpr (hpresent ▸ h)
          rw [List.filter_cons_of_neg (by simp [hpresent]), List.lookup_cons, hne]
          exact ih
        · rw [List.filter_cons_of_pos (by simp [hpresent]), List.lookup_cons,
            List.lookup_cons, ih]

/-- What two functions pick of a list goes together, if it does for each member. -/
theorem forall₂_filterMap {f : α → Option β} {g : α → Option γ} {R : β → γ → Prop} {l : List α}
    (hl : ∀ x ∈ l, (f x = none ∧ g x = none) ∨
      ∃ y z, f x = some y ∧ g x = some z ∧ R y z) :
    List.Forall₂ R (l.filterMap f) (l.filterMap g) := by
  induction l with
  | nil => exact .nil
  | cons x more ih =>
      obtain ⟨hx, hmore⟩ := List.forall_mem_cons.mp hl
      rcases hx with ⟨hf, hg⟩ | ⟨y, z, hf, hg, hR⟩
      · simpa only [List.filterMap_cons, hf, hg] using ih hmore
      · simpa only [List.filterMap_cons, hf, hg] using List.Forall₂.cons hR (ih hmore)

/-- Two lists look the same if and only if their members do, two by two. -/
theorem map_eq_map_iff_of_forall₂ {f : β → δ} {g : γ → δ} {P : γ → Prop}
    {l : List β} {l' : List γ} (h : List.Forall₂ (fun y z => f y = g z ↔ P z) l l') :
    l.map f = l'.map g ↔ ∀ z ∈ l', P z := by
  induction h with
  | nil => simp
  | cons hyz _ ih =>
      rw [List.map_cons, List.map_cons, List.cons.injEq, hyz, ih, List.forall_mem_cons]

end MonkeyScan
