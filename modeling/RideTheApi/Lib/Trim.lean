import Mathlib.Data.List.DropRight

/-!
# `Lib.Trim` — a list without the elements at its ends that have a property

`trim p s` drops the elements with `p` from both ends of `s`, as `strip` does with white space.
-/

namespace Trim

variable {α β : Type*} {p q : α → Bool} {s t : List α}

/-- The list without the elements with `p` at its ends. -/
def trim (p : α → Bool) (s : List α) : List α := (s.dropWhile p).rdropWhile p

theorem rdropWhile_append_of_all (s : List α) (h : ∀ x ∈ t, p x = true) : (s ++ t).rdropWhile p = s.rdropWhile p := by
  unfold List.rdropWhile
  rw [List.reverse_append, List.dropWhile_append_of_pos]
  intro x hx
  exact h x (List.mem_reverse.mp hx)

theorem rdropWhile_append_of_not (s : List α) (h : ∃ x ∈ t, p x = false) :
    (s ++ t).rdropWhile p = s ++ t.rdropWhile p := by
  have hne : t.reverse.dropWhile p ≠ [] := by
    obtain ⟨x, hx, hpx⟩ := h
    rw [ne_eq, List.dropWhile_eq_nil_iff]
    intro hall
    simpa [hpx] using hall x (List.mem_reverse.mpr hx)
  unfold List.rdropWhile
  rw [List.reverse_append, List.dropWhile_append, if_neg (by simpa using hne), List.reverse_append, List.reverse_reverse]

/-- The first element is cut off when everything behind it is. -/
theorem rdropWhile_cons (x : α) (s : List α) :
    (x :: s).rdropWhile p = if p x = true ∧ s.rdropWhile p = [] then [] else x :: s.rdropWhile p := by
  by_cases hs : ∀ y ∈ s, p y = true
  · rw [List.rdropWhile_eq_nil_iff.mpr hs]
    refine (rdropWhile_append_of_all [x] hs).trans ?_
    rw [List.rdropWhile_singleton]
    cases hx : p x with
    | true => rw [if_pos rfl, if_pos ⟨rfl, rfl⟩]
    | false => rw [if_neg Bool.false_ne_true, if_neg fun h => Bool.false_ne_true h.1]
  · have hne : s.rdropWhile p ≠ [] := fun h => hs (List.rdropWhile_eq_nil_iff.mp h)
    rw [if_neg fun h => hne h.2]
    push Not at hs
    obtain ⟨y, hy, hpy⟩ := hs
    exact rdropWhile_append_of_not [x] ⟨y, hy, by simpa using hpy⟩

theorem rdropWhile_map (f : β → α) (s : List β) : (s.map f).rdropWhile p = (s.rdropWhile (p ∘ f)).map f := by
  unfold List.rdropWhile
  rw [← List.map_reverse, List.dropWhile_map, List.map_reverse]

/-- Elements that are replaced by lists which have the property, or nowhere. -/
theorem dropWhile_flatMap (f : β → List α) {q : β → Bool} (hyes : ∀ x, q x = true → ∀ y ∈ f x, p y = true)
    (hno : ∀ x, q x = false → f x ≠ [] ∧ ∀ y ∈ f x, p y = false) (s : List β) :
    (s.flatMap f).dropWhile p = (s.dropWhile q).flatMap f := by
  induction s with
  | nil => rfl
  | cons x s ih =>
    rw [List.flatMap_cons, List.dropWhile_cons]
    cases hx : q x with
    | true =>
      rw [if_pos rfl, List.dropWhile_append_of_pos (hyes x hx), ih]
    | false =>
      obtain ⟨hne, hall⟩ := hno x hx
      obtain ⟨y, ys, hy⟩ := List.exists_cons_of_ne_nil hne
      have hpy : p y = false := hall y (by rw [hy]; exact List.mem_cons_self)
      rw [if_neg Bool.false_ne_true, List.flatMap_cons, hy, List.cons_append, List.dropWhile_cons, hpy,
        if_neg Bool.false_ne_true]

theorem rdropWhile_flatMap (f : β → List α) {q : β → Bool} (hyes : ∀ x, q x = true → ∀ y ∈ f x, p y = true)
    (hno : ∀ x, q x = false → f x ≠ [] ∧ ∀ y ∈ f x, p y = false) (s : List β) :
    (s.flatMap f).rdropWhile p = (s.rdropWhile q).flatMap f := by
  have hreverse : (s.flatMap f).reverse = s.reverse.flatMap fun x => (f x).reverse := List.reverse_flatMap ..
  have hyes' : ∀ x, q x = true → ∀ y ∈ (f x).reverse, p y = true := by
    intro x hx y hy
    exact hyes x hx y (List.mem_reverse.mp hy)
  have hno' : ∀ x, q x = false → (f x).reverse ≠ [] ∧ ∀ y ∈ (f x).reverse, p y = false := by
    intro x hx
    refine ⟨by simpa using (hno x hx).1, ?_⟩
    intro y hy
    exact (hno x hx).2 y (List.mem_reverse.mp hy)
  unfold List.rdropWhile
  rw [hreverse, dropWhile_flatMap _ hyes' hno', List.reverse_flatMap]
  congr 1
  funext x
  exact List.reverse_reverse (f x)

/-- What is cut off the end. -/
theorem exists_rdropWhile_append (p : α → Bool) (s : List α) : ∃ t, (∀ x ∈ t, p x = true) ∧ s = s.rdropWhile p ++ t := by
  refine ⟨s.rtakeWhile p, ?_, (List.rdropWhile_append_rtakeWhile ..).symm⟩
  intro x hx
  unfold List.rtakeWhile at hx
  exact List.mem_takeWhile_imp (List.mem_reverse.mp hx)

theorem trim_map (f : β → α) (s : List β) : trim p (s.map f) = (trim (p ∘ f) s).map f := by
  unfold trim
  rw [List.dropWhile_map, rdropWhile_map]

theorem trim_append_right (s : List α) (h : ∀ x ∈ t, p x = true) : trim p (s ++ t) = trim p s := by
  unfold trim
  rw [List.dropWhile_append]
  split
  · rename_i hempty
    rw [List.isEmpty_iff.mp hempty, List.dropWhile_eq_nil_iff.mpr h]
  · exact rdropWhile_append_of_all _ h

/-- Less is cut off the end first. -/
theorem trim_rdropWhile (hqp : ∀ x, q x = true → p x = true) (s : List α) : trim p (s.rdropWhile q) = trim p s := by
  obtain ⟨t, ht, hs⟩ := exists_rdropWhile_append q s
  conv_rhs => rw [hs]
  exact (trim_append_right _ fun x hx => hqp x (ht x hx)).symm

theorem trim_sublist (p : α → Bool) (s : List α) : (trim p s).Sublist s :=
  (List.rdropWhile_prefix p _).sublist.trans (List.dropWhile_sublist p)

end Trim
