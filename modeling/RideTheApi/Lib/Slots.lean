import Mathlib.Data.List.Nodup
import Mathlib.Data.List.Basic

/-!
# `Lib.Slots` — a list of slots and the keys they hold

A pool of coroutines, sessions or cells is a list whose positions are updated in place (`set`) and
extended at the end. `l.filterMap f` collects the keys its slots hold under a view `f : α → Option κ`.
These lemmas say how the collected keys change when one slot changes, and that a key held once is held
at one position.
-/

namespace Slots

variable {α κ : Type*} {f : α → Option κ} {l : List α} {i j : Nat} {a a' b : α} {k : κ}

/-- Around the updated slot the list is unchanged. -/
theorem exists_split (h : l[i]? = some a) (a' : α) :
    ∃ l₁ l₂, l = l₁ ++ a :: l₂ ∧ l.set i a' = l₁ ++ a' :: l₂ := by
  obtain ⟨hi, rfl⟩ := List.getElem?_eq_some_iff.mp h
  obtain ⟨l₁, l₂, h₁, -, h₂⟩ : ∃ l₁ l₂, l = l₁ ++ l[i] :: l₂ ∧ l₁.length = i ∧
      l.set i a' = l₁ ++ a' :: l₂ := List.exists_of_set hi
  exact ⟨l₁, l₂, h₁, h₂⟩

/-- A slot that keeps its key keeps the collection. -/
theorem filterMap_set_same (h : l[i]? = some a) (hf : f a' = f a) :
    (l.set i a').filterMap f = l.filterMap f := by
  obtain ⟨l₁, l₂, h₁, h₂⟩ := exists_split h a'
  rw [h₂, h₁, List.filterMap_append, List.filterMap_append, List.filterMap_cons, List.filterMap_cons,
    hf]

/-- A slot that drops its key, keeps it, or takes one nobody holds keeps the keys distinct. -/
theorem nodup_filterMap_set (h : l[i]? = some a) (hn : (l.filterMap f).Nodup)
    (hk : ∀ k, f a' = some k → f a = some k ∨ k ∉ l.filterMap f) :
    ((l.set i a').filterMap f).Nodup := by
  obtain ⟨l₁, l₂, h₁, h₂⟩ := exists_split h a'
  cases ha' : f a' with
  | none =>
    have hsub : ((l.set i a').filterMap f).Sublist (l.filterMap f) := by
      rw [h₂, h₁, List.filterMap_append, List.filterMap_append, List.filterMap_cons_none ha']
      exact List.Sublist.append_left ((List.sublist_cons_self a l₂).filterMap f) _
    exact hn.sublist hsub
  | some k =>
    rcases hk k ha' with ha | hnew
    · rw [filterMap_set_same h (ha'.trans ha.symm)]
      exact hn
    · have hrest : (l₁.filterMap f ++ l₂.filterMap f).Nodup := by
        refine hn.sublist ?_
        rw [h₁, List.filterMap_append]
        exact List.Sublist.append_left ((List.sublist_cons_self a l₂).filterMap f) _
      have hk' : k ∉ l₁.filterMap f ++ l₂.filterMap f := by
        intro hmem
        apply hnew
        rw [h₁, List.filterMap_append, List.mem_append]
        rcases List.mem_append.mp hmem with hm | hm
        · exact Or.inl hm
        · exact Or.inr (((List.sublist_cons_self a l₂).filterMap f).subset hm)
      rw [h₂, List.filterMap_append, List.filterMap_cons_some ha']
      exact (List.nodup_middle).mpr (List.nodup_cons.mpr ⟨hk', hrest⟩)

/-- Appending a slot that holds no key, or one nobody holds, keeps the keys distinct. -/
theorem nodup_filterMap_append (hn : (l.filterMap f).Nodup)
    (hk : ∀ k, f a = some k → k ∉ l.filterMap f) : ((l ++ [a]).filterMap f).Nodup := by
  rw [List.filterMap_append]
  cases ha : f a with
  | none => simpa [ha] using hn
  | some k =>
    rw [List.filterMap_cons_some ha, List.filterMap_nil]
    exact List.nodup_append.mpr ⟨hn, List.nodup_singleton k, by
      intro x hx y hy hxy
      rw [List.mem_singleton] at hy
      exact hk k ha (hy ▸ hxy ▸ hx)⟩

/-- When the collected keys are distinct, two slots holding the same key are the same slot. -/
theorem index_unique (hn : (l.filterMap f).Nodup) (hi : l[i]? = some a) (hj : l[j]? = some b)
    (ha : f a = some k) (hb : f b = some k) : i = j := by
  induction l generalizing i j with
  | nil => simp at hi
  | cons c l ih =>
    have hmem : ∀ {n : Nat} {x : α}, l[n]? = some x → f x = some k → k ∈ l.filterMap f :=
      fun hx hfx => List.mem_filterMap.mpr ⟨_, List.mem_of_getElem? hx, hfx⟩
    cases i with
    | zero =>
      cases j with
      | zero => rfl
      | succ j =>
        simp only [List.getElem?_cons_zero, Option.some.injEq] at hi
        rw [hi, List.filterMap_cons_some ha] at hn
        exact absurd (hmem hj hb) (List.nodup_cons.mp hn).1
    | succ i =>
      cases j with
      | zero =>
        simp only [List.getElem?_cons_zero, Option.some.injEq] at hj
        rw [hj, List.filterMap_cons_some hb] at hn
        exact absurd (hmem hi ha) (List.nodup_cons.mp hn).1
      | succ j =>
        have hn' : (l.filterMap f).Nodup := hn.sublist ((List.sublist_cons_self c l).filterMap f)
        rw [ih hn' hi hj]

/-- A slot that stays related the way it was keeps the slots pairwise related. -/
theorem pairwise_set {R : α → α → Prop} (h : l[i]? = some a) (hp : l.Pairwise R) (hl : ∀ b, R b a → R b a')
    (hr : ∀ b, R a b → R a' b) : (l.set i a').Pairwise R := by
  obtain ⟨l₁, l₂, h₁, h₂⟩ := exists_split h a'
  rw [h₁, List.pairwise_append, List.pairwise_cons] at hp
  obtain ⟨hp₁, ⟨ha, hp₂⟩, hcross⟩ := hp
  rw [h₂, List.pairwise_append, List.pairwise_cons]
  refine ⟨hp₁, ⟨fun b hb => hr b (ha b hb), hp₂⟩, fun b hb c hc => ?_⟩
  rcases List.mem_cons.mp hc with rfl | hc
  · exact hl b (hcross b hb a List.mem_cons_self)
  · exact hcross b hb c (List.mem_cons_of_mem _ hc)

/-- When the slots are pairwise related, two that are not related either way are the same slot. -/
theorem index_eq_of_pairwise {R : α → α → Prop} (hp : l.Pairwise R) (hi : l[i]? = some a) (hj : l[j]? = some b)
    (hab : ¬ R a b) (hba : ¬ R b a) : i = j := by
  obtain ⟨hil, rfl⟩ := List.getElem?_eq_some_iff.mp hi
  obtain ⟨hjl, rfl⟩ := List.getElem?_eq_some_iff.mp hj
  rcases Nat.lt_trichotomy i j with hlt | heq | hlt
  · exact absurd (List.pairwise_iff_getElem.mp hp i j hil hjl hlt) hab
  · exact heq
  · exact absurd (List.pairwise_iff_getElem.mp hp j i hjl hil hlt) hba

end Slots
