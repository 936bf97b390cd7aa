import Mathlib.Data.List.Sort

/-!
# `Lib.StableSort` — the first entries of a stably sorted list

`ORDER BY … LIMIT n` over rows kept in a list is `(l.insertionSort r).take n`. An entry of a list without
duplicates is found at the position of its **rank**: the number of entries that come before it, by `r` or,
where `r` ties, by the list. So what the first `n` entries hold, and which of them is the first to pass a
test, is read off the unsorted list. Sorting by a test only moves the entries that pass it behind the others.
-/

namespace StableSort

variable {α : Type*} {r : α → α → Prop} {l : List α} {a b : α} {n : Nat} {p : α → Bool}

/-- `a` comes before `b` once `l` is sorted by `r`: ties keep the order of `l`. -/
def Precedes (r : α → α → Prop) (l : List α) (a b : α) : Prop := r a b ∧ (r b a → [a, b].Sublist l)

instance [DecidableEq α] [DecidableRel r] : DecidableRel (Precedes r l) :=
  fun _ _ => inferInstanceAs (Decidable (_ ∧ (_ → _)))

/-- The number of entries that come before `b`. -/
def rank [DecidableEq α] (r : α → α → Prop) [DecidableRel r] (l : List α) (b : α) : Nat :=
  l.countP fun a => Precedes r l a b

/-! ## The order of two entries -/

/-- Two entries of a list without duplicates stand in one order only. -/
theorem not_sublist_swap (hn : l.Nodup) (h : [a, b].Sublist l) : ¬ [b, a].Sublist l := by
  intro h'
  obtain ⟨s, t, hst, ha, hb⟩ := List.cons_sublist_iff.mp h
  obtain ⟨s', t', hst', hb', ha'⟩ := List.cons_sublist_iff.mp h'
  rw [List.singleton_sublist] at hb ha'
  have apart : ∀ {u v : List α} {x : α}, l = u ++ v → x ∈ u → x ∈ v → False :=
    fun huv hu hv => (List.nodup_append.mp (huv ▸ hn)).2.2 _ hu _ hv rfl
  rcases List.append_eq_append_iff.mp (hst.symm.trans hst') with ⟨u, rfl, -⟩ | ⟨u, rfl, -⟩
  · exact apart hst' (List.mem_append_left u ha) ha'
  · exact apart hst (List.mem_append_left u hb') hb

/-- Two different entries stand in one order or the other. -/
theorem sublist_or_swap (ha : a ∈ l) (hb : b ∈ l) (hab : a ≠ b) : [a, b].Sublist l ∨ [b, a].Sublist l := by
  obtain ⟨s, t, rfl⟩ := List.append_of_mem ha
  rcases List.mem_append.mp hb with hs | ht
  · exact .inr (List.cons_sublist_iff.mpr ⟨s, a :: t, rfl, hs, by simp⟩)
  · have ht : b ∈ t := (List.mem_cons.mp ht).resolve_left hab.symm
    exact .inl (List.cons_sublist_iff.mpr ⟨s ++ [a], t, by simp, by simp, by simpa using ht⟩)

theorem precedes_asymm (hn : l.Nodup) (h : Precedes r l a b) : ¬ Precedes r l b a :=
  fun h' => not_sublist_swap hn (h.2 h'.1) (h'.2 h.1)

/-! ## Sorting by a test -/

/-- **Sorting by a test lists what fails it, then what passes it**, each in the order of the list. -/
theorem insertionSort_test (p : α → Bool) (l : List α) :
    l.insertionSort (fun a b => p a ≤ p b) = (l.filter fun a => !p a) ++ l.filter p := by
  -- what passes goes behind all that fail
  have hbehind : ∀ (a : α) (fails passes : List α), p a = true → (∀ b ∈ fails, p b = false) →
      (∀ b ∈ passes, p b = true) →
        (fails ++ passes).orderedInsert (fun a b => p a ≤ p b) a = fails ++ a :: passes := by
    intro a fails passes ha hfails hpasses
    induction fails with
    | nil =>
      cases passes with
      | nil => rfl
      | cons b passes =>
        have hb : p b = true := hpasses b List.mem_cons_self
        simp [ha, hb]
    | cons b fails ih =>
      have hb : p b = false := hfails b List.mem_cons_self
      have hrest := ih fun c hc => hfails c (List.mem_cons_of_mem _ hc)
      rw [List.cons_append, List.orderedInsert_cons, hrest]
      simp [ha, hb]
  induction l with
  | nil => rfl
  | cons a l ih =>
    rw [List.insertionSort_cons, ih]
    cases ha : p a with
    | true =>
      rw [hbehind a _ _ ha (fun b hb => by simpa using (List.mem_filter.mp hb).2)
        (fun b hb => (List.mem_filter.mp hb).2)]
      simp [ha]
    | false =>
      have hfront : ∀ rest : List α, rest.orderedInsert (fun a b => p a ≤ p b) a = a :: rest := by
        intro rest
        cases rest with
        | nil => rfl
        | cons b rest => simp [ha]
      rw [hfront]
      simp [ha]

/-! ## Sorting by an order -/

variable [DecidableRel r] [Std.Total r] [IsTrans α r]

/-- **A stable sort lists its entries by precedence.** -/
theorem pairwise_precedes (hn : l.Nodup) : (l.insertionSort r).Pairwise (Precedes r l) := by
  refine List.pairwise_iff_forall_sublist.mpr fun {a b} hab => ?_
  have hrel : r a b := List.pairwise_iff_forall_sublist.mp (l.pairwise_insertionSort r) hab
  refine ⟨hrel, fun htie => ?_⟩
  have hsorted : (l.insertionSort r).Nodup := (l.perm_insertionSort r).nodup_iff.mpr hn
  have hmem : ∀ {x}, x ∈ [a, b] → x ∈ l := fun hx => (l.mem_insertionSort r).mp (hab.subset hx)
  have hne : a ≠ b := by
    rintro rfl
    exact not_sublist_swap hsorted hab hab
  refine (sublist_or_swap (hmem (by simp)) (hmem (by simp)) hne).resolve_right fun hswap => ?_
  exact not_sublist_swap hsorted hab (List.pair_sublist_insertionSort htie hswap)

/-! ## The first entries -/

variable [DecidableEq α]

/-- An entry of the sorted list stands at its rank. -/
theorem rank_eq_length {s t : List α} (hn : l.Nodup) (h : l.insertionSort r = s ++ b :: t) :
    rank r l b = s.length := by
  have hp := pairwise_precedes (r := r) hn
  rw [h, List.pairwise_append, List.pairwise_cons] at hp
  obtain ⟨-, ⟨ht, -⟩, hs⟩ := hp
  have hbefore : ∀ a ∈ s, decide (Precedes r l a b) = true :=
    fun a ha => decide_eq_true (hs a ha b List.mem_cons_self)
  have hafter : ∀ a ∈ b :: t, ¬ decide (Precedes r l a b) = true := by
    intro a ha hab
    have hab := of_decide_eq_true hab
    rcases List.mem_cons.mp ha with rfl | ha
    · exact precedes_asymm hn hab hab
    · exact precedes_asymm hn (ht a ha) hab
  have hperm : rank r l b = (l.insertionSort r).countP fun a => Precedes r l a b :=
    ((l.perm_insertionSort r).countP_eq _).symm
  rw [hperm, h, List.countP_append, List.countP_eq_length.mpr hbefore, List.countP_eq_zero.mpr hafter,
    Nat.add_zero]

/-- **The first `n` entries are those of rank below `n`.** -/
theorem mem_take_insertionSort (hn : l.Nodup) : b ∈ (l.insertionSort r).take n ↔ b ∈ l ∧ rank r l b < n := by
  constructor
  · intro h
    obtain ⟨s, t, hst⟩ := List.append_of_mem h
    have hsorted : l.insertionSort r = s ++ b :: (t ++ (l.insertionSort r).drop n) := by
      rw [← List.cons_append, ← List.append_assoc, ← hst, List.take_append_drop]
    refine ⟨(l.mem_insertionSort r).mp (List.mem_of_mem_take h), ?_⟩
    rw [rank_eq_length hn hsorted]
    have hlen := congrArg List.length hst
    rw [List.length_append, List.length_cons] at hlen
    have hle := List.length_take_le n (l.insertionSort r)
    omega
  · rintro ⟨hmem, hlt⟩
    obtain ⟨s, t, hst⟩ := List.append_of_mem ((l.mem_insertionSort r).mpr hmem)
    rw [rank_eq_length hn hst] at hlt
    have hpos : n - s.length = (n - s.length - 1) + 1 := by omega
    rw [hst, List.take_append, hpos, List.take_succ_cons]
    exact List.mem_append_right _ List.mem_cons_self

/-- **The first of the first `n` entries to pass a test** is the one that precedes all others that pass it,
    provided its rank is below `n`. -/
theorem find?_take_insertionSort (hn : l.Nodup) :
    ((l.insertionSort r).take n).find? p = some b ↔
      b ∈ l ∧ p b = true ∧ rank r l b < n ∧ ∀ a ∈ l, p a = true → a = b ∨ Precedes r l b a := by
  have hp := pairwise_precedes (r := r) hn
  constructor
  · intro h
    obtain ⟨hpass, s, t, hst, hs⟩ := List.find?_eq_some_iff_append.mp h
    obtain ⟨hmem, hlt⟩ := (mem_take_insertionSort hn).mp (List.mem_of_find?_eq_some h)
    refine ⟨hmem, hpass, hlt, fun a ha hpa => ?_⟩
    have hsorted : l.insertionSort r = s ++ b :: (t ++ (l.insertionSort r).drop n) := by
      rw [← List.cons_append, ← List.append_assoc, ← hst, List.take_append_drop]
    have ha' := (l.mem_insertionSort r).mpr ha
    rw [hsorted] at ha' hp
    rcases List.mem_append.mp ha' with has | hat
    · have := hs a has
      simp [hpa] at this
    · rcases List.mem_cons.mp hat with rfl | hat
      · exact .inl rfl
      · exact .inr ((List.pairwise_cons.mp (List.pairwise_append.mp hp).2.1).1 a hat)
  · rintro ⟨hmem, hpass, hlt, hfirst⟩
    have htake := (mem_take_insertionSort (r := r) hn).mpr ⟨hmem, hlt⟩
    obtain ⟨c, hc⟩ := Option.isSome_iff_exists.mp (List.find?_isSome.mpr ⟨b, htake, hpass⟩)
    rw [hc]
    obtain ⟨hpc, s, t, hst, hs⟩ := List.find?_eq_some_iff_append.mp hc
    have hcl := ((mem_take_insertionSort hn).mp (List.mem_of_find?_eq_some hc)).1
    rcases hfirst c hcl hpc with rfl | hbc
    · rfl
    · -- `b` would stand before `c`, but no entry there passes
      have htakep := hp.sublist (List.take_sublist n _)
      rw [hst] at htake htakep
      rcases List.mem_append.mp htake with hbs | hbt
      · have := hs b hbs
        simp [hpass] at this
      · rcases List.mem_cons.mp hbt with rfl | hbt
        · rfl
        · have hcb := (List.pairwise_cons.mp (List.pairwise_append.mp htakep).2.1).1 b hbt
          exact absurd hbc (precedes_asymm hn hcb)

end StableSort
