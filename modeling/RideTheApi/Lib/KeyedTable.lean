import Mathlib.Data.List.Nodup

/-!
# `Lib.KeyedTable` — tables of rows with a unique key

A table lists its rows in the order they were added. `upsert` updates the row of a key in place, or adds a
new one at the end: the order of the rows is the order in which their keys were first written. Two
invariants go through every upsert: the keys stay distinct, and what holds of every row and survives an
update still holds of every row.
-/

namespace KeyedTable

universe u v

variable {α : Type u} {κ : Type v} [DecidableEq κ] {key : α → κ} {k : κ} {make : α} {update : α → α}
  {rows : List α}

/-- Update the row of key `k`, or add the updated `make` as it. -/
def upsert (key : α → κ) (k : κ) (make : α) (update : α → α) : List α → List α
  | []        => [update make]
  | r :: rows => if key r = k then update r :: rows else r :: upsert key k make update rows

/-- A row after an upsert is an old one, an updated one or the new one. -/
theorem mem_upsert {x : α} (h : x ∈ upsert key k make update rows) :
    x ∈ rows ∨ (∃ r ∈ rows, key r = k ∧ x = update r) ∨ x = update make := by
  induction rows with
  | nil => exact .inr (.inr (List.mem_singleton.mp h))
  | cons r rows ih =>
    rw [upsert] at h
    split at h
    case isTrue hk =>
      rcases List.mem_cons.mp h with rfl | h
      · exact .inr (.inl ⟨r, List.mem_cons_self, hk, rfl⟩)
      · exact .inl (List.mem_cons_of_mem _ h)
    case isFalse =>
      rcases List.mem_cons.mp h with rfl | h
      · exact .inl List.mem_cons_self
      · rcases ih h with h | ⟨r', hr', hk, hx⟩ | h
        · exact .inl (List.mem_cons_of_mem _ h)
        · exact .inr (.inl ⟨r', List.mem_cons_of_mem _ hr', hk, hx⟩)
        · exact .inr (.inr h)

/-- What every row has, an updated row keeps and the new one gets, every row has after an upsert. -/
theorem forall_upsert {P : α → Prop} (h : ∀ r ∈ rows, P r) (hupdate : ∀ r ∈ rows, key r = k → P r → P (update r))
    (hmake : P (update make)) : ∀ r ∈ upsert key k make update rows, P r := by
  intro x hx
  rcases mem_upsert hx with hx | ⟨r, hr, hk, rfl⟩ | rfl
  · exact h x hx
  · exact hupdate r hr hk (h r hr)
  · exact hmake

/-- The keys after an upsert: the old ones, and the new one at the end if it is new. -/
theorem keys_upsert (hkey : ∀ r, key r = k → key (update r) = k) (hmake : key make = k) :
    (upsert key k make update rows).map key =
      if k ∈ rows.map key then rows.map key else rows.map key ++ [k] := by
  induction rows with
  | nil =>
    rw [if_neg (by simp)]
    simp [upsert, hkey make hmake]
  | cons r rows ih =>
    rw [upsert]
    by_cases hr : key r = k
    · rw [if_pos hr, List.map_cons, hkey r hr, if_pos (by simp [hr]), List.map_cons, hr]
    · rw [if_neg hr, List.map_cons, ih, List.map_cons]
      by_cases hk : k ∈ rows.map key
      · rw [if_pos hk, if_pos (List.mem_cons_of_mem _ hk)]
      · have hcons : k ∉ key r :: rows.map key := by
          intro hmem
          rcases List.mem_cons.mp hmem with h | h
          · exact hr h.symm
          · exact hk h
        rw [if_neg hk, if_neg hcons, List.cons_append]

/-- Distinct keys stay distinct. -/
theorem nodup_upsert (hkey : ∀ r, key r = k → key (update r) = k) (hmake : key make = k)
    (h : (rows.map key).Nodup) : ((upsert key k make update rows).map key).Nodup := by
  rw [keys_upsert hkey hmake]
  by_cases hk : k ∈ rows.map key
  · rw [if_pos hk]
    exact h
  · rw [if_neg hk]
    refine List.nodup_append.mpr ⟨h, List.nodup_singleton k, fun a ha b hb => ?_⟩
    rintro rfl
    exact hk (List.mem_singleton.mp hb ▸ ha)

/-- A new key is added at the end. -/
theorem upsert_fresh (h : k ∉ rows.map key) : upsert key k make update rows = rows ++ [update make] := by
  induction rows with
  | nil => rfl
  | cons r rows ih =>
    rw [List.map_cons, List.mem_cons, not_or] at h
    rw [upsert, if_neg (Ne.symm h.1), ih h.2, List.cons_append]

/-- An upsert leaves the updated row in the table, whichever it was. -/
theorem exists_update_mem (key : α → κ) (k : κ) (make : α) (update : α → α) (rows : List α) :
    ∃ r, (r ∈ rows ∧ key r = k ∨ r = make) ∧ update r ∈ upsert key k make update rows := by
  induction rows with
  | nil => exact ⟨make, .inr rfl, List.mem_singleton_self _⟩
  | cons r rows ih =>
    rw [upsert]
    by_cases hr : key r = k
    · rw [if_pos hr]
      exact ⟨r, .inl ⟨List.mem_cons_self, hr⟩, List.mem_cons_self⟩
    · rw [if_neg hr]
      obtain ⟨r', hr', hmem⟩ := ih
      exact ⟨r', hr'.imp_left fun h => ⟨List.mem_cons_of_mem _ h.1, h.2⟩, List.mem_cons_of_mem _ hmem⟩

/-- A row of another key stays. -/
theorem mem_upsert_of_ne {x : α} (hx : x ∈ rows) (hk : key x ≠ k) : x ∈ upsert key k make update rows := by
  induction rows with
  | nil => cases hx
  | cons r rows ih =>
    rw [upsert]
    by_cases hr : key r = k
    · rw [if_pos hr]
      rcases List.mem_cons.mp hx with rfl | hx
      · exact absurd hr hk
      · exact List.mem_cons_of_mem _ hx
    · rw [if_neg hr]
      rcases List.mem_cons.mp hx with rfl | hx
      · exact List.mem_cons_self
      · exact List.mem_cons_of_mem _ (ih hx)

/-- What is asked of rows of other keys only, an upsert leaves. -/
theorem filter_upsert {p : α → Bool} (hp : ∀ r, key r = k → p r = false) (hkey : ∀ r, key r = k → key (update r) = k)
    (hmake : key make = k) : (upsert key k make update rows).filter p = rows.filter p := by
  induction rows with
  | nil => rw [upsert, List.filter_cons_of_neg (by simp [hp _ (hkey make hmake)])]
  | cons r rows ih =>
    rw [upsert]
    by_cases hr : key r = k
    · rw [if_pos hr, List.filter_cons_of_neg (by simp [hp _ (hkey r hr)]), List.filter_cons_of_neg (by simp [hp r hr])]
    · rw [if_neg hr, List.filter_cons, List.filter_cons, ih]

/-! ## Looking a key up -/

/-- The row of a key, if there is one. -/
def row? (key : α → κ) (k : κ) (rows : List α) : Option α := rows.find? fun r => decide (key r = k)

theorem row?_nil (k : κ) : row? key k [] = none := rfl

theorem row?_cons (k : κ) (r : α) (rows : List α) :
    row? key k (r :: rows) = if key r = k then some r else row? key k rows := by
  unfold row?
  rw [List.find?_cons]
  by_cases hr : key r = k
  · simp [hr]
  · simp [hr]

theorem key_of_row? {k : κ} {r : α} (h : row? key k rows = some r) : key r = k := by
  have hfound := List.find?_some (p := fun r => decide (key r = k)) h
  exact of_decide_eq_true hfound

theorem mem_of_row? {k : κ} {r : α} (h : row? key k rows = some r) : r ∈ rows := List.mem_of_find?_eq_some h

theorem row?_eq_none_iff {k : κ} : row? key k rows = none ↔ k ∉ rows.map key := by
  unfold row?
  rw [List.find?_eq_none, List.mem_map]
  constructor
  · rintro h ⟨r, hr, hkey⟩
    exact h r hr (decide_eq_true hkey)
  · intro h r hr hkey
    exact h ⟨r, hr, of_decide_eq_true hkey⟩

theorem row?_append (k : κ) (rows more : List α) :
    row? key k (rows ++ more) = (row? key k rows).or (row? key k more) :=
  List.find?_append

/-- A row that is kept stays the row of its key. -/
theorem row?_filter {k : κ} {r : α} {p : α → Bool} (h : row? key k rows = some r) (hp : p r = true) :
    row? key k (rows.filter p) = some r := by
  induction rows with
  | nil => cases h
  | cons x rows ih =>
    rw [row?_cons] at h
    by_cases hx : key x = k
    · rw [if_pos hx] at h
      cases h
      rw [List.filter_cons_of_pos hp, row?_cons, if_pos hx]
    · rw [if_neg hx] at h
      by_cases hpx : p x = true
      · rw [List.filter_cons_of_pos hpx, row?_cons, if_neg hx, ih h]
      · rw [List.filter_cons_of_neg hpx, ih h]

/-- The row of the key after an upsert: the old one updated, or the new one. -/
theorem row?_upsert_self (hkey : ∀ r, key r = k → key (update r) = k) (hmake : key make = k) :
    row? key k (upsert key k make update rows) = some (update ((row? key k rows).getD make)) := by
  induction rows with
  | nil =>
    rw [upsert, row?_cons, if_pos (hkey make hmake)]
    rfl
  | cons r rows ih =>
    rw [upsert, row?_cons]
    by_cases hr : key r = k
    · rw [if_pos hr, row?_cons, if_pos (hkey r hr), if_pos hr]
      rfl
    · rw [if_neg hr, row?_cons, if_neg hr, if_neg hr, ih]

/-- The row of another key after an upsert: the old one. -/
theorem row?_upsert_of_ne (hkey : ∀ r, key r = k → key (update r) = k) (hmake : key make = k) {j : κ} (hne : j ≠ k) :
    row? key j (upsert key k make update rows) = row? key j rows := by
  induction rows with
  | nil => rw [upsert, row?_cons, hkey make hmake, if_neg hne.symm]
  | cons r rows ih =>
    rw [upsert]
    by_cases hr : key r = k
    · rw [if_pos hr, row?_cons, row?_cons, hkey r hr, hr, if_neg hne.symm, if_neg hne.symm]
    · rw [if_neg hr, row?_cons, row?_cons, ih]

/-- An upsert that changes nothing about the row it meets leaves the table. -/
theorem upsert_of_row? {r : α} (h : row? key k rows = some r) (hupdate : update r = r) :
    upsert key k make update rows = rows := by
  induction rows with
  | nil => cases h
  | cons x rows ih =>
    rw [row?_cons] at h
    rw [upsert]
    by_cases hx : key x = k
    · rw [if_pos hx] at h ⊢
      cases h
      rw [hupdate]
    · rw [if_neg hx] at h ⊢
      rw [ih h]

/-! ## Many upserts -/

section
variable {ι : Type u} {keyOf : ι → κ} {makeOf : ι → α} {updateOf : ι → α → α} {items : List ι}

/-- What every row has and every upsert keeps and gives, every row has after many upserts. -/
theorem forall_foldl_upsert {P : α → Prop} (h : ∀ r ∈ rows, P r)
    (hupdate : ∀ i ∈ items, ∀ r, key r = keyOf i → P r → P (updateOf i r))
    (hmake : ∀ i ∈ items, P (updateOf i (makeOf i))) :
    ∀ r ∈ items.foldl (fun rows i => upsert key (keyOf i) (makeOf i) (updateOf i) rows) rows, P r := by
  induction items generalizing rows with
  | nil => exact h
  | cons i items ih =>
    refine ih ?_ (fun j hj => hupdate j (List.mem_cons_of_mem _ hj)) fun j hj => hmake j (List.mem_cons_of_mem _ hj)
    exact forall_upsert h (fun r _ => hupdate i List.mem_cons_self r) (hmake i List.mem_cons_self)

/-- Many upserts keep distinct keys distinct. -/
theorem nodup_foldl_upsert (hkey : ∀ i r, key r = keyOf i → key (updateOf i r) = keyOf i) (hmake : ∀ i, key (makeOf i) = keyOf i)
    (h : (rows.map key).Nodup) :
    ((items.foldl (fun rows i => upsert key (keyOf i) (makeOf i) (updateOf i) rows) rows).map key).Nodup := by
  induction items generalizing rows with
  | nil => exact h
  | cons i items ih => exact ih (nodup_upsert (hkey i) (hmake i) h)

/-- The keys after many upserts: the old ones and those of the items. -/
theorem mem_keys_foldl_upsert (hkey : ∀ i r, key r = keyOf i → key (updateOf i r) = keyOf i) (hmake : ∀ i, key (makeOf i) = keyOf i)
    (k : κ) : k ∈ (items.foldl (fun rows i => upsert key (keyOf i) (makeOf i) (updateOf i) rows) rows).map key ↔
      k ∈ rows.map key ∨ k ∈ items.map keyOf := by
  induction items generalizing rows with
  | nil => simp
  | cons i items ih =>
    rw [List.foldl_cons, ih, keys_upsert (hkey i) (hmake i), List.map_cons, List.mem_cons]
    split
    next hmem =>
      refine ⟨fun h => h.imp_right .inr, fun h => ?_⟩
      rcases h with h | rfl | h
      · exact .inl h
      · exact .inl hmem
      · exact .inr h
    next =>
      rw [List.mem_append, List.mem_singleton, or_assoc]

/-- The row of a key after upserts of distinct keys: what the item of the key leaves, else the old one. -/
theorem row?_foldl_upsert (hkey : ∀ i r, key r = keyOf i → key (updateOf i r) = keyOf i) (hmake : ∀ i, key (makeOf i) = keyOf i)
    (hnodup : (items.map keyOf).Nodup) (k : κ) :
    row? key k (items.foldl (fun rows i => upsert key (keyOf i) (makeOf i) (updateOf i) rows) rows) =
      (row? keyOf k items).elim (row? key k rows) fun i => some (updateOf i ((row? key k rows).getD (makeOf i))) := by
  induction items generalizing rows with
  | nil => rfl
  | cons i items ih =>
    rw [List.map_cons, List.nodup_cons] at hnodup
    rw [List.foldl_cons, ih hnodup.2, row?_cons]
    by_cases hi : keyOf i = k
    · have hnone : row? keyOf k items = none := row?_eq_none_iff.mpr (hi ▸ hnodup.1)
      rw [hnone, if_pos hi]
      subst hi
      exact row?_upsert_self (hkey i) (hmake i)
    · rw [if_neg hi, row?_upsert_of_ne (hkey i) (hmake i) (Ne.symm hi)]

/-- The row of a key after each item has replaced its own: the last item of the key, else the old row. -/
theorem row?_foldl_replace {rows : List α} {items : List α} (k : κ) :
    row? key k (items.foldl (fun rows i => upsert key (key i) i (fun _ => i) rows) rows) =
      (row? key k items.reverse).or (row? key k rows) := by
  induction items generalizing rows with
  | nil => rfl
  | cons i items ih =>
    rw [List.foldl_cons, ih, List.reverse_cons, row?_append, Option.or_assoc]
    congr 1
    rw [row?_cons, row?_nil]
    by_cases hi : key i = k
    · subst hi
      rw [row?_upsert_self (fun _ _ => rfl) rfl, if_pos rfl]
      rfl
    · rw [row?_upsert_of_ne (fun _ _ => rfl) rfl (Ne.symm hi), if_neg hi]
      rfl

/-- With distinct keys, each row is the row of its key. -/
theorem row?_of_mem (h : (rows.map key).Nodup) {r : α} (hr : r ∈ rows) : row? key (key r) rows = some r := by
  induction rows with
  | nil => cases hr
  | cons x rows ih =>
    rw [List.map_cons, List.nodup_cons] at h
    rw [row?_cons]
    rcases List.mem_cons.mp hr with rfl | hmem
    · rw [if_pos rfl]
    · have hne : key x ≠ key r := fun heq => h.1 (heq ▸ List.mem_map_of_mem hmem)
      rw [if_neg hne, ih h.2 hmem]

/-- With distinct keys, the row of a key is the same from either end. -/
theorem row?_reverse (h : (rows.map key).Nodup) (k : κ) : row? key k rows.reverse = row? key k rows := by
  induction rows with
  | nil => rfl
  | cons r rows ih =>
    rw [List.map_cons, List.nodup_cons] at h
    rw [List.reverse_cons, row?_append, ih h.2, row?_cons, row?_cons, row?_nil]
    by_cases hr : key r = k
    · rw [if_pos hr, if_pos hr, row?_eq_none_iff.mpr (hr ▸ h.1)]
      rfl
    · rw [if_neg hr, if_neg hr, Option.or_none]

/-- Upserts that each find their row as they would leave it change nothing. -/
theorem foldl_upsert_of_row? (h : ∀ i ∈ items, ∃ r, row? key (keyOf i) rows = some r ∧ updateOf i r = r) :
    items.foldl (fun rows i => upsert key (keyOf i) (makeOf i) (updateOf i) rows) rows = rows := by
  induction items with
  | nil => rfl
  | cons i items ih =>
    obtain ⟨r, hr, hupdate⟩ := h i List.mem_cons_self
    rw [List.foldl_cons, upsert_of_row? hr hupdate]
    exact ih fun j hj => h j (List.mem_cons_of_mem _ hj)

/-- Upserts of new, distinct keys add their rows in order. -/
theorem foldl_upsert_fresh (hkey : ∀ i, key (updateOf i (makeOf i)) = keyOf i)
    (hnodup : (items.map keyOf).Nodup) (hfresh : ∀ i ∈ items, keyOf i ∉ rows.map key) :
    items.foldl (fun rows i => upsert key (keyOf i) (makeOf i) (updateOf i) rows) rows =
      rows ++ items.map fun i => updateOf i (makeOf i) := by
  induction items generalizing rows with
  | nil => simp
  | cons i items ih =>
    rw [List.map_cons, List.nodup_cons] at hnodup
    rw [List.foldl_cons, upsert_fresh (hfresh i List.mem_cons_self), ih hnodup.2, List.map_cons, List.append_assoc]
    · rfl
    · intro j hj
      rw [List.map_append, List.mem_append, not_or]
      refine ⟨hfresh j (List.mem_cons_of_mem _ hj), fun hmem => hnodup.1 ?_⟩
      rw [List.map_singleton, List.mem_singleton, hkey] at hmem
      exact List.mem_map.mpr ⟨j, hj, hmem⟩

/-- Many upserts seen through a projection that keeps the keys. -/
theorem map_foldl_upsert {β : Type u} {p : α → β} {key' : β → κ} {makeOf' : ι → β} {updateOf' : ι → β → β}
    (hkey : ∀ r, key' (p r) = key r) (hmake : ∀ i, p (makeOf i) = makeOf' i)
    (hupdate : ∀ i r, p (updateOf i r) = updateOf' i (p r)) :
    (items.foldl (fun rows i => upsert key (keyOf i) (makeOf i) (updateOf i) rows) rows).map p =
      items.foldl (fun rows i => upsert key' (keyOf i) (makeOf' i) (updateOf' i) rows) (rows.map p) := by
  have hupsert : ∀ i (rows : List α), (upsert key (keyOf i) (makeOf i) (updateOf i) rows).map p =
      upsert key' (keyOf i) (makeOf' i) (updateOf' i) (rows.map p) := by
    intro i rows
    induction rows with
    | nil => rw [upsert, List.map_nil, upsert, List.map_singleton, hupdate, hmake]
    | cons r rows ih =>
      rw [upsert, List.map_cons, upsert, hkey]
      by_cases hr : key r = keyOf i
      · rw [if_pos hr, if_pos hr, List.map_cons, hupdate]
      · rw [if_neg hr, if_neg hr, List.map_cons, ih]
  induction items generalizing rows with
  | nil => rfl
  | cons i items ih => rw [List.foldl_cons, ih, hupsert, List.foldl_cons]

/-- Upserts that leave the row of the item, and agree where they have the same key, leave one row for each. -/
theorem mem_foldl_upsert {value : ι → α} (hvalue : ∀ i, key (value i) = keyOf i) (done : List ι)
    (hmake : ∀ i ∈ done ++ items, updateOf i (makeOf i) = value i)
    (hupdate : ∀ i ∈ done ++ items, updateOf i (value i) = value i)
    (hdone : ∀ x, x ∈ rows ↔ ∃ i ∈ done, x = value i)
    (hagree : ∀ i ∈ done ++ items, ∀ j ∈ done ++ items, keyOf i = keyOf j → value i = value j) (x : α) :
    x ∈ items.foldl (fun rows i => upsert key (keyOf i) (makeOf i) (updateOf i) rows) rows ↔
      ∃ i ∈ done ++ items, x = value i := by
  induction items generalizing rows done with
  | nil =>
    rw [List.append_nil]
    exact hdone x
  | cons i items ih =>
    have hsplit : done ++ i :: items = (done ++ [i]) ++ items := by simp
    rw [hsplit] at hmake hupdate hagree ⊢
    have hi : i ∈ (done ++ [i]) ++ items := by simp
    have hleft : ∀ {j}, j ∈ done → j ∈ (done ++ [i]) ++ items := fun hj =>
      List.mem_append_left _ (List.mem_append_left _ hj)
    -- the row an item meets under its key is already its own
    have hmeets : ∀ r ∈ rows, key r = keyOf i → updateOf i r = value i := by
      intro r hr hkey
      obtain ⟨j, hj, rfl⟩ := (hdone r).mp hr
      rw [hagree j (hleft hj) i hi ((hvalue j).symm.trans hkey)]
      exact hupdate i hi
    rw [List.foldl_cons]
    refine ih (done ++ [i]) hmake hupdate (fun y => ?_) hagree
    have hnew : value i ∈ upsert key (keyOf i) (makeOf i) (updateOf i) rows := by
      obtain ⟨r, hr, hmem⟩ := exists_update_mem key (keyOf i) (makeOf i) (updateOf i) rows
      rcases hr with ⟨hr, hkey⟩ | rfl
      · rw [hmeets r hr hkey] at hmem
        exact hmem
      · rw [hmake i hi] at hmem
        exact hmem
    constructor
    · intro hy
      rcases mem_upsert hy with hy | ⟨r, hmem, hr, rfl⟩ | rfl
      · obtain ⟨j, hj, rfl⟩ := (hdone y).mp hy
        exact ⟨j, List.mem_append_left _ hj, rfl⟩
      · exact ⟨i, by simp, hmeets r hmem hr⟩
      · exact ⟨i, by simp, hmake i hi⟩
    · rintro ⟨j, hj, rfl⟩
      rcases List.mem_append.mp hj with hj | hj
      · by_cases hk : keyOf j = keyOf i
        · rw [hagree j (hleft hj) i hi hk]
          exact hnew
        · exact mem_upsert_of_ne ((hdone _).mpr ⟨j, hj, rfl⟩) (by rw [hvalue]; exact hk)
      · rw [List.mem_singleton.mp hj]
        exact hnew

end

/-- With distinct keys, the rows of a key are the first one. -/
theorem filter_key_eq (h : (rows.map key).Nodup) {r : α} (hr : r ∈ rows) :
    (rows.filter fun x => decide (key x = key r)) = [r] := by
  induction rows with
  | nil => cases hr
  | cons x rows ih =>
    rw [List.map_cons, List.nodup_cons] at h
    rcases List.mem_cons.mp hr with rfl | hmem
    · have hrest : (rows.filter fun x => decide (key x = key r)) = [] := by
        refine List.filter_eq_nil_iff.mpr fun y hy => ?_
        rw [decide_eq_true_eq]
        exact fun heq => h.1 (heq ▸ List.mem_map_of_mem hy)
      rw [List.filter_cons_of_pos (by simp), hrest]
    · have hne : ¬ key x = key r := fun heq => h.1 (heq ▸ List.mem_map_of_mem hmem)
      rw [List.filter_cons_of_neg (by simpa using hne)]
      exact ih h.2 hmem

end KeyedTable
