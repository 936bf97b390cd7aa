import RideTheApi.Lib.KeyedTable

/-!
# `Lib.Overwrite` — writing the same again

An update that keeps some columns of a row and sets the others, whatever they were, is an overwrite. Overwrites
compose, and what one sets, a second round of the same overwrites sets again: many upserts that overwrite leave
a table that they leave as it is. Nothing is asked of their keys: several may write one row.
-/

namespace KeyedTable

universe u v

/-- The columns of a row, each with its type. -/
abbrev Columns (α : Type u) : Type (u + 1) := List ((β : Type u) × (α → β))

/-- The columns tell rows apart. -/
def Columns.Separate {α : Type u} (columns : Columns α) : Prop :=
  ∀ x y : α, (∀ c ∈ columns, c.2 x = c.2 y) → x = y

/-- Each column is kept, or set to a value that does not depend on the row. -/
def Overwrites {α : Type u} (columns : Columns α) (g : α → α) : Prop :=
  ∀ c ∈ columns, (∀ x, c.2 (g x) = c.2 x) ∨ ∀ x y, c.2 (g x) = c.2 (g y)

section
variable {α : Type u} {columns : Columns α} {f g : α → α}

theorem overwrites_id (columns : Columns α) : Overwrites columns id := fun _ _ => .inl fun _ => rfl

/-- An overwrite after an overwrite is one. -/
theorem Overwrites.comp (hf : Overwrites columns f) (hg : Overwrites columns g) : Overwrites columns (f ∘ g) := by
  intro c hc
  rcases hf c hc with hkeep | hset
  · rcases hg c hc with hkeep' | hset'
    · exact .inl fun x => (hkeep (g x)).trans (hkeep' x)
    · exact .inr fun x y => (hkeep (g x)).trans ((hset' x y).trans (hkeep (g y)).symm)
  · exact .inr fun x y => hset (g x) (g y)

/-- **An overwrite undoes what came between**: where the row was settled for `f`, so it is once `g` was written,
    as far as `g` has the last word. -/
theorem Overwrites.again (hcolumns : columns.Separate) (hf : Overwrites columns f) (hg : Overwrites columns g)
    {x : α} (hx : f x = x) : g (f (g x)) = g x := by
  refine hcolumns _ _ fun c hc => ?_
  rcases hg c hc with hkeep | hset
  · rcases hf c hc with hkeep' | hset'
    · rw [hkeep, hkeep']
    · rw [hkeep, hset' (g x) x, hx, hkeep]
  · exact hset _ _

end

/-! ## Rounds of upserts -/

section
variable {α : Type u} {κ : Type v} [DecidableEq κ] {key : α → κ} {rows : List α} {ι : Type u} {keyOf : ι → κ}
  {makeOf : ι → α} {updateOf : ι → α → α} {items done : List ι} {columns : Columns α}

/-- What the items write to a row that is there: each item of its key updates it. -/
def settle (key : α → κ) (keyOf : ι → κ) (updateOf : ι → α → α) (items : List ι) (r : α) : α :=
  items.foldl (fun r i => if key r = keyOf i then updateOf i r else r) r

theorem settle_append (r : α) : settle key keyOf updateOf (done ++ items) r =
    settle key keyOf updateOf items (settle key keyOf updateOf done r) :=
  List.foldl_append

theorem settle_singleton (i : ι) (r : α) :
    settle key keyOf updateOf [i] r = if key r = keyOf i then updateOf i r else r := rfl

/-- Items of other keys write nothing to a row. -/
theorem settle_of_ne {r : α} (h : ∀ i ∈ items, key r ≠ keyOf i) : settle key keyOf updateOf items r = r := by
  induction items with
  | nil => rfl
  | cons i items ih =>
    show settle key keyOf updateOf items (if key r = keyOf i then updateOf i r else r) = r
    rw [if_neg (h i List.mem_cons_self), ih fun j hj => h j (List.mem_cons_of_mem _ hj)]

/-- Distinct keys, each in the table: an upsert updates the row of its key. -/
theorem upsert_eq_map {k : κ} {make : α} {update : α → α} (hnodup : (rows.map key).Nodup) (hmem : k ∈ rows.map key) :
    upsert key k make update rows = rows.map fun r => if key r = k then update r else r := by
  induction rows with
  | nil => cases hmem
  | cons r rows ih =>
    rw [List.map_cons, List.nodup_cons] at hnodup
    rw [upsert, List.map_cons]
    by_cases hr : key r = k
    · have hrest : rows.map (fun r => if key r = k then update r else r) = rows := by
        refine (List.map_congr_left fun x hx => ?_).trans (List.map_id rows)
        have hne : key x ≠ k := fun heq => hnodup.1 (hr ▸ heq ▸ List.mem_map_of_mem hx)
        rw [if_neg hne]
        rfl
      rw [if_pos hr, if_pos hr, hrest]
    · have hmem : k ∈ rows.map key := (List.mem_cons.mp hmem).resolve_left fun heq => hr heq.symm
      rw [if_neg hr, if_neg hr, ih hnodup.2 hmem]

section
variable (hkey : ∀ i r, key r = keyOf i → key (updateOf i r) = keyOf i)
include hkey

theorem key_settle (items : List ι) (r : α) : key (settle key keyOf updateOf items r) = key r := by
  induction items generalizing r with
  | nil => rfl
  | cons i items ih =>
    show key (settle key keyOf updateOf items (if key r = keyOf i then updateOf i r else r)) = key r
    rw [ih]
    by_cases hr : key r = keyOf i
    · rw [if_pos hr, hkey i r hr, hr]
    · rw [if_neg hr]

/-- What the items write to the rows of one key is one overwrite. -/
theorem overwrites_settle (h : ∀ i ∈ items, Overwrites columns (updateOf i)) (k : κ) :
    ∃ g, Overwrites columns g ∧ ∀ r, key r = k → settle key keyOf updateOf items r = g r := by
  induction items with
  | nil => exact ⟨id, overwrites_id columns, fun _ _ => rfl⟩
  | cons i items ih =>
    obtain ⟨g, hg, hsettle⟩ := ih fun j hj => h j (List.mem_cons_of_mem _ hj)
    by_cases hk : k = keyOf i
    · refine ⟨g ∘ updateOf i, hg.comp (h i List.mem_cons_self), fun r hr => ?_⟩
      have hr' : key r = keyOf i := hr.trans hk
      show settle key keyOf updateOf items (if key r = keyOf i then updateOf i r else r) = g (updateOf i r)
      rw [if_pos hr', hsettle _ ((hkey i r hr').trans hk.symm)]
    · refine ⟨g, hg, fun r hr => ?_⟩
      have hr' : key r ≠ keyOf i := fun heq => hk (hr.symm.trans heq)
      show settle key keyOf updateOf items (if key r = keyOf i then updateOf i r else r) = g r
      rw [if_neg hr', hsettle r hr]

/-- Upserts of keys that are all in the table settle its rows. -/
theorem foldl_upsert_eq_map (hnodup : (rows.map key).Nodup) (hmem : ∀ i ∈ items, keyOf i ∈ rows.map key) :
    items.foldl (fun rows i => upsert key (keyOf i) (makeOf i) (updateOf i) rows) rows =
      rows.map (settle key keyOf updateOf items) := by
  induction items generalizing rows with
  | nil => exact (List.map_id rows).symm
  | cons i items ih =>
    have hkeys : (rows.map fun r => if key r = keyOf i then updateOf i r else r).map key = rows.map key := by
      rw [List.map_map]
      refine List.map_congr_left fun r _ => ?_
      show key (if key r = keyOf i then updateOf i r else r) = key r
      by_cases hr : key r = keyOf i
      · rw [if_pos hr, hkey i r hr, hr]
      · rw [if_neg hr]
    rw [List.foldl_cons, upsert_eq_map hnodup (hmem i List.mem_cons_self), ih, List.map_map]
    · rfl
    · rw [hkeys]
      exact hnodup
    · intro j hj
      rw [hkeys]
      exact hmem j (List.mem_cons_of_mem _ hj)

/-- A row that overwrites have settled stays settled when another overwrite is made last. -/
theorem settled_update (hcolumns : columns.Separate) {i : ι} (hdone : ∀ j ∈ done, Overwrites columns (updateOf j))
    (hi : Overwrites columns (updateOf i)) {r : α} (hr : key r = keyOf i)
    (hsettled : settle key keyOf updateOf done r = r) :
    settle key keyOf updateOf (done ++ [i]) (updateOf i r) = updateOf i r := by
  obtain ⟨f, hf, hsettle⟩ := overwrites_settle hkey hdone (keyOf i)
  have hupdated : key (updateOf i r) = keyOf i := hkey i r hr
  have hkept : key (f (updateOf i r)) = keyOf i := by
    rw [← hsettle _ hupdated, key_settle hkey]
    exact hupdated
  rw [settle_append, settle_singleton, hsettle _ hupdated, if_pos hkept]
  exact Overwrites.again hcolumns hf hi ((hsettle r hr).symm.trans hsettled)

/-- **Rows that were upserted are settled.** -/
theorem settled_foldl_upsert (hcolumns : columns.Separate) (hmake : ∀ i, key (makeOf i) = keyOf i)
    (hnodup : (rows.map key).Nodup) (h : ∀ i ∈ done ++ items, Overwrites columns (updateOf i))
    (hrows : ∀ r ∈ rows, settle key keyOf updateOf done r = r) (hkeys : ∀ i ∈ done, keyOf i ∈ rows.map key) :
    ∀ r ∈ items.foldl (fun rows i => upsert key (keyOf i) (makeOf i) (updateOf i) rows) rows,
      settle key keyOf updateOf (done ++ items) r = r := by
  induction items generalizing rows done with
  | nil =>
    rw [List.append_nil]
    exact hrows
  | cons i items ih =>
    have hsplit : done ++ i :: items = (done ++ [i]) ++ items := by simp
    rw [hsplit] at h ⊢
    have hover : ∀ j ∈ done, Overwrites columns (updateOf j) := fun j hj => h j (by simp [hj])
    have hi : Overwrites columns (updateOf i) := h i (by simp)
    rw [List.foldl_cons]
    refine ih (nodup_upsert (hkey i) (hmake i) hnodup) h (fun r hr => ?_) fun j hj => ?_
    · by_cases hk : key r = keyOf i
      · -- the row of the item's key is the one it has just written
        have hrow : row? key (key r) (upsert key (keyOf i) (makeOf i) (updateOf i) rows) = some r :=
          row?_of_mem (nodup_upsert (hkey i) (hmake i) hnodup) hr
        rw [hk, row?_upsert_self (hkey i) (hmake i)] at hrow
        obtain rfl := Option.some.inj hrow
        cases hold : row? key (keyOf i) rows with
        | some old =>
          exact settled_update hkey hcolumns hover hi (key_of_row? hold) (hrows old (mem_of_row? hold))
        | none =>
          have hnew : settle key keyOf updateOf done (makeOf i) = makeOf i := by
            refine settle_of_ne fun j hj heq => ?_
            have habsent := row?_eq_none_iff.mp hold
            rw [← hmake i, heq] at habsent
            exact habsent (hkeys j hj)
          exact settled_update hkey hcolumns hover hi (hmake i) hnew
      · rw [settle_append, settle_singleton]
        have hold : r ∈ rows := by
          rcases mem_upsert hr with hold | ⟨old, _, hold, rfl⟩ | rfl
          · exact hold
          · exact absurd (hkey i old hold) hk
          · exact absurd (hkey i _ (hmake i)) hk
        rw [hrows r hold, if_neg hk]
    · rw [keys_upsert (hkey i) (hmake i)]
      rcases List.mem_append.mp hj with hj | hj
      · have hmem := hkeys j hj
        split
        · exact hmem
        · exact List.mem_append_left _ hmem
      · rw [List.mem_singleton.mp hj]
        split
        next hmem => exact hmem
        next => simp

/-- **Overwriting a table again changes nothing.** -/
theorem foldl_upsert_again (hcolumns : columns.Separate) (hmake : ∀ i, key (makeOf i) = keyOf i)
    (hnodup : (rows.map key).Nodup) (h : ∀ i ∈ items, Overwrites columns (updateOf i)) :
    items.foldl (fun rows i => upsert key (keyOf i) (makeOf i) (updateOf i) rows)
        (items.foldl (fun rows i => upsert key (keyOf i) (makeOf i) (updateOf i) rows) rows) =
      items.foldl (fun rows i => upsert key (keyOf i) (makeOf i) (updateOf i) rows) rows := by
  have hpresent : ∀ i ∈ items, keyOf i ∈
      (items.foldl (fun rows i => upsert key (keyOf i) (makeOf i) (updateOf i) rows) rows).map key :=
    fun i hi => (mem_keys_foldl_upsert hkey hmake _).mpr (.inr (List.mem_map_of_mem hi))
  rw [foldl_upsert_eq_map hkey (nodup_foldl_upsert hkey hmake hnodup) hpresent]
  refine (List.map_congr_left fun r hr => ?_).trans (List.map_id _)
  have hstart : ∀ i ∈ ([] : List ι), keyOf i ∈ rows.map key := nofun
  exact settled_foldl_upsert hkey hcolumns hmake hnodup h (fun _ _ => rfl) hstart r hr

end
end

end KeyedTable
