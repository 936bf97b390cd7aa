import Mathlib.Data.List.Basic

/-!
# `Lib.Dict` — insertion-ordered dictionaries as association lists

A `Dict` lists its entries in insertion order. `set` overwrites the value of a present key in place and
appends an absent one, as assignment to a Python `dict` does, so the key order of a dictionary is the
order in which its keys were first written.
-/

/-- An insertion-ordered dictionary. -/
abbrev Dict (κ : Type) (α : Type) := List (κ × α)

namespace Dict

variable {κ α : Type} [DecidableEq κ]

/-- `d.get(k)`. -/
def get? (d : Dict κ α) (k : κ) : Option α := d.lookup k

/-- `k in d`. -/
def has (d : Dict κ α) (k : κ) : Bool := (d.get? k).isSome

/-- The keys, in insertion order. -/
def keys (d : Dict κ α) : List κ := d.map Prod.fst

/-- `d[k] = v`. -/
def set : Dict κ α → κ → α → Dict κ α
  | [], k, v => [(k, v)]
  | (k', v') :: d, k, v => if k' = k then (k', v) :: d else (k', v') :: set d k v

/-- `d.setdefault(k, v)`. -/
def setDefault (d : Dict κ α) (k : κ) (v : α) : Dict κ α := if d.has k then d else d.set k v

/-- A dict comprehension `{k: v for k, v in kvs}`: a later entry of a key overwrites an earlier one. -/
def ofList (kvs : List (κ × α)) : Dict κ α := kvs.foldl (fun d kv => d.set kv.1 kv.2) []

/-- The value of a present key changed in place. -/
def modify (d : Dict κ α) (k : κ) (f : α → α) : Dict κ α := d.map fun kv => if kv.1 = k then (kv.1, f kv.2) else kv

/-- `del d[k]`, for a key that may be absent. -/
def erase (d : Dict κ α) (k : κ) : Dict κ α := d.filter fun kv => kv.1 ≠ k

/-- `d.update(e)`: `for k in e: d[k] = e[k]`. -/
def update (d e : Dict κ α) : Dict κ α := e.keys.foldl (fun d k => ((e.get? k).map (d.set k)).getD d) d

theorem get?_cons (k k' : κ) (v : α) (d : Dict κ α) :
    get? ((k', v) :: d) k = if k' = k then some v else get? d k := by
  show List.lookup k ((k', v) :: d) = _
  rw [List.lookup_cons]
  by_cases h : k' = k
  · rw [if_pos h, beq_iff_eq.mpr h.symm]
  · rw [if_neg h, beq_eq_false_iff_ne.mpr (Ne.symm h)]
    rfl

/-- Reading after a write. -/
theorem get?_set (d : Dict κ α) (k k' : κ) (v : α) :
    (d.set k v).get? k' = if k = k' then some v else d.get? k' := by
  induction d with
  | nil => rw [set, get?_cons]
  | cons kv d ih =>
    obtain ⟨k₀, v₀⟩ := kv
    rw [set]
    by_cases h : k₀ = k
    · rw [if_pos h, get?_cons, get?_cons, h]
      by_cases hk : k = k' <;> simp [hk]
    · rw [if_neg h, get?_cons, get?_cons, ih]
      by_cases h₀ : k₀ = k'
      · rw [if_pos h₀, if_pos h₀, if_neg fun hk => h (h₀.trans hk.symm)]
      · rw [if_neg h₀, if_neg h₀]

/-- Reading after a default was put in. -/
theorem get?_setDefault (d : Dict κ α) (k k' : κ) (v : α) :
    (d.setDefault k v).get? k' = (d.get? k').or (if k = k' then some v else none) := by
  unfold setDefault has
  by_cases h : k = k'
  · subst h
    cases hd : d.get? k with
    | none => simp [get?_set]
    | some w => simp [hd]
  · rw [if_neg h, Option.or_none]
    split
    · rfl
    · rw [get?_set, if_neg h]

/-- Reading after a change in place. -/
theorem get?_modify (d : Dict κ α) (k k' : κ) (f : α → α) :
    (d.modify k f).get? k' = if k = k' then (d.get? k').map f else d.get? k' := by
  unfold modify
  induction d with
  | nil => split <;> rfl
  | cons kv d ih =>
    obtain ⟨k₀, v₀⟩ := kv
    rw [List.map_cons]
    dsimp only
    by_cases hk : k₀ = k
    · rw [if_pos hk, get?_cons, get?_cons, ih]
      by_cases h₀ : k₀ = k'
      · rw [if_pos h₀, if_pos h₀, if_pos (hk.symm.trans h₀)]
        rfl
      · rw [if_neg h₀, if_neg h₀]
    · rw [if_neg hk, get?_cons, get?_cons, ih]
      by_cases h₀ : k₀ = k'
      · rw [if_pos h₀, if_pos h₀, if_neg fun h => hk (h₀.trans h.symm)]
      · rw [if_neg h₀, if_neg h₀]

/-- Reading after a deletion. -/
theorem get?_erase (d : Dict κ α) (k k' : κ) : (d.erase k).get? k' = if k = k' then none else d.get? k' := by
  unfold erase
  induction d with
  | nil => split <;> rfl
  | cons kv d ih =>
    obtain ⟨k₀, v₀⟩ := kv
    rw [List.filter_cons, get?_cons]
    by_cases h₀ : k₀ = k
    · rw [if_neg (by simpa using h₀), ih]
      by_cases h : k = k'
      · rw [if_pos h, if_pos h]
      · rw [if_neg h, if_neg h, if_neg fun hk => h (h₀.symm.trans hk)]
    · rw [if_pos (by simpa using h₀), get?_cons, ih]
      by_cases h : k₀ = k'
      · rw [if_pos h, if_pos h, if_neg fun hk => h₀ (h.trans hk.symm)]
      · rw [if_neg h, if_neg h]

/-- A write leaves entries of the dictionary or the new one. -/
theorem mem_set {d : Dict κ α} {k : κ} {v : α} {kv : κ × α} (h : kv ∈ d.set k v) :
    kv ∈ d ∨ kv = (k, v) := by
  induction d with
  | nil => exact .inr (List.mem_singleton.mp h)
  | cons kv' d ih =>
    obtain ⟨k', v'⟩ := kv'
    rw [set] at h
    split at h
    case isTrue hk =>
      rcases List.mem_cons.mp h with rfl | h
      · exact .inr (by rw [hk])
      · exact .inl (List.mem_cons_of_mem _ h)
    case isFalse =>
      rcases List.mem_cons.mp h with rfl | h
      · exact .inl List.mem_cons_self
      · rcases ih h with h | h
        · exact .inl (List.mem_cons_of_mem _ h)
        · exact .inr h

/-- A value that is read is in the dictionary. -/
theorem mem_of_get? {d : Dict κ α} {k : κ} {v : α} (h : d.get? k = some v) : (k, v) ∈ d := by
  induction d with
  | nil => cases h
  | cons kv d ih =>
    obtain ⟨k', v'⟩ := kv
    rw [get?_cons] at h
    split at h
    case isTrue hk =>
      cases h
      exact hk ▸ List.mem_cons_self
    case isFalse => exact List.mem_cons_of_mem _ (ih h)

/-- A write of an absent key appends it. -/
theorem set_of_notMem {d : Dict κ α} {k : κ} (v : α) (h : k ∉ d.keys) : d.set k v = d ++ [(k, v)] := by
  induction d with
  | nil => rfl
  | cons kv d ih =>
    obtain ⟨k', v'⟩ := kv
    have hne : k' ≠ k := fun he => h (he ▸ List.mem_cons_self)
    rw [set, if_neg hne, ih fun hmem => h (List.mem_cons_of_mem _ hmem), List.cons_append]

/-- Writing what is there changes nothing. -/
theorem set_of_get? {d : Dict κ α} {k : κ} {v : α} (h : d.get? k = some v) : d.set k v = d := by
  induction d with
  | nil => cases h
  | cons kv d ih =>
    obtain ⟨k', v'⟩ := kv
    rw [get?_cons] at h
    rw [set]
    split at h
    case isTrue hk =>
      cases h
      rw [if_pos hk]
    case isFalse hk => rw [if_neg hk, ih h]

/-- An update that says nothing new changes nothing. -/
theorem update_of_agree {d e : Dict κ α} (h : ∀ k v, e.get? k = some v → d.get? k = some v) : d.update e = d := by
  have hkeys : ∀ ks : List κ, ks.foldl (fun d k => ((e.get? k).map (d.set k)).getD d) d = d := by
    intro ks
    induction ks with
    | nil => rfl
    | cons k ks ih =>
      rw [List.foldl_cons]
      cases hk : e.get? k with
      | none => exact ih
      | some v =>
        rw [Option.map_some, Option.getD_some, set_of_get? (h k v hk)]
        exact ih
  exact hkeys e.keys

/-- The keys are those that are read. -/
theorem mem_keys {d : Dict κ α} {k : κ} : k ∈ d.keys ↔ d.has k = true := by
  unfold keys has
  induction d with
  | nil => simp [get?]
  | cons kv d ih =>
    obtain ⟨k₀, v₀⟩ := kv
    rw [List.map_cons, List.mem_cons, ih, get?_cons]
    split
    · next hk => simp [hk]
    · next hk => simp [Ne.symm hk]

/-- The keys after a write. -/
theorem mem_keys_set {d : Dict κ α} {k k' : κ} {v : α} : k' ∈ (d.set k v).keys ↔ k' ∈ d.keys ∨ k' = k := by
  induction d with
  | nil => simp [set, keys]
  | cons kv d ih =>
    obtain ⟨k₀, v₀⟩ := kv
    rw [set]
    by_cases h : k₀ = k
    · simp [h, keys]
      tauto
    · rw [if_neg h]
      simp only [keys, List.map_cons, List.mem_cons] at ih ⊢
      rw [ih]
      tauto

/-- A write, seen through a function on the values. -/
theorem map_set {β : Type} (f : α → β) (d : Dict κ α) (k : κ) (v : α) :
    (d.set k v).map (fun kv => (kv.1, f kv.2)) = Dict.set (d.map fun kv => (kv.1, f kv.2)) k (f v) := by
  induction d with
  | nil => rfl
  | cons kv d ih =>
    obtain ⟨k₀, v₀⟩ := kv
    rw [set, List.map_cons, set]
    split
    · rfl
    · rw [List.map_cons, ih]

/-- The keys after a write depend on the keys before. -/
theorem keys_set_congr {β : Type} {d : Dict κ α} {e : Dict κ β} (h : d.keys = e.keys) (k : κ) (v : α) (w : β) :
    (d.set k v).keys = (e.set k w).keys := by
  induction d generalizing e with
  | nil =>
    cases e with
    | nil => rfl
    | cons kv e => cases h
  | cons kv d ih =>
    cases e with
    | nil => cases h
    | cons kv' e =>
      obtain ⟨k₀, v₀⟩ := kv
      obtain ⟨k₁, w₀⟩ := kv'
      obtain ⟨rfl, hrest⟩ : k₀ = k₁ ∧ keys d = keys e := List.cons.inj h
      rw [set, set]
      split
      · exact h
      · exact congrArg (k₀ :: ·) (ih hrest)

/-- A write repeats no key. -/
theorem nodup_keys_set {d : Dict κ α} {k : κ} {v : α} (h : d.keys.Nodup) : (d.set k v).keys.Nodup := by
  induction d with
  | nil => simp [set, keys]
  | cons kv d ih =>
    obtain ⟨k₀, v₀⟩ := kv
    obtain ⟨hnot, hrest⟩ := List.nodup_cons.mp h
    rw [set]
    by_cases hk : k₀ = k
    · rw [if_pos hk]
      exact List.nodup_cons.mpr ⟨hnot, hrest⟩
    · rw [if_neg hk]
      refine List.nodup_cons.mpr ⟨?_, ih hrest⟩
      intro hmem
      rcases mem_keys_set.mp hmem with hmem | heq
      · exact hnot hmem
      · exact hk heq

/-- Writing entries with new keys appends them. -/
theorem foldl_set_of_nodup (kvs d : Dict κ α) (h : (d ++ kvs).keys.Nodup) :
    kvs.foldl (fun d kv => d.set kv.1 kv.2) d = d ++ kvs := by
  induction kvs generalizing d with
  | nil => rw [List.foldl_nil, List.append_nil]
  | cons kv kvs ih =>
    have hsplit : (d ++ [kv]) ++ kvs = d ++ kv :: kvs := by simp
    have hnot : kv.1 ∉ d.keys := by
      intro hmem
      rw [keys, List.map_append] at h
      exact (List.nodup_append.mp h).2.2 _ hmem _ List.mem_cons_self rfl
    rw [List.foldl_cons, set_of_notMem kv.2 hnot, ih (d ++ [kv]) (hsplit ▸ h), hsplit]

theorem foldl_set_keys (kvs d : Dict κ α) :
    (d.keys.Nodup → (kvs.foldl (fun d kv => d.set kv.1 kv.2) d).keys.Nodup) ∧
      (∀ k, k ∈ (kvs.foldl (fun d kv => d.set kv.1 kv.2) d).keys ↔ k ∈ d.keys ∨ k ∈ kvs.keys) ∧
      ∀ kv ∈ kvs.foldl (fun d kv => d.set kv.1 kv.2) d, kv ∈ d ∨ kv ∈ kvs := by
  induction kvs generalizing d with
  | nil => exact ⟨id, fun k => by simp [keys], fun kv h => .inl h⟩
  | cons kv kvs ih =>
    obtain ⟨hnodup, hkeys, hmem⟩ := ih (d.set kv.1 kv.2)
    refine ⟨fun h => hnodup (nodup_keys_set h), fun k => ?_, fun kv' h => ?_⟩
    · rw [List.foldl_cons, hkeys, mem_keys_set]
      simp only [keys, List.map_cons, List.mem_cons]
      tauto
    · rcases hmem kv' h with h | h
      · rcases mem_set h with h | rfl
        · exact .inl h
        · exact .inr List.mem_cons_self
      · exact .inr (List.mem_cons_of_mem _ h)

/-- A dictionary built from entries repeats no key. -/
theorem nodup_keys_ofList (kvs : List (κ × α)) : (ofList kvs).keys.Nodup :=
  (foldl_set_keys kvs []).1 List.nodup_nil

/-- Its entries are among those it is built from. -/
theorem mem_of_mem_ofList {kvs : List (κ × α)} {kv : κ × α} (h : kv ∈ ofList kvs) : kv ∈ kvs :=
  ((foldl_set_keys kvs []).2.2 kv h).resolve_left List.not_mem_nil

/-- An entry whose key has one value only is in it. -/
theorem mem_ofList {kvs : List (κ × α)} {k : κ} {v : α} (h : (k, v) ∈ kvs)
    (hunique : ∀ v', (k, v') ∈ kvs → v' = v) : (k, v) ∈ ofList kvs := by
  have hkey : k ∈ (ofList kvs).keys :=
    ((foldl_set_keys kvs []).2.1 k).mpr (.inr (List.mem_map_of_mem h))
  obtain ⟨⟨k', v'⟩, hmem, rfl⟩ := List.mem_map.mp hkey
  rwa [← hunique v' (mem_of_mem_ofList hmem)]

/-- A write to an absent key adds one entry; a write to a present key adds none. -/
theorem length_set (d : Dict κ α) (k : κ) (v : α) :
    (d.set k v).length = if (d.get? k).isSome then d.length else d.length + 1 := by
  induction d with
  | nil => rfl
  | cons kv d ih =>
    obtain ⟨k₀, v₀⟩ := kv
    rw [set, get?_cons]
    by_cases h : k₀ = k
    · rw [if_pos h, if_pos h]
      rfl
    · rw [if_neg h, if_neg h, List.length_cons, ih, List.length_cons]
      split <;> rfl

theorem get?_eq_none {d : Dict κ α} {k : κ} : d.get? k = none ↔ k ∉ d.keys := by
  rw [mem_keys, has, Bool.not_eq_true, Option.isSome_eq_false_iff, Option.isNone_iff_eq_none]

/-- In a dictionary without repeated keys, an entry is what is read. -/
theorem get?_of_mem {d : Dict κ α} (h : d.keys.Nodup) {kv : κ × α} (hkv : kv ∈ d) : d.get? kv.1 = some kv.2 := by
  induction d with
  | nil => exact absurd hkv List.not_mem_nil
  | cons kv₀ d ih =>
    obtain ⟨hnot, hrest⟩ := List.nodup_cons.mp h
    rw [get?_cons]
    rcases List.mem_cons.mp hkv with rfl | hmem
    · exact if_pos rfl
    · have hmem' : kv.1 ∈ keys d := List.mem_map_of_mem hmem
      have hne : kv₀.1 ≠ kv.1 := fun heq => hnot (heq ▸ hmem')
      rw [if_neg hne]
      exact ih hrest hmem

/-- Reading commutes with mapping the entries by functions that keep the key. -/
theorem get?_mapEntries {β : Type} (f : κ → α → β) (d : Dict κ α) (k : κ) :
    get? (d.map fun kv => (kv.1, f kv.1 kv.2)) k = (get? d k).map (f k) := by
  induction d with
  | nil => rfl
  | cons kv d ih =>
    obtain ⟨k₀, v₀⟩ := kv
    rw [List.map_cons, get?_cons, get?_cons, ih]
    by_cases hk : k₀ = k
    · subst hk
      rw [if_pos rfl, if_pos rfl, Option.map_some]
    · rw [if_neg hk, if_neg hk]

section
variable {β : Type} {f : Option α → β → α}

/-- Fold the entries of `e` into `d`: the new value of a key is computed from the one `d` holds, if any. -/
def mergeWith (f : Option α → β → α) (d : Dict κ α) (e : Dict κ β) : Dict κ α :=
  e.foldl (fun d kv => d.set kv.1 (f (d.get? kv.1) kv.2)) d

/-- **Reading a merge.** Each key is folded in once, against the value it had before. -/
theorem get?_mergeWith {e : Dict κ β} (h : e.keys.Nodup) (d : Dict κ α) (k : κ) :
    (mergeWith f d e).get? k = match e.get? k with
      | none   => d.get? k
      | some v => some (f (d.get? k) v) := by
  induction e generalizing d with
  | nil => rfl
  | cons kv e ih =>
    obtain ⟨k₀, v₀⟩ := kv
    obtain ⟨hnot, hrest⟩ := List.nodup_cons.mp h
    show (mergeWith f (d.set k₀ (f (d.get? k₀) v₀)) e).get? k = _
    rw [ih hrest, get?_set, get?_cons]
    by_cases hk : k₀ = k
    · subst hk
      rw [if_pos rfl, if_pos rfl, get?_eq_none.mpr hnot]
    · rw [if_neg hk, if_neg hk]

/-- A merge adds one entry for each key that was absent. -/
theorem length_mergeWith {e : Dict κ β} (h : e.keys.Nodup) (d : Dict κ α) :
    (mergeWith f d e).length = d.length + (e.filter fun kv => !d.has kv.1).length := by
  induction e generalizing d with
  | nil => rfl
  | cons kv e ih =>
    obtain ⟨k₀, v₀⟩ := kv
    obtain ⟨hnot, hrest⟩ := List.nodup_cons.mp h
    have hsame : (e.filter fun kv => !(d.set k₀ (f (d.get? k₀) v₀)).has kv.1) = e.filter fun kv => !d.has kv.1 := by
      refine List.filter_congr fun kv hkv => ?_
      have hmem : kv.1 ∈ keys e := List.mem_map_of_mem hkv
      have hne : k₀ ≠ kv.1 := fun heq => hnot (heq ▸ hmem)
      rw [has, has, get?_set, if_neg hne]
    show (mergeWith f (d.set k₀ (f (d.get? k₀) v₀)) e).length = _
    rw [ih hrest, length_set, hsame, List.filter_cons, has]
    cases hk : (d.get? k₀).isSome with
    | true => simp
    | false =>
      simp only [Bool.false_eq_true, if_false, Bool.not_false, if_true, List.length_cons]
      omega

/-- Merging entries with new keys appends them, where a new key keeps its value. -/
theorem mergeWith_of_nodup {f : Option α → α → α} (hf : ∀ v, f none v = v) {d e : Dict κ α}
    (h : (d ++ e).keys.Nodup) : mergeWith f d e = d ++ e := by
  induction e generalizing d with
  | nil => exact (List.append_nil d).symm
  | cons kv e ih =>
    have hsplit : (d ++ [kv]) ++ e = d ++ kv :: e := by simp
    have hnot : kv.1 ∉ d.keys := by
      intro hmem
      rw [keys, List.map_append] at h
      exact (List.nodup_append.mp h).2.2 _ hmem _ List.mem_cons_self rfl
    show mergeWith f (d.set kv.1 (f (d.get? kv.1) kv.2)) e = _
    rw [get?_eq_none.mpr hnot, hf, set_of_notMem _ hnot, ih (hsplit ▸ h), hsplit]

end

section
variable {β : Type} (f : α → β)

/-- Reading commutes with mapping the values. -/
theorem get?_mapValues (d : Dict κ α) (k : κ) :
    get? (d.map fun kv => (kv.1, f kv.2)) k = (get? d k).map f := by
  induction d with
  | nil => rfl
  | cons kv d ih =>
    obtain ⟨k', v'⟩ := kv
    rw [List.map_cons, get?_cons, get?_cons, ih]
    split <;> rfl

/-- Writing commutes with mapping the values. -/
theorem set_mapValues (d : Dict κ α) (k : κ) (v : α) :
    set (d.map fun kv => (kv.1, f kv.2)) k (f v) = (set d k v).map fun kv => (kv.1, f kv.2) := by
  induction d with
  | nil => rfl
  | cons kv d ih =>
    obtain ⟨k', v'⟩ := kv
    rw [List.map_cons, set, set]
    split
    · rfl
    · rw [List.map_cons, ih]

end

section
variable (pred : α → Bool)

/-- A write adds at most its own value to a count. -/
theorem countP_set_le (d : Dict κ α) (k : κ) (v : α) :
    (set d k v).countP (fun kv => pred kv.2) ≤ d.countP (fun kv => pred kv.2) + if pred v then 1 else 0 := by
  induction d with
  | nil => simp [set, List.countP_cons]
  | cons kv d ih =>
    obtain ⟨k', v'⟩ := kv
    rw [set]
    split
    · simp only [List.countP_cons]
      omega
    · simp only [List.countP_cons]
      omega

/-- A deletion takes the value that was there out of a count. -/
theorem countP_erase_le (d : Dict κ α) (k : κ) :
    (erase d k).countP (fun kv => pred kv.2) + ((get? d k).elim 0 fun v => if pred v then 1 else 0) ≤
      d.countP (fun kv => pred kv.2) := by
  have hless : ∀ d : Dict κ α, (erase d k).countP (fun kv => pred kv.2) ≤ d.countP (fun kv => pred kv.2) :=
    fun d => List.filter_sublist.countP_le
  induction d with
  | nil => simp [erase, get?]
  | cons kv d ih =>
    obtain ⟨k', v'⟩ := kv
    rw [get?_cons]
    by_cases h : k' = k
    · have herase : erase ((k', v') :: d) k = erase d k := by simp [erase, h]
      have := hless d
      rw [if_pos h, herase, List.countP_cons]
      simp only [Option.elim_some]
      omega
    · have herase : erase ((k', v') :: d) k = (k', v') :: erase d k := by simp [erase, h]
      rw [if_neg h, herase, List.countP_cons, List.countP_cons]
      omega

end

end Dict
