import RideTheApi.Config.Secrets

/-!
# `Config.Masking` — what the mask hides, and whose secret comes back

`maskSecrets_eq_iff` is noninterference read as an equivalence: two dumps are masked alike exactly when they differ in
secret strings only, so a number or a list under a secret name shows through. An edit of the masked dump moves list
items by their old index; the secrets a restore brings in are those the stored dump holds at the new index.
-/

namespace RideTheApi.Config

open Py

variable {I : Interp}

/-! ## What the mask hides -/

/-- A value stored under a secret name that is worth hiding: a non-empty string that is not a reference, a
    number, or a non-empty list. -/
def isSecretValue : Json → Bool
  | .str s   => isSecretString (.str s)
  | .int _   => true
  | .float _ => true
  | .arr xs  => !xs.isEmpty
  | _        => false

section
variable (I) (hides : Json → Bool)

mutual
/-- The two dumps agree but for values under secret names, where both sides satisfy `hides`. -/
def differOnlyIn : Json → Json → Bool
  | .arr xs,  .arr ys   => differOnlyInItems xs ys
  | .obj kvs, .obj kvs' => differOnlyInFields kvs kvs'
  | a,        b         => a == b
def differOnlyInItems : List Json → List Json → Bool
  | [],      []      => true
  | x :: xs, y :: ys => differOnlyIn x y && differOnlyInItems xs ys
  | _,       _       => false
def differOnlyInFields : List (Str × Json) → List (Str × Json) → Bool
  | [],            []               => true
  | (k, v) :: kvs, (k', v') :: kvs' =>
    k == k' && (isSecretConfigKey I k && hides v && hides v' || differOnlyIn v v') && differOnlyInFields kvs kvs'
  | _,             _                => false
end

end

/-- Masked entries of one name are equal when both values are hidden, or when the walk makes them equal. -/
theorem maskEntry_eq_iff {k : Str} {v v' : Json} :
    maskEntry I k v = maskEntry I k v' ↔
      (isSecretConfigKey I k && isSecretString v && isSecretString v') = true ∨ maskSecrets I v = maskSecrets I v' := by
  unfold maskEntry isMasked
  cases hk : isSecretConfigKey I k with
  | false => simp
  | true =>
    -- a value the mask stands for is a string, and so is every value masked to one
    have hstr : ∀ w, isSecretString w = true → maskSecrets I w = w := by
      intro w hw
      cases w <;> first | rfl | exact absurd hw (by simp [isSecretString])
    have hone : ∀ w w', isSecretString w = true → isSecretString w' = false → maskSecrets I w' ≠ w := by
      intro w w' hw hw' heq
      cases w with
      | str s =>
        rw [maskSecrets_eq_str heq, hw] at hw'
        cases hw'
      | _ => exact absurd hw (by simp [isSecretString])
    cases hv : isSecretString v with
    | true =>
      cases hv' : isSecretString v' with
      | true => simp
      | false =>
        have hmask := hone _ v' isSecretString_mask hv'
        have hself := hone v v' hv hv'
        simp only [Bool.true_and, Bool.and_false, Bool.false_eq_true, if_true, if_false, false_or, hstr v hv]
        exact ⟨fun h => absurd h.symm hmask, fun h => absurd h.symm hself⟩
    | false =>
      cases hv' : isSecretString v' with
      | true =>
        have hmask := hone _ v isSecretString_mask hv
        have hself := hone v' v hv' hv
        simp only [Bool.true_and, Bool.and_true, Bool.false_eq_true, if_true, if_false, false_or, hstr v' hv']
        exact ⟨fun h => absurd h hmask, fun h => absurd h hself⟩
      | false => simp

mutual
/-- **Noninterference, exactly.** Two dumps are masked alike iff they differ only in strings that are neither empty
    nor references, stored under secret names. -/
theorem maskSecrets_eq_iff : ∀ a b : Json,
    maskSecrets I a = maskSecrets I b ↔ differOnlyIn I isSecretString a b = true
  | .arr xs, b => by
    cases b <;> simp [maskSecrets, differOnlyIn, maskItems_eq_iff xs]
  | .obj kvs, b => by
    cases b <;> simp [maskSecrets, differOnlyIn, maskFields_eq_iff kvs]
  | .null, b => by cases b <;> simp [maskSecrets, differOnlyIn]
  | .bool _, b => by cases b <;> simp [maskSecrets, differOnlyIn]
  | .int _, b => by cases b <;> simp [maskSecrets, differOnlyIn]
  | .float _, b => by cases b <;> simp [maskSecrets, differOnlyIn]
  | .str _, b => by cases b <;> simp [maskSecrets, differOnlyIn]
theorem maskItems_eq_iff : ∀ xs ys : List Json,
    maskItems I xs = maskItems I ys ↔ differOnlyInItems I isSecretString xs ys = true
  | [], ys => by cases ys <;> simp [maskItems, differOnlyInItems]
  | x :: xs, ys => by
    cases ys <;> simp [maskItems, differOnlyInItems, maskSecrets_eq_iff x, maskItems_eq_iff xs]
theorem maskFields_eq_iff : ∀ kvs kvs' : List (Str × Json),
    maskFields I kvs = maskFields I kvs' ↔ differOnlyInFields I isSecretString kvs kvs' = true
  | [], kvs' => by cases kvs' <;> simp [maskFields, differOnlyInFields]
  | (k, v) :: kvs, kvs' => by
    cases kvs' with
    | nil => simp [maskFields, differOnlyInFields]
    | cons p kvs' =>
      obtain ⟨k', v'⟩ := p
      have hrest := maskFields_eq_iff kvs kvs'
      have hvalue := maskSecrets_eq_iff v v'
      rw [maskFields, maskFields, List.cons.injEq, Prod.mk.injEq, hrest, differOnlyInFields, Bool.and_eq_true,
        Bool.and_eq_true, Bool.or_eq_true, ← hvalue, ← maskEntry_eq_iff, beq_iff_eq]
      constructor
      · rintro ⟨⟨rfl, heq⟩, hfields⟩
        exact ⟨⟨rfl, heq⟩, hfields⟩
      · rintro ⟨⟨rfl, heq⟩, hfields⟩
        exact ⟨⟨rfl, heq⟩, hfields⟩
end

/-! ## What is sent back unchanged -/

/-- **Restoring undoes masking.** -/
theorem restore_maskSecrets : ∀ c : Json, c.keysDistinct = true → restoreMaskedSecrets (maskSecrets I c) c = c := by
  intro c
  induction c using JsonTree.induction with
  | null => exact fun _ => rfl
  | bool b => exact fun _ => rfl
  | int n => exact fun _ => rfl
  | float x => exact fun _ => rfl
  | str s =>
    intro _
    simp only [maskSecrets, restoreMaskedSecrets, reduceCtorEq, if_false]
    split
    · rfl
    · rfl
  | arr xs ih =>
    intro h
    rw [JsonTree.keysDistinct_arr] at h
    rw [maskSecrets, restoreMaskedSecrets, JsonTree.arr.injEq]
    refine List.ext_getElem? fun i => ?_
    rw [getElem?_restoreItems, maskItems_eq, List.getElem?_map, itemsOf]
    cases hx : xs[i]? with
    | none => rfl
    | some x =>
      have hmem := List.mem_of_getElem? hx
      simp only [Option.map_some, Option.getD_some, ih x hmem (h x hmem)]
  | obj kvs ih =>
    intro h
    obtain ⟨hnodup, hvalues⟩ := JsonTree.keysDistinct_obj.mp h
    rw [maskSecrets, restoreMaskedSecrets, maskFields_eq, restoreFields_eq, List.map_map, JsonTree.obj.injEq]
    conv_rhs => rw [← List.map_id kvs]
    refine List.map_congr_left fun kv hkv => Prod.ext rfl ?_
    have hget : fieldOf (.obj kvs) kv.1 = kv.2 := by
      rw [fieldOf, Dict.get?_of_mem hnodup hkv, Option.getD_some]
    show restoreMaskedSecrets (maskEntry I kv.1 kv.2) (fieldOf (.obj kvs) kv.1) = kv.2
    rw [hget, maskEntry]
    split
    · next hmasked =>
      rw [restoreMaskedSecrets, if_pos rfl, if_neg]
      rintro hnull
      simp [isMasked, hnull, isSecretString] at hmasked
    · exact ih kv hkv (hvalues kv hkv)

/-! ## Whose secret comes back -/

/-- An edit of a dump that moves, drops and adds list items: an edited list has `n` items, of which item `i` is the
    old item `origin i` (itself edited), or else a new one. -/
inductive ListEdit where
  | keep
  | fields (edit : Str → ListEdit)
  | items (n : Nat) (origin : Nat → Option Nat) (edit : Nat → ListEdit) (fresh : Nat → Json)

/-- The old item at slot `i`, if the slot keeps one. -/
def kept (xs : List Json) (origin : Nat → Option Nat) (i : Nat) : Option Json := (origin i).bind fun j => xs[j]?

/-- The edited dump. -/
def ListEdit.apply : ListEdit → Json → Json
  | .fields edit,               .obj kvs => .obj (kvs.map fun kv => (kv.1, (edit kv.1).apply kv.2))
  | .items n origin edit fresh, .arr xs  =>
    .arr ((List.range n).map fun i => match kept xs origin i with
      | some x => (edit i).apply x
      | none   => fresh i)
  | _,                          t        => t

section
variable (I)

/-- The secret strings of a dump. -/
def secrets (t : Json) : List Json := (t.entries.filter fun kv => isMasked I kv.1 kv.2).map Prod.snd

/-- The secret strings of a value stored under a name. -/
def secretsAt (k : Str) (v : Json) : List Json := if isMasked I k v then [v] else secrets I v

/-- After the masked `own` was edited and restored, the secrets of each item of an edited list are its own: those it
    had before, or those it came in with. -/
def OwnSecretsOnly : ListEdit → Json → Json → Prop
  | .fields edit,               .obj kvs, .obj restored =>
    ∀ k v r, Dict.get? kvs k = some v → Dict.get? restored k = some r → OwnSecretsOnly (edit k) v r
  | .items n origin edit fresh, .arr xs,  .arr restored =>
    ∀ i < n, ∀ r, restored[i]? = some r → match kept xs origin i with
      | some x =>
        (∀ s ∈ secrets I r, s ∈ secrets I ((edit i).apply (maskSecrets I x)) ∨ s ∈ secrets I x) ∧
          OwnSecretsOnly (edit i) x r
      | none   => ∀ s ∈ secrets I r, s ∈ secrets I (fresh i)
  | _,                          _,        _             => True

mutual
/-- The secrets `base` holds where `incoming` holds the mask. -/
def underMask : Json → Json → List Json
  | .str s,   base => if s = secretMask then secrets I base else []
  | .arr xs,  base => underMaskItems xs (itemsOf base)
  | .obj kvs, base => underMaskFields kvs base
  | _,        _    => []
def underMaskItems : List Json → List Json → List Json
  | [],      _    => []
  | x :: xs, base => underMask x (base.headD .null) ++ underMaskItems xs base.tail
def underMaskFields : List (Str × Json) → Json → List Json
  | [],            _    => []
  | (k, v) :: kvs, base =>
    (if v = .str secretMask then secretsAt I k (fieldOf base k) else underMask v (fieldOf base k)) ++
      underMaskFields kvs base
end

/-- What the edit asks of the stored dump `base`: wherever an item of an edited list holds the mask, the secret that
    `base` holds at the item's new index is the item's own. -/
def MasksStayHome : ListEdit → Json → Json → Prop
  | .fields edit,               .obj kvs, base =>
    ∀ k v, Dict.get? kvs k = some v → MasksStayHome (edit k) v (fieldOf base k)
  | .items n origin edit fresh, .arr xs,  base =>
    ∀ i < n, match kept xs origin i with
      | some x =>
        (∀ s ∈ underMask I ((edit i).apply (maskSecrets I x)) ((itemsOf base)[i]?.getD .null),
          s ∈ secrets I ((edit i).apply (maskSecrets I x)) ∨ s ∈ secrets I x) ∧
          MasksStayHome (edit i) x ((itemsOf base)[i]?.getD .null)
      | none   => ∀ s ∈ underMask I (fresh i) ((itemsOf base)[i]?.getD .null), s ∈ secrets I (fresh i)
  | _,                          _,        _    => True

end

theorem mem_secrets_arr {xs : List Json} {s : Json} : s ∈ secrets I (.arr xs) ↔ ∃ x ∈ xs, s ∈ secrets I x := by
  simp only [secrets, List.mem_map, List.mem_filter, JsonTree.mem_entries_arr]
  constructor
  · rintro ⟨kv, ⟨⟨x, hx, hkv⟩, hmasked⟩, rfl⟩
    exact ⟨x, hx, kv, ⟨hkv, hmasked⟩, rfl⟩
  · rintro ⟨x, hx, kv, ⟨hkv, hmasked⟩, rfl⟩
    exact ⟨kv, ⟨⟨x, hx, hkv⟩, hmasked⟩, rfl⟩

/-- A masked value is a string, and has no entries of its own. -/
theorem secrets_of_isMasked {k : Str} {v : Json} (h : isMasked I k v = true) : secrets I v = [] := by
  cases v with
  | str s => rfl
  | _ => simp [isMasked, isSecretString] at h

theorem mem_secrets_obj {kvs : List (Str × Json)} {s : Json} :
    s ∈ secrets I (.obj kvs) ↔ ∃ kv ∈ kvs, s ∈ secretsAt I kv.1 kv.2 := by
  simp only [secrets, List.mem_map, List.mem_filter, JsonTree.mem_entries_obj]
  constructor
  · rintro ⟨kv, ⟨⟨e, he, rfl | hkv⟩, hmasked⟩, rfl⟩
    · refine ⟨kv, he, ?_⟩
      rw [secretsAt, if_pos hmasked]
      exact List.mem_singleton_self _
    · refine ⟨e, he, ?_⟩
      have hin : kv.2 ∈ secrets I e.2 := List.mem_map.mpr ⟨kv, List.mem_filter.mpr ⟨hkv, hmasked⟩, rfl⟩
      rw [secretsAt]
      split
      · next htop =>
        rw [secrets_of_isMasked htop] at hin
        exact absurd hin List.not_mem_nil
      · exact hin
  · rintro ⟨e, he, hs⟩
    rw [secretsAt] at hs
    split at hs
    · next htop =>
      rw [List.mem_singleton] at hs
      exact ⟨e, ⟨⟨e, he, .inl rfl⟩, htop⟩, hs.symm⟩
    · obtain ⟨kv, hkv, rfl⟩ := List.mem_map.mp hs
      obtain ⟨hmem, hmasked⟩ := List.mem_filter.mp hkv
      exact ⟨kv, ⟨⟨e, he, .inr hmem⟩, hmasked⟩, rfl⟩

/-- What the mask is restored to has the secrets of the stored value. -/
theorem secretsAt_restore_mask (k : Str) (base : Json) :
    secretsAt I k (restoreMaskedSecrets (.str secretMask) base) = secretsAt I k base := by
  rw [restoreMaskedSecrets, if_pos rfl]
  split
  · next hnull =>
    subst hnull
    simp [secretsAt, isMasked, isSecretString, secrets, JsonTree.entries]
  · rfl

/-- The secrets of an entry after a restore, from the two facts about its value. -/
theorem mem_secretsAt_restore {k : Str} {v base s : Json} (hs : s ∈ secretsAt I k (restoreMaskedSecrets v base))
    (ih : s ∈ secrets I (restoreMaskedSecrets v base) → s ∈ secrets I v ∨ s ∈ underMask I v base) :
    s ∈ secretsAt I k v ∨
      s ∈ if v = .str secretMask then secretsAt I k base else underMask I v base := by
  by_cases hv : v = .str secretMask
  · subst hv
    rw [secretsAt_restore_mask] at hs
    rw [if_pos rfl]
    exact .inr hs
  · rw [if_neg hv]
    rw [secretsAt] at hs
    split at hs
    · next hmasked =>
      -- a restored string that is not the mask came in as it is
      left
      have hsame : restoreMaskedSecrets v base = v := by
        cases v with
        | str t => simp only [restoreMaskedSecrets, if_neg (fun heq => hv (heq ▸ rfl) : ¬ t = secretMask)]
        | _ => simp [restoreMaskedSecrets, isMasked, isSecretString] at hmasked
      rw [hsame] at hs hmasked
      rw [secretsAt, if_pos hmasked]
      exact hs
    · rcases ih hs with hown | hunder
      · left
        rw [secretsAt]
        split
        · next hmasked =>
          rw [secrets_of_isMasked hmasked] at hown
          exact absurd hown List.not_mem_nil
        · exact hown
      · exact .inr hunder

mutual
/-- A restore brings in nothing but what the stored dump holds under a mask. -/
theorem mem_secrets_restore {s : Json} : ∀ incoming base : Json, s ∈ secrets I (restoreMaskedSecrets incoming base) →
    s ∈ secrets I incoming ∨ s ∈ underMask I incoming base
  | .str t, base, h => by
    rw [restoreMaskedSecrets] at h
    rw [underMask]
    split at h
    · next hmask =>
      rw [if_pos hmask]
      split at h
      · exact absurd h List.not_mem_nil
      · exact .inr h
    · exact .inl h
  | .arr xs, base, h => by
    rw [restoreMaskedSecrets] at h
    rw [mem_secrets_arr] at h ⊢
    exact mem_secrets_restoreItems xs (itemsOf base) h
  | .obj kvs, base, h => by
    rw [restoreMaskedSecrets] at h
    rw [mem_secrets_obj] at h ⊢
    exact mem_secrets_restoreFields kvs base h
  | .null, _, h | .bool _, _, h | .int _, _, h | .float _, _, h => .inl h
theorem mem_secrets_restoreItems {s : Json} : ∀ xs base : List Json,
    (∃ r ∈ restoreItems xs base, s ∈ secrets I r) →
      (∃ x ∈ xs, s ∈ secrets I x) ∨ s ∈ underMaskItems I xs base
  | [], _, h => by simp [restoreItems] at h
  | x :: xs, base, h => by
    rw [restoreItems, List.exists_mem_cons_iff] at h
    rw [List.exists_mem_cons_iff, underMaskItems, List.mem_append]
    rcases h with h | h
    · rcases mem_secrets_restore x _ h with hown | hunder
      · exact .inl (.inl hown)
      · exact .inr (.inl hunder)
    · rcases mem_secrets_restoreItems xs _ h with hown | hunder
      · exact .inl (.inr hown)
      · exact .inr (.inr hunder)
theorem mem_secrets_restoreFields {s : Json} : ∀ (kvs : List (Str × Json)) (base : Json),
    (∃ kv ∈ restoreFields kvs base, s ∈ secretsAt I kv.1 kv.2) →
      (∃ kv ∈ kvs, s ∈ secretsAt I kv.1 kv.2) ∨ s ∈ underMaskFields I kvs base
  | [], _, h => by simp [restoreFields] at h
  | (k, v) :: kvs, base, h => by
    rw [restoreFields, List.exists_mem_cons_iff] at h
    rw [List.exists_mem_cons_iff, underMaskFields, List.mem_append]
    rcases h with h | h
    · rcases mem_secretsAt_restore h (mem_secrets_restore v _) with hown | hunder
      · exact .inl (.inl hown)
      · exact .inr (.inl hunder)
    · rcases mem_secrets_restoreFields kvs base h with hown | hunder
      · exact .inl (.inr hown)
      · exact .inr (.inr hunder)
end

mutual
/-- A restore brings in all that the stored dump holds under a mask. -/
theorem mem_secrets_of_underMask {s : Json} : ∀ incoming base : Json, s ∈ underMask I incoming base →
    s ∈ secrets I (restoreMaskedSecrets incoming base)
  | .str t, base, h => by
    rw [underMask] at h
    split at h
    · next hmask =>
      rw [restoreMaskedSecrets, if_pos hmask, if_neg]
      · exact h
      · rintro rfl
        exact absurd h List.not_mem_nil
    · exact absurd h List.not_mem_nil
  | .arr xs, base, h => by
    rw [restoreMaskedSecrets, mem_secrets_arr]
    exact mem_secrets_of_underMaskItems xs (itemsOf base) h
  | .obj kvs, base, h => by
    rw [restoreMaskedSecrets, mem_secrets_obj]
    exact mem_secrets_of_underMaskFields kvs base h
  | .null, _, h | .bool _, _, h | .int _, _, h | .float _, _, h => absurd h List.not_mem_nil
theorem mem_secrets_of_underMaskItems {s : Json} : ∀ xs base : List Json, s ∈ underMaskItems I xs base →
    ∃ r ∈ restoreItems xs base, s ∈ secrets I r
  | [], _, h => absurd h List.not_mem_nil
  | x :: xs, base, h => by
    rw [restoreItems, List.exists_mem_cons_iff]
    rcases List.mem_append.mp h with h | h
    · exact .inl (mem_secrets_of_underMask x _ h)
    · exact .inr (mem_secrets_of_underMaskItems xs _ h)
theorem mem_secrets_of_underMaskFields {s : Json} : ∀ (kvs : List (Str × Json)) (base : Json),
    s ∈ underMaskFields I kvs base → ∃ kv ∈ restoreFields kvs base, s ∈ secretsAt I kv.1 kv.2
  | [], _, h => absurd h List.not_mem_nil
  | (k, v) :: kvs, base, h => by
    rw [restoreFields, List.exists_mem_cons_iff]
    rcases List.mem_append.mp h with hhead | htail
    · left
      split at hhead
      · next hv =>
        subst hv
        rw [secretsAt_restore_mask]
        exact hhead
      · have hin := mem_secrets_of_underMask v _ hhead
        rw [secretsAt]
        split
        · next hmasked =>
          rw [secrets_of_isMasked hmasked] at hin
          exact absurd hin List.not_mem_nil
        · exact hin
    · exact .inr (mem_secrets_of_underMaskFields kvs base htail)
end

/-- The secrets a restored item adds to those it came in with are those under its masks. -/
theorem secrets_restore_subset_iff {incoming base : Json} (own : Json → Prop)
    (hown : ∀ s ∈ secrets I incoming, own s) :
    (∀ s ∈ secrets I (restoreMaskedSecrets incoming base), own s) ↔ ∀ s ∈ underMask I incoming base, own s := by
  constructor
  · exact fun h s hs => h s (mem_secrets_of_underMask incoming base hs)
  · intro h s hs
    rcases mem_secrets_restore incoming base hs with hin | hunder
    · exact hown s hin
    · exact h s hunder

theorem kept_maskItems (xs : List Json) (origin : Nat → Option Nat) (i : Nat) :
    kept (maskItems I xs) origin i = (kept xs origin i).map (maskSecrets I) := by
  unfold kept
  cases origin i with
  | none => rfl
  | some j => rw [Option.bind_some, Option.bind_some, maskItems_eq, List.getElem?_map]

/-- **Attribution, exactly.** After an edit of the masked dump, each item is restored with its own secrets only, iff
    every mask an item carries sits where the stored dump holds one of them. -/
theorem ownSecretsOnly_iff (e : ListEdit) : ∀ own base : Json,
    OwnSecretsOnly I e own (restoreMaskedSecrets (e.apply (maskSecrets I own)) base) ↔
      MasksStayHome I e own base := by
  induction e with
  | keep => exact fun own base => by simp only [OwnSecretsOnly, MasksStayHome]
  | fields edit ih =>
    intro own base
    cases own with
    | obj kvs =>
      have hget : ∀ k, Dict.get? (restoreFields ((maskFields I kvs).map fun kv =>
          (kv.1, (edit kv.1).apply kv.2)) base) k = (Dict.get? kvs k).map fun v =>
            restoreMaskedSecrets ((edit k).apply (maskEntry I k v)) (fieldOf base k) := by
        intro k
        rw [restoreFields_eq, maskFields_eq,
          Dict.get?_mapEntries (fun k v => restoreMaskedSecrets v (fieldOf base k)),
          Dict.get?_mapEntries (fun k v => (edit k).apply v), Dict.get?_mapEntries (maskEntry I), Option.map_map,
          Option.map_map]
        rfl
      rw [maskSecrets, ListEdit.apply, restoreMaskedSecrets, OwnSecretsOnly, MasksStayHome]
      refine forall_congr' fun k => forall_congr' fun v => ?_
      rw [hget]
      constructor
      · intro h hv
        have hentry := h _ hv (by rw [hv, Option.map_some])
        -- a masked field is restored from its own key; the others by induction
        by_cases hmasked : isMasked I k v = true
        · cases v <;> first | simp [MasksStayHome] | simp [isMasked, isSecretString] at hmasked
        · rw [maskEntry, if_neg hmasked] at hentry
          exact (ih k v _).mp hentry
      · intro h r hv hr
        rw [hv, Option.map_some, Option.some_inj] at hr
        subst hr
        by_cases hmasked : isMasked I k v = true
        · cases v <;> first | simp [OwnSecretsOnly] | simp [isMasked, isSecretString] at hmasked
        · rw [maskEntry, if_neg hmasked]
          exact (ih k v _).mpr (h hv)
    | _ => simp [OwnSecretsOnly, MasksStayHome]
  | items n origin edit fresh ih =>
    intro own base
    cases own with
    | arr xs =>
      rw [maskSecrets, ListEdit.apply, restoreMaskedSecrets, OwnSecretsOnly, MasksStayHome]
      refine forall_congr' fun i => forall_congr' fun hi => ?_
      rw [getElem?_restoreItems, List.getElem?_map, List.getElem?_range hi, Option.map_some, Option.map_some]
      -- an item is restored from the position it has now, whatever item was there
      simp only [Option.some_inj, forall_eq', kept_maskItems]
      cases kept xs origin i with
      | none => exact secrets_restore_subset_iff _ fun _ hs => hs
      | some x =>
        simp only [Option.map_some]
        rw [ih i x, secrets_restore_subset_iff _ fun _ hs => .inl hs]
    | _ => simp [OwnSecretsOnly, MasksStayHome]

/-- **Masking and restoring.** Two dumps that differ in values under secret names are masked alike iff those values are
    strings; what is masked is restored; and an edit of list items brings no item the secret of another iff the masks
    it moves come to lie over secrets of their own item. -/
theorem masking_iff (a b c : Json) (e : ListEdit) (hc : c.keysDistinct = true) :
    ((differOnlyIn I isSecretValue a b = true → maskSecrets I a = maskSecrets I b) ∧
        restoreMaskedSecrets (maskSecrets I c) c = c ∧
        OwnSecretsOnly I e c (restoreMaskedSecrets (e.apply (maskSecrets I c)) c)) ↔
      (differOnlyIn I isSecretValue a b = true → differOnlyIn I isSecretString a b = true) ∧
        MasksStayHome I e c c := by
  rw [maskSecrets_eq_iff, ownSecretsOnly_iff]
  constructor
  · rintro ⟨hhidden, -, hhome⟩
    exact ⟨hhidden, hhome⟩
  · rintro ⟨hhidden, hhome⟩
    exact ⟨hhidden, restore_maskSecrets c hc, hhome⟩

/-- A setting whose password was written as a number. -/
def numericPassword (n : Int) : Json := .obj [("password", .int n)]

/-- Two bridges and their passwords. -/
def bridges (p q : Str) : Json := .arr [.obj [("password", .str p)], .obj [("password", .str q)]]

/-- The two items of a list change places. -/
def swapItems : ListEdit := .items 2 (fun i => some (1 - i)) (fun _ => .keep) (fun _ => .null)

theorem masking_bridges :
    ((differOnlyIn asciiInterp isSecretValue (bridges "a" "b") (bridges "c" "d") = true →
        maskSecrets asciiInterp (bridges "a" "b") = maskSecrets asciiInterp (bridges "c" "d")) ∧
        restoreMaskedSecrets (maskSecrets asciiInterp (bridges "a" "b")) (bridges "a" "b") = bridges "a" "b" ∧
        OwnSecretsOnly asciiInterp .keep (bridges "a" "b") (restoreMaskedSecrets
          (ListEdit.keep.apply (maskSecrets asciiInterp (bridges "a" "b"))) (bridges "a" "b"))) ↔
      (differOnlyIn asciiInterp isSecretValue (bridges "a" "b") (bridges "c" "d") = true →
        differOnlyIn asciiInterp isSecretString (bridges "a" "b") (bridges "c" "d") = true) ∧
        MasksStayHome asciiInterp .keep (bridges "a" "b") (bridges "a" "b") :=
  masking_iff (bridges "a" "b") (bridges "c" "d") (bridges "a" "b") .keep (by decide)

/-- **A number under a secret name shows through, and a swap of two items swaps their secrets.** -/
theorem masking_fails :
    (differOnlyIn asciiInterp isSecretValue (numericPassword 1234) (numericPassword 5678) = true ∧
      maskSecrets asciiInterp (numericPassword 1234) ≠ maskSecrets asciiInterp (numericPassword 5678)) ∧
    ¬ OwnSecretsOnly asciiInterp swapItems (bridges "a" "b")
      (restoreMaskedSecrets (swapItems.apply (maskSecrets asciiInterp (bridges "a" "b"))) (bridges "a" "b")) := by
  refine ⟨by decide, fun h => ?_⟩
  -- item 0 is the old item 1, and comes back with the password of the old item 0
  have hfirst := h 0 (by decide) (.obj [("password", .str "a")]) (by decide)
  have hsecret := hfirst.1 (.str "a") (by decide)
  revert hsecret
  decide

end RideTheApi.Config
