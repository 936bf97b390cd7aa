import RideTheApi.Lib.Except

/-!
# `Lib.JsonTree` — JSON-shaped trees over an arbitrary type of strings

`JsonTree κ σ` has the shape of a JSON value with keys in `κ` and string leaves in `σ`. With `σ` a text type
it is a JSON value; with `σ` a pair of a tag and a text it is a JSON value that remembers where each of
its strings comes from. Operations that only look at the shape are written once, for every `σ`, and
commute with `map`. `traverse` replaces every string leaf by a tree, in any monad, left to right.
-/

universe u v

/-- A JSON-shaped tree. A float is its IEEE-754 bit pattern. -/
inductive JsonTree (κ : Type) (σ : Type) where
  | null
  | bool (b : Bool)
  | int (n : Int)
  | float (bits : BitVec 64)
  | str (s : σ)
  | arr (xs : List (JsonTree κ σ))
  | obj (kvs : List (κ × JsonTree κ σ))
deriving Repr, Inhabited

namespace JsonTree

variable {κ σ τ υ : Type}

section
variable [DecidableEq κ] [DecidableEq σ]

mutual
/-- Equality test (structural: `1`, `1.0` and `True` are told apart). -/
def beq : JsonTree κ σ → JsonTree κ σ → Bool
  | .null,     .null     => true
  | .bool a,   .bool b   => a == b
  | .int a,    .int b    => a == b
  | .float a,  .float b  => a == b
  | .str a,    .str b    => a == b
  | .arr xs,   .arr ys   => beqList xs ys
  | .obj kvs,  .obj kvs' => beqEntries kvs kvs'
  | _,         _         => false
def beqList : List (JsonTree κ σ) → List (JsonTree κ σ) → Bool
  | [],      []      => true
  | x :: xs, y :: ys => beq x y && beqList xs ys
  | _,       _       => false
def beqEntries : List (κ × JsonTree κ σ) → List (κ × JsonTree κ σ) → Bool
  | [],             []               => true
  | (k, v) :: kvs, (k', v') :: kvs' => (k == k' && beq v v') && beqEntries kvs kvs'
  | _,             _                => false
end

mutual
theorem beq_iff : ∀ a b : JsonTree κ σ, beq a b = true ↔ a = b
  | .null, b => by cases b <;> simp [beq]
  | .bool _, b => by cases b <;> simp [beq]
  | .int _, b => by cases b <;> simp [beq]
  | .float _, b => by cases b <;> simp [beq]
  | .str _, b => by cases b <;> simp [beq]
  | .arr xs, b => by cases b <;> simp [beq, beqList_iff xs]
  | .obj kvs, b => by cases b <;> simp [beq, beqEntries_iff kvs]
theorem beqList_iff : ∀ xs ys : List (JsonTree κ σ), beqList xs ys = true ↔ xs = ys
  | [], ys => by cases ys <;> simp [beqList]
  | x :: xs, ys => by cases ys <;> simp [beqList, beq_iff x, beqList_iff xs]
theorem beqEntries_iff : ∀ kvs kvs' : List (κ × JsonTree κ σ), beqEntries kvs kvs' = true ↔ kvs = kvs'
  | [], kvs' => by cases kvs' <;> simp [beqEntries]
  | (k, v) :: kvs, kvs' => by
    cases kvs' with
    | nil => simp [beqEntries]
    | cons p kvs' => simp [beqEntries, beq_iff v, beqEntries_iff kvs, Prod.ext_iff]
end

instance : DecidableEq (JsonTree κ σ) := fun a b => decidable_of_iff _ (beq_iff a b)

end

/-- Induction over a tree: an array by its items, an object by its values. -/
@[elab_as_elim]
theorem induction {motive : JsonTree κ σ → Prop} (null : motive .null) (bool : ∀ b, motive (.bool b))
    (int : ∀ n, motive (.int n)) (float : ∀ x, motive (.float x)) (str : ∀ s, motive (.str s))
    (arr : ∀ xs, (∀ x ∈ xs, motive x) → motive (.arr xs))
    (obj : ∀ kvs, (∀ kv ∈ kvs, motive kv.2) → motive (.obj kvs)) : ∀ t, motive t :=
  @JsonTree.rec κ σ motive (fun xs => ∀ x ∈ xs, motive x) (fun kvs => ∀ kv ∈ kvs, motive kv.2)
    (fun kv => motive kv.2) null bool int float str arr obj (fun _ h => absurd h List.not_mem_nil)
    (fun _ _ hx hxs => List.forall_mem_cons.mpr ⟨hx, hxs⟩) (fun _ h => absurd h List.not_mem_nil)
    (fun _ _ hkv hkvs => List.forall_mem_cons.mpr ⟨hkv, hkvs⟩) (fun _ _ h => h)

mutual
/-- The entries of all objects in the tree, at any depth. -/
def entries : JsonTree κ σ → List (κ × JsonTree κ σ)
  | .arr xs  => entriesItems xs
  | .obj kvs => entriesFields kvs
  | _        => []
def entriesItems : List (JsonTree κ σ) → List (κ × JsonTree κ σ)
  | []      => []
  | x :: xs => x.entries ++ entriesItems xs
def entriesFields : List (κ × JsonTree κ σ) → List (κ × JsonTree κ σ)
  | []            => []
  | (k, v) :: kvs => (k, v) :: (v.entries ++ entriesFields kvs)
end

theorem mem_entries_arr {xs : List (JsonTree κ σ)} {kv : κ × JsonTree κ σ} :
    kv ∈ entries (.arr xs) ↔ ∃ x ∈ xs, kv ∈ x.entries := by
  show kv ∈ entriesItems xs ↔ _
  induction xs with
  | nil => simp [entriesItems]
  | cons x xs ih => simp [entriesItems, ih]

theorem mem_entries_obj {kvs : List (κ × JsonTree κ σ)} {kv : κ × JsonTree κ σ} :
    kv ∈ entries (.obj kvs) ↔ ∃ e ∈ kvs, kv = e ∨ kv ∈ e.2.entries := by
  show kv ∈ entriesFields kvs ↔ _
  induction kvs with
  | nil => simp [entriesFields]
  | cons e kvs ih =>
    obtain ⟨k, v⟩ := e
    rw [entriesFields, List.mem_cons, List.mem_append, ih, List.exists_mem_cons_iff]
    exact or_assoc.symm

/-! ## Keys -/

mutual
/-- No object of the tree repeats a key. -/
def keysDistinct [DecidableEq κ] : JsonTree κ σ → Bool
  | .arr xs  => keysDistinctItems xs
  | .obj kvs => decide (kvs.map Prod.fst).Nodup && keysDistinctFields kvs
  | _        => true
def keysDistinctItems [DecidableEq κ] : List (JsonTree κ σ) → Bool
  | []      => true
  | x :: xs => x.keysDistinct && keysDistinctItems xs
def keysDistinctFields [DecidableEq κ] : List (κ × JsonTree κ σ) → Bool
  | []            => true
  | (_, v) :: kvs => v.keysDistinct && keysDistinctFields kvs
end

theorem keysDistinct_arr [DecidableEq κ] {xs : List (JsonTree κ σ)} :
    keysDistinct (.arr xs) = true ↔ ∀ x ∈ xs, x.keysDistinct = true := by
  show keysDistinctItems xs = true ↔ _
  induction xs with
  | nil => simp [keysDistinctItems]
  | cons x xs ih => simp [keysDistinctItems, ih]

theorem keysDistinct_obj [DecidableEq κ] {kvs : List (κ × JsonTree κ σ)} :
    keysDistinct (.obj kvs) = true ↔ (kvs.map Prod.fst).Nodup ∧ ∀ kv ∈ kvs, kv.2.keysDistinct = true := by
  have hfields : keysDistinctFields kvs = true ↔ ∀ kv ∈ kvs, kv.2.keysDistinct = true := by
    induction kvs with
    | nil => simp [keysDistinctFields]
    | cons kv kvs ih => simp [keysDistinctFields, ih]
  rw [keysDistinct, Bool.and_eq_true, decide_eq_true_eq, hfields]

/-! ## Strings and their replacement -/

mutual
/-- The string leaves, left to right. -/
def strings : JsonTree κ σ → List σ
  | .str s   => [s]
  | .arr xs  => stringsList xs
  | .obj kvs => stringsEntries kvs
  | _        => []
def stringsList : List (JsonTree κ σ) → List σ
  | []      => []
  | x :: xs => x.strings ++ stringsList xs
def stringsEntries : List (κ × JsonTree κ σ) → List σ
  | []            => []
  | (_, v) :: kvs => v.strings ++ stringsEntries kvs
end

mutual
/-- Relabel the string leaves. -/
def map (f : σ → τ) : JsonTree κ σ → JsonTree κ τ
  | .null     => .null
  | .bool b   => .bool b
  | .int n    => .int n
  | .float x  => .float x
  | .str s    => .str (f s)
  | .arr xs   => .arr (mapList f xs)
  | .obj kvs  => .obj (mapEntries f kvs)
def mapList (f : σ → τ) : List (JsonTree κ σ) → List (JsonTree κ τ)
  | []      => []
  | x :: xs => x.map f :: mapList f xs
def mapEntries (f : σ → τ) : List (κ × JsonTree κ σ) → List (κ × JsonTree κ τ)
  | []            => []
  | (k, v) :: kvs => (k, v.map f) :: mapEntries f kvs
end

theorem stringsList_eq (xs : List (JsonTree κ σ)) : stringsList xs = xs.flatMap strings := by
  induction xs with
  | nil => rfl
  | cons x xs ih => rw [stringsList, ih, List.flatMap_cons]

theorem stringsEntries_eq (kvs : List (κ × JsonTree κ σ)) :
    stringsEntries kvs = kvs.flatMap fun kv => kv.2.strings := by
  induction kvs with
  | nil => rfl
  | cons kv kvs ih => rw [stringsEntries, ih, List.flatMap_cons]

theorem mapList_eq (f : σ → τ) (xs : List (JsonTree κ σ)) : mapList f xs = xs.map (map f) := by
  induction xs with
  | nil => rfl
  | cons x xs ih => rw [mapList, ih, List.map_cons]

theorem mapEntries_eq (f : σ → τ) (kvs : List (κ × JsonTree κ σ)) :
    mapEntries f kvs = kvs.map fun kv => (kv.1, kv.2.map f) := by
  induction kvs with
  | nil => rfl
  | cons kv kvs ih => rw [mapEntries, ih, List.map_cons]

mutual
/-- Relabelling with a function that keeps every label changes nothing. -/
theorem map_map_eq (g : τ → σ) (f : σ → τ) (h : ∀ s, g (f s) = s) : ∀ t : JsonTree κ σ,
    (t.map f).map g = t
  | .null | .bool _ | .int _ | .float _ => by simp [map]
  | .str s => by simp [map, h]
  | .arr xs => by rw [map, map, mapList_map_eq g f h xs]
  | .obj kvs => by rw [map, map, mapEntries_map_eq g f h kvs]
theorem mapList_map_eq (g : τ → σ) (f : σ → τ) (h : ∀ s, g (f s) = s) : ∀ xs : List (JsonTree κ σ),
    mapList g (mapList f xs) = xs
  | [] => rfl
  | x :: xs => by rw [mapList, mapList, map_map_eq g f h x, mapList_map_eq g f h xs]
theorem mapEntries_map_eq (g : τ → σ) (f : σ → τ) (h : ∀ s, g (f s) = s) :
    ∀ kvs : List (κ × JsonTree κ σ), mapEntries g (mapEntries f kvs) = kvs
  | [] => rfl
  | (k, v) :: kvs => by rw [mapEntries, mapEntries, map_map_eq g f h v, mapEntries_map_eq g f h kvs]
end

mutual
/-- The strings of a relabelled tree. -/
theorem strings_map (f : σ → τ) : ∀ t : JsonTree κ σ, (t.map f).strings = t.strings.map f
  | .null | .bool _ | .int _ | .float _ | .str _ => by simp [map, strings]
  | .arr xs => by rw [map, strings, strings, stringsList_map f xs]
  | .obj kvs => by rw [map, strings, strings, stringsEntries_map f kvs]
theorem stringsList_map (f : σ → τ) : ∀ xs : List (JsonTree κ σ),
    stringsList (mapList f xs) = (stringsList xs).map f
  | [] => rfl
  | x :: xs => by
    rw [mapList, stringsList, stringsList, strings_map f x, stringsList_map f xs, List.map_append]
theorem stringsEntries_map (f : σ → τ) : ∀ kvs : List (κ × JsonTree κ σ),
    stringsEntries (mapEntries f kvs) = (stringsEntries kvs).map f
  | [] => rfl
  | (k, v) :: kvs => by
    rw [mapEntries, stringsEntries, stringsEntries, strings_map f v, stringsEntries_map f kvs,
      List.map_append]
end

section
variable {m : Type → Type u} [Monad m]

mutual
/-- Replace every string leaf by the tree a computation returns for it. -/
def traverse (f : σ → m (JsonTree κ τ)) : JsonTree κ σ → m (JsonTree κ τ)
  | .null     => pure .null
  | .bool b   => pure (.bool b)
  | .int n    => pure (.int n)
  | .float x  => pure (.float x)
  | .str s    => f s
  | .arr xs   => do
    let ys ← traverseList f xs
    pure (.arr ys)
  | .obj kvs  => do
    let ys ← traverseEntries f kvs
    pure (.obj ys)
def traverseList (f : σ → m (JsonTree κ τ)) : List (JsonTree κ σ) → m (List (JsonTree κ τ))
  | []      => pure []
  | x :: xs => do
    let y ← x.traverse f
    let ys ← traverseList f xs
    pure (y :: ys)
def traverseEntries (f : σ → m (JsonTree κ τ)) :
    List (κ × JsonTree κ σ) → m (List (κ × JsonTree κ τ))
  | []            => pure []
  | (k, v) :: kvs => do
    let y ← v.traverse f
    let ys ← traverseEntries f kvs
    pure ((k, y) :: ys)
end

mutual
/-- A traversal depends on what it does at the string leaves only. -/
theorem traverse_congr {f g : σ → m (JsonTree κ τ)} : ∀ t : JsonTree κ σ,
    (∀ s ∈ t.strings, f s = g s) → t.traverse f = t.traverse g
  | .null, _ | .bool _, _ | .int _, _ | .float _, _ => by simp [traverse]
  | .str s, h => by simpa [traverse, strings] using h
  | .arr xs, h => by
    rw [traverse, traverse, traverseList_congr xs (by simpa [strings] using h)]
  | .obj kvs, h => by
    rw [traverse, traverse, traverseEntries_congr kvs (by simpa [strings] using h)]
theorem traverseList_congr {f g : σ → m (JsonTree κ τ)} : ∀ xs : List (JsonTree κ σ),
    (∀ s ∈ stringsList xs, f s = g s) → traverseList f xs = traverseList g xs
  | [], _ => rfl
  | x :: xs, h => by
    rw [traverseList, traverseList, traverse_congr x fun s hs => h s (by simp [stringsList, hs]),
      traverseList_congr xs fun s hs => h s (by simp [stringsList, hs])]
theorem traverseEntries_congr {f g : σ → m (JsonTree κ τ)} : ∀ kvs : List (κ × JsonTree κ σ),
    (∀ s ∈ stringsEntries kvs, f s = g s) → traverseEntries f kvs = traverseEntries g kvs
  | [], _ => rfl
  | (k, v) :: kvs, h => by
    rw [traverseEntries, traverseEntries,
      traverse_congr v fun s hs => h s (by simp [stringsEntries, hs]),
      traverseEntries_congr kvs fun s hs => h s (by simp [stringsEntries, hs])]
end

mutual
/-- Traversing a relabelled tree relabels on the way. -/
theorem traverse_map (f : τ → m (JsonTree κ υ)) (h : σ → τ) : ∀ t : JsonTree κ σ,
    (t.map h).traverse f = t.traverse fun s => f (h s)
  | .null | .bool _ | .int _ | .float _ | .str _ => by simp [traverse, map]
  | .arr xs => by rw [map, traverse, traverse, traverseList_map f h xs]
  | .obj kvs => by rw [map, traverse, traverse, traverseEntries_map f h kvs]
theorem traverseList_map (f : τ → m (JsonTree κ υ)) (h : σ → τ) : ∀ xs : List (JsonTree κ σ),
    traverseList f (mapList h xs) = traverseList (fun s => f (h s)) xs
  | [] => rfl
  | x :: xs => by
    rw [mapList, traverseList, traverseList, traverse_map f h x, traverseList_map f h xs]
theorem traverseEntries_map (f : τ → m (JsonTree κ υ)) (h : σ → τ) : ∀ kvs : List (κ × JsonTree κ σ),
    traverseEntries f (mapEntries h kvs) = traverseEntries (fun s => f (h s)) kvs
  | [] => rfl
  | (k, v) :: kvs => by
    rw [mapEntries, traverseEntries, traverseEntries, traverse_map f h v, traverseEntries_map f h kvs]
end

end

section
variable {m : Type → Type u} [Monad m] [LawfulMonad m]

mutual
/-- A traversal whose computations are pure is pure. -/
theorem traverse_pure (f : σ → JsonTree κ τ) : ∀ t : JsonTree κ σ,
    t.traverse (fun s => (pure (f s) : m (JsonTree κ τ))) = pure (t.traverse (m := Id) f)
  | .null | .bool _ | .int _ | .float _ | .str _ => by simp only [traverse] <;> rfl
  | .arr xs => by
    rw [traverse, traverseList_pure f xs, pure_bind]
    rfl
  | .obj kvs => by
    rw [traverse, traverseEntries_pure f kvs, pure_bind]
    rfl
theorem traverseList_pure (f : σ → JsonTree κ τ) : ∀ xs : List (JsonTree κ σ),
    traverseList (fun s => (pure (f s) : m (JsonTree κ τ))) xs = pure (traverseList (m := Id) f xs)
  | [] => rfl
  | x :: xs => by
    rw [traverseList, traverse_pure f x, pure_bind, traverseList_pure f xs, pure_bind]
    rfl
theorem traverseEntries_pure (f : σ → JsonTree κ τ) : ∀ kvs : List (κ × JsonTree κ σ),
    traverseEntries (fun s => (pure (f s) : m (JsonTree κ τ))) kvs =
      pure (traverseEntries (m := Id) f kvs)
  | [] => rfl
  | (k, v) :: kvs => by
    rw [traverseEntries, traverse_pure f v, pure_bind, traverseEntries_pure f kvs, pure_bind]
    rfl
end

end

mutual
/-- Two pure replacements that build the same tree agree at every string leaf. -/
theorem eq_of_traverse_eq {f g : σ → Id (JsonTree κ τ)} : ∀ t : JsonTree κ σ,
    t.traverse f = t.traverse g → ∀ s ∈ t.strings, f s = g s
  | .null, _ | .bool _, _ | .int _, _ | .float _, _ => by simp [strings]
  | .str s, h => by simpa [traverse, strings] using h
  | .arr xs, h => by
    simp only [traverse] at h
    simpa [strings] using eq_of_traverseList_eq xs (JsonTree.arr.inj h)
  | .obj kvs, h => by
    simp only [traverse] at h
    simpa [strings] using eq_of_traverseEntries_eq kvs (JsonTree.obj.inj h)
theorem eq_of_traverseList_eq {f g : σ → Id (JsonTree κ τ)} : ∀ xs : List (JsonTree κ σ),
    traverseList f xs = traverseList g xs → ∀ s ∈ stringsList xs, f s = g s
  | [], _ => by simp [stringsList]
  | x :: xs, h => by
    obtain ⟨hx, hxs⟩ := List.cons.inj h
    intro s hs
    rcases List.mem_append.mp hs with hs | hs
    · exact eq_of_traverse_eq x hx s hs
    · exact eq_of_traverseList_eq xs hxs s hs
theorem eq_of_traverseEntries_eq {f g : σ → Id (JsonTree κ τ)} : ∀ kvs : List (κ × JsonTree κ σ),
    traverseEntries f kvs = traverseEntries g kvs → ∀ s ∈ stringsEntries kvs, f s = g s
  | [], _ => by simp [stringsEntries]
  | (k, v) :: kvs, h => by
    obtain ⟨hx, hxs⟩ := List.cons.inj h
    intro s hs
    rcases List.mem_append.mp hs with hs | hs
    · exact eq_of_traverse_eq v (Prod.mk.inj hx).2 s hs
    · exact eq_of_traverseEntries_eq kvs hxs s hs
end

section
variable {S ε : Type}

mutual
/-- A traversal that succeeds succeeds at every string leaf, and keeps the strings it gets there. -/
theorem leaf_of_traverse {f : σ → StateT S (Except ε) (JsonTree κ τ)} :
    ∀ (t : JsonTree κ σ) {n n' : S} {v : JsonTree κ τ}, t.traverse f n = .ok (v, n') →
      ∀ s ∈ t.strings, ∃ k a k', f s k = .ok (a, k') ∧ ∀ y ∈ a.strings, y ∈ v.strings
  | .null, _, _, _, _ | .bool _, _, _, _, _ | .int _, _, _, _, _ | .float _, _, _, _, _ => by
    simp [strings]
  | .str s, n, n', v, h => by
    intro s' hs'
    rw [strings, List.mem_singleton] at hs'
    subst hs'
    exact ⟨n, v, n', h, fun y hy => hy⟩
  | .arr xs, n, n', v, h => by
    obtain ⟨⟨ys, n₁⟩, hys, hv⟩ := Except.bind_ok_iff.mp h
    cases hv
    exact leaf_of_traverseList xs hys
  | .obj kvs, n, n', v, h => by
    obtain ⟨⟨ys, n₁⟩, hys, hv⟩ := Except.bind_ok_iff.mp h
    cases hv
    exact leaf_of_traverseEntries kvs hys
theorem leaf_of_traverseList {f : σ → StateT S (Except ε) (JsonTree κ τ)} :
    ∀ (xs : List (JsonTree κ σ)) {n n' : S} {vs : List (JsonTree κ τ)},
      traverseList f xs n = .ok (vs, n') →
      ∀ s ∈ stringsList xs, ∃ k a k', f s k = .ok (a, k') ∧ ∀ y ∈ a.strings, y ∈ stringsList vs
  | [], _, _, _, _ => by simp [stringsList]
  | x :: xs, n, n', vs, h => by
    obtain ⟨⟨y, n₁⟩, hy, h⟩ := Except.bind_ok_iff.mp h
    obtain ⟨⟨ys, n₂⟩, hys, hv⟩ := Except.bind_ok_iff.mp h
    cases hv
    intro s hs
    rcases List.mem_append.mp hs with hs | hs
    · obtain ⟨k, a, k', hf, hsub⟩ := leaf_of_traverse x hy s hs
      exact ⟨k, a, k', hf, fun z hz => List.mem_append_left _ (hsub z hz)⟩
    · obtain ⟨k, a, k', hf, hsub⟩ := leaf_of_traverseList xs hys s hs
      exact ⟨k, a, k', hf, fun z hz => List.mem_append_right _ (hsub z hz)⟩
theorem leaf_of_traverseEntries {f : σ → StateT S (Except ε) (JsonTree κ τ)} :
    ∀ (kvs : List (κ × JsonTree κ σ)) {n n' : S} {vs : List (κ × JsonTree κ τ)},
      traverseEntries f kvs n = .ok (vs, n') →
      ∀ s ∈ stringsEntries kvs, ∃ k a k', f s k = .ok (a, k') ∧ ∀ y ∈ a.strings, y ∈ stringsEntries vs
  | [], _, _, _, _ => by simp [stringsEntries]
  | (key, x) :: kvs, n, n', vs, h => by
    obtain ⟨⟨y, n₁⟩, hy, h⟩ := Except.bind_ok_iff.mp h
    obtain ⟨⟨ys, n₂⟩, hys, hv⟩ := Except.bind_ok_iff.mp h
    cases hv
    intro s hs
    rcases List.mem_append.mp hs with hs | hs
    · obtain ⟨k, a, k', hf, hsub⟩ := leaf_of_traverse x hy s hs
      exact ⟨k, a, k', hf, fun z hz => List.mem_append_left _ (hsub z hz)⟩
    · obtain ⟨k, a, k', hf, hsub⟩ := leaf_of_traverseEntries kvs hys s hs
      exact ⟨k, a, k', hf, fun z hz => List.mem_append_right _ (hsub z hz)⟩
end

end

end JsonTree
