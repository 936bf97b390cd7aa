import RideTheApi.Lib.Dict
import RideTheApi.Lib.JsonTree

/-!
# `Lib.JsonGrammar` — the grammar of JSON over an arbitrary alphabet of strings

A JSON document is a list of tokens; how a text is cut into tokens is left to the user. `parse` reads it
with an explicit stack: `step` takes one token, and what the tokens so far have left open is the state. A
later entry of a key overwrites an earlier one, as in a `dict`. `tokens` writes a tree back. Two facts tie
them together: a tree whose objects repeat no key is read back from its own tokens (`parse_tokens`), and
whatever is read is made of the tokens that were read (`parse_over`).
-/

/-- A scalar other than a string. -/
inductive JsonAtom where
  | null
  | bool (b : Bool)
  | int (n : Int)
  | float (bits : BitVec 64)
deriving Repr, DecidableEq

/-- A token of a JSON document with strings in `σ`. -/
inductive JsonToken (σ : Type) where
  | openObj
  | closeObj
  | openArr
  | closeArr
  | colon
  | comma
  | str (s : σ)
  | atom (a : JsonAtom)
deriving Repr, DecidableEq

namespace JsonGrammar

variable {σ : Type}

/-- A tree whose keys are strings of the document. -/
abbrev Tree (σ : Type) := JsonTree σ σ

/-- The tree of an atom. -/
def ofAtom : JsonAtom → Tree σ
  | .null    => .null
  | .bool b  => .bool b
  | .int n   => .int n
  | .float x => .float x

/-! ## Reading -/

/-- An open container: an array with the items so far, an object with its entries so far and the key whose
    value is being read. -/
inductive Frame (σ : Type) where
  | arr (items : List (Tree σ))
  | field (entries : Dict σ (Tree σ)) (key : σ)

/-- What may come next. -/
inductive State (σ : Type) where
  /-- A value. -/
  | due (stack : List (Frame σ))
  /-- The first item of an array, or its end. -/
  | itemOrClose (stack : List (Frame σ))
  /-- The first key of an object, or its end. -/
  | keyOrClose (stack : List (Frame σ))
  /-- A key, after a comma. -/
  | key (entries : Dict σ (Tree σ)) (stack : List (Frame σ))
  /-- The colon after a key. -/
  | colon (entries : Dict σ (Tree σ)) (key : σ) (stack : List (Frame σ))
  /-- A comma or an end, after a value. -/
  | after (v : Tree σ) (stack : List (Frame σ))

/-- The token a value starts with. -/
def startValue (stack : List (Frame σ)) : JsonToken σ → Option (State σ)
  | .openObj => some (.keyOrClose stack)
  | .openArr => some (.itemOrClose stack)
  | .str s   => some (.after (.str s) stack)
  | .atom a  => some (.after (ofAtom a) stack)
  | _        => none

section
variable [DecidableEq σ]

/-- Put a finished value where it belongs: the next token decides how the container goes on. -/
def finishValue (v : Tree σ) : List (Frame σ) → JsonToken σ → Option (State σ)
  | .arr items :: stack, .comma            => some (.due (.arr (items ++ [v]) :: stack))
  | .arr items :: stack, .closeArr         => some (.after (.arr (items ++ [v])) stack)
  | .field entries key :: stack, .comma    => some (.key (entries.set key v) stack)
  | .field entries key :: stack, .closeObj => some (.after (.obj (entries.set key v)) stack)
  | _, _                                   => none

/-- Read one token. -/
def step : State σ → JsonToken σ → Option (State σ)
  | .due stack, t                 => startValue stack t
  | .itemOrClose stack, .closeArr => some (.after (.arr []) stack)
  | .itemOrClose stack, t         => startValue (.arr [] :: stack) t
  | .keyOrClose stack, .closeObj  => some (.after (.obj []) stack)
  | .keyOrClose stack, .str k     => some (.colon [] k stack)
  | .key entries stack, .str k    => some (.colon entries k stack)
  | .colon entries k stack, .colon => some (.due (.field entries k :: stack))
  | .after v stack, t             => finishValue v stack t
  | _, _                          => none

/-- Read tokens from a state. -/
def run (s : State σ) (toks : List (JsonToken σ)) : Option (State σ) := toks.foldlM step s

/-- Read a document. -/
def parse (toks : List (JsonToken σ)) : Option (Tree σ) :=
  match run (.due []) toks with
  | some (.after v []) => some v
  | _                  => none

theorem step_itemOrClose {t : JsonToken σ} (stack : List (Frame σ)) (ht : t ≠ .closeArr) :
    step (.itemOrClose stack) t = startValue (.arr [] :: stack) t := by
  cases t with
  | closeArr => exact absurd rfl ht
  | openObj | openArr | closeObj | colon | comma | str | atom => rfl

@[simp] theorem run_nil (s : State σ) : run s [] = some s := rfl

theorem run_cons (s : State σ) (t : JsonToken σ) (toks : List (JsonToken σ)) :
    run s (t :: toks) = (step s t).bind fun s' => run s' toks := by
  show List.foldlM step s (t :: toks) = _
  rw [List.foldlM_cons]
  rfl

theorem parse_eq_some {toks : List (JsonToken σ)} {v : Tree σ} :
    parse toks = some v ↔ run (.due []) toks = some (.after v []) := by
  unfold parse
  constructor
  · intro h
    split at h
    · next w hrun =>
      cases h
      exact hrun
    · cases h
  · intro h
    rw [h]

end

/-! ## Writing -/

mutual
/-- The tokens of a tree. -/
def tokens : Tree σ → List (JsonToken σ)
  | .null    => [.atom .null]
  | .bool b  => [.atom (.bool b)]
  | .int n   => [.atom (.int n)]
  | .float x => [.atom (.float x)]
  | .str s   => [.str s]
  | .arr xs  => .openArr :: (itemTokens xs ++ [.closeArr])
  | .obj kvs => .openObj :: (entryTokens kvs ++ [.closeObj])
def itemTokens : List (Tree σ) → List (JsonToken σ)
  | []      => []
  | x :: xs => tokens x ++ moreItemTokens xs
def moreItemTokens : List (Tree σ) → List (JsonToken σ)
  | []      => []
  | x :: xs => .comma :: (tokens x ++ moreItemTokens xs)
def entryTokens : List (σ × Tree σ) → List (JsonToken σ)
  | []            => []
  | (k, v) :: kvs => .str k :: .colon :: (tokens v ++ moreEntryTokens kvs)
def moreEntryTokens : List (σ × Tree σ) → List (JsonToken σ)
  | []            => []
  | (k, v) :: kvs => .comma :: .str k :: .colon :: (tokens v ++ moreEntryTokens kvs)
end

/-! ## What a tree is made of -/

section
variable (ok : JsonToken σ → Prop)

mutual
/-- No object repeats a key, and every string, key and atom satisfies `ok`. -/
def Over : Tree σ → Prop
  | .null    => ok (.atom .null)
  | .bool b  => ok (.atom (.bool b))
  | .int n   => ok (.atom (.int n))
  | .float x => ok (.atom (.float x))
  | .str s   => ok (.str s)
  | .arr xs  => OverList xs
  | .obj kvs => (Dict.keys kvs).Nodup ∧ OverEntries kvs
def OverList : List (Tree σ) → Prop
  | []      => True
  | x :: xs => Over x ∧ OverList xs
def OverEntries : List (σ × Tree σ) → Prop
  | []            => True
  | (k, v) :: kvs => ok (.str k) ∧ Over v ∧ OverEntries kvs
end

variable {ok}

mutual
/-- The strings of a tree. -/
theorem over_strings : ∀ v : Tree σ, Over ok v → ∀ s ∈ v.strings, ok (.str s)
  | .null, _ | .bool _, _ | .int _, _ | .float _, _ => by simp [JsonTree.strings]
  | .str s, h => by
    intro s' hs'
    rw [List.mem_singleton.mp hs']
    exact h
  | .arr xs, h => overList_strings xs h
  | .obj kvs, h => overEntries_strings kvs h.2
theorem overList_strings : ∀ xs : List (Tree σ), OverList ok xs → ∀ s ∈ JsonTree.stringsList xs, ok (.str s)
  | [], _ => by simp [JsonTree.stringsList]
  | x :: xs, h => by
    intro s hs
    rcases List.mem_append.mp hs with hs | hs
    · exact over_strings x h.1 s hs
    · exact overList_strings xs h.2 s hs
theorem overEntries_strings : ∀ kvs : List (σ × Tree σ), OverEntries ok kvs →
    ∀ s ∈ JsonTree.stringsEntries kvs, ok (.str s)
  | [], _ => by simp [JsonTree.stringsEntries]
  | (_, v) :: kvs, h => by
    intro s hs
    rcases List.mem_append.mp hs with hs | hs
    · exact over_strings v h.2.1 s hs
    · exact overEntries_strings kvs h.2.2 s hs
end

variable {ok' : JsonToken σ → Prop}

mutual
theorem over_mono (h : ∀ t, ok t → ok' t) : ∀ v : Tree σ, Over ok v → Over ok' v
  | .null, hv | .bool _, hv | .int _, hv | .float _, hv | .str _, hv => h _ hv
  | .arr xs, hv => overList_mono h xs hv
  | .obj kvs, hv => ⟨hv.1, overEntries_mono h kvs hv.2⟩
theorem overList_mono (h : ∀ t, ok t → ok' t) : ∀ xs : List (Tree σ), OverList ok xs → OverList ok' xs
  | [], _ => trivial
  | x :: xs, hv => ⟨over_mono h x hv.1, overList_mono h xs hv.2⟩
theorem overEntries_mono (h : ∀ t, ok t → ok' t) : ∀ kvs : List (σ × Tree σ),
    OverEntries ok kvs → OverEntries ok' kvs
  | [], _ => trivial
  | (_, v) :: kvs, hv => ⟨h _ hv.1, over_mono h v hv.2.1, overEntries_mono h kvs hv.2.2⟩
end

theorem over_ofAtom {a : JsonAtom} : Over ok (ofAtom a : Tree σ) ↔ ok (.atom a) := by
  cases a <;> simp [ofAtom, Over]

theorem overList_iff {xs : List (Tree σ)} : OverList ok xs ↔ ∀ x ∈ xs, Over ok x := by
  induction xs with
  | nil => simp [OverList]
  | cons x xs ih => simp [OverList, ih]

theorem overEntries_iff {kvs : List (σ × Tree σ)} :
    OverEntries ok kvs ↔ ∀ kv ∈ kvs, ok (.str kv.1) ∧ Over ok kv.2 := by
  induction kvs with
  | nil => simp [OverEntries]
  | cons kv kvs ih => simp [OverEntries, ih, and_assoc]

end

/-! ## A tree is read back from its tokens -/

section
variable [DecidableEq σ] {ok : JsonToken σ → Prop}

/-- The first item of an array is read as any value is: no value starts with a closing bracket. -/
theorem run_itemOrClose (x : Tree σ) (stack : List (Frame σ)) (rest : List (JsonToken σ)) :
    run (.itemOrClose stack) (tokens x ++ rest) = run (.due (.arr [] :: stack)) (tokens x ++ rest) := by
  cases x <;> rfl

mutual
/-- Reading the tokens of a tree ends with that tree. -/
theorem run_tokens : ∀ v : Tree σ, Over ok v → ∀ (stack : List (Frame σ)) (rest : List (JsonToken σ)),
    run (.due stack) (tokens v ++ rest) = run (.after v stack) rest
  | .null, _, _, _ | .bool _, _, _, _ | .int _, _, _, _ | .float _, _, _, _ | .str _, _, _, _ => rfl
  | .arr [], _, _, _ => rfl
  | .arr (x :: xs), h, stack, rest => by
    obtain ⟨hx, hxs⟩ := h
    show run (.itemOrClose stack) ((tokens x ++ moreItemTokens xs) ++ [.closeArr] ++ rest) = _
    rw [List.append_assoc, List.append_assoc, run_itemOrClose, run_tokens x hx]
    exact run_moreItemTokens xs hxs x [] stack rest
  | .obj [], _, _, _ => rfl
  | .obj ((k, x) :: kvs), h, stack, rest => by
    obtain ⟨hnodup, _, hx, hkvs⟩ := h
    show run (.due (.field [] k :: stack)) ((tokens x ++ moreEntryTokens kvs) ++ [.closeObj] ++ rest) = _
    rw [List.append_assoc, List.append_assoc, run_tokens x hx]
    exact run_moreEntryTokens kvs hkvs x [] k stack rest hnodup
theorem run_moreItemTokens : ∀ xs : List (Tree σ), OverList ok xs →
    ∀ (v : Tree σ) (items : List (Tree σ)) (stack : List (Frame σ)) (rest : List (JsonToken σ)),
      run (.after v (.arr items :: stack)) (moreItemTokens xs ++ ([.closeArr] ++ rest)) =
        run (.after (.arr (items ++ v :: xs)) stack) rest
  | [], _, _, _, _, _ => rfl
  | x :: xs, h, v, items, stack, rest => by
    show run (.due (.arr (items ++ [v]) :: stack)) ((tokens x ++ moreItemTokens xs) ++ ([.closeArr] ++ rest)) = _
    rw [List.append_assoc, run_tokens x h.1, run_moreItemTokens xs h.2, List.append_assoc]
    rfl
theorem run_moreEntryTokens : ∀ kvs : List (σ × Tree σ), OverEntries ok kvs →
    ∀ (v : Tree σ) (entries : Dict σ (Tree σ)) (key : σ) (stack : List (Frame σ))
      (rest : List (JsonToken σ)), (Dict.keys (entries ++ (key, v) :: kvs)).Nodup →
      run (.after v (.field entries key :: stack)) (moreEntryTokens kvs ++ ([.closeObj] ++ rest)) =
        run (.after (.obj (entries ++ (key, v) :: kvs)) stack) rest
  | [], _, v, entries, key, stack, rest, hnodup => by
    have hset := Dict.foldl_set_of_nodup [(key, v)] entries hnodup
    show run (.after (.obj (entries.set key v)) stack) rest = _
    rw [← hset]
    rfl
  | (k, x) :: kvs, h, v, entries, key, stack, rest, hnodup => by
    have hsplit : (entries ++ [(key, v)]) ++ (k, x) :: kvs = entries ++ (key, v) :: (k, x) :: kvs := by simp
    have hnot : key ∉ entries.keys := by
      intro hmem
      rw [Dict.keys, List.map_append] at hnodup
      exact (List.nodup_append.mp hnodup).2.2 _ hmem _ List.mem_cons_self rfl
    show run (.due (.field (entries.set key v) k :: stack))
      ((tokens x ++ moreEntryTokens kvs) ++ ([.closeObj] ++ rest)) = _
    rw [List.append_assoc, run_tokens x h.2.1, Dict.set_of_notMem v hnot,
      run_moreEntryTokens kvs h.2.2 x _ k stack rest (hsplit ▸ hnodup), hsplit]
end

/-- **A tree whose objects repeat no key is read back from its tokens.** -/
theorem parse_tokens {v : Tree σ} (h : Over ok v) : parse (tokens v) = some v := by
  rw [parse_eq_some, ← List.append_nil (tokens v), run_tokens v h]
  rfl

end

/-! ## What is read is made of what was there -/

section
variable {ok : JsonToken σ → Prop}

/-- An open container holds finished trees over `ok` only. -/
def FrameOver (ok : JsonToken σ → Prop) : Frame σ → Prop
  | .arr items         => OverList ok items
  | .field entries key => Over ok (.obj entries) ∧ ok (.str key)

/-- What a state holds is over `ok`. -/
def StateOver (ok : JsonToken σ → Prop) : State σ → Prop
  | .due stack | .itemOrClose stack | .keyOrClose stack => ∀ f ∈ stack, FrameOver ok f
  | .key entries stack       => Over ok (.obj entries) ∧ ∀ f ∈ stack, FrameOver ok f
  | .colon entries key stack => (Over ok (.obj entries) ∧ ok (.str key)) ∧ ∀ f ∈ stack, FrameOver ok f
  | .after v stack           => Over ok v ∧ ∀ f ∈ stack, FrameOver ok f

theorem over_nil_obj : Over ok (.obj ([] : Dict σ (Tree σ))) := ⟨List.nodup_nil, trivial⟩

theorem overList_concat {items : List (Tree σ)} {v : Tree σ} (hitems : OverList ok items)
    (hv : Over ok v) : OverList ok (items ++ [v]) := by
  rw [overList_iff] at hitems ⊢
  intro x hx
  rcases List.mem_append.mp hx with hx | hx
  · exact hitems x hx
  · rw [List.mem_singleton.mp hx]
    exact hv

/-- Starting a value keeps what the state holds over `ok`. -/
theorem startValue_over {stack : List (Frame σ)} {t : JsonToken σ} {s : State σ} (ht : ok t)
    (hstack : ∀ f ∈ stack, FrameOver ok f) (h : startValue stack t = some s) : StateOver ok s := by
  cases t with
  | openObj | openArr =>
    cases h
    exact hstack
  | str k =>
    cases h
    exact ⟨ht, hstack⟩
  | atom a =>
    cases h
    exact ⟨over_ofAtom.mpr ht, hstack⟩
  | closeObj | closeArr | colon | comma => cases h

variable [DecidableEq σ]

theorem over_set {entries : Dict σ (Tree σ)} {key : σ} {v : Tree σ} (hentries : Over ok (.obj entries))
    (hkey : ok (.str key)) (hv : Over ok v) : Over ok (.obj (entries.set key v)) := by
  obtain ⟨hnodup, hall⟩ := hentries
  refine ⟨Dict.nodup_keys_set hnodup, ?_⟩
  rw [overEntries_iff] at hall ⊢
  intro kv hkv
  rcases Dict.mem_set hkv with hkv | rfl
  · exact hall kv hkv
  · exact ⟨hkey, hv⟩

/-- Finishing a value keeps what the state holds over `ok`. -/
theorem finishValue_over {v : Tree σ} {stack : List (Frame σ)} {t : JsonToken σ} {s : State σ}
    (hv : Over ok v) (hstack : ∀ f ∈ stack, FrameOver ok f) (h : finishValue v stack t = some s) :
    StateOver ok s := by
  cases stack with
  | nil => cases h
  | cons f stack =>
    have hf := hstack f List.mem_cons_self
    have hrest : ∀ g ∈ stack, FrameOver ok g := fun g hg => hstack g (List.mem_cons_of_mem _ hg)
    cases f with
    | arr items =>
      have hitems : OverList ok (items ++ [v]) := overList_concat hf hv
      cases t with
      | comma =>
        cases h
        intro g hg
        rcases List.mem_cons.mp hg with rfl | hg
        · exact hitems
        · exact hrest g hg
      | closeArr =>
        cases h
        exact ⟨hitems, hrest⟩
      | openObj | openArr | closeObj | colon | str | atom => cases h
    | field entries key =>
      have hset : Over ok (.obj (entries.set key v)) := over_set hf.1 hf.2 hv
      cases t with
      | comma =>
        cases h
        exact ⟨hset, hrest⟩
      | closeObj =>
        cases h
        exact ⟨hset, hrest⟩
      | openObj | openArr | closeArr | colon | str | atom => cases h

/-- One token keeps what the state holds over `ok`. -/
theorem step_over {s s' : State σ} {t : JsonToken σ} (ht : ok t) (hs : StateOver ok s)
    (h : step s t = some s') : StateOver ok s' := by
  cases s with
  | due stack => exact startValue_over ht hs h
  | itemOrClose stack =>
    have hempty : ∀ f ∈ Frame.arr [] :: stack, FrameOver ok f := by
      intro f hf
      rcases List.mem_cons.mp hf with rfl | hf
      · exact trivial
      · exact hs f hf
    by_cases hclose : t = .closeArr
    · subst hclose
      cases h
      exact ⟨trivial, hs⟩
    · rw [step_itemOrClose stack hclose] at h
      exact startValue_over ht hempty h
  | keyOrClose stack =>
    cases t with
    | closeObj =>
      cases h
      exact ⟨over_nil_obj, hs⟩
    | str k =>
      cases h
      exact ⟨⟨over_nil_obj, ht⟩, hs⟩
    | openObj | openArr | closeArr | colon | comma | atom => cases h
  | key entries stack =>
    cases t with
    | str k =>
      cases h
      exact ⟨⟨hs.1, ht⟩, hs.2⟩
    | openObj | openArr | closeArr | closeObj | colon | comma | atom => cases h
  | colon entries key stack =>
    cases t with
    | colon =>
      cases h
      intro f hf
      rcases List.mem_cons.mp hf with rfl | hf
      · exact hs.1
      · exact hs.2 f hf
    | openObj | openArr | closeArr | closeObj | comma | str | atom => cases h
  | after v stack => exact finishValue_over hs.1 hs.2 h

/-- Reading tokens over `ok` keeps what the state holds over `ok`. -/
theorem run_over {toks : List (JsonToken σ)} {s s' : State σ} (htoks : ∀ t ∈ toks, ok t)
    (hs : StateOver ok s) (h : run s toks = some s') : StateOver ok s' := by
  induction toks generalizing s with
  | nil =>
    cases h
    exact hs
  | cons t toks ih =>
    rw [run_cons] at h
    obtain ⟨s₁, hstep, hrun⟩ := Option.bind_eq_some_iff.mp h
    exact ih (fun t' ht' => htoks t' (List.mem_cons_of_mem _ ht'))
      (step_over (htoks t List.mem_cons_self) hs hstep) hrun

/-- **A tree that is read is over the tokens it was read from.** -/
theorem parse_over {toks : List (JsonToken σ)} {v : Tree σ} (htoks : ∀ t ∈ toks, ok t)
    (h : parse toks = some v) : Over ok v :=
  (run_over htoks (s := .due []) (fun _ hf => absurd hf List.not_mem_nil) (parse_eq_some.mp h)).1

end

/-! ## The first token decides what kind of value is read -/

/-- The kind of a container: an object or not; no kind for other values. -/
def kind : Tree σ → Option Bool
  | .obj _ => some true
  | .arr _ => some false
  | _      => none

/-- The kind of an open container. -/
def Frame.kind : Frame σ → Bool
  | .arr _     => false
  | .field _ _ => true

/-- The kind of the outermost container, from the stack and, when that is empty, what is open above it. -/
def outer (top : Option Bool) (stack : List (Frame σ)) : Option Bool := (stack.getLast?.map Frame.kind).or top

/-- The kind of the document a state is reading, once it is known to be a container. -/
def State.kind : State σ → Option Bool
  | .due stack         => outer none stack
  | .itemOrClose stack => outer (some false) stack
  | .keyOrClose stack  => outer (some true) stack
  | .key _ stack       => outer (some true) stack
  | .colon _ _ stack   => outer (some true) stack
  | .after v stack     => outer (JsonGrammar.kind v) stack

theorem outer_cons (top : Option Bool) (f : Frame σ) (stack : List (Frame σ)) :
    outer top (f :: stack) = outer (some f.kind) stack := by
  cases stack with
  | nil => rfl
  | cons g stack =>
    unfold outer
    rw [List.getLast?_cons_cons, List.getLast?_cons]
    rfl

theorem outer_mono {top top' : Option Bool} {stack : List (Frame σ)} {b : Bool}
    (htop : ∀ b, top = some b → top' = some b) (h : outer top stack = some b) :
    outer top' stack = some b := by
  unfold outer at h ⊢
  cases hlast : stack.getLast? with
  | none =>
    rw [hlast] at h
    exact htop b h
  | some f =>
    rw [hlast] at h
    exact h

theorem startValue_kind {stack : List (Frame σ)} {t : JsonToken σ} {s : State σ} {b : Bool}
    (hkind : outer none stack = some b) (h : startValue stack t = some s) : s.kind = some b := by
  cases t with
  | openObj | openArr | str | atom =>
    cases h
    exact outer_mono (fun b hb => by cases hb) hkind
  | closeObj | closeArr | colon | comma => cases h

variable [DecidableEq σ]

/-- Reading goes on in the container the document is. -/
theorem step_kind {s s' : State σ} {t : JsonToken σ} {b : Bool} (hkind : s.kind = some b)
    (h : step s t = some s') : s'.kind = some b := by
  cases s with
  | due stack => exact startValue_kind hkind h
  | itemOrClose stack =>
    by_cases hclose : t = .closeArr
    · subst hclose
      cases h
      exact hkind
    · rw [step_itemOrClose stack hclose] at h
      exact startValue_kind ((outer_cons none (.arr []) stack).trans hkind) h
  | keyOrClose stack =>
    cases t with
    | closeObj | str =>
      cases h
      exact hkind
    | openObj | openArr | closeArr | colon | comma | atom => cases h
  | key entries stack =>
    cases t with
    | str k =>
      cases h
      exact hkind
    | openObj | openArr | closeArr | closeObj | colon | comma | atom => cases h
  | colon entries key stack =>
    cases t with
    | colon =>
      cases h
      exact (outer_cons none (.field entries key) stack).trans hkind
    | openObj | openArr | closeArr | closeObj | comma | str | atom => cases h
  | after v stack =>
    cases stack with
    | nil => cases h
    | cons f stack =>
      rw [State.kind, outer_cons] at hkind
      cases f with
      | arr items =>
        cases t with
        | comma =>
          cases h
          exact (outer_cons none (.arr _) stack).trans hkind
        | closeArr =>
          cases h
          exact hkind
        | openObj | openArr | closeObj | colon | str | atom => cases h
      | field entries key =>
        cases t with
        | comma | closeObj =>
          cases h
          exact hkind
        | openObj | openArr | closeArr | colon | str | atom => cases h

theorem run_kind {toks : List (JsonToken σ)} {s s' : State σ} {b : Bool} (hkind : s.kind = some b)
    (h : run s toks = some s') : s'.kind = some b := by
  induction toks generalizing s with
  | nil =>
    cases h
    exact hkind
  | cons t toks ih =>
    rw [run_cons] at h
    obtain ⟨s₁, hstep, hrun⟩ := Option.bind_eq_some_iff.mp h
    exact ih (step_kind hkind hstep) hrun

/-- **A document that starts with an opening brace is an object.** -/
theorem kind_of_openObj {toks : List (JsonToken σ)} {v : Tree σ} (h : parse (.openObj :: toks) = some v) :
    kind v = some true := by
  have hrun := parse_eq_some.mp h
  rw [run_cons] at hrun
  exact run_kind (s := .keyOrClose []) rfl hrun

/-- **A document that starts with an opening bracket is an array.** -/
theorem kind_of_openArr {toks : List (JsonToken σ)} {v : Tree σ} (h : parse (.openArr :: toks) = some v) :
    kind v = some false := by
  have hrun := parse_eq_some.mp h
  rw [run_cons] at hrun
  exact run_kind (s := .itemOrClose []) rfl hrun

/-- A document that is an object or an array starts with an opening brace or bracket. -/
theorem open_of_kind {t : JsonToken σ} {toks : List (JsonToken σ)} {v : Tree σ} {b : Bool}
    (h : parse (t :: toks) = some v) (hkind : kind v = some b) : t = .openObj ∨ t = .openArr := by
  have hrun := parse_eq_some.mp h
  rw [run_cons] at hrun
  obtain ⟨s, hstep, hrun⟩ := Option.bind_eq_some_iff.mp hrun
  cases t with
  | openObj => exact .inl rfl
  | openArr => exact .inr rfl
  | closeObj | closeArr | colon | comma => cases hstep
  | str k =>
    cases hstep
    cases toks with
    | nil =>
      cases hrun
      cases hkind
    | cons t' toks => cases hrun
  | atom a =>
    cases hstep
    cases toks with
    | nil =>
      cases hrun
      cases a <;> cases hkind
    | cons t' toks => cases hrun

end JsonGrammar
