import RideTheApi.Engine.StateStore
import RideTheApi.Lib.Except
import RideTheApi.Py.Interp

/-!
# `Engine.Source` — reading and writing nested values by path

Sources (`request.body.x`, `state.mode`, `constant.on`) are read from the request, the state store or the
mapping itself; targets are paths into the response body. A value is copied where Python shares it: a
mapping that writes inside what an earlier mapping wrote does not reach back into the request.
-/

namespace RideTheApi.Engine

open Py

/-- What the engine takes from outside the repository: the interpreter, `dpath.get` and the evaluation
    of a formula's text by `ast` and `simpleeval`. -/
structure Host extends Interp where
  dpathGet : Json → Str → Result Json
  evaluate : Str → Result Json
  uuid4 : Nat → Str

/-- A host for concrete runs: ASCII, no bracket paths, no formulas. -/
def asciiHost : Host where
  toInterp := asciiInterp
  dpathGet _ _ := .error .keyError
  evaluate _ := .error .valueError
  uuid4 _ := str "0"

/-- `dot_to_dpath`: dot/bracket notation to dpath slash notation. -/
def dotToDpath (path : Str) : Str :=
  let p : Str := path.dropWhile (· == cp '$')
  let p : Str := (p.replace (cp '[') (cp '/')).filter (· != cp ']')
  p.replace (cp '.') (cp '/')

/-- Clean the `$.` prefix from a dot-path and split it into segments. -/
def splitCleanPath (path : Str) : List Str :=
  let clean : Str := if path.startsWith "$." then path.drop 2 else path
  if clean ≠ [] ∧ clean ≠ str "$" then clean.split (cp '.') else []

/-- `p.isdigit() and int(p) < n`, with the index. -/
def listIndex (I : Interp) (p : Str) (n : Nat) : Result (Option Nat) :=
  if I.strIsDigit p then (I.parseDigits p).map fun i => if i < n then some i else none else .ok none

/-! ## Reading -/

/-- Follow the segments of a dot-path. -/
def followPath (I : Interp) : List Str → Json → Result Json
  | [],      curr     => .ok curr
  | p :: ps, .obj kvs => followPath I ps ((Dict.get? kvs p).getD .null)
  | p :: ps, .arr xs  =>
    if I.strIsDigit p then do
      let i ← listIndex I p xs.length
      followPath I ps ((i.bind fun i => xs[i]?).getD .null)
    else .ok .null
  | _ :: _,  _        => .ok .null

/-- Resolve a path like `commands[0].value` in a JSON object. -/
def resolveJsonPath (H : Host) (obj : Json) (path : Str) : Result Json :=
  if path = [] ∨ path = str "$" then .ok obj
  else if !path.includes "[" then followPath H.toInterp (splitCleanPath path) obj
  else match H.dpathGet obj (dotToDpath path) with
    | .error .keyError | .error .typeError | .error .indexError => .ok .null
    | r => r

/-- Resolve a source reference like `request.body.x.y` or `state.varname`. -/
def resolveSource (H : Host) (source : Str) (request : Json) (store : DeviceStateStore) : Result Json :=
  if source.startsWith "request." then resolveJsonPath H request (source.drop 8)
  else if source.startsWith "state." then .ok (store.get (source.drop 6) .null)
  else if source.startsWith "constant." then .ok (.str (source.drop 9))
  else .ok .null

/-! ## Writing -/

section
variable {σ τ : Type}

/-- Write at the end of a path, creating missing dict levels. A shape the body does not have makes the
    write a no-op. -/
def setAt (I : Interp) : List Str → JsonTree Str σ → JsonTree Str σ → Result (JsonTree Str σ)
  | [],             obj, _ => .ok obj
  | [last],         obj, v =>
    match obj with
    | .obj kvs => .ok (.obj (Dict.set kvs last v))
    | .arr xs  => (listIndex I last xs.length).map fun i => .arr ((i.map fun i => xs.set i v).getD xs)
    | obj      => .ok obj
  | p :: q :: rest, obj, v =>
    match obj with
    | .obj kvs =>
      match (Dict.get? kvs p).getD .null with
      | .null    => (setAt I (q :: rest) (.obj []) v).map fun nxt => .obj (Dict.set kvs p nxt)
      | .obj kvs' => (setAt I (q :: rest) (.obj kvs') v).map fun nxt => .obj (Dict.set kvs p nxt)
      | .arr xs  => (setAt I (q :: rest) (.arr xs) v).map fun nxt => .obj (Dict.set kvs p nxt)
      | _        => .ok (.obj kvs)
    | .arr xs  => do
      let i ← listIndex I p xs.length
      match i.bind fun i => xs[i]? with
      | some x => (setAt I (q :: rest) x v).map fun x' => .arr ((i.map fun i => xs.set i x').getD xs)
      | none   => .ok (.arr xs)
    | obj      => .ok obj

/-- The segments of a target path. -/
def targetParts (path : Str) : List Str :=
  if path.includes "[" then ((dotToDpath path).split (cp '/')).filter fun p => !p.isEmpty
  else splitCleanPath path

/-- Set a value at a dot/bracket path, creating missing dict levels. -/
def setNested (I : Interp) (d : JsonTree Str σ) (path : Str) (value : JsonTree Str σ) :
    Result (JsonTree Str σ) :=
  setAt I (targetParts path) d value

/-- Writing only looks at the shape of the body: it commutes with relabelling the strings. -/
theorem setAt_map (I : Interp) (f : σ → τ) (parts : List Str) (obj v : JsonTree Str σ) :
    setAt I parts (obj.map f) (v.map f) = (setAt I parts obj v).map (JsonTree.map f) := by
  induction parts generalizing obj with
  | nil => cases obj <;> rfl
  | cons p ps ih =>
    cases ps with
    | nil =>
      cases obj with
      | obj kvs =>
        show Except.ok (JsonTree.obj (Dict.set (JsonTree.mapEntries f kvs) p (v.map f))) = _
        rw [JsonTree.mapEntries_eq, Dict.set_mapValues, ← JsonTree.mapEntries_eq]
        rfl
      | arr xs =>
        show (listIndex I p (JsonTree.mapList f xs).length).map _ = _
        rw [JsonTree.mapList_eq, List.length_map]
        cases hi : listIndex I p xs.length with
        | error e => simp [setAt, hi, Except.map]
        | ok i => cases i <;> simp [setAt, hi, Except.map, JsonTree.map, JsonTree.mapList_eq, List.map_set]
      | _ => rfl
    | cons q rest =>
      cases obj with
      | obj kvs =>
        have hset : ∀ nxt : JsonTree Str σ,
            JsonTree.obj (Dict.set (JsonTree.mapEntries f kvs) p (nxt.map f)) =
              (JsonTree.obj (Dict.set kvs p nxt)).map f := by
          intro nxt
          rw [JsonTree.mapEntries_eq, Dict.set_mapValues, JsonTree.map, JsonTree.mapEntries_eq]
        have hget : (Dict.get? (JsonTree.mapEntries f kvs) p).getD .null =
            ((Dict.get? kvs p).getD .null).map f := by
          rw [JsonTree.mapEntries_eq, Dict.get?_mapValues]
          cases Dict.get? kvs p <;> rfl
        -- below a missing or a null value the walk goes on in a fresh object
        have hinto : ∀ nxt : JsonTree Str σ,
            ((setAt I (q :: rest) (nxt.map f) (v.map f)).map fun nxt =>
              JsonTree.obj (Dict.set (JsonTree.mapEntries f kvs) p nxt)) =
            ((setAt I (q :: rest) nxt v).map fun nxt => JsonTree.obj (Dict.set kvs p nxt)).map
              (JsonTree.map f) := by
          intro nxt
          rw [ih]
          cases setAt I (q :: rest) nxt v with
          | error e => rfl
          | ok t => exact congrArg Except.ok (hset t)
        simp only [JsonTree.map, setAt, hget]
        cases (Dict.get? kvs p).getD .null with
        | null => exact hinto (.obj [])
        | obj kvs' => exact hinto (.obj kvs')
        | arr xs => exact hinto (.arr xs)
        | _ => rfl
      | arr xs =>
        simp only [JsonTree.map, setAt, JsonTree.mapList_eq, List.length_map, List.getElem?_map]
        cases hi : listIndex I p xs.length with
        | error e => rfl
        | ok i =>
          cases i with
          | none => simp [Except.map, JsonTree.map, JsonTree.mapList_eq]
          | some i =>
            cases hx : xs[i]? with
            | none => simp [hx, Except.map, JsonTree.map, JsonTree.mapList_eq]
            | some x =>
              simp only [Except.ok_bind, Option.bind_some, hx, Option.map_some, ih]
              cases setAt I (q :: rest) x v with
              | error e => rfl
              | ok t => simp [Except.map, JsonTree.map, JsonTree.mapList_eq, List.map_set]
      | _ => rfl

theorem setNested_map (I : Interp) (f : σ → τ) (d : JsonTree Str σ) (path : Str)
    (value : JsonTree Str σ) :
    setNested I (d.map f) path (value.map f) = (setNested I d path value).map (JsonTree.map f) :=
  setAt_map I f _ d value

theorem mem_strings_obj {kvs : List (Str × JsonTree Str σ)} {s : σ} :
    s ∈ (JsonTree.obj kvs).strings ↔ ∃ kv ∈ kvs, s ∈ kv.2.strings := by
  show s ∈ JsonTree.stringsEntries kvs ↔ _
  rw [JsonTree.stringsEntries_eq, List.mem_flatMap]

theorem mem_strings_arr {xs : List (JsonTree Str σ)} {s : σ} :
    s ∈ (JsonTree.arr xs : JsonTree Str σ).strings ↔ ∃ x ∈ xs, s ∈ x.strings := by
  show s ∈ JsonTree.stringsList xs ↔ _
  rw [JsonTree.stringsList_eq, List.mem_flatMap]

/-- The strings after a write to a key: old ones, or those of the new value. -/
theorem strings_obj_set {kvs : List (Str × JsonTree Str σ)} {p : Str} {nxt : JsonTree Str σ} {s : σ}
    (hs : s ∈ (JsonTree.obj (Dict.set kvs p nxt)).strings) :
    s ∈ (JsonTree.obj kvs).strings ∨ s ∈ nxt.strings := by
  obtain ⟨kv, hkv, hmem⟩ := mem_strings_obj.mp hs
  rcases Dict.mem_set hkv with hkv | rfl
  · exact .inl (mem_strings_obj.mpr ⟨kv, hkv, hmem⟩)
  · exact .inr hmem

theorem strings_arr_set {xs : List (JsonTree Str σ)} {i : Nat} {x : JsonTree Str σ} {s : σ}
    (hs : s ∈ (JsonTree.arr (xs.set i x) : JsonTree Str σ).strings) :
    s ∈ (JsonTree.arr xs : JsonTree Str σ).strings ∨ s ∈ x.strings := by
  obtain ⟨y, hy, hmem⟩ := mem_strings_arr.mp hs
  rcases List.mem_or_eq_of_mem_set hy with hy | rfl
  · exact .inl (mem_strings_arr.mpr ⟨y, hy, hmem⟩)
  · exact .inr hmem

/-- A write brings in no string but those of the value. -/
theorem strings_setAt {I : Interp} {parts : List Str} {obj v obj' : JsonTree Str σ} {s : σ}
    (h : setAt I parts obj v = .ok obj') (hs : s ∈ obj'.strings) : s ∈ obj.strings ∨ s ∈ v.strings := by
  induction parts generalizing obj obj' with
  | nil =>
    cases h
    exact .inl hs
  | cons p ps ih =>
    cases ps with
    | nil =>
      cases obj with
      | obj kvs =>
        cases h
        exact strings_obj_set hs
      | arr xs =>
        obtain ⟨i, _, rfl⟩ := Except.map_ok_iff.mp h
        cases i with
        | none => exact .inl hs
        | some i => exact strings_arr_set hs
      | _ =>
        cases h
        exact .inl hs
    | cons q rest =>
      cases obj with
      | obj kvs =>
        -- the write goes on inside `nxt`, whose strings are the body's
        have hinto : ∀ {nxt : JsonTree Str σ}, (∀ s ∈ nxt.strings, s ∈ (JsonTree.obj kvs).strings) →
            ((setAt I (q :: rest) nxt v).map fun nxt => JsonTree.obj (Dict.set kvs p nxt)) = .ok obj' →
            s ∈ (JsonTree.obj kvs).strings ∨ s ∈ v.strings := by
          intro nxt hsub h
          obtain ⟨nxt', hnxt, rfl⟩ := Except.map_ok_iff.mp h
          rcases strings_obj_set hs with hs | hs
          · exact .inl hs
          · exact (ih hnxt hs).imp_left (hsub s)
        have hget : ∀ {nxt : JsonTree Str σ}, nxt ≠ .null → (Dict.get? kvs p).getD .null = nxt →
            ∀ s ∈ nxt.strings, s ∈ (JsonTree.obj kvs).strings := by
          intro nxt hne heq s hs
          cases hk : Dict.get? kvs p with
          | none => exact absurd (by rw [← heq, hk]; rfl) hne
          | some x =>
            rw [hk] at heq
            exact mem_strings_obj.mpr ⟨(p, x), Dict.mem_of_get? hk, by rw [show x = nxt from heq]; exact hs⟩
        simp only [setAt] at h
        cases hnxt : (Dict.get? kvs p).getD .null with
        | null =>
          have hnone : ∀ s ∈ (JsonTree.obj [] : JsonTree Str σ).strings, s ∈ (JsonTree.obj kvs).strings := by
            simp [JsonTree.strings, JsonTree.stringsEntries]
          exact hinto hnone (by simpa [hnxt] using h)
        | obj kvs' => exact hinto (hget (by simp) hnxt) (by simpa [hnxt] using h)
        | arr xs => exact hinto (hget (by simp) hnxt) (by simpa [hnxt] using h)
        | _ =>
          simp only [hnxt] at h
          cases h
          exact .inl hs
      | arr xs =>
        obtain ⟨i, _, h⟩ := Except.bind_ok_iff.mp h
        split at h
        next x hx =>
          obtain ⟨x', hx', rfl⟩ := Except.map_ok_iff.mp h
          cases i with
          | none => exact .inl hs
          | some i =>
            rcases strings_arr_set hs with hs | hs
            · exact .inl hs
            · refine (ih hx' hs).imp_left fun hs => mem_strings_arr.mpr ⟨x, ?_, hs⟩
              exact List.mem_of_getElem? (by simpa using hx)
        next =>
          cases h
          exact .inl hs
      | _ =>
        cases h
        exact .inl hs

end

end RideTheApi.Engine
