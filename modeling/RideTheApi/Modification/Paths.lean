import RideTheApi.Engine.Source
import RideTheApi.Lib.JsonLocation

/-!
# `Modification.Paths` — reading, writing and deleting by path

The three walks of a modification rule: `_get_json_path`, `_set_json_path` and `_delete_json_path`. The
writing ones return what they answer and the body they leave, so that a write that fails half-way would
show. Text with no segments goes to `dpath`.
-/

namespace RideTheApi.Modification

open Py Engine

/-- Whether some dict of the value has the empty key. -/
def emptyKey (v : Json) : Bool := v.entries.any fun kv => kv.1.isEmpty

/-- `dpath`, as far as paths without brackets reach it: the texts with no segments. Its walk refuses a
    tree with an empty key. -/
structure Dpath extends Interp where
  get : Json → Str → Result Json
  new : Json → Str → Json → Result Unit × Json
  get_root : ∀ obj, get obj [] = .ok obj ∧ get obj (str "/") = .ok obj
  get_dollar : ∀ obj, get obj (str "/$") =
    if emptyKey obj then .error .other
    else match obj with
      | .obj kvs => match Dict.get? kvs (str "$") with
        | some v => .ok v
        | none   => .error .keyError
      | _        => .error .keyError
  new_name : ∀ obj name v, name = [] ∨ name = str "$" → new obj (cp '/' :: name) v =
    match obj with
    | .obj kvs => (.ok (), .obj (Dict.set kvs name v))
    | obj      => (.error .typeError, obj)

/-- What a rule keeps of its `match_field_path`; `_field_path_parts` is split once, in `__post_init__`. -/
structure ModificationRule where
  matchFieldPath : Option Str
  fieldPathParts : Option (List Str)
  postInit : fieldPathParts = matchFieldPath.bind fun path =>
    if path ≠ [] ∧ path.includes "[" = false ∧ splitCleanPath path ≠ [] then some (splitCleanPath path) else none

/-- What `__post_init__` leaves of a rule without a path. -/
theorem none_postInit : (none : Option (List Str)) = (none : Option Str).bind fun path =>
    if path ≠ [] ∧ path.includes "[" = false ∧ splitCleanPath path ≠ [] then some (splitCleanPath path) else none := rfl

/-- The segments a rule reads a path into. -/
def ModificationRule.parts (rule : ModificationRule) (path : Str) : Option (List Str) :=
  match if rule.matchFieldPath = some path then rule.fieldPathParts else none with
  | some parts => some parts
  | none =>
    if path.includes "[" = false ∧ splitCleanPath path ≠ [] then some (splitCleanPath path) else none

/-- The exceptions of `dpath` that count as an absent path. -/
def caught : Exn → Bool
  | .keyError | .typeError | .indexError => true
  | _ => false

variable (D : Dpath) (rule : ModificationRule)

/-- A read by `dpath`. -/
def Dpath.read (obj : Json) (path : Str) : Result Json :=
  match D.get obj (dotToDpath path) with
  | .error e => if caught e then .ok .null else .error e
  | .ok v    => .ok v

/-- A write by `dpath`. -/
def Dpath.write (obj : Json) (path : Str) (value : Json) : Result Bool × Json :=
  match D.new obj (dotToDpath path) value with
  | (.error e, obj') => (if caught e then .ok false else .error e, obj')
  | (.ok (), obj')   => (.ok true, obj')

/-- `_get_json_path`. -/
def getJsonPath (obj : Json) (path : Str) : Result Json :=
  if !obj.truthy then .ok .null
  else if path = str "$" then .ok obj
  else match rule.parts path with
    | some parts => followPath D.toInterp parts obj
    | none       => D.read obj path

/-- The dict or list the write goes on in; a missing or null level becomes a dict. -/
def nextLevel : Json → Option Json
  | .null    => some (.obj [])
  | .obj kvs => some (.obj kvs)
  | .arr xs  => some (.arr xs)
  | _        => none

/-- The loop of `_set_json_path`. -/
def setWalk (I : Interp) (value : Json) : List Str → Json → Result Bool × Json
  | [],             obj => (.ok false, obj)
  | [last],         obj =>
    match obj with
    | .obj kvs => (.ok true, .obj (Dict.set kvs last value))
    | .arr xs  =>
      match listIndex I last xs.length with
      | .ok (some i) => (.ok true, .arr (xs.set i value))
      | .ok none     => (.ok false, .arr xs)
      | .error e     => (.error e, .arr xs)
    | obj      => (.ok false, obj)
  | p :: q :: rest, obj =>
    match obj with
    | .obj kvs =>
      match nextLevel ((Dict.get? kvs p).getD .null) with
      | some nxt => (setWalk I value (q :: rest) nxt).map id fun nxt => .obj (Dict.set kvs p nxt)
      | none     => (.ok false, .obj kvs)
    | .arr xs  =>
      match listIndex I p xs.length with
      | .ok (some i) => (setWalk I value (q :: rest) (xs[i]?.getD .null)).map id fun x => .arr (xs.set i x)
      | .ok none     => (.ok false, .arr xs)
      | .error e     => (.error e, .arr xs)
    | obj      => (.ok false, obj)

/-- `_set_json_path`. -/
def setJsonPath (obj : Json) (path : Str) (value : Json) : Result Bool × Json :=
  if obj.truthy = false ∨ path = [] ∨ path = str "$" then (.ok false, obj)
  else match rule.parts path with
    | some parts => setWalk D.toInterp value parts obj
    | none       => D.write obj path value

/-- The segments `_delete_json_path` reads a path into. -/
def deleteParts (path : Str) : List Str :=
  if path = [] then [] else (Str.split (cp '/') (dotToDpath path)).filter fun p => !p.isEmpty

/-- The loop of `_delete_json_path`. -/
def deleteWalk (I : Interp) : List Str → Json → Result Bool × Json
  | [],                obj => (.ok false, obj)
  | [last],            obj =>
    match obj with
    | .obj kvs => if Dict.has kvs last then (.ok true, .obj (Dict.erase kvs last)) else (.ok false, .obj kvs)
    | .arr xs  =>
      match listIndex I last xs.length with
      | .ok (some i) => (.ok true, .arr (xs.eraseIdx i))
      | .ok none     => (.ok false, .arr xs)
      | .error e     => (.error e, .arr xs)
    | obj      => (.ok false, obj)
  | part :: q :: rest, obj =>
    match obj with
    | .obj kvs =>
      -- `parent.get(part)` is None where the key is missing, and nothing is below that
      match Dict.get? kvs part with
      | some x => (deleteWalk I (q :: rest) x).map id fun x => .obj (Dict.set kvs part x)
      | none   => (.ok false, .obj kvs)
    | .arr xs  =>
      match listIndex I part xs.length with
      | .ok (some i) => (deleteWalk I (q :: rest) (xs[i]?.getD .null)).map id fun x => .arr (xs.set i x)
      | .ok none     => (.ok false, .arr xs)
      | .error e     => (.error e, .arr xs)
    | obj      => (.ok false, obj)

/-- `_delete_json_path`. -/
def deleteJsonPath (I : Interp) (obj : Json) (path : Str) : Result Bool × Json :=
  if obj.truthy = false ∨ deleteParts path = [] then (.ok false, obj) else deleteWalk I (deleteParts path) obj

/-! ## Addresses -/

open JsonTree (Step child subtreeAt setChild dropChild SameOff Removed)

/-- The step a segment names in a container. -/
def stepOf (I : Interp) (p : Str) : Json → Result (Option (Step Str))
  | .obj _  => .ok (some (.key p))
  | .arr xs => (listIndex I p xs.length).map fun i => i.map .index
  | _       => .ok none

/-- The location segments name in a body, where it has it. -/
def address (I : Interp) : List Str → Json → Result (Option (List (Step Str)))
  | [],      _ => .ok (some [])
  | p :: ps, t =>
    match stepOf I p t with
    | .error e       => .error e
    | .ok none       => .ok none
    | .ok (some s) =>
      match child s t with
      | none   => .ok none
      | some c => (address I ps c).map fun loc => loc.map (s :: ·)

/-- The field of the body that segments name; the body itself is no field. -/
def field (I : Interp) (parts : List Str) (body : Json) : Result (Option (List (Step Str))) :=
  if parts = [] then .ok none else address I parts body

/-- The segments of a path, as reading and writing take it. One text is cleaned to `$` without being it,
    and `dpath` takes it for the key. -/
def segments (path : Str) : List Str := if path = str "$.$" then [str "$"] else splitCleanPath path

variable {D rule}

theorem parts_eq {path : Str} (h : path.includes "[" = false) :
    rule.parts path = if splitCleanPath path ≠ [] then some (splitCleanPath path) else none := by
  unfold ModificationRule.parts
  by_cases hm : rule.matchFieldPath = some path
  · rw [if_pos hm, rule.postInit, hm, Option.bind_some]
    by_cases hs : splitCleanPath path = []
    · simp [hs]
    · have hne : path ≠ [] := by
        rintro rfl
        exact hs rfl
      simp [hs, hne, h]
  · simp [hm, h]

/-! ## What each walk does, said by the address -/

section
variable {I : Interp} {value : Json} {p : Str} {ps : List Str} {s : Step Str} {t c : Json}

/-- An index that is named is in the list. -/
theorem listIndex_lt {n i : Nat} (h : listIndex I p n = .ok (some i)) : i < n := by
  unfold listIndex at h
  split at h
  · obtain ⟨j, -, hj⟩ := Except.map_ok_iff.mp h
    split at hj
    · cases hj
      assumption
    · cases hj
  · cases h

theorem stepOf_setChild : stepOf I p (setChild s c t) = stepOf I p t := by
  cases s with
  | key k => cases t <;> rfl
  | index i =>
    cases t with
    | arr xs => simp only [setChild, stepOf, List.length_set]
    | _ => rfl

theorem address_cons (hs : stepOf I p t = .ok (some s)) (hc : child s t = some c) :
    address I (p :: ps) t = (address I ps c).map fun loc => loc.map (s :: ·) := by
  simp only [address, hs, hc]

/-- Where an entry of a dict is named. -/
theorem address_obj {kvs : List (Str × Json)} (hk : Dict.get? kvs p = some c) :
    stepOf I p (.obj kvs) = .ok (some (.key p)) ∧ child (.key p) (.obj kvs) = some c := ⟨rfl, hk⟩

/-- Where an item of a list is named. -/
theorem address_arr {xs : List Json} {i : Nat} (hi : listIndex I p xs.length = .ok (some i)) :
    stepOf I p (.arr xs) = .ok (some (.index i)) ∧ child (.index i) (.arr xs) = some (xs[i]?.getD .null) := by
  refine ⟨by rw [stepOf, hi]; rfl, ?_⟩
  have hlt := listIndex_lt hi
  show xs[i]? = _
  rw [List.getElem?_eq_getElem hlt, Option.getD_some]

/-- The location segments name is in the body. -/
theorem subtreeAt_of_address {loc : List (Step Str)} (h : address I ps t = .ok (some loc)) :
    ∃ c, subtreeAt loc t = some c := by
  induction ps generalizing t loc with
  | nil =>
    cases h
    exact ⟨t, rfl⟩
  | cons p ps ih =>
    rw [address] at h
    split at h
    · cases h
    · cases h
    next s hs =>
      split at h
      · cases h
      next c hc =>
        obtain ⟨a, ha, hloc⟩ := Except.map_ok_iff.mp h
        cases a with
        | none => cases hloc
        | some l =>
          cases hloc
          obtain ⟨u, hu⟩ := ih ha
          refine ⟨u, ?_⟩
          rw [subtreeAt, hc]
          exact hu

theorem followPath_null : followPath I ps .null = .ok .null := by cases ps <;> rfl

/-- **Reading** gives what is at the address, or null where the body has no such place. -/
theorem followPath_eq : followPath I ps t = (address I ps t).map fun a => (a.bind (subtreeAt · t)).getD .null := by
  induction ps generalizing t with
  | nil => rfl
  | cons p ps ih =>
    have hinto : ∀ {s c}, stepOf I p t = .ok (some s) → child s t = some c →
        followPath I ps c = (address I (p :: ps) t).map fun a => (a.bind (subtreeAt · t)).getD .null := by
      intro s c hs hc
      rw [ih, address_cons hs hc]
      cases address I ps c with
      | error e => rfl
      | ok a =>
        cases a with
        | none => rfl
        | some loc =>
          show _ = Except.ok ((subtreeAt (s :: loc) t).getD .null)
          rw [subtreeAt, hc]
          rfl
    cases t with
    | obj kvs =>
      cases hk : Dict.get? kvs p with
      | none =>
        have hnone : address I (p :: ps) (.obj kvs) = .ok none := by simp only [address, stepOf, child, hk]
        rw [followPath, hk, hnone]
        exact followPath_null
      | some c =>
        rw [followPath, hk]
        exact hinto rfl hk
    | arr xs =>
      rw [followPath]
      by_cases hd : I.strIsDigit p = true
      · rw [if_pos hd]
        cases hi : listIndex I p xs.length with
        | error e => simp only [address, stepOf, hi, Except.map, Except.error_bind]
        | ok i =>
          cases i with
          | none =>
            have hnone : address I (p :: ps) (.arr xs) = .ok none := by simp only [address, stepOf, hi, Except.map, Option.map_none]
            rw [hnone]
            exact followPath_null
          | some i =>
            obtain ⟨hs, hc⟩ := address_arr hi
            exact hinto hs hc
      · rw [if_neg hd]
        have hi : listIndex I p xs.length = .ok none := if_neg hd
        simp only [address, stepOf, hi, Except.map, Option.map_none, Option.bind_none, Option.getD_none]
    | _ => rfl

/-- What `setWalk` can have done. -/
inductive SetDid (I : Interp) (value : Json) (ps : List Str) (t : Json) : Result Bool × Json → Prop where
  | raised {e : Exn} (h : address I ps t = .error e) : SetDid I value ps t (.error e, t)
  | refused {a : Option (List (Step Str))} (h : address I ps t = .ok a) : SetDid I value ps t (.ok false, t)
  | done {a : Option (List (Step Str))} {t' : Json} {loc : List (Step Str)} (h : address I ps t = .ok a)
      (hloc : address I ps t' = .ok (some loc)) (hvalue : subtreeAt loc t' = some value) (hoff : SameOff loc t t') :
      SetDid I value ps t (.ok true, t')

/-- A write inside a child, seen from its parent. -/
theorem SetDid.cons {r : Result Bool × Json} (hs : stepOf I p t = .ok (some s)) (hc : child s t = some c)
    (h : SetDid I value ps c r) : SetDid I value (p :: ps) t (r.map id fun c' => setChild s c' t) := by
  cases h with
  | raised h =>
    show SetDid I value (p :: ps) t (_, setChild s c t)
    rw [JsonTree.setChild_self hc]
    refine .raised ?_
    rw [address_cons hs hc, h]
    rfl
  | @refused a h =>
    show SetDid I value (p :: ps) t (_, setChild s c t)
    rw [JsonTree.setChild_self hc]
    refine .refused (?_ : _ = Except.ok (a.map (s :: ·)))
    rw [address_cons hs hc, h]
    rfl
  | @done a c' loc h hloc hvalue hoff =>
    have hc' : child s (setChild s c' t) = some c' := JsonTree.child_setChild hc
    have hold : address I (p :: ps) t = .ok (a.map (s :: ·)) := by
      rw [address_cons hs hc, h]
      rfl
    have hnew : address I (p :: ps) (setChild s c' t) = .ok (some (s :: loc)) := by
      rw [address_cons (stepOf_setChild.trans hs) hc', hloc]
      rfl
    refine .done hold hnew ?_ (SameOff.cons hc' fun other hother => ?_)
    · rw [subtreeAt, hc']
      exact hvalue
    · rw [hc, Option.bind_some]
      exact hoff other hother

/-- In an empty dict every level is made. -/
theorem setWalk_empty (hps : ps ≠ []) : ∃ t', setWalk I value ps (.obj []) = (.ok true, t') := by
  induction ps with
  | nil => exact absurd rfl hps
  | cons p ps ih =>
    cases ps with
    | nil => exact ⟨_, rfl⟩
    | cons q rest =>
      obtain ⟨t', ht'⟩ := ih (List.cons_ne_nil q rest)
      refine ⟨.obj (Dict.set [] p t'), ?_⟩
      rw [setWalk]
      show (setWalk I value (q :: rest) (.obj [])).map id (fun nxt => JsonTree.obj (Dict.set [] p nxt)) = _
      rw [ht']
      rfl

/-- The write at the last segment. -/
theorem setDid_last (p : Str) (t : Json) : SetDid I value [p] t (setWalk I value [p] t) := by
  cases t with
  | obj kvs =>
    have hold : address I [p] (.obj kvs) = .ok ((Dict.get? kvs p).map fun _ => [.key p]) := by
      simp only [address, stepOf, child]
      cases Dict.get? kvs p <;> rfl
    have hc' : child (.key p) (setChild (.key p) value (.obj kvs)) = some value :=
      (Dict.get?_set kvs p p value).trans (if_pos rfl)
    have hnew : address I [p] (setChild (.key p) value (.obj kvs)) = .ok (some [.key p]) := address_cons rfl hc'
    refine .done hold hnew ?_ (SameOff.cons hc' fun other hother => absurd List.nil_prefix hother.1)
    exact congrArg (Option.bind · (subtreeAt [])) hc'
  | arr xs =>
    rw [setWalk]
    cases hi : listIndex I p xs.length with
    | error e => exact .raised (by simp only [address, stepOf, hi, Except.map])
    | ok i =>
      cases i with
      | none =>
        refine .refused (?_ : address I [p] (.arr xs) = .ok none)
        simp only [address, stepOf, hi, Except.map, Option.map_none]
      | some i =>
        obtain ⟨hs, hc⟩ := address_arr hi
        have hc' : child (.index i) (setChild (.index i) value (.arr xs)) = some value := JsonTree.child_setChild hc
        have hnew : address I [p] (setChild (.index i) value (.arr xs)) = .ok (some [.index i]) :=
          address_cons (stepOf_setChild.trans hs) hc'
        refine .done (address_cons hs hc) hnew ?_ (SameOff.cons hc' fun other hother => absurd List.nil_prefix hother.1)
        exact congrArg (Option.bind · (subtreeAt [])) hc'
  | _ => exact .refused (rfl : address I [p] _ = .ok none)

/-- **Writing** answers by the address: it raises where the address does, refuses without a trace, or
    leaves the value at the path and everything apart from it as it was. -/
theorem setDid (hps : ps ≠ []) : SetDid I value ps t (setWalk I value ps t) := by
  induction ps generalizing t with
  | nil => exact absurd rfl hps
  | cons p ps ih =>
    cases ps with
    | nil => exact setDid_last p t
    | cons q rest =>
      have hrest := List.cons_ne_nil q rest
      cases t with
      | obj kvs =>
        -- a level that is there is entered
        have hinto : ∀ {c}, Dict.get? kvs p = some c → nextLevel c = some c →
            SetDid I value (p :: q :: rest) (.obj kvs) (setWalk I value (p :: q :: rest) (.obj kvs)) := by
          intro c hk hnext
          rw [setWalk, hk, Option.getD_some, hnext]
          obtain ⟨hs, hc⟩ := address_obj hk
          exact (ih hrest).cons hs hc
        -- a level that is made: the write below it goes through, and only that level is new
        have hmade : (Dict.get? kvs p).getD .null = .null →
            SetDid I value (p :: q :: rest) (.obj kvs) (setWalk I value (p :: q :: rest) (.obj kvs)) := by
          intro hk
          have hnone : address I (p :: q :: rest) (.obj kvs) = .ok none ∧
              ∀ s' other, (Dict.get? kvs p).bind (subtreeAt (s' :: other)) = none := by
            cases hget : Dict.get? kvs p with
            | none => exact ⟨by simp only [address, stepOf, child, hget], fun _ _ => rfl⟩
            | some c =>
              rw [hget, Option.getD_some] at hk
              subst hk
              obtain ⟨hs, hc⟩ := address_obj hget
              refine ⟨(address_cons hs hc).trans rfl, fun s' other => ?_⟩
              cases s' <;> rfl
          obtain ⟨t', ht'⟩ : ∃ t', setWalk I value (q :: rest) (.obj []) = (.ok true, t') := setWalk_empty hrest
          have hdid : SetDid I value (q :: rest) (.obj []) (.ok true, t') := ht' ▸ ih hrest
          have hset : setWalk I value (p :: q :: rest) (.obj kvs) = (.ok true, setChild (.key p) t' (.obj kvs)) := by
            rw [setWalk, hk]
            show (setWalk I value (q :: rest) (.obj [])).map id (fun nxt => JsonTree.obj (Dict.set kvs p nxt)) = _
            rw [ht']
            rfl
          have hc' : child (.key p) (setChild (.key p) t' (.obj kvs)) = some t' :=
            (Dict.get?_set kvs p p t').trans (if_pos rfl)
          cases hdid with
          | @done a _ loc h hloc hvalue hoff =>
            have hnew : address I (p :: q :: rest) (setChild (.key p) t' (.obj kvs)) = .ok (some (.key p :: loc)) := by
              rw [address_cons rfl hc', hloc]
              rfl
            rw [hset]
            refine .done hnone.1 hnew ?_ (SameOff.cons hc' fun other hother => ?_)
            · rw [subtreeAt, hc']
              exact hvalue
            · cases other with
              | nil => exact absurd hother (JsonTree.not_apart_nil _)
              | cons s' other =>
                rw [hoff _ hother]
                refine Eq.trans ?_ (hnone.2 s' other).symm
                cases s' <;> rfl
        cases hk : Dict.get? kvs p with
        | none => exact hmade (by rw [hk]; rfl)
        | some c =>
          cases c with
          | null => exact hmade (by rw [hk]; rfl)
          | obj kvs' => exact hinto hk rfl
          | arr xs => exact hinto hk rfl
          | _ =>
            rw [setWalk, hk]
            refine .refused (?_ : address I (p :: q :: rest) (.obj kvs) = .ok none)
            obtain ⟨hs, hc⟩ := address_obj hk
            rw [address_cons hs hc]
            rfl
      | arr xs =>
        rw [setWalk]
        cases hi : listIndex I p xs.length with
        | error e => exact .raised (by simp only [address, stepOf, hi, Except.map])
        | ok i =>
          cases i with
          | none =>
            refine .refused (?_ : address I (p :: q :: rest) (.arr xs) = .ok none)
            simp only [address, stepOf, hi, Except.map, Option.map_none]
          | some i =>
            obtain ⟨hs, hc⟩ := address_arr hi
            exact (ih hrest).cons hs hc
      | _ => exact .refused (rfl : address I (p :: q :: rest) _ = .ok none)

/-- What `deleteWalk` can have done. -/
inductive DeleteDid (I : Interp) (ps : List Str) (t : Json) : Result Bool × Json → Prop where
  | raised {e : Exn} (h : address I ps t = .error e) : DeleteDid I ps t (.error e, t)
  | absent (h : address I ps t = .ok none) : DeleteDid I ps t (.ok false, t)
  | done {t' : Json} {loc : List (Step Str)} (h : address I ps t = .ok (some loc)) (hgone : Removed loc t t') :
      DeleteDid I ps t (.ok true, t')

/-- A deletion inside a child, seen from its parent. -/
theorem DeleteDid.cons {r : Result Bool × Json} (hs : stepOf I p t = .ok (some s)) (hc : child s t = some c)
    (h : DeleteDid I ps c r) : DeleteDid I (p :: ps) t (r.map id fun c' => setChild s c' t) := by
  have haddr : address I (p :: ps) t = _ := address_cons hs hc
  cases h with
  | raised h =>
    show DeleteDid I (p :: ps) t (_, setChild s c t)
    rw [JsonTree.setChild_self hc]
    rw [h] at haddr
    exact .raised haddr
  | absent h =>
    show DeleteDid I (p :: ps) t (_, setChild s c t)
    rw [JsonTree.setChild_self hc]
    rw [h] at haddr
    exact .absent haddr
  | done h hgone =>
    rw [h] at haddr
    exact .done haddr (hgone.cons hc)

/-- The deletion at the last segment. -/
theorem deleteDid_last (p : Str) (t : Json) : DeleteDid I [p] t (deleteWalk I [p] t) := by
  cases t with
  | obj kvs =>
    rw [deleteWalk]
    unfold Dict.has
    cases hk : Dict.get? kvs p with
    | none => exact .absent (by simp only [address, stepOf, child, hk])
    | some c =>
      obtain ⟨hs, hc⟩ := address_obj hk
      exact .done (address_cons hs hc) (JsonTree.removed_dropChild (.key p) (.obj kvs))
  | arr xs =>
    rw [deleteWalk]
    cases hi : listIndex I p xs.length with
    | error e => exact .raised (by simp only [address, stepOf, hi, Except.map])
    | ok i =>
      cases i with
      | none => exact .absent (by simp only [address, stepOf, hi, Except.map, Option.map_none])
      | some i =>
        obtain ⟨hs, hc⟩ := address_arr hi
        exact .done (address_cons hs hc) (JsonTree.removed_dropChild (.index i) (.arr xs))
  | _ => exact .absent rfl

/-- **Deleting** answers by the address: it raises where the address does, finds nothing, or takes out the
    entry there. -/
theorem deleteDid (hps : ps ≠ []) : DeleteDid I ps t (deleteWalk I ps t) := by
  induction ps generalizing t with
  | nil => exact absurd rfl hps
  | cons p ps ih =>
    cases ps with
    | nil => exact deleteDid_last p t
    | cons q rest =>
      have hrest := List.cons_ne_nil q rest
      cases t with
      | obj kvs =>
        rw [deleteWalk]
        cases hk : Dict.get? kvs p with
        | none => exact .absent (by simp only [address, stepOf, child, hk])
        | some c =>
          obtain ⟨hs, hc⟩ := address_obj hk
          exact (ih hrest).cons hs hc
      | arr xs =>
        rw [deleteWalk]
        cases hi : listIndex I p xs.length with
        | error e => exact .raised (by simp only [address, stepOf, hi, Except.map])
        | ok i =>
          cases i with
          | none => exact .absent (by simp only [address, stepOf, hi, Except.map, Option.map_none])
          | some i =>
            obtain ⟨hs, hc⟩ := address_arr hi
            exact (ih hrest).cons hs hc
      | _ => exact .absent rfl

end

end RideTheApi.Modification
