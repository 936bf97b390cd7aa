import RideTheApi.Modification.Paths

/-!
# `Engine.SetGet` — the template's path setter, and what it leaves

A mapping writes its value at a target path. The walk is the one of the modification rules, whose answer the engine
does not ask for: what it leaves is the same.
-/

namespace RideTheApi.Engine

open Py Modification
open JsonTree (Step child subtreeAt SameOff)

/-! ## The two setters walk alike -/

section
variable (I : Interp)

/-- The engine's write and the rules' write leave the same value, or raise alike. -/
theorem setAt_eq_setWalk (ps : List Str) (t v : Json) :
    setAt I ps t v = (setWalk I v ps t).1.map fun _ => (setWalk I v ps t).2 := by
  induction ps generalizing t with
  | nil => rfl
  | cons p ps ih =>
    cases ps with
    | nil =>
      cases t with
      | obj kvs => rfl
      | arr xs =>
        rw [setAt, setWalk]
        cases listIndex I p xs.length with
        | error e => rfl
        | ok i => cases i <;> rfl
      | _ => rfl
    | cons q rest =>
      -- a write below an entry, put back into its parent
      have hinto : ∀ (c : Json) (put : Json → Json), (setAt I (q :: rest) c v).map put =
          ((setWalk I v (q :: rest) c).map id put).1.map fun _ => ((setWalk I v (q :: rest) c).map id put).2 := by
        intro c put
        rw [ih]
        cases hw : (setWalk I v (q :: rest) c).1 <;> simp [hw, Except.map]
      cases t with
      | obj kvs =>
        rw [setAt, setWalk]
        cases (Dict.get? kvs p).getD .null with
        | null => exact hinto _ _
        | obj kvs' => exact hinto _ _
        | arr xs => exact hinto _ _
        | _ => rfl
      | arr xs =>
        rw [setAt, setWalk]
        cases hi : listIndex I p xs.length with
        | error e => rfl
        | ok i =>
          cases i with
          | none => rfl
          | some i =>
            have hlt := listIndex_lt hi
            simp only [Except.ok_bind, Option.bind_some, List.getElem?_eq_getElem hlt, Option.getD_some, Option.map_some]
            exact hinto _ _
      | _ => rfl

/-! ## What stands in the way of a write -/

/-- The segments lead to a place, with a segment to be used there and others after it, of which `P` holds. -/
def Meets (P : Str → List Str → Json → Prop) (ps : List Str) (t : Json) : Prop :=
  ∃ before p after loc u, ps = before ++ p :: after ∧ address I before t = .ok (some loc) ∧ subtreeAt loc t = some u ∧
    P p after u

/-- A list, and a segment of digits that `int` refuses. -/
def RefusedDigits (p : Str) (_after : List Str) : Json → Prop
  | .arr _ => I.strIsDigit p = true ∧ ∃ e, I.parseDigits p = .error e
  | _      => False

/-- Neither a dict nor a list. -/
def isScalar : Json → Bool
  | .obj _ | .arr _ => false
  | _               => true

/-- A container the next segments do not fit: a list without such an item, or an entry on the way that is no container. A
    null entry of a dict is none: it makes room for a dict. -/
def Unfit (p : Str) (after : List Str) : Json → Prop
  | .obj kvs => after ≠ [] ∧ ∃ c, Dict.get? kvs p = some c ∧ isScalar c = true ∧ c ≠ .null
  | .arr xs  =>
    listIndex I p xs.length = .ok none ∨
      after ≠ [] ∧ ∃ i c, listIndex I p xs.length = .ok (some i) ∧ xs[i]? = some c ∧ isScalar c = true
  | _        => False

/-- A list is met on the way at a segment of digits that `int` refuses. -/
def RefusedIndex (ps : List Str) (t : Json) : Prop := Meets I (RefusedDigits I) ps t

/-- A shape is met on the way that the path does not fit. -/
def Mismatch (ps : List Str) (t : Json) : Prop := Meets I (Unfit I) ps t

variable {I} {P : Str → List Str → Json → Prop} {p : Str} {ps : List Str} {t v : Json}

theorem not_meets_nil : ¬ Meets I P [] t := by
  rintro ⟨before, p, after, loc, u, h, -⟩
  simp at h

/-- What is met on the way is met at once, or below the entry the first segment names. -/
theorem meets_cons : Meets I P (p :: ps) t ↔
    P p ps t ∨ ∃ s c, stepOf I p t = .ok (some s) ∧ child s t = some c ∧ Meets I P ps c := by
  constructor
  · rintro ⟨before, q, after, loc, u, heq, haddress, hu, hP⟩
    cases before with
    | nil =>
      obtain ⟨rfl, rfl⟩ := List.cons.inj heq
      cases haddress
      cases hu
      exact .inl hP
    | cons p' before =>
      obtain ⟨rfl, rfl⟩ := List.cons.inj heq
      rw [address] at haddress
      split at haddress
      · cases haddress
      · cases haddress
      next s hs =>
        split at haddress
        · cases haddress
        next c hc =>
          obtain ⟨below, hbelow, hloc⟩ := Except.map_ok_iff.mp haddress
          cases below with
          | none => cases hloc
          | some l =>
            cases hloc
            rw [subtreeAt, hc, Option.bind_some] at hu
            exact .inr ⟨s, c, hs, hc, before, q, after, l, u, rfl, hbelow, hu, hP⟩
  · rintro (hP | ⟨s, c, hs, hc, before, q, after, loc, u, rfl, haddress, hu, hP⟩)
    · exact ⟨[], p, ps, [], t, rfl, rfl, rfl, hP⟩
    · refine ⟨p :: before, q, after, s :: loc, u, rfl, ?_, ?_, hP⟩
      · rw [address_cons hs hc, haddress]
        rfl
      · rw [subtreeAt, hc]
        exact hu

/-- `p.isdigit() and int(p) < n` raises where `int` does. -/
theorem listIndex_error_iff {n : Nat} :
    (∃ e, listIndex I p n = .error e) ↔ I.strIsDigit p = true ∧ ∃ e, I.parseDigits p = .error e := by
  unfold listIndex
  by_cases hd : I.strIsDigit p = true
  · rw [if_pos hd]
    cases I.parseDigits p <;> simp [hd, Except.map]
  · simp [hd]

/-- Naming a place raises iff a list is met at digits that `int` refuses. -/
theorem address_error_iff : (∃ e, address I ps t = .error e) ↔ RefusedIndex I ps t := by
  unfold RefusedIndex
  induction ps generalizing t with
  | nil => simp [address, not_meets_nil]
  | cons p ps ih =>
    rw [meets_cons]
    have hfirst : (∃ e, stepOf I p t = .error e) ↔ RefusedDigits I p ps t := by
      cases t with
      | arr xs =>
        rw [RefusedDigits, ← listIndex_error_iff (n := xs.length)]
        cases hi : listIndex I p xs.length <;> simp [stepOf, hi, Except.map]
      | _ => simp [stepOf, RefusedDigits]
    rw [← hfirst, address]
    cases hs : stepOf I p t with
    | error e => simp
    | ok s =>
      cases s with
      | none => simp
      | some s =>
        cases hc : child s t with
        | none => simp [hc]
        | some c =>
          simp only [reduceCtorEq, exists_false, false_or, Except.ok.injEq, Option.some.injEq, exists_and_left,
            exists_eq_left', hc]
          rw [← ih]
          cases address I ps c <;> simp [Except.map]

/-! ## Which writes are made -/

/-- In a container, the write is refused iff the path does not fit. -/
theorem setWalk_refused_iff (hps : ps ≠ []) (ht : isScalar t = false) :
    (setWalk I v ps t).1 = .ok false ↔ Mismatch I ps t := by
  induction ps generalizing t with
  | nil => exact absurd rfl hps
  | cons p ps ih =>
    unfold Mismatch
    rw [meets_cons]
    cases ps with
    | nil =>
      simp only [not_meets_nil, and_false, exists_false, or_false]
      cases t with
      | obj kvs => simp [setWalk, Unfit]
      | arr xs =>
        rw [setWalk, Unfit]
        cases listIndex I p xs.length with
        | error e => simp
        | ok i => cases i <;> simp
      | _ => cases ht
    | cons q rest =>
      have hrest := List.cons_ne_nil q rest
      -- below a scalar there is nothing to meet
      have hscalar : ∀ {c}, isScalar c = true → ¬ Meets I (Unfit I) (q :: rest) c := by
        intro c hc
        rw [meets_cons]
        cases c <;> simp [isScalar, Unfit, stepOf] at hc ⊢
      cases t with
      | obj kvs =>
        rw [setWalk]
        cases hk : Dict.get? kvs p with
        | none =>
          -- a missing level is created empty, and a write into it goes through
          obtain ⟨t', ht'⟩ : ∃ t', setWalk I v (q :: rest) (.obj []) = (.ok true, t') := setWalk_empty hrest
          simp [nextLevel, ht', Unfit, hk, stepOf, child]
        | some c =>
          have hbelow : isScalar c = false → ((setWalk I v (q :: rest) c).1 = .ok false ↔
              (Unfit I p (q :: rest) (.obj kvs) ∨ ∃ s c', stepOf I p (.obj kvs) = .ok (some s) ∧
                child s (.obj kvs) = some c' ∧ Meets I (Unfit I) (q :: rest) c')) := by
            intro hc
            rw [ih hrest hc]
            simp [Mismatch, Unfit, hk, hc, stepOf, child]
          rw [Option.getD_some]
          cases c with
          | null =>
            obtain ⟨t', ht'⟩ : ∃ t', setWalk I v (q :: rest) (.obj []) = (.ok true, t') := setWalk_empty hrest
            simp [nextLevel, ht', Unfit, hk, stepOf, child, hscalar (c := .null) rfl]
          | obj kvs' => exact hbelow rfl
          | arr xs => exact hbelow rfl
          | _ => simp [nextLevel, Unfit, hk, isScalar]
      | arr xs =>
        rw [setWalk]
        cases hi : listIndex I p xs.length with
        | error e => simp [Unfit, hi, stepOf, Except.map]
        | ok i =>
          cases i with
          | none => simp [Unfit, hi]
          | some i =>
            -- an index in range leads to an item, which is there
            have hget : xs[i]? = some (xs[i]?.getD .null) := by
              rw [List.getElem?_eq_getElem (listIndex_lt hi), Option.getD_some]
            show (setWalk I v (q :: rest) (xs[i]?.getD .null)).1 = .ok false ↔ _
            generalize xs[i]?.getD .null = c at hget
            cases hc : isScalar c with
            | false =>
              rw [ih hrest hc]
              simp [Mismatch, Unfit, hi, hget, hc, stepOf, child, Except.map]
            | true =>
              have hstop : (setWalk I v (q :: rest) c).1 = .ok false := by
                cases c <;> cases rest <;> simp [isScalar, setWalk] at hc ⊢
              simp [hstop, Unfit, hi, hget, hc]
      | _ => cases ht

end

/-! ## Set and get -/

/-- The path reads back as the value, and what is not on or below it is as it was. -/
structure Written (H : Host) (path : Str) (value d d' : Json) : Prop where
  placed : ∃ loc, address H.toInterp (targetParts path) d' = .ok (some loc) ∧ subtreeAt loc d' = some value ∧
    SameOff loc d d'
  resolved : path.includes "[" = false → resolveJsonPath H d' path = .ok value

/-- The path names no place to write at in the body: it has no segments, or does not fit. -/
def Unwritable (I : Interp) (d : Json) (path : Str) : Prop :=
  targetParts path = [] ∨ Mismatch I (targetParts path) d

/-- The write does not raise, and leaves the body alone or has written. -/
def ObeysSetGet (H : Host) (d : Json) (path : Str) (value : Json) : Prop :=
  ∃ d', setNested H.toInterp d path value = .ok d' ∧
    (Unwritable H.toInterp d path ∧ d' = d ∨ ¬ Unwritable H.toInterp d path ∧ Written H path value d d')

variable {H : Host} {d d' value : Json} {path : Str} {loc : List (Step Str)}

/-- A path without brackets resolves to what is at the place its segments name. -/
theorem resolveJsonPath_of_address (hparts : targetParts path ≠ []) (hpath : path.includes "[" = false)
    (haddress : address H.toInterp (targetParts path) d = .ok (some loc)) (hloc : subtreeAt loc d = some value) :
    resolveJsonPath H d path = .ok value := by
  have hsplit : targetParts path = splitCleanPath path := by simp [targetParts, hpath]
  have hnamed : ¬ (path = [] ∨ path = str "$") := by
    rintro (rfl | rfl)
    · exact hparts rfl
    · exact hparts rfl
  rw [resolveJsonPath, if_neg hnamed, hpath, ← hsplit, followPath_eq, haddress]
  simp [Except.map, hloc]

/-- **A template write obeys set and get** iff no list is met on the way at a segment of digits that `int` refuses. -/
theorem obeysSetGet_iff (H : Host) (kvs : List (Str × Json)) (path : Str) (value : Json) :
    ObeysSetGet H (.obj kvs) path value ↔ ¬ RefusedIndex H.toInterp (targetParts path) (.obj kvs) := by
  unfold ObeysSetGet Unwritable setNested
  by_cases hparts : targetParts path = []
  · rw [hparts]
    refine iff_of_true ⟨.obj kvs, ?_, .inl ⟨.inl rfl, rfl⟩⟩ not_meets_nil
    rfl
  rw [← address_error_iff, setAt_eq_setWalk]
  have hrefused : (setWalk H.toInterp value (targetParts path) (.obj kvs)).1 = .ok false ↔
      Mismatch H.toInterp (targetParts path) (.obj kvs) := setWalk_refused_iff hparts rfl
  have hdid : SetDid H.toInterp value (targetParts path) (.obj kvs) (setWalk H.toInterp value (targetParts path) (.obj kvs)) :=
    setDid hparts
  revert hrefused hdid
  generalize setWalk H.toInterp value (targetParts path) (.obj kvs) = r
  intro hrefused hdid
  cases hdid with
  | @raised e haddress =>
    refine iff_of_false ?_ (not_not.mpr ⟨e, haddress⟩)
    rintro ⟨d', hset, -⟩
    cases hset
  | @refused a haddress =>
    have hmismatch := hrefused.mp rfl
    refine iff_of_true ⟨.obj kvs, rfl, .inl ⟨.inr hmismatch, rfl⟩⟩ ?_
    simp [haddress]
  | @done a d' loc haddress hloc hvalue hoff =>
    have hfits : ¬ Mismatch H.toInterp (targetParts path) (.obj kvs) := fun h => by simpa using hrefused.mpr h
    refine iff_of_true ⟨d', rfl, .inr ⟨by simp [hparts, hfits], ⟨loc, hloc, hvalue, hoff⟩, fun hpath => ?_⟩⟩ ?_
    · exact resolveJsonPath_of_address hparts hpath hloc hvalue
    · simp [haddress]

/-- An interpreter that knows a superscript two: a digit, of which `int` makes nothing. -/
def superscriptHost : Host where
  toInterp := { asciiInterp with digit := (· == cp '²') }
  dpathGet _ _ := .error .keyError
  evaluate _ := .error .valueError
  uuid4 _ := str "0"

/-- A superscript two for the index of a list raises. -/
theorem not_obeysSetGet_superscript :
    ¬ ObeysSetGet superscriptHost (.obj [("items", .arr [.int 1])]) "items.²" (.int 5) := by
  rintro ⟨d', hset, -⟩
  have hraised : setNested superscriptHost.toInterp (.obj [("items", .arr [.int 1])]) "items.²" (.int 5) =
      Except.error (ε := Exn) (α := Json) .valueError := by rfl
  rw [hraised] at hset
  cases hset

end RideTheApi.Engine
