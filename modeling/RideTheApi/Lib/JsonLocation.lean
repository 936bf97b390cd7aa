import RideTheApi.Lib.Dict
import RideTheApi.Lib.JsonTree

/-!
# `Lib.JsonLocation` — places inside a JSON tree

A location is the list of steps down from the root: a key of an object or an index of an array. What a
change did to a tree is said by what it left at the locations apart from it.
-/

namespace JsonTree

variable {κ σ : Type} [DecidableEq κ]

/-- One step down. -/
inductive Step (κ : Type) where
  | key (k : κ)
  | index (i : Nat)
deriving DecidableEq

/-- The child a step leads to. -/
def child : Step κ → JsonTree κ σ → Option (JsonTree κ σ)
  | .key k,   .obj kvs => Dict.get? kvs k
  | .index i, .arr xs  => xs[i]?
  | _,        _        => none

/-- The subtree at a location. -/
def subtreeAt : List (Step κ) → JsonTree κ σ → Option (JsonTree κ σ)
  | [],       t => some t
  | s :: loc, t => (child s t).bind (subtreeAt loc)

/-- A child overwritten, or a key added. -/
def setChild : Step κ → JsonTree κ σ → JsonTree κ σ → JsonTree κ σ
  | .key k,   c, .obj kvs => .obj (Dict.set kvs k c)
  | .index i, c, .arr xs  => .arr (xs.set i c)
  | _,        _, t        => t

/-- A child taken out; the items behind an array's item move up. -/
def dropChild : Step κ → JsonTree κ σ → JsonTree κ σ
  | .key k,   .obj kvs => .obj (Dict.erase kvs k)
  | .index i, .arr xs  => .arr (xs.eraseIdx i)
  | _,        t        => t

/-- Neither location is on the way to the other. -/
def Apart (p q : List (Step κ)) : Prop := ¬ p <+: q ∧ ¬ q <+: p

/-- Two trees agree at every location apart from `loc`. -/
def SameOff (loc : List (Step κ)) (t t' : JsonTree κ σ) : Prop :=
  ∀ other, Apart loc other → subtreeAt other t' = subtreeAt other t

/-- `t'` is `t` without the entry at `loc`: its parent has lost this child and nothing else, and what is
    apart from the parent is as it was. -/
def Removed (loc : List (Step κ)) (t t' : JsonTree κ σ) : Prop :=
  ∃ parent s, loc = parent ++ [s] ∧ subtreeAt parent t' = (subtreeAt parent t).map (dropChild s) ∧ SameOff parent t t'

/-! ## Subtrees -/

theorem subtreeAt_append (p q : List (Step κ)) (t : JsonTree κ σ) :
    subtreeAt (p ++ q) t = (subtreeAt p t).bind (subtreeAt q) := by
  induction p generalizing t with
  | nil => rfl
  | cons s p ih =>
    rw [List.cons_append, subtreeAt, subtreeAt, Option.bind_assoc]
    exact congrArg _ (funext ih)

theorem subtreeAt_snoc (p : List (Step κ)) (s : Step κ) (t : JsonTree κ σ) :
    subtreeAt (p ++ [s]) t = (subtreeAt p t).bind (child s) := by
  rw [subtreeAt_append]
  refine congrArg _ (funext fun u => ?_)
  show (child s u).bind some = _
  cases child s u <;> rfl

/-- Where a location is in the tree, so are those on the way to it. -/
theorem exists_subtreeAt_of_append {p q : List (Step κ)} {t c : JsonTree κ σ} (h : subtreeAt (p ++ q) t = some c) :
    ∃ u, subtreeAt p t = some u ∧ subtreeAt q u = some c := by
  rw [subtreeAt_append] at h
  exact Option.bind_eq_some_iff.mp h

/-- A step leads nowhere but from an object or an array, to an entry of it. -/
theorem child_setChild {s : Step κ} {t c c' : JsonTree κ σ} (h : child s t = some c) :
    child s (setChild s c' t) = some c' := by
  cases s with
  | key k =>
    cases t with
    | obj kvs => exact (Dict.get?_set kvs k k c').trans (if_pos rfl)
    | _ => cases h
  | index i =>
    cases t with
    | arr xs =>
      have hlt : i < xs.length := (List.getElem?_eq_some_iff.mp h).1
      exact List.getElem?_set_self hlt
    | _ => cases h

theorem child_setChild_of_ne {s s' : Step κ} (h : s ≠ s') (c t : JsonTree κ σ) :
    child s' (setChild s c t) = child s' t := by
  cases s with
  | key k =>
    cases t with
    | obj kvs =>
      cases s' with
      | key k' => exact (Dict.get?_set kvs k k' c).trans (if_neg fun hk => h (congrArg Step.key hk))
      | index i => rfl
    | _ => rfl
  | index i =>
    cases t with
    | arr xs =>
      cases s' with
      | key k => rfl
      | index j => exact List.getElem?_set_ne fun hij => h (congrArg Step.index hij)
    | _ => rfl

/-- Writing back the child that is there changes nothing. -/
theorem setChild_self {s : Step κ} {t c : JsonTree κ σ} (h : child s t = some c) : setChild s c t = t := by
  cases s with
  | key k =>
    cases t with
    | obj kvs => exact congrArg _ (Dict.set_of_get? h)
    | _ => rfl
  | index i =>
    cases t with
    | arr xs =>
      obtain ⟨hlt, rfl⟩ := List.getElem?_eq_some_iff.mp h
      exact congrArg _ (List.set_getElem_self hlt)
    | _ => rfl

/-! ## Locations apart -/

theorem apart_cons {s : Step κ} {p q : List (Step κ)} : Apart (s :: p) (s :: q) ↔ Apart p q := by
  unfold Apart
  rw [List.cons_prefix_cons, List.cons_prefix_cons]
  tauto

omit [DecidableEq κ] in
theorem not_apart_nil (p : List (Step κ)) : ¬ Apart p [] := fun h => h.2 (List.nil_prefix)

/-- Two ways that part at a place. -/
theorem apart_of_ne {s s' : Step κ} (h : s ≠ s') (l p q : List (Step κ)) : Apart (l ++ s :: p) (l ++ s' :: q) := by
  induction l with
  | nil =>
    constructor
    · rw [List.nil_append, List.nil_append, List.cons_prefix_cons]
      exact fun hp => h hp.1
    · rw [List.nil_append, List.nil_append, List.cons_prefix_cons]
      exact fun hp => h hp.1.symm
  | cons s₀ l ih => exact apart_cons.mpr ih

/-- A change below a child is a change below the step to it. -/
theorem SameOff.cons {s : Step κ} {loc : List (Step κ)} {t c' : JsonTree κ σ}
    (hc' : child s (setChild s c' t) = some c')
    (h : ∀ other, Apart loc other → subtreeAt other c' = (child s t).bind (subtreeAt other)) :
    SameOff (s :: loc) t (setChild s c' t) := by
  intro other hother
  cases other with
  | nil => exact absurd hother (not_apart_nil _)
  | cons s' other =>
    rw [subtreeAt, subtreeAt]
    by_cases hs : s = s'
    · subst hs
      rw [hc', Option.bind_some, h other (apart_cons.mp hother)]
    · rw [child_setChild_of_ne hs]

/-! ## Removals -/

/-- An entry removed below a child is removed below the step to it. -/
theorem Removed.cons {s : Step κ} {loc : List (Step κ)} {t c c' : JsonTree κ σ} (hc : child s t = some c)
    (h : Removed loc c c') : Removed (s :: loc) t (setChild s c' t) := by
  obtain ⟨parent, s', rfl, hparent, hoff⟩ := h
  refine ⟨s :: parent, s', rfl, ?_, SameOff.cons (child_setChild hc) fun other hother => ?_⟩
  · rw [subtreeAt, subtreeAt, child_setChild hc, hc]
    exact hparent
  · rw [hc, Option.bind_some]
    exact hoff other hother

/-- An entry of the root removed. -/
theorem removed_dropChild (s : Step κ) (t : JsonTree κ σ) : Removed [s] t (dropChild s t) :=
  ⟨[], s, rfl, rfl, fun _ hother => absurd List.nil_prefix hother.1⟩

/-- Taking a child out takes it out: the tree is another one. -/
theorem dropChild_ne {s : Step κ} {t c : JsonTree κ σ} (h : child s t = some c) : dropChild s t ≠ t := by
  intro heq
  cases s with
  | key k =>
    cases t with
    | obj kvs =>
      have herase : Dict.get? (Dict.erase kvs k) k = none := (Dict.get?_erase kvs k k).trans (if_pos rfl)
      rw [show Dict.erase kvs k = kvs from JsonTree.obj.inj heq] at herase
      rw [show Dict.get? kvs k = some c from h] at herase
      cases herase
    | _ => cases h
  | index i =>
    cases t with
    | arr xs =>
      have hlt : i < xs.length := (List.getElem?_eq_some_iff.mp h).1
      have hlen := congrArg List.length (JsonTree.arr.inj heq)
      rw [List.length_eraseIdx_of_lt hlt] at hlen
      omega
    | _ => cases h

/-- The key that was removed is absent. -/
theorem Removed.absent {p : List (Step κ)} {k : κ} {t t' : JsonTree κ σ} (h : Removed (p ++ [.key k]) t t') :
    subtreeAt (p ++ [.key k]) t' = none := by
  obtain ⟨parent, s, heq, hparent, -⟩ := h
  obtain ⟨rfl, hs⟩ := List.append_inj' heq rfl
  cases hs
  rw [subtreeAt_snoc, hparent]
  cases subtreeAt p t with
  | none => rfl
  | some u =>
    cases u with
    | obj kvs => exact (Dict.get?_erase kvs k k).trans (if_pos rfl)
    | _ => rfl

/-- Removing an entry and removing something below it leave different trees. -/
theorem Removed.not_below {p q : List (Step κ)} {t t' c : JsonTree κ σ} (hc : subtreeAt p t = some c)
    (h : Removed p t t') (hq : q ≠ []) (hcq : (subtreeAt (p ++ q) t).isSome) : ¬ Removed (p ++ q) t t' := by
  rintro ⟨above, s', heq, habove, hoff⟩
  obtain ⟨q', s₀, rfl⟩ : ∃ q' s, q = q' ++ [s] := ⟨q.dropLast, q.getLast hq, (List.dropLast_append_getLast hq).symm⟩
  rw [← List.append_assoc] at heq hcq
  obtain ⟨rfl, -⟩ := List.append_inj' heq rfl
  -- the entry at `p` is on the way to what is said to be removed, so it is still there
  obtain ⟨v, hv⟩ := Option.isSome_iff_exists.mp hcq
  obtain ⟨u, hu, -⟩ := exists_subtreeAt_of_append hv
  rw [hu] at habove
  obtain ⟨c', hc', -⟩ := exists_subtreeAt_of_append habove
  have hgone := h
  obtain ⟨parent, s, rfl, hparent, -⟩ := h
  cases s with
  | key k =>
    rw [hgone.absent] at hc'
    cases hc'
  | index i =>
    rw [subtreeAt_snoc] at hc hc'
    obtain ⟨w, hw, hi⟩ := Option.bind_eq_some_iff.mp hc
    cases w with
    | arr xs =>
      have hlt : i < xs.length := (List.getElem?_eq_some_iff.mp hi).1
      rw [hw] at hparent
      rw [hparent] at hc'
      have hlt' : i < (xs.eraseIdx i).length := (List.getElem?_eq_some_iff.mp hc').1
      rw [List.length_eraseIdx_of_lt hlt] at hlt'
      -- the array's last item is elsewhere, and is no longer at its index
      have hlast : Apart (parent ++ [Step.index i] ++ q') (parent ++ [.index (xs.length - 1)]) := by
        rw [List.append_assoc]
        refine apart_of_ne (fun he => ?_) parent q' []
        have := Step.index.inj he
        omega
      have hsame := hoff _ hlast
      rw [subtreeAt_snoc, subtreeAt_snoc, hparent, hw] at hsame
      have hnone : (xs.eraseIdx i)[xs.length - 1]? = none := by
        rw [List.getElem?_eq_none_iff]
        exact Nat.le_of_eq (List.length_eraseIdx_of_lt hlt)
      have hsome : xs[xs.length - 1]? ≠ none := by
        rw [Ne, List.getElem?_eq_none_iff]
        omega
      exact hsome (hsame.symm.trans hnone)
    | _ => cases hi

/-- Removing entries under two different keys of an object leaves different trees. -/
theorem Removed.not_beside {l p q : List (Step κ)} {k k' : κ} {t t' : JsonTree κ σ} (hk : k ≠ k')
    (hp : (subtreeAt (l ++ .key k :: p) t).isSome) (h : Removed (l ++ .key k :: p) t t') :
    ¬ Removed (l ++ .key k' :: q) t t' := by
  intro h'
  -- nothing under `k` has changed
  have hsame : subtreeAt (l ++ [.key k]) t' = subtreeAt (l ++ [.key k]) t := by
    obtain ⟨parent, s, heq, hparent, hoff⟩ := h'
    rcases List.eq_nil_or_concat q with rfl | ⟨q', s', rfl⟩
    · obtain ⟨rfl, hs⟩ := List.append_inj' heq rfl
      cases hs
      rw [subtreeAt_snoc, subtreeAt_snoc, hparent]
      cases subtreeAt l t with
      | none => rfl
      | some u =>
        cases u with
        | obj kvs => exact (Dict.get?_erase kvs k' k).trans (if_neg hk.symm)
        | _ => rfl
    · rw [List.concat_eq_append, ← List.cons_append, ← List.append_assoc] at heq
      obtain ⟨rfl, -⟩ := List.append_inj' heq rfl
      exact hoff _ (apart_of_ne (fun he => hk (Step.key.inj he).symm) l q' [])
  rcases List.eq_nil_or_concat p with rfl | ⟨p', s, rfl⟩
  · rw [h.absent] at hsame
    rw [← hsame] at hp
    cases hp
  · obtain ⟨parent, s', heq, hparent, -⟩ := h
    rw [List.concat_eq_append, ← List.cons_append, ← List.append_assoc] at heq hp
    obtain ⟨rfl, hs⟩ := List.append_inj' heq rfl
    cases hs
    obtain ⟨c, hc⟩ := Option.isSome_iff_exists.mp hp
    rw [subtreeAt_snoc] at hc
    obtain ⟨u, hu, hc⟩ := Option.bind_eq_some_iff.mp hc
    have hu' : subtreeAt (l ++ .key k :: p') t' = some u := by
      rw [List.append_cons, subtreeAt_append, hsame, ← subtreeAt_append, ← List.append_cons]
      exact hu
    rw [hu, hu'] at hparent
    exact dropChild_ne hc (Option.some.inj hparent).symm

end JsonTree
