import Mathlib.Data.List.Infix
import RideTheApi.Modification.Paths
import RideTheApi.Py.PosixPath

/-!
# `Modification.PathAgreement` — the three walks address the same place

`_get_json_path` and `_set_json_path` cut a path at its dots; `_delete_json_path` cuts it at dots and
slashes, drops the empty segments and every leading dollar. The two readings part at a segment that is no
index, so where both name a field they name different ones, and the delete takes out the wrong one.
-/

namespace RideTheApi.Modification

open Py Engine
open JsonTree (Step child subtreeAt setChild dropChild SameOff Removed)

/-! ## The segments of a path, read twice -/

/-- A segment with text in it and no slash. -/
def Plain (p : Str) : Prop := p ≠ [] ∧ cp '/' ∉ p

instance : DecidablePred Plain := fun _ => inferInstanceAs (Decidable (_ ∧ _))

/-- Segments cut once more at slashes, the empty ones dropped. -/
def words (parts : List Str) : List Str := (parts.flatMap (Str.split (cp '/'))).filter fun p => !p.isEmpty

theorem words_cons (p : Str) (ps : List Str) :
    words (p :: ps) = (Str.split (cp '/') p).filter (fun p => !p.isEmpty) ++ words ps := by
  rw [words, List.flatMap_cons, List.filter_append]
  rfl

theorem words_cons_nil (ps : List Str) : words ([] :: ps) = words ps := by
  rw [words_cons]
  rfl

theorem words_cons_plain {p : Str} (h : Plain p) (ps : List Str) : words (p :: ps) = p :: words ps := by
  have hne : (!p.isEmpty) = true := by
    cases p with
    | nil => exact absurd rfl h.1
    | cons c p => rfl
  rw [words_cons, Str.split, List.splitOn_eq_singleton h.2, List.filter_cons, if_pos hne]
  rfl

theorem plain_of_mem_words {ps : List Str} {w : Str} (h : w ∈ words ps) : Plain w := by
  obtain ⟨hw, hne⟩ := List.mem_filter.mp h
  obtain ⟨p, -, hp⟩ := List.mem_flatMap.mp hw
  refine ⟨?_, notMem_of_mem_splitOn hp⟩
  rintro rfl
  cases hne

/-- Cutting at slashes after dots have become slashes. -/
theorem split_replace_dots (s : Str) :
    Str.split (cp '/') (Str.replace (cp '.') (cp '/') s) = (Str.split (cp '.') s).flatMap (Str.split (cp '/')) := by
  unfold Str.split Str.replace
  induction s with
  | nil => rfl
  | cons c s ih =>
    rw [List.map_cons, List.splitOn_cons_eq_if_modifyHead, List.splitOn_cons_eq_if_modifyHead, ih]
    by_cases hdot : c = cp '.'
    · subst hdot
      rw [if_pos rfl]
      rfl
    · have hne : ¬ (c == cp '.') = true := by simpa using hdot
      rw [if_neg hdot, if_neg hne]
      obtain ⟨h, t, hs⟩ := List.exists_cons_of_ne_nil (List.splitOn_ne_nil (cp '.') s)
      rw [hs, List.modifyHead_cons, List.flatMap_cons, List.flatMap_cons, List.splitOn_cons_eq_if_modifyHead]
      by_cases hslash : (c == cp '/') = true
      · rw [if_pos hslash, if_pos hslash]
        rfl
      · rw [if_neg hslash, if_neg hslash]
        obtain ⟨h', t', hs'⟩ := List.exists_cons_of_ne_nil (List.splitOn_ne_nil (cp '/') h)
        rw [hs']
        rfl

/-- A path text without brackets. -/
def NoBrackets (path : Str) : Prop := cp '[' ∉ path ∧ cp ']' ∉ path

theorem NoBrackets.includes {path : Str} (h : NoBrackets path) : path.includes "[" = false := by
  unfold Str.includes
  rw [List.any_eq_false]
  intro t ht hstart
  cases t with
  | nil => cases hstart
  | cons c t =>
    have hc : c = cp '[' := by
      have := (Bool.and_eq_true _ _).mp hstart
      exact (beq_iff_eq.mp this.1).symm
    have hmem : c ∈ path := ((List.mem_tails _ _).mp ht).subset List.mem_cons_self
    exact h.1 (hc ▸ hmem)

theorem dotToDpath_eq {path : Str} (h : NoBrackets path) :
    dotToDpath path = Str.replace (cp '.') (cp '/') (path.dropWhile (· == cp '$')) := by
  have hsub : ∀ c ∈ path.dropWhile (· == cp '$'), c ≠ cp '[' ∧ c ≠ cp ']' := by
    intro c hc
    have hmem : c ∈ path := (List.dropWhile_sublist _).subset hc
    exact ⟨fun he => h.1 (he ▸ hmem), fun he => h.2 (he ▸ hmem)⟩
  have hopen : Str.replace (cp '[') (cp '/') (path.dropWhile (· == cp '$')) = path.dropWhile (· == cp '$') := by
    refine (List.map_congr_left fun c hc => if_neg (hsub c hc).1).trans (List.map_id' _)
  unfold dotToDpath
  simp only [hopen]
  rw [List.filter_eq_self.mpr fun c hc => by simpa using (hsub c hc).2]

theorem deleteParts_eq {path : Str} (h : NoBrackets path) :
    deleteParts path = words (Str.split (cp '.') (path.dropWhile (· == cp '$'))) := by
  unfold deleteParts
  by_cases hnil : path = []
  · subst hnil
    rfl
  · rw [if_neg hnil, dotToDpath_eq h, split_replace_dots]
    rfl

/-- Two readings part at a segment of the first that is no index, or the second ends there. -/
def Part (I : Interp) (ps qs : List Str) : Prop :=
  ∃ common p rest qs', ps = common ++ p :: rest ∧ qs = common ++ qs' ∧ I.strIsDigit p = false ∧ qs'.head? ≠ some p

variable {I : Interp}

theorem Part.cons {ps qs : List Str} (c : Str) (h : Part I ps qs) : Part I (c :: ps) (c :: qs) := by
  obtain ⟨common, p, rest, qs', rfl, rfl, hp, hne⟩ := h
  exact ⟨c :: common, p, rest, qs', rfl, rfl, hp, hne⟩

/-- A character that is no digit is in no index. -/
theorem strIsDigit_of_mem {p : Str} {c : CodePoint} (hmem : c ∈ p) (hc : I.isDigit c = false) :
    I.strIsDigit p = false := by
  unfold Interp.strIsDigit
  rw [Bool.and_eq_false_iff]
  right
  rw [List.all_eq_false]
  exact ⟨c, hmem, by simp [hc]⟩

theorem strIsDigit_of_not_plain {p : Str} (h : ¬ Plain p) : I.strIsDigit p = false := by
  by_cases hnil : p = []
  · subst hnil
    rfl
  · by_cases hslash : cp '/' ∈ p
    · exact strIsDigit_of_mem hslash rfl
    · exact absurd ⟨hnil, hslash⟩ h

/-- Where a segment is not plain, no word is it. -/
theorem head?_ne_of_not_plain {p : Str} {qs : List Str} (hp : ¬ Plain p) (hqs : ∀ q ∈ qs, Plain q) :
    qs.head? ≠ some p := by
  intro h
  exact hp (hqs p (List.mem_of_head? h))

/-- Segments and their words part at the first that is not plain. -/
theorem part_words {ps : List Str} (h : words ps ≠ ps) : Part I ps (words ps) := by
  induction ps with
  | nil => exact absurd rfl h
  | cons p ps ih =>
    by_cases hp : Plain p
    · rw [words_cons_plain hp] at h ⊢
      exact (ih fun heq => h (by rw [heq])).cons p
    · exact ⟨[], p, ps, _, rfl, rfl, strIsDigit_of_not_plain hp,
        head?_ne_of_not_plain hp fun q hq => plain_of_mem_words hq⟩

/-- Segments and the words of their tail part, where the first of them is no index. -/
theorem part_words_tail {o : Str} (ho : I.strIsDigit o = false) (ps : List Str) : Part I (o :: ps) (words ps) := by
  induction ps with
  | nil => exact ⟨[], o, [], [], rfl, rfl, ho, nofun⟩
  | cons p ps ih =>
    by_cases hhead : (words (p :: ps)).head? = some o
    · obtain ⟨qs, hqs⟩ : ∃ qs, words (p :: ps) = o :: qs := by
        cases hw : words (p :: ps) with
        | nil =>
          rw [hw] at hhead
          cases hhead
        | cons q qs =>
          rw [hw] at hhead
          cases hhead
          exact ⟨qs, rfl⟩
      rw [hqs]
      by_cases hp : Plain p
      · rw [words_cons_plain hp] at hqs
        cases hqs
        exact ih.cons o
      · refine Part.cons o ⟨[], p, ps, qs, rfl, rfl, strIsDigit_of_not_plain hp, ?_⟩
        exact head?_ne_of_not_plain hp fun q hq => plain_of_mem_words (hqs ▸ List.mem_cons_of_mem _ hq)
    · exact ⟨[], o, p :: ps, _, rfl, rfl, ho, hhead⟩

/-- Text without the separator in front of what is cut goes to its first part. -/
theorem splitOn_append {c : CodePoint} {front : Str} (h : c ∉ front) (s : Str) :
    Str.split c (front ++ s) = (Str.split c s).modifyHead (front ++ ·) := by
  unfold Str.split
  induction front with
  | nil =>
    obtain ⟨head, tail, hs⟩ := List.exists_cons_of_ne_nil (List.splitOn_ne_nil c s)
    rw [List.nil_append, hs]
    rfl
  | cons d front ih =>
    have hne : ¬ (d == c) = true := fun hd => h (beq_iff_eq.mp hd ▸ List.mem_cons_self)
    rw [List.cons_append, List.splitOn_cons_eq_if_modifyHead, if_neg hne, ih fun hmem => h (List.mem_cons_of_mem _ hmem)]
    obtain ⟨head, tail, hs⟩ := List.exists_cons_of_ne_nil (List.splitOn_ne_nil c s)
    rw [hs]
    rfl

theorem splitCleanPath_eq {path : Str} (h : splitCleanPath path ≠ []) :
    splitCleanPath path = Str.split (cp '.') (if path.startsWith "$." then path.drop 2 else path) := by
  unfold splitCleanPath at h ⊢
  dsimp only at h ⊢
  generalize (if path.startsWith "$." = true then path.drop 2 else path) = clean at h ⊢
  by_cases hclean : clean ≠ [] ∧ clean ≠ str "$"
  · rw [if_pos hclean]
  · exact absurd (if_neg hclean) h

/-- **The two readings of a path** are the same, or part at a segment that is no index. -/
theorem part_of_ne {path : Str} (hpath : NoBrackets path) (h : splitCleanPath path ≠ [])
    (hne : deleteParts path ≠ splitCleanPath path) : Part I (splitCleanPath path) (deleteParts path) := by
  rw [deleteParts_eq hpath] at hne ⊢
  rw [splitCleanPath_eq h] at hne ⊢
  by_cases hprefix : path.startsWith "$." = true
  · -- the dot after the dollar leaves an empty segment in front, which is dropped
    obtain ⟨rest, rfl⟩ : ∃ rest, str "$." ++ rest = path := List.isPrefixOf_iff_prefix.mp hprefix
    have hsplit : Str.split (cp '.') ((str "$." ++ rest).dropWhile (· == cp '$')) = [] :: Str.split (cp '.') rest := rfl
    rw [if_pos hprefix, hsplit, words_cons_nil] at hne ⊢
    exact part_words hne
  · rw [if_neg hprefix] at hne ⊢
    have hall : ∀ c ∈ path.takeWhile (· == cp '$'), c = cp '$' := by
      intro c hc
      have := List.mem_takeWhile_imp hc
      exact beq_iff_eq.mp this
    have hpath' : path = path.takeWhile (· == cp '$') ++ path.dropWhile (· == cp '$') := List.takeWhile_append_dropWhile.symm
    generalize path.takeWhile (· == cp '$') = dollars at hall hpath'
    generalize path.dropWhile (· == cp '$') = s at hpath' hne ⊢
    subst hpath'
    cases dollars with
    | nil => exact part_words hne
    | cons d dollars =>
      have hnodot : cp '.' ∉ d :: dollars := fun hmem => absurd (hall _ hmem) (by decide)
      have hd := hall d List.mem_cons_self
      obtain ⟨first, rest, hs⟩ := List.exists_cons_of_ne_nil (List.splitOn_ne_nil (cp '.') s)
      rw [splitOn_append hnodot, show Str.split (cp '.') s = first :: rest from hs, List.modifyHead_cons]
      have hindex : I.strIsDigit (d :: dollars ++ first) = false :=
        strIsDigit_of_mem (c := d) List.mem_cons_self (hd ▸ rfl)
      by_cases hfirst : first = []
      · subst hfirst
        rw [words_cons_nil]
        exact part_words_tail hindex rest
      · refine ⟨[], _, rest, words (first :: rest), rfl, rfl, hindex, ?_⟩
        by_cases hp : Plain first
        · rw [words_cons_plain hp, List.head?_cons]
          intro heq
          have := congrArg List.length (Option.some.inj heq)
          simp at this
          omega
        · refine head?_ne_of_not_plain (fun hplain => hp ⟨hfirst, fun hmem => ?_⟩) fun q hq => plain_of_mem_words hq
          exact hplain.2 (List.mem_append_right _ hmem)

/-! ## Where both readings name a field -/

theorem address_append {c d : List Str} {t : Json} {loc : List (Step Str)} (h : address I (c ++ d) t = .ok (some loc)) :
    ∃ l u l', address I c t = .ok (some l) ∧ subtreeAt l t = some u ∧ address I d u = .ok (some l') ∧ loc = l ++ l' := by
  induction c generalizing t loc with
  | nil => exact ⟨[], t, loc, rfl, rfl, h, rfl⟩
  | cons p c ih =>
    rw [List.cons_append, address] at h
    split at h
    · cases h
    · cases h
    next s hs =>
      split at h
      · cases h
      next u hu =>
        obtain ⟨a, ha, hloc⟩ := Except.map_ok_iff.mp h
        cases a with
        | none => cases hloc
        | some l =>
          cases hloc
          obtain ⟨l₁, w, l₂, hl₁, hw, hl₂, rfl⟩ := ih ha
          refine ⟨s :: l₁, w, l₂, ?_, ?_, hl₂, rfl⟩
          · rw [address_cons hs hu, hl₁]
            rfl
          · rw [subtreeAt, hu]
            exact hw

/-- A segment that is no index names a key. -/
theorem address_key {p : Str} {ps : List Str} {t : Json} {loc : List (Step Str)} (hp : I.strIsDigit p = false)
    (h : address I (p :: ps) t = .ok (some loc)) : (∃ kvs, t = .obj kvs) ∧ ∃ rest, loc = .key p :: rest := by
  cases t with
  | obj kvs =>
    refine ⟨⟨kvs, rfl⟩, ?_⟩
    simp only [address, stepOf] at h
    split at h
    · cases h
    · obtain ⟨a, -, ha⟩ := Except.map_ok_iff.mp h
      obtain ⟨l, -, rfl⟩ := Option.map_eq_some_iff.mp ha
      exact ⟨l, rfl⟩
  | arr xs =>
    have hi : listIndex I p xs.length = .ok none := if_neg (by simp [hp])
    simp only [address, stepOf, hi, Except.map, Option.map_none] at h
    cases h
  | _ => cases h

/-- **Two readings that part** and both name a field do not name the same: a removal at the one is no
    removal at the other. -/
theorem Part.not_removed {ps qs : List Str} {t t' : Json} {loc loc' : List (Step Str)} (h : Part I ps qs)
    (hqs : qs ≠ []) (hloc : address I ps t = .ok (some loc)) (hloc' : address I qs t = .ok (some loc'))
    (hgone : Removed loc' t t') : ¬ Removed loc t t' := by
  obtain ⟨common, p, rest, qs', rfl, rfl, hp, hne⟩ := h
  obtain ⟨c, hc⟩ := subtreeAt_of_address hloc
  obtain ⟨c', hc'⟩ := subtreeAt_of_address hloc'
  obtain ⟨l, u, below, hl, hu, hbelow, rfl⟩ := address_append hloc
  obtain ⟨l₂, u₂, below', hl₂, hu₂, hbelow', rfl⟩ := address_append hloc'
  obtain rfl : l = l₂ := Option.some.inj (Except.ok.inj (hl.symm.trans hl₂))
  obtain rfl : u = u₂ := Option.some.inj (hu.symm.trans hu₂)
  obtain ⟨⟨kvs, rfl⟩, below, rfl⟩ := address_key hp hbelow
  cases qs' with
  | nil =>
    cases hbelow'
    rw [List.append_nil] at hgone hc'
    exact hgone.not_below hc' (List.cons_ne_nil _ _) (by rw [hc]; rfl)
  | cons q qs' =>
    have hq : q ≠ p := fun he => hne (by rw [he]; rfl)
    obtain ⟨a, ha⟩ : ∃ rest, below' = .key q :: rest := by
      simp only [address, stepOf] at hbelow'
      split at hbelow'
      · cases hbelow'
      · obtain ⟨a, -, ha⟩ := Except.map_ok_iff.mp hbelow'
        obtain ⟨l, -, rfl⟩ := Option.map_eq_some_iff.mp ha
        exact ⟨l, rfl⟩
    subst ha
    exact hgone.not_beside hq (by rw [hc']; rfl)

/-! ## Agreement -/

variable (D : Dpath) (rule : ModificationRule) (body : Json) (path : Str) (value : Json)

/-- The three operations on a body, a path and a value address the same place. -/
structure PathsAgree : Prop where
  get_total : ∃ v, getJsonPath D rule body path = .ok v
  set_total : ∃ b, (setJsonPath D rule body path value).1 = .ok b
  delete_total : ∃ b, (deleteJsonPath D.toInterp body path).1 = .ok b
  set_true : (setJsonPath D rule body path value).1 = .ok true →
    getJsonPath D rule (setJsonPath D rule body path value).2 path = .ok value ∧
      ∃ loc, address D.toInterp (segments path) (setJsonPath D rule body path value).2 = .ok (some loc) ∧
        SameOff loc body (setJsonPath D rule body path value).2
  set_false : (setJsonPath D rule body path value).1 = .ok false → (setJsonPath D rule body path value).2 = body
  delete_iff : (deleteJsonPath D.toInterp body path).1 = .ok true ↔
    ∃ loc, field D.toInterp (segments path) body = .ok (some loc)
  delete_true : (deleteJsonPath D.toInterp body path).1 = .ok true →
    ∀ loc, field D.toInterp (segments path) body = .ok (some loc) →
      Removed loc body (deleteJsonPath D.toInterp body path).2

/-- What a body and a path must be for that: the reading of the delete names the same field as the other
    reading, or neither names one, and no segment on the way to it is a digit `int` refuses. The two texts
    that `dpath` writes at want a body without that key, or without an empty one. -/
def Settled : Prop :=
  body.truthy = true →
    if path = str "$." then ∀ kvs, body ≠ .obj kvs
    else if path = str "$.$" then emptyKey body = false ∧ ((∃ kvs, body = .obj kvs) → emptyKey value = false)
    else ∃ loc, field D.toInterp (segments path) body = .ok loc ∧ field D.toInterp (deleteParts path) body = .ok loc

variable {D rule body path value}

/-- A body with a field is not empty. -/
theorem truthy_of_field {parts : List Str} {loc : List (Step Str)} (h : field I parts body = .ok (some loc)) :
    body.truthy = true := by
  unfold field at h
  split at h
  · cases h
  next hne =>
    obtain ⟨p, ps, rfl⟩ := List.exists_cons_of_ne_nil hne
    cases body with
    | obj kvs =>
      cases kvs with
      | nil => cases h
      | cons kv kvs => rfl
    | arr xs =>
      cases xs with
      | nil =>
        rw [address] at h
        split at h
        · cases h
        · cases h
        next s hs =>
          obtain ⟨i, hi, hs⟩ := Except.map_ok_iff.mp hs
          cases i with
          | none => cases hs
          | some i => exact absurd (listIndex_lt hi) (Nat.not_lt_zero i)
      | cons x xs => rfl
    | _ => cases h

/-- Where nothing is written or deleted, and no field is named. -/
theorem pathsAgree_of_idle (hget : ∃ v, getJsonPath D rule body path = .ok v)
    (hset : setJsonPath D rule body path value = (.ok false, body))
    (hdelete : deleteJsonPath D.toInterp body path = (.ok false, body))
    (hfield : ∀ loc, field D.toInterp (segments path) body ≠ .ok (some loc)) : PathsAgree D rule body path value := by
  constructor
  · exact hget
  · exact ⟨false, by rw [hset]⟩
  · exact ⟨false, by rw [hdelete]⟩
  · rw [hset]
    exact nofun
  · rw [hset]
    exact fun _ => rfl
  · rw [hdelete]
    exact ⟨nofun, fun ⟨loc, hloc⟩ => absurd hloc (hfield loc)⟩
  · rw [hdelete]
    exact nofun

/-- Nothing is done to an empty body. -/
theorem pathsAgree_of_falsy (h : body.truthy = false) : PathsAgree D rule body path value := by
  have hget : getJsonPath D rule body path = .ok .null := by
    unfold getJsonPath
    rw [h]
    rfl
  refine pathsAgree_of_idle ⟨_, hget⟩ (if_pos (.inl h)) (if_pos (.inl h)) fun loc hloc => ?_
  rw [truthy_of_field hloc] at h
  cases h

variable (D path) in
/-- What `_delete_json_path` can have done to a body that is not empty. -/
theorem deleted (h : body.truthy = true) :
    (∃ e, field D.toInterp (deleteParts path) body = .error e ∧ (deleteJsonPath D.toInterp body path).1 = .error e) ∨
    (field D.toInterp (deleteParts path) body = .ok none ∧ (deleteJsonPath D.toInterp body path).1 = .ok false) ∨
    (∃ loc, field D.toInterp (deleteParts path) body = .ok (some loc) ∧
      (deleteJsonPath D.toInterp body path).1 = .ok true ∧
      Removed loc body (deleteJsonPath D.toInterp body path).2) := by
  unfold deleteJsonPath field
  by_cases hnil : deleteParts path = []
  · rw [if_pos hnil, if_pos (.inr hnil)]
    exact .inr (.inl ⟨rfl, rfl⟩)
  · rw [if_neg hnil, if_neg (not_or.mpr ⟨by simp [h], hnil⟩)]
    have hdid : DeleteDid D.toInterp (deleteParts path) body _ := deleteDid hnil
    generalize deleteWalk D.toInterp (deleteParts path) body = r at hdid ⊢
    cases hdid with
    | raised herr => exact .inl ⟨_, herr, rfl⟩
    | absent hnone => exact .inr (.inl ⟨hnone, rfl⟩)
    | done hloc hgone => exact .inr (.inr ⟨_, hloc, rfl, hgone⟩)

/-- Reading a path with segments. -/
theorem getJsonPath_eq {t : Json} (hpath : NoBrackets path) (hseg : splitCleanPath path ≠ []) (ht : t.truthy = true) :
    getJsonPath D rule t path =
      (address D.toInterp (splitCleanPath path) t).map fun a => (a.bind (subtreeAt · t)).getD .null := by
  have hroot : path ≠ str "$" := by
    rintro rfl
    exact hseg rfl
  unfold getJsonPath
  rw [ht, if_neg (by simp), if_neg hroot, parts_eq hpath.includes, if_pos hseg]
  exact followPath_eq

/-- Writing at a path with segments. -/
theorem setJsonPath_eq (hpath : NoBrackets path) (hseg : splitCleanPath path ≠ []) (h : body.truthy = true) :
    setJsonPath D rule body path value = setWalk D.toInterp value (splitCleanPath path) body := by
  have hguard : ¬ (body.truthy = false ∨ path = [] ∨ path = str "$") := by
    rintro (hf | rfl | rfl)
    · rw [h] at hf
      cases hf
    · exact hseg rfl
    · exact hseg rfl
  unfold setJsonPath
  rw [if_neg hguard, parts_eq hpath.includes, if_pos hseg]

/-- Where both readings name the same field, or neither names one, and no segment raises. -/
theorem pathsAgree_of_same {parts : List Str} {a : Option (List (Step Str))} (h : body.truthy = true)
    (hparts : parts ≠ []) (hsegments : segments path = parts)
    (hget : ∀ t, t = body ∨ t = (setJsonPath D rule body path value).2 → t.truthy = true →
      getJsonPath D rule t path = (address D.toInterp parts t).map fun a => (a.bind (subtreeAt · t)).getD .null)
    (hset : setJsonPath D rule body path value = setWalk D.toInterp value parts body)
    (ha : address D.toInterp parts body = .ok a) (ha' : field D.toInterp (deleteParts path) body = .ok a) :
    PathsAgree D rule body path value := by
  have hfield : ∀ t, field D.toInterp (segments path) t = address D.toInterp parts t := by
    intro t
    rw [field, hsegments, if_neg hparts]
  have hdid : SetDid D.toInterp value parts body (setJsonPath D rule body path value) := hset ▸ setDid hparts
  have hdelete : (deleteJsonPath D.toInterp body path).1 = .ok a.isSome ∧
      ∀ loc, a = some loc → Removed loc body (deleteJsonPath D.toInterp body path).2 := by
    rcases deleted D path h with ⟨e, he, -⟩ | ⟨hnone, hfalse⟩ | ⟨loc', hloc', htrue, hgone⟩
    · rw [he] at ha'
      cases ha'
    · obtain rfl : none = a := Except.ok.inj (hnone.symm.trans ha')
      exact ⟨hfalse, nofun⟩
    · obtain rfl : some loc' = a := Except.ok.inj (hloc'.symm.trans ha')
      refine ⟨htrue, fun loc hloc => ?_⟩
      cases hloc
      exact hgone
  constructor
  · rw [hget body (.inl rfl) h, ha]
    exact ⟨_, rfl⟩
  · generalize setJsonPath D rule body path value = r at hdid
    cases hdid with
    | raised herr =>
      rw [herr] at ha
      cases ha
    | refused _ => exact ⟨_, rfl⟩
    | done _ _ _ _ => exact ⟨_, rfl⟩
  · exact ⟨_, hdelete.1⟩
  · have hafter := hget _ (.inr rfl)
    generalize setJsonPath D rule body path value = r at hdid hafter
    intro htrue
    cases hdid with
    | raised _ => cases htrue
    | refused _ => cases htrue
    | @done _ t' loc _ hloc hvalue hoff =>
      have ht' : t'.truthy = true := truthy_of_field ((hfield t').trans hloc)
      refine ⟨?_, loc, by rw [hsegments]; exact hloc, hoff⟩
      rw [hafter ht', hloc]
      show Except.ok ((subtreeAt loc t').getD .null) = _
      rw [hvalue]
      rfl
  · generalize setJsonPath D rule body path value = r at hdid
    intro hfalse
    cases hdid with
    | raised _ => cases hfalse
    | refused _ => rfl
    | done _ _ _ _ => cases hfalse
  · rw [hdelete.1, hfield, ha]
    cases a with
    | none => exact ⟨nofun, fun ⟨_, hloc⟩ => nomatch hloc⟩
    | some loc => exact ⟨fun _ => ⟨loc, rfl⟩, fun _ => rfl⟩
  · intro _ loc hloc
    rw [hfield, ha] at hloc
    exact hdelete.2 loc (Except.ok.inj hloc)

/-- A path with segments, on a body that is not empty. -/
theorem pathsAgree_iff_of_segments (hpath : NoBrackets path) (h : body.truthy = true) (hseg : splitCleanPath path ≠ [])
    (hdollar : path ≠ str "$.$") :
    PathsAgree D rule body path value ↔
      ∃ loc, field D.toInterp (segments path) body = .ok loc ∧ field D.toInterp (deleteParts path) body = .ok loc := by
  have hsegments : segments path = splitCleanPath path := if_neg hdollar
  have hfield : field D.toInterp (segments path) body = address D.toInterp (splitCleanPath path) body := by
    rw [field, hsegments, if_neg hseg]
  constructor
  · intro hagree
    obtain ⟨v, hv⟩ := hagree.get_total
    rw [getJsonPath_eq hpath hseg h] at hv
    obtain ⟨a, ha, -⟩ := Except.map_ok_iff.mp hv
    refine ⟨a, hfield.trans ha, ?_⟩
    rcases deleted D path h with ⟨e, -, he⟩ | ⟨hnone, hfalse⟩ | ⟨loc', hloc', htrue, hgone⟩
    · obtain ⟨b, hb⟩ := hagree.delete_total
      rw [he] at hb
      cases hb
    · cases a with
      | none => exact hnone
      | some loc =>
        have htrue := hagree.delete_iff.mpr ⟨loc, hfield.trans ha⟩
        rw [hfalse] at htrue
        cases htrue
    · obtain ⟨loc, hloc⟩ := hagree.delete_iff.mp htrue
      obtain rfl : a = some loc := Except.ok.inj (ha.symm.trans (hfield.symm.trans hloc))
      by_cases hsame : deleteParts path = splitCleanPath path
      · rw [hsame, ← hsegments]
        exact hloc
      · have hne : deleteParts path ≠ [] := by
          intro hnil
          rw [field, if_pos hnil] at hloc'
          cases hloc'
        rw [field, if_neg hne] at hloc'
        exact absurd (hagree.delete_true htrue loc hloc)
          ((part_of_ne hpath hseg hsame).not_removed hne ha hloc' hgone)
  · rintro ⟨a, ha, ha'⟩
    exact pathsAgree_of_same h hseg hsegments (fun t _ ht => getJsonPath_eq hpath hseg ht) (setJsonPath_eq hpath hseg h)
      (hfield.symm.trans ha) ha'

/-! ## The texts without segments -/

theorem splitCleanPath_eq_nil (h : splitCleanPath path = []) :
    path = [] ∨ path = str "$" ∨ path = str "$." ∨ path = str "$.$" := by
  unfold splitCleanPath at h
  dsimp only at h
  have hclean : (if path.startsWith "$." then path.drop 2 else path) = [] ∨
      (if path.startsWith "$." then path.drop 2 else path) = str "$" := by
    by_contra hno
    rw [not_or] at hno
    rw [if_pos hno] at h
    exact List.splitOn_ne_nil _ _ h
  by_cases hprefix : path.startsWith "$." = true
  · obtain ⟨rest, rfl⟩ : ∃ rest, str "$." ++ rest = path := List.isPrefixOf_iff_prefix.mp hprefix
    rw [if_pos hprefix] at hclean
    rcases hclean with hclean | hclean
    · rw [show rest = [] from hclean]
      exact .inr (.inr (.inl rfl))
    · rw [show rest = str "$" from hclean]
      exact .inr (.inr (.inr rfl))
  · rw [if_neg hprefix] at hclean
    rcases hclean with rfl | rfl
    · exact .inl rfl
    · exact .inr (.inl rfl)

/-- A text without segments is read by `dpath`. -/
theorem getJsonPath_dpath {t : Json} (hpath : path.includes "[" = false) (hseg : splitCleanPath path = [])
    (hroot : path ≠ str "$") (ht : t.truthy = true) :
    getJsonPath D rule t path = D.read t path := by
  unfold getJsonPath
  rw [ht, if_neg (by simp), if_neg hroot, parts_eq hpath, if_neg (by simp [hseg])]

variable (D rule value) in
/-- A text without segments is written by `dpath`. -/
theorem setJsonPath_dpath (hpath : path.includes "[" = false) (hseg : splitCleanPath path = [])
    (hroot : path ≠ str "$") (hnil : path ≠ []) (h : body.truthy = true) :
    setJsonPath D rule body path value = D.write body path value := by
  unfold setJsonPath
  rw [if_neg (by simp [h, hnil, hroot]), parts_eq hpath, if_neg (by simp [hseg])]

/-- Reading the text `$.` gives the whole body. -/
theorem getJsonPath_dot {t : Json} (ht : t.truthy = true) : getJsonPath D rule t (str "$.") = .ok t := by
  rw [getJsonPath_dpath (by decide) (by decide) (by decide) ht, Dpath.read,
    show dotToDpath (str "$.") = str "/" from rfl, (D.get_root t).2]

/-- The key that a write at `$.` makes is not what `$.` reads. -/
theorem obj_set_ne (kvs : List (Str × Json)) (k : Str) (value : Json) : JsonTree.obj (Dict.set kvs k value) ≠ value := by
  intro heq
  have hmem : (k, value) ∈ Dict.set kvs k value :=
    Dict.mem_of_get? ((Dict.get?_set kvs k k value).trans (if_pos rfl))
  have hsize := List.sizeOf_lt_of_mem hmem
  have hobj := congrArg sizeOf heq
  simp only [JsonTree.obj.sizeOf_spec, Prod.mk.sizeOf_spec] at hobj hsize
  omega

theorem truthy_obj_set (kvs : List (Str × Json)) (k : Str) (value : Json) :
    Json.truthy (.obj (Dict.set kvs k value)) = true := by
  have hmem : (k, value) ∈ Dict.set kvs k value :=
    Dict.mem_of_get? ((Dict.get?_set kvs k k value).trans (if_pos rfl))
  show (!(Dict.set kvs k value).isEmpty) = true
  simp [List.ne_nil_of_mem hmem]

/-- `$.` on a body that is not empty: a dict takes the value under the empty key. -/
theorem pathsAgree_iff_dot (h : body.truthy = true) :
    PathsAgree D rule body (str "$.") value ↔ ∀ kvs, body ≠ .obj kvs := by
  have hset : setJsonPath D rule body (str "$.") value = _ :=
    setJsonPath_dpath D rule value (by decide) (by decide) (by decide) (by decide) h
  rw [Dpath.write, show dotToDpath (str "$.") = cp '/' :: [] from rfl, D.new_name body [] value (.inl rfl)] at hset
  constructor
  · rintro hagree kvs rfl
    have htrue := (hagree.set_true (by rw [hset])).1
    rw [hset, getJsonPath_dot (truthy_obj_set kvs [] value)] at htrue
    exact obj_set_ne kvs [] value (Except.ok.inj htrue)
  · intro hno
    have hfield : ∀ loc, field D.toInterp (segments (str "$.")) body ≠ .ok (some loc) := by
      intro loc hloc
      cases hloc
    refine pathsAgree_of_idle ⟨_, getJsonPath_dot h⟩ ?_ (if_pos (.inr (by decide))) hfield
    rw [hset]
    cases body with
    | obj kvs => exact absurd rfl (hno kvs)
    | _ => rfl

/-- Reading `$.$`, where `dpath` takes the tree. -/
theorem getJsonPath_dollar {t : Json} (ht : t.truthy = true) (hkeys : emptyKey t = false) :
    getJsonPath D rule t (str "$.$") =
      (address D.toInterp [str "$"] t).map fun a => (a.bind (subtreeAt · t)).getD .null := by
  have hdollar : D.toInterp.strIsDigit (str "$") = false := rfl
  rw [← followPath_eq, getJsonPath_dpath (by decide) (by decide) (by decide) ht, Dpath.read,
    show dotToDpath (str "$.$") = str "/$" from rfl, D.get_dollar, hkeys]
  cases t with
  | obj kvs =>
    cases hk : Dict.get? kvs (str "$") with
    | none => simp [followPath, hk, caught]
    | some v => simp [followPath, hk]
  | arr xs => simp [followPath, hdollar, caught]
  | _ => rfl

/-- A tree with an empty key makes `$.$` raise. -/
theorem getJsonPath_dollar_raises {t : Json} (ht : t.truthy = true) (hkeys : emptyKey t = true) :
    getJsonPath D rule t (str "$.$") = .error .other := by
  rw [getJsonPath_dpath (by decide) (by decide) (by decide) ht, Dpath.read,
    show dotToDpath (str "$.$") = str "/$" from rfl, D.get_dollar, hkeys]
  rfl

theorem emptyKey_obj_iff {kvs : List (Str × Json)} :
    emptyKey (.obj kvs) = false ↔ ∀ kv ∈ kvs, kv.1 ≠ [] ∧ emptyKey kv.2 = false := by
  unfold emptyKey
  simp only [List.any_eq_false, JsonTree.mem_entries_obj]
  constructor
  · intro h kv hkv
    refine ⟨fun hnil => h kv ⟨kv, hkv, .inl rfl⟩ (by rw [hnil]; rfl), fun e he => h e ⟨kv, hkv, .inr he⟩⟩
  · rintro h e ⟨kv, hkv, rfl | he⟩
    · simpa using (h _ hkv).1
    · exact (h kv hkv).2 e he

/-- `$.$` on a body that is not empty. -/
theorem pathsAgree_iff_dollar (h : body.truthy = true) :
    PathsAgree D rule body (str "$.$") value ↔
      emptyKey body = false ∧ ((∃ kvs, body = .obj kvs) → emptyKey value = false) := by
  have hset : setJsonPath D rule body (str "$.$") value = _ :=
    setJsonPath_dpath D rule value (by decide) (by decide) (by decide) (by decide) h
  rw [Dpath.write, show dotToDpath (str "$.$") = cp '/' :: str "$" from rfl, D.new_name body (str "$") value (.inr rfl)] at hset
  constructor
  · intro hagree
    have hkeys : emptyKey body = false := by
      by_contra hkeys
      obtain ⟨v, hv⟩ := hagree.get_total
      rw [getJsonPath_dollar_raises h (by simpa using hkeys)] at hv
      cases hv
    refine ⟨hkeys, ?_⟩
    rintro ⟨kvs, rfl⟩
    by_contra hvalue
    have htrue := (hagree.set_true (by rw [hset])).1
    have hmem : (str "$", value) ∈ Dict.set kvs (str "$") value :=
      Dict.mem_of_get? ((Dict.get?_set kvs (str "$") (str "$") value).trans (if_pos rfl))
    have hafter : emptyKey (.obj (Dict.set kvs (str "$") value)) = true := by
      by_contra hno
      exact hvalue (emptyKey_obj_iff.mp (by simpa using hno) _ hmem).2
    rw [hset, getJsonPath_dollar_raises (truthy_obj_set kvs _ value) hafter] at htrue
    cases htrue
  · rintro ⟨hkeys, hvalue⟩
    have hstep : ∃ a, address D.toInterp [str "$"] body = .ok a := by
      cases body with
      | obj kvs => cases hk : Dict.get? kvs (str "$") <;> simp [address, stepOf, child, hk, Except.map]
      | arr xs => exact ⟨none, rfl⟩
      | _ => exact ⟨none, rfl⟩
    obtain ⟨a, ha⟩ := hstep
    have hwalk : setJsonPath D rule body (str "$.$") value = setWalk D.toInterp value [str "$"] body := by
      rw [hset]
      cases body <;> rfl
    refine pathsAgree_of_same h (List.cons_ne_nil _ _) (if_pos rfl) (fun t ht htruthy => ?_) hwalk ha ?_
    · refine getJsonPath_dollar htruthy ?_
      rcases ht with rfl | rfl
      · exact hkeys
      · rw [hset]
        cases body with
        | obj kvs =>
          refine emptyKey_obj_iff.mpr fun kv hkv => ?_
          rcases Dict.mem_set hkv with hkv | rfl
          · exact emptyKey_obj_iff.mp hkeys kv hkv
          · exact ⟨List.cons_ne_nil _ _, hvalue ⟨kvs, rfl⟩⟩
        | _ => exact hkeys
    · rw [show deleteParts (str "$.$") = [str "$"] by decide]
      exact ha

/-- **The path operations address the same place**, exactly on the settled inputs: for every rule, body, path text
    without brackets and value. -/
theorem pathsAgree_iff (D : Dpath) (rule : ModificationRule) (body : Json) (path : Str) (value : Json)
    (hpath : NoBrackets path) : PathsAgree D rule body path value ↔ Settled D body path value := by
  unfold Settled
  cases h : body.truthy with
  | false => exact iff_of_true (pathsAgree_of_falsy h) nofun
  | true =>
    refine Iff.trans ?_ (forall_prop_of_true rfl).symm
    by_cases hdot : path = str "$."
    · subst hdot
      rw [if_pos rfl]
      exact pathsAgree_iff_dot h
    by_cases hdollar : path = str "$.$"
    · subst hdollar
      rw [if_neg hdot, if_pos rfl]
      exact pathsAgree_iff_dollar h
    rw [if_neg hdot, if_neg hdollar]
    by_cases hseg : splitCleanPath path = []
    · have hidle : path = [] ∨ path = str "$" := by
        rcases splitCleanPath_eq_nil hseg with h | h | h | h
        · exact .inl h
        · exact .inr h
        · exact absurd h hdot
        · exact absurd h hdollar
      have hget : getJsonPath D rule body path = .ok body := by
        rcases hidle with rfl | rfl
        · rw [getJsonPath_dpath (by decide) (by decide) (by decide) h, Dpath.read, show dotToDpath [] = [] from rfl,
            (D.get_root body).1]
        · unfold getJsonPath
          rw [h]
          rfl
      have hnone : field D.toInterp (segments path) body = .ok none ∧ deleteParts path = [] := by
        rcases hidle with rfl | rfl <;> exact ⟨rfl, by decide⟩
      refine iff_of_true (pathsAgree_of_idle ⟨_, hget⟩ (if_pos (.inr hidle)) (if_pos (.inr hnone.2)) ?_) ⟨none, hnone.1, ?_⟩
      · rw [hnone.1]
        exact nofun
      · rw [hnone.2]
        rfl
    · exact pathsAgree_iff_of_segments hpath h hseg hdollar

/-! ## On concrete paths -/

/-- `dpath` on the texts that reach it, with ASCII digits. -/
def asciiDpath : Dpath where
  toInterp := asciiInterp
  get obj glob :=
    if glob = [] ∨ glob = str "/" then .ok obj
    else if emptyKey obj then .error .other
    else match obj with
      | .obj kvs => match Dict.get? kvs (glob.drop 1) with
        | some v => .ok v
        | none   => .error .keyError
      | _        => .error .keyError
  new obj path v :=
    match obj with
    | .obj kvs => (.ok (), .obj (Dict.set kvs (path.drop 1) v))
    | obj      => (.error .typeError, obj)
  get_root _ := ⟨rfl, rfl⟩
  get_dollar _ := rfl
  new_name obj _ _ _ := by cases obj <;> rfl

/-- A rule without a field path of its own. -/
def plainRule : ModificationRule := ⟨none, none, none_postInit⟩

/-- A nested field is read, written and deleted alike. -/
theorem pathsAgree_nested :
    PathsAgree asciiDpath plainRule (.obj [(str "a", .obj [(str "b", .int 1)])]) (str "a.b") (.int 2) := by
  refine (pathsAgree_iff _ _ _ _ _ ⟨by decide, by decide⟩).mpr fun _ => ?_
  rw [if_neg (by decide), if_neg (by decide)]
  exact ⟨some [.key (str "a"), .key (str "b")], by decide +kernel, by decide +kernel⟩

/-- A key with a slash: the delete takes out another field than the one that is read and written. -/
theorem not_pathsAgree_slash :
    ¬ ∀ (D : Dpath) (rule : ModificationRule) (body : Json) (path : Str) (value : Json), NoBrackets path →
      PathsAgree D rule body path value := by
  intro h
  have hagree := h asciiDpath plainRule (.obj [(str "a/b", .int 2), (str "a", .obj [(str "b", .int 1)])]) (str "a/b")
    (.int 3) ⟨by decide, by decide⟩
  obtain ⟨parent, s, hloc, hparent, -⟩ := hagree.delete_true (by decide +kernel) [.key (str "a/b")] (by decide +kernel)
  obtain ⟨rfl, hs⟩ := List.append_inj' (show [] ++ [Step.key (str "a/b")] = parent ++ [s] from hloc) rfl
  cases hs
  exact absurd (congrArg (fun t => (t.bind (child (.key (str "a/b")))).isSome) hparent) (by decide +kernel)

end RideTheApi.Modification
