import RideTheApi.Engine.Match

/-!
# `Engine.Observation` — what the matcher can tell apart

Two calls are **alike** when they have the same method, the same protocol family, paths that agree segment
by segment up to what a `{placeholder}` swallows, the same header names and query names, and bodies that
are both empty or carry the same keys. Alike calls get the same match from every pattern set and every
database (`findBestMatch_congr`), which follows the scoring through every dimension.
-/

namespace RideTheApi.Engine

open Py PatternDb FirstMax

/-! ## Paths -/

/-- The segments of a path. -/
def segments (path : Str) : List Str := (path.strip (cp '/')).split (cp '/')

/-- A pattern segment that fits a segment of a path. -/
def Fits (p a : Str) : Prop := p = a ∨ isPlaceholder p = true

/-- Segments that fit the same pattern segments. -/
def SegmentsAlike (a b : Str) : Prop := a = b ∨ isPlaceholder a = true ∧ isPlaceholder b = true

/-- Paths that no path pattern tells apart. -/
def PathsAlike (p q : Str) : Prop := List.Forall₂ SegmentsAlike (segments p) (segments q)

theorem PathsAlike.symm {p q : Str} (h : PathsAlike p q) : PathsAlike q p := by
  refine List.Forall₂.flip (List.Forall₂.imp ?_ h)
  rintro a b (rfl | ⟨ha, hb⟩)
  · exact .inl rfl
  · exact .inr ⟨hb, ha⟩

theorem segments_ne_nil (p : Str) : segments p ≠ [] := List.splitOn_ne_nil _ _

/-- All segments match iff each one fits. -/
theorem segmentMatches_eq_length_iff {ps as : List Str} (hlen : ps.length = as.length) :
    segmentMatches ps as = ps.length ↔ List.Forall₂ Fits ps as := by
  induction ps generalizing as with
  | nil =>
    cases as with
    | nil => simp [segmentMatches]
    | cons a as => cases hlen
  | cons p ps ih =>
    cases as with
    | nil => cases hlen
    | cons a as =>
      have hlen' : ps.length = as.length := Nat.succ.inj hlen
      have hle : segmentMatches ps as ≤ ps.length := by
        calc segmentMatches ps as ≤ (ps.zip as).length := List.countP_le_length
          _ ≤ ps.length := by simp
      have hcount : segmentMatches (p :: ps) (a :: as) =
          segmentMatches ps as + if (p == a || isPlaceholder p) = true then 1 else 0 := by
        show List.countP _ ((p, a) :: ps.zip as) = _
        rw [List.countP_cons]
        rfl
      rw [hcount, List.length_cons, List.forall₂_cons, ← ih hlen']
      have hfits : (p == a || isPlaceholder p) = true ↔ Fits p a := by
        simp [Fits]
      by_cases hfit : Fits p a
      · rw [if_pos (hfits.mpr hfit)]
        constructor
        · intro h
          exact ⟨hfit, Nat.succ.inj h⟩
        · intro h
          rw [h.2]
      · rw [if_neg fun h => hfit (hfits.mp h)]
        constructor
        · intro h
          omega
        · intro h
          exact absurd h.1 hfit

/-- The similarity of two different paths, by their segments. -/
theorem pathSimilarity_of_ne {p q : Str} (h : p ≠ q) : pathSimilarity p q =
    if (segments p).length ≠ (segments q).length then
      if (((segments p).length : Int) - (segments q).length).natAbs ≤ 1 then 3 / 10 else 0
    else (segmentMatches (segments p) (segments q) : ℚ) / (segments p).length := by
  have hpos : (segments p).length ≠ 0 := fun h => segments_ne_nil p (List.length_eq_zero_iff.mp h)
  have hlast : ∀ x : ℚ, (if (segments p).length = 0 then 1 else x) = x := fun x => if_neg hpos
  unfold pathSimilarity
  rw [if_neg h, ← hlast ((segmentMatches (segments p) (segments q) : ℚ) / (segments p).length)]
  rfl

/-- Full credit for the path means that every segment fits. -/
theorem pathSimilarity_eq_one_iff (p q : Str) :
    pathSimilarity p q = 1 ↔ List.Forall₂ Fits (segments p) (segments q) := by
  by_cases heq : p = q
  · subst heq
    exact iff_of_true (if_pos rfl) (List.forall₂_same.mpr fun _ _ => .inl rfl)
  · rw [pathSimilarity_of_ne heq]
    by_cases hlen : (segments p).length = (segments q).length
    · have hpos : (segments p).length ≠ 0 := fun h => segments_ne_nil p (List.length_eq_zero_iff.mp h)
      rw [if_neg (by simpa using hlen), div_eq_one_iff_eq (by exact_mod_cast hpos),
        ← segmentMatches_eq_length_iff hlen]
      exact Nat.cast_inj
    · rw [if_pos hlen]
      refine iff_of_false ?_ fun h => hlen h.length_eq
      split <;> norm_num

/-- Alike paths score alike against every pattern. -/
theorem PathsAlike.pathSimilarity_eq {p q : Str} (h : PathsAlike p q) (pattern : Str) :
    pathSimilarity pattern p = pathSimilarity pattern q := by
  have hfull : ∀ {p q : Str}, PathsAlike p q → pathSimilarity p q = 1 := by
    intro p q h
    rw [pathSimilarity_eq_one_iff]
    refine List.Forall₂.imp ?_ h
    rintro a b (rfl | ⟨ha, _⟩)
    · exact .inl rfl
    · exact .inr ha
  by_cases hp : pattern = p
  · subst hp
    rw [hfull h]
    exact if_pos rfl
  · by_cases hq : pattern = q
    · subst hq
      rw [hfull h.symm]
      exact (if_pos rfl).symm
    · have hcount : ∀ (ps as bs : List Str), List.Forall₂ SegmentsAlike as bs →
          segmentMatches ps as = segmentMatches ps bs := by
        intro ps as bs hab
        induction hab generalizing ps with
        | nil => rfl
        | @cons a b as bs hseg _ ih =>
          cases ps with
          | nil => rfl
          | cons x ps =>
            have hhead : (x == a || isPlaceholder x) = (x == b || isPlaceholder x) := by
              rcases hseg with rfl | ⟨ha, hb⟩
              · rfl
              · -- Both are placeholders, so whichever `x` equals, it is one.
                cases hx : isPlaceholder x with
                | true => rw [Bool.or_true, Bool.or_true]
                | false =>
                  have hxa : x ≠ a := by
                    rintro rfl
                    rw [hx] at ha
                    cases ha
                  have hxb : x ≠ b := by
                    rintro rfl
                    rw [hx] at hb
                    cases hb
                  simp [hxa, hxb]
            show List.countP _ ((x, a) :: ps.zip as) = List.countP _ ((x, b) :: ps.zip bs)
            rw [List.countP_cons, List.countP_cons]
            dsimp only
            rw [hhead]
            exact congrArg (· + _) (ih ps)
      rw [pathSimilarity_of_ne hp, pathSimilarity_of_ne hq, h.length_eq, hcount _ _ _ h]

/-- **No pattern tells two paths apart iff they are alike.** -/
theorem pathsAlike_iff {p q : Str} :
    PathsAlike p q ↔ ∀ pattern, pathSimilarity pattern p = pathSimilarity pattern q := by
  constructor
  · exact fun h pattern => h.pathSimilarity_eq pattern
  · intro h
    have hself : ∀ p : Str, pathSimilarity p p = 1 := fun p => if_pos rfl
    have hpq := (pathSimilarity_eq_one_iff p q).mp ((h p).symm.trans (hself p))
    have hqp := (pathSimilarity_eq_one_iff q p).mp ((h q).trans (hself q))
    have hboth : List.Forall₂ (fun a b => Fits a b ∧ Fits b a) (segments p) (segments q) := by
      rw [List.forall₂_iff_get] at hpq hqp ⊢
      exact ⟨hpq.1, fun i h₁ h₂ => ⟨hpq.2 i h₁ h₂, hqp.2 i h₂ h₁⟩⟩
    refine List.Forall₂.imp ?_ hboth
    rintro a b ⟨hab | ha, hba | hb⟩
    · exact .inl hab
    · exact .inl hab
    · exact .inl hba.symm
    · exact .inr ⟨ha, hb⟩

/-! ## Bodies and calls -/

/-- The keys the body dimension looks at. -/
def bodyKeys : Json → List Str
  | .obj d => Dict.keys d
  | _      => []

/-- The same keys, in any order. -/
def SameKeys (xs ys : List Str) : Prop := ∀ k, k ∈ xs ↔ k ∈ ys

/-- Bodies that no body schema tells apart. -/
def BodiesAlike (a b : Json) : Prop := a.truthy = b.truthy ∧ SameKeys (bodyKeys a) (bodyKeys b)

/-- Calls that get the same match everywhere. -/
structure CallsAlike (c c' : MatchCall) : Prop where
  method : c.method = c'.method
  protocol : ∀ p, protocolMatches c.protocol p = protocolMatches c'.protocol p
  path : PathsAlike (c.path.before (cp '?')) (c'.path.before (cp '?'))
  headers : SameKeys c.headers.keys c'.headers.keys
  queryParams : SameKeys c.queryParams.keys c'.queryParams.keys
  body : BodiesAlike c.body c'.body

/-! ## Alike calls get the same match -/

theorem memKeys_congr {xs ys : List Str} (h : SameKeys xs ys) (v : Json) : v.memKeys xs = v.memKeys ys := by
  cases v with
  | str s =>
    have hs : xs.contains s = ys.contains s := by
      rw [Bool.eq_iff_iff, List.contains_iff_mem, List.contains_iff_mem]
      exact h s
    show Except.ok (xs.contains s) = Except.ok (ys.contains s)
    rw [hs]
  | null | bool | int | float | arr | obj => rfl

theorem shareOf_congr {xs ys : List Str} (h : SameKeys xs ys) (wanted : Json) :
    shareOf wanted xs = shareOf wanted ys := by
  have hcount : ∀ ks, countKeys xs ks = countKeys ys ks := by
    intro ks
    induction ks with
    | nil => rfl
    | cons k ks ih => rw [countKeys, countKeys, memKeys_congr h, ih]
  unfold shareOf
  simp only [hcount]

theorem bodySimilarity_congr {a b : Json} (h : BodiesAlike a b) (schema : Json) :
    bodySimilarity schema a = bodySimilarity schema b := by
  obtain ⟨htruthy, hkeys⟩ := h
  unfold bodySimilarity
  rw [htruthy]
  split
  · rfl
  · next hboth =>
    have hb : b.truthy = true := by
      cases hb : b.truthy with
      | true => rfl
      | false => simp [hb] at hboth
    -- A body with a key is a dict, and a dict that is not empty has a key.
    have hdict : ∀ {v : Json}, v.truthy = true → ((∃ d, v = .obj d) ↔ ∃ k, k ∈ bodyKeys v) := by
      intro v hv
      cases v with
      | obj d =>
        cases d with
        | nil => cases hv
        | cons kv d => exact iff_of_true ⟨_, rfl⟩ ⟨kv.1, List.mem_cons_self⟩
      | null | bool | int | float | str | arr =>
        refine iff_of_false ?_ ?_
        · rintro ⟨d, hd⟩
          cases hd
        · rintro ⟨k, hk⟩
          exact absurd hk List.not_mem_nil
    have hkinds : (∃ d, a = .obj d) ↔ ∃ d, b = .obj d := by
      rw [hdict (htruthy.trans hb), hdict hb]
      exact exists_congr hkeys
    congr 1
    funext props
    split
    · rfl
    · by_cases hobj : ∃ d, b = .obj d
      · obtain ⟨d, rfl⟩ := hkinds.mpr hobj
        obtain ⟨d', rfl⟩ := hobj
        exact shareOf_congr hkeys props
      · have hnot : ¬∃ d, a = .obj d := fun h => hobj (hkinds.mp h)
        cases a with
        | obj d => exact absurd ⟨d, rfl⟩ hnot
        | null | bool | int | float | str | arr =>
          cases b with
          | obj d => exact absurd ⟨d, rfl⟩ hobj
          | null | bool | int | float | str | arr => rfl

/-- Alike calls have the same similarity to every target, cut short at every score. -/
theorem calculateSimilarity_congr {c c' : MatchCall} (h : CallsAlike c c') (t : PatternTarget) (best : ℚ) :
    calculateSimilarity t (requestInput c) best = calculateSimilarity t (requestInput c') best := by
  have hscore : methodPathScore t (pathOnly c) = methodPathScore t (pathOnly c') := by
    unfold methodPathScore pathOnly
    dsimp only
    rw [h.method, h.path.pathSimilarity_eq]
  have hweight : weight t (pathOnly c) = weight t (pathOnly c') := by
    unfold weight hasBody pathOnly
    dsimp only
    rw [h.body.1]
  have hrest : ∀ score, addRemaining t (pathOnly c) score = addRemaining t (pathOnly c') score := by
    intro score
    unfold addRemaining pathOnly
    dsimp only
    rw [h.body.1, bodySimilarity_congr h.body, shareOf_congr h.headers, shareOf_congr h.queryParams]
  rw [requestInput_eq_pathOnly, requestInput_eq_pathOnly]
  unfold calculateSimilarity
  rw [hscore, hweight]
  simp only [hrest]

/-- **Alike calls get the same match from every pattern set and every database.** -/
theorem findBestMatch_congr {c c' : MatchCall} (h : CallsAlike c c') (cached : Option CachedPatterns)
    (db : PatternTables) : findBestMatch cached db c = findBestMatch cached db c' := by
  have hloop : ∀ {α β : Type} (C : Candidate α β) (items : List α),
      matchLoop C items c = matchLoop C items c' := by
    intro α β C items
    have hshortcuts : shortcuts C c = shortcuts C c' := by
      unfold shortcuts
      simp only [calculateSimilarity_congr h, h.method]
    have hcompatible : compatible C c = compatible C c' := by
      funext item
      exact h.protocol _
    unfold matchLoop
    rw [hshortcuts, hcompatible]
  unfold findBestMatch
  simp only [hloop]

end RideTheApi.Engine
