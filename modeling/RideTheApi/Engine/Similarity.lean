import Mathlib.Data.Rat.Defs
import Mathlib.Algebra.Order.Field.Rat
import Mathlib.Tactic.NormNum
import Mathlib.Tactic.Ring
import RideTheApi.Lib.Dict
import RideTheApi.Lib.Except
import RideTheApi.Lib.WeightedMean
import RideTheApi.Py.Text

/-!
# `Engine.Similarity` — how well a request fits a pattern

`calculateSimilarity` scores method and path first and gives up when full credit on every remaining
dimension could not beat the best score so far. `fullSimilarity` is the specification: the weighted mean
over all dimensions the pattern constrains. The estimate agrees with the mean, or both are no better
than the best score (`calculateSimilarity_estimates`). Scores are exact rationals.
-/

namespace RideTheApi.Engine

open Py

/-- Target pattern parameters for similarity calculation. -/
structure PatternTarget where
  method : Str
  pathPattern : Str
  requiredHeaders : Json := .arr []
  bodySchema : Json := .obj []
  queryParamKeys : Json := .arr []
deriving Repr, DecidableEq

/-- Incoming request inputs for pattern similarity calculation. -/
structure RequestInput where
  method : Str
  path : Str
  headers : Dict Str Str
  body : Json
  queryParams : Dict Str Str
deriving Repr, DecidableEq

/-- Whether a request protocol is compatible with a pattern's protocol. -/
def protocolMatches (reqProto patProto : Str) : Bool :=
  reqProto.isEmpty || patProto.isEmpty || reqProto == patProto ||
    (["http", "https"].map str).contains reqProto && (["http", "https"].map str).contains patProto

/-! ## Path and body -/

/-- A `{placeholder}` segment. -/
def isPlaceholder (p : Str) : Bool := p.head? == some (cp '{') && p.getLast? == some (cp '}')

/-- The segments that match, position by position. -/
def segmentMatches (pParts aParts : List Str) : Nat :=
  (pParts.zip aParts).countP fun pa => pa.1 == pa.2 || isPlaceholder pa.1

/-- Compare a path pattern against an actual path. -/
def pathSimilarity (pattern actual : Str) : ℚ :=
  if pattern = actual then 1
  else
    let pParts := (pattern.strip (cp '/')).split (cp '/')
    let aParts := (actual.strip (cp '/')).split (cp '/')
    if pParts.length ≠ aParts.length then
      if ((pParts.length : Int) - aParts.length).natAbs ≤ 1 then 3 / 10 else 0
    else if pParts.length = 0 then 1
    else segmentMatches pParts aParts / pParts.length

/-- How many of `ks` are keys of the dict. -/
def countKeys (keys : List Str) : List Json → Result Nat
  | []      => .ok 0
  | k :: ks => do
    let hit ← k.memKeys keys
    let n ← countKeys keys ks
    .ok (hit.toNat + n)

/-- The share of the items of `wanted` that are keys of the dict. -/
def shareOf (wanted : Json) (keys : List Str) : Result ℚ := do
  let ks ← wanted.iter
  let n ← countKeys keys ks
  .ok (n / ks.length)

/-- Compare body schema keys against actual body keys. -/
def bodySimilarity (schema body : Json) : Result ℚ :=
  if !schema.truthy || !body.truthy then .ok (1 / 2)
  else do
    let props ← schema.getD "properties" schema
    if !props.truthy then .ok 1
    else match body with
      | .obj kvs => shareOf props (Dict.keys kvs)
      | _        => .ok 0

/-! ## The score -/

/-- A body dimension exists when the pattern models a body or the request carries one. -/
def hasBody (t : PatternTarget) (r : RequestInput) : Bool := t.bodySchema.truthy || r.body.truthy

/-- The weight of the dimensions the pattern constrains. -/
def weight (t : PatternTarget) (r : RequestInput) : ℚ :=
  60 + (if t.requiredHeaders.truthy then 15 else 0) + (if t.queryParamKeys.truthy then 10 else 0) +
    (if hasBody t r then 15 else 0)

/-- The score of method and path. -/
def methodPathScore (t : PatternTarget) (r : RequestInput) : ℚ :=
  (if r.method = t.method then 30 else 0) + 30 * pathSimilarity t.pathPattern r.path

/-- The score of the remaining dimensions, added to `score` one after another. -/
def addRemaining (t : PatternTarget) (r : RequestInput) (score : ℚ) : Result ℚ := do
  let score ← (if t.requiredHeaders.truthy then
      (shareOf t.requiredHeaders r.headers.keys).map fun s => score + 15 * s
    else .ok score)
  let score ← (if t.queryParamKeys.truthy then
      (shareOf t.queryParamKeys r.queryParams.keys).map fun s => score + 10 * s
    else .ok score)
  if t.bodySchema.truthy && r.body.truthy then
    (bodySimilarity t.bodySchema r.body).map fun s => score + 15 * s
  else .ok score

/-- Calculate similarity score, cut short when it cannot beat `bestScore`. -/
def calculateSimilarity (t : PatternTarget) (r : RequestInput) (bestScore : ℚ) : Result ℚ :=
  let score := methodPathScore t r
  let remaining := weight t r - 60
  if (score + remaining) / weight t r ≤ bestScore then .ok (score / weight t r)
  else (addRemaining t r score).map fun s => s / weight t r

/-! ## The specification -/

/-- The dimensions scored first. -/
def methodPathDims (t : PatternTarget) (r : RequestInput) : List (ℚ × ℚ) :=
  [(30, if r.method = t.method then 1 else 0), (30, pathSimilarity t.pathPattern r.path)]

/-- The optional dimensions, each present when the pattern constrains it. A request body that the
    pattern does not model counts against it. -/
def remainingDims (t : PatternTarget) (r : RequestInput) : Result (List (ℚ × ℚ)) := do
  let h ← (if t.requiredHeaders.truthy then
      (shareOf t.requiredHeaders r.headers.keys).map fun s => [((15 : ℚ), s)]
    else .ok [])
  let q ← (if t.queryParamKeys.truthy then
      (shareOf t.queryParamKeys r.queryParams.keys).map fun s => [((10 : ℚ), s)]
    else .ok [])
  let b ← (if hasBody t r then
      (if t.bodySchema.truthy && r.body.truthy then bodySimilarity t.bodySchema r.body else .ok 0).map
        fun s => [((15 : ℚ), s)]
    else .ok [])
  .ok (h ++ q ++ b)

/-- The full weighted similarity. -/
def fullSimilarity (t : PatternTarget) (r : RequestInput) : Result ℚ :=
  (remainingDims t r).map fun ds => WeightedMean.mean (methodPathDims t r ++ ds)

section
variable {t : PatternTarget} {r : RequestInput} {s : ℚ}

/-- No more keys are found than are looked for. -/
theorem countKeys_le {keys : List Str} {ks : List Json} {n : Nat} (h : countKeys keys ks = .ok n) :
    n ≤ ks.length := by
  induction ks generalizing n with
  | nil =>
    cases h
    exact Nat.le_refl 0
  | cons k ks ih =>
    obtain ⟨hit, _, h⟩ := Except.bind_ok_iff.mp h
    obtain ⟨m, hm, h⟩ := Except.bind_ok_iff.mp h
    cases h
    have hhit : hit.toNat ≤ 1 := Bool.toNat_le hit
    have hle := ih hm
    simp only [List.length_cons]
    omega

/-- A share is a credit. -/
theorem share_mem {n m : Nat} (h : n ≤ m) : 0 ≤ (n / m : ℚ) ∧ (n / m : ℚ) ≤ 1 :=
  ⟨by positivity, div_le_one_of_le₀ (by exact_mod_cast h) (by positivity)⟩

theorem shareOf_mem {wanted : Json} {keys : List Str} (h : shareOf wanted keys = .ok s) :
    0 ≤ s ∧ s ≤ 1 := by
  obtain ⟨ks, _, h⟩ := Except.bind_ok_iff.mp h
  obtain ⟨n, hn, h⟩ := Except.bind_ok_iff.mp h
  cases h
  exact share_mem (countKeys_le hn)

theorem bodySimilarity_mem {schema body : Json} (h : bodySimilarity schema body = .ok s) :
    0 ≤ s ∧ s ≤ 1 := by
  unfold bodySimilarity at h
  split at h
  · cases h
    norm_num
  · obtain ⟨props, _, h⟩ := Except.bind_ok_iff.mp h
    split at h
    · cases h
      norm_num
    · split at h
      · exact shareOf_mem h
      · cases h
        norm_num

theorem pathSimilarity_mem (pattern actual : Str) :
    0 ≤ pathSimilarity pattern actual ∧ pathSimilarity pattern actual ≤ 1 := by
  unfold pathSimilarity
  split
  · norm_num
  · dsimp only
    split
    · split <;> norm_num
    · split
      · norm_num
      · refine share_mem ?_
        calc segmentMatches _ _ ≤ (List.zip _ _).length := List.countP_le_length
          _ ≤ _ := by simp

/-! ## Dimensions and weights -/

theorem methodPathDims_valid (t : PatternTarget) (r : RequestInput) :
    WeightedMean.Valid (methodPathDims t r) := by
  intro d hd
  simp only [methodPathDims, List.mem_cons, List.not_mem_nil, or_false] at hd
  rcases hd with rfl | rfl
  · refine ⟨by norm_num, ?_⟩
    split <;> norm_num
  · exact ⟨by norm_num, pathSimilarity_mem _ _⟩

theorem total_methodPathDims (t : PatternTarget) (r : RequestInput) :
    WeightedMean.total (methodPathDims t r) = 60 := by
  norm_num [methodPathDims]

theorem gained_methodPathDims (t : PatternTarget) (r : RequestInput) :
    WeightedMean.gained (methodPathDims t r) = methodPathScore t r := by
  simp [methodPathDims, methodPathScore]

/-- An optional dimension: absent, or of weight `w` with the credit a computation returns. -/
theorem optionalDim_cases {w : ℚ} {c : Bool} {credit : Result ℚ} {ds : List (ℚ × ℚ)}
    (h : (if c then credit.map fun s => [(w, s)] else .ok []) = .ok ds) :
    (c = false ∧ ds = []) ∨ ∃ s, c = true ∧ credit = .ok s ∧ ds = [(w, s)] := by
  cases c with
  | false => exact .inl ⟨rfl, (Except.ok.inj h).symm⟩
  | true =>
    obtain ⟨s, hs, rfl⟩ := Except.map_ok_iff.mp h
    exact .inr ⟨s, rfl, hs, rfl⟩

/-- An optional dimension with a credit is valid. -/
theorem optionalDim_valid {w : ℚ} {c : Bool} {credit : Result ℚ} {ds : List (ℚ × ℚ)} (hw : 0 ≤ w)
    (hc : ∀ s, credit = .ok s → 0 ≤ s ∧ s ≤ 1)
    (h : (if c then credit.map fun s => [(w, s)] else .ok []) = .ok ds) :
    WeightedMean.Valid ds ∧ WeightedMean.total ds = if c then w else 0 := by
  rcases optionalDim_cases h with ⟨rfl, rfl⟩ | ⟨s, rfl, hs, rfl⟩
  · exact ⟨by simp [WeightedMean.Valid], by simp⟩
  · refine ⟨fun d hd => ?_, by simp⟩
    rw [List.mem_singleton.mp hd]
    exact ⟨hw, hc s hs⟩

/-- Adding an optional dimension to a running score adds what it gains. -/
theorem optionalDim_add {w score : ℚ} {c : Bool} {credit : Result ℚ} {ds : List (ℚ × ℚ)}
    (h : (if c then credit.map fun s => [(w, s)] else .ok []) = .ok ds) :
    (if c then credit.map fun s => score + w * s else .ok score) =
      (.ok (score + WeightedMean.gained ds) : Result ℚ) := by
  rcases optionalDim_cases h with ⟨rfl, rfl⟩ | ⟨s, rfl, hs, rfl⟩
  · simp
  · simp [hs, Except.map]

/-- A running score that goes on has an optional dimension that is computed. -/
theorem optionalDim_exists {w score s' : ℚ} {c : Bool} {credit : Result ℚ}
    (h : (if c then credit.map fun s => score + w * s else .ok score) = .ok s') :
    ∃ ds, (if c then credit.map fun s => [(w, s)] else .ok []) = (.ok ds : Result (List (ℚ × ℚ))) := by
  cases c with
  | false => exact ⟨[], rfl⟩
  | true =>
    obtain ⟨s, hs, _⟩ := Except.map_ok_iff.mp h
    exact ⟨[(w, s)], by simp [hs, Except.map]⟩

/-- The credit of the body dimension. -/
theorem bodyCredit_mem (h : (if t.bodySchema.truthy && r.body.truthy then
    bodySimilarity t.bodySchema r.body else .ok 0) = .ok s) : 0 ≤ s ∧ s ≤ 1 := by
  split at h
  · exact bodySimilarity_mem h
  · cases h
    norm_num

/-- **The remaining dimensions**: valid, of the weight beyond method and path, and worth what
    `addRemaining` adds. -/
theorem remainingDims_ok {ds : List (ℚ × ℚ)} (h : remainingDims t r = .ok ds) :
    WeightedMean.Valid ds ∧ WeightedMean.total ds = weight t r - 60 ∧
      ∀ score, addRemaining t r score = .ok (score + WeightedMean.gained ds) := by
  obtain ⟨hs, hh, h⟩ := Except.bind_ok_iff.mp h
  obtain ⟨qs, hq, h⟩ := Except.bind_ok_iff.mp h
  obtain ⟨bs, hb, h⟩ := Except.bind_ok_iff.mp h
  cases h
  obtain ⟨vh, th⟩ := optionalDim_valid (by norm_num) (fun s => shareOf_mem) hh
  obtain ⟨vq, tq⟩ := optionalDim_valid (by norm_num) (fun s => shareOf_mem) hq
  obtain ⟨vb, tb⟩ := optionalDim_valid (by norm_num) (fun s => bodyCredit_mem) hb
  refine ⟨(vh.append vq).append vb, ?_, fun score => ?_⟩
  · simp only [WeightedMean.total_append, th, tq, tb, weight]
    ring
  · simp only [addRemaining, optionalDim_add hh, optionalDim_add hq, Except.ok_bind,
      WeightedMean.gained_append]
    rcases optionalDim_cases hb with ⟨hnb, rfl⟩ | ⟨s, hyb, hs, rfl⟩
    · -- no body on either side
      simp only [hasBody, Bool.or_eq_false_iff] at hnb
      simp [hnb.1, add_assoc]
    · split
      case isTrue hboth =>
        rw [if_pos hboth] at hs
        simp [hs, Except.map, add_assoc]
      case isFalse hnot =>
        -- only one side has a body: the dimension weighs in and gains nothing
        rw [if_neg hnot] at hs
        cases hs
        simp [add_assoc]

/-- Where `addRemaining` succeeds, so do the dimensions it adds. -/
theorem remainingDims_of_addRemaining {score s' : ℚ} (h : addRemaining t r score = .ok s') :
    ∃ ds, remainingDims t r = .ok ds := by
  obtain ⟨s₁, h₁, h⟩ := Except.bind_ok_iff.mp h
  obtain ⟨s₂, h₂, h⟩ := Except.bind_ok_iff.mp h
  obtain ⟨hs, hh⟩ := optionalDim_exists h₁
  obtain ⟨qs, hq⟩ := optionalDim_exists h₂
  obtain ⟨bs, hb⟩ := optionalDim_exists h
  simp only [remainingDims, hh, hq, Except.ok_bind]
  cases hboth : t.bodySchema.truthy && r.body.truthy with
  | true =>
    have hany : hasBody t r = true := by simp_all [hasBody]
    simp only [hboth, if_true] at hb
    exact ⟨hs ++ qs ++ bs, by simp [hany, hb]⟩
  | false =>
    cases hany : hasBody t r with
    | true => exact ⟨hs ++ qs ++ [(15, 0)], by simp [Except.map]⟩
    | false => exact ⟨hs ++ qs ++ [], by simp⟩

/-! ## The estimate against the full score -/

/-- A full similarity is the mean of valid dimensions. -/
theorem fullSimilarity_ok (h : fullSimilarity t r = .ok s) :
    ∃ ds, remainingDims t r = .ok ds ∧ WeightedMean.mean (methodPathDims t r ++ ds) = s ∧
      WeightedMean.Valid ds ∧ WeightedMean.total (methodPathDims t r ++ ds) = weight t r ∧
      ∀ score, addRemaining t r score = .ok (score + WeightedMean.gained ds) := by
  obtain ⟨ds, hds, hmean⟩ := Except.map_ok_iff.mp h
  obtain ⟨hv, ht, hadd⟩ := remainingDims_ok hds
  refine ⟨ds, hds, hmean, hv, ?_, hadd⟩
  rw [WeightedMean.total_append, total_methodPathDims, ht]
  ring

/-- **A full similarity lies in `[0, 1]`.** -/
theorem fullSimilarity_mem (h : fullSimilarity t r = .ok s) : 0 ≤ s ∧ s ≤ 1 := by
  obtain ⟨ds, _, rfl, hv, _, _⟩ := fullSimilarity_ok h
  exact ((methodPathDims_valid t r).append hv).mean_mem

theorem sixty_le_weight (t : PatternTarget) (r : RequestInput) : 60 ≤ weight t r := by
  unfold weight
  split <;> split <;> split <;> norm_num

theorem weight_le_hundred (t : PatternTarget) (r : RequestInput) : weight t r ≤ 100 := by
  unfold weight
  split <;> split <;> split <;> norm_num

/-- **The estimate is the full score, or neither beats the best score.** -/
theorem calculateSimilarity_estimates {best : ℚ} (h : fullSimilarity t r = .ok s) :
    calculateSimilarity t r best = .ok s ∨
      ∃ s', calculateSimilarity t r best = .ok s' ∧ s' ≤ best ∧ s ≤ best := by
  obtain ⟨ds, hds, rfl, hv, ht, hadd⟩ := fullSimilarity_ok h
  have hds60 : WeightedMean.total ds = weight t r - 60 := (remainingDims_ok hds).2.1
  unfold calculateSimilarity
  dsimp only
  split
  case isTrue hcut =>
    refine .inr ⟨_, rfl, ?_, ?_⟩
    · -- no credit on the rest is at most full credit on the rest
      refine le_trans (div_le_div_of_nonneg_right ?_ ?_) hcut
      · linarith [sixty_le_weight t r]
      · linarith [sixty_le_weight t r]
    · calc WeightedMean.mean (methodPathDims t r ++ ds)
          ≤ (WeightedMean.gained (methodPathDims t r) + WeightedMean.total ds) /
              WeightedMean.total (methodPathDims t r ++ ds) :=
            WeightedMean.mean_append_le (methodPathDims_valid t r) hv
        _ = (methodPathScore t r + (weight t r - 60)) / weight t r := by
            rw [gained_methodPathDims, hds60, ht]
        _ ≤ best := hcut
  case isFalse =>
    left
    simp only [hadd, Except.map, WeightedMean.mean, WeightedMean.gained_append, ht,
      gained_methodPathDims]

theorem methodPathScore_mem (t : PatternTarget) (r : RequestInput) :
    0 ≤ methodPathScore t r ∧ methodPathScore t r ≤ 60 := by
  rw [← gained_methodPathDims, ← total_methodPathDims t r]
  exact ⟨(methodPathDims_valid t r).gained_nonneg, (methodPathDims_valid t r).gained_le_total⟩

/-- **Every score that is returned lies in `[0, 1]`**, cut short or not. -/
theorem calculateSimilarity_mem {best : ℚ} (h : calculateSimilarity t r best = .ok s) :
    0 ≤ s ∧ s ≤ 1 := by
  have hw := sixty_le_weight t r
  unfold calculateSimilarity at h
  dsimp only at h
  split at h
  case isTrue =>
    cases h
    obtain ⟨h0, h60⟩ := methodPathScore_mem t r
    exact ⟨div_nonneg h0 (by linarith), div_le_one_of_le₀ (by linarith) (by linarith)⟩
  case isFalse =>
    obtain ⟨s', hadd, rfl⟩ := Except.map_ok_iff.mp h
    obtain ⟨ds, hds⟩ := remainingDims_of_addRemaining hadd
    obtain ⟨_, _, hsum⟩ := remainingDims_ok hds
    have hfull : fullSimilarity t r = .ok (WeightedMean.mean (methodPathDims t r ++ ds)) := by
      simp [fullSimilarity, hds, Except.map]
    obtain ⟨ds', hds', _, _, ht, _⟩ := fullSimilarity_ok hfull
    cases hds.symm.trans hds'
    rw [hsum] at hadd
    cases hadd
    have hmean : WeightedMean.mean (methodPathDims t r ++ ds) =
        (methodPathScore t r + WeightedMean.gained ds) / weight t r := by
      rw [WeightedMean.mean, ht, WeightedMean.gained_append, gained_methodPathDims]
    exact hmean ▸ fullSimilarity_mem hfull

/-- **A method mismatch caps the full score at `0.7`.** -/
theorem fullSimilarity_le_of_method_ne (h : fullSimilarity t r = .ok s) (hm : r.method ≠ t.method) :
    s ≤ 7 / 10 := by
  obtain ⟨ds, hds, rfl, hv, ht, _⟩ := fullSimilarity_ok h
  have hgain : WeightedMean.gained ds ≤ weight t r - 60 := by
    rw [← (remainingDims_ok hds).2.1]
    exact hv.gained_le_total
  have hpath := (pathSimilarity_mem t.pathPattern r.path).2
  have hw := sixty_le_weight t r
  have hw' := weight_le_hundred t r
  rw [WeightedMean.mean, ht, div_le_iff₀ (by linarith), WeightedMean.gained_append,
    gained_methodPathDims, methodPathScore, if_neg hm]
  linarith

end

end RideTheApi.Engine
