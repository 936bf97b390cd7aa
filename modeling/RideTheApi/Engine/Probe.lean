import RideTheApi.Engine.Observation
import RideTheApi.Engine.Serve

/-!
# `Engine.Probe` — telling calls apart by their scores

A **probe** is an applied document with one endpoint, which wants some headers, query names and body keys;
the score of a match against it is the similarity of that endpoint. For each thing in which two calls are
not alike there is a probe that scores them differently, so being alike is exactly what every pattern set
observes (`findBestMatch_alike_iff`).
-/

namespace RideTheApi.Engine

open Py PatternDb FirstMax

/-! ## Probing a call

An endpoint served on its own: its score is the score of the match. -/

/-- An endpoint that wants these headers, query names and body keys. -/
def probeEndpoint (method pattern protocol : Str) (headers queryParams bodyKeys : List Str) : ClientEndpoint where
  id := "probe"
  intent := "probe"
  method := method
  path := pattern
  pathPattern := pattern
  protocol := protocol
  headers := [("required", headers)]
  queryParams := queryParams
  bodySchema :=
    if bodyKeys.isEmpty then none else some [("properties", .obj (bodyKeys.map fun k => (k, .null)))]

/-- A pattern document with one endpoint, applied. -/
def servedAlone (ep : ClientEndpoint) : CachedPatterns :=
  applyPatternDb { patternMeta := { patternId := "probe", vendor := "probe", deviceType := "probe" }
                   client := { endpoints := [ep] } }

/-- What a match selects. -/
def MatchResult.selected (r : MatchResult) : Option MatchedPattern × ℚ := (r.pattern, r.score)

section
variable {ep : ClientEndpoint} {call : MatchCall} {s : ℚ}

/-- Where the remaining dimensions are added, the full similarity is their sum over the weight. -/
theorem fullSimilarity_of_addRemaining {t : PatternTarget} {r : RequestInput}
    (h : addRemaining t r (methodPathScore t r) = .ok s) : fullSimilarity t r = .ok (s / weight t r) := by
  obtain ⟨ds, hds⟩ := remainingDims_of_addRemaining h
  have hfull : fullSimilarity t r = .ok (WeightedMean.mean (methodPathDims t r ++ ds)) := by
    unfold fullSimilarity
    rw [hds]
    rfl
  obtain ⟨ds', hds', _, _, ht, hadd⟩ := fullSimilarity_ok hfull
  cases hds.symm.trans hds'
  rw [hadd] at h
  cases h
  rw [hfull, WeightedMean.mean, ht, WeightedMean.gained_append, gained_methodPathDims]

/-- **The score of a match against one endpoint is that endpoint's similarity.** -/
theorem score_servedAlone (hp : protocolMatches call.protocol ep.protocol = true)
    (h : fullSimilarity (compileEndpoint ep).target (pathOnly call) = .ok s) (db : PatternTables) :
    ∃ r, findBestMatch (some (servedAlone ep)) db call = .ok r ∧ r.score = s := by
  let C := compiledCandidate (servedAlone ep).triggerMap
  have hfilter : (servedAlone ep).compiled.filter (compatible C call) = [compileEndpoint ep] :=
    List.filter_eq_self.mpr fun c hc => by
      rw [List.mem_singleton.mp hc]
      exact hp
  have hscan : ∃ b, exhaustiveLoop C (servedAlone ep).compiled call = .ok b ∧ b.score = s := by
    have hstep : exhaustiveLoop C (servedAlone ep).compiled call =
        (Best.offer C.fetch ⟨0, none⟩ (compileEndpoint ep) s) := by
      unfold exhaustiveLoop
      rw [hfilter]
      have hscore : candidateScore C call (compileEndpoint ep) = .ok s := h
      rw [scan, hscore]
      show (Best.offer C.fetch ⟨0, none⟩ (compileEndpoint ep) s >>= Except.ok) = _
      cases Best.offer C.fetch ⟨0, none⟩ (compileEndpoint ep) s with
      | error e => rfl
      | ok b => rfl
    rw [hstep]
    by_cases hs : 0 < s
    · exact ⟨_, if_pos hs, rfl⟩
    · refine ⟨⟨0, none⟩, if_neg hs, ?_⟩
      have hmem := (fullSimilarity_mem h).1
      exact le_antisymm hmem (not_lt.mp hs)
  obtain ⟨b, hb, hscore⟩ := hscan
  refine ⟨endpointResult b, ?_, hscore⟩
  show Except.map endpointResult (matchLoop C _ call) = _
  rw [matchLoop_eq (fun _ => rfl) hb]
  rfl

/-- An endpoint of a protocol the call is not compatible with is not scored. -/
theorem score_servedAlone_filtered (hp : protocolMatches call.protocol ep.protocol = false) (db : PatternTables) :
    findBestMatch (some (servedAlone ep)) db call = .ok { pattern := none, template := none, score := 0 } := by
  have hloop : matchLoop (compiledCandidate (servedAlone ep).triggerMap) (servedAlone ep).compiled call =
      .ok ⟨0, none⟩ := by
    apply prunedScan_of_not_admits
    intro c hc
    rw [List.mem_singleton.mp hc]
    exact hp
  show Except.map endpointResult _ = _
  rw [hloop]
  rfl

end

/-! ## What a probe measures -/

/-- The share of the wanted names that are there. -/
def shareIn (wanted keys : List Str) : ℚ := (wanted.countP keys.contains : ℚ) / wanted.length

theorem shareIn_nil (keys : List Str) : shareIn [] keys = 0 := by
  show ((0 : Nat) : ℚ) / ((0 : Nat) : ℚ) = 0
  norm_num

theorem shareIn_singleton (k : Str) (keys : List Str) : shareIn [k] keys = if k ∈ keys then 1 else 0 := by
  unfold shareIn
  by_cases hk : k ∈ keys
  · rw [if_pos hk, List.countP_singleton, if_pos (List.contains_iff_mem.mpr hk)]
    norm_num
  · rw [if_neg hk, List.countP_singleton, if_neg fun h => hk (List.contains_iff_mem.mp h)]
    norm_num

theorem shareOf_strings {wanted : Json} {ws : List Str} (h : wanted.iter = .ok (ws.map .str)) (keys : List Str) :
    shareOf wanted keys = .ok (shareIn ws keys) := by
  have hcount : ∀ ws : List Str, countKeys keys (ws.map .str) = .ok (ws.countP keys.contains) := by
    intro ws
    induction ws with
    | nil => rfl
    | cons w ws ih =>
      rw [List.map_cons, countKeys, ih, List.countP_cons]
      show Except.ok ((keys.contains w).toNat + ws.countP keys.contains) = _
      cases keys.contains w with
      | true => rw [if_pos rfl, Bool.toNat_true, Nat.add_comm]
      | false => rw [if_neg Bool.false_ne_true, Bool.toNat_false, Nat.zero_add, Nat.add_zero]
  unfold shareOf
  rw [h]
  show (countKeys keys (ws.map .str) >>= _) = _
  rw [hcount]
  show Except.ok ((ws.countP keys.contains : ℚ) / ((ws.map JsonTree.str).length : Nat)) = _
  rw [List.length_map]
  rfl

/-- A dimension of wanted names adds its share, whether or not any name is wanted. -/
theorem add_share (w score : ℚ) (ws keys : List Str) :
    (if (ofStrList ws).truthy then (shareOf (ofStrList ws) keys).map fun s => score + w * s else .ok score) =
      (.ok (score + w * shareIn ws keys) : Result ℚ) := by
  cases ws with
  | nil =>
    rw [shareIn_nil, mul_zero, add_zero]
    rfl
  | cons k ks =>
    rw [shareOf_strings rfl]
    rfl

/-- A body schema that wants these keys. -/
def probeSchema (keys : List Str) : Dict Str Json :=
  if keys.isEmpty then [] else [("properties", .obj (keys.map fun k => (k, .null)))]

/-- What a probe is compiled to. -/
def probeTarget (method pattern : Str) (headers queryParams keys : List Str) : PatternTarget where
  method := method
  pathPattern := pattern
  requiredHeaders := ofStrList headers
  bodySchema := .obj (probeSchema keys)
  queryParamKeys := ofStrList queryParams

section
variable {method pattern protocol : Str} {headers queryParams keys : List Str} {r : RequestInput}

theorem target_probe : (compileEndpoint (probeEndpoint method pattern protocol headers queryParams keys)).target =
    probeTarget method pattern headers queryParams keys := by
  have hpath : orStr pattern pattern = pattern := ite_self _
  unfold compileEndpoint probeEndpoint probeTarget probeSchema
  dsimp only
  rw [hpath]
  cases keys with
  | nil => rfl
  | cons k ks => rfl

/-- The body dimension of a probe adds the share of its keys when the request has a body. -/
theorem add_body (keys : List Str) (score : ℚ) (body : Json) :
    (if (Json.truthy (.obj (probeSchema keys)) && body.truthy) = true then
        (bodySimilarity (.obj (probeSchema keys)) body).map fun s => score + 15 * s
      else .ok score) =
      (.ok (score + if body.truthy then 15 * shareIn keys (bodyKeys body) else 0) : Result ℚ) := by
  cases hbody : body.truthy with
  | false => rw [Bool.and_false, if_neg Bool.false_ne_true, if_neg Bool.false_ne_true, add_zero]
  | true =>
    cases keys with
    | nil =>
      rw [shareIn_nil, mul_zero, if_pos rfl, add_zero]
      rfl
    | cons k ks =>
      have hsimilarity : bodySimilarity (.obj (probeSchema (k :: ks))) body =
          .ok (shareIn (k :: ks) (bodyKeys body)) := by
        unfold bodySimilarity
        rw [hbody]
        cases body with
        | obj kvs =>
          show shareOf (.obj ((k :: ks).map fun k => (k, .null))) (Dict.keys kvs) = _
          apply shareOf_strings
          show Except.ok (((k :: ks).map fun k => (k, JsonTree.null)).map fun kv => JsonTree.str kv.1) = _
          rw [List.map_map]
          rfl
        | null | bool | int | float | str | arr =>
          show Except.ok (0 : ℚ) = .ok (((k :: ks).countP fun _ => false : Nat) / _)
          rw [List.countP_false]
          norm_num
      rw [hsimilarity, if_pos rfl]
      rfl

/-- The score a probe measures, over everything it wants. -/
def probeScore (method pattern : Str) (headers queryParams keys : List Str) (r : RequestInput) : ℚ :=
  ((if r.method = method then 30 else 0) + 30 * pathSimilarity pattern r.path +
      15 * shareIn headers r.headers.keys + 10 * shareIn queryParams r.queryParams.keys +
      if r.body.truthy then 15 * shareIn keys (bodyKeys r.body) else 0) /
    (60 + (if headers = [] then 0 else 15) + (if queryParams = [] then 0 else 10) +
      if keys = [] ∧ r.body.truthy = false then 0 else 15)

theorem fullSimilarity_probe : fullSimilarity (probeTarget method pattern headers queryParams keys) r =
    .ok (probeScore method pattern headers queryParams keys r) := by
  have hadd : ∀ score, addRemaining (probeTarget method pattern headers queryParams keys) r score =
      .ok (score + 15 * shareIn headers r.headers.keys + 10 * shareIn queryParams r.queryParams.keys +
        if r.body.truthy then 15 * shareIn keys (bodyKeys r.body) else 0) := by
    intro score
    unfold addRemaining probeTarget
    dsimp only
    rw [add_share, Except.ok_bind, add_share, Except.ok_bind, add_body]
  have hweight : weight (probeTarget method pattern headers queryParams keys) r =
      60 + (if headers = [] then 0 else 15) + (if queryParams = [] then 0 else 10) +
        (if keys = [] ∧ r.body.truthy = false then 0 else 15) := by
    unfold weight hasBody probeTarget probeSchema
    cases headers <;> cases queryParams <;> cases keys <;> cases r.body.truthy <;> rfl
  rw [fullSimilarity_of_addRemaining (hadd _), hweight]
  rfl

end

/-! ## A difference shows in some score -/

/-- Calls that score alike against every document with one endpoint. -/
def ScoreAlike (c c' : MatchCall) : Prop :=
  ∀ ep db, (findBestMatch (some (servedAlone ep)) db c).map MatchResult.score =
    (findBestMatch (some (servedAlone ep)) db c').map MatchResult.score

section
variable {c c' : MatchCall}

theorem ScoreAlike.symm (h : ScoreAlike c c') : ScoreAlike c' c := fun ep db => (h ep db).symm

/-- The score of a match against one probe. -/
theorem score_probe (c : MatchCall) (method pattern protocol : Str) (headers queryParams keys : List Str)
    (db : PatternTables) :
    (findBestMatch (some (servedAlone (probeEndpoint method pattern protocol headers queryParams keys))) db c).map
        MatchResult.score =
      .ok (if protocolMatches c.protocol protocol then probeScore method pattern headers queryParams keys (pathOnly c)
        else 0) := by
  cases hp : protocolMatches c.protocol protocol with
  | true =>
    have hfull : fullSimilarity (compileEndpoint
        (probeEndpoint method pattern protocol headers queryParams keys)).target (pathOnly c) =
        .ok (probeScore method pattern headers queryParams keys (pathOnly c)) := by
      rw [target_probe]
      exact fullSimilarity_probe
    obtain ⟨r, hr, hs⟩ := score_servedAlone hp hfull db
    rw [hr, if_pos rfl, ← hs]
    rfl
  | false =>
    rw [score_servedAlone_filtered hp]
    rfl

/-- Every probe without a protocol measures the same score. -/
theorem ScoreAlike.probeScore_eq (h : ScoreAlike c c') (method pattern : Str) (headers queryParams keys : List Str) :
    probeScore method pattern headers queryParams keys (pathOnly c) =
      probeScore method pattern headers queryParams keys (pathOnly c') := by
  have hany : ∀ protocol, protocolMatches protocol [] = true := by
    intro protocol
    unfold protocolMatches
    rw [List.isEmpty_nil, Bool.or_true, Bool.true_or, Bool.true_or]
  have heq := h (probeEndpoint method pattern [] headers queryParams keys) ⟨[], []⟩
  rw [score_probe, score_probe, if_pos (hany _), if_pos (hany _)] at heq
  exact Except.ok.inj heq

/-- What a probe without wishes measures. -/
theorem probeScore_plain (method pattern : Str) (c : MatchCall) :
    probeScore method pattern [] [] [] (pathOnly c) =
      ((if c.method = method then 30 else 0) + 30 * pathSimilarity pattern (c.path.before (cp '?'))) /
        if c.body.truthy = true then 75 else 60 := by
  unfold probeScore pathOnly
  dsimp only
  rw [shareIn_nil, shareIn_nil, shareIn_nil]
  cases c.body.truthy with
  | true => norm_num
  | false => norm_num

theorem pathSimilarity_self (p : Str) : pathSimilarity p p = 1 := if_pos rfl

theorem ScoreAlike.method (h : ScoreAlike c c') : c.method = c'.method := by
  by_contra hne
  have heq := h.probeScore_eq c.method (c.path.before (cp '?')) [] [] []
  rw [probeScore_plain, probeScore_plain, if_pos rfl, if_neg (Ne.symm hne), pathSimilarity_self] at heq
  -- At least 4/5 on one side, at most 1/2 on the other.
  have hle := (pathSimilarity_mem (c.path.before (cp '?')) (c'.path.before (cp '?'))).2
  have hge := (pathSimilarity_mem (c.path.before (cp '?')) (c'.path.before (cp '?'))).1
  split at heq <;> split at heq <;> linarith

theorem ScoreAlike.body_truthy (h : ScoreAlike c c') : c.body.truthy = c'.body.truthy := by
  have hone : ∀ {c c' : MatchCall}, ScoreAlike c c' → c.body.truthy = true → c'.body.truthy = true := by
    intro c c' h hbody
    by_contra hnot
    -- The path of the call without a body scores 1 there, and at most 60/75 where a body weighs in.
    have heq := h.probeScore_eq c.method (c'.path.before (cp '?')) [] [] []
    rw [probeScore_plain, probeScore_plain, if_pos rfl, if_pos h.method.symm, if_pos hbody, if_neg hnot,
      pathSimilarity_self] at heq
    have hle := (pathSimilarity_mem (c'.path.before (cp '?')) (c.path.before (cp '?'))).2
    linarith
  rw [Bool.eq_iff_iff]
  exact ⟨hone h, hone h.symm⟩

theorem ScoreAlike.path (h : ScoreAlike c c') :
    PathsAlike (c.path.before (cp '?')) (c'.path.before (cp '?')) := by
  rw [pathsAlike_iff]
  intro pattern
  have heq := h.probeScore_eq c.method pattern [] [] []
  rw [probeScore_plain, probeScore_plain, if_pos rfl, if_pos h.method.symm, h.body_truthy] at heq
  split at heq <;> linarith

theorem ScoreAlike.protocol (h : ScoreAlike c c') (p : Str) :
    protocolMatches c.protocol p = protocolMatches c'.protocol p := by
  have hone : ∀ {c c' : MatchCall}, ScoreAlike c c' → protocolMatches c.protocol p = true →
      protocolMatches c'.protocol p = true := by
    intro c c' h hp
    by_contra hnot
    -- A probe of this protocol that fits the call scores there and is filtered out here.
    have heq := h (probeEndpoint c.method (c.path.before (cp '?')) p [] [] []) ⟨[], []⟩
    rw [score_probe, score_probe, if_pos hp, if_neg hnot, probeScore_plain, if_pos rfl, pathSimilarity_self] at heq
    have hzero := Except.ok.inj heq
    split at hzero <;> norm_num at hzero
  rw [Bool.eq_iff_iff]
  exact ⟨hone h, hone h.symm⟩

/-- Names whose presence weighs alike are the same names. -/
theorem sameKeys_of_shareIn {xs ys : List Str} (h : ∀ k, shareIn [k] xs = shareIn [k] ys) : SameKeys xs ys := by
  intro k
  have hk := h k
  rw [shareIn_singleton, shareIn_singleton] at hk
  by_cases hx : k ∈ xs
  · by_cases hy : k ∈ ys
    · exact iff_of_true hx hy
    · rw [if_pos hx, if_neg hy] at hk
      norm_num at hk
  · by_cases hy : k ∈ ys
    · rw [if_neg hx, if_pos hy] at hk
      norm_num at hk
    · exact iff_of_false hx hy

/-- What a probe adds to method and path, over a weight both calls share. -/
theorem ScoreAlike.shares (h : ScoreAlike c c') (headers queryParams keys : List Str) :
    15 * shareIn headers c.headers.keys + 10 * shareIn queryParams c.queryParams.keys +
        (if c.body.truthy then 15 * shareIn keys (bodyKeys c.body) else 0) =
      15 * shareIn headers c'.headers.keys + 10 * shareIn queryParams c'.queryParams.keys +
        (if c'.body.truthy then 15 * shareIn keys (bodyKeys c'.body) else 0) := by
  have heq := h.probeScore_eq c.method (c.path.before (cp '?')) headers queryParams keys
  unfold probeScore pathOnly at heq
  dsimp only at heq
  rw [if_pos rfl, if_pos h.method.symm, ← h.path.pathSimilarity_eq, ← h.body_truthy] at heq
  rw [← h.body_truthy]
  have hweight : (60 + (if headers = [] then (0 : ℚ) else 15) + (if queryParams = [] then 0 else 10) +
      if keys = [] ∧ c.body.truthy = false then 0 else 15) ≠ 0 := by
    split <;> split <;> split <;> norm_num
  have hnum := (div_left_inj' hweight).mp heq
  linarith

/-- **Calls that score alike against every document are alike.** -/
theorem ScoreAlike.callsAlike (h : ScoreAlike c c') : CallsAlike c c' where
  method := h.method
  protocol := h.protocol
  path := h.path
  headers := sameKeys_of_shareIn fun k => by
    have hk := h.shares [k] [] []
    rw [shareIn_nil, shareIn_nil, shareIn_nil, shareIn_nil] at hk
    simpa using hk
  queryParams := sameKeys_of_shareIn fun k => by
    have hk := h.shares [] [k] []
    rw [shareIn_nil, shareIn_nil, shareIn_nil, shareIn_nil] at hk
    simpa using hk
  body := by
    refine ⟨h.body_truthy, ?_⟩
    cases hbody : c.body.truthy with
    | true =>
      refine sameKeys_of_shareIn fun k => ?_
      have hk := h.shares [] [] [k]
      rw [shareIn_nil, shareIn_nil, shareIn_nil, shareIn_nil, ← h.body_truthy, hbody] at hk
      simpa using hk
    | false =>
      -- A body that counts as absent has no keys.
      have hnone : ∀ {v : Json}, v.truthy = false → bodyKeys v = [] := by
        intro v hv
        cases v with
        | obj d =>
          cases d with
          | nil => rfl
          | cons kv d => cases hv
        | null | bool | int | float | str | arr => rfl
      rw [hnone hbody, hnone (h.body_truthy.symm.trans hbody)]
      exact fun _ => Iff.rfl

/-- **Two calls get the same pattern and score from every pattern set and every database iff they are
    alike**. -/
theorem findBestMatch_alike_iff : CallsAlike c c' ↔ ∀ cached db,
    (findBestMatch cached db c).map MatchResult.selected = (findBestMatch cached db c').map MatchResult.selected := by
  constructor
  · intro h cached db
    rw [findBestMatch_congr h]
  · intro h
    apply ScoreAlike.callsAlike
    intro ep db
    have hscore : ∀ x : Result MatchResult, x.map MatchResult.score = (x.map MatchResult.selected).map Prod.snd := by
      intro x
      cases x with
      | error e => rfl
      | ok r => rfl
    rw [hscore, hscore, h (some (servedAlone ep)) db]

end

end RideTheApi.Engine
