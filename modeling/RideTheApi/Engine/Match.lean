import RideTheApi.Engine.Similarity
import RideTheApi.Lib.FirstMax
import RideTheApi.PatternDb.Rows
import RideTheApi.PatternDb.Schemas

/-!
# `Engine.Match` — finding the best matching pattern

`findBestMatch` walks the compiled endpoints of the device's in-memory pattern set, or, when there is
none, the rows of its database. Both walks are one pruned scan (`Lib.FirstMax`) over a different kind of
candidate: they leave at score 1, pass over a candidate of another method once the best score reaches
0.7, and cut a similarity short. `exhaustiveMatch` scores every protocol-compatible candidate in full.
-/

namespace RideTheApi.Engine

open Py PatternDb FirstMax

/-- Pre-compiled endpoint details. -/
structure CompiledEndpoint where
  endpoint : ClientEndpoint
  target : PatternTarget
  protocol : Str
  intent : Str
deriving Repr, DecidableEq

/-- A pattern set served from memory: the compiled endpoints and the trigger map. -/
structure CachedPatterns where
  compiled : List CompiledEndpoint
  triggerMap : Dict Str ServerResponse
deriving Repr, DecidableEq

/-- The tables a database match reads. -/
structure PatternTables where
  patterns : List RequestPattern
  templates : List ResponseTemplate
deriving Repr, DecidableEq

/-- The pattern a match selects. -/
inductive MatchedPattern where
  | endpoint (ep : ClientEndpoint)
  | row (pat : RequestPattern)
deriving Repr, DecidableEq

/-- The response template that goes with it. -/
inductive Template where
  | response (resp : ServerResponse)
  | row (tmpl : ResponseTemplate)
deriving Repr, DecidableEq

/-- What `find_best_match` returns. -/
structure MatchResult where
  pattern : Option MatchedPattern
  template : Option Template
  score : ℚ
deriving Repr, DecidableEq

/-- The arguments of a match. -/
structure MatchCall where
  method : Str
  path : Str
  headers : Dict Str Str
  body : Json
  queryParams : Dict Str Str
  protocol : Str := []
deriving Repr, DecidableEq

/-- How the matching loop reads a candidate, and how it fetches the template of a new best one. -/
structure Candidate (α β : Type) where
  method : α → Str
  protocol : α → Str
  target : α → PatternTarget
  fetch : α → Result β

/-- A compiled endpoint as a candidate: its template is a trigger lookup. -/
def compiledCandidate (triggerMap : Dict Str ServerResponse) :
    Candidate CompiledEndpoint (Option ServerResponse) where
  method item := item.target.method
  protocol item := item.protocol
  target item := item.target
  fetch item := .ok (responseForEndpoint triggerMap item.endpoint.id item.intent)

/-- A pattern row as a candidate: its template is selected by pattern id. -/
def rowCandidate (templates : List ResponseTemplate) :
    Candidate RequestPattern (Option ResponseTemplate) where
  method pat := pat.method
  protocol pat := pat.protocol
  target pat :=
    { method := pat.method
      pathPattern := pat.pathPattern
      requiredHeaders := pat.requiredHeaders.orElse (.arr [])
      bodySchema := pat.bodySchema.orElse (.obj [])
      queryParamKeys := pat.queryParamKeys.orElse (.arr []) }
  fetch pat := scalarOneOrNone (templates.filter fun tmpl => tmpl.patternId == pat.patternId)

/-- The request as the similarity sees it: the query string is cut off the path. -/
def requestInput (call : MatchCall) : RequestInput where
  method := call.method
  path := if call.path.contains (cp '?') then call.path.before (cp '?') else call.path
  headers := call.headers
  body := call.body
  queryParams := call.queryParams

/-- The shortcuts of the matching loop. -/
def shortcuts {α β : Type} (C : Candidate α β) (call : MatchCall) : Pruning Exn ℚ α where
  stop best := decide (1 ≤ best)
  skip best item := decide (7 / 10 ≤ best) && C.method item != call.method
  estimate best item := calculateSimilarity (C.target item) (requestInput call) best

/-- The protocol filter. -/
def compatible {α β : Type} (C : Candidate α β) (call : MatchCall) (item : α) : Bool :=
  protocolMatches call.protocol (C.protocol item)

/-- The matching loop. -/
def matchLoop {α β : Type} (C : Candidate α β) (items : List α) (call : MatchCall) :
    Result (Best ℚ α β) :=
  prunedScan (shortcuts C call) (compatible C call) C.fetch ⟨0, none⟩ items

/-- The result of a walk over compiled endpoints. -/
def endpointResult (b : Best ℚ CompiledEndpoint (Option ServerResponse)) : MatchResult where
  pattern := b.found.map fun p => .endpoint p.1.endpoint
  template := b.found.bind fun p => p.2.map .response
  score := b.score

/-- The result of a walk over pattern rows. -/
def rowResult (b : Best ℚ RequestPattern (Option ResponseTemplate)) : MatchResult where
  pattern := b.found.map fun p => .row p.1
  template := b.found.bind fun p => p.2.map .row
  score := b.score

/-- Find the best matching pattern: in the in-memory set when there is one, else in the database. -/
def findBestMatch (cached : Option CachedPatterns) (db : PatternTables) (call : MatchCall) :
    Result MatchResult :=
  match cached with
  | some c => (matchLoop (compiledCandidate c.triggerMap) c.compiled call).map endpointResult
  | none   => (matchLoop (rowCandidate db.templates) db.patterns call).map rowResult

/-! ## The specification -/

/-- The request the exhaustive scan scores: the path is everything before the first `?`. -/
def pathOnly (call : MatchCall) : RequestInput where
  method := call.method
  path := call.path.before (cp '?')
  headers := call.headers
  body := call.body
  queryParams := call.queryParams

/-- The full similarity of a candidate. -/
def candidateScore {α β : Type} (C : Candidate α β) (call : MatchCall) (item : α) : Result ℚ :=
  fullSimilarity (C.target item) (pathOnly call)

/-- The exhaustive scan: score every protocol-compatible candidate, keep the first maximum above 0. -/
def exhaustiveLoop {α β : Type} (C : Candidate α β) (items : List α) (call : MatchCall) :
    Result (Best ℚ α β) :=
  scan (candidateScore C call) C.fetch ⟨0, none⟩ (items.filter (compatible C call))

/-- The exhaustive match, over the same source of candidates as `findBestMatch`. -/
def exhaustiveMatch (cached : Option CachedPatterns) (db : PatternTables) (call : MatchCall) :
    Result MatchResult :=
  match cached with
  | some c => (exhaustiveLoop (compiledCandidate c.triggerMap) c.compiled call).map endpointResult
  | none   => (exhaustiveLoop (rowCandidate db.templates) db.patterns call).map rowResult

section
variable {α β : Type} {C : Candidate α β} {call : MatchCall} {items : List α} {b : Best ℚ α β}

/-- Cutting the query string leaves what stands before the first `?`. -/
theorem requestInput_eq_pathOnly (call : MatchCall) : requestInput call = pathOnly call := by
  unfold requestInput pathOnly
  split
  case isTrue => rfl
  case isFalse hq =>
    have hall : ∀ c ∈ call.path, (c != cp '?') = true := by
      intro c hc
      simp only [bne_iff_ne, ne_eq]
      rintro rfl
      exact hq (by simpa using hc)
    rw [Str.before, List.takeWhile_eq_self_iff.mpr hall]

/-- **Every shortcut of the loop is justified by an upper bound on the full similarity.** -/
theorem shortcuts_sound (C : Candidate α β) (call : MatchCall) (hm : ∀ a, C.method a = (C.target a).method) :
    (shortcuts C call).Sound (candidateScore C call) where
  stop hstop hs := le_trans (fullSimilarity_mem hs).2 (of_decide_eq_true hstop)
  skip hskip hs := by
    simp only [shortcuts, Bool.and_eq_true, decide_eq_true_eq, bne_iff_ne, ne_eq, hm] at hskip
    exact le_trans (fullSimilarity_le_of_method_ne hs (Ne.symm hskip.2)) hskip.1
  estimate best _ _ hs := by
    simp only [shortcuts, requestInput_eq_pathOnly]
    exact calculateSimilarity_estimates hs

/-- The loop returns what the exhaustive scan returns. -/
theorem matchLoop_eq (hm : ∀ a, C.method a = (C.target a).method)
    (h : exhaustiveLoop C items call = .ok b) : matchLoop C items call = .ok b :=
  prunedScan_eq (shortcuts_sound C call hm) h

/-- The exhaustive scan finds the first maximum above 0 among the compatible candidates. -/
theorem exhaustiveLoop_isFirstMax (h : exhaustiveLoop C items call = .ok b) :
    IsFirstMax (candidateScore C call) C.fetch 0 (items.filter (compatible C call)) b :=
  scan_isFirstMax h

/-- The best score lies in `[0, 1]`. -/
theorem exhaustiveLoop_score_mem (h : exhaustiveLoop C items call = .ok b) :
    0 ≤ b.score ∧ b.score ≤ 1 := by
  cases exhaustiveLoop_isFirstMax h with
  | none => norm_num
  | some _ hs => exact fullSimilarity_mem hs

end

/-- **The optimised matcher equals the plain one**, for every in-memory set and every database, and its
    score lies in `[0, 1]`; so does every similarity computed on the way, cut short or not. -/
theorem findBestMatch_eq_exhaustiveMatch {cached : Option CachedPatterns} {db : PatternTables}
    {call : MatchCall} {r : MatchResult} (h : exhaustiveMatch cached db call = .ok r) :
    findBestMatch cached db call = .ok r ∧ (0 ≤ r.score ∧ r.score ≤ 1) ∧
      ∀ t req best s, calculateSimilarity t req best = .ok s → 0 ≤ s ∧ s ≤ 1 := by
  refine ⟨?_, ?_, fun t req best s => calculateSimilarity_mem⟩
  · cases cached with
    | some c =>
      obtain ⟨b, hb, rfl⟩ := Except.map_ok_iff.mp h
      rw [findBestMatch, matchLoop_eq (fun _ => rfl) hb]
      rfl
    | none =>
      obtain ⟨b, hb, rfl⟩ := Except.map_ok_iff.mp h
      rw [findBestMatch, matchLoop_eq (fun _ => rfl) hb]
      rfl
  · cases cached with
    | some c =>
      obtain ⟨b, hb, rfl⟩ := Except.map_ok_iff.mp h
      exact exhaustiveLoop_score_mem hb
    | none =>
      obtain ⟨b, hb, rfl⟩ := Except.map_ok_iff.mp h
      exact exhaustiveLoop_score_mem hb

/-! ## A thermostat's patterns -/

/-- `GET /v1/{id}/state`, then `POST /v1/{id}/state` with a modelled body. -/
def thermostatPatterns : CachedPatterns where
  compiled :=
    [{ endpoint := { id := "get-state", intent := "read", pathPattern := "/v1/{id}/state" }
       target := { method := "GET", pathPattern := "/v1/{id}/state" }
       protocol := "http"
       intent := "read" },
     { endpoint := { id := "set-state", intent := "write", method := "POST", pathPattern := "/v1/{id}/state" }
       target :=
        { method := "POST"
          pathPattern := "/v1/{id}/state"
          bodySchema := .obj [("mode", .str "string"), ("target", .str "number")] }
       protocol := "http"
       intent := "write" }]
  triggerMap := [("write", { id := "tpl_set", triggers := [("write" : Str)] })]

/-- A `POST` over TLS with a query string and a body that has one of the two modelled keys. -/
def thermostatCall : MatchCall where
  method := "POST"
  path := "/v1/42/state?ts=1"
  headers := []
  body := .obj [("mode", .str "eco")]
  queryParams := [("ts", "1")]
  protocol := "https"

theorem findBestMatch_thermostat :
    findBestMatch (some thermostatPatterns) ⟨[], []⟩ thermostatCall =
        .ok { pattern := some (.endpoint { id := "set-state", intent := "write", method := "POST",
                                           pathPattern := "/v1/{id}/state" })
              template := some (.response { id := "tpl_set", triggers := [("write" : Str)] })
              score := 9 / 10 } ∧
      ((0 : ℚ) ≤ 9 / 10 ∧ (9 / 10 : ℚ) ≤ 1) ∧
      ∀ t req best s, calculateSimilarity t req best = .ok s → 0 ≤ s ∧ s ≤ 1 :=
  findBestMatch_eq_exhaustiveMatch (by decide +kernel)

end RideTheApi.Engine
