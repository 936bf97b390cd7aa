import RideTheApi.Pipeline.LearnedRows
import RideTheApi.Py.Equal

/-!
# `PatternDb.Ingest` — storing the patterns of an LLM output

`ingest` stores every pattern of an output that is not stored yet, in one transaction. It looks up the ids that
the output names beforehand, and skips what it finds among them. An id that is empty is not looked up, and a
missing one is drawn anew each time, so only an output that names every pattern is ingested once
(`idempotent_iff`).
-/

namespace RideTheApi.Ingest

open Py PatternDb
open SavePatterns (PatternRow MappingRow LearnedCounters defaultConfidence field learnedFormula)

/-- What ingesting takes from the interpreter and from the driver of the device database. A JSON column takes
    every value that was read from JSON. -/
structure Host where
  interp : Interp
  /-- `float(value)`. -/
  toFloat : Json → Result (BitVec 64)
  /-- What a text column that may not be null stores of a value. -/
  bindText : Json → Result Str
  /-- What an integer column that may not be null stores of a value. -/
  bindInt : Json → Result Json
  /-- A query for the patterns with these ids. -/
  query : List Str → Result Unit

/-- A row of `response_templates`. -/
structure TemplateRow where
  templateId : Str
  patternId : Str
  statusCode : Json
  headersTemplate : Json
  bodyTemplate : Json
  fieldMappings : Dict Json Json
  expectedVariables : List Json
  confidence : BitVec 64
deriving Repr, DecidableEq

/-- The tables of a device that are written. -/
structure Db where
  patterns : List PatternRow := []
  templates : List TemplateRow := []
  mappings : List MappingRow := []
  stats : List LearnedCounters := []
deriving Repr, DecidableEq

/-- What `uuid4().hex[:8]` yields: for the `n`-th pattern, and for the `k`-th field mapping of it. -/
structure Draws where
  pattern : Nat → Str
  mapping : Nat → Nat → Str

/-! ## The guard -/

/-- `item.get`: only a dictionary has one. -/
def asDict : Json → Result (Dict Str Json)
  | .obj d => .ok d
  | _      => .error .attributeError

/-- `pat.get("pattern_id", f"pat_{uuid4().hex[:8]}")`. -/
def patternIdOf (draws : Draws) (n : Nat) (pat : Dict Str Json) : Json :=
  (pat.get? "pattern_id").getD (.str (str "pat_" ++ draws.pattern n))

/-- A pattern that is not stored yet: where it stands in the output, and its id. -/
structure Item where
  index : Nat
  pat : Dict Str Json
  patternId : Json
deriving Repr, DecidableEq

/-- The patterns of an output from the `n`-th on that are not skipped. -/
def newItems (draws : Draws) : List Json → Nat → List (Dict Str Json) → Result (List Item)
  | _,        _, []          => .ok []
  | existing, n, pat :: pats => do
    let patternId ← hashable (patternIdOf draws n pat)
    if existing.any fun known => pyEq known patternId then newItems draws existing (n + 1) pats
    else do
      let items ← newItems draws (patternId :: existing) (n + 1) pats
      .ok (⟨n, pat, patternId⟩ :: items)

section
variable (H : Host)

/-- The ids that are looked up: those that an output names. -/
def wantedIds (pats : List (Dict Str Json)) : Result (List Str) := do
  let ids ← ((pats.map fun pat => field pat "pattern_id").filter (·.truthy)).mapM hashable
  let texts ← ids.mapM H.bindText
  if texts.isEmpty then .ok []
  else do
    let _ ← H.query texts
    .ok texts

/-- The ids among them that are stored. -/
def storedIds (db : Db) (wanted : List Str) : List Json :=
  ((db.patterns.map (·.patternId)).filter fun id => wanted.contains id).map .str

/-! ## The rows of a pattern -/

/-- `safe_float`, with the default of a confidence. -/
def safeFloat : Json → Result (BitVec 64)
  | .int n   => H.toFloat (.int n)
  | .float x => .ok x
  | .str s   =>
    match H.toFloat (.str (s.stripSpace.rdropWhile (· == cp '%'))) with
    | .error .valueError => .ok defaultConfidence
    | number             => number
  | _        => .ok defaultConfidence

/-- A float column that may not be null; the driver takes a NaN for a null. -/
def bindFloat (x : BitVec 64) : Result (BitVec 64) := if isNaN x then .error .other else .ok x

/-- What a text column that may be null stores of a value. -/
def bindNullable : Json → Result (Option Str)
  | .null => .ok none
  | value => (H.bindText value).map some

/-- The confidence of a pattern or a mapping. -/
def bindConfidence (data : Dict Str Json) : Result (BitVec 64) := do
  let number ← safeFloat H ((data.get? "confidence").getD (.float defaultConfidence))
  bindFloat number

/-- The row of a pattern. -/
def patternRow (item : Item) : Result PatternRow := do
  let patternId ← H.bindText item.patternId
  let method ← H.bindText ((item.pat.get? "method").getD (.str "GET"))
  let pathPattern ← H.bindText ((item.pat.get? "path_pattern").getD ((item.pat.get? "path").getD (.str "/")))
  let protocol ← H.bindText ((item.pat.get? "protocol").getD (.str "http"))
  let intent ← H.bindText ((item.pat.get? "intent").getD (.str "unknown"))
  let confidence ← bindConfidence H item.pat
  .ok
    { patternId, method, pathPattern, protocol, intent, confidence
      requiredHeaders := (item.pat.get? "required_headers").getD (.arr [])
      bodySchema := (item.pat.get? "body_schema").getD (.obj [])
      queryParamKeys := (item.pat.get? "query_param_keys").getD (.arr []) }

/-- The field mappings of a pattern. -/
def mappingsOf (pat : Dict Str Json) : Result (List (Dict Str Json)) := do
  let mappings ← ((pat.get? "field_mappings").getD (.arr [])).iter
  mappings.mapM asDict

/-- The source and the target of a field mapping. -/
def sourceTarget (m : Dict Str Json) : Result (Json × Json) := do
  let source ← hashable ((m.get? "source").getD (.str []))
  .ok (source, (m.get? "target").getD (.str []))

/-- The target of a field mapping, where it is a variable. -/
def expectedVariable (m : Dict Str Json) : Result (Option Json) :=
  match (m.get? "target").getD (.str []) with
  | .str target => .ok (if target.startsWith "result." then some (.str target) else none)
  | _           => .error .attributeError

/-- The template of a pattern. -/
def templateRow (item : Item) : Result TemplateRow := do
  let response ← asDict ((item.pat.get? "response").getD (.obj []))
  let patternText ← strOf H.interp item.patternId
  let mappings ← mappingsOf item.pat
  let fieldMappings ← mappings.mapM sourceTarget
  let expected ← mappings.mapM expectedVariable
  let templateId ← H.bindText (.str (templateId patternText))
  let patternId ← H.bindText item.patternId
  let statusCode ← H.bindInt ((response.get? "status_code").getD (.int 200))
  let confidence ← bindConfidence H item.pat
  .ok
    { templateId, patternId, statusCode, confidence
      headersTemplate := (response.get? "headers").getD (.obj [])
      bodyTemplate := (response.get? "body").getD (.obj [])
      fieldMappings := Dict.ofList fieldMappings
      expectedVariables := expected.reduceOption }

/-- The row of a field mapping, with the id drawn for it. -/
def mappingRow (item : Item) (drawn : Str) (m : Dict Str Json) : Result MappingRow := do
  let mappingId ← H.bindText (.str (str "map_" ++ drawn))
  let requestField ← H.bindText ((m.get? "source").getD (.str []))
  let requestType ← H.bindText ((m.get? "source_type").getD (.str "string"))
  let responseField ← H.bindText ((m.get? "target").getD (.str []))
  let responseType ← H.bindText ((m.get? "target_type").getD (.str "string"))
  let transform ← bindNullable H ((m.get? "transform").getD (.str "direct"))
  let formula ← bindNullable H (((learnedFormula (field m "formula")).map .str).getD .null)
  let intent ← H.bindText ((item.pat.get? "intent").getD (.str "unknown"))
  let confidence ← bindConfidence H m
  .ok
    { mappingId, requestField, requestType, responseField, responseType, transform, formula, intent, confidence
      enumValues := field m "mapping" }

/-- The rows of a pattern. -/
structure ItemRows where
  pattern : PatternRow
  template : TemplateRow
  mappings : List MappingRow
deriving Repr, DecidableEq

def itemRows (draws : Draws) (item : Item) : Result ItemRows := do
  let pattern ← patternRow H item
  let template ← templateRow H item
  let mappings ← (← mappingsOf item.pat).zipIdx.mapM fun m => mappingRow H item (draws.mapping item.index m.2) m.1
  .ok { pattern, template, mappings }

/-! ## The transaction -/

/-- No new row has the id of another. -/
def Insertable {α : Type} (key : α → Str) (rows new : List α) : Prop :=
  (new.map key).Nodup ∧ ∀ row ∈ new, key row ∉ rows.map key

instance {α : Type} (key : α → Str) (rows new : List α) : Decidable (Insertable key rows new) :=
  inferInstanceAs (Decidable (_ ∧ _))

/-- Rows are inserted under a unique id. -/
def insertAll {α : Type} (key : α → Str) (rows new : List α) : Result (List α) :=
  if Insertable key rows new then .ok (rows ++ new) else .error .other

/-- `scalar_one_or_none` on the counters of a device, which are then advanced. -/
def countLearned (count : Nat) : List LearnedCounters → Result (List LearnedCounters)
  | []      => .ok [{ patternsLearned := count, templatesCreated := count }]
  | [stats] => .ok
      [{ patternsLearned := stats.patternsLearned + count, templatesCreated := stats.templatesCreated + count }]
  | _       => .error .multipleResultsFound

/-- The rows go into the tables. -/
def insertRows (db : Db) (rows : List ItemRows) : Result Db := do
  let patterns ← insertAll (·.patternId) db.patterns (rows.map (·.pattern))
  let templates ← insertAll (·.templateId) db.templates (rows.map (·.template))
  let mappings ← insertAll (·.mappingId) db.mappings (rows.flatMap (·.mappings))
  let stats ← countLearned rows.length db.stats
  .ok { patterns, templates, mappings, stats }

/-- The session of an ingest: what is stored, and how many patterns are new. -/
def ingestRows (draws : Draws) (llmOutput : Dict Str Json) (db : Db) : Result (Db × Nat) := do
  let patterns := (llmOutput.get? "patterns").getD (.arr [])
  if !patterns.truthy then .ok (db, 0)
  else do
    let pats ← (← patterns.iter).mapM asDict
    let wanted ← wantedIds H pats
    let items ← newItems draws (storedIds db wanted) 0 pats
    let rows ← items.mapM (itemRows H draws)
    let db ← insertRows db rows
    .ok (db, rows.length)

/-- `ingest`: an exception rolls everything back. -/
def ingest (draws : Draws) (llmOutput : Dict Str Json) (db : Db) : Db × Result Nat :=
  match ingestRows H draws llmOutput db with
  | .ok (db', count) => (db', .ok count)
  | .error e         => (db, .error e)

/-! ## Ingesting twice -/

/-- An ingest that fails stores nothing, and a second one of the same output stores nothing and reports 0. -/
structure Idempotent (draws draws' : Draws) (llmOutput : Dict Str Json) (db : Db) : Prop where
  whole : ∀ e, (ingest H draws llmOutput db).2 = .error e → (ingest H draws llmOutput db).1 = db
  patterns : (ingest H draws' llmOutput (ingest H draws llmOutput db).1).1.patterns =
    (ingest H draws llmOutput db).1.patterns
  templates : (ingest H draws' llmOutput (ingest H draws llmOutput db).1).1.templates =
    (ingest H draws llmOutput db).1.templates
  mappings : (ingest H draws' llmOutput (ingest H draws llmOutput db).1).1.mappings =
    (ingest H draws llmOutput db).1.mappings
  reports : (ingest H draws' llmOutput (ingest H draws llmOutput db).1).2 = .ok 0

/-- Every pattern of an output has an id, a text that is not empty; the ids can be looked up; and what is new fits
    its columns, with a template id and drawn ids that are not taken. -/
structure Named (draws : Draws) (db : Db) (pats : List (Dict Str Json)) : Prop where
  ids : ∀ pat ∈ pats, ∃ t : Str, t ≠ [] ∧ pat.get? "pattern_id" = some (.str t)
  rows : ∃ wanted items rows, wantedIds H pats = .ok wanted ∧
    newItems draws (storedIds db wanted) 0 pats = .ok items ∧ items.mapM (itemRows H draws) = .ok rows ∧
    (∀ row ∈ rows, row.template.templateId ∉ db.templates.map (·.templateId)) ∧
    Insertable (·.mappingId) db.mappings (rows.flatMap (·.mappings))
  stats : db.stats.length ≤ 1

/-- The patterns that an output lists. -/
def listed (llmOutput : Dict Str Json) : Result (List (Dict Str Json)) := do
  let values ← ((llmOutput.get? "patterns").getD (.arr [])).iter
  values.mapM asDict

/-- An output lists no patterns, or names them all. -/
def NamesAll (draws : Draws) (llmOutput : Dict Str Json) (db : Db) : Prop :=
  ((llmOutput.get? "patterns").getD (.arr [])).truthy = false ∨
    ∃ pats, listed llmOutput = .ok pats ∧ Named H draws db pats

/-- The driver stores a text as it is. -/
def StoresTexts : Prop := ∀ s t, H.bindText (.str s) = .ok t → t = s

/-- No id that is drawn for a pattern is one that the output has. -/
def Unnamed (draws : Draws) (llmOutput : Dict Str Json) : Prop :=
  ∀ pats, listed llmOutput = .ok pats → ∀ pat ∈ pats, ∀ n,
    pat.get? "pattern_id" ≠ some (.str (str "pat_" ++ draws.pattern n))

end

/-! ## What is skipped -/

section
variable {H : Host} {draws draws' : Draws} {db : Db} {pats : List (Dict Str Json)} {pat : Dict Str Json}
  {existing : List Json} {items : List Item} {wanted : List Str} {n : Nat} {t : Str}

/-- What is found among the stored ids that are wanted. -/
theorem any_storedIds (v : Json) : ((storedIds db wanted).any fun known => pyEq known v) = true ↔
    ∃ t, v = .str t ∧ t ∈ wanted ∧ t ∈ db.patterns.map (·.patternId) := by
  unfold storedIds
  rw [any_pyEq]
  constructor
  · rintro ⟨t, ht, rfl⟩
    obtain ⟨hstored, hwanted⟩ := List.mem_filter.mp ht
    exact ⟨t, rfl, List.contains_iff_mem.mp hwanted, hstored⟩
  · rintro ⟨t, rfl, hwanted, hstored⟩
    exact ⟨t, List.mem_filter.mpr ⟨hstored, List.contains_iff_mem.mpr hwanted⟩, rfl⟩

/-- **Nothing is new iff every id is found.** -/
theorem newItems_eq_nil : newItems draws existing n pats = .ok [] ↔
    ∀ k pat, pats[k]? = some pat → hashable (patternIdOf draws (n + k) pat) = .ok (patternIdOf draws (n + k) pat) ∧
      (existing.any fun known => pyEq known (patternIdOf draws (n + k) pat)) = true := by
  induction pats generalizing n with
  | nil => simp [newItems]
  | cons pat pats ih =>
    have hrest : newItems draws existing (n + 1) pats = .ok [] ↔ ∀ k pat', (pat :: pats)[k + 1]? = some pat' →
        hashable (patternIdOf draws (n + (k + 1)) pat') = .ok (patternIdOf draws (n + (k + 1)) pat') ∧
          (existing.any fun known => pyEq known (patternIdOf draws (n + (k + 1)) pat')) = true := by
      rw [ih]
      simp only [List.getElem?_cons_succ, Nat.add_assoc, Nat.add_comm 1]
    unfold newItems
    constructor
    · intro h
      obtain ⟨v, hv, h⟩ := Except.bind_ok_iff.mp h
      obtain rfl := hashable_ok hv
      split at h
      next hfound =>
        intro k pat' hk
        cases k with
        | zero =>
          obtain rfl := Option.some.inj hk
          exact ⟨hv, hfound⟩
        | succ k => exact hrest.mp h k pat' hk
      next =>
        obtain ⟨items, _, h⟩ := Except.bind_ok_iff.mp h
        cases h
    · intro h
      obtain ⟨hv, hfound⟩ := h 0 pat rfl
      rw [Nat.add_zero] at hv hfound
      rw [hv, Except.ok_bind, if_pos hfound]
      exact hrest.mpr fun k pat' hk => h (k + 1) pat' hk

/-- A pattern with an id draws none. -/
theorem patternIdOf_some {v : Json} (h : pat.get? "pattern_id" = some v) : patternIdOf draws n pat = v := by
  unfold patternIdOf
  rw [h]
  rfl

/-- Patterns that all have ids are the same whatever is drawn. -/
theorem newItems_draws (hids : ∀ pat ∈ pats, ∃ v, pat.get? "pattern_id" = some v) :
    newItems draws existing n pats = newItems draws' existing n pats := by
  induction pats generalizing existing n with
  | nil => rfl
  | cons pat pats ih =>
    obtain ⟨v, hv⟩ := hids pat List.mem_cons_self
    have hrest := fun pat' h => hids pat' (List.mem_cons_of_mem _ h)
    unfold newItems
    rw [patternIdOf_some hv, patternIdOf_some hv]
    simp only [ih hrest]

/-- **What is new**: of texts that are not known yet, each once; and every text is known or new. -/
theorem newItems_spec (known : List Str) (hids : ∀ pat ∈ pats, ∃ t : Str, t ≠ [] ∧ pat.get? "pattern_id" = some (.str t))
    (h : newItems draws (known.map .str) n pats = .ok items) :
    ∃ ts : List Str, items.map (·.patternId) = ts.map .str ∧ ts.Nodup ∧ (∀ t ∈ ts, t ∉ known) ∧
      (∀ t ∈ ts, ∃ pat ∈ pats, pat.get? "pattern_id" = some (.str t)) ∧
      ∀ pat ∈ pats, ∀ t : Str, pat.get? "pattern_id" = some (.str t) → t ∈ known ∨ t ∈ ts := by
  induction pats generalizing known n items with
  | nil =>
    cases h
    exact ⟨[], rfl, List.nodup_nil, by simp, by simp, by simp⟩
  | cons pat pats ih =>
    obtain ⟨t, _, ht⟩ := hids pat List.mem_cons_self
    have hrest := fun pat' h => hids pat' (List.mem_cons_of_mem _ h)
    unfold newItems at h
    rw [patternIdOf_some ht] at h
    obtain ⟨v, hv, h⟩ := Except.bind_ok_iff.mp h
    obtain rfl := hashable_ok hv
    split at h
    next hfound =>
      -- it is known, and passed over
      obtain ⟨t', hknown, heq⟩ := (any_pyEq known (.str t)).mp hfound
      obtain rfl := JsonTree.str.inj heq
      obtain ⟨ts, hitems, hnodup, hfresh, hfrom, hcover⟩ := ih known hrest h
      refine ⟨ts, hitems, hnodup, hfresh, fun t' ht' => ?_, fun pat' hpat' t' ht' => ?_⟩
      · obtain ⟨pat', hpat', hid⟩ := hfrom t' ht'
        exact ⟨pat', List.mem_cons_of_mem _ hpat', hid⟩
      · rcases List.mem_cons.mp hpat' with rfl | hpat'
        · rw [ht] at ht'
          cases ht'
          exact .inl hknown
        · exact hcover pat' hpat' t' ht'
    next hnot =>
      -- it is new, and known from here on
      have hnew : t ∉ known := fun hmem => hnot ((any_pyEq known (.str t)).mpr ⟨t, hmem, rfl⟩)
      obtain ⟨items', hitems', h⟩ := Except.bind_ok_iff.mp h
      cases h
      obtain ⟨ts, hitems, hnodup, hfresh, hfrom, hcover⟩ := ih (t :: known) hrest hitems'
      refine ⟨t :: ts, by rw [List.map_cons, hitems]; rfl, ?_, ?_, ?_, ?_⟩
      · exact List.nodup_cons.mpr ⟨fun hmem => hfresh t hmem List.mem_cons_self, hnodup⟩
      · intro t' ht'
        rcases List.mem_cons.mp ht' with rfl | ht'
        · exact hnew
        · exact fun hmem => hfresh t' ht' (List.mem_cons_of_mem _ hmem)
      · intro t' ht'
        rcases List.mem_cons.mp ht' with rfl | ht'
        · exact ⟨pat, List.mem_cons_self, ht⟩
        · obtain ⟨pat', hpat', hid⟩ := hfrom t' ht'
          exact ⟨pat', List.mem_cons_of_mem _ hpat', hid⟩
      · intro pat' hpat' t' ht'
        rcases List.mem_cons.mp hpat' with rfl | hpat'
        · rw [ht] at ht'
          cases ht'
          exact .inr List.mem_cons_self
        · rcases hcover pat' hpat' t' ht' with hmem | hmem
          · rcases List.mem_cons.mp hmem with rfl | hmem
            · exact .inr List.mem_cons_self
            · exact .inl hmem
          · exact .inr (List.mem_cons_of_mem _ hmem)

/-! ## What is looked up -/

/-- The texts that are looked up are those that the driver stores of the ids. -/
theorem wantedIds_texts (h : wantedIds H pats = .ok wanted) :
    ∃ ids, ((pats.map fun pat => field pat "pattern_id").filter (·.truthy)).mapM hashable = .ok ids ∧
      ids.mapM H.bindText = .ok wanted := by
  unfold wantedIds at h
  obtain ⟨ids, hids, h⟩ := Except.bind_ok_iff.mp h
  obtain ⟨texts, htexts, h⟩ := Except.bind_ok_iff.mp h
  refine ⟨ids, hids, ?_⟩
  split at h
  next hempty =>
    cases h
    rw [← List.isEmpty_iff.mp hempty]
    exact htexts
  next =>
    obtain ⟨_, _, h⟩ := Except.bind_ok_iff.mp h
    cases h
    exact htexts

/-- What is looked up is the id of a pattern. -/
theorem mem_wantedIds (h : wantedIds H pats = .ok wanted) (ht : t ∈ wanted) :
    ∃ pat ∈ pats, ∃ v, pat.get? "pattern_id" = some v ∧ v.truthy = true ∧ H.bindText v = .ok t := by
  obtain ⟨ids, hids, htexts⟩ := wantedIds_texts h
  obtain ⟨v, hv, hbind⟩ := (Except.forall₂_of_mapM htexts).exists_left ht
  obtain ⟨v', hv', hhash⟩ := (Except.forall₂_of_mapM hids).exists_left hv
  obtain rfl := hashable_ok hhash
  obtain ⟨hmem, htruthy⟩ := List.mem_filter.mp hv'
  obtain ⟨pat, hpat, rfl⟩ := List.mem_map.mp hmem
  unfold field at htruthy hbind
  cases hget : pat.get? "pattern_id" with
  | none =>
    rw [hget] at htruthy
    cases htruthy
  | some v =>
    rw [hget] at htruthy hbind
    exact ⟨pat, hpat, v, hget, htruthy, hbind⟩

/-- Every id that is a text is looked up, as it is. -/
theorem wantedIds_mem (hH : StoresTexts H) (h : wantedIds H pats = .ok wanted) {pat : Dict Str Json} (hpat : pat ∈ pats)
    (hne : t ≠ []) (ht : pat.get? "pattern_id" = some (.str t)) : t ∈ wanted := by
  obtain ⟨ids, hids, htexts⟩ := wantedIds_texts h
  have hfield : field pat "pattern_id" = .str t := by
    unfold field
    rw [ht]
    rfl
  have htruthy : Json.truthy (.str t) = true := by
    unfold Json.truthy
    simpa using hne
  have hmem : (.str t : Json) ∈ (pats.map fun pat => field pat "pattern_id").filter (·.truthy) :=
    List.mem_filter.mpr ⟨List.mem_map.mpr ⟨pat, hpat, hfield⟩, htruthy⟩
  obtain ⟨v, hv, hhash⟩ := (Except.forall₂_of_mapM hids).exists_right hmem
  obtain rfl := hashable_ok hhash
  obtain ⟨t', ht', hbind⟩ := (Except.forall₂_of_mapM htexts).exists_right hv
  exact hH t t' hbind ▸ ht'

/-! ## What is inserted -/

/-- The rows of a pattern have its id. -/
theorem itemRows_ids (hH : StoresTexts H) {item : Item} {rows : ItemRows} (hid : item.patternId = .str t)
    (h : itemRows H draws item = .ok rows) :
    rows.pattern.patternId = t ∧ rows.template.templateId = templateId t := by
  unfold itemRows at h
  obtain ⟨pattern, hpattern, h⟩ := Except.bind_ok_iff.mp h
  obtain ⟨template, htemplate, h⟩ := Except.bind_ok_iff.mp h
  obtain ⟨ms, _, h⟩ := Except.bind_ok_iff.mp h
  obtain ⟨mappings, _, h⟩ := Except.bind_ok_iff.mp h
  cases h
  constructor
  · unfold patternRow at hpattern
    obtain ⟨id, hbind, hpattern⟩ := Except.bind_ok_iff.mp hpattern
    iterate 5 obtain ⟨_, _, hpattern⟩ := Except.bind_ok_iff.mp hpattern
    cases hpattern
    rw [hid] at hbind
    exact hH t id hbind
  · unfold templateRow at htemplate
    obtain ⟨_, _, htemplate⟩ := Except.bind_ok_iff.mp htemplate
    obtain ⟨text, htext, htemplate⟩ := Except.bind_ok_iff.mp htemplate
    iterate 3 obtain ⟨_, _, htemplate⟩ := Except.bind_ok_iff.mp htemplate
    obtain ⟨id, hbind, htemplate⟩ := Except.bind_ok_iff.mp htemplate
    iterate 3 obtain ⟨_, _, htemplate⟩ := Except.bind_ok_iff.mp htemplate
    cases htemplate
    rw [hid] at htext
    cases htext
    exact hH _ id hbind

/-- The ids of the rows of new patterns. -/
theorem rows_ids (hH : StoresTexts H) {ts : List Str} {rows : List ItemRows} (hitems : items.map (·.patternId) = ts.map .str)
    (h : items.mapM (itemRows H draws) = .ok rows) :
    (rows.map (·.pattern)).map (·.patternId) = ts ∧
      (rows.map (·.template)).map (·.templateId) = ts.map templateId := by
  have hrel : List.Forall₂ (fun item t => item.patternId = .str t) items ts := by
    rw [← List.forall₂_eq_eq_eq, List.forall₂_map_left_iff, List.forall₂_map_right_iff] at hitems
    exact hitems
  have hids : List.Forall₂ (fun (t : Str) (r : ItemRows) => r.pattern.patternId = t ∧ r.template.templateId = templateId t)
      ts rows :=
    hrel.common_left (Except.forall₂_of_mapM h) fun item t r hid hrow => itemRows_ids hH hid hrow
  constructor
  · rw [List.map_map]
    have hmap : ts.map id = rows.map fun r => r.pattern.patternId := hids.map_eq_map fun t r h => h.1.symm
    rw [List.map_id] at hmap
    exact hmap.symm
  · rw [List.map_map]
    have hmap : ts.map templateId = rows.map fun r => r.template.templateId := hids.map_eq_map fun t r h => h.2.symm
    exact hmap.symm

theorem templateId_injective : Function.Injective templateId := by
  intro s t h
  exact List.append_cancel_left h

theorem insertAll_ok_iff {α : Type} {key : α → Str} {rows new rows' : List α} :
    insertAll key rows new = .ok rows' ↔ Insertable key rows new ∧ rows' = rows ++ new := by
  unfold insertAll
  split
  next h =>
    simp only [Except.ok.injEq]
    exact ⟨fun heq => ⟨h, heq.symm⟩, fun heq => heq.2.symm⟩
  next h => simp [h]

theorem countLearned_ok_iff {count : Nat} {stats : List LearnedCounters} :
    (∃ stats', countLearned count stats = .ok stats') ↔ stats.length ≤ 1 := by
  match stats with
  | []          => simp [countLearned]
  | [_]         => simp [countLearned]
  | _ :: _ :: _ => simp [countLearned]

theorem countLearned_length {count : Nat} {stats stats' : List LearnedCounters}
    (h : countLearned count stats = .ok stats') : stats'.length ≤ 1 := by
  match stats with
  | []          =>
    cases h
    exact Nat.le_refl 1
  | [_]         =>
    cases h
    exact Nat.le_refl 1
  | _ :: _ :: _ => cases h

/-- The tables after an insertion. -/
theorem insertRows_ok_iff {rows : List ItemRows} {db' : Db} : insertRows db rows = .ok db' ↔
    Insertable (·.patternId) db.patterns (rows.map (·.pattern)) ∧
      Insertable (·.templateId) db.templates (rows.map (·.template)) ∧
      Insertable (·.mappingId) db.mappings (rows.flatMap (·.mappings)) ∧
      ∃ stats, countLearned rows.length db.stats = .ok stats ∧ db' =
        { patterns := db.patterns ++ rows.map (·.pattern)
          templates := db.templates ++ rows.map (·.template)
          mappings := db.mappings ++ rows.flatMap (·.mappings)
          stats } := by
  unfold insertRows
  constructor
  · intro h
    obtain ⟨patterns, hpatterns, h⟩ := Except.bind_ok_iff.mp h
    obtain ⟨templates, htemplates, h⟩ := Except.bind_ok_iff.mp h
    obtain ⟨mappings, hmappings, h⟩ := Except.bind_ok_iff.mp h
    obtain ⟨stats, hstats, h⟩ := Except.bind_ok_iff.mp h
    obtain ⟨hp, rfl⟩ := insertAll_ok_iff.mp hpatterns
    obtain ⟨ht, rfl⟩ := insertAll_ok_iff.mp htemplates
    obtain ⟨hm, rfl⟩ := insertAll_ok_iff.mp hmappings
    cases h
    exact ⟨hp, ht, hm, stats, hstats, rfl⟩
  · rintro ⟨hp, ht, hm, stats, hstats, rfl⟩
    rw [insertAll_ok_iff.mpr ⟨hp, rfl⟩, Except.ok_bind, insertAll_ok_iff.mpr ⟨ht, rfl⟩, Except.ok_bind,
      insertAll_ok_iff.mpr ⟨hm, rfl⟩, Except.ok_bind, hstats]
    rfl

/-! ## Twice -/

variable {llmOutput : Dict Str Json}

/-- An ingest of listed patterns, step by step. -/
theorem ingestRows_listed (htruthy : ((llmOutput.get? "patterns").getD (.arr [])).truthy = true) :
    ingestRows H draws llmOutput db = (do
      let pats ← listed llmOutput
      let wanted ← wantedIds H pats
      let items ← newItems draws (storedIds db wanted) 0 pats
      let rows ← items.mapM (itemRows H draws)
      let db ← insertRows db rows
      .ok (db, rows.length)) := by
  unfold ingestRows listed
  dsimp only
  rw [htruthy]
  cases ((llmOutput.get? "patterns").getD (.arr [])).iter <;> rfl

/-- The ids of listed patterns that are all found: each is a text that is not empty, and stored. -/
theorem texts_of_found (hH : StoresTexts H) (hdraws : ∀ pat ∈ pats, ∀ n, pat.get? "pattern_id" ≠ some (.str (str "pat_" ++ draws.pattern n)))
    (hwanted : wantedIds H pats = .ok wanted) (h : newItems draws (storedIds db wanted) 0 pats = .ok []) :
    ∀ pat ∈ pats, ∃ t : Str, t ≠ [] ∧ pat.get? "pattern_id" = some (.str t) := by
  rw [newItems_eq_nil] at h
  have hfound : ∀ k pat, pats[k]? = some pat → ∃ t, patternIdOf draws k pat = .str t ∧ t ∈ wanted := by
    intro k pat hk
    have hany := (h k pat hk).2
    rw [Nat.zero_add] at hany
    obtain ⟨t, ht, hwanted, _⟩ := (any_storedIds _).mp hany
    exact ⟨t, ht, hwanted⟩
  -- an id that is looked up is a text
  have htext : ∀ t ∈ wanted, t ≠ [] ∧ ∃ pat ∈ pats, pat.get? "pattern_id" = some (.str t) := by
    intro t ht
    obtain ⟨pat, hpat, v, hv, htruthy, hbind⟩ := mem_wantedIds hwanted ht
    obtain ⟨k, hk⟩ := List.getElem?_of_mem hpat
    obtain ⟨t', ht', _⟩ := hfound k pat hk
    rw [patternIdOf_some hv] at ht'
    subst ht'
    obtain rfl := hH t' t hbind
    refine ⟨?_, pat, hpat, hv⟩
    rintro rfl
    cases htruthy
  intro pat hpat
  obtain ⟨k, hk⟩ := List.getElem?_of_mem hpat
  obtain ⟨t, ht, htwanted⟩ := hfound k pat hk
  obtain ⟨hne, pat', hpat', hid⟩ := htext t htwanted
  refine ⟨t, hne, ?_⟩
  cases hget : pat.get? "pattern_id" with
  | none =>
    -- then its id was drawn, and is none that the output has
    unfold patternIdOf at ht
    rw [hget, Option.getD_none, JsonTree.str.injEq] at ht
    exact absurd (ht ▸ hid) (hdraws pat' hpat' k)
  | some v =>
    rw [patternIdOf_some hget] at ht
    rw [ht]

/-- **A second ingest finds everything**, once an output that names all its patterns was ingested. -/
theorem found_again (hH : StoresTexts H) (hids : ∀ pat ∈ pats, ∃ t : Str, t ≠ [] ∧ pat.get? "pattern_id" = some (.str t))
    (hwanted : wantedIds H pats = .ok wanted) {rows : List ItemRows} {db' : Db}
    (hitems : newItems draws (storedIds db wanted) 0 pats = .ok items) (hrows : items.mapM (itemRows H draws) = .ok rows)
    (hdb' : db'.patterns = db.patterns ++ rows.map (·.pattern)) :
    newItems draws' (storedIds db' wanted) 0 pats = .ok [] := by
  obtain ⟨ts, hts, _, _, _, hcover⟩ := newItems_spec _ hids hitems
  obtain ⟨hpatterns, _⟩ := rows_ids hH hts hrows
  refine newItems_eq_nil.mpr fun k pat hk => ?_
  have hpat := List.mem_of_getElem? hk
  obtain ⟨t, hne, ht⟩ := hids pat hpat
  have htwanted := wantedIds_mem hH hwanted hpat hne ht
  rw [patternIdOf_some ht]
  refine ⟨rfl, (any_storedIds _).mpr ⟨t, rfl, htwanted, ?_⟩⟩
  rw [hdb', List.map_append, hpatterns]
  rcases hcover pat hpat t ht with hstored | hnew
  · exact List.mem_append_left _ (List.mem_filter.mp hstored).1
  · exact List.mem_append_right _ hnew

/-- The new rows of an output that names all its patterns have ids that are not taken. -/
theorem insertable_of_ids (hH : StoresTexts H)
    (hids : ∀ pat ∈ pats, ∃ t : Str, t ≠ [] ∧ pat.get? "pattern_id" = some (.str t))
    (hwanted : wantedIds H pats = .ok wanted) {rows : List ItemRows}
    (hitems : newItems draws (storedIds db wanted) 0 pats = .ok items) (hrows : items.mapM (itemRows H draws) = .ok rows) :
    Insertable (·.patternId) db.patterns (rows.map (·.pattern)) ∧
      ((rows.map (·.template)).map (·.templateId)).Nodup := by
  obtain ⟨ts, hts, hnodup, hfresh, hfrom, _⟩ := newItems_spec _ hids hitems
  obtain ⟨hpatterns, htemplates⟩ := rows_ids hH hts hrows
  refine ⟨⟨hpatterns ▸ hnodup, fun row hrow hstored => ?_⟩, htemplates ▸ hnodup.map templateId_injective⟩
  have hmem : row.patternId ∈ ts := hpatterns ▸ List.mem_map_of_mem hrow
  obtain ⟨pat, hpat, hid⟩ := hfrom _ hmem
  obtain ⟨t, hne, ht⟩ := hids pat hpat
  rw [hid] at ht
  cases ht
  have htwanted := wantedIds_mem hH hwanted hpat hne hid
  exact hfresh _ hmem (List.mem_filter.mpr ⟨hstored, List.contains_iff_mem.mpr htwanted⟩)

end

theorem ingest_ok {H : Host} {draws : Draws} {llmOutput : Dict Str Json} {db db' : Db} {count : Nat}
    (h : ingestRows H draws llmOutput db = .ok (db', count)) : ingest H draws llmOutput db = (db', .ok count) := by
  unfold ingest
  rw [h]

theorem ingest_error {H : Host} {draws : Draws} {llmOutput : Dict Str Json} {db : Db} {e : Exn}
    (h : ingestRows H draws llmOutput db = .error e) : ingest H draws llmOutput db = (db, .error e) := by
  unfold ingest
  rw [h]

/-- An ingest that finds everything. -/
theorem ingestRows_found {H : Host} {draws : Draws} {llmOutput : Dict Str Json} {db : Db} {pats : List (Dict Str Json)}
    {wanted : List Str} (htruthy : ((llmOutput.get? "patterns").getD (.arr [])).truthy = true)
    (hpats : listed llmOutput = .ok pats) (hwanted : wantedIds H pats = .ok wanted)
    (hitems : newItems draws (storedIds db wanted) 0 pats = .ok []) (hstats : db.stats.length ≤ 1) :
    ∃ stats, ingestRows H draws llmOutput db = .ok ({ db with stats }, 0) := by
  obtain ⟨stats, hstats⟩ := countLearned_ok_iff.mpr hstats
  have hinsert : insertRows db [] = .ok { db with stats } := by
    refine insertRows_ok_iff.mpr ⟨⟨List.nodup_nil, by simp⟩, ⟨List.nodup_nil, by simp⟩, ⟨List.nodup_nil, by simp⟩, stats,
      hstats, ?_⟩
    simp
  refine ⟨stats, ?_⟩
  rw [ingestRows_listed htruthy, hpats, Except.ok_bind, hwanted, Except.ok_bind, hitems, Except.ok_bind, List.mapM_nil]
  show (insertRows db [] >>= _) = _
  rw [hinsert]
  rfl

/-- **Ingesting an output twice stores it once iff it lists no patterns or names them all.** -/
theorem idempotent_iff (H : Host) (draws draws' : Draws) (llmOutput : Dict Str Json) (db : Db) (hH : StoresTexts H)
    (hdraws : Unnamed draws' llmOutput) : Idempotent H draws draws' llmOutput db ↔ NamesAll H draws llmOutput db := by
  cases htruthy : ((llmOutput.get? "patterns").getD (.arr [])).truthy with
  | false =>
    -- without patterns nothing is written, whatever is drawn
    have hnothing : ∀ draws, ingest H draws llmOutput db = (db, .ok 0) := by
      intro draws
      apply ingest_ok
      unfold ingestRows
      dsimp only
      rw [htruthy]
      rfl
    refine ⟨fun _ => .inl htruthy, fun _ => ?_⟩
    constructor <;> simp [hnothing]
  | true =>
    constructor
    · intro h
      refine .inr ?_
      -- the second time everything is found
      have hsecond : ∃ db₂, ingestRows H draws' llmOutput (ingest H draws llmOutput db).1 = .ok (db₂, 0) := by
        have hreports := h.reports
        cases hrun : ingestRows H draws' llmOutput (ingest H draws llmOutput db).1 with
        | error e =>
          rw [ingest_error hrun] at hreports
          cases hreports
        | ok result =>
          obtain ⟨db₂, count⟩ := result
          rw [ingest_ok hrun] at hreports
          cases hreports
          exact ⟨db₂, rfl⟩
      obtain ⟨db₂, hsecond⟩ := hsecond
      rw [ingestRows_listed htruthy] at hsecond
      obtain ⟨pats, hpats, hsecond⟩ := Except.bind_ok_iff.mp hsecond
      obtain ⟨wanted, hwanted, hsecond⟩ := Except.bind_ok_iff.mp hsecond
      obtain ⟨items', hitems', hsecond⟩ := Except.bind_ok_iff.mp hsecond
      obtain ⟨rows', hrows', hsecond⟩ := Except.bind_ok_iff.mp hsecond
      obtain ⟨db₂', hinsert', hsecond⟩ := Except.bind_ok_iff.mp hsecond
      have hnone : rows' = [] := by
        have hlength : rows'.length = 0 := congrArg Prod.snd (Except.ok.inj hsecond)
        exact List.length_eq_zero_iff.mp hlength
      subst hnone
      have hnew : items' = [] := by
        have hlength := (Except.forall₂_of_mapM hrows').length_eq
        exact List.length_eq_zero_iff.mp hlength
      subst hnew
      have hids := texts_of_found hH (hdraws pats hpats) hwanted hitems'
      refine ⟨pats, hpats, ?_⟩
      cases hfirst : ingestRows H draws llmOutput db with
      | error e =>
        -- what failed left the tables as they were, where everything is found
        rw [ingest_error hfirst] at hitems' hinsert'
        obtain ⟨_, _, _, stats, hstats, _⟩ := insertRows_ok_iff.mp hinsert'
        have hitems : newItems draws (storedIds db wanted) 0 pats = .ok [] := by
          rw [← hitems']
          apply newItems_draws
          intro pat hpat
          obtain ⟨t, _, ht⟩ := hids pat hpat
          exact ⟨.str t, ht⟩
        obtain ⟨stats', hok⟩ := ingestRows_found htruthy hpats hwanted hitems (countLearned_ok_iff.mp ⟨stats, hstats⟩)
        rw [hfirst] at hok
        cases hok
      | ok result =>
        rw [ingestRows_listed htruthy, hpats, Except.ok_bind, hwanted, Except.ok_bind] at hfirst
        obtain ⟨items, hitems, hfirst⟩ := Except.bind_ok_iff.mp hfirst
        obtain ⟨rows, hrows, hfirst⟩ := Except.bind_ok_iff.mp hfirst
        obtain ⟨db₁, hinsert, _⟩ := Except.bind_ok_iff.mp hfirst
        obtain ⟨_, htemplates, hmappings, stats, hstats, _⟩ := insertRows_ok_iff.mp hinsert
        refine ⟨hids, ⟨wanted, items, rows, hwanted, hitems, hrows, fun row hrow => ?_, hmappings⟩,
          countLearned_ok_iff.mp ⟨stats, hstats⟩⟩
        exact htemplates.2 row.template (List.mem_map_of_mem hrow)
    · rintro (hfalse | ⟨pats, hpats, hnamed⟩)
      · rw [htruthy] at hfalse
        cases hfalse
      obtain ⟨wanted, items, rows, hwanted, hitems, hrows, htemplates, hmappings⟩ := hnamed.rows
      obtain ⟨hpatterns, hnodup⟩ := insertable_of_ids hH hnamed.ids hwanted hitems hrows
      obtain ⟨stats, hstats⟩ := countLearned_ok_iff.mpr hnamed.stats
      -- what the first time inserts is free, and the second time is found
      have hfree : Insertable (·.templateId) db.templates (rows.map (·.template)) := by
        refine ⟨hnodup, fun row hrow => ?_⟩
        obtain ⟨r, hr, rfl⟩ := List.mem_map.mp hrow
        exact htemplates r hr
      obtain ⟨db₁, hinsert, hdb₁, hstats₁⟩ : ∃ db₁, insertRows db rows = .ok db₁ ∧
          db₁.patterns = db.patterns ++ rows.map (·.pattern) ∧ db₁.stats.length ≤ 1 :=
        ⟨_, insertRows_ok_iff.mpr ⟨hpatterns, hfree, hmappings, stats, hstats, rfl⟩, rfl, countLearned_length hstats⟩
      have hfirst : ingest H draws llmOutput db = (db₁, .ok rows.length) := by
        apply ingest_ok
        rw [ingestRows_listed htruthy, hpats, Except.ok_bind, hwanted, Except.ok_bind, hitems, Except.ok_bind, hrows,
          Except.ok_bind, hinsert]
        rfl
      obtain ⟨stats', hsecond⟩ : ∃ stats, ingestRows H draws' llmOutput db₁ = .ok ({ db₁ with stats }, 0) :=
        ingestRows_found htruthy hpats hwanted (found_again hH hnamed.ids hwanted hitems hrows hdb₁) hstats₁
      constructor
      · intro e he
        rw [hfirst] at he
        cases he
      all_goals rw [hfirst, ingest_ok hsecond]

/-! ## A lamp's output -/

/-- A host that stores texts and integers. -/
def lampHost : Host where
  interp := asciiInterp
  toFloat _ := .error .typeError
  bindText
    | .str s => .ok s
    | _      => .error .other
  bindInt
    | .int n => .ok (.int n)
    | _      => .error .other
  query _ := .ok ()

theorem lampHost_storesTexts : StoresTexts lampHost := by
  intro s t h
  exact (Except.ok.inj h).symm

/-- What is drawn for the lamp. -/
def lampDraws : Draws where
  pattern _ := "5f3c9a10"
  mapping _ _ := "b81d02ee"

/-- An output with one pattern. -/
def lampOutput (patternId : Str) : Dict Str Json :=
  [("patterns", .arr [.obj [("pattern_id", .str patternId), ("intent", .str "turn_on"), ("path", .str "/on"),
    ("response", .obj [("status_code", .int 200)]),
    ("field_mappings", .arr [.obj [("source", .str "level"), ("target", .str "result.level")]])]])]

theorem lampOutput_unnamed (patternId : Str) (h : patternId ≠ str "pat_5f3c9a10") : Unnamed lampDraws (lampOutput patternId) := by
  intro pats hpats pat hpat n hid
  cases hpats
  obtain rfl := List.mem_singleton.mp hpat
  exact h (JsonTree.str.inj (Option.some.inj hid))

theorem namedLamp_idempotent : Idempotent lampHost lampDraws lampDraws (lampOutput "lamp_on") {} := by
  apply (idempotent_iff lampHost lampDraws lampDraws (lampOutput "lamp_on") {} lampHost_storesTexts
    (lampOutput_unnamed "lamp_on" (by decide))).mpr
  refine .inr ⟨_, rfl, ?_, ⟨["lamp_on"], _, _, rfl, rfl, rfl, by decide +kernel, by decide +kernel⟩, by decide⟩
  intro pat hpat
  obtain rfl := List.mem_singleton.mp hpat
  exact ⟨"lamp_on", by decide, rfl⟩

/-- The pattern without a name is inserted again, under an id that is taken. -/
theorem namelessLamp_fails : ¬ ∀ (H : Host) (draws draws' : Draws) (llmOutput : Dict Str Json) (db : Db),
    StoresTexts H → Unnamed draws' llmOutput → Idempotent H draws draws' llmOutput db := by
  intro h
  have hreports := (h lampHost lampDraws lampDraws (lampOutput []) {} lampHost_storesTexts
    (lampOutput_unnamed [] (by decide))).reports
  have hfails : (ingest lampHost lampDraws (lampOutput [])
      (ingest lampHost lampDraws (lampOutput []) {}).1).2 = .error .other := by decide +kernel
  rw [hfails] at hreports
  cases hreports

end RideTheApi.Ingest
