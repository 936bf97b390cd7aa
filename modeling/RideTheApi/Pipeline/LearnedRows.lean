import RideTheApi.Pipeline.SavePatterns

/-!
# `Pipeline.LearnedRows` — every column a pattern list writes

Saving a list of patterns is an upsert over three tables by ids derived from the device, the intent and a
digest of the path. The rows of the first two tables are written again each time they are learned; a row of
the third is written once. The rows here carry every column that is written, also those the export does
not read.
-/

namespace RideTheApi.SavePatterns

open Py PatternDb KeyedTable

/-- A row of `request_patterns`, as far as learning writes it. -/
structure PatternRow extends RequestPattern where
  confidence : BitVec 64
deriving Repr, DecidableEq

/-- A row of `response_templates`, as far as learning writes it. -/
structure TemplateRow extends ResponseTemplate where
  expectedVariables : Json
  confidence : BitVec 64
deriving Repr, DecidableEq

/-- A row of `field_mappings`. -/
structure MappingRow extends FieldMappingRow where
  requestType : Str
  responseType : Str
  confidence : BitVec 64
deriving Repr, DecidableEq

/-- The counters of `match_stats` that learning advances. -/
structure LearnedCounters where
  patternsLearned : Nat := 0
  templatesCreated : Nat := 0
deriving Repr, DecidableEq

/-- What learning reads and writes of a device database. -/
structure LearnedDb where
  patterns : List PatternRow := []
  templates : List TemplateRow := []
  mappings : List MappingRow := []
  counters : Option LearnedCounters := none
deriving Repr, DecidableEq

/-- The columns that the export reads. -/
def LearnedDb.tables (db : LearnedDb) : DeviceDb where
  patterns := db.patterns.map (·.toRequestPattern)
  templates := db.templates.map (·.toResponseTemplate)
  mappings := db.mappings.map (·.toFieldMappingRow)

section
variable (H : Host) (deviceId : Str)

/-- The row of a pattern. -/
def bindPatternRow (item : Prepared) : Result PatternRow := do
  let row ← bindPattern H item
  let confidence ← confidence H (field item.patternData "confidence")
  .ok { toRequestPattern := row, confidence }

/-- The template of a pattern with a response. -/
def bindTemplateRow (item : Prepared) : Result TemplateRow := do
  let row ← bindTemplate H item
  let confidence ← confidence H (field item.respData "confidence")
  .ok
    { toResponseTemplate := row
      expectedVariables := (item.respData.get? "expected_variables").getD (.arr [])
      confidence }

/-- The row of a new field mapping, under its intent. -/
def bindMappingRow (m : Str × PreparedMapping) : Result MappingRow := do
  let row ← bindMapping H m
  let confidence ← confidence H (field m.2.respInfo "confidence")
  let requestType ← H.bindText ((m.2.respInfo.get? "request_type").getD (.str "string"))
  let responseType ← H.bindText ((m.2.respInfo.get? "type").getD (.str "string"))
  .ok { toFieldMappingRow := row, requestType, responseType, confidence }

/-- A template that is written again keeps the pattern it was made for. -/
def TemplateRow.keepPattern (row old : TemplateRow) : TemplateRow := { row with patternId := old.patternId }

/-- The tables once the rows of a reply are stored, and the counters: one for each row that is new. -/
def storeLearned (patterns : List PatternRow) (templates : List TemplateRow) (mappings : List MappingRow)
    (db : LearnedDb) : LearnedDb where
  patterns := patterns.foldl (fun rows row => upsert (·.patternId) row.patternId row (fun _ => row) rows) db.patterns
  templates := templates.foldl (fun rows row =>
    upsert (·.templateId) row.templateId row row.keepPattern rows) db.templates
  mappings := db.mappings ++ mappings
  counters :=
    let counters := db.counters.getD {}
    some
      { patternsLearned := counters.patternsLearned +
          (patterns.filter fun row => row.patternId ∉ db.patterns.map (·.patternId)).length
        templatesCreated := counters.templatesCreated +
          (templates.filter fun row => row.templateId ∉ db.templates.map (·.templateId)).length }

/-- `_save_patterns`, from the list of patterns on: nothing is touched when it is empty. -/
def learnRows (patterns : List (Dict Str Json)) (db : LearnedDb) : Result LearnedDb :=
  if patterns.isEmpty then .ok db
  else do
    let items ← patterns.mapM (prepare H deviceId)
    let _ ← (lookups items).mapM H.query
    let _ ← items.mapM (checkNumbers H)
    let mappings ← (newMappings (db.mappings.map (·.mappingId)) (repliedMappings items)).mapM (bindMappingRow H)
    let templates ← (written (answered items)).mapM (bindTemplateRow H)
    let rows ← (written items).mapM (bindPatternRow H)
    .ok (storeLearned rows templates mappings db)

end

section
variable {H : Host} {deviceId : Str} {db db' : LearnedDb}

/-! ## The columns the export reads -/

/-- A mapping row binds what the export reads of it, or fails as that does. -/
theorem bindMappingRow_row (m : Str × PreparedMapping) :
    (bindMappingRow H m).map (·.toFieldMappingRow) = bindMapping H m := by
  unfold bindMappingRow
  cases hrow : bindMapping H m with
  | error e => rfl
  | ok row =>
    -- the row was bound, so its confidence was computed and its types were bound
    unfold bindMapping at hrow
    obtain ⟨_, hconfidence, hrow⟩ := Except.bind_ok_iff.mp hrow
    obtain ⟨_, _, hrow⟩ := Except.bind_ok_iff.mp hrow
    obtain ⟨_, _, hrow⟩ := Except.bind_ok_iff.mp hrow
    obtain ⟨_, hrequest, hrow⟩ := Except.bind_ok_iff.mp hrow
    obtain ⟨_, _, hrow⟩ := Except.bind_ok_iff.mp hrow
    obtain ⟨_, htype, _⟩ := Except.bind_ok_iff.mp hrow
    rw [Except.ok_bind, hconfidence, Except.ok_bind, hrequest, Except.ok_bind, htype]
    rfl

/-- The confidence of a checked pattern is computed. -/
theorem confidence_of_checked {item : Prepared} (h : checkNumbers H item = .ok ()) :
    ∃ number, confidence H (field item.patternData "confidence") = .ok number := by
  unfold checkNumbers at h
  obtain ⟨number, hnumber, _⟩ := Except.bind_ok_iff.mp h
  exact ⟨number, hnumber⟩

/-- So is that of its response. -/
theorem responseConfidence_of_checked {item : Prepared} (h : checkNumbers H item = .ok ())
    (hresp : item.respData ≠ []) : ∃ number, confidence H (field item.respData "confidence") = .ok number := by
  unfold checkNumbers at h
  obtain ⟨_, _, h⟩ := Except.bind_ok_iff.mp h
  rw [if_neg hresp] at h
  obtain ⟨_, _, h⟩ := Except.bind_ok_iff.mp h
  obtain ⟨number, hnumber, _⟩ := Except.bind_ok_iff.mp h
  exact ⟨number, hnumber⟩

theorem bindPatternRow_row {item : Prepared} (h : checkNumbers H item = .ok ()) :
    (bindPatternRow H item).map (·.toRequestPattern) = bindPattern H item := by
  obtain ⟨number, hnumber⟩ := confidence_of_checked h
  unfold bindPatternRow
  rw [hnumber]
  cases bindPattern H item <;> rfl

theorem bindTemplateRow_row {item : Prepared} (h : checkNumbers H item = .ok ()) (hresp : item.respData ≠ []) :
    (bindTemplateRow H item).map (·.toResponseTemplate) = bindTemplate H item := by
  obtain ⟨number, hnumber⟩ := responseConfidence_of_checked h hresp
  unfold bindTemplateRow
  rw [hnumber]
  cases bindTemplate H item <;> rfl

theorem storeLearned_tables (patterns : List PatternRow) (templates : List TemplateRow) (mappings : List MappingRow) :
    (storeLearned patterns templates mappings db).tables =
      storeRows (patterns.map (·.toRequestPattern)) (templates.map (·.toResponseTemplate))
        (mappings.map (·.toFieldMappingRow)) db.tables := by
  unfold storeLearned storeRows LearnedDb.tables
  dsimp only
  rw [List.map_append, List.foldl_map, List.foldl_map, map_foldl_upsert, map_foldl_upsert]
  all_goals intros; rfl

/-- **Of what the export reads, a list of patterns is learned as `learnPatterns` says.** -/
theorem learnRows_tables {patterns : List (Dict Str Json)} (hne : patterns ≠ []) :
    (learnRows H deviceId patterns db).map LearnedDb.tables = learnPatterns H deviceId patterns db.tables := by
  have hids : db.tables.mappings.map (·.mappingId) = db.mappings.map (·.mappingId) := by
    unfold LearnedDb.tables
    rw [List.map_map]
    rfl
  unfold learnRows learnPatterns
  rw [if_neg (by simpa using hne), hids]
  cases patterns.mapM (prepare H deviceId) with
  | error e => rfl
  | ok items =>
    rw [Except.ok_bind, Except.ok_bind]
    cases (lookups items).mapM H.query with
    | error e => rfl
    | ok _ =>
      rw [Except.ok_bind, Except.ok_bind]
      cases hchecked : items.mapM (checkNumbers H) with
      | error e => rfl
      | ok _ =>
        have hnumbers : ∀ item ∈ items, checkNumbers H item = .ok () := fun item hitem => by
          obtain ⟨_, _, hitem⟩ := (Except.forall₂_of_mapM hchecked).exists_right hitem
          exact hitem
        have hmappings := Except.map_mapM (newMappings (db.mappings.map (·.mappingId)) (repliedMappings items))
          fun m _ => bindMappingRow_row (H := H) m
        have htemplates := Except.map_mapM (written (answered items)) fun item hitem => by
          have hmem := List.mem_filter.mp (mem_of_written hitem)
          exact bindTemplateRow_row (hnumbers item hmem.1) (by simpa using hmem.2)
        have hrows := Except.map_mapM (written items) fun item hitem =>
          bindPatternRow_row (hnumbers item (mem_of_written hitem))
        rw [Except.ok_bind, Except.ok_bind, ← hmappings, ← htemplates, ← hrows]
        cases (newMappings (db.mappings.map (·.mappingId)) (repliedMappings items)).mapM (bindMappingRow H) with
        | error e => rfl
        | ok mappings =>
          cases (written (answered items)).mapM (bindTemplateRow H) with
          | error e => rfl
          | ok templates =>
            cases (written items).mapM (bindPatternRow H) with
            | error e => rfl
            | ok rows => exact congrArg Except.ok (storeLearned_tables rows templates mappings)

end

end RideTheApi.SavePatterns
