import RideTheApi.PatternDb.FreshImport
import RideTheApi.Pipeline.MergeConvergence

/-!
# `Pipeline.ImportConvergence` — importing a pattern document again

An import writes every column of the rows of its document, under ids made of the document alone. What it writes
does not depend on what a row held, so a second import finds every row as it would leave it. Where two field
mappings have one id, the row is that of the last: the others are lost.
-/

namespace RideTheApi.ImportConvergence

open Py PatternDb SavePatterns KeyedTable MergeConvergence

/-! ## The import, with every column -/

/-- The confidence of what is imported, 0.9. -/
def importedConfidence : BitVec 64 := 0x3feccccccccccccd

/-- What an import stores in the row of an endpoint. -/
def importPatternRow (defaultProtocol : Str) (ep : ClientEndpoint) (row : PatternRow) : PatternRow :=
  { row with
    toRequestPattern := storePattern defaultProtocol ep row.toRequestPattern
    confidence := importedConfidence }

/-- What an import stores in the template of an endpoint. -/
def importTemplateRow (resp : ServerResponse) (row : TemplateRow) : TemplateRow :=
  { row with
    toResponseTemplate := storeTemplate resp row.toResponseTemplate
    expectedVariables := expectedVariables resp
    confidence := importedConfidence }

/-- What an import stores in a mapping row of an endpoint. -/
def importMappingRow (intent : Str) (fm : FieldMapping) (row : MappingRow) : MappingRow :=
  { row with
    toFieldMappingRow := storeMapping intent fm row.toFieldMappingRow
    requestType := "string"
    responseType := "string"
    confidence := importedConfidence }

/-- The rows an import adds, before anything is stored in them. -/
def blankPattern (patternId : Str) : PatternRow := { newPattern patternId with confidence := defaultConfidence }

def blankTemplate (patternId : Str) : TemplateRow :=
  { newTemplate patternId with expectedVariables := .arr [], confidence := defaultConfidence }

def blankMapping (mappingId : Str) : MappingRow :=
  { newMapping mappingId with requestType := [], responseType := [], confidence := defaultConfidence }

section
variable (deviceId defaultProtocol : Str)

/-- Upsert one field mapping of an endpoint. -/
def importLearnedMapping (ep : ClientEndpoint) (db : LearnedDb) (fm : FieldMapping) : LearnedDb :=
  { db with
    mappings := upsert (·.mappingId) (mappingId deviceId ep.intent fm.source)
      (blankMapping (mappingId deviceId ep.intent fm.source)) (importMappingRow ep.intent fm) db.mappings }

/-- The rows of one endpoint and of the response that answers it. -/
def importLearnedEndpoint (db : LearnedDb) (planned : ClientEndpoint × Option ServerResponse) : LearnedDb :=
  let db :=
    { db with
      patterns := upsert (·.patternId) planned.1.id (blankPattern planned.1.id)
        (importPatternRow defaultProtocol planned.1) db.patterns }
  match planned.2 with
  | none      => db
  | some resp =>
    resp.fieldMappings.foldl (importLearnedMapping deviceId planned.1)
      { db with
        templates := upsert (·.templateId) (templateId planned.1.id) (blankTemplate planned.1.id)
          (importTemplateRow resp) db.templates }

end

/-- `import_patterns`. -/
def importLearned (deviceId : Str) (doc : PatternDB) (db : LearnedDb) : Result LearnedDb :=
  if validPattern doc then .ok ((importPlan doc).foldl (importLearnedEndpoint deviceId (defaultProtocol doc)) db)
  else .error .other

/-! ## The three tables -/

section
variable {deviceId protocol : Str} {doc : PatternDB} {db db' : LearnedDb}

/-- The pattern table once a plan is written. -/
def writeEndpoints (protocol : Str) (plan : List (ClientEndpoint × Option ServerResponse)) (rows : List PatternRow) :
    List PatternRow :=
  plan.foldl (fun rows planned => upsert (·.patternId) planned.1.id (blankPattern planned.1.id)
    (importPatternRow protocol planned.1) rows) rows

/-- The template table. -/
def writeResponses (plan : List (ClientEndpoint × ServerResponse)) (rows : List TemplateRow) : List TemplateRow :=
  plan.foldl (fun rows er => upsert (·.templateId) (templateId er.1.id) (blankTemplate er.1.id)
    (importTemplateRow er.2) rows) rows

/-- The mapping table. -/
def writeFields (deviceId : Str) (plan : List (Str × FieldMapping)) (rows : List MappingRow) : List MappingRow :=
  plan.foldl (fun rows im => upsert (·.mappingId) (mappingId deviceId im.1 im.2.source)
    (blankMapping (mappingId deviceId im.1 im.2.source)) (importMappingRow im.1 im.2) rows) rows

theorem importLearnedMappings_eq (ep : ClientEndpoint) (fms : List FieldMapping) (db : LearnedDb) :
    fms.foldl (importLearnedMapping deviceId ep) db =
      { db with mappings := writeFields deviceId (fms.map (Prod.mk ep.intent)) db.mappings } := by
  induction fms generalizing db with
  | nil => rfl
  | cons fm fms ih =>
    rw [List.foldl_cons, ih]
    rfl

/-- **An import writes each table by its own plan.** -/
theorem importLearnedEndpoints_eq (plan : List (ClientEndpoint × Option ServerResponse)) (db : LearnedDb) :
    plan.foldl (importLearnedEndpoint deviceId protocol) db =
      { db with
        patterns := writeEndpoints protocol plan db.patterns
        templates := writeResponses (answeredPlan plan) db.templates
        mappings := writeFields deviceId (plannedMappings plan) db.mappings } := by
  induction plan generalizing db with
  | nil => rfl
  | cons planned plan ih =>
    obtain ⟨ep, resp⟩ := planned
    rw [List.foldl_cons, ih]
    cases resp with
    | none => rfl
    | some resp =>
      have hplanned : plannedMappings ((ep, some resp) :: plan) =
          resp.fieldMappings.map (Prod.mk ep.intent) ++ plannedMappings plan := rfl
      rw [importLearnedEndpoint]
      dsimp only
      rw [importLearnedMappings_eq, hplanned]
      unfold writeFields
      rw [List.foldl_append]
      rfl

/-- **Of what the export reads, a document is imported as `importPatterns` says.** -/
theorem importLearned_tables (deviceId : Str) (doc : PatternDB) (db : LearnedDb) :
    (importLearned deviceId doc db).map LearnedDb.tables = importPatterns deviceId doc db.tables := by
  unfold importLearned importPatterns
  split
  · refine congrArg Except.ok ?_
    rw [importLearnedEndpoints_eq]
    apply deviceDb_ext
    · rw [importPlan_patterns]
      apply map_foldl_upsert
      all_goals intros; rfl
    · rw [importPlan_templates]
      apply map_foldl_upsert
      all_goals intros; rfl
    · rw [importPlan_mappings]
      apply map_foldl_upsert
      all_goals intros; rfl
  · rfl

/-! ## Importing again -/

theorem importPatternRow_overwrites (protocol : Str) (ep : ClientEndpoint) :
    Overwrites patternColumns (importPatternRow protocol ep) := by
  simp [Overwrites, patternColumns, importPatternRow, storePattern]

theorem importTemplateRow_overwrites (resp : ServerResponse) :
    Overwrites templateColumns (importTemplateRow resp) := by
  simp [Overwrites, templateColumns, importTemplateRow, storeTemplate]

theorem importMappingRow_overwrites (intent : Str) (fm : FieldMapping) :
    Overwrites mappingColumns (importMappingRow intent fm) := by
  simp [Overwrites, mappingColumns, importMappingRow, storeMapping]

theorem writeEndpoints_again (plan : List (ClientEndpoint × Option ServerResponse)) {rows : List PatternRow}
    (h : (rows.map (·.patternId)).Nodup) :
    writeEndpoints protocol plan (writeEndpoints protocol plan rows) = writeEndpoints protocol plan rows := by
  unfold writeEndpoints
  apply foldl_upsert_again _ patternColumns_separate
  · exact fun _ => rfl
  · exact h
  · exact fun planned _ => importPatternRow_overwrites protocol planned.1
  · exact fun _ _ hrow => hrow

theorem writeResponses_again (plan : List (ClientEndpoint × ServerResponse)) {rows : List TemplateRow}
    (h : (rows.map (·.templateId)).Nodup) :
    writeResponses plan (writeResponses plan rows) = writeResponses plan rows := by
  unfold writeResponses
  apply foldl_upsert_again _ templateColumns_separate
  · exact fun _ => rfl
  · exact h
  · exact fun er _ => importTemplateRow_overwrites er.2
  · exact fun _ _ hrow => hrow

theorem writeFields_again (plan : List (Str × FieldMapping)) {rows : List MappingRow}
    (h : (rows.map (·.mappingId)).Nodup) :
    writeFields deviceId plan (writeFields deviceId plan rows) = writeFields deviceId plan rows := by
  unfold writeFields
  apply foldl_upsert_again _ mappingColumns_separate
  · exact fun _ => rfl
  · exact h
  · exact fun im _ => importMappingRow_overwrites im.1 im.2
  · exact fun _ _ hrow => hrow

theorem importLearned_ok_iff : importLearned deviceId doc db = .ok db' ↔ validPattern doc = true ∧
    db' = (importPlan doc).foldl (importLearnedEndpoint deviceId (defaultProtocol doc)) db := by
  unfold importLearned
  by_cases hvalid : validPattern doc = true
  · rw [if_pos hvalid]
    exact ⟨fun h => ⟨hvalid, (Except.ok.inj h).symm⟩, fun h => by rw [h.2]⟩
  · rw [if_neg hvalid]
    exact ⟨nofun, fun h => absurd h.1 hvalid⟩

/-- **A document that is imported again leaves the database as it was.** -/
theorem importLearned_again (hkeyed : Keyed db) (h : importLearned deviceId doc db = .ok db') :
    importLearned deviceId doc db' = .ok db' := by
  obtain ⟨hvalid, rfl⟩ := importLearned_ok_iff.mp h
  refine importLearned_ok_iff.mpr ⟨hvalid, ?_⟩
  rw [importLearnedEndpoints_eq, importLearnedEndpoints_eq]
  dsimp only
  rw [writeEndpoints_again _ hkeyed.patterns, writeResponses_again _ hkeyed.templates,
    writeFields_again _ hkeyed.mappings]

/-! ## The mappings that are lost -/

/-- A stored row is a mapping of an intent: with exactly its source, target, transform, formula and values. -/
structure Carries (intent : Str) (fm : FieldMapping) (row : MappingRow) : Prop where
  intent : row.intent = intent
  source : row.requestField = fm.source
  target : row.responseField = fm.target
  transform : row.transform = some fm.transform
  formula : row.formula.getD [] = fm.formula
  enumValues : row.enumValues = ofOptDict fm.mapping

/-- Every mapping of every answered endpoint is stored. -/
def KeepsMappings (doc : PatternDB) (db : LearnedDb) : Prop :=
  ∀ ep ∈ doc.client.endpoints, ∀ resp,
    responseForEndpoint (responsesByTrigger doc.server.responses) ep.id ep.intent = some resp →
      ∀ fm ∈ resp.fieldMappings, ∃ row ∈ db.mappings, Carries ep.intent fm row

/-- The id a mapping is stored under. -/
def idOf (deviceId : Str) (im : Str × FieldMapping) : Str := mappingId deviceId im.1 im.2.source

/-- The row a mapping is stored as. -/
def fieldRow (deviceId : Str) (im : Str × FieldMapping) : MappingRow :=
  importMappingRow im.1 im.2 (blankMapping (idOf deviceId im))

/-- A mapping that agrees with another in all that is stored. -/
structure SameField (im im' : Str × FieldMapping) : Prop where
  intent : im'.1 = im.1
  source : im'.2.source = im.2.source
  target : im'.2.target = im.2.target
  transform : im'.2.transform = im.2.transform
  formula : (storedFormula im'.2.formula).getD [] = im.2.formula
  mapping : im'.2.mapping = im.2.mapping

/-- A mapping that is kept: the last one that is stored under its id agrees with it, or the database has it
    already, under an id that the document does not write. -/
def Kept (deviceId : Str) (plan : List (Str × FieldMapping)) (db : LearnedDb) (im : Str × FieldMapping) : Prop :=
  (∃ last, row? (idOf deviceId) (idOf deviceId im) plan.reverse = some last ∧ SameField im last) ∨
    ∃ row ∈ db.mappings, row.mappingId ∉ plan.map (idOf deviceId) ∧ Carries im.1 im.2 row

theorem SameField.idOf_eq {im im' : Str × FieldMapping} (h : SameField im im') :
    idOf deviceId im' = idOf deviceId im := by
  unfold idOf
  rw [h.intent, h.source]

theorem ofOptDict_injective {d d' : Option (Dict Str Json)} (h : ofOptDict d = ofOptDict d') : d = d' := by
  have hread := toOptDict_ofOptDict d
  rw [h, toOptDict_ofOptDict] at hread
  exact (Except.ok.inj hread).symm

/-- The row of a mapping carries another one iff the two agree. -/
theorem carries_fieldRow_iff {im last : Str × FieldMapping} :
    Carries im.1 im.2 (fieldRow deviceId last) ↔ SameField im last := by
  constructor
  · rintro ⟨hintent, hsource, htarget, htransform, hformula, hvalues⟩
    exact ⟨hintent, hsource, htarget, Option.some.inj htransform, hformula, ofOptDict_injective hvalues⟩
  · rintro ⟨hintent, hsource, htarget, htransform, hformula, hmapping⟩
    exact ⟨hintent, hsource, htarget, congrArg some htransform, hformula, congrArg ofOptDict hmapping⟩

/-- Whatever a row of its id held, a mapping leaves its own. -/
theorem importMappingRow_eq {im : Str × FieldMapping} {row : MappingRow} (h : row.mappingId = idOf deviceId im) :
    importMappingRow im.1 im.2 row = fieldRow deviceId im := by
  unfold fieldRow
  rw [← h]
  rfl

/-- **The row of an id after an import**: that of the last mapping of the id, else the old one. -/
theorem row?_writeFields (k : Str) (plan : List (Str × FieldMapping)) (rows : List MappingRow) :
    row? (·.mappingId) k (writeFields deviceId plan rows) =
      ((row? (idOf deviceId) k plan.reverse).map (fieldRow deviceId)).or (row? (·.mappingId) k rows) := by
  induction plan generalizing rows with
  | nil => rfl
  | cons im plan ih =>
    have hfirst : row? (·.mappingId) k (writeFields deviceId [im] rows) =
        ((row? (idOf deviceId) k [im]).map (fieldRow deviceId)).or (row? (·.mappingId) k rows) := by
      rw [row?_cons, row?_nil]
      by_cases hid : idOf deviceId im = k
      · rw [if_pos hid]
        subst hid
        have hself : row? (·.mappingId) (idOf deviceId im) (writeFields deviceId [im] rows) =
            some (importMappingRow im.1 im.2
              ((row? (·.mappingId) (idOf deviceId im) rows).getD (blankMapping (idOf deviceId im)))) := by
          apply row?_upsert_self
          · exact fun _ hrow => hrow
          · rfl
        refine hself.trans (congrArg some (importMappingRow_eq ?_))
        cases hold : row? (·.mappingId) (idOf deviceId im) rows with
        | none => rfl
        | some old =>
          have hkey := key_of_row? hold
          exact hkey
      · rw [if_neg hid]
        apply row?_upsert_of_ne
        · exact fun _ hrow => hrow
        · rfl
        · exact Ne.symm hid
    have hcons : writeFields deviceId (im :: plan) rows =
        writeFields deviceId plan (writeFields deviceId [im] rows) := rfl
    rw [hcons, ih, hfirst, List.reverse_cons, row?_append, Option.map_or, Option.or_assoc]

theorem Keyed.writeFields {rows : List MappingRow} (h : (rows.map (·.mappingId)).Nodup)
    (plan : List (Str × FieldMapping)) : ((writeFields deviceId plan rows).map (·.mappingId)).Nodup :=
  nodup_foldl_upsert (fun _ _ h => h) (fun _ => rfl) h

/-- A mapping of a plan is stored iff it is kept. -/
theorem stored_iff_kept (hkeyed : Keyed db) (plan : List (Str × FieldMapping)) (im : Str × FieldMapping) :
    (∃ row ∈ writeFields deviceId plan db.mappings, Carries im.1 im.2 row) ↔ Kept deviceId plan db im := by
  constructor
  · rintro ⟨row, hrow, hcarries⟩
    have hfound := row?_of_mem (Keyed.writeFields hkeyed.mappings plan) hrow
    rw [row?_writeFields] at hfound
    cases hlast : row? (idOf deviceId) row.mappingId plan.reverse with
    | some last =>
      rw [hlast] at hfound
      obtain rfl := Option.some.inj hfound
      have hsame := carries_fieldRow_iff.mp hcarries
      refine .inl ⟨last, ?_, hsame⟩
      rw [← hsame.idOf_eq, ← key_of_row? hlast] at *
      exact hlast
    | none =>
      rw [hlast] at hfound
      refine .inr ⟨row, mem_of_row? hfound, ?_, hcarries⟩
      have habsent := row?_eq_none_iff.mp hlast
      rw [List.map_reverse, List.mem_reverse] at habsent
      exact habsent
  · rintro (⟨last, hlast, hsame⟩ | ⟨row, hrow, habsent, hcarries⟩)
    · have hfound : row? (·.mappingId) (idOf deviceId im) (writeFields deviceId plan db.mappings) =
          some (fieldRow deviceId last) := by
        rw [row?_writeFields, hlast]
        rfl
      exact ⟨fieldRow deviceId last, mem_of_row? hfound, carries_fieldRow_iff.mpr hsame⟩
    · have hnone : row? (idOf deviceId) row.mappingId plan.reverse = none := by
        rw [row?_eq_none_iff, List.map_reverse, List.mem_reverse]
        exact habsent
      have hfound : row? (·.mappingId) row.mappingId (writeFields deviceId plan db.mappings) = some row := by
        rw [row?_writeFields, hnone]
        exact row?_of_mem hkeyed.mappings hrow
      exact ⟨row, mem_of_row? hfound, hcarries⟩

/-- The mappings of a document are those of the responses that answer its endpoints. -/
theorem mem_plannedMappings_iff {im : Str × FieldMapping} : im ∈ plannedMappings (importPlan doc) ↔
    ∃ ep ∈ doc.client.endpoints, ∃ resp,
      responseForEndpoint (responsesByTrigger doc.server.responses) ep.id ep.intent = some resp ∧
        ∃ fm ∈ resp.fieldMappings, im = (ep.intent, fm) := by
  unfold plannedMappings answeredPlan importPlan
  constructor
  · intro h
    obtain ⟨er, her, him⟩ := List.mem_flatMap.mp h
    obtain ⟨planned, hplanned, hanswer⟩ := List.mem_filterMap.mp her
    obtain ⟨ep, hep, rfl⟩ := List.mem_map.mp hplanned
    obtain ⟨resp, hresp, rfl⟩ := Option.map_eq_some_iff.mp hanswer
    obtain ⟨fm, hfm, rfl⟩ := List.mem_map.mp him
    exact ⟨ep, hep, resp, hresp, fm, hfm, rfl⟩
  · rintro ⟨ep, hep, resp, hresp, fm, hfm, rfl⟩
    refine List.mem_flatMap.mpr ⟨(ep, resp), ?_, List.mem_map_of_mem hfm⟩
    refine List.mem_filterMap.mpr ⟨_, List.mem_map_of_mem hep, ?_⟩
    rw [hresp]
    rfl

theorem keepsMappings_iff {db' : LearnedDb} : KeepsMappings doc db' ↔
    ∀ im ∈ plannedMappings (importPlan doc), ∃ row ∈ db'.mappings, Carries im.1 im.2 row := by
  constructor
  · intro h im him
    obtain ⟨ep, hep, resp, hresp, fm, hfm, rfl⟩ := mem_plannedMappings_iff.mp him
    exact h ep hep resp hresp fm hfm
  · intro h ep hep resp hresp fm hfm
    exact h (ep.intent, fm) (mem_plannedMappings_iff.mpr ⟨ep, hep, resp, hresp, fm, hfm, rfl⟩)

end

/-- **A document that is imported again changes nothing, and it loses no mapping iff each agrees with the last
    one that is stored under its id.** -/
theorem importLearned_keeps_iff (deviceId : Str) (doc : PatternDB) (db db' : LearnedDb) (hkeyed : Keyed db)
    (h : importLearned deviceId doc db = .ok db') :
    (importLearned deviceId doc db' = .ok db' ∧ KeepsMappings doc db') ↔
      ∀ im ∈ plannedMappings (importPlan doc), Kept deviceId (plannedMappings (importPlan doc)) db im := by
  have hagain := importLearned_again hkeyed h
  obtain ⟨_, rfl⟩ := importLearned_ok_iff.mp h
  rw [keepsMappings_iff]
  constructor
  · rintro ⟨_, hkeeps⟩ im him
    obtain ⟨row, hrow, hcarries⟩ := hkeeps im him
    rw [importLearnedEndpoints_eq] at hrow
    exact (stored_iff_kept hkeyed _ im).mp ⟨row, hrow, hcarries⟩
  · refine fun hkept => ⟨hagain, fun im him => ?_⟩
    rw [importLearnedEndpoints_eq]
    exact (stored_iff_kept hkeyed _ im).mpr (hkept im him)

/-! ## Two meters -/

/-- A meter with one endpoint, whose response has these mappings. -/
def meterDoc (fieldMappings : List FieldMapping) : PatternDB where
  patternMeta := { patternId := "p", vendor := "acme", deviceType := "meter" }
  client := { endpoints := [{ id := "ep-temp", intent := "get_temp", method := "POST", path := "/api/temp" }] }
  server := { responses := [{ id := "r-temp", triggers := [str "ep-temp"], fieldMappings }] }

/-- What an import of the meter leaves in an empty database. -/
def meterDb (fieldMappings : List FieldMapping) : LearnedDb :=
  ((importLearned "meter" (meterDoc fieldMappings) {}).toOption).getD {}

theorem empty_keyed : Keyed {} where
  patterns := List.nodup_nil
  templates := List.nodup_nil
  mappings := List.nodup_nil

/-- A temperature in Fahrenheit. -/
def fahrenheit : FieldMapping where
  source := "body.t"
  target := "result.f"
  transform := "formula"
  formula := "\x7brequest.body.t\x7d * 1.8 + 32"

/-- The formula is kept, and importing the meter again changes nothing. -/
theorem fahrenheit_kept : importLearned "meter" (meterDoc [fahrenheit]) (meterDb [fahrenheit]) =
    .ok (meterDb [fahrenheit]) ∧ KeepsMappings (meterDoc [fahrenheit]) (meterDb [fahrenheit]) := by
  refine (importLearned_keeps_iff "meter" (meterDoc [fahrenheit]) {} (meterDb [fahrenheit]) empty_keyed
    (by decide +kernel)).mpr fun im him => ?_
  have hplan : plannedMappings (importPlan (meterDoc [fahrenheit])) = [(str "get_temp", fahrenheit)] := by
    decide +kernel
  rw [hplan] at him ⊢
  obtain rfl := List.mem_singleton.mp him
  exact .inl ⟨_, by decide +kernel, rfl, rfl, rfl, rfl, by decide +kernel, rfl⟩

/-- Two fields whose names differ in a dot. -/
def dotted : List FieldMapping :=
  [{ source := "body.t", target := "result.t" }, { source := "body_t", target := "result.old" }]

/-- The first of them is lost. -/
theorem dotted_lost : ¬ ∀ (deviceId : Str) (doc : PatternDB) (db db' : LearnedDb), Keyed db →
    (doc.client.endpoints.map (·.id)).Nodup → importLearned deviceId doc db = .ok db' →
      importLearned deviceId doc db' = .ok db' ∧ KeepsMappings doc db' := by
  intro h
  obtain ⟨_, hkeeps⟩ := h "meter" (meterDoc dotted) {} (meterDb dotted) empty_keyed (by decide +kernel)
    (by decide +kernel)
  obtain ⟨row, hrow, hcarries⟩ := keepsMappings_iff.mp hkeeps
    (str "get_temp", { source := "body.t", target := "result.t" }) (by decide +kernel)
  have hsources : (meterDb dotted).mappings.map (·.requestField) = [str "body_t"] := by decide +kernel
  have hmem : row.requestField ∈ (meterDb dotted).mappings.map (·.requestField) := List.mem_map_of_mem hrow
  rw [hsources, List.mem_singleton, hcarries.source] at hmem
  exact absurd hmem (by decide +kernel)

end RideTheApi.ImportConvergence
