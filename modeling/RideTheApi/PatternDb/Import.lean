import RideTheApi.Lib.KeyedTable
import RideTheApi.Lib.Transition
import RideTheApi.PatternDb.Rows
import RideTheApi.PatternDb.Validator

/-!
# `PatternDb.Import` — importing a pattern document into a device database

Rows are upserted by deterministic ids: the endpoint's id, `tpl_` and that id, and for a field mapping the
device, the intent and the source with its dots replaced. `WellFormed` is what every run of imports into an
empty database keeps: distinct ids, templates named after their pattern, and columns that read back as the
values that were stored.
-/

namespace RideTheApi.PatternDb

open Py KeyedTable

def maxStoredFormula : Nat := 1024

/-- A formula expression to store, or none when there is none. -/
def storedFormula (value : Str) : Option Str :=
  if value.stripSpace = [] then none else some (value.take maxStoredFormula)

/-- Deterministic id of a field mapping. -/
def mappingId (deviceId intent requestField : Str) : Str :=
  str "map_" ++ (deviceId ++ (str "_" ++ (intent ++ (str "_" ++ requestField.replace (cp '.') (cp '_')))))

/-- Id of the template of a pattern. -/
def templateId (patternId : Str) : Str := str "tpl_" ++ patternId

/-- A new pattern row, before anything is stored in it. -/
def newPattern (patternId : Str) : RequestPattern :=
  { patternId, method := [], pathPattern := [], protocol := [], requiredHeaders := .arr [], bodySchema := .obj []
    queryParamKeys := .arr [], intent := [] }

/-- What an import stores in the row of an endpoint. -/
def storePattern (defaultProtocol : Str) (ep : ClientEndpoint) (row : RequestPattern) : RequestPattern :=
  { row with
    method := ep.method
    pathPattern := orStr ep.pathPattern ep.path
    protocol := orStr ep.protocol defaultProtocol
    requiredHeaders := ofStrList ((Dict.get? ep.headers (str "required")).getD [])
    bodySchema := .obj (ep.bodySchema.getD [])
    queryParamKeys := ofStrList ep.queryParams
    intent := ep.intent }

/-- A new template row, before anything is stored in it. -/
def newTemplate (patternId : Str) : ResponseTemplate :=
  { templateId := templateId patternId, patternId, statusCode := 0, headersTemplate := .obj []
    bodyTemplate := .obj [], fieldMappings := .obj [] }

/-- What an import stores in the template of an endpoint. -/
def storeTemplate (resp : ServerResponse) (row : ResponseTemplate) : ResponseTemplate :=
  { row with
    statusCode := resp.statusCode
    headersTemplate := ofStrDict resp.headersTemplate
    bodyTemplate := .obj resp.bodyTemplate
    fieldMappings := ofStrDict (Dict.ofList (resp.fieldMappings.map fun m => (m.source, m.target))) }

/-- A new mapping row, before anything is stored in it. -/
def newMapping (mappingId : Str) : FieldMappingRow :=
  { mappingId, requestField := [], responseField := [], transform := none, formula := none, enumValues := .null
    intent := [] }

/-- What an import stores in a mapping row of an endpoint. -/
def storeMapping (intent : Str) (fm : FieldMapping) (row : FieldMappingRow) : FieldMappingRow :=
  { row with
    requestField := fm.source
    responseField := fm.target
    transform := some fm.transform
    formula := storedFormula fm.formula
    enumValues := ofOptDict fm.mapping
    intent := intent }

/-- Upsert the row of an endpoint. -/
def importPattern (defaultProtocol : Str) (ep : ClientEndpoint) (db : DeviceDb) : DeviceDb :=
  { db with
    patterns := upsert (·.patternId) ep.id (newPattern ep.id) (storePattern defaultProtocol ep) db.patterns }

/-- Upsert the template of an endpoint that a response answers. -/
def importTemplate (ep : ClientEndpoint) (resp : ServerResponse) (db : DeviceDb) : DeviceDb :=
  { db with
    templates := upsert (·.templateId) (templateId ep.id) (newTemplate ep.id) (storeTemplate resp) db.templates }

/-- Upsert one field mapping of an endpoint. -/
def importMapping (deviceId : Str) (ep : ClientEndpoint) (db : DeviceDb) (fm : FieldMapping) : DeviceDb :=
  { db with
    mappings := upsert (·.mappingId) (mappingId deviceId ep.intent fm.source)
      (newMapping (mappingId deviceId ep.intent fm.source)) (storeMapping ep.intent fm) db.mappings }

/-- The rows of one endpoint and of the response that answers it. -/
def importEndpoint (deviceId defaultProtocol : Str) (db : DeviceDb)
    (planned : ClientEndpoint × Option ServerResponse) : DeviceDb :=
  let db := importPattern defaultProtocol planned.1 db
  match planned.2 with
  | none      => db
  | some resp => resp.fieldMappings.foldl (importMapping deviceId planned.1) (importTemplate planned.1 resp db)

/-- Every endpoint with the response that answers it. -/
def importPlan (doc : PatternDB) : List (ClientEndpoint × Option ServerResponse) :=
  doc.client.endpoints.map fun ep =>
    (ep, responseForEndpoint (responsesByTrigger doc.server.responses) ep.id ep.intent)

/-- The protocol of an endpoint that names none. -/
def defaultProtocol (doc : PatternDB) : Str := doc.client.protocols.headD "http"

/-- Import patterns from a portable document into the device database. An invalid document is rejected
    before anything is written. -/
def importPatterns (deviceId : Str) (doc : PatternDB) (db : DeviceDb) : Result DeviceDb :=
  if validPattern doc then .ok ((importPlan doc).foldl (importEndpoint deviceId (defaultProtocol doc)) db)
  else .error .other

/-- An import as a step of a device database. -/
def importStep (deviceId : Str) (db : DeviceDb) (doc : PatternDB) : Option DeviceDb :=
  (importPatterns deviceId doc db).toOption

/-! ## What imports keep -/

/-- The columns of a pattern row read back as what was stored, and it has an id. -/
structure RequestPattern.WellTyped (pat : RequestPattern) : Prop where
  requiredHeaders : ∃ xs, pat.requiredHeaders = ofStrList xs
  bodySchema : ∃ d, pat.bodySchema = .obj d
  queryParamKeys : ∃ xs, pat.queryParamKeys = ofStrList xs
  patternId : pat.patternId ≠ []

/-- The columns of a template row read back as what was stored, and it is named after its pattern. -/
structure ResponseTemplate.WellTyped (tmpl : ResponseTemplate) : Prop where
  headersTemplate : ∃ d, tmpl.headersTemplate = ofStrDict d
  bodyTemplate : ∃ d, tmpl.bodyTemplate = .obj d
  fieldMappings : ∃ d, tmpl.fieldMappings = ofStrDict d
  named : tmpl.templateId = PatternDb.templateId tmpl.patternId

/-- The enum values of a mapping row read back as what was stored, and it is named after its intent and
    source. -/
structure FieldMappingRow.WellTyped (deviceId : Str) (row : FieldMappingRow) : Prop where
  requestField : row.requestField ≠ []
  enumValues : ∃ d, row.enumValues = ofOptDict d
  named : row.mappingId = PatternDb.mappingId deviceId row.intent row.requestField

/-- A database whose rows read back and carry distinct ids. -/
structure Stored (deviceId : Str) (db : DeviceDb) : Prop where
  patterns : ∀ pat ∈ db.patterns, pat.WellTyped
  templates : ∀ tmpl ∈ db.templates, tmpl.WellTyped
  mappings : ∀ row ∈ db.mappings, row.WellTyped deviceId
  patternIds : (db.patterns.map (·.patternId)).Nodup
  templateIds : (db.templates.map (·.templateId)).Nodup
  mappingIds : (db.mappings.map (·.mappingId)).Nodup

/-- A stored database whose patterns all have an intent: what imports into an empty one produce. -/
structure WellFormed (deviceId : Str) (db : DeviceDb) : Prop extends Stored deviceId db where
  intents : ∀ pat ∈ db.patterns, pat.intent ≠ []

theorem wellFormed_empty (deviceId : Str) : WellFormed deviceId {} where
  patterns := by simp
  templates := by simp
  mappings := by simp
  patternIds := List.nodup_nil
  templateIds := List.nodup_nil
  mappingIds := List.nodup_nil
  intents := by simp

/-! ## The three tables -/

/-- The planned endpoints that a response answers. -/
def answeredPlan (plan : List (ClientEndpoint × Option ServerResponse)) :
    List (ClientEndpoint × ServerResponse) :=
  plan.filterMap fun planned => planned.2.map (Prod.mk planned.1)

/-- The field mappings of a plan, each with the intent it is stored under. -/
def plannedMappings (plan : List (ClientEndpoint × Option ServerResponse)) : List (Str × FieldMapping) :=
  (answeredPlan plan).flatMap fun er => er.2.fieldMappings.map (Prod.mk er.1.intent)

section
variable {deviceId protocol : Str} {ep : ClientEndpoint} {db : DeviceDb}

theorem importMappings_eq (fms : List FieldMapping) :
    fms.foldl (importMapping deviceId ep) db =
      { db with
        mappings := (fms.map (Prod.mk ep.intent)).foldl (fun rows im => upsert (·.mappingId)
          (mappingId deviceId im.1 im.2.source) (newMapping (mappingId deviceId im.1 im.2.source))
          (storeMapping im.1 im.2) rows) db.mappings } := by
  induction fms generalizing db with
  | nil => rfl
  | cons fm fms ih =>
    rw [List.foldl_cons, ih]
    rfl

/-- What a plan does to the pattern table. -/
theorem importPlan_patterns (plan : List (ClientEndpoint × Option ServerResponse)) :
    (plan.foldl (importEndpoint deviceId protocol) db).patterns =
      plan.foldl (fun rows planned => upsert (·.patternId) planned.1.id (newPattern planned.1.id)
        (storePattern protocol planned.1) rows) db.patterns := by
  induction plan generalizing db with
  | nil => rfl
  | cons planned plan ih =>
    obtain ⟨ep, resp⟩ := planned
    rw [List.foldl_cons, ih, List.foldl_cons]
    cases resp with
    | none => rfl
    | some resp =>
      rw [importEndpoint]
      dsimp only
      rw [importMappings_eq]
      rfl

/-- What a plan does to the template table. -/
theorem importPlan_templates (plan : List (ClientEndpoint × Option ServerResponse)) :
    (plan.foldl (importEndpoint deviceId protocol) db).templates =
      (answeredPlan plan).foldl (fun rows er => upsert (·.templateId) (templateId er.1.id) (newTemplate er.1.id)
        (storeTemplate er.2) rows) db.templates := by
  induction plan generalizing db with
  | nil => rfl
  | cons planned plan ih =>
    obtain ⟨ep, resp⟩ := planned
    rw [List.foldl_cons, ih]
    cases resp with
    | none => rfl
    | some resp =>
      rw [importEndpoint]
      dsimp only
      rw [importMappings_eq]
      rfl

/-- What a plan does to the mapping table. -/
theorem importPlan_mappings (plan : List (ClientEndpoint × Option ServerResponse)) :
    (plan.foldl (importEndpoint deviceId protocol) db).mappings =
      (plannedMappings plan).foldl (fun rows im => upsert (·.mappingId) (mappingId deviceId im.1 im.2.source)
        (newMapping (mappingId deviceId im.1 im.2.source)) (storeMapping im.1 im.2) rows) db.mappings := by
  induction plan generalizing db with
  | nil => rfl
  | cons planned plan ih =>
    obtain ⟨ep, resp⟩ := planned
    rw [List.foldl_cons, ih]
    cases resp with
    | none => rfl
    | some resp =>
      have hplanned : plannedMappings ((ep, some resp) :: plan) =
          resp.fieldMappings.map (Prod.mk ep.intent) ++ plannedMappings plan := rfl
      rw [hplanned, List.foldl_append, importEndpoint]
      dsimp only
      rw [importMappings_eq]
      rfl

/-- A plan keeps what every pattern row has and everything it stores gets. -/
theorem forall_patterns_importPlan {P : RequestPattern → Prop}
    (plan : List (ClientEndpoint × Option ServerResponse)) (h : ∀ pat ∈ db.patterns, P pat)
    (hstore : ∀ planned ∈ plan, ∀ row, P (storePattern protocol planned.1 row)) :
    ∀ pat ∈ (plan.foldl (importEndpoint deviceId protocol) db).patterns, P pat := by
  rw [importPlan_patterns]
  exact forall_foldl_upsert h (fun planned hp row _ _ => hstore planned hp row) fun planned hp => hstore planned hp _

/-- What a valid document plans: endpoints with an id and an intent, and mappings with a source. -/
def PlanValid (planned : ClientEndpoint × Option ServerResponse) : Prop :=
  planned.1.id ≠ [] ∧ planned.1.intent ≠ [] ∧ ∀ resp ∈ planned.2, ∀ fm ∈ resp.fieldMappings, fm.source ≠ []

/-- The mappings of a valid plan have a source. -/
theorem source_ne_of_planned {plan : List (ClientEndpoint × Option ServerResponse)}
    (hplan : ∀ planned ∈ plan, PlanValid planned) {im : Str × FieldMapping} (him : im ∈ plannedMappings plan) :
    im.2.source ≠ [] := by
  obtain ⟨er, her, him⟩ := List.mem_flatMap.mp him
  obtain ⟨planned, hp, hresp⟩ := List.mem_filterMap.mp her
  obtain ⟨resp, hresp', rfl⟩ := Option.map_eq_some_iff.mp hresp
  obtain ⟨fm, hfm, rfl⟩ := List.mem_map.mp him
  exact (hplan planned hp).2.2 resp hresp' fm hfm

/-- **A valid plan keeps a database stored.** -/
theorem Stored.importPlan (h : Stored deviceId db) (plan : List (ClientEndpoint × Option ServerResponse))
    (hplan : ∀ planned ∈ plan, PlanValid planned) :
    Stored deviceId (plan.foldl (importEndpoint deviceId protocol) db) where
  patterns := by
    rw [importPlan_patterns]
    refine forall_foldl_upsert h.patterns (fun planned _ row _ hrow => ?_) fun planned hp => ?_
    · exact ⟨⟨_, rfl⟩, ⟨_, rfl⟩, ⟨_, rfl⟩, hrow.patternId⟩
    · exact ⟨⟨_, rfl⟩, ⟨_, rfl⟩, ⟨_, rfl⟩, (hplan planned hp).1⟩
  templates := by
    rw [importPlan_templates]
    refine forall_foldl_upsert h.templates (fun er _ row _ hrow => ?_) fun er _ => ?_
    · exact ⟨⟨_, rfl⟩, ⟨_, rfl⟩, ⟨_, rfl⟩, hrow.named⟩
    · exact ⟨⟨_, rfl⟩, ⟨_, rfl⟩, ⟨_, rfl⟩, rfl⟩
  mappings := by
    rw [importPlan_mappings]
    refine forall_foldl_upsert h.mappings (fun im him row hkey _ => ?_) fun im him => ?_
    · exact ⟨source_ne_of_planned hplan him, ⟨_, rfl⟩, hkey⟩
    · exact ⟨source_ne_of_planned hplan him, ⟨_, rfl⟩, rfl⟩
  patternIds := by
    rw [importPlan_patterns]
    exact nodup_foldl_upsert (fun _ _ h => h) (fun _ => rfl) h.patternIds
  templateIds := by
    rw [importPlan_templates]
    exact nodup_foldl_upsert (fun _ _ h => h) (fun _ => rfl) h.templateIds
  mappingIds := by
    rw [importPlan_mappings]
    exact nodup_foldl_upsert (fun _ _ h => h) (fun _ => rfl) h.mappingIds

/-- A valid document has a valid plan. -/
theorem planValid_of_validPattern {doc : PatternDB} (hvalid : validPattern doc = true) :
    ∀ planned ∈ importPlan doc, PlanValid planned := by
  intro planned hp
  obtain ⟨ep, hep, rfl⟩ := List.mem_map.mp hp
  obtain ⟨hid, hintent⟩ := validEndpoint_of_validPattern hvalid hep
  refine ⟨hid, hintent, fun resp hresp fm hfm => ?_⟩
  exact source_ne_of_validPattern hvalid (mem_of_responseForEndpoint hresp) hfm

/-- An import that is accepted writes the rows of its plan. -/
theorem importPatterns_ok_iff {doc : PatternDB} {db' : DeviceDb} :
    importPatterns deviceId doc db = .ok db' ↔ validPattern doc = true ∧
      db' = (importPlan doc).foldl (importEndpoint deviceId (defaultProtocol doc)) db := by
  unfold importPatterns
  by_cases hvalid : validPattern doc = true
  · rw [if_pos hvalid]
    exact ⟨fun h => ⟨hvalid, (Except.ok.inj h).symm⟩, fun h => by rw [h.2]⟩
  · rw [if_neg hvalid]
    exact ⟨fun h => (by cases h), fun h => absurd h.1 hvalid⟩

/-- An import keeps a database well formed. -/
theorem WellFormed.importPatterns {doc : PatternDB} {db' : DeviceDb} (h : WellFormed deviceId db)
    (hok : importPatterns deviceId doc db = .ok db') : WellFormed deviceId db' := by
  obtain ⟨hvalid, rfl⟩ := importPatterns_ok_iff.mp hok
  have hplan := planValid_of_validPattern hvalid
  refine ⟨h.toStored.importPlan _ hplan, ?_⟩
  exact forall_patterns_importPlan _ h.intents fun planned hp _ => (hplan planned hp).2.1

/-- **Every run of imports into an empty database leaves a well-formed one.** -/
theorem wellFormed_of_reaches (h : Transition.Reaches (importStep deviceId) {} db) : WellFormed deviceId db := by
  refine h.invariant (wellFormed_empty deviceId) fun s doc s' hs _ hstep => ?_
  unfold importStep at hstep
  cases hok : PatternDb.importPatterns deviceId doc s with
  | error e =>
    rw [hok] at hstep
    cases hstep
  | ok s₁ =>
    rw [hok] at hstep
    cases hstep
    exact hs.importPatterns hok

end

end RideTheApi.PatternDb
