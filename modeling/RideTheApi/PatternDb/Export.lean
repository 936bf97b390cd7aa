import Mathlib.Data.List.ReduceOption
import RideTheApi.PatternDb.Import

/-!
# `PatternDb.Export` — exporting a device database as a pattern document

One endpoint per pattern row, and one response per pattern row with a template. The field mappings of a
response are the mapping rows of the pattern's intent. A column that does not read as the declared type
makes the export fail; what a stored database exports is described row by row (`EndpointOf`, `Carries`),
and the response that a trigger finds is the one of the first pattern that answers it (`answering`).
-/

namespace RideTheApi.PatternDb

open Py

/-- The portable form of a stored field mapping. -/
def schemaMapping (row : FieldMappingRow) : Result FieldMapping :=
  (toOptDict row.enumValues).map fun mapping =>
    { source := row.requestField
      target := row.responseField
      transform := orStr (row.transform.getD []) "direct"
      formula := row.formula.getD []
      mapping }

/-- The endpoint of a pattern row. -/
def exportEndpoint (pat : RequestPattern) : Result ClientEndpoint := do
  let required ← toStrList (pat.requiredHeaders.orElse (.arr []))
  let queryParams ← toStrList (pat.queryParamKeys.orElse (.arr []))
  let bodySchema ← toOptDict (pat.bodySchema.orElse .null)
  .ok { id := pat.patternId
        intent := pat.intent
        method := pat.method
        path := pat.pathPattern
        pathPattern := pat.pathPattern
        protocol := pat.protocol
        headers := [(str "required", required)]
        queryParams
        bodySchema }

/-- `templates_by_pattern_id`: the last template of a pattern. -/
def DeviceDb.templateOf (db : DeviceDb) (patternId : Str) : Option ResponseTemplate :=
  (db.templates.filter fun tmpl => tmpl.patternId == patternId).getLast?

/-- `mappings_by_intent`: the mapping rows of an intent. -/
def DeviceDb.mappingsOf (db : DeviceDb) (intent : Str) : List FieldMappingRow :=
  db.mappings.filter fun row => row.intent == intent

/-- The response of a template, with the given triggers and mapping rows. -/
def exportTemplate (tmpl : ResponseTemplate) (triggers : List Str) (rows : List FieldMappingRow) :
    Result ServerResponse := do
  let fieldMappings ← rows.mapM schemaMapping
  let headersTemplate ← toStrDict (tmpl.headersTemplate.orElse (.obj []))
  let bodyTemplate ← toDict (tmpl.bodyTemplate.orElse (.obj []))
  .ok { id := tmpl.templateId
        triggers
        statusCode := tmpl.statusCode
        headersTemplate
        bodyTemplate
        fieldMappings }

/-- The response of a pattern row, if it has a template. -/
def exportResponse (triggers : RequestPattern → List Str) (db : DeviceDb) (pat : RequestPattern) :
    Result (Option ServerResponse) :=
  match db.templateOf pat.patternId with
  | none      => .ok none
  | some tmpl => (exportTemplate tmpl (triggers pat) (db.mappingsOf pat.intent)).map some

/-- The triggers of an exported response: the pattern id first. -/
def patternTriggers (pat : RequestPattern) : List Str := [pat.patternId, pat.intent]

/-- Export the deciphered patterns of a device, with its state variables and virtual sensors. -/
def exportPatterns (deviceId vendor deviceType : Str) (config : List StateVariable × List VirtualSensor)
    (db : DeviceDb) : Result PatternDB := do
  let endpoints ← db.patterns.mapM exportEndpoint
  let responses ← db.patterns.mapM (exportResponse patternTriggers db)
  .ok { patternMeta :=
          { patternId := deviceId ++ str "-patterns"
            vendor := orStr vendor "unknown"
            deviceType := orStr deviceType "unknown" }
        client := { endpoints }
        server :=
          { responses := responses.reduceOption
            stateVariables := config.1
            virtualSensors := config.2 } }

/-! ## What an export reads -/

section
variable {deviceId : Str} {db : DeviceDb} {pat : RequestPattern} {tmpl : ResponseTemplate}
  {row : FieldMappingRow} {rows : List FieldMappingRow} {triggers : RequestPattern → List Str}

theorem orStr_self (a : Str) : orStr a a = a := by
  unfold orStr
  split <;> rfl

theorem orStr_of_ne {a b : Str} (h : a ≠ []) : orStr a b = a := by
  cases a with
  | nil => exact absurd rfl h
  | cons c cs => rfl

/-- What the columns of a stored pattern row read as. -/
theorem columns_ok (h : pat.WellTyped) : ∃ headers query schema,
    toStrList (pat.requiredHeaders.orElse (.arr [])) = .ok headers ∧ ofStrList headers = pat.requiredHeaders ∧
      toStrList (pat.queryParamKeys.orElse (.arr [])) = .ok query ∧ ofStrList query = pat.queryParamKeys ∧
      toOptDict (pat.bodySchema.orElse .null) = .ok schema ∧ .obj (schema.getD []) = pat.bodySchema := by
  obtain ⟨headers, hheaders⟩ := h.requiredHeaders
  obtain ⟨schema, hschema⟩ := h.bodySchema
  obtain ⟨query, hquery⟩ := h.queryParamKeys
  rw [hheaders, hquery, hschema, ofStrList_orElse, ofStrList_orElse, toStrList_ofStrList, toStrList_ofStrList]
  cases schema with
  | nil => exact ⟨headers, query, none, rfl, rfl, rfl, rfl, rfl, rfl⟩
  | cons kv kvs => exact ⟨headers, query, some (kv :: kvs), rfl, rfl, rfl, rfl, rfl, rfl⟩

/-- The endpoint of a stored pattern row. -/
structure EndpointOf (pat : RequestPattern) (ep : ClientEndpoint) : Prop where
  id : ep.id = pat.patternId
  intent : ep.intent = pat.intent
  method : ep.method = pat.method
  pathPattern : orStr ep.pathPattern ep.path = pat.pathPattern
  protocol : ep.protocol = pat.protocol
  requiredHeaders : ofStrList ((Dict.get? ep.headers (str "required")).getD []) = pat.requiredHeaders
  queryParams : ofStrList ep.queryParams = pat.queryParamKeys
  bodySchema : .obj (ep.bodySchema.getD []) = pat.bodySchema

theorem exportEndpoint_ok (h : pat.WellTyped) : ∃ ep, exportEndpoint pat = .ok ep ∧ EndpointOf pat ep := by
  obtain ⟨headers, query, schema, hheaders, hheaders', hquery, hquery', hschema, hschema'⟩ := columns_ok h
  unfold exportEndpoint
  rw [hheaders, hquery, hschema]
  exact ⟨_, rfl, rfl, rfl, rfl, orStr_self _, rfl, hheaders', hquery', hschema'⟩

/-- The mapping of a row. -/
def rowMapping (row : FieldMappingRow) : FieldMapping where
  source := row.requestField
  target := row.responseField
  transform := orStr (row.transform.getD []) "direct"
  formula := row.formula.getD []
  mapping := (toOptDict row.enumValues).toOption.join

theorem schemaMapping_ok (h : row.WellTyped deviceId) : schemaMapping row = .ok (rowMapping row) := by
  obtain ⟨d, hd⟩ := h.enumValues
  unfold schemaMapping rowMapping
  rw [hd, toOptDict_ofOptDict]
  rfl

theorem schemaMappings_ok (h : ∀ row ∈ rows, row.WellTyped deviceId) :
    rows.mapM schemaMapping = .ok (rows.map rowMapping) := by
  induction rows with
  | nil => rfl
  | cons row rows ih =>
    rw [List.mapM_cons, schemaMapping_ok (h row List.mem_cons_self),
      ih fun r hr => h r (List.mem_cons_of_mem _ hr)]
    rfl

/-- A response that carries a template row and the mappings of its pattern's intent. -/
structure Carries (db : DeviceDb) (pat : RequestPattern) (tmpl : ResponseTemplate) (resp : ServerResponse) :
    Prop where
  id : resp.id = tmpl.templateId
  statusCode : resp.statusCode = tmpl.statusCode
  headersTemplate : ofStrDict resp.headersTemplate = tmpl.headersTemplate
  bodyTemplate : .obj resp.bodyTemplate = tmpl.bodyTemplate
  fieldMappings : resp.fieldMappings = (db.mappingsOf pat.intent).map rowMapping

theorem exportTemplate_ok (pat : RequestPattern) (htmpl : tmpl.WellTyped)
    (hrows : ∀ row ∈ db.mappings, row.WellTyped deviceId) (ts : List Str) : ∃ resp, exportTemplate tmpl ts (db.mappingsOf pat.intent) = .ok resp ∧
      Carries db pat tmpl resp ∧ resp.triggers = ts := by
  obtain ⟨headers, hheaders⟩ := htmpl.headersTemplate
  obtain ⟨body, hbody⟩ := htmpl.bodyTemplate
  have hmappings : (db.mappingsOf pat.intent).mapM schemaMapping = .ok ((db.mappingsOf pat.intent).map rowMapping) :=
    schemaMappings_ok fun row hrow => hrows row (List.mem_of_mem_filter hrow)
  unfold exportTemplate
  rw [hmappings, hheaders, hbody, ofStrDict_orElse, obj_orElse, toStrDict_ofStrDict]
  exact ⟨_, rfl, ⟨rfl, rfl, hheaders.symm, hbody.symm, rfl⟩, rfl⟩

/-- The response a pattern row is exported with. -/
def Exports (triggers : RequestPattern → List Str) (db : DeviceDb) (pat : RequestPattern)
    (resp : Option ServerResponse) : Prop :=
  Option.Rel (fun tmpl resp => Carries db pat tmpl resp ∧ resp.triggers = triggers pat)
    (db.templateOf pat.patternId) resp

theorem mem_of_templateOf {id : Str} (h : db.templateOf id = some tmpl) :
    tmpl ∈ db.templates ∧ tmpl.patternId = id := by
  have hmem := List.mem_filter.mp (List.mem_of_getLast? h)
  exact ⟨hmem.1, by simpa using hmem.2⟩

theorem exportResponse_ok (h : Stored deviceId db) (triggers : RequestPattern → List Str) (pat : RequestPattern) :
    ∃ resp, exportResponse triggers db pat = .ok resp ∧ Exports triggers db pat resp := by
  unfold exportResponse Exports
  cases htmpl : db.templateOf pat.patternId with
  | none => exact ⟨none, rfl, .none⟩
  | some tmpl =>
    obtain ⟨resp, hresp, hcarries⟩ :=
      exportTemplate_ok pat (h.templates tmpl (mem_of_templateOf htmpl).1) h.mappings (triggers pat)
    dsimp only
    rw [hresp]
    exact ⟨some resp, rfl, .some hcarries⟩

/-- The template a carried response comes from. -/
theorem Exports.template {resp : ServerResponse} (h : Exports triggers db pat (some resp)) :
    ∃ tmpl, db.templateOf pat.patternId = some tmpl ∧ Carries db pat tmpl resp := by
  unfold Exports at h
  generalize db.templateOf pat.patternId = o at h
  cases h with
  | some hc => exact ⟨_, rfl, hc.1⟩

/-- A document that carries the patterns of a database. -/
structure Exported (db : DeviceDb) (doc : PatternDB) : Prop where
  endpoints : List.Forall₂ (fun pat ep => pat ∈ db.patterns ∧ EndpointOf pat ep) db.patterns doc.client.endpoints
  responses : ∃ resps, List.Forall₂ (Exports patternTriggers db) db.patterns resps ∧
    doc.server.responses = resps.reduceOption

/-- A stored database can be exported. -/
theorem exportPatterns_ok (h : Stored deviceId db) (vendor deviceType : Str)
    (config : List StateVariable × List VirtualSensor) :
    ∃ doc, exportPatterns deviceId vendor deviceType config db = .ok doc ∧ Exported db doc := by
  have hendpoints : ∀ pat ∈ db.patterns, ∃ ep, exportEndpoint pat = .ok ep ∧ pat ∈ db.patterns ∧ EndpointOf pat ep := by
    intro pat hpat
    obtain ⟨ep, hep, hof⟩ := exportEndpoint_ok (h.patterns pat hpat)
    exact ⟨ep, hep, hpat, hof⟩
  obtain ⟨eps, heps, hrel⟩ := Except.mapM_forall₂ hendpoints
  obtain ⟨resps, hresps, hrel'⟩ := Except.mapM_forall₂ fun pat (_ : pat ∈ db.patterns) =>
    exportResponse_ok h patternTriggers pat
  unfold exportPatterns
  rw [heps, hresps]
  exact ⟨_, rfl, hrel, resps, hrel', rfl⟩

/-! ## Whose response answers -/

/-- The pattern has a template and its exported response triggers on `trigger`. -/
def answers (db : DeviceDb) (trigger : Str) (pat : RequestPattern) : Bool :=
  (db.templateOf pat.patternId).isSome && (pat.patternId == trigger || pat.intent == trigger)

/-- The response of a trigger is the one of the first row that answers it: a row with a template is exported as a
    response that triggers when the row answers, one without is not exported and does not answer. -/
theorem find?_triggered {α τ : Type} {templateOf : α → Option τ} {C : α → τ → ServerResponse → Prop} {p : α → Bool}
    {trigger : Str} {as : List α} {resps : List (Option ServerResponse)}
    (h : List.Forall₂ (fun a resp => Option.Rel (C a) (templateOf a) resp) as resps)
    (htriggers : ∀ a t resp, templateOf a = some t → C a t resp → resp.triggers.contains trigger = p a)
    (hnone : ∀ a, templateOf a = none → p a = false) :
    Option.Rel (fun a resp => Option.Rel (C a) (templateOf a) (some resp)) (as.find? p)
      (resps.reduceOption.find? fun resp => resp.triggers.contains trigger) := by
  induction h with
  | nil => exact .none
  | @cons a resp as resps hhead _ ih =>
    cases htmpl : templateOf a with
    | none =>
      rw [htmpl] at hhead
      cases hhead
      rw [List.reduceOption_cons_of_none, List.find?_cons, hnone a htmpl]
      exact ih
    | some t =>
      rw [htmpl] at hhead
      cases hhead with
      | some hc =>
        rw [List.reduceOption_cons_of_some, List.find?_cons, List.find?_cons, htriggers a t _ htmpl hc]
        by_cases hanswers : p a = true
        · rw [hanswers]
          exact .some (htmpl ▸ .some hc)
        · rw [Bool.not_eq_true] at hanswers
          rw [hanswers]
          exact ih

/-- The response of a trigger is the exported one of the first pattern that answers it. -/
theorem find?_exported {pats : List RequestPattern} {resps : List (Option ServerResponse)}
    (h : List.Forall₂ (Exports triggers db) pats resps) {trigger : Str}
    (htriggers : ∀ pat, (triggers pat).contains trigger = (pat.patternId == trigger || pat.intent == trigger)) :
    Option.Rel (fun pat resp => Exports triggers db pat (some resp)) (pats.find? (answers db trigger))
      (resps.reduceOption.find? fun resp => resp.triggers.contains trigger) := by
  apply find?_triggered h
  · intro pat tmpl resp htmpl hc
    unfold answers
    rw [hc.2, htriggers, htmpl, Option.isSome_some, Bool.true_and]
  · intro pat hnone
    unfold answers
    rw [hnone, Option.isSome_none, Bool.false_and]

theorem contains_patternTriggers (trigger : Str) (pat : RequestPattern) :
    (patternTriggers pat).contains trigger = (pat.patternId == trigger || pat.intent == trigger) := by
  unfold patternTriggers
  rw [List.contains_cons, List.contains_cons, List.contains_nil, Bool.or_false, BEq.comm,
    BEq.comm (a := trigger) (b := pat.intent)]

/-- The pattern whose response answers `pat` when responses are found by trigger. -/
def answering (db : DeviceDb) (pat : RequestPattern) : Option RequestPattern :=
  (db.patterns.find? (answers db pat.patternId)).or (db.patterns.find? (answers db pat.intent))

theorem mem_of_answering {q : RequestPattern} (h : answering db pat = some q) : q ∈ db.patterns := by
  rcases Option.or_eq_some_iff.mp h with hfind | ⟨_, hfind⟩
  · exact List.mem_of_find?_eq_some hfind
  · exact List.mem_of_find?_eq_some hfind

/-- With an id and an intent, the response of the id comes first and that of the intent second. -/
theorem responseForEndpoint_eq (map : Dict Str ServerResponse) {id intent : Str} (hid : id ≠ [])
    (hintent : intent ≠ []) : responseForEndpoint map id intent = (map.get? id).or (map.get? intent) := by
  unfold responseForEndpoint Dict.has
  rw [if_pos hintent]
  cases hget : map.get? id with
  | none => simp
  | some resp => simp [hid]

/-- **The response found for a pattern is the exported one of the answering pattern.** -/
theorem responseForEndpoint_rel {resps : List (Option ServerResponse)}
    (h : List.Forall₂ (Exports triggers db) db.patterns resps)
    (htriggers : ∀ trigger ≠ [], ∀ pat,
      (triggers pat).contains trigger = (pat.patternId == trigger || pat.intent == trigger))
    (hid : pat.patternId ≠ []) (hintent : pat.intent ≠ []) :
    Option.Rel (fun q resp => Exports triggers db q (some resp)) (answering db pat)
      (responseForEndpoint (responsesByTrigger resps.reduceOption) pat.patternId pat.intent) := by
  have hfirst := find?_exported h (htriggers _ hid)
  have hsecond := find?_exported h (htriggers _ hintent)
  unfold answering
  rw [responseForEndpoint_eq _ hid hintent, get?_responsesByTrigger, get?_responsesByTrigger]
  generalize db.patterns.find? (answers db pat.patternId) = q at hfirst
  generalize List.find? _ resps.reduceOption = r at hfirst
  cases hfirst with
  | none =>
    rw [Option.none_or, Option.none_or]
    exact hsecond
  | some hexp => exact .some hexp

end

end RideTheApi.PatternDb
