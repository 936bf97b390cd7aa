import RideTheApi.PatternDb.DeviceModel

/-!
# `PatternDb.Exportable` — what the export takes of the tables

Both exports read every column back through the typed models, and one value that a model refuses fails the
whole export. A database is `Exportable` when each column of each row reads: a weaker condition than
`Stored`, since a column may hold anything that counts as empty. Imports and merges only write columns that
read, whatever the rows they update held.
-/

namespace RideTheApi.PatternDb

open Py KeyedTable

/-- A column that reads as a list of names, or is empty. -/
def readsAsKeys (value : Json) : Bool := (toStrList (value.orElse (.arr []))).toBool

/-- A column that reads as a body schema, or is empty. -/
def readsAsSchema (value : Json) : Bool := (toOptDict (value.orElse .null)).toBool

/-- A column that reads as response headers, or is empty. -/
def readsAsHeaders (value : Json) : Bool := (toStrDict (value.orElse (.obj []))).toBool

/-- A column that reads as a response body, or is empty. -/
def readsAsBody (value : Json) : Bool := (toDict (value.orElse (.obj []))).toBool

/-- A column that reads as the values of an enumeration. -/
def readsAsEnum (value : Json) : Bool := (toOptDict value).toBool

/-- The models take every column of a pattern row. -/
def RequestPattern.reads (pat : RequestPattern) : Bool :=
  readsAsKeys pat.requiredHeaders && readsAsKeys pat.queryParamKeys && readsAsSchema pat.bodySchema

/-- The models take every column of a template row. -/
def ResponseTemplate.reads (tmpl : ResponseTemplate) : Bool :=
  readsAsHeaders tmpl.headersTemplate && readsAsBody tmpl.bodyTemplate

/-- The models take every column of a mapping row. -/
def FieldMappingRow.reads (row : FieldMappingRow) : Bool := readsAsEnum row.enumValues

/-- The models take every row. -/
structure Exportable (db : DeviceDb) : Prop where
  patterns : ∀ pat ∈ db.patterns, pat.reads = true
  templates : ∀ tmpl ∈ db.templates, tmpl.reads = true
  mappings : ∀ row ∈ db.mappings, row.reads = true

theorem exportable_empty : Exportable {} where
  patterns := by simp
  templates := by simp
  mappings := by simp

@[simp] theorem readsAsKeys_ofStrList (xs : List Str) : readsAsKeys (ofStrList xs) = true := by
  unfold readsAsKeys
  rw [ofStrList_orElse, toStrList_ofStrList]
  rfl

@[simp] theorem readsAsSchema_obj (d : Dict Str Json) : readsAsSchema (.obj d) = true := by
  cases d <;> rfl

@[simp] theorem readsAsHeaders_ofStrDict (d : Dict Str Str) : readsAsHeaders (ofStrDict d) = true := by
  unfold readsAsHeaders
  rw [ofStrDict_orElse, toStrDict_ofStrDict]
  rfl

@[simp] theorem readsAsBody_obj (d : Dict Str Json) : readsAsBody (.obj d) = true := by
  cases d <;> rfl

@[simp] theorem readsAsEnum_ofOptDict (d : Option (Dict Str Json)) : readsAsEnum (ofOptDict d) = true := by
  cases d <;> rfl

/-- What a stored database holds reads. -/
theorem Stored.exportable {deviceId : Str} {db : DeviceDb} (h : Stored deviceId db) : Exportable db where
  patterns := by
    intro pat hpat
    obtain ⟨⟨headers, hheaders⟩, ⟨schema, hschema⟩, ⟨query, hquery⟩, _⟩ := h.patterns pat hpat
    simp [RequestPattern.reads, hheaders, hschema, hquery]
  templates := by
    intro tmpl htmpl
    obtain ⟨⟨headers, hheaders⟩, ⟨body, hbody⟩, _, _⟩ := h.templates tmpl htmpl
    simp [ResponseTemplate.reads, hheaders, hbody]
  mappings := by
    intro row hrow
    obtain ⟨_, ⟨d, hd⟩, _⟩ := h.mappings row hrow
    simp [FieldMappingRow.reads, hd]

/-! ## An exportable database is exported -/

section
variable {deviceId vendor deviceType : Str} {db : DeviceDb} {pat : RequestPattern} {tmpl : ResponseTemplate}

theorem RequestPattern.columns (h : pat.reads = true) : ∃ headers query schema,
    toStrList (pat.requiredHeaders.orElse (.arr [])) = .ok headers ∧
      toStrList (pat.queryParamKeys.orElse (.arr [])) = .ok query ∧
      toOptDict (pat.bodySchema.orElse .null) = .ok schema := by
  simp only [RequestPattern.reads, Bool.and_eq_true] at h
  obtain ⟨headers, hheaders⟩ := Except.exists_ok h.1.1
  obtain ⟨query, hquery⟩ := Except.exists_ok h.1.2
  obtain ⟨schema, hschema⟩ := Except.exists_ok h.2
  exact ⟨headers, query, schema, hheaders, hquery, hschema⟩

theorem exists_exportEndpoint (h : pat.reads = true) : ∃ ep, exportEndpoint pat = .ok ep := by
  obtain ⟨headers, query, schema, hheaders, hquery, hschema⟩ := RequestPattern.columns h
  unfold exportEndpoint
  rw [hheaders, hquery, hschema]
  exact ⟨_, rfl⟩

theorem exists_exportCommand (h : pat.reads = true) : ∃ cmd, exportCommand pat = .ok cmd := by
  obtain ⟨headers, query, schema, hheaders, hquery, hschema⟩ := RequestPattern.columns h
  unfold exportCommand
  rw [hheaders, hquery, hschema]
  exact ⟨_, rfl⟩

theorem exists_schemaMapping {row : FieldMappingRow} (h : row.reads = true) : ∃ fm, schemaMapping row = .ok fm := by
  obtain ⟨mapping, hmapping⟩ := Except.exists_ok h
  unfold schemaMapping
  rw [hmapping]
  exact ⟨_, rfl⟩

theorem exists_exportTemplate {rows : List FieldMappingRow} (h : tmpl.reads = true)
    (hrows : ∀ row ∈ rows, row.reads = true) (triggers : List Str) :
    ∃ resp, exportTemplate tmpl triggers rows = .ok resp := by
  simp only [ResponseTemplate.reads, Bool.and_eq_true] at h
  obtain ⟨headers, hheaders⟩ := Except.exists_ok h.1
  obtain ⟨body, hbody⟩ := Except.exists_ok h.2
  obtain ⟨fms, hfms, _⟩ := Except.exists_mapM fun row hrow => exists_schemaMapping (hrows row hrow)
  unfold exportTemplate
  rw [hfms, hheaders, hbody]
  exact ⟨_, rfl⟩

theorem Exportable.exists_exportResponse (h : Exportable db) (triggers : RequestPattern → List Str)
    (pat : RequestPattern) : ∃ resp, exportResponse triggers db pat = .ok resp := by
  unfold exportResponse
  cases htmpl : db.templateOf pat.patternId with
  | none => exact ⟨none, rfl⟩
  | some tmpl =>
    have hrows : ∀ row ∈ db.mappingsOf pat.intent, row.reads = true := fun row hrow =>
      h.mappings row (List.mem_of_mem_filter hrow)
    obtain ⟨resp, hresp⟩ :=
      exists_exportTemplate (h.templates tmpl (mem_of_templateOf htmpl).1) hrows (triggers pat)
    dsimp only
    rw [hresp]
    exact ⟨some resp, rfl⟩

/-- The document that carries every row, with the given state variables and sensors. -/
structure Documents (db : DeviceDb) (config : List StateVariable × List VirtualSensor) (doc : PatternDB) : Prop where
  endpoints : List.Forall₂ (fun pat ep => exportEndpoint pat = .ok ep) db.patterns doc.client.endpoints
  sensors : doc.server.virtualSensors = config.2

/-- **An exportable database is exported, every pattern as its endpoint.** -/
theorem Exportable.exportPatterns_ok (h : Exportable db) (deviceId vendor deviceType : Str)
    (config : List StateVariable × List VirtualSensor) :
    ∃ doc, exportPatterns deviceId vendor deviceType config db = .ok doc ∧ Documents db config doc := by
  obtain ⟨eps, heps, hrel⟩ := Except.exists_mapM fun pat hpat => exists_exportEndpoint (h.patterns pat hpat)
  obtain ⟨resps, hresps, _⟩ := Except.exists_mapM fun pat (_ : pat ∈ db.patterns) =>
    h.exists_exportResponse patternTriggers pat
  unfold exportPatterns
  rw [heps, hresps]
  exact ⟨_, rfl, hrel, rfl⟩

/-- An exportable database is exported as a device model too. -/
theorem Exportable.exportDeviceModel_ok {device : Device} (h : Exportable device.db) (deviceId vendor deviceType : Str)
    (applied : Option (List StateVariable × List VirtualSensor)) :
    ∃ model, exportDeviceModel deviceId vendor deviceType applied device = .ok model := by
  obtain ⟨cmds, hcmds, _⟩ := Except.exists_mapM fun pat hpat => exists_exportCommand (h.patterns pat hpat)
  obtain ⟨resps, hresps, _⟩ := Except.exists_mapM fun pat (_ : pat ∈ device.db.patterns) =>
    h.exists_exportResponse commandTriggers pat
  unfold exportDeviceModel
  rw [hcmds, hresps]
  exact ⟨_, rfl⟩

/-! ## Imports and merges -/

/-- An import stores rows that read. -/
theorem Exportable.importPlan (h : Exportable db) (protocol : Str)
    (plan : List (ClientEndpoint × Option ServerResponse)) :
    Exportable (plan.foldl (importEndpoint deviceId protocol) db) where
  patterns := by
    refine forall_patterns_importPlan plan h.patterns fun planned _ row => ?_
    simp [RequestPattern.reads, storePattern]
  templates := by
    have hstore : ∀ resp row, (storeTemplate resp row).reads = true := by
      simp [ResponseTemplate.reads, storeTemplate]
    rw [importPlan_templates]
    exact forall_foldl_upsert h.templates (fun er _ row _ _ => hstore er.2 row) fun er _ => hstore er.2 _
  mappings := by
    have hstore : ∀ intent fm row, (storeMapping intent fm row).reads = true := by
      simp [FieldMappingRow.reads, storeMapping]
    rw [importPlan_mappings]
    exact forall_foldl_upsert h.mappings (fun im _ row _ _ => hstore im.1 im.2 row) fun im _ => hstore im.1 im.2 _

/-- An import keeps a database exportable. -/
theorem Exportable.importPatterns {doc : PatternDB} {db' : DeviceDb} (h : Exportable db)
    (hok : importPatterns deviceId doc db = .ok db') : Exportable db' := by
  obtain ⟨_, rfl⟩ := importPatterns_ok_iff.mp hok
  exact h.importPlan _ _

/-- A merge stores rows that read; a template without a response is left as it is. -/
theorem Exportable.mergeCommands {model : DeviceModel} (h : Exportable db) (planned : List (Command × Str)) :
    Exportable (planned.foldl (mergeCommand deviceId model) db) where
  patterns := by
    have hstore : ∀ cmd row, (mergePattern cmd row).reads = true := by
      simp [RequestPattern.reads, mergePattern]
    rw [mergeCommands_patterns]
    exact forall_foldl_upsert h.patterns (fun cp _ row _ _ => hstore cp.1 row) fun cp _ => hstore cp.1 _
  templates := by
    have hstore : ∀ (resp : Option ServerResponse) (row : ResponseTemplate), row.reads = true →
        (mergeTemplate resp row).reads = true := by
      intro resp row hrow
      cases resp with
      | none => exact hrow
      | some resp => simp [ResponseTemplate.reads, mergeTemplate, storeTemplate]
    rw [mergeCommands_templates]
    exact forall_foldl_upsert h.templates (fun cp _ row _ hrow => hstore _ row hrow) fun cp _ => hstore _ _ rfl
  mappings := by
    have hstore : ∀ fm row, (mergeMapping fm row).reads = true := by
      simp [FieldMappingRow.reads, mergeMapping]
    rw [mergeCommands_mappings]
    exact forall_foldl_upsert h.mappings (fun km _ row _ _ => hstore km.2 row) fun km _ => hstore km.2 _

/-- A merge keeps the tables exportable, whether or not it goes through. -/
theorem Exportable.mergeDeviceModel {I : Interp} {pathDigest : Str → Result Str} {model : DeviceModel}
    {device : Device} (h : Exportable device.db) :
    Exportable (mergeDeviceModel I pathDigest deviceId model device).1.db := by
  unfold PatternDb.mergeDeviceModel
  dsimp only
  split
  next => exact h.mergeCommands _
  next => exact h

end

end RideTheApi.PatternDb
