import RideTheApi.PatternDb.FreshImport

/-!
# `PatternDb.RoundTrip` — exporting a device and importing it elsewhere

The device model is meant to clone a device on another install. An export writes one command per pattern
row and one response per template; the import projects the header's protocol onto every command, finds the
response of each by its triggers, and keys the mapping rows by kind and source. What survives the trip is
what these three steps leave alone (`Portable`).
-/

namespace RideTheApi.PatternDb

open Py KeyedTable Transition

/-! ## What a copy reproduces -/

/-- The status, headers and body of a template. -/
def ResponseTemplate.content (tmpl : ResponseTemplate) : Int × Json × Json :=
  (tmpl.statusCode, tmpl.headersTemplate, tmpl.bodyTemplate)

/-- A mapping row without its id, which names the device. -/
def FieldMappingRow.content (row : FieldMappingRow) : FieldMappingRow := { row with mappingId := [] }

/-- A copy of a device: its patterns, the content of its templates and mappings, and its header's
    identification. -/
structure Reproduces (device copy : Device) : Prop where
  patterns : copy.db.patterns = device.db.patterns
  templates : ∀ id, (copy.db.templateOf id).map (·.content) = (device.db.templateOf id).map (·.content)
  mappings : ∀ content, (∃ row ∈ copy.db.mappings, row.content = content) ↔
    ∃ row ∈ device.db.mappings, row.content = content
  header : ∀ m ∈ device.header, ∃ m' ∈ copy.header, m'.protocols = m.protocols ∧
    m'.connectionMode = m.connectionMode ∧ m'.transport = m.transport ∧ m'.security = m.security ∧
    m'.identity = m.identity ∧ m'.ports = m.ports

/-! ## What is portable -/

/-- The protocol an export names. -/
def exportedProtocol (device : Device) : Str := (exportProtocol device.header).protocol

/-- What every reproduced device gives: the header's protocol on every pattern, patterns with an intent whose
    template is that of the pattern that answers them, mappings and state that pass the schema, and header
    texts that are stored as they are. -/
structure Reproducible (applied : Option (List StateVariable × List VirtualSensor)) (device : Device) : Prop where
  protocols : ∀ pat ∈ device.db.patterns, pat.protocol = orStr (exportedProtocol device) "http"
  intents : ∀ pat ∈ device.db.patterns, pat.intent ≠ []
  answers : ∀ pat ∈ device.db.patterns,
    ((answering device.db pat).bind fun q => device.db.templateOf q.patternId).map (·.content) =
      (device.db.templateOf pat.patternId).map (·.content)
  mappings : ∀ pat ∈ device.db.patterns, (device.db.templateOf pat.patternId).isSome = true →
    ∀ row ∈ device.db.mappingsOf pat.intent, validMapping (rowMapping row) = true
  stateVariables : ∀ sv ∈ (stateConfig device.header applied).1, validVariable sv = true
  virtualSensors : ∀ vs ∈ (stateConfig device.header applied).2, validSensor vs = true
  texts : ∀ m ∈ device.header, shortText m.transport = m.transport ∧ shortText m.security = m.security
  identity : ∀ m ∈ device.header, shortText (orStr m.identity m.model) = m.identity

/-- A device that an export and an import reproduce: each pattern with a template is answered by its own
    response and each other by none, and every mapping row is served and stored as it is. -/
structure Portable (applied : Option (List StateVariable × List VirtualSensor)) (device : Device) : Prop
    extends Reproducible applied device where
  own : ∀ pat ∈ device.db.patterns, answering device.db pat =
    if (device.db.templateOf pat.patternId).isSome then some pat else none
  served : ∀ row ∈ device.db.mappings, ∃ pat ∈ device.db.patterns,
    pat.intent = row.intent ∧ (device.db.templateOf pat.patternId).isSome = true
  stored : ∀ row ∈ device.db.mappings, storedFormula (row.formula.getD []) = row.formula ∧
    some (orStr (row.transform.getD []) "direct") = row.transform

/-! ## What is exported -/

section
variable {I : Interp} {pathDigest : Str → Result Str} {deviceId freshId vendor deviceType : Str} {device : Device}
  {applied : Option (List StateVariable × List VirtualSensor)} {model : DeviceModel} {pat : RequestPattern}
  {cmd : Command}

/-- The command of a stored pattern row. -/
structure CommandOf (pat : RequestPattern) (cmd : Command) : Prop where
  id : cmd.id = pat.patternId
  kind : cmd.kind = orStr pat.intent pat.patternId
  method : cmd.method = orStr pat.method "GET"
  path : orStr cmd.pathPattern (orStr cmd.path cmd.topic) = pat.pathPattern
  requiredHeaders : ofStrList ((Dict.get? cmd.headers (str "required")).getD []) = pat.requiredHeaders
  queryParams : ofStrList cmd.queryParams = pat.queryParamKeys
  bodySchema : .obj (cmd.bodySchema.getD []) = pat.bodySchema

theorem exportCommand_ok (h : pat.WellTyped) : ∃ cmd, exportCommand pat = .ok cmd ∧ CommandOf pat cmd := by
  obtain ⟨headers, query, schema, hheaders, hheaders', hquery, hquery', hschema, hschema'⟩ := columns_ok h
  unfold exportCommand
  rw [hheaders, hquery, hschema]
  refine ⟨_, rfl, rfl, rfl, rfl, ?_, hheaders', hquery', hschema'⟩
  show orStr pat.pathPattern (orStr pat.pathPattern []) = pat.pathPattern
  cases pat.pathPattern <;> rfl

/-- A model that carries a device. -/
structure ExportedModel (applied : Option (List StateVariable × List VirtualSensor)) (device : Device)
    (model : DeviceModel) : Prop where
  protocol : model.protocol = exportProtocol device.header
  commands : List.Forall₂ (fun pat cmd => pat ∈ device.db.patterns ∧ CommandOf pat cmd) device.db.patterns
    model.commands
  responses : ∃ resps, List.Forall₂ (Exports commandTriggers device.db) device.db.patterns resps ∧
    model.responses = resps.reduceOption
  patternMeta : model.patternMeta.version = 1 ∧ model.patternMeta.patternId ≠ [] ∧ model.patternMeta.vendor ≠ [] ∧
    model.patternMeta.deviceType ≠ []
  config : (model.stateVariables, model.virtualSensors) = stateConfig device.header applied

/-- A stored device can be exported. -/
theorem exportDeviceModel_ok (h : Stored deviceId device.db) (vendor deviceType : Str)
    (applied : Option (List StateVariable × List VirtualSensor)) :
    ∃ model, exportDeviceModel deviceId vendor deviceType applied device = .ok model ∧
      ExportedModel applied device model := by
  have hcommands : ∀ pat ∈ device.db.patterns, ∃ cmd, exportCommand pat = .ok cmd ∧
      pat ∈ device.db.patterns ∧ CommandOf pat cmd := by
    intro pat hpat
    obtain ⟨cmd, hcmd, hof⟩ := exportCommand_ok (h.patterns pat hpat)
    exact ⟨cmd, hcmd, hpat, hof⟩
  obtain ⟨cmds, hcmds, hrel⟩ := Except.mapM_forall₂ hcommands
  obtain ⟨resps, hresps, hrel'⟩ := Except.mapM_forall₂ fun pat (_ : pat ∈ device.db.patterns) =>
    exportResponse_ok h commandTriggers pat
  unfold exportDeviceModel
  rw [hcmds, hresps]
  refine ⟨_, rfl, rfl, hrel, ⟨resps, hrel', rfl⟩, ⟨rfl, ?_, ?_, ?_⟩, rfl⟩
  · show deviceId ++ str "-patterns" ≠ []
    simp [str]
  · exact orStr_ne (by decide)
  · exact orStr_ne (by decide)

/-! ## The copy -/

/-- The ids of the exported commands are those of the patterns. -/
theorem ExportedModel.ids (h : ExportedModel applied device model) :
    model.commands.map (·.id) = device.db.patterns.map (·.patternId) :=
  (h.commands.map_eq_map fun _ _ hpc => hpc.2.id.symm).symm

/-- The pattern row that comes back: the device's protocol, and the id for a missing intent. -/
def roundRow (protocol : Str) (pat : RequestPattern) : RequestPattern :=
  { pat with
    protocol := orStr protocol "http"
    intent := orStr pat.intent pat.patternId }

theorem importedRow_of_commandOf (h : CommandOf pat cmd) (hmethod : pat.method ≠ []) :
    importedRow model cmd = roundRow model.protocol.protocol pat := by
  have hcmethod : orStr cmd.method "GET" = pat.method := by rw [h.method, orStr_of_ne hmethod, orStr_of_ne hmethod]
  rw [importedRow_eq, hcmethod, h.id, h.path, h.requiredHeaders, h.queryParams, h.bodySchema, h.kind]
  rfl

/-- A pattern row comes back as itself iff it has the device's protocol and an intent. -/
theorem roundRow_eq_iff {protocol : Str} (hid : pat.patternId ≠ []) :
    roundRow protocol pat = pat ↔ pat.protocol = orStr protocol "http" ∧ pat.intent ≠ [] := by
  constructor
  · intro heq
    have hp : orStr protocol "http" = pat.protocol := congrArg RequestPattern.protocol heq
    have hi : orStr pat.intent pat.patternId = pat.intent := congrArg RequestPattern.intent heq
    refine ⟨hp.symm, fun hnil => ?_⟩
    rw [hnil] at hi
    exact hid hi
  · rintro ⟨hp, hi⟩
    unfold roundRow
    rw [← hp, orStr_of_ne hi]

/-- **The patterns of the copy are those of the device iff each has the header's protocol and an intent.** -/
theorem copy_patterns_iff (hinv : DeviceInv deviceId device) (h : ExportedModel applied device model) :
    (importedDb freshId model).patterns = device.db.patterns ↔
      ∀ pat ∈ device.db.patterns, pat.protocol = orStr (exportedProtocol device) "http" ∧ pat.intent ≠ [] := by
  have hnodup : (model.commands.map (·.id)).Nodup := h.ids ▸ hinv.stored.patternIds
  have hprotocol : model.protocol.protocol = exportedProtocol device := by rw [h.protocol]; rfl
  have hrows : model.commands.map (importedRow model) = device.db.patterns.map (roundRow (exportedProtocol device)) := by
    refine (h.commands.map_eq_map fun pat cmd hpc => ?_).symm
    rw [importedRow_of_commandOf hpc.2 (hinv.methods pat hpc.1), hprotocol]
  have hself := List.map_inj_left (l := device.db.patterns) (f := roundRow (exportedProtocol device)) (g := id)
  rw [List.map_id] at hself
  rw [importedDb_patterns hnodup, hrows, hself]
  exact forall₂_congr fun pat hpat => roundRow_eq_iff (hinv.stored.patterns pat hpat).patternId

/-- The response chosen for an exported command is that of the pattern that answers it. -/
theorem chosenResponse_rel (hinv : DeviceInv deviceId device) (h : ExportedModel applied device model)
    (hpat : pat ∈ device.db.patterns) (hof : CommandOf pat cmd) (hintent : pat.intent ≠ []) :
    Option.Rel (fun q resp => Exports commandTriggers device.db q (some resp)) (answering device.db pat)
      (chosenResponse model cmd) := by
  obtain ⟨resps, hresps, heq⟩ := h.responses
  have hid := (hinv.stored.patterns pat hpat).patternId
  unfold chosenResponse
  rw [heq, hof.id, hof.kind, orStr_of_ne hintent]
  exact responseForEndpoint_rel hresps (fun _ ht => contains_commandTriggers ht) hid hintent

/-! ## Templates -/

/-- Every template belongs to a pattern. -/
def Housed (db : DeviceDb) : Prop := ∀ tmpl ∈ db.templates, tmpl.patternId ∈ db.patterns.map (·.patternId)

theorem Housed.importPlan {db : DeviceDb} {protocol : Str} (h : Housed db)
    (plan : List (ClientEndpoint × Option ServerResponse)) :
    Housed (plan.foldl (importEndpoint deviceId protocol) db) := by
  have hkeys : ∀ id, id ∈ (plan.foldl (importEndpoint deviceId protocol) db).patterns.map (·.patternId) ↔
      id ∈ db.patterns.map (·.patternId) ∨ id ∈ plan.map fun planned => planned.1.id := by
    intro id
    rw [importPlan_patterns]
    refine mem_keys_foldl_upsert ?_ ?_ id
    · exact fun _ _ h => h
    · exact fun _ => rfl
  unfold Housed
  rw [importPlan_templates]
  refine forall_foldl_upsert (fun tmpl htmpl => ?_) (fun er her row _ hrow => hrow) fun er her => ?_
  · exact (hkeys _).mpr (.inl (h tmpl htmpl))
  · obtain ⟨planned, hplanned, hresp⟩ := List.mem_filterMap.mp her
    obtain ⟨resp, _, rfl⟩ := Option.map_eq_some_iff.mp hresp
    exact (hkeys _).mpr (.inr (List.mem_map.mpr ⟨planned, hplanned, rfl⟩))

theorem Housed.mergeCommands {db : DeviceDb} (h : Housed db) (planned : List (Command × Str)) :
    Housed (planned.foldl (mergeCommand deviceId model) db) := by
  have hkeys : ∀ id, id ∈ (planned.foldl (mergeCommand deviceId model) db).patterns.map (·.patternId) ↔
      id ∈ db.patterns.map (·.patternId) ∨ id ∈ planned.map Prod.snd := by
    intro id
    rw [mergeCommands_patterns]
    refine mem_keys_foldl_upsert ?_ ?_ id
    · exact fun _ _ h => h
    · exact fun _ => rfl
  have hpatternId : ∀ (resp : Option ServerResponse) (row : ResponseTemplate),
      (mergeTemplate resp row).patternId = row.patternId := fun resp row => by cases resp <;> rfl
  unfold Housed
  rw [mergeCommands_templates]
  refine forall_foldl_upsert (fun tmpl htmpl => ?_) (fun cp hcp row _ hrow => ?_) fun cp hcp => ?_
  · exact (hkeys _).mpr (.inl (h tmpl htmpl))
  · rw [hpatternId]
    exact hrow
  · rw [hpatternId]
    exact (hkeys _).mpr (.inr (List.mem_map_of_mem hcp))

/-- Every run of imports and merges keeps the templates housed. -/
theorem housed_of_reaches (h : Reaches (writeStep I pathDigest deviceId) {} device) : Housed device.db := by
  induction h with
  | start =>
    intro tmpl htmpl
    cases htmpl
  | @next s s' write _ _ hstep hs =>
    cases write with
    | imports model =>
      have hstep : (importDeviceModel I deviceId model s).toOption = some s' := hstep
      cases hok : importDeviceModel I deviceId model s with
      | error e =>
        rw [hok] at hstep
        cases hstep
      | ok s₁ =>
        rw [hok] at hstep
        cases hstep
        obtain ⟨db, hdb, rfl⟩ := Except.map_ok_iff.mp hok
        obtain ⟨_, rfl⟩ := importPatterns_ok_iff.mp hdb
        exact hs.importPlan _
    | merges model =>
      cases hstep
      unfold mergeDeviceModel
      dsimp only
      split
      · exact hs.mergeCommands _
      · exact hs

theorem templateOf_eq_none {db : DeviceDb} {id : Str} (h : ∀ tmpl ∈ db.templates, tmpl.patternId ≠ id) :
    db.templateOf id = none := by
  have hfilter : (db.templates.filter fun tmpl => tmpl.patternId == id) = [] :=
    List.filter_eq_nil_iff.mpr fun tmpl htmpl heq => h tmpl htmpl (beq_iff_eq.mp heq)
  rw [DeviceDb.templateOf, hfilter]
  rfl

/-- A housed database has templates of its patterns only. -/
theorem Housed.templateOf_eq_none {db : DeviceDb} {id : Str} (h : Housed db)
    (hid : id ∉ db.patterns.map (·.patternId)) : db.templateOf id = none :=
  PatternDb.templateOf_eq_none fun tmpl htmpl heq => hid (heq ▸ h tmpl htmpl)

theorem importedDb_housed : Housed (importedDb freshId model) := by
  refine Housed.importPlan (fun tmpl htmpl => ?_) _
  cases htmpl

/-- **The template of a pattern of the copy is that of the pattern that answers it.** -/
theorem copy_templateOf (hinv : DeviceInv deviceId device) (h : ExportedModel applied device model)
    (hpat : pat ∈ device.db.patterns) (hintent : pat.intent ≠ []) :
    ((importedDb freshId model).templateOf pat.patternId).map (·.content) =
      ((answering device.db pat).bind fun q => device.db.templateOf q.patternId).map (·.content) := by
  have hnodup : (model.commands.map (·.id)).Nodup := h.ids ▸ hinv.stored.patternIds
  obtain ⟨cmd, hcmd, _, hof⟩ := h.commands.exists_right hpat
  have hrel := chosenResponse_rel hinv h hpat hof hintent
  rw [← hof.id, importedDb_templateOf hnodup hcmd]
  generalize chosenResponse model cmd = chosen at hrel ⊢
  generalize answering device.db pat = found at hrel ⊢
  cases hrel with
  | none => rfl
  | @some q resp hexp =>
    obtain ⟨tmpl, htmpl, hcarries⟩ := hexp.template
    rw [Option.bind_some, htmpl, Option.map_some, Option.map_some, Option.map_some]
    show some (resp.statusCode, ofStrDict resp.headersTemplate, (.obj resp.bodyTemplate : Json)) = some tmpl.content
    rw [hcarries.statusCode, hcarries.headersTemplate, hcarries.bodyTemplate]
    rfl

/-- The templates of the copy are those of the device iff the patterns that answer have them. -/
theorem copy_templates_iff (hinv : DeviceInv deviceId device) (hhoused : Housed device.db)
    (h : ExportedModel applied device model) (hintents : ∀ pat ∈ device.db.patterns, pat.intent ≠ []) :
    (∀ id, ((importedDb freshId model).templateOf id).map (·.content) =
        (device.db.templateOf id).map (·.content)) ↔
      ∀ pat ∈ device.db.patterns,
        ((answering device.db pat).bind fun q => device.db.templateOf q.patternId).map (·.content) =
          (device.db.templateOf pat.patternId).map (·.content) := by
  constructor
  · intro hsame pat hpat
    rw [← hsame, copy_templateOf hinv h hpat (hintents pat hpat)]
  · intro hanswers id
    by_cases hid : id ∈ device.db.patterns.map (·.patternId)
    · obtain ⟨pat, hpat, rfl⟩ := List.mem_map.mp hid
      rw [copy_templateOf hinv h hpat (hintents pat hpat), hanswers pat hpat]
    · have hnone : (importedDb freshId model).templateOf id = none := by
        refine importedDb_housed.templateOf_eq_none fun hmem => hid ?_
        have hnodup : (model.commands.map (·.id)).Nodup := h.ids ▸ hinv.stored.patternIds
        rw [importedDb_patterns hnodup, List.map_map] at hmem
        rw [← h.ids]
        exact hmem
      rw [hnone, hhoused.templateOf_eq_none hid]

/-! ## Validity -/

/-- **The exported model passes the schema iff the mappings of its responses and its state do.** -/
theorem exported_valid_iff (hinv : DeviceInv deviceId device) (h : ExportedModel applied device model) :
    validPattern model.toPatternDb = true ↔
      (∀ pat ∈ device.db.patterns, (device.db.templateOf pat.patternId).isSome = true →
        ∀ row ∈ device.db.mappingsOf pat.intent, validMapping (rowMapping row) = true) ∧
      (∀ sv ∈ (stateConfig device.header applied).1, validVariable sv = true) ∧
      ∀ vs ∈ (stateConfig device.header applied).2, validSensor vs = true := by
  obtain ⟨hversion, hpatternId, hvendor, hdeviceType⟩ := h.patternMeta
  obtain ⟨resps, hresps, hresponses⟩ := h.responses
  have hconfig := h.config
  rw [Prod.ext_iff] at hconfig
  -- the one protocol is of the safe ones, all of which the schema lists
  have hprotocols : model.toPatternDb.client.protocols ≠ [] ∧
      ∀ p ∈ model.toPatternDb.client.protocols, schemaProtocols.contains p = true := by
    show (if model.protocol.protocol.isEmpty then [str "http"] else [model.protocol.protocol]) ≠ [] ∧
      ∀ p ∈ (if model.protocol.protocol.isEmpty then [str "http"] else [model.protocol.protocol]), _
    have hsafe : model.protocol.protocol = [] ∨ model.protocol.protocol ∈ safeProtocols := by
      rw [h.protocol]
      cases hheader : device.header with
      | none => exact .inl rfl
      | some m =>
        obtain ⟨p, hp, hsafe⟩ := hinv.protocol m hheader
        show m.protocols.headD [] = [] ∨ m.protocols.headD [] ∈ safeProtocols
        rw [hp]
        exact hsafe
    have hschema : ∀ p ∈ safeProtocols, schemaProtocols.contains p = true := by decide
    rcases hsafe with hnil | hsafe
    · rw [hnil]
      exact ⟨by simp, by decide⟩
    · split
      · exact ⟨by simp, by decide⟩
      · exact ⟨by simp, fun p hp => List.mem_singleton.mp hp ▸ hschema _ hsafe⟩
  have hendpoints : ∀ ep ∈ model.toPatternDb.client.endpoints, validEndpoint ep = true := by
    intro ep hep
    obtain ⟨cmd, hcmd, rfl⟩ := List.mem_map.mp hep
    obtain ⟨pat, _, hpat, hof⟩ := h.commands.exists_left hcmd
    have hid := (hinv.stored.patterns pat hpat).patternId
    have hkind : cmd.kind ≠ [] := hof.kind ▸ orStr_ne hid
    show (!cmd.id.isEmpty && !cmd.kind.isEmpty) = true
    rw [hof.id]
    simp [hid, hkind]
  -- only the mappings of a response can fail
  have hresponse : (∀ resp ∈ model.responses, validResponse resp = true) ↔
      ∀ pat ∈ device.db.patterns, (device.db.templateOf pat.patternId).isSome = true →
        ∀ row ∈ device.db.mappingsOf pat.intent, validMapping (rowMapping row) = true := by
    rw [hresponses]
    constructor
    · intro hall pat hpat hsome row hrow
      obtain ⟨resp, hresp, hexp⟩ := hresps.exists_right hpat
      obtain ⟨tmpl, htmpl⟩ := Option.isSome_iff_exists.mp hsome
      unfold Exports at hexp
      rw [htmpl] at hexp
      cases hexp with
      | @some _ r hcarries =>
        have hvalid := hall r (List.reduceOption_mem_iff.mpr hresp)
        simp only [validResponse, Bool.and_eq_true, List.all_eq_true] at hvalid
        refine hvalid.2 _ ?_
        rw [hcarries.1.fieldMappings]
        exact List.mem_map_of_mem hrow
    · intro hall resp hresp
      obtain ⟨pat, hpat, hexp⟩ := hresps.exists_left (List.reduceOption_mem_iff.mp hresp)
      obtain ⟨tmpl, htmpl, hcarries⟩ := hexp.template
      simp only [validResponse, Bool.and_eq_true, List.all_eq_true]
      constructor
      · have hnamed := (hinv.stored.templates tmpl (mem_of_templateOf htmpl).1).named
        rw [hcarries.id, hnamed]
        rfl
      · intro fm hfm
        rw [hcarries.fieldMappings] at hfm
        obtain ⟨row, hrow, rfl⟩ := List.mem_map.mp hfm
        exact hall pat hpat (by rw [htmpl]; rfl) row hrow
  have hstate : model.toPatternDb.server.stateVariables = (stateConfig device.header applied).1 := hconfig.1
  have hsensors : model.toPatternDb.server.virtualSensors = (stateConfig device.header applied).2 := hconfig.2
  have hmeta : model.toPatternDb.patternMeta = model.patternMeta := rfl
  have hresps' : model.toPatternDb.server.responses = model.responses := rfl
  -- the other checks hold of every export
  simp only [validPattern, Bool.and_eq_true, List.all_eq_true, hstate, hsensors, hmeta, hresps']
  constructor
  · rintro ⟨⟨⟨⟨_, _⟩, hr⟩, hsv⟩, hvs⟩
    exact ⟨hresponse.mp hr, hsv, hvs⟩
  · rintro ⟨hr, hsv, hvs⟩
    refine ⟨⟨⟨⟨?_, hendpoints⟩, hresponse.mpr hr⟩, hsv⟩, hvs⟩
    refine ⟨⟨⟨⟨⟨⟨⟨?_, ?_⟩, ?_⟩, ?_⟩, ?_⟩, ?_⟩, hprotocols.2⟩, rfl⟩
    · exact beq_self_eq_true _
    · simp [hversion]
    · simp [hpatternId]
    · simp [hvendor]
    · simp [hdeviceType]
    · simp [hprotocols.1]

/-! ## Mappings -/

/-- What the import stores for the exported form of a stored mapping row. -/
theorem content_of_stored {row : FieldMappingRow} (hrow : row.WellTyped deviceId)
    (hstored : storedFormula (row.formula.getD []) = row.formula ∧
      some (orStr (row.transform.getD []) "direct") = row.transform) :
    (mappingRow freshId row.intent (rowMapping row)).content = row.content := by
  obtain ⟨d, hd⟩ := hrow.enumValues
  have henum : ofOptDict (rowMapping row).mapping = row.enumValues := by
    show ofOptDict (toOptDict row.enumValues).toOption.join = _
    rw [hd, toOptDict_ofOptDict]
    rfl
  show ({ row with
          mappingId := []
          transform := some (orStr (row.transform.getD []) "direct")
          formula := storedFormula (row.formula.getD [])
          enumValues := ofOptDict (rowMapping row).mapping } : FieldMappingRow) = row.content
  rw [hstored.1, hstored.2, henum]
  rfl

/-- Mapping ids of two rows that agree on one device agree on every device. -/
theorem mappingId_device {d d' intent intent' field field' : Str}
    (h : mappingId d intent field = mappingId d intent' field') :
    mappingId d' intent field = mappingId d' intent' field' := by
  have hrest := List.append_cancel_left (List.append_cancel_left h)
  unfold mappingId
  rw [hrest]

/-- The mappings chosen for the command of a pattern that is answered by its own response, or by none. -/
theorem chosenMappings_of_own (hinv : DeviceInv deviceId device) (h : ExportedModel applied device model)
    (hpat : pat ∈ device.db.patterns) (hof : CommandOf pat cmd) (hintent : pat.intent ≠ [])
    (hown : answering device.db pat = if (device.db.templateOf pat.patternId).isSome then some pat else none) :
    chosenMappings model cmd = if (device.db.templateOf pat.patternId).isSome then
      (device.db.mappingsOf pat.intent).map rowMapping else [] := by
  have hrel := chosenResponse_rel hinv h hpat hof hintent
  unfold chosenMappings
  rw [hown] at hrel
  generalize chosenResponse model cmd = chosen at hrel ⊢
  split at hrel
  next hsome =>
    cases hrel with
    | @some _ resp hexp =>
      obtain ⟨tmpl, _, hcarries⟩ := hexp.template
      rw [if_pos hsome]
      exact hcarries.fieldMappings
  next hnone =>
    cases hrel
    rw [if_neg hnone]
    rfl

/-- **The mapping plan of a portable device is its mapping rows.** -/
theorem mem_plannedMappings_of_portable (hinv : DeviceInv deviceId device)
    (h : ExportedModel applied device model) (hportable : Portable applied device) (km : Str × FieldMapping) :
    km ∈ plannedMappings (importPlan model.toPatternDb) ↔
      ∃ row ∈ device.db.mappings, km = (row.intent, rowMapping row) := by
  rw [mem_plannedMappings]
  constructor
  · rintro ⟨cmd, hcmd, hkind, hfm⟩
    obtain ⟨pat, _, hpat, hof⟩ := h.commands.exists_left hcmd
    have hintent := hportable.intents pat hpat
    rw [chosenMappings_of_own hinv h hpat hof hintent (hportable.own pat hpat)] at hfm
    split at hfm
    next =>
      obtain ⟨row, hrow, hrowfm⟩ := List.mem_map.mp hfm
      obtain ⟨hmem, hrowIntent⟩ := List.mem_filter.mp hrow
      refine ⟨row, hmem, Prod.ext ?_ hrowfm.symm⟩
      rw [hkind, hof.kind, orStr_of_ne hintent]
      exact (beq_iff_eq.mp hrowIntent).symm
    next => cases hfm
  · rintro ⟨row, hrow, rfl⟩
    obtain ⟨pat, hpat, hrowIntent, hsome⟩ := hportable.served row hrow
    obtain ⟨cmd, hcmd, _, hof⟩ := h.commands.exists_right hpat
    have hintent := hportable.intents pat hpat
    refine ⟨cmd, hcmd, ?_, ?_⟩
    · rw [hof.kind, orStr_of_ne hintent, hrowIntent]
    · rw [chosenMappings_of_own hinv h hpat hof hintent (hportable.own pat hpat), if_pos hsome]
      exact List.mem_map_of_mem (List.mem_filter.mpr ⟨hrow, beq_iff_eq.mpr hrowIntent.symm⟩)

/-- The copy of a portable device has its mappings. -/
theorem copy_mappings (hinv : DeviceInv deviceId device) (h : ExportedModel applied device model)
    (hportable : Portable applied device) (content : FieldMappingRow) :
    (∃ row ∈ (importedDb freshId model).mappings, row.content = content) ↔
      ∃ row ∈ device.db.mappings, row.content = content := by
  have hplan := mem_plannedMappings_of_portable hinv h hportable
  have hsame : ∀ row ∈ device.db.mappings, (mappingRow freshId row.intent (rowMapping row)).content = row.content :=
    fun row hrow => content_of_stored (hinv.stored.mappings row hrow) (hportable.stored row hrow)
  have hrows : ∀ row, row ∈ (importedDb freshId model).mappings ↔
      ∃ km ∈ plannedMappings (importPlan model.toPatternDb), row = mappingRow freshId km.1 km.2 := by
    intro row
    rw [importedDb, importPlan_mappings]
    refine mem_plannedRows (fun _ _ => rfl) (fun _ _ => rfl) (fun km hkm km' hkm' hid => ?_) row
    obtain ⟨r, hr, rfl⟩ := (hplan km).mp hkm
    obtain ⟨r', hr', rfl⟩ := (hplan km').mp hkm'
    have hids : r.mappingId = r'.mappingId := by
      rw [(hinv.stored.mappings r hr).named, (hinv.stored.mappings r' hr').named]
      exact mappingId_device hid
    rw [List.inj_on_of_nodup_map hinv.stored.mappingIds hr hr' hids]
  constructor
  · rintro ⟨row, hrow, rfl⟩
    obtain ⟨km, hkm, rfl⟩ := (hrows row).mp hrow
    obtain ⟨r, hr, rfl⟩ := (hplan km).mp hkm
    exact ⟨r, hr, (hsame r hr).symm⟩
  · rintro ⟨row, hrow, rfl⟩
    exact ⟨_, (hrows _).mpr ⟨_, (hplan _).mpr ⟨row, hrow, rfl⟩, rfl⟩, hsame row hrow⟩

/-! ## The header -/

/-- **The header comes back iff its texts are stored as they are and its identity is its own.** -/
theorem copy_header_iff (hinv : DeviceInv deviceId device) (h : ExportedModel applied device model) {m : DeviceMeta}
    (hm : device.header = some m) :
    (((importedHeader model).validate I).protocols = m.protocols ∧
      ((importedHeader model).validate I).connectionMode = m.connectionMode ∧
      ((importedHeader model).validate I).transport = m.transport ∧
      ((importedHeader model).validate I).security = m.security ∧
      ((importedHeader model).validate I).identity = m.identity ∧
      ((importedHeader model).validate I).ports = m.ports) ↔
    (shortText m.transport = m.transport ∧ shortText m.security = m.security) ∧
      shortText (orStr m.identity m.model) = m.identity := by
  obtain ⟨p, hp, hsafe⟩ := hinv.protocol m hm
  have hmode := hinv.mode m hm
  have hprotocol : model.protocol = exportProtocol (some m) := hm ▸ h.protocol
  have hprotocols : ((importedHeader model).validate I).protocols = m.protocols := by
    show whitelistedProtocols I (if model.protocol.protocol.isEmpty then [] else [model.protocol.protocol]) = _
    have hname : model.protocol.protocol = p := by
      rw [hprotocol]
      show m.protocols.headD [] = p
      rw [hp]
      rfl
    rw [hname, hp]
    rcases hsafe with rfl | hsafe
    · rfl
    · have hne : p ≠ [] := by
        rintro rfl
        exact absurd hsafe (by decide)
      rw [if_neg (by simpa using hne), whitelistedProtocols_of_one, normalizeProtocol_self hsafe]
      rfl
  have hmodes : ((importedHeader model).validate I).connectionMode = m.connectionMode := by
    show whitelistedConnectionMode I (orStr model.protocol.handler "auto") = _
    have hne : m.connectionMode ≠ [] := fun hnil => absurd (hnil ▸ hmode) (by decide)
    rw [hprotocol]
    show whitelistedConnectionMode I (orStr m.connectionMode "auto") = _
    rw [orStr_of_ne hne, whitelistedConnectionMode_self hmode]
  have htransport : ((importedHeader model).validate I).transport = shortText m.transport := by
    show shortText model.protocol.transport = _
    rw [hprotocol]
    rfl
  have hsecurity : ((importedHeader model).validate I).security = shortText m.security := by
    show shortText model.protocol.security = _
    rw [hprotocol]
    rfl
  have hidentity : ((importedHeader model).validate I).identity = shortText (orStr m.identity m.model) := by
    show shortText model.protocol.identity = _
    rw [hprotocol]
    rfl
  have hports : ((importedHeader model).validate I).ports = m.ports := by
    show model.protocol.ports = _
    rw [hprotocol]
    rfl
  rw [hprotocols, hmodes, htransport, hsecurity, hidentity, hports]
  exact ⟨fun hall => ⟨⟨hall.2.2.1, hall.2.2.2.1⟩, hall.2.2.2.2.1⟩,
    fun hall => ⟨rfl, rfl, hall.1.1, hall.1.2, hall.2, rfl⟩⟩

/-- A pattern answered by its own response, or by none, has the template of what answers it. -/
theorem answers_of_own {db : DeviceDb}
    (h : answering db pat = if (db.templateOf pat.patternId).isSome then some pat else none) :
    ((answering db pat).bind fun q => db.templateOf q.patternId).map (·.content) =
      (db.templateOf pat.patternId).map (·.content) := by
  rw [h]
  cases htmpl : db.templateOf pat.patternId with
  | none => rfl
  | some tmpl =>
    rw [if_pos (by rfl), Option.bind_some, htmpl]

end

/-- **A portable device is reproduced by an export and an import; and every device that is reproduced is
    reproducible.** -/
theorem export_import_reproduces (I : Interp) (pathDigest : Str → Result Str) (deviceId freshId vendor deviceType : Str)
    (applied : Option (List StateVariable × List VirtualSensor)) (device : Device)
    (hreach : Reaches (writeStep I pathDigest deviceId) {} device) :
    ∃ model, exportDeviceModel deviceId vendor deviceType applied device = .ok model ∧
      (Portable applied device → ∃ copy, importDeviceModel I freshId model {} = .ok copy ∧ Reproduces device copy) ∧
      ∀ copy, importDeviceModel I freshId model {} = .ok copy → Reproduces device copy →
        Reproducible applied device := by
  have hinv := deviceInv_of_reaches hreach
  have hhoused := housed_of_reaches hreach
  obtain ⟨model, hmodel, hexported⟩ := exportDeviceModel_ok hinv.stored vendor deviceType applied
  refine ⟨model, hmodel, fun hportable => ?_, fun copy hcopy hrep => ?_⟩
  · have hvalid := (exported_valid_iff hinv hexported).mpr
      ⟨hportable.mappings, hportable.stateVariables, hportable.virtualSensors⟩
    refine ⟨{ db := importedDb freshId model, header := some ((importedHeader model).validate I) }, ?_, ?_⟩
    · unfold importDeviceModel importPatterns
      rw [if_pos hvalid]
      rfl
    · refine ⟨?_, ?_, copy_mappings hinv hexported hportable, fun m hm => ⟨_, rfl, ?_⟩⟩
      · exact (copy_patterns_iff hinv hexported).mpr fun pat hpat =>
          ⟨hportable.protocols pat hpat, hportable.intents pat hpat⟩
      · exact (copy_templates_iff hinv hhoused hexported hportable.intents).mpr hportable.answers
      · exact (copy_header_iff hinv hexported hm).mpr ⟨hportable.texts m hm, hportable.identity m hm⟩
  · obtain ⟨db, hdb, rfl⟩ := Except.map_ok_iff.mp hcopy
    obtain ⟨hvalid, rfl⟩ := importPatterns_ok_iff.mp hdb
    obtain ⟨hmappings, hvariables, hsensors⟩ := (exported_valid_iff hinv hexported).mp hvalid
    have hpatterns := (copy_patterns_iff hinv hexported).mp hrep.patterns
    have hintents : ∀ pat ∈ device.db.patterns, pat.intent ≠ [] := fun pat hpat => (hpatterns pat hpat).2
    have hheader : ∀ m ∈ device.header, (shortText m.transport = m.transport ∧ shortText m.security = m.security) ∧
        shortText (orStr m.identity m.model) = m.identity := by
      intro m hm
      obtain ⟨m', hm', hsame⟩ := hrep.header m hm
      cases hm'
      exact (copy_header_iff hinv hexported hm).mp hsame
    exact
      { protocols := fun pat hpat => (hpatterns pat hpat).1
        intents := hintents
        answers := (copy_templates_iff hinv hhoused hexported hintents).mp hrep.templates
        mappings := hmappings
        stateVariables := hvariables
        virtualSensors := hsensors
        texts := fun m hm => (hheader m hm).1
        identity := fun m hm => (hheader m hm).2 }

/-- A thermostat that answers a reading and a setting, learned in one delta. -/
def thermostatModel : DeviceModel where
  patternMeta := { patternId := "thermostat", vendor := "acme", deviceType := "thermostat" }
  protocol := { protocol := "https", handler := "http", identity := "acme t1", ports := [443] }
  commands :=
    [{ id := "read", kind := "get_state", protocol := "https", path := "/state" },
     { id := "set", kind := "set_target", protocol := "https", method := "PUT", path := "/target" }]
  responses :=
    [{ id := "r1", triggers := [str "get_state"], bodyTemplate := [(str "target", .str (str "{state.target}"))] },
     { id := "r2", triggers := [str "set_target"]
       fieldMappings := [{ source := "body.target", target := "target" }] }]

/-- The thermostat as a merge stores it. -/
def thermostat : Device := (mergeDeviceModel asciiInterp .ok "dev" thermostatModel {}).1

/-- The thermostat is reproduced on another install. -/
theorem thermostat_reproduced : ∃ model copy,
    exportDeviceModel "dev" "acme" "thermostat" none thermostat = .ok model ∧
      importDeviceModel asciiInterp "copy" model {} = .ok copy ∧ Reproduces thermostat copy := by
  have hreach : Reaches (writeStep asciiInterp .ok "dev") {} thermostat :=
    reaches_of_exec [.merges thermostatModel] rfl
  obtain ⟨model, hmodel, hcopy, _⟩ := export_import_reproduces asciiInterp .ok "dev" "copy" "acme" "thermostat" none
    thermostat hreach
  have hown : ∀ pat ∈ thermostat.db.patterns, answering thermostat.db pat =
      if (thermostat.db.templateOf pat.patternId).isSome then some pat else none := by decide +kernel
  have hportable : Portable none thermostat :=
    { protocols := by decide +kernel
      intents := by decide +kernel
      answers := fun pat hpat => answers_of_own (hown pat hpat)
      mappings := by decide +kernel
      stateVariables := by decide +kernel
      virtualSensors := by decide +kernel
      texts := by
        rintro m ⟨⟩
        decide +kernel
      identity := by
        rintro m ⟨⟩
        decide +kernel
      own := hown
      served := by decide +kernel
      stored := by decide +kernel }
  obtain ⟨copy, himport, hrep⟩ := hcopy hportable
  exact ⟨model, copy, hmodel, himport, hrep⟩

/-- A hub reached over MQTT one of whose commands is HTTP. -/
def hubModel : DeviceModel where
  patternMeta := { patternId := "hub", vendor := "acme", deviceType := "hub" }
  protocol := { protocol := "mqtt", handler := "mqtt" }
  commands := [{ id := "status", kind := "get_status", path := "/status" }]

/-- The HTTP command of the hub comes back as an MQTT one. -/
theorem hubModel_not_reproduced : ¬ ∀ (I : Interp) (pathDigest : Str → Result Str)
    (deviceId freshId vendor deviceType : Str) (applied : Option (List StateVariable × List VirtualSensor))
    (device : Device) (model : DeviceModel), Reaches (writeStep I pathDigest deviceId) {} device →
      exportDeviceModel deviceId vendor deviceType applied device = .ok model →
        ∃ copy, importDeviceModel I freshId model {} = .ok copy ∧ Reproduces device copy := by
  intro h
  have hreach : Reaches (writeStep asciiInterp .ok "dev") {}
      (mergeDeviceModel asciiInterp .ok "dev" hubModel {}).1 := reaches_of_exec [.merges hubModel] rfl
  have hinv := deviceInv_of_reaches hreach
  obtain ⟨model, hmodel, hexported⟩ := exportDeviceModel_ok hinv.stored "acme" "hub" none
  obtain ⟨copy, hcopy, hrep⟩ := h asciiInterp .ok "dev" "copy" "acme" "hub" none _ model hreach hmodel
  obtain ⟨db, hdb, rfl⟩ := Except.map_ok_iff.mp hcopy
  obtain ⟨_, rfl⟩ := importPatterns_ok_iff.mp hdb
  have hpatterns := (copy_patterns_iff hinv hexported).mp hrep.patterns
  exact absurd (fun pat hpat => (hpatterns pat hpat).1) (by decide +kernel)

end RideTheApi.PatternDb
