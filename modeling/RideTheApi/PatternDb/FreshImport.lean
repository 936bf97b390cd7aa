import RideTheApi.PatternDb.DeviceModel

/-!
# `PatternDb.FreshImport` — what an import leaves on a fresh device

With distinct command ids, an import into an empty database adds one pattern row per command, one template
per command that a response answers, and one mapping row per field mapping of those responses.
-/

namespace RideTheApi.PatternDb

open Py KeyedTable

/-! ## The shared rule -/

/-- The response of a command by the shared rule: one triggered by its id wins over one by its kind. -/
def chosenResponse (model : DeviceModel) (cmd : Command) : Option ServerResponse :=
  responseForEndpoint (responsesByTrigger model.responses) cmd.id cmd.kind

/-- The field mappings of the chosen response. -/
def chosenMappings (model : DeviceModel) (cmd : Command) : List FieldMapping :=
  ((chosenResponse model cmd).map (·.fieldMappings)).getD []

/-- The template row of a response, for a pattern. -/
def templateRow (patternId : Str) (resp : ServerResponse) : ResponseTemplate :=
  storeTemplate resp (newTemplate patternId)

/-- The mapping row of a field mapping, under the kind of a command. -/
def mappingRow (deviceId kind : Str) (fm : FieldMapping) : FieldMappingRow :=
  storeMapping kind fm (newMapping (mappingId deviceId kind fm.source))

/-- The row an import stores for a command. -/
def importedRow (model : DeviceModel) (cmd : Command) : RequestPattern :=
  storePattern (defaultProtocol model.toPatternDb) (cmd.toEndpoint model.protocol.protocol) (newPattern cmd.id)

/-- The database an import leaves on a fresh device. -/
def importedDb (deviceId : Str) (model : DeviceModel) : DeviceDb :=
  (importPlan model.toPatternDb).foldl (importEndpoint deviceId (defaultProtocol model.toPatternDb)) {}

/-- The answered commands of a model. -/
def answeredCommands (model : DeviceModel) : List (Command × ServerResponse) :=
  model.commands.filterMap fun cmd => (chosenResponse model cmd).map (Prod.mk cmd)

section
variable {deviceId : Str} {model : DeviceModel} {cmd : Command}

/-! ## The rows of a command -/

theorem get?_headers (cmd : Command) :
    (Dict.get? (cmd.toEndpoint model.protocol.protocol).headers (str "required")).getD [] =
      (Dict.get? cmd.headers (str "required")).getD [] := by
  show (Dict.get? (if cmd.headers.isEmpty then [(str "required", [])] else cmd.headers) (str "required")).getD [] = _
  cases hheaders : cmd.headers with
  | nil => decide
  | cons kv kvs => rfl

theorem defaultProtocol_toPatternDb (model : DeviceModel) :
    defaultProtocol model.toPatternDb = orStr model.protocol.protocol "http" := by
  show (if model.protocol.protocol.isEmpty then [str "http"] else [model.protocol.protocol]).headD "http" = _
  unfold orStr
  split <;> rfl

theorem orStr_orStr (a b : Str) : orStr a (orStr a b) = orStr a b := by
  cases a <;> rfl

/-- What an import stores for a command: the device's protocol, and the path pattern before the path. -/
theorem importedRow_eq (model : DeviceModel) (cmd : Command) : importedRow model cmd =
    { patternId := cmd.id
      method := orStr cmd.method "GET"
      pathPattern := orStr cmd.pathPattern (orStr cmd.path cmd.topic)
      protocol := orStr model.protocol.protocol "http"
      requiredHeaders := ofStrList ((Dict.get? cmd.headers (str "required")).getD [])
      bodySchema := .obj (cmd.bodySchema.getD [])
      queryParamKeys := ofStrList cmd.queryParams
      intent := cmd.kind } := by
  have hpath : orStr (orStr cmd.pathPattern (orStr cmd.path cmd.topic)) (orStr cmd.path (orStr cmd.pathPattern cmd.topic)) =
      orStr cmd.pathPattern (orStr cmd.path cmd.topic) := by
    cases cmd.pathPattern with
    | cons c cs => rfl
    | nil =>
      cases cmd.path with
      | cons c cs => rfl
      | nil => cases cmd.topic <;> rfl
  unfold importedRow storePattern newPattern
  rw [get?_headers, defaultProtocol_toPatternDb]
  show RequestPattern.mk cmd.id (orStr cmd.method "GET")
    (orStr (orStr cmd.pathPattern (orStr cmd.path cmd.topic)) (orStr cmd.path (orStr cmd.pathPattern cmd.topic)))
    (orStr model.protocol.protocol (orStr model.protocol.protocol "http")) _ _ _ _ = _
  rw [hpath, orStr_orStr]
  rfl

/-- The mappings of a valid model's chosen responses have a source and a transform. -/
theorem chosenMappings_valid (hvalid : validPattern model.toPatternDb = true) {fm : FieldMapping}
    (hfm : fm ∈ chosenMappings model cmd) : fm.source ≠ [] ∧ fm.transform ≠ [] := by
  unfold chosenMappings at hfm
  cases hresp : chosenResponse model cmd with
  | none =>
    rw [hresp] at hfm
    cases hfm
  | some resp =>
    rw [hresp] at hfm
    have hmem : resp ∈ model.responses := mem_of_responseForEndpoint hresp
    simp only [validPattern, Bool.and_eq_true, List.all_eq_true] at hvalid
    have hresponse : validResponse resp = true := hvalid.1.1.2 resp hmem
    simp only [validResponse, Bool.and_eq_true, List.all_eq_true] at hresponse
    have hmapping : validMapping fm = true := hresponse.2 fm hfm
    simp only [validMapping, Bool.and_eq_true, List.contains_iff_mem] at hmapping
    refine ⟨by simpa using hmapping.1.1, fun hnil => ?_⟩
    rw [hnil] at hmapping
    exact absurd hmapping.2 (by decide)

/-- The commands of a valid model have an id. -/
theorem command_id_ne (hvalid : validPattern model.toPatternDb = true) (hcmd : cmd ∈ model.commands) :
    cmd.id ≠ [] :=
  (validEndpoint_of_validPattern hvalid (List.mem_map_of_mem hcmd)).1

/-! ## The plan of a model -/

theorem importDeviceModel_fresh (I : Interp) (deviceId : Str) (hvalid : validPattern model.toPatternDb = true) :
    ∃ imported, importDeviceModel I deviceId model {} = .ok imported ∧ imported.db = importedDb deviceId model := by
  unfold importDeviceModel importPatterns
  rw [if_pos hvalid]
  exact ⟨_, rfl, rfl⟩

theorem importPlan_toPatternDb (model : DeviceModel) : importPlan model.toPatternDb =
    model.commands.map fun cmd => (cmd.toEndpoint model.protocol.protocol, chosenResponse model cmd) := by
  show (model.commands.map _).map _ = _
  rw [List.map_map]
  rfl

theorem answeredPlan_toPatternDb (model : DeviceModel) : answeredPlan (importPlan model.toPatternDb) =
    (answeredCommands model).map fun cr => (cr.1.toEndpoint model.protocol.protocol, cr.2) := by
  rw [importPlan_toPatternDb, answeredPlan, answeredCommands, List.filterMap_map, List.map_filterMap]
  refine List.filterMap_congr fun cmd _ => ?_
  show (chosenResponse model cmd).map _ = ((chosenResponse model cmd).map _).map _
  rw [Option.map_map]
  rfl

theorem mem_answeredCommands {cr : Command × ServerResponse} :
    cr ∈ answeredCommands model ↔ cr.1 ∈ model.commands ∧ chosenResponse model cr.1 = some cr.2 := by
  rw [answeredCommands, List.mem_filterMap]
  constructor
  · rintro ⟨cmd, hcmd, h⟩
    obtain ⟨resp, hresp, rfl⟩ := Option.map_eq_some_iff.mp h
    exact ⟨hcmd, hresp⟩
  · rintro ⟨hcmd, hresp⟩
    exact ⟨cr.1, hcmd, Option.map_eq_some_iff.mpr ⟨cr.2, hresp, rfl⟩⟩

/-- The answered commands come in the order of the commands. -/
theorem answeredCommands_sublist (model : DeviceModel) :
    ((answeredCommands model).map fun cr => cr.1.id).Sublist (model.commands.map (·.id)) := by
  unfold answeredCommands
  induction model.commands with
  | nil => exact List.nil_sublist _
  | cons cmd cmds ih =>
    rw [List.map_cons, List.filterMap_cons]
    cases chosenResponse model cmd with
    | none => exact ih.cons _
    | some resp => exact ih.cons_cons _

theorem mem_plannedMappings {km : Str × FieldMapping} :
    km ∈ plannedMappings (importPlan model.toPatternDb) ↔
      ∃ cmd ∈ model.commands, km.1 = cmd.kind ∧ km.2 ∈ chosenMappings model cmd := by
  unfold plannedMappings
  rw [answeredPlan_toPatternDb, List.flatMap_map, List.mem_flatMap]
  constructor
  · rintro ⟨cr, hcr, h⟩
    obtain ⟨fm, hfm, rfl⟩ := List.mem_map.mp h
    obtain ⟨hcmd, hresp⟩ := mem_answeredCommands.mp hcr
    refine ⟨cr.1, hcmd, rfl, ?_⟩
    unfold chosenMappings
    rw [hresp]
    exact hfm
  · rintro ⟨cmd, hcmd, hkind, hfm⟩
    unfold chosenMappings at hfm
    cases hresp : chosenResponse model cmd with
    | none =>
      rw [hresp] at hfm
      cases hfm
    | some resp =>
      rw [hresp] at hfm
      exact ⟨(cmd, resp), mem_answeredCommands.mpr ⟨hcmd, hresp⟩,
        List.mem_map.mpr ⟨km.2, hfm, Prod.ext hkind.symm rfl⟩⟩

/-! ## The tables of a fresh device -/

theorem importedDb_patterns (hids : (model.commands.map (·.id)).Nodup) :
    (importedDb deviceId model).patterns = model.commands.map (importedRow model) := by
  rw [importedDb, importPlan_patterns, importPlan_toPatternDb]
  refine (foldl_upsert_fresh ?_ ?_ ?_).trans ?_
  · exact fun _ => rfl
  · rw [List.map_map]
    exact hids
  · exact fun _ _ => List.not_mem_nil
  · rw [List.map_map]
    rfl

theorem templateId_injective : Function.Injective templateId := fun _ _ h => List.append_cancel_left h

theorem importedDb_templates (hids : (model.commands.map (·.id)).Nodup) :
    (importedDb deviceId model).templates =
      (answeredCommands model).map fun cr => templateRow cr.1.id cr.2 := by
  rw [importedDb, importPlan_templates, answeredPlan_toPatternDb]
  refine (foldl_upsert_fresh ?_ ?_ ?_).trans ?_
  · exact fun _ => rfl
  · rw [List.map_map]
    have hnodup := (hids.sublist (answeredCommands_sublist model)).map templateId_injective
    rwa [List.map_map] at hnodup
  · exact fun _ _ => List.not_mem_nil
  · rw [List.map_map]
    rfl

/-- One row per pattern id: the template of a pattern is the row that is named after it. -/
theorem templateOf_eq {db : DeviceDb} (rows : List (Str × ResponseTemplate))
    (htemplates : db.templates = rows.map Prod.snd) (hnamed : ∀ p ∈ rows, p.2.patternId = p.1)
    (hnodup : (rows.map Prod.fst).Nodup) {id : Str} {tmpl : ResponseTemplate} (hmem : (id, tmpl) ∈ rows) :
    db.templateOf id = some tmpl := by
  have hkeys : db.templates.map (·.patternId) = rows.map Prod.fst := by
    rw [htemplates, List.map_map]
    exact List.map_congr_left hnamed
  have htmpl : tmpl ∈ db.templates := htemplates ▸ List.mem_map_of_mem hmem
  have hid : tmpl.patternId = id := hnamed _ hmem
  have hfilter : (db.templates.filter fun t => decide (t.patternId = tmpl.patternId)) = [tmpl] :=
    filter_key_eq (hkeys ▸ hnodup) htmpl
  have hsame : (db.templates.filter fun t => t.patternId == id) =
      db.templates.filter fun t => decide (t.patternId = tmpl.patternId) := by
    refine List.filter_congr fun t _ => ?_
    rw [hid]
    exact Bool.beq_eq_decide_eq _ _
  rw [DeviceDb.templateOf, hsame, hfilter]
  rfl

/-- The template an import leaves for a command: that of its chosen response, if any. -/
theorem importedDb_templateOf (hids : (model.commands.map (·.id)).Nodup) (hcmd : cmd ∈ model.commands) :
    (importedDb deviceId model).templateOf cmd.id = (chosenResponse model cmd).map (templateRow cmd.id) := by
  cases hresp : chosenResponse model cmd with
  | some resp =>
    refine templateOf_eq ((answeredCommands model).map fun cr => (cr.1.id, templateRow cr.1.id cr.2)) ?_ ?_ ?_
      (List.mem_map.mpr ⟨(cmd, resp), mem_answeredCommands.mpr ⟨hcmd, hresp⟩, rfl⟩)
    · rw [importedDb_templates hids, List.map_map]
      rfl
    · intro p hp
      obtain ⟨cr, _, rfl⟩ := List.mem_map.mp hp
      rfl
    · rw [List.map_map]
      exact hids.sublist (answeredCommands_sublist model)
  | none =>
    have hnone : ((importedDb deviceId model).templates.filter fun t => t.patternId == cmd.id) = [] := by
      refine List.filter_eq_nil_iff.mpr fun t ht heq => ?_
      rw [importedDb_templates hids] at ht
      obtain ⟨cr, hcr, rfl⟩ := List.mem_map.mp ht
      obtain ⟨hcmd', hresp'⟩ := mem_answeredCommands.mp hcr
      have hsame : cr.1 = cmd := List.inj_on_of_nodup_map hids hcmd' hcmd (beq_iff_eq.mp heq)
      rw [hsame, hresp] at hresp'
      cases hresp'
    rw [DeviceDb.templateOf, hnone]
    rfl

/-- The mapping rows of a plan on a fresh device. -/
theorem mem_plannedRows {plan : List (Str × FieldMapping)} {make : Str × FieldMapping → FieldMappingRow}
    {update : Str × FieldMapping → FieldMappingRow → FieldMappingRow}
    (hmake : ∀ km ∈ plan, update km (make km) = mappingRow deviceId km.1 km.2)
    (hupdate : ∀ km ∈ plan, update km (mappingRow deviceId km.1 km.2) = mappingRow deviceId km.1 km.2)
    (hagree : ∀ km ∈ plan, ∀ km' ∈ plan, mappingId deviceId km.1 km.2.source = mappingId deviceId km'.1 km'.2.source →
      mappingRow deviceId km.1 km.2 = mappingRow deviceId km'.1 km'.2) (row : FieldMappingRow) :
    row ∈ plan.foldl (fun rows km => upsert (·.mappingId) (mappingId deviceId km.1 km.2.source) (make km)
        (update km) rows) [] ↔ ∃ km ∈ plan, row = mappingRow deviceId km.1 km.2 := by
  refine mem_foldl_upsert ?_ [] hmake hupdate ?_ hagree row
  · exact fun _ => rfl
  · simp

end

end RideTheApi.PatternDb
