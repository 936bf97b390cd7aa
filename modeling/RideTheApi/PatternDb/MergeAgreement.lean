import RideTheApi.PatternDb.FreshImport

/-!
# `PatternDb.MergeAgreement` — one device model, two writers

`importDeviceModel` and `mergeDeviceModel` write the same model into the same tables, each with its own
lookup and its own defaults. On a fresh device both leave one pattern row per command and the mapping rows
of their plan, so they agree exactly as far as what they store for a command is the same. `MergesAlike` is
what a model must give for that.
-/

namespace RideTheApi.PatternDb

open Py KeyedTable

/-! ## What the writers agree on -/

/-- Two writers agree on a model: the same pattern rows, and for each command the template and the mapping
    rows of its chosen response. -/
structure Agree (deviceId : Str) (model : DeviceModel) (merged imported : DeviceDb) : Prop where
  patterns : merged.patterns = imported.patterns
  templates : ∀ cmd ∈ model.commands,
    merged.templateOf cmd.id = (chosenResponse model cmd).map (templateRow cmd.id) ∧
    imported.templateOf cmd.id = (chosenResponse model cmd).map (templateRow cmd.id)
  mappings : ∀ cmd ∈ model.commands, ∀ row,
    (row ∈ merged.mappingsOf cmd.kind ↔ ∃ fm ∈ chosenMappings model cmd, row = mappingRow deviceId cmd.kind fm) ∧
    (row ∈ imported.mappingsOf cmd.kind ↔ ∃ fm ∈ chosenMappings model cmd, row = mappingRow deviceId cmd.kind fm)

/-! ## When they agree -/

/-- The columns of a template. -/
structure TemplateContent where
  statusCode : Int := 200
  headersTemplate : Dict Str Str := []
  bodyTemplate : Dict Str Json := []
  fieldMappings : Dict Str Str := []
deriving Repr, DecidableEq

/-- What a template stores of the response a command has, or has not. -/
def templateContent : Option ServerResponse → TemplateContent
  | none      => {}
  | some resp =>
    { statusCode := resp.statusCode
      headersTemplate := resp.headersTemplate
      bodyTemplate := resp.bodyTemplate
      fieldMappings := Dict.ofList (resp.fieldMappings.map fun m => (m.source, m.target)) }

/-- The field mappings a merge stores for a command: those with a source. -/
def sourcedMappings (model : DeviceModel) (cmd : Command) : List FieldMapping :=
  (mergedMappings model cmd).filter fun fm => !fm.source.isEmpty

/-- What a command must give for both writers to store the same rows: the device's protocol, one path, and a
    chosen response with the content of the first response triggered by its kind. -/
structure StoredAlike (model : DeviceModel) (cmd : Command) : Prop where
  protocol : orStr cmd.protocol "http" = orStr model.protocol.protocol "http"
  path : orStr cmd.path (orStr cmd.pathPattern cmd.topic) = orStr cmd.pathPattern (orStr cmd.path cmd.topic)
  answered : (chosenResponse model cmd).isSome = true
  content : templateContent (mergedResponse model cmd) = templateContent (chosenResponse model cmd)

/-- What every model the writers agree on gives: commands stored alike, no two different mapping rows under
    one id, and the same mappings for the commands of one kind. -/
structure SharesRows (deviceId : Str) (model : DeviceModel) : Prop where
  commands : ∀ cmd ∈ model.commands, StoredAlike model cmd
  ids : ∀ cmd ∈ model.commands, ∀ cmd' ∈ model.commands,
    ∀ fm ∈ chosenMappings model cmd, ∀ fm' ∈ chosenMappings model cmd',
      mappingId deviceId cmd.kind fm.source = mappingId deviceId cmd'.kind fm'.source →
        mappingRow deviceId cmd.kind fm = mappingRow deviceId cmd'.kind fm'
  kinds : ∀ cmd ∈ model.commands, ∀ cmd' ∈ model.commands, cmd.kind = cmd'.kind →
    ∀ fm ∈ chosenMappings model cmd, ∃ fm' ∈ chosenMappings model cmd',
      mappingRow deviceId cmd.kind fm = mappingRow deviceId cmd'.kind fm'

/-- The writers agree on a model: they share the rows, and what a merge stores as the mappings of a command
    are those of its chosen response. -/
structure MergesAlike (deviceId : Str) (model : DeviceModel) : Prop extends SharesRows deviceId model where
  mappings : ∀ cmd ∈ model.commands,
    sourcedMappings model cmd ⊆ chosenMappings model cmd ∧ chosenMappings model cmd ⊆ sourcedMappings model cmd

/-! ## The rows of the two writers -/

section
variable {I : Interp} {pathDigest : Str → Result Str} {deviceId : Str} {model : DeviceModel} {cmd : Command}

/-- A command whose own id is kept. -/
def KeepsId (deviceId : Str) (cmd : Command) : Prop :=
  cmd.id ≠ [] ∧ cmd.id.startsWith (deviceId ++ str "_") = false

theorem commandPatternId_of_keepsId (h : KeepsId deviceId cmd) :
    commandPatternId pathDigest deviceId cmd = .ok cmd.id :=
  if_pos ⟨h.1, by simp [h.2]⟩

theorem commandPatternIds_of_keepsId {cmds : List Command} (h : ∀ cmd ∈ cmds, KeepsId deviceId cmd) :
    cmds.mapM (commandPatternId pathDigest deviceId) = .ok (cmds.map (·.id)) := by
  induction cmds with
  | nil => rfl
  | cons cmd cmds ih =>
    rw [List.mapM_cons, commandPatternId_of_keepsId (h cmd List.mem_cons_self),
      ih fun c hc => h c (List.mem_cons_of_mem _ hc)]
    rfl

/-- A text that does not start with the device id does not start with it and an underscore. -/
theorem startsWith_append_eq_false {s p q : Str} (h : s.startsWith p = false) : s.startsWith (p ++ q) = false := by
  rw [Bool.eq_false_iff] at h ⊢
  refine fun happend => h ?_
  rw [Str.startsWith, List.isPrefixOf_iff_prefix] at happend ⊢
  exact (List.prefix_append p q).trans happend

/-- The row a merge stores for a command with its own id. -/
def mergedRow (cmd : Command) : RequestPattern := mergePattern cmd (newPattern cmd.id)

/-- **The rows of a command agree iff it has the device's protocol and one path.** -/
theorem mergedRow_eq_iff (model : DeviceModel) (cmd : Command) : mergedRow cmd = importedRow model cmd ↔
    orStr cmd.protocol "http" = orStr model.protocol.protocol "http" ∧
    orStr cmd.path (orStr cmd.pathPattern cmd.topic) = orStr cmd.pathPattern (orStr cmd.path cmd.topic) := by
  have hpath : orStr (commandPath cmd) [] = orStr cmd.path (orStr cmd.pathPattern cmd.topic) := by
    show orStr (commandPath cmd) [] = commandPath cmd
    cases commandPath cmd <;> rfl
  rw [importedRow_eq]
  unfold mergedRow mergePattern newPattern
  dsimp only
  rw [hpath]
  constructor
  · intro h
    injection h with _ _ hpath hprotocol
    exact ⟨hprotocol, hpath⟩
  · rintro ⟨hprotocol, hpath⟩
    rw [hprotocol, hpath]

/-- A merge stores the template row of the chosen response iff the contents agree. -/
theorem mergeTemplate_eq_iff (patternId : Str) (found : Option ServerResponse) (resp : ServerResponse) :
    mergeTemplate found (mergedTemplate patternId) = templateRow patternId resp ↔
      templateContent found = templateContent (some resp) := by
  have hinj : ∀ {d d' : Dict Str Str}, ofStrDict d = ofStrDict d' → d = d' := by
    intro d d' h
    have hread := toStrDict_ofStrDict d
    rw [h, toStrDict_ofStrDict] at hread
    exact (Except.ok.inj hread).symm
  cases found with
  | none =>
    simp only [mergeTemplate, mergedTemplate, newTemplate, templateRow, storeTemplate, templateContent,
      TemplateContent.mk.injEq, ResponseTemplate.mk.injEq, true_and, JsonTree.obj.injEq]
    exact ⟨fun h => ⟨h.1, hinj (d := []) h.2.1, h.2.2.1, hinj (d := []) h.2.2.2⟩,
      fun h => ⟨h.1, congrArg ofStrDict h.2.1, h.2.2.1, congrArg ofStrDict h.2.2.2⟩⟩
  | some found =>
    simp only [mergeTemplate, mergedTemplate, newTemplate, templateRow, storeTemplate, templateContent,
      TemplateContent.mk.injEq, ResponseTemplate.mk.injEq, true_and, JsonTree.obj.injEq]
    exact ⟨fun h => ⟨h.1, hinj h.2.1, h.2.2.1, hinj h.2.2.2⟩,
      fun h => ⟨h.1, congrArg ofStrDict h.2.1, h.2.2.1, congrArg ofStrDict h.2.2.2⟩⟩

/-- The mapping row a merge adds for a mapping that names a transform. -/
theorem mergeMapping_new {kind : Str} {fm : FieldMapping} (h : fm.transform ≠ []) :
    mergeMapping fm (mergedMapping deviceId kind fm) = mappingRow deviceId kind fm := by
  unfold mergeMapping mergedMapping mappingRow storeMapping newMapping
  dsimp only
  rw [orStr_of_ne h]
  congr 1
  cases fm.target <;> rfl

/-- Storing a mapping again changes nothing. -/
theorem mergeMapping_row {kind : Str} {fm : FieldMapping} (h : fm.transform ≠ []) :
    mergeMapping fm (mappingRow deviceId kind fm) = mappingRow deviceId kind fm := by
  unfold mergeMapping mappingRow storeMapping newMapping
  dsimp only
  rw [orStr_of_ne h, orStr_self]

/-! ## The tables of a fresh device -/

/-- The mapping plan of a command that both writers share: each of its chosen mappings under its kind. -/
theorem mem_mappingsOf {db : DeviceDb} {plan : List (Str × FieldMapping)}
    (hrows : ∀ row, row ∈ db.mappings ↔ ∃ km ∈ plan, row = mappingRow deviceId km.1 km.2)
    (hplan : ∀ km, km ∈ plan ↔ ∃ cmd ∈ model.commands, km.1 = cmd.kind ∧ km.2 ∈ chosenMappings model cmd)
    (hkinds : ∀ cmd ∈ model.commands, ∀ cmd' ∈ model.commands, cmd.kind = cmd'.kind →
      ∀ fm ∈ chosenMappings model cmd, ∃ fm' ∈ chosenMappings model cmd',
        mappingRow deviceId cmd.kind fm = mappingRow deviceId cmd'.kind fm')
    (hcmd : cmd ∈ model.commands) (row : FieldMappingRow) :
    row ∈ db.mappingsOf cmd.kind ↔ ∃ fm ∈ chosenMappings model cmd, row = mappingRow deviceId cmd.kind fm := by
  rw [DeviceDb.mappingsOf, List.mem_filter, hrows, beq_iff_eq]
  constructor
  · rintro ⟨⟨km, hkm, rfl⟩, hkind⟩
    obtain ⟨cmd', hcmd', hkind', hfm⟩ := (hplan km).mp hkm
    have hsame : cmd'.kind = cmd.kind := hkind'.symm.trans hkind
    obtain ⟨fm', hfm', heq⟩ := hkinds cmd' hcmd' cmd hcmd hsame km.2 hfm
    exact ⟨fm', hfm', by rw [← heq, hkind']⟩
  · rintro ⟨fm, hfm, rfl⟩
    exact ⟨⟨(cmd.kind, fm), (hplan _).mpr ⟨cmd, hcmd, rfl, hfm⟩, rfl⟩, rfl⟩

/-- The database a merge leaves on a fresh device. -/
def mergedDb (deviceId : Str) (model : DeviceModel) : DeviceDb :=
  (model.commands.map fun cmd => (cmd, cmd.id)).foldl (mergeCommand deviceId model) {}

theorem mergeDeviceModel_fresh (I : Interp) (pathDigest : Str → Result Str)
    (h : ∀ cmd ∈ model.commands, KeepsId deviceId cmd) :
    (mergeDeviceModel I pathDigest deviceId model {}).1.db = mergedDb deviceId model ∧
      (mergeDeviceModel I pathDigest deviceId model {}).2 = .ok () := by
  have hzip : model.commands.zip (model.commands.map (·.id)) = model.commands.map fun cmd => (cmd, cmd.id) := by
    rw [List.zip_map_right, List.zip_eq_zipWith, List.zipWith_self, List.map_map]
    rfl
  unfold mergeDeviceModel
  rw [commandPatternIds_of_keepsId h]
  dsimp only
  rw [hzip]
  exact ⟨rfl, rfl⟩

theorem mergedDb_patterns (hids : (model.commands.map (·.id)).Nodup) :
    (mergedDb deviceId model).patterns = model.commands.map mergedRow := by
  rw [mergedDb, mergeCommands_patterns]
  refine (foldl_upsert_fresh ?_ ?_ ?_).trans ?_
  · exact fun _ => rfl
  · rw [List.map_map]
    exact hids
  · exact fun _ _ => List.not_mem_nil
  · rw [List.map_map]
    rfl

theorem mergedDb_templates (hids : (model.commands.map (·.id)).Nodup) :
    (mergedDb deviceId model).templates =
      model.commands.map fun cmd => mergeTemplate (mergedResponse model cmd) (mergedTemplate cmd.id) := by
  rw [mergedDb, mergeCommands_templates]
  refine (foldl_upsert_fresh ?_ ?_ ?_).trans ?_
  · intro cp
    cases mergedResponse model cp.1 <;> rfl
  · rw [List.map_map]
    have hnodup := hids.map templateId_injective
    rwa [List.map_map] at hnodup
  · exact fun _ _ => List.not_mem_nil
  · rw [List.map_map]
    rfl

/-- The template a merge leaves for a command. -/
theorem mergedDb_templateOf (hids : (model.commands.map (·.id)).Nodup) (hcmd : cmd ∈ model.commands) :
    (mergedDb deviceId model).templateOf cmd.id =
      some (mergeTemplate (mergedResponse model cmd) (mergedTemplate cmd.id)) := by
  refine templateOf_eq (model.commands.map fun cmd =>
    (cmd.id, mergeTemplate (mergedResponse model cmd) (mergedTemplate cmd.id))) ?_ ?_ ?_
    (List.mem_map_of_mem hcmd)
  · rw [mergedDb_templates hids, List.map_map]
    rfl
  · intro p hp
    obtain ⟨cmd, _, rfl⟩ := List.mem_map.mp hp
    cases hfound : mergedResponse model cmd <;> rfl
  · rw [List.map_map]
    exact hids

/-! ## The mapping plans -/

theorem mem_mergedPlan {km : Str × FieldMapping} :
    km ∈ mergedPlan model (model.commands.map fun cmd => (cmd, cmd.id)) ↔
      ∃ cmd ∈ model.commands, km.1 = cmd.kind ∧ km.2 ∈ sourcedMappings model cmd := by
  unfold mergedPlan
  rw [List.flatMap_map, List.mem_flatMap]
  constructor
  · rintro ⟨cmd, hcmd, h⟩
    obtain ⟨fm, hfm, rfl⟩ := List.mem_map.mp h
    exact ⟨cmd, hcmd, rfl, hfm⟩
  · rintro ⟨cmd, hcmd, hkind, hfm⟩
    exact ⟨cmd, hcmd, List.mem_map.mpr ⟨km.2, hfm, Prod.ext hkind.symm rfl⟩⟩

/-! ## The two databases -/

/-- The mapping rows an import leaves for a command. -/
theorem importedDb_mappingsOf (hshared : SharesRows deviceId model) (hcmd : cmd ∈ model.commands)
    (row : FieldMappingRow) : row ∈ (importedDb deviceId model).mappingsOf cmd.kind ↔
      ∃ fm ∈ chosenMappings model cmd, row = mappingRow deviceId cmd.kind fm := by
  refine mem_mappingsOf (fun row => ?_) (fun km => mem_plannedMappings) hshared.kinds hcmd row
  rw [importedDb, importPlan_mappings]
  refine mem_plannedRows (fun _ _ => rfl) (fun _ _ => rfl) (fun km hkm km' hkm' hid => ?_) row
  obtain ⟨cmd, hcmd, hkind, hfm⟩ := mem_plannedMappings.mp hkm
  obtain ⟨cmd', hcmd', hkind', hfm'⟩ := mem_plannedMappings.mp hkm'
  rw [hkind, hkind'] at hid ⊢
  exact hshared.ids cmd hcmd cmd' hcmd' _ hfm _ hfm' hid

/-- The mapping rows a merge leaves for a command. -/
theorem mergedDb_mappingsOf (hvalid : validPattern model.toPatternDb = true) (halike : MergesAlike deviceId model)
    (hcmd : cmd ∈ model.commands) (row : FieldMappingRow) : row ∈ (mergedDb deviceId model).mappingsOf cmd.kind ↔
      ∃ fm ∈ chosenMappings model cmd, row = mappingRow deviceId cmd.kind fm := by
  have hplan : ∀ km, km ∈ mergedPlan model (model.commands.map fun cmd => (cmd, cmd.id)) ↔
      ∃ cmd ∈ model.commands, km.1 = cmd.kind ∧ km.2 ∈ chosenMappings model cmd := by
    intro km
    rw [mem_mergedPlan]
    constructor
    · rintro ⟨cmd, hcmd, hkind, hfm⟩
      exact ⟨cmd, hcmd, hkind, (halike.mappings cmd hcmd).1 hfm⟩
    · rintro ⟨cmd, hcmd, hkind, hfm⟩
      exact ⟨cmd, hcmd, hkind, (halike.mappings cmd hcmd).2 hfm⟩
  have htransform : ∀ km ∈ mergedPlan model (model.commands.map fun cmd => (cmd, cmd.id)), km.2.transform ≠ [] := by
    intro km hkm
    obtain ⟨cmd, _, _, hfm⟩ := (hplan km).mp hkm
    exact (chosenMappings_valid hvalid hfm).2
  refine mem_mappingsOf (fun row => ?_) hplan halike.kinds hcmd row
  rw [mergedDb, mergeCommands_mappings]
  refine mem_plannedRows (fun km hkm => mergeMapping_new (htransform km hkm))
    (fun km hkm => mergeMapping_row (htransform km hkm)) (fun km hkm km' hkm' hid => ?_) row
  obtain ⟨cmd, hcmd, hkind, hfm⟩ := (hplan km).mp hkm
  obtain ⟨cmd', hcmd', hkind', hfm'⟩ := (hplan km').mp hkm'
  rw [hkind, hkind'] at hid ⊢
  exact halike.ids cmd hcmd cmd' hcmd' _ hfm _ hfm' hid

/-- The writers agree on the database of a model that merges alike. -/
theorem agree_of_mergesAlike (hvalid : validPattern model.toPatternDb = true)
    (hids : (model.commands.map (·.id)).Nodup) (halike : MergesAlike deviceId model) :
    Agree deviceId model (mergedDb deviceId model) (importedDb deviceId model) where
  patterns := by
    rw [mergedDb_patterns hids, importedDb_patterns hids]
    refine List.map_congr_left fun cmd hcmd => ?_
    have hstored := halike.commands cmd hcmd
    exact (mergedRow_eq_iff model cmd).mpr ⟨hstored.protocol, hstored.path⟩
  templates := by
    intro cmd hcmd
    obtain ⟨resp, hresp⟩ := Option.isSome_iff_exists.mp (halike.commands cmd hcmd).answered
    have hcontent := (halike.commands cmd hcmd).content
    refine ⟨?_, importedDb_templateOf hids hcmd⟩
    rw [hresp] at hcontent ⊢
    rw [mergedDb_templateOf hids hcmd, (mergeTemplate_eq_iff cmd.id _ resp).mpr hcontent]
    rfl
  mappings := fun _ hcmd row =>
    ⟨mergedDb_mappingsOf hvalid halike hcmd row, importedDb_mappingsOf halike.toSharesRows hcmd row⟩

/-- A model the writers agree on shares its rows. -/
theorem sharesRows_of_agree (hvalid : validPattern model.toPatternDb = true)
    (hids : (model.commands.map (·.id)).Nodup)
    (hagree : Agree deviceId model (mergedDb deviceId model) (importedDb deviceId model)) :
    SharesRows deviceId model where
  commands := by
    intro cmd hcmd
    have hpatterns := hagree.patterns
    rw [mergedDb_patterns hids, importedDb_patterns hids] at hpatterns
    obtain ⟨hprotocol, hpath⟩ := (mergedRow_eq_iff model cmd).mp (List.map_inj_left.mp hpatterns cmd hcmd)
    have htemplate := (hagree.templates cmd hcmd).1
    rw [mergedDb_templateOf hids hcmd] at htemplate
    obtain ⟨resp, hresp, hrow⟩ := Option.map_eq_some_iff.mp htemplate.symm
    refine ⟨hprotocol, hpath, hresp ▸ rfl, ?_⟩
    rw [hresp]
    exact (mergeTemplate_eq_iff cmd.id _ resp).mp hrow.symm
  ids := by
    intro cmd hcmd cmd' hcmd' fm hfm fm' hfm' hid
    have hstored : Stored deviceId (importedDb deviceId model) :=
      (wellFormed_empty deviceId).toStored.importPlan _ (planValid_of_validPattern hvalid)
    have hrow := (List.mem_filter.mp (((hagree.mappings cmd hcmd _).2).mpr ⟨fm, hfm, rfl⟩)).1
    have hrow' := (List.mem_filter.mp (((hagree.mappings cmd' hcmd' _).2).mpr ⟨fm', hfm', rfl⟩)).1
    exact List.inj_on_of_nodup_map hstored.mappingIds hrow hrow' hid
  kinds := by
    intro cmd hcmd cmd' hcmd' hkind fm hfm
    have hrow := ((hagree.mappings cmd hcmd _).2).mpr ⟨fm, hfm, rfl⟩
    rw [hkind] at hrow
    exact hkind ▸ ((hagree.mappings cmd' hcmd' _).2).mp hrow

end

/-- **On a fresh device, a merge and an import of a valid model agree where it merges alike; and every model
    they agree on shares its rows.** -/
theorem merge_agrees_with_import (I : Interp) (pathDigest : Str → Result Str) (deviceId : Str) (model : DeviceModel)
    (hvalid : validPattern model.toPatternDb = true) (hids : (model.commands.map (·.id)).Nodup)
    (hforeign : ∀ cmd ∈ model.commands, cmd.id.startsWith deviceId = false) :
    ∃ merged imported, mergeDeviceModel I pathDigest deviceId model {} = (merged, .ok ()) ∧
      importDeviceModel I deviceId model {} = .ok imported ∧
      (MergesAlike deviceId model → Agree deviceId model merged.db imported.db) ∧
      (Agree deviceId model merged.db imported.db → SharesRows deviceId model) := by
  have hkeeps : ∀ cmd ∈ model.commands, KeepsId deviceId cmd := fun cmd hcmd =>
    ⟨command_id_ne hvalid hcmd, startsWith_append_eq_false (hforeign cmd hcmd)⟩
  obtain ⟨hmerged, hok⟩ := mergeDeviceModel_fresh I pathDigest hkeeps
  obtain ⟨imported, himport, himported⟩ := importDeviceModel_fresh I deviceId hvalid
  refine ⟨_, imported, Prod.ext rfl hok, himport, ?_⟩
  rw [hmerged, himported]
  exact ⟨agree_of_mergesAlike hvalid hids, sharesRows_of_agree hvalid hids⟩

instance (model : DeviceModel) (cmd : Command) : Decidable (StoredAlike model cmd) :=
  decidable_of_iff (orStr cmd.protocol "http" = orStr model.protocol.protocol "http" ∧
      orStr cmd.path (orStr cmd.pathPattern cmd.topic) = orStr cmd.pathPattern (orStr cmd.path cmd.topic) ∧
      (chosenResponse model cmd).isSome = true ∧
      templateContent (mergedResponse model cmd) = templateContent (chosenResponse model cmd))
    ⟨fun h => ⟨h.1, h.2.1, h.2.2.1, h.2.2.2⟩, fun h => ⟨h.protocol, h.path, h.answered, h.content⟩⟩

/-- A lamp with two commands, each answered by a response of its kind. -/
def lampModel : DeviceModel where
  patternMeta := { patternId := "lamp", vendor := "acme", deviceType := "light" }
  protocol := { protocol := "http" }
  commands := [{ id := "on", kind := "turn_on", path := "/on", pathPattern := "/on" },
    { id := "level", kind := "set_level", path := "/level" }]
  responses := [{ id := "r1", triggers := [str "turn_on"] },
    { id := "r2", triggers := [str "set_level"], bodyTemplate := [(str "ok", .bool true)]
      fieldMappings := [{ source := "body.level", target := "level" }] }]

/-- Both writers store the lamp alike. -/
theorem lampModel_agrees : ∃ merged imported,
    mergeDeviceModel asciiInterp .ok "dev" lampModel {} = (merged, .ok ()) ∧
      importDeviceModel asciiInterp "dev" lampModel {} = .ok imported ∧
      Agree "dev" lampModel merged.db imported.db := by
  obtain ⟨merged, imported, hmerge, himport, hagree, _⟩ := merge_agrees_with_import asciiInterp .ok "dev" lampModel
    (by decide +kernel) (by decide +kernel) (by decide +kernel)
  refine ⟨merged, imported, hmerge, himport, hagree ⟨⟨?_, ?_, ?_⟩, ?_⟩⟩
  · decide +kernel
  · decide +kernel
  · decide +kernel
  · unfold List.instHasSubset
    decide +kernel

/-- A lamp whose response names the command's id only. -/
def byIdModel : DeviceModel where
  patternMeta := { patternId := "lamp", vendor := "acme", deviceType := "light" }
  commands := [{ id := "on", kind := "turn_on", path := "/on" }]
  responses := [{ id := "r1", triggers := [str "on"], statusCode := 204 }]

/-- A merge misses the response an import finds by the command's id. -/
theorem byIdModel_disagrees : ¬ ∀ (I : Interp) (pathDigest : Str → Result Str) (deviceId : Str)
    (model : DeviceModel) (merged imported : Device), validPattern model.toPatternDb = true →
      (model.commands.map (·.id)).Nodup → (∀ cmd ∈ model.commands, cmd.id.startsWith deviceId = false) →
      mergeDeviceModel I pathDigest deviceId model {} = (merged, .ok ()) →
      importDeviceModel I deviceId model {} = .ok imported → Agree deviceId model merged.db imported.db := by
  intro h
  have hvalid : validPattern byIdModel.toPatternDb = true := by decide +kernel
  have hkeeps : ∀ cmd ∈ byIdModel.commands, KeepsId "dev" cmd := by
    unfold KeepsId
    decide +kernel
  obtain ⟨hmerged, hok⟩ := mergeDeviceModel_fresh asciiInterp .ok hkeeps
  obtain ⟨imported, himport, _⟩ := importDeviceModel_fresh asciiInterp "dev" hvalid
  have hagree := h asciiInterp .ok "dev" byIdModel (mergeDeviceModel asciiInterp .ok "dev" byIdModel {}).1 imported hvalid (by decide +kernel) (by decide +kernel)
    (Prod.ext rfl hok) himport
  have htemplate := (hagree.templates _ (List.mem_singleton_self _)).1
  rw [hmerged] at htemplate
  exact absurd htemplate (by decide +kernel)

end RideTheApi.PatternDb
