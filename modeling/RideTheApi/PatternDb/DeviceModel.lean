import RideTheApi.PatternDb.Export
import RideTheApi.PatternDb.Header

/-!
# `PatternDb.DeviceModel` — exporting, importing and merging device models

A device is its pattern tables and its header. An export reads both; an import writes the tables through
the v1 projection of the model and then the header; a merge writes the header first and then upserts the
rows by ids of its own. Both writers leave rows that read back and a header with one whitelisted protocol
(`DeviceInv`).
-/

namespace RideTheApi.PatternDb

open Py KeyedTable

/-- What is stored of a device. -/
structure Device where
  db : DeviceDb := {}
  header : Option DeviceMeta := none
deriving Repr, DecidableEq

/-! ## Export -/

/-- The state variables and sensors of a device: the header's, else those applied in memory. -/
def stateConfig (header : Option DeviceMeta) (applied : Option (List StateVariable × List VirtualSensor)) :
    List StateVariable × List VirtualSensor :=
  match header with
  | some m =>
    if m.stateVariables ≠ [] ∨ m.virtualSensors ≠ [] then (m.stateVariables, m.virtualSensors)
    else applied.getD ([], [])
  | none => applied.getD ([], [])

/-- The command of a pattern row. -/
def exportCommand (pat : RequestPattern) : Result Command := do
  let required ← toStrList (pat.requiredHeaders.orElse (.arr []))
  let queryParams ← toStrList (pat.queryParamKeys.orElse (.arr []))
  let bodySchema ← toOptDict (pat.bodySchema.orElse .null)
  .ok { id := pat.patternId
        kind := orStr pat.intent pat.patternId
        protocol := orStr pat.protocol "http"
        method := orStr pat.method "GET"
        path := pat.pathPattern
        pathPattern := pat.pathPattern
        headers := [(str "required", required)]
        queryParams
        bodySchema }

/-- The triggers of a response of a device model: the intent only when there is one. -/
def commandTriggers (pat : RequestPattern) : List Str :=
  if pat.intent.isEmpty then [pat.patternId] else [pat.patternId, pat.intent]

/-- The identification a header stands for. -/
def exportProtocol : Option DeviceMeta → ProtocolInfo
  | none   => {}
  | some m =>
    { protocol := m.protocols.headD []
      handler := m.connectionMode
      transport := m.transport
      security := m.security
      proprietary := m.proprietary
      identity := orStr m.identity m.model
      ports := m.ports
      confidence := m.confidence }

/-- Export the device model of a device. -/
def exportDeviceModel (deviceId vendor deviceType : Str)
    (applied : Option (List StateVariable × List VirtualSensor)) (device : Device) : Result DeviceModel := do
  let commands ← device.db.patterns.mapM exportCommand
  let responses ← device.db.patterns.mapM (exportResponse commandTriggers device.db)
  .ok { patternMeta :=
          { patternId := deviceId ++ str "-patterns"
            vendor := orStr vendor "unknown"
            deviceType := orStr deviceType "unknown"
            model := (device.header.map (·.model)).getD [] }
        protocol := exportProtocol device.header
        commands
        responses := responses.reduceOption
        interactions := responses.reduceOption.flatMap (·.fieldMappings)
        stateVariables := (stateConfig device.header applied).1
        virtualSensors := (stateConfig device.header applied).2 }

/-! ## Import -/

/-- The header an import writes. -/
def importedHeader (model : DeviceModel) : DeviceMeta where
  protocols := if model.protocol.protocol.isEmpty then [] else [model.protocol.protocol]
  connectionMode := orStr model.protocol.handler "auto"
  vendor := model.patternMeta.vendor
  deviceType := model.patternMeta.deviceType
  model := orStr model.protocol.identity model.patternMeta.model
  transport := model.protocol.transport
  security := model.protocol.security
  proprietary := model.protocol.proprietary
  identity := model.protocol.identity
  ports := model.protocol.ports
  confidence := model.protocol.confidence
  stateVariables := model.stateVariables
  virtualSensors := model.virtualSensors

/-- Import a device model: the tables first (which validates), then the header. -/
def importDeviceModel (I : Interp) (deviceId : Str) (model : DeviceModel) (device : Device) : Result Device :=
  (importPatterns deviceId model.toPatternDb device.db).map fun db =>
    { db, header := some ((importedHeader model).validate I) }

/-! ## Merge -/

/-- Truthiness of a float, by its bit pattern. -/
def floatTruthy (x : BitVec 64) : Bool := x != 0 && x != 0x8000000000000000#64

/-- The header after a merge: only what the delta carries overwrites, and a settled ingress decision
    stays. -/
def mergedHeader (I : Interp) (model : DeviceModel) (current : DeviceMeta) : DeviceMeta :=
  let merged :=
    if model.protocol.protocol.isEmpty then current
    else
      { current with
        vendor := orStr model.patternMeta.vendor current.vendor
        deviceType := orStr model.patternMeta.deviceType current.deviceType
        protocols :=
          match normalizeProtocol I model.protocol.protocol with
          | some protocol => if current.protocols.any (fun p => !p.isEmpty) then current.protocols else [protocol]
          | none          => current.protocols
        connectionMode :=
          match normalizeConnectionMode I model.protocol.handler with
          | some mode => if orStr current.connectionMode "auto" = str "auto" then mode else current.connectionMode
          | none      => current.connectionMode
        model := orStr model.protocol.identity current.model
        transport := orStr model.protocol.transport current.transport
        security := orStr model.protocol.security current.security
        proprietary := model.protocol.proprietary || current.proprietary
        identity := orStr model.protocol.identity current.identity
        ports := if model.protocol.ports.isEmpty then current.ports else model.protocol.ports
        confidence :=
          if floatTruthy model.protocol.confidence then model.protocol.confidence else current.confidence }
  { merged with
    stateVariables := if model.stateVariables.isEmpty then merged.stateVariables else model.stateVariables
    virtualSensors := if model.virtualSensors.isEmpty then merged.virtualSensors else model.virtualSensors }

/-- The path of a command, as a merge reads it. -/
def commandPath (cmd : Command) : Str := orStr cmd.path (orStr cmd.pathPattern cmd.topic)

/-- The pattern id of a command: its own, or one made of the device, the kind and a digest of the path. The
    digest of a text that has no UTF-8 form raises. -/
def commandPatternId (pathDigest : Str → Result Str) (deviceId : Str) (cmd : Command) : Result Str :=
  if cmd.id ≠ [] ∧ !cmd.id.startsWith (deviceId ++ str "_") then .ok cmd.id
  else (pathDigest (commandPath cmd)).map fun digest =>
    deviceId ++ (str "_" ++ (cmd.kind ++ (str "_" ++ digest.take 8)))

/-- The response of a command, as a merge finds it: the first that triggers on its kind. -/
def mergedResponse (model : DeviceModel) (cmd : Command) : Option ServerResponse :=
  model.responses.find? fun resp => resp.triggers.contains cmd.kind

/-- What a merge stores in the row of a command. -/
def mergePattern (cmd : Command) (row : RequestPattern) : RequestPattern :=
  { row with
    method := orStr cmd.method "GET"
    pathPattern := orStr (commandPath cmd) row.pathPattern
    protocol := orStr cmd.protocol "http"
    requiredHeaders := ofStrList ((Dict.get? cmd.headers (str "required")).getD [])
    bodySchema := .obj (cmd.bodySchema.getD [])
    queryParamKeys := ofStrList cmd.queryParams
    intent := cmd.kind }

/-- What a merge stores in the template of a command: nothing new without a response. -/
def mergeTemplate : Option ServerResponse → ResponseTemplate → ResponseTemplate
  | none,      row => row
  | some resp, row => storeTemplate resp row

/-- A template a merge adds: `200` with an empty body until a response fills it. -/
def mergedTemplate (patternId : Str) : ResponseTemplate := { newTemplate patternId with statusCode := 200 }

/-- What a merge stores in a mapping row: the source and the intent of an existing row stay. -/
def mergeMapping (fm : FieldMapping) (row : FieldMappingRow) : FieldMappingRow :=
  { row with
    responseField := orStr fm.target row.responseField
    transform := some (orStr fm.transform "direct")
    formula := storedFormula fm.formula
    enumValues := ofOptDict fm.mapping }

/-- A mapping row a merge adds. -/
def mergedMapping (deviceId kind : Str) (fm : FieldMapping) : FieldMappingRow :=
  { newMapping (mappingId deviceId kind fm.source) with requestField := fm.source, intent := kind }

/-- The field mappings a merge writes for a command: its response's, else the model's interactions. -/
def mergedMappings (model : DeviceModel) (cmd : Command) : List FieldMapping :=
  match (((mergedResponse model cmd).map (·.fieldMappings)).getD []) with
  | []  => model.interactions
  | fms => fms

/-- Upsert one mapping of a command; one without a source is left out. -/
def mergeCommandMapping (deviceId kind : Str) (db : DeviceDb) (fm : FieldMapping) : DeviceDb :=
  if fm.source.isEmpty then db
  else
    { db with
      mappings := upsert (·.mappingId) (mappingId deviceId kind fm.source) (mergedMapping deviceId kind fm)
        (mergeMapping fm) db.mappings }

/-- Upsert the rows of one command under its pattern id. -/
def mergeCommand (deviceId : Str) (model : DeviceModel) (db : DeviceDb) (planned : Command × Str) : DeviceDb :=
  (mergedMappings model planned.1).foldl (mergeCommandMapping deviceId planned.1.kind)
    { db with
      patterns := upsert (·.patternId) planned.2 (newPattern planned.2) (mergePattern planned.1) db.patterns
      templates := upsert (·.templateId) (templateId planned.2) (mergedTemplate planned.2)
        (mergeTemplate (mergedResponse model planned.1)) db.templates }

/-- Merge a device model: the header first, then the rows. The ids are all computed before a row is written,
    so a command without one leaves the tables alone. -/
def mergeDeviceModel (I : Interp) (pathDigest : Str → Result Str) (deviceId : Str) (model : DeviceModel)
    (device : Device) : Device × Result Unit :=
  let header := some ((mergedHeader I model (device.header.getD {})).validate I)
  match model.commands.mapM (commandPatternId pathDigest deviceId) with
  | .ok ids  => ({ db := (model.commands.zip ids).foldl (mergeCommand deviceId model) device.db, header }, .ok ())
  | .error e => ({ device with header }, .error e)

/-! ## Runs -/

/-- A write of a device model to a device. -/
inductive ModelWrite where
  | imports (model : DeviceModel)
  | merges (model : DeviceModel)
deriving Repr, DecidableEq

/-- One write as a step; an import that is refused is not one. -/
def writeStep (I : Interp) (pathDigest : Str → Result Str) (deviceId : Str) (device : Device) :
    ModelWrite → Option Device
  | .imports model => (importDeviceModel I deviceId model device).toOption
  | .merges model  => some (mergeDeviceModel I pathDigest deviceId model device).1

/-! ## Triggers -/

/-- The responses of a device model trigger on the id and the intent. -/
theorem contains_commandTriggers {trigger : Str} (htrigger : trigger ≠ []) (pat : RequestPattern) :
    (commandTriggers pat).contains trigger = (pat.patternId == trigger || pat.intent == trigger) := by
  unfold commandTriggers
  cases hintent : pat.intent with
  | nil =>
    have hempty : (([] : Str) == trigger) = false := by
      rw [beq_eq_false_iff_ne]
      exact htrigger.symm
    show [pat.patternId].contains trigger = (pat.patternId == trigger || ([] : Str) == trigger)
    rw [hempty, List.contains_cons, List.contains_nil, Bool.or_false, Bool.or_false, BEq.comm]
  | cons c cs =>
    have hpat := contains_patternTriggers trigger pat
    unfold patternTriggers at hpat
    rw [hintent] at hpat
    exact hpat

/-! ## What a merge does to the tables -/

/-- The field mappings a merge writes, each with the kind it is stored under. -/
def mergedPlan (model : DeviceModel) (planned : List (Command × Str)) : List (Str × FieldMapping) :=
  planned.flatMap fun cp =>
    ((mergedMappings model cp.1).filter fun fm => !fm.source.isEmpty).map (Prod.mk cp.1.kind)

section
variable {I : Interp} {pathDigest : Str → Result Str} {deviceId : Str} {model : DeviceModel} {db : DeviceDb}
  {device : Device}

theorem mergeCommandMappings_eq (kind : Str) (fms : List FieldMapping) :
    fms.foldl (mergeCommandMapping deviceId kind) db =
      { db with
        mappings := ((fms.filter fun fm => !fm.source.isEmpty).map (Prod.mk kind)).foldl (fun rows km =>
          upsert (·.mappingId) (mappingId deviceId km.1 km.2.source) (mergedMapping deviceId km.1 km.2)
            (mergeMapping km.2) rows) db.mappings } := by
  induction fms generalizing db with
  | nil => rfl
  | cons fm fms ih =>
    rw [List.foldl_cons, ih, mergeCommandMapping]
    cases hsource : fm.source.isEmpty with
    | true =>
      rw [List.filter_cons_of_neg (by simp [hsource])]
      rfl
    | false =>
      rw [List.filter_cons_of_pos (by simp [hsource])]
      rfl

theorem mergeCommands_patterns (planned : List (Command × Str)) :
    (planned.foldl (mergeCommand deviceId model) db).patterns =
      planned.foldl (fun rows cp => upsert (·.patternId) cp.2 (newPattern cp.2) (mergePattern cp.1) rows)
        db.patterns := by
  induction planned generalizing db with
  | nil => rfl
  | cons cp planned ih =>
    rw [List.foldl_cons, ih, mergeCommand, mergeCommandMappings_eq]
    rfl

theorem mergeCommands_templates (planned : List (Command × Str)) :
    (planned.foldl (mergeCommand deviceId model) db).templates =
      planned.foldl (fun rows cp => upsert (·.templateId) (templateId cp.2) (mergedTemplate cp.2)
        (mergeTemplate (mergedResponse model cp.1)) rows) db.templates := by
  induction planned generalizing db with
  | nil => rfl
  | cons cp planned ih =>
    rw [List.foldl_cons, ih, mergeCommand, mergeCommandMappings_eq]
    rfl

theorem mergeCommands_mappings (planned : List (Command × Str)) :
    (planned.foldl (mergeCommand deviceId model) db).mappings =
      (mergedPlan model planned).foldl (fun rows km => upsert (·.mappingId)
        (mappingId deviceId km.1 km.2.source) (mergedMapping deviceId km.1 km.2) (mergeMapping km.2) rows)
        db.mappings := by
  induction planned generalizing db with
  | nil => rfl
  | cons cp planned ih =>
    have hplanned : mergedPlan model (cp :: planned) =
        ((mergedMappings model cp.1).filter fun fm => !fm.source.isEmpty).map (Prod.mk cp.1.kind) ++
          mergedPlan model planned := rfl
    rw [List.foldl_cons, ih, hplanned, List.foldl_append, mergeCommand, mergeCommandMappings_eq]

/-- A command's pattern id is not empty. -/
theorem commandPatternId_ne {cmd : Command} {id : Str} (h : commandPatternId pathDigest deviceId cmd = .ok id) :
    id ≠ [] := by
  unfold commandPatternId at h
  split at h
  next hid =>
    cases h
    exact hid.1
  next =>
    obtain ⟨digest, _, rfl⟩ := Except.map_ok_iff.mp h
    simp [str]

/-- The ids of the commands of a merge are not empty. -/
theorem commandPatternIds_ne {cmds : List Command} {ids : List Str}
    (h : cmds.mapM (commandPatternId pathDigest deviceId) = .ok ids) : ∀ id ∈ ids, id ≠ [] := by
  induction cmds generalizing ids with
  | nil =>
    cases h
    simp
  | cons cmd cmds ih =>
    rw [List.mapM_cons] at h
    obtain ⟨id, hid, h⟩ := Except.bind_ok_iff.mp h
    obtain ⟨rest, hrest, h⟩ := Except.bind_ok_iff.mp h
    cases h
    intro id' hmem
    rcases List.mem_cons.mp hmem with rfl | hmem
    · exact commandPatternId_ne hid
    · exact ih hrest id' hmem

/-- The mappings a merge writes have a source. -/
theorem source_ne_of_merged {planned : List (Command × Str)} {km : Str × FieldMapping}
    (h : km ∈ mergedPlan model planned) : km.2.source ≠ [] := by
  obtain ⟨cp, _, h⟩ := List.mem_flatMap.mp h
  obtain ⟨fm, hfm, rfl⟩ := List.mem_map.mp h
  simpa using (List.mem_filter.mp hfm).2

theorem mergeTemplate_wellTyped {row : ResponseTemplate} (resp : Option ServerResponse) (h : row.WellTyped) :
    (mergeTemplate resp row).WellTyped := by
  cases resp with
  | none => exact h
  | some resp => exact ⟨⟨_, rfl⟩, ⟨_, rfl⟩, ⟨_, rfl⟩, h.named⟩

theorem mergedTemplate_wellTyped (patternId : Str) : (mergedTemplate patternId).WellTyped :=
  ⟨⟨[], rfl⟩, ⟨[], rfl⟩, ⟨[], rfl⟩, rfl⟩

/-- **A merge keeps a database stored.** -/
theorem Stored.mergeCommands (h : Stored deviceId db) (planned : List (Command × Str))
    (hids : ∀ cp ∈ planned, cp.2 ≠ []) :
    Stored deviceId (planned.foldl (mergeCommand deviceId model) db) where
  patterns := by
    rw [mergeCommands_patterns]
    refine forall_foldl_upsert h.patterns (fun cp _ row _ hrow => ?_) fun cp hcp => ?_
    · exact ⟨⟨_, rfl⟩, ⟨_, rfl⟩, ⟨_, rfl⟩, hrow.patternId⟩
    · exact ⟨⟨_, rfl⟩, ⟨_, rfl⟩, ⟨_, rfl⟩, hids cp hcp⟩
  templates := by
    rw [mergeCommands_templates]
    refine forall_foldl_upsert h.templates (fun cp _ row _ hrow => ?_) fun cp _ => ?_
    · exact mergeTemplate_wellTyped _ hrow
    · exact mergeTemplate_wellTyped _ (mergedTemplate_wellTyped cp.2)
  mappings := by
    rw [mergeCommands_mappings]
    refine forall_foldl_upsert h.mappings (fun km _ row _ hrow => ?_) fun km hkm => ?_
    · exact ⟨hrow.requestField, ⟨_, rfl⟩, hrow.named⟩
    · exact ⟨source_ne_of_merged hkm, ⟨_, rfl⟩, rfl⟩
  patternIds := by
    rw [mergeCommands_patterns]
    exact nodup_foldl_upsert (fun _ _ h => h) (fun _ => rfl) h.patternIds
  templateIds := by
    rw [mergeCommands_templates]
    refine nodup_foldl_upsert (fun cp row hrow => ?_) (fun _ => rfl) h.templateIds
    cases mergedResponse model cp.1 <;> exact hrow
  mappingIds := by
    rw [mergeCommands_mappings]
    exact nodup_foldl_upsert (fun _ _ h => h) (fun _ => rfl) h.mappingIds

/-! ## What runs of writes keep -/

/-- What every run of imports and merges keeps: rows that read back and have a method, and a header with
    one whitelisted protocol (or the empty one) and a whitelisted mode. -/
structure DeviceInv (deviceId : Str) (device : Device) : Prop where
  stored : Stored deviceId device.db
  methods : ∀ pat ∈ device.db.patterns, pat.method ≠ []
  protocol : ∀ m ∈ device.header, ∃ p, m.protocols = [p] ∧ (p = [] ∨ p ∈ safeProtocols)
  mode : ∀ m ∈ device.header, m.connectionMode ∈ safeConnectionModes

theorem deviceInv_empty (deviceId : Str) : DeviceInv deviceId {} where
  stored := (wellFormed_empty deviceId).toStored
  methods := by simp
  protocol := by simp
  mode := by simp

theorem orStr_ne {a b : Str} (h : b ≠ []) : orStr a b ≠ [] := by
  cases a with
  | nil => exact h
  | cons c cs => exact List.cons_ne_nil c cs

/-- A whitelisted list that was one protocol, or none, is one safe protocol or the empty one. -/
theorem whitelistedProtocols_le_one (I : Interp) {ps : List Str} (h : ps = [] ∨ ∃ p, ps = [p]) :
    ∃ p, whitelistedProtocols I ps = [p] ∧ (p = [] ∨ p ∈ safeProtocols) := by
  rcases h with rfl | ⟨p, rfl⟩
  · exact ⟨[], rfl, .inl rfl⟩
  · exact ⟨_, whitelistedProtocols_of_one I p, whitelistedProtocols_single (whitelistedProtocols_of_one I p)⟩

/-- A merged header names at most one protocol if the current one does. -/
theorem mergedHeader_protocols (I : Interp) (model : DeviceModel) {current : DeviceMeta}
    (h : ∃ p, current.protocols = [p]) :
    ∃ p, (mergedHeader I model current).protocols = [p] := by
  unfold mergedHeader
  dsimp only
  split
  · exact h
  · split
    · split
      · exact h
      · exact ⟨_, rfl⟩
    · exact h

theorem DeviceInv.header_single (h : DeviceInv deviceId device) : ∃ p, (device.header.getD {}).protocols = [p] := by
  cases hheader : device.header with
  | none => exact ⟨_, rfl⟩
  | some m =>
    obtain ⟨p, hp, _⟩ := h.protocol m hheader
    exact ⟨p, hp⟩

theorem DeviceInv.import {device' : Device} (h : DeviceInv deviceId device)
    (hok : importDeviceModel I deviceId model device = .ok device') : DeviceInv deviceId device' := by
  obtain ⟨db, hdb, rfl⟩ := Except.map_ok_iff.mp hok
  obtain ⟨hvalid, rfl⟩ := importPatterns_ok_iff.mp hdb
  have hplan := planValid_of_validPattern hvalid
  refine ⟨h.stored.importPlan _ hplan, ?_, ?_, ?_⟩
  · refine forall_patterns_importPlan _ h.methods fun planned hp row => ?_
    obtain ⟨ep, hep, rfl⟩ := List.mem_map.mp hp
    obtain ⟨cmd, _, rfl⟩ := List.mem_map.mp hep
    exact orStr_ne (by decide)
  · intro m hm
    cases hm
    refine whitelistedProtocols_le_one I ?_
    unfold importedHeader
    dsimp only
    by_cases hempty : model.protocol.protocol.isEmpty = true
    · exact .inl (if_pos hempty)
    · exact .inr ⟨_, if_neg hempty⟩
  · intro m hm
    cases hm
    exact whitelistedConnectionMode_safe

theorem DeviceInv.merge (h : DeviceInv deviceId device) :
    DeviceInv deviceId (mergeDeviceModel I pathDigest deviceId model device).1 := by
  have hprotocol : ∀ m ∈ some ((mergedHeader I model (device.header.getD {})).validate I),
      ∃ p, m.protocols = [p] ∧ (p = [] ∨ p ∈ safeProtocols) := by
    intro m hm
    cases hm
    obtain ⟨p, hp⟩ := mergedHeader_protocols I model h.header_single
    exact whitelistedProtocols_le_one I (.inr ⟨p, hp⟩)
  have hmode : ∀ m ∈ some ((mergedHeader I model (device.header.getD {})).validate I),
      m.connectionMode ∈ safeConnectionModes := by
    intro m hm
    cases hm
    exact whitelistedConnectionMode_safe
  unfold mergeDeviceModel
  dsimp only
  split
  next ids hids =>
    have hne : ∀ cp ∈ model.commands.zip ids, cp.2 ≠ [] := fun cp hcp =>
      commandPatternIds_ne hids cp.2 (List.of_mem_zip hcp).2
    refine ⟨h.stored.mergeCommands _ hne, ?_, hprotocol, hmode⟩
    show ∀ pat ∈ ((model.commands.zip ids).foldl (mergeCommand deviceId model) device.db).patterns, _
    rw [mergeCommands_patterns]
    refine forall_foldl_upsert h.methods (fun cp _ row _ _ => ?_) fun cp _ => ?_
    · exact orStr_ne (by decide)
    · exact orStr_ne (by decide)
  next => exact ⟨h.stored, h.methods, hprotocol, hmode⟩

/-- **Every run of imports and merges keeps the invariant.** -/
theorem deviceInv_of_reaches (h : Transition.Reaches (writeStep I pathDigest deviceId) {} device) :
    DeviceInv deviceId device := by
  refine h.invariant (deviceInv_empty deviceId) fun s write s' hs _ hstep => ?_
  cases write with
  | imports model =>
    have hstep : (importDeviceModel I deviceId model s).toOption = some s' := hstep
    cases hok : importDeviceModel I deviceId model s with
    | error e =>
      rw [hok] at hstep
      cases hstep
    | ok s₁ =>
      rw [hok] at hstep
      cases hstep
      exact hs.import hok
  | merges model =>
    cases hstep
    exact hs.merge

end

end RideTheApi.PatternDb
