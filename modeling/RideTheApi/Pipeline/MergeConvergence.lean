import RideTheApi.Lib.Overwrite
import RideTheApi.PatternDb.DeviceModel
import RideTheApi.Pipeline.HeaderStability
import RideTheApi.Pipeline.LearnedRows

/-!
# `Pipeline.MergeConvergence` — merging a device-model delta again

A merge writes every column of its rows, the header and the counters. What it writes to a row and to the header
keeps a column or sets it to what the delta says, so the second merge of a delta finds them as it would leave
them. The counters count every command, new or not, so they only stay where there is none.
-/

namespace RideTheApi.MergeConvergence

open Py PatternDb SavePatterns KeyedTable

/-! ## The merge, with every column -/

/-- A delta: a device model, with the confidence of each of its commands. -/
structure Delta where
  model : DeviceModel
  confidences : List (BitVec 64)
  paired : confidences.length = model.commands.length

/-- A command with its pattern id and its confidence. -/
structure Planned where
  cmd : Command
  patternId : Str
  confidence : BitVec 64
deriving Repr, DecidableEq

/-- What is stored of a device, with every column. -/
structure LearnedDevice where
  db : LearnedDb := {}
  header : Option DeviceMeta := none
deriving Repr, DecidableEq

/-- What the export reads of a device. -/
def LearnedDevice.device (device : LearnedDevice) : Device where
  db := device.db.tables
  header := device.header

/-- What a merge stores in the row of a command. -/
def mergePatternRow (planned : Planned) (row : PatternRow) : PatternRow :=
  { row with
    toRequestPattern := mergePattern planned.cmd row.toRequestPattern
    confidence := planned.confidence }

/-- The variables a response is expected to fill: the targets under `result`. -/
def expectedVariables (resp : ServerResponse) : Json :=
  ofStrList ((resp.fieldMappings.map (·.target)).filter (·.startsWith "result."))

/-- What a merge stores in the template of a command. -/
def mergeTemplateRow (resp : Option ServerResponse) (row : TemplateRow) : TemplateRow :=
  { row with
    toResponseTemplate := mergeTemplate resp row.toResponseTemplate
    expectedVariables := (resp.map expectedVariables).getD row.expectedVariables }

/-- What a merge stores in a mapping row. -/
def mergeMappingRow (fm : FieldMapping) (row : MappingRow) : MappingRow :=
  { row with toFieldMappingRow := mergeMapping fm row.toFieldMappingRow }

/-- The rows a merge adds. -/
def addedPattern (patternId : Str) : PatternRow := { newPattern patternId with confidence := defaultConfidence }

def addedTemplate (patternId : Str) : TemplateRow :=
  { mergedTemplate patternId with expectedVariables := .arr [], confidence := defaultConfidence }

def addedMapping (deviceId kind : Str) (fm : FieldMapping) : MappingRow :=
  { mergedMapping deviceId kind fm with
    requestType := "string", responseType := "string", confidence := defaultConfidence }

section
variable (I : Interp) (pathDigest : Str → Result Str) (deviceId : Str)

/-- Upsert one mapping of a command; one without a source is left out. -/
def mergeLearnedMapping (kind : Str) (db : LearnedDb) (fm : FieldMapping) : LearnedDb :=
  if fm.source.isEmpty then db
  else
    { db with
      mappings := upsert (·.mappingId) (mappingId deviceId kind fm.source) (addedMapping deviceId kind fm)
        (mergeMappingRow fm) db.mappings }

/-- Upsert the rows of one command under its pattern id. -/
def mergeLearnedCommand (model : DeviceModel) (db : LearnedDb) (planned : Planned) : LearnedDb :=
  (mergedMappings model planned.cmd).foldl (mergeLearnedMapping deviceId planned.cmd.kind)
    { db with
      patterns := upsert (·.patternId) planned.patternId (addedPattern planned.patternId) (mergePatternRow planned)
        db.patterns
      templates := upsert (·.templateId) (templateId planned.patternId) (addedTemplate planned.patternId)
        (mergeTemplateRow (mergedResponse model planned.cmd)) db.templates }

/-- The commands of a delta with their ids, which are all computed before a row is written. A path without a
    digest has none. -/
def planOf (delta : Delta) : Result (List Planned) :=
  (delta.model.commands.mapM (commandPatternId pathDigest deviceId)).map fun ids =>
    List.zipWith (fun ci confidence => ⟨ci.1, ci.2, confidence⟩) (delta.model.commands.zip ids) delta.confidences

/-- The counters after a merge: one more for every command, new or not. -/
def mergedCounters (updated : Nat) (counters : Option LearnedCounters) : LearnedCounters where
  patternsLearned := (counters.getD {}).patternsLearned + updated
  templatesCreated := (counters.getD {}).templatesCreated + updated

/-- The tables after the commands of a merge. -/
def mergeLearnedCommands (model : DeviceModel) (plan : List Planned) (db : LearnedDb) : LearnedDb :=
  { plan.foldl (mergeLearnedCommand deviceId model) db with counters := some (mergedCounters plan.length db.counters) }

/-- `merge_device_model`: the header first, then the rows and the counters in one transaction. -/
def mergeDelta (delta : Delta) (device : LearnedDevice) : LearnedDevice × Result Unit :=
  let header := some ((mergedHeader I delta.model (device.header.getD {})).validate I)
  match planOf pathDigest deviceId delta with
  | .ok plan => ({ db := mergeLearnedCommands deviceId delta.model plan device.db, header }, .ok ())
  | .error e => ({ device with header }, .error e)

end

/-! ## The columns the export reads -/

section
variable {I : Interp} {pathDigest : Str → Result Str} {deviceId : Str} {model : DeviceModel} {db : LearnedDb}
  {delta : Delta} {device : LearnedDevice}

theorem mergeLearnedMappings_eq (kind : Str) (fms : List FieldMapping) (db : LearnedDb) :
    fms.foldl (mergeLearnedMapping deviceId kind) db =
      { db with
        mappings := ((fms.filter fun fm => !fm.source.isEmpty).map (Prod.mk kind)).foldl (fun rows km =>
          upsert (·.mappingId) (mappingId deviceId km.1 km.2.source) (addedMapping deviceId km.1 km.2)
            (mergeMappingRow km.2) rows) db.mappings } := by
  induction fms generalizing db with
  | nil => rfl
  | cons fm fms ih =>
    rw [List.foldl_cons, ih, mergeLearnedMapping]
    cases hsource : fm.source.isEmpty with
    | true =>
      rw [List.filter_cons_of_neg (by simp [hsource])]
      rfl
    | false =>
      rw [List.filter_cons_of_pos (by simp [hsource])]
      rfl

/-- The mapping rows of a plan, each under the kind of its command. -/
def mergedFields (model : DeviceModel) (plan : List Planned) : List (Str × FieldMapping) :=
  mergedPlan model (plan.map fun planned => (planned.cmd, planned.patternId))

/-- The pattern table once the commands of a plan are written. -/
def writePatterns (plan : List Planned) (rows : List PatternRow) : List PatternRow :=
  plan.foldl (fun rows planned => upsert (·.patternId) planned.patternId (addedPattern planned.patternId)
    (mergePatternRow planned) rows) rows

/-- The template table. -/
def writeTemplates (model : DeviceModel) (plan : List Planned) (rows : List TemplateRow) : List TemplateRow :=
  plan.foldl (fun rows planned => upsert (·.templateId) (templateId planned.patternId)
    (addedTemplate planned.patternId) (mergeTemplateRow (mergedResponse model planned.cmd)) rows) rows

/-- The mapping table. -/
def writeMappings (deviceId : Str) (plan : List (Str × FieldMapping)) (rows : List MappingRow) : List MappingRow :=
  plan.foldl (fun rows km => upsert (·.mappingId) (mappingId deviceId km.1 km.2.source)
    (addedMapping deviceId km.1 km.2) (mergeMappingRow km.2) rows) rows

/-- **A merge writes each table by its own plan.** -/
theorem mergeLearnedCommands_eq (model : DeviceModel) (plan : List Planned) (db : LearnedDb) :
    plan.foldl (mergeLearnedCommand deviceId model) db =
      { db with
        patterns := writePatterns plan db.patterns
        templates := writeTemplates model plan db.templates
        mappings := writeMappings deviceId (mergedFields model plan) db.mappings } := by
  induction plan generalizing db with
  | nil => rfl
  | cons planned plan ih =>
    have hmappings : mergedFields model (planned :: plan) =
        ((mergedMappings model planned.cmd).filter fun fm => !fm.source.isEmpty).map (Prod.mk planned.cmd.kind) ++
          mergedFields model plan := rfl
    rw [List.foldl_cons, ih, mergeLearnedCommand, mergeLearnedMappings_eq, hmappings]
    unfold writeMappings
    rw [List.foldl_append]
    rfl

theorem deviceDb_ext {a b : DeviceDb} (hpatterns : a.patterns = b.patterns) (htemplates : a.templates = b.templates)
    (hmappings : a.mappings = b.mappings) : a = b := by
  cases a
  cases b
  cases hpatterns
  cases htemplates
  cases hmappings
  rfl

/-- Of what the export reads, the rows are those of `mergeDeviceModel`. -/
theorem tables_mergeLearnedCommands (model : DeviceModel) (plan : List Planned) (db : LearnedDb) :
    (mergeLearnedCommands deviceId model plan db).tables =
      (plan.map fun planned => (planned.cmd, planned.patternId)).foldl (mergeCommand deviceId model) db.tables := by
  unfold mergeLearnedCommands
  rw [mergeLearnedCommands_eq]
  apply deviceDb_ext
  · rw [mergeCommands_patterns, List.foldl_map]
    apply map_foldl_upsert
    all_goals intros; rfl
  · rw [mergeCommands_templates, List.foldl_map]
    apply map_foldl_upsert
    all_goals intros; rfl
  · rw [mergeCommands_mappings]
    apply map_foldl_upsert
    all_goals intros; rfl

/-- The commands of a plan, with their ids. -/
theorem map_plan {α β γ : Type} {f : α → β → γ} {g : γ → α} (hg : ∀ a b, g (f a b) = a) (as : List α) (bs : List β)
    (hlength : as.length ≤ bs.length) : (List.zipWith f as bs).map g = as := by
  induction as generalizing bs with
  | nil => rfl
  | cons a as ih =>
    cases bs with
    | nil => exact absurd hlength (Nat.not_succ_le_zero _)
    | cons b bs => rw [List.zipWith_cons_cons, List.map_cons, hg, ih bs (Nat.le_of_succ_le_succ hlength)]

theorem planOf_ok {plan : List Planned} (h : planOf pathDigest deviceId delta = .ok plan) :
    ∃ ids, delta.model.commands.mapM (commandPatternId pathDigest deviceId) = .ok ids ∧
      plan.map (fun planned => (planned.cmd, planned.patternId)) = delta.model.commands.zip ids := by
  obtain ⟨ids, hids, rfl⟩ := Except.map_ok_iff.mp h
  refine ⟨ids, hids, map_plan (fun _ _ => rfl) _ _ ?_⟩
  rw [List.length_zip, delta.paired]
  exact Nat.min_le_left ..

/-- **Of what the export reads, a delta is merged as `mergeDeviceModel` says.** -/
theorem device_mergeDelta (delta : Delta) (device : LearnedDevice) :
    (mergeDelta I pathDigest deviceId delta device).1.device =
        (mergeDeviceModel I pathDigest deviceId delta.model device.device).1 ∧
      (mergeDelta I pathDigest deviceId delta device).2 =
        (mergeDeviceModel I pathDigest deviceId delta.model device.device).2 := by
  unfold mergeDelta mergeDeviceModel
  cases hplan : planOf pathDigest deviceId delta with
  | ok plan =>
    obtain ⟨ids, hids, hzip⟩ := planOf_ok hplan
    rw [hids]
    refine ⟨?_, rfl⟩
    show Device.mk (mergeLearnedCommands deviceId delta.model plan device.db).tables _ = _
    rw [tables_mergeLearnedCommands, hzip]
    rfl
  | error e =>
    unfold planOf at hplan
    cases hids : delta.model.commands.mapM (commandPatternId pathDigest deviceId) with
    | ok ids =>
      rw [hids] at hplan
      cases hplan
    | error e' =>
      rw [hids] at hplan
      cases hplan
      exact ⟨rfl, rfl⟩

/-! ## Writing a row again -/

def patternColumns : Columns PatternRow :=
  [⟨_, (·.patternId)⟩, ⟨_, (·.method)⟩, ⟨_, (·.pathPattern)⟩, ⟨_, (·.protocol)⟩, ⟨_, (·.requiredHeaders)⟩,
    ⟨_, (·.bodySchema)⟩, ⟨_, (·.queryParamKeys)⟩, ⟨_, (·.intent)⟩, ⟨_, (·.confidence)⟩]

def templateColumns : Columns TemplateRow :=
  [⟨_, (·.templateId)⟩, ⟨_, (·.patternId)⟩, ⟨_, (·.statusCode)⟩, ⟨_, (·.headersTemplate)⟩, ⟨_, (·.bodyTemplate)⟩,
    ⟨_, (·.fieldMappings)⟩, ⟨_, (·.expectedVariables)⟩, ⟨_, (·.confidence)⟩]

def mappingColumns : Columns MappingRow :=
  [⟨_, (·.mappingId)⟩, ⟨_, (·.requestField)⟩, ⟨_, (·.responseField)⟩, ⟨_, (·.transform)⟩, ⟨_, (·.formula)⟩,
    ⟨_, (·.enumValues)⟩, ⟨_, (·.intent)⟩, ⟨_, (·.requestType)⟩, ⟨_, (·.responseType)⟩, ⟨_, (·.confidence)⟩]

theorem patternColumns_separate : patternColumns.Separate := by
  rintro ⟨⟨⟩⟩ ⟨⟨⟩⟩ h
  simpa [patternColumns, and_assoc] using h

theorem templateColumns_separate : templateColumns.Separate := by
  rintro ⟨⟨⟩⟩ ⟨⟨⟩⟩ h
  simpa [templateColumns, and_assoc] using h

theorem mappingColumns_separate : mappingColumns.Separate := by
  rintro ⟨⟨⟩⟩ ⟨⟨⟩⟩ h
  simpa [mappingColumns, and_assoc] using h

/-- A command sets every column of its row but the id, and the path where it has one. -/
theorem mergePatternRow_overwrites (planned : Planned) : Overwrites patternColumns (mergePatternRow planned) := by
  cases hpath : commandPath planned.cmd with
  | nil => simp [Overwrites, patternColumns, mergePatternRow, mergePattern, hpath, orStr]
  | cons c cs => simp [Overwrites, patternColumns, mergePatternRow, mergePattern, hpath, orStr]

/-- A response sets the columns it fills; without one the template is left. -/
theorem mergeTemplateRow_overwrites (resp : Option ServerResponse) :
    Overwrites templateColumns (mergeTemplateRow resp) := by
  cases resp with
  | none => simp [Overwrites, templateColumns, mergeTemplateRow, mergeTemplate]
  | some resp => simp [Overwrites, templateColumns, mergeTemplateRow, mergeTemplate, storeTemplate]

/-- A mapping sets what it maps to; the target of a row stays where it has none. -/
theorem mergeMappingRow_overwrites (fm : FieldMapping) : Overwrites mappingColumns (mergeMappingRow fm) := by
  cases htarget : fm.target with
  | nil => simp [Overwrites, mappingColumns, mergeMappingRow, mergeMapping, htarget, orStr]
  | cons c cs => simp [Overwrites, mappingColumns, mergeMappingRow, mergeMapping, htarget, orStr]

/-! ## Merging again -/

/-- The unique ids of the three tables. -/
structure Keyed (db : LearnedDb) : Prop where
  patterns : (db.patterns.map (·.patternId)).Nodup
  templates : (db.templates.map (·.templateId)).Nodup
  mappings : (db.mappings.map (·.mappingId)).Nodup

theorem templateId_mergeTemplateRow (resp : Option ServerResponse) (row : TemplateRow) :
    (mergeTemplateRow resp row).templateId = row.templateId := by
  cases resp <;> rfl

theorem writePatterns_again (plan : List Planned) {rows : List PatternRow} (h : (rows.map (·.patternId)).Nodup) :
    writePatterns plan (writePatterns plan rows) = writePatterns plan rows := by
  unfold writePatterns
  apply foldl_upsert_again _ patternColumns_separate
  · exact fun _ => rfl
  · exact h
  · exact fun planned _ => mergePatternRow_overwrites planned
  · exact fun _ _ hrow => hrow

theorem writeTemplates_again (model : DeviceModel) (plan : List Planned) {rows : List TemplateRow}
    (h : (rows.map (·.templateId)).Nodup) :
    writeTemplates model plan (writeTemplates model plan rows) = writeTemplates model plan rows := by
  unfold writeTemplates
  apply foldl_upsert_again _ templateColumns_separate
  · exact fun _ => rfl
  · exact h
  · exact fun planned _ => mergeTemplateRow_overwrites (mergedResponse model planned.cmd)
  · exact fun _ row hrow => (templateId_mergeTemplateRow _ row).trans hrow

theorem writeMappings_again (deviceId : Str) (plan : List (Str × FieldMapping)) {rows : List MappingRow}
    (h : (rows.map (·.mappingId)).Nodup) :
    writeMappings deviceId plan (writeMappings deviceId plan rows) = writeMappings deviceId plan rows := by
  unfold writeMappings
  apply foldl_upsert_again _ mappingColumns_separate
  · exact fun _ => rfl
  · exact h
  · exact fun km _ => mergeMappingRow_overwrites km.2
  · exact fun _ _ hrow => hrow

theorem mergeLearnedCommands_tables (model : DeviceModel) (plan : List Planned) (db : LearnedDb) :
    mergeLearnedCommands deviceId model plan db =
      { patterns := writePatterns plan db.patterns
        templates := writeTemplates model plan db.templates
        mappings := writeMappings deviceId (mergedFields model plan) db.mappings
        counters := some (mergedCounters plan.length db.counters) } := by
  unfold mergeLearnedCommands
  rw [mergeLearnedCommands_eq]

/-- **The rows of a delta are as its first merge left them after the second**; the counters go on. -/
theorem mergeLearnedCommands_again (hkeyed : Keyed db) (model : DeviceModel) (plan : List Planned) :
    mergeLearnedCommands deviceId model plan (mergeLearnedCommands deviceId model plan db) =
      { mergeLearnedCommands deviceId model plan db with
        counters := some (mergedCounters plan.length (mergeLearnedCommands deviceId model plan db).counters) } := by
  rw [mergeLearnedCommands_tables, mergeLearnedCommands_tables]
  dsimp only
  rw [writePatterns_again plan hkeyed.patterns, writeTemplates_again model plan hkeyed.templates,
    writeMappings_again deviceId _ hkeyed.mappings]

/-! ## The header again -/

theorem orStr_orStr (a b : Str) : orStr a (orStr a b) = orStr a b := by
  cases a <;> rfl

/-- A stripped text is stripped. -/
theorem stripSpace_idem (s : Str) : s.stripSpace.stripSpace = s.stripSpace := by
  cases hs : s.stripSpace with
  | nil => rfl
  | cons c rest =>
    have hhead : Str.isSpace c = false := Str.stripSpace_head hs
    have hdrop : (c :: rest).dropWhile Str.isSpace = c :: rest := List.dropWhile_cons_of_neg (by simp [hhead])
    show ((c :: rest).dropWhile Str.isSpace).rdropWhile Str.isSpace = c :: rest
    rw [hdrop, ← hs]
    unfold Str.stripSpace
    exact List.rdropWhile_idempotent ..

theorem length_stripSpace_le (s : Str) : s.stripSpace.length ≤ s.length := by
  unfold Str.stripSpace
  exact (List.rdropWhile_prefix _ _).length_le.trans (List.dropWhile_suffix _).length_le

/-- The cut can leave whitespace at the end; what is cut and stripped again has none left. -/
theorem shortText_settled (x : Str) : shortText (shortText (shortText x)) = shortText (shortText x) := by
  have hshort : ∀ t : Str, t.length ≤ maxMetaText → shortText t = t.stripSpace := fun t ht =>
    List.take_of_length_le ((length_stripSpace_le t).trans ht)
  have hlength : (shortText x).length ≤ maxMetaText := List.length_take_le _ _
  rw [hshort (shortText x) hlength, hshort _ ((length_stripSpace_le _).trans hlength), stripSpace_idem]

/-- A text that was validated before is settled once it is validated again. -/
theorem shortText_orStr (text x : Str) :
    shortText (orStr text (shortText (orStr text (shortText x)))) = shortText (orStr text (shortText x)) := by
  cases text with
  | nil => exact shortText_settled x
  | cons c cs => rfl

theorem whitelistedConnectionMode_idem (value : Str) :
    whitelistedConnectionMode I (whitelistedConnectionMode I value) = whitelistedConnectionMode I value :=
  whitelistedConnectionMode_self whitelistedConnectionMode_safe

/-- The protocols that a merge writes. -/
def mergedProtocols (I : Interp) (named : Str) (current : List Str) : List Str :=
  match normalizeProtocol I named with
  | some protocol => if current.any (fun p => !p.isEmpty) then current else [protocol]
  | none          => current

/-- The mode that a merge writes. -/
def mergedMode (I : Interp) (named current : Str) : Str :=
  match normalizeConnectionMode I named with
  | some mode => if orStr current "auto" = str "auto" then mode else current
  | none      => current

/-- Protocols that are known, or none to fill in: a merge leaves them. -/
theorem mergedProtocols_keep {named : Str} {current : List Str}
    (h : normalizeProtocol I named = none ∨ current.any (fun p => !p.isEmpty) = true) :
    mergedProtocols I named current = current := by
  unfold mergedProtocols
  cases hnamed : normalizeProtocol I named with
  | none => rfl
  | some protocol => exact if_pos (h.resolve_left (by rw [hnamed]; nofun))

theorem mergedMode_keep {named current : Str}
    (h : normalizeConnectionMode I named = none ∨ orStr current "auto" ≠ str "auto") :
    mergedMode I named current = current := by
  unfold mergedMode
  cases hnamed : normalizeConnectionMode I named with
  | none => rfl
  | some mode => exact if_neg (h.resolve_left (by rw [hnamed]; nofun))

/-- Protocols are settled by the first merge that names them. -/
theorem mergedProtocols_again (named : Str) (x : List Str) :
    whitelistedProtocols I (mergedProtocols I named
        (whitelistedProtocols I (mergedProtocols I named (whitelistedProtocols I x)))) =
      whitelistedProtocols I (mergedProtocols I named (whitelistedProtocols I x)) := by
  by_cases hkeep : normalizeProtocol I named = none ∨ (whitelistedProtocols I x).any (fun p => !p.isEmpty) = true
  · rw [mergedProtocols_keep hkeep, whitelistedProtocols_idem, mergedProtocols_keep hkeep, whitelistedProtocols_idem]
  · obtain ⟨hnamed, hany⟩ := not_or.mp hkeep
    obtain ⟨protocol, hnamed⟩ := Option.ne_none_iff_exists'.mp hnamed
    have hsafe := normalizeProtocol_safe hnamed
    have hne : protocol ≠ [] := fun hnil => nil_notMem_safeProtocols (hnil ▸ hsafe)
    have hset : mergedProtocols I named (whitelistedProtocols I x) = [protocol] := by
      unfold mergedProtocols
      rw [hnamed]
      exact if_neg hany
    have hsingle : whitelistedProtocols I [protocol] = [protocol] := by
      rw [whitelistedProtocols_of_one, normalizeProtocol_self hsafe]
      rfl
    rw [hset, hsingle, mergedProtocols_keep (.inr (by simpa using hne)), hsingle]

/-- So is the mode. -/
theorem mergedMode_again (named x : Str) :
    whitelistedConnectionMode I (mergedMode I named
        (whitelistedConnectionMode I (mergedMode I named (whitelistedConnectionMode I x)))) =
      whitelistedConnectionMode I (mergedMode I named (whitelistedConnectionMode I x)) := by
  by_cases hkeep : normalizeConnectionMode I named = none ∨ orStr (whitelistedConnectionMode I x) "auto" ≠ str "auto"
  · rw [mergedMode_keep hkeep, whitelistedConnectionMode_idem, mergedMode_keep hkeep, whitelistedConnectionMode_idem]
  · obtain ⟨hnamed, hauto⟩ := not_or.mp hkeep
    obtain ⟨mode, hnamed⟩ := Option.ne_none_iff_exists'.mp hnamed
    have hset : ∀ current, orStr current "auto" = str "auto" → mergedMode I named current = mode := by
      intro current hcurrent
      unfold mergedMode
      rw [hnamed]
      exact if_pos hcurrent
    have hmode : whitelistedConnectionMode I mode = mode :=
      whitelistedConnectionMode_self (normalizeConnectionMode_safe hnamed)
    rw [hset _ (not_not.mp hauto), hmode]
    -- a mode that is `auto` is named again
    by_cases hmodeAuto : orStr mode "auto" = str "auto"
    · rw [hset mode hmodeAuto, hmode]
    · rw [mergedMode_keep (.inr hmodeAuto), hmode]

/-- The header after a merge that names no protocol. -/
theorem mergedHeader_silent {current : DeviceMeta} (h : model.protocol.protocol.isEmpty = true) :
    mergedHeader I model current =
      { current with
        stateVariables := if model.stateVariables.isEmpty then current.stateVariables else model.stateVariables
        virtualSensors := if model.virtualSensors.isEmpty then current.virtualSensors else model.virtualSensors } := by
  unfold mergedHeader
  rw [if_pos h]

/-- The header after a merge that names one. -/
theorem mergedHeader_named {current : DeviceMeta} (h : model.protocol.protocol.isEmpty = false) :
    mergedHeader I model current =
      { vendor := orStr model.patternMeta.vendor current.vendor
        deviceType := orStr model.patternMeta.deviceType current.deviceType
        model := orStr model.protocol.identity current.model
        protocols := mergedProtocols I model.protocol.protocol current.protocols
        connectionMode := mergedMode I model.protocol.handler current.connectionMode
        transport := orStr model.protocol.transport current.transport
        security := orStr model.protocol.security current.security
        proprietary := model.protocol.proprietary || current.proprietary
        identity := orStr model.protocol.identity current.identity
        ports := if model.protocol.ports.isEmpty then current.ports else model.protocol.ports
        confidence := if floatTruthy model.protocol.confidence then model.protocol.confidence else current.confidence
        stateVariables := if model.stateVariables.isEmpty then current.stateVariables else model.stateVariables
        virtualSensors := if model.virtualSensors.isEmpty then current.virtualSensors else model.virtualSensors } := by
  unfold mergedHeader
  rw [if_neg (by simp [h])]
  rfl

/-- What is kept unless something is said stays after it was said. -/
theorem ite_again {α : Type} (silent : Bool) (said kept : α) :
    (if silent = true then (if silent = true then kept else said) else said) =
      if silent = true then kept else said := by
  cases silent <;> rfl

theorem ite_said_again {α : Type} (told : Bool) (said kept : α) :
    (if told = true then said else (if told = true then said else kept)) = if told = true then said else kept := by
  cases told <;> rfl

/-- **The header is after the second merge as after the first.** -/
theorem mergedHeader_again (model : DeviceModel) (x : DeviceMeta) :
    (mergedHeader I model ((mergedHeader I model (x.validate I)).validate I)).validate I =
      (mergedHeader I model (x.validate I)).validate I := by
  cases hempty : model.protocol.protocol.isEmpty with
  | true =>
    rw [mergedHeader_silent hempty, mergedHeader_silent hempty]
    unfold DeviceMeta.validate
    dsimp only
    rw [whitelistedProtocols_idem, whitelistedProtocols_idem, whitelistedConnectionMode_idem,
      whitelistedConnectionMode_idem, shortText_settled, shortText_settled, shortText_settled, shortText_settled,
      ite_again, ite_again]
  | false =>
    rw [mergedHeader_named hempty, mergedHeader_named hempty]
    unfold DeviceMeta.validate
    dsimp only
    rw [mergedProtocols_again, mergedMode_again, shortText_orStr, shortText_orStr, shortText_orStr, shortText_orStr,
      orStr_orStr, orStr_orStr, Bool.or_self_left, ite_again, ite_again, ite_again, ite_said_again]

/-! ## The row of a command -/

/-- The ids of a table are among those after a merge. -/
theorem mem_patternIds {plan : List Planned} {id : Str} (h : id ∈ db.patterns.map (·.patternId)) :
    id ∈ (plan.foldl (mergeLearnedCommand deviceId model) db).patterns.map (·.patternId) := by
  rw [mergeLearnedCommands_eq]
  unfold writePatterns
  refine (mem_keys_foldl_upsert ?_ ?_ id).mpr (.inl h)
  · exact fun _ _ hrow => hrow
  · exact fun _ => rfl

theorem Keyed.merge (h : Keyed db) (model : DeviceModel) (plan : List Planned) :
    Keyed (plan.foldl (mergeLearnedCommand deviceId model) db) := by
  rw [mergeLearnedCommands_eq]
  constructor
  · exact nodup_foldl_upsert (fun _ _ h => h) (fun _ => rfl) h.patterns
  · exact nodup_foldl_upsert (fun _ row h => (templateId_mergeTemplateRow _ row).trans h) (fun _ => rfl) h.templates
  · exact nodup_foldl_upsert (fun _ _ h => h) (fun _ => rfl) h.mappings

/-- The pattern table once one command is merged. -/
theorem patterns_mergeLearnedCommand (planned : Planned) :
    (mergeLearnedCommand deviceId model db planned).patterns =
      upsert (·.patternId) planned.patternId (addedPattern planned.patternId) (mergePatternRow planned)
        db.patterns := by
  unfold mergeLearnedCommand
  rw [mergeLearnedMappings_eq]

/-- A command updates the row of its id, and adds no other. -/
def UpdatesOwn (deviceId : Str) (model : DeviceModel) (db : LearnedDb) (planned : Planned) : Prop :=
  (mergeLearnedCommand deviceId model db planned).patterns =
    db.patterns.map fun row => if row.patternId = planned.cmd.id then mergePatternRow planned row else row

/-- A command whose row is the one of its id updates it. -/
theorem updatesOwn_of_eq (h : Keyed db) {planned : Planned} (hown : planned.patternId = planned.cmd.id)
    (hmem : planned.cmd.id ∈ db.patterns.map (·.patternId)) : UpdatesOwn deviceId model db planned := by
  unfold UpdatesOwn
  rw [patterns_mergeLearnedCommand, upsert_eq_map h.patterns (hown ▸ hmem), hown]

/-- A command whose row is another leaves the one of its id as it was. -/
theorem row?_of_ne {planned : Planned} (hother : planned.patternId ≠ planned.cmd.id) :
    row? (·.patternId) planned.cmd.id (mergeLearnedCommand deviceId model db planned).patterns =
      row? (·.patternId) planned.cmd.id db.patterns := by
  rw [patterns_mergeLearnedCommand]
  apply row?_upsert_of_ne
  · exact fun _ hrow => hrow
  · rfl
  · exact hother.symm

end

/-! ## Convergence -/

section
variable (I : Interp) (pathDigest : Str → Result Str) (deviceId : Str)

/-- The second merge of a delta changes nothing. -/
def Converges (delta : Delta) (device : LearnedDevice) : Prop :=
  (mergeDelta I pathDigest deviceId delta (mergeDelta I pathDigest deviceId delta device).1).1 =
    (mergeDelta I pathDigest deviceId delta device).1

/-- Every command that carries the id of a stored pattern updates its row, and adds no other. -/
def UpdatesOwnRows (delta : Delta) (device : LearnedDevice) : Prop :=
  ∀ plan, planOf pathDigest deviceId delta = .ok plan → ∀ before planned after, plan = before ++ planned :: after →
    planned.cmd.id ∈ device.db.patterns.map (·.patternId) →
      UpdatesOwn deviceId delta.model (before.foldl (mergeLearnedCommand deviceId delta.model) device.db) planned

/-- A merge that counts nothing: of no command, or of one that has no id. -/
def Uncounted (delta : Delta) : Prop :=
  delta.model.commands = [] ∨
    ∃ cmd ∈ delta.model.commands, ∃ e, commandPatternId pathDigest deviceId cmd = .error e

/-- The header of a device is a validated one, if it has one. -/
def ValidatedHeader (device : LearnedDevice) : Prop := ∀ m ∈ device.header, ∃ x : DeviceMeta, m = x.validate I

end

section
variable {I : Interp} {pathDigest : Str → Result Str} {deviceId : Str} {delta : Delta} {device : LearnedDevice}

theorem planOf_length {plan : List Planned} (h : planOf pathDigest deviceId delta = .ok plan) :
    plan.length = delta.model.commands.length := by
  obtain ⟨ids, hids, hzip⟩ := planOf_ok h
  have hlength := congrArg List.length hzip
  rw [List.length_map, List.length_zip, ← (Except.forall₂_of_mapM hids).length_eq, Nat.min_self] at hlength
  exact hlength

/-- A merge that counts something has the plan of all its commands. -/
theorem plan_of_counted (h : ¬ Uncounted pathDigest deviceId delta) :
    ∃ plan, planOf pathDigest deviceId delta = .ok plan ∧ plan.length = delta.model.commands.length ∧
      plan.length ≠ 0 := by
  obtain ⟨hne, hids⟩ := not_or.mp h
  have hall : ∀ cmd ∈ delta.model.commands, ∃ id, commandPatternId pathDigest deviceId cmd = .ok id := by
    intro cmd hcmd
    cases hid : commandPatternId pathDigest deviceId cmd with
    | ok id => exact ⟨id, rfl⟩
    | error e => exact absurd ⟨cmd, hcmd, e, hid⟩ hids
  obtain ⟨ids, hids, _⟩ := Except.exists_mapM hall
  have hplan : ∃ plan, planOf pathDigest deviceId delta = .ok plan := by
    unfold planOf
    rw [hids]
    exact ⟨_, rfl⟩
  obtain ⟨plan, hplan⟩ := hplan
  refine ⟨plan, hplan, planOf_length hplan, ?_⟩
  rw [planOf_length hplan]
  exact fun hzero => hne (List.length_eq_zero_iff.mp hzero)

/-- A merge that counts nothing has no plan, or an empty one. -/
theorem plan_of_uncounted (h : Uncounted pathDigest deviceId delta) {plan : List Planned}
    (hplan : planOf pathDigest deviceId delta = .ok plan) : plan = [] := by
  obtain ⟨ids, hids, hzip⟩ := planOf_ok hplan
  rcases h with hnone | ⟨cmd, hcmd, e, herror⟩
  · rw [hnone, List.zip_nil_left] at hzip
    exact List.map_eq_nil_iff.mp hzip
  · obtain ⟨id, _, hid⟩ := (Except.forall₂_of_mapM hids).exists_right hcmd
    rw [herror] at hid
    cases hid

/-- The default header is a validated one. -/
theorem validate_default (I : Interp) : DeviceMeta.validate I {} = {} := by
  have hnone : normalizeProtocol I [] = none := by
    unfold normalizeProtocol
    exact if_neg nil_notMem_safeProtocols
  have hprotocols : whitelistedProtocols I [[]] = [[]] := by
    rw [whitelistedProtocols_of_one, hnone]
    rfl
  have hmode : whitelistedConnectionMode I "auto" = str "auto" :=
    whitelistedConnectionMode_self (by decide +kernel)
  unfold DeviceMeta.validate
  dsimp only
  rw [hprotocols, hmode]
  rfl

theorem header_again (h : ValidatedHeader I device) (model : DeviceModel) :
    (mergedHeader I model ((mergedHeader I model (device.header.getD {})).validate I)).validate I =
      (mergedHeader I model (device.header.getD {})).validate I := by
  cases hheader : device.header with
  | none =>
    have hagain := mergedHeader_again (I := I) model {}
    rw [validate_default] at hagain
    exact hagain
  | some m =>
    obtain ⟨x, rfl⟩ := h m hheader
    exact mergedHeader_again model x

/-- **The second merge of a delta counts its commands again, and changes nothing else.** -/
theorem mergeDelta_again (hkeyed : Keyed device.db) (hheader : ValidatedHeader I device) {plan : List Planned}
    (hplan : planOf pathDigest deviceId delta = .ok plan) :
    (mergeDelta I pathDigest deviceId delta (mergeDelta I pathDigest deviceId delta device).1).1 =
      { (mergeDelta I pathDigest deviceId delta device).1 with
        db := { (mergeDelta I pathDigest deviceId delta device).1.db with
          counters := some (mergedCounters plan.length
            (mergeDelta I pathDigest deviceId delta device).1.db.counters) } } := by
  unfold mergeDelta
  rw [hplan]
  dsimp only
  rw [Option.getD_some, header_again hheader delta.model]
  rw [mergeLearnedCommands_again hkeyed]

/-- Counting nothing leaves the counters. -/
theorem mergedCounters_eq_iff (n : Nat) (counters : Option LearnedCounters) (m : Nat) :
    mergedCounters n (some (mergedCounters m counters)) = mergedCounters m counters ↔ n = 0 := by
  unfold mergedCounters
  rw [LearnedCounters.mk.injEq]
  dsimp only [Option.getD_some]
  omega

theorem converges_iff (hkeyed : Keyed device.db) (hheader : ValidatedHeader I device) :
    Converges I pathDigest deviceId delta device ↔ Uncounted pathDigest deviceId delta := by
  unfold Converges
  constructor
  · intro hconverges
    by_contra hcounted
    obtain ⟨plan, hplan, _, hne⟩ := plan_of_counted hcounted
    rw [mergeDelta_again hkeyed hheader hplan] at hconverges
    have hcounters := congrArg (fun d => d.db.counters) hconverges
    unfold mergeDelta at hcounters
    rw [hplan] at hcounters
    exact hne ((mergedCounters_eq_iff _ _ _).mp (Option.some.inj hcounters))
  · intro huncounted
    cases hplan : planOf pathDigest deviceId delta with
    | ok plan =>
      rw [mergeDelta_again hkeyed hheader hplan]
      obtain rfl := plan_of_uncounted huncounted hplan
      unfold mergeDelta
      rw [hplan]
      rfl
    | error e =>
      unfold mergeDelta
      rw [hplan]
      dsimp only
      rw [Option.getD_some, header_again hheader delta.model]

theorem updatesOwnRows_of_uncounted (h : Uncounted pathDigest deviceId delta) :
    UpdatesOwnRows pathDigest deviceId delta device := by
  intro plan hplan before planned after hsplit
  rw [plan_of_uncounted h hplan] at hsplit
  simp at hsplit

end

/-- **A delta merged again counts its commands again, and changes nothing else**: the rows and the header are
    after the second merge as after the first. A command with the id of a stored pattern updates its row if that
    is the id it is merged under, and otherwise leaves that row as it was. -/
theorem mergeDelta_converges_iff (I : Interp) (pathDigest : Str → Result Str) (deviceId : Str) (delta : Delta)
    (device : LearnedDevice) (hkeyed : Keyed device.db) (hheader : ValidatedHeader I device) :
    (Converges I pathDigest deviceId delta device ∧ UpdatesOwnRows pathDigest deviceId delta device ↔
      Uncounted pathDigest deviceId delta) ∧
    (∀ plan, planOf pathDigest deviceId delta = .ok plan →
      (mergeDelta I pathDigest deviceId delta (mergeDelta I pathDigest deviceId delta device).1).1 =
        { (mergeDelta I pathDigest deviceId delta device).1 with
          db := { (mergeDelta I pathDigest deviceId delta device).1.db with
            counters := some (mergedCounters delta.model.commands.length
              (mergeDelta I pathDigest deviceId delta device).1.db.counters) } } ∧
      ∀ before planned after, plan = before ++ planned :: after →
        planned.cmd.id ∈ device.db.patterns.map (·.patternId) →
          let db := before.foldl (mergeLearnedCommand deviceId delta.model) device.db
          (planned.patternId = planned.cmd.id → UpdatesOwn deviceId delta.model db planned) ∧
          (planned.patternId ≠ planned.cmd.id →
            row? (·.patternId) planned.cmd.id (mergeLearnedCommand deviceId delta.model db planned).patterns =
              row? (·.patternId) planned.cmd.id db.patterns)) := by
  refine ⟨?_, fun plan hplan => ⟨?_, fun before planned after _ hmem => ⟨fun hown => ?_, row?_of_ne⟩⟩⟩
  · rw [converges_iff hkeyed hheader]
    exact ⟨fun h => h.1, fun h => ⟨h, updatesOwnRows_of_uncounted h⟩⟩
  · rw [mergeDelta_again hkeyed hheader hplan, planOf_length hplan]
  · exact updatesOwn_of_eq (hkeyed.merge delta.model before) hown (mem_patternIds hmem)

/-! ## A lamp -/

/-- A lamp whose pattern `on` is stored. -/
def lamp : LearnedDevice where
  db := { patterns := [{ newPattern "on" with method := "GET", confidence := defaultConfidence }] }

/-- The lamp is switched on under another path now. -/
def lampDelta : Delta where
  model :=
    { patternMeta := { patternId := "lamp", vendor := "acme", deviceType := "light" }
      commands := [{ id := "on", kind := "turn_on", path := "/power" }] }
  confidences := [defaultConfidence]
  paired := rfl

theorem lamp_keyed : Keyed lamp.db where
  patterns := by decide +kernel
  templates := List.nodup_nil
  mappings := List.nodup_nil

/-- The delta is no merge that counts nothing. -/
theorem lampDelta_counts : ¬ (Converges asciiInterp .ok "dev" lampDelta lamp ∧
    UpdatesOwnRows .ok "dev" lampDelta lamp) := by
  rw [(mergeDelta_converges_iff asciiInterp .ok "dev" lampDelta lamp lamp_keyed nofun).1]
  rintro (hnone | ⟨cmd, hcmd, e, herror⟩)
  · cases hnone
  · obtain rfl := List.mem_singleton.mp hcmd
    cases herror

/-- The second merge counts the command again. -/
theorem lampDelta_recounted : ¬ ∀ (I : Interp) (pathDigest : Str → Result Str) (deviceId : Str) (delta : Delta)
    (device : LearnedDevice), Keyed device.db → ValidatedHeader I device →
      Converges I pathDigest deviceId delta device ∧ UpdatesOwnRows pathDigest deviceId delta device := by
  intro h
  have hconverges := (h asciiInterp .ok "dev" lampDelta lamp lamp_keyed nofun).1
  have hcounters := congrArg (fun d => d.db.counters) hconverges
  exact absurd hcounters (by decide +kernel)

end RideTheApi.MergeConvergence
