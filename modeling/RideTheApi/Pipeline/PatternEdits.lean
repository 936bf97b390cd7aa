import Mathlib.Data.List.Find
import RideTheApi.PatternDb.Ingest
import RideTheApi.Pipeline.PatternSync

/-!
# `Pipeline.PatternEdits` — editing one pattern of a device

`PUT`, `PATCH` and `DELETE` of a pattern edit three tables in one session and then make the engine serve what is
stored. A pattern has its template through its id, and its field mappings through its intent, which other
patterns may share; a pattern without a template is answered by the first one that shares its intent. A value
of the wrong type is stored all the same, and refused when the tables are exported again: the sync is
best-effort, and leaves what was served.

What an edit can do to the tables is said once (`Effect`); what it leaves of another pattern follows.
-/

namespace RideTheApi.PatternEdits

open Py PatternDb PatternSync KeyedTable
open SavePatterns (PatternRow MappingRow defaultConfidence field learnedFormula)
open Ingest (asDict insertAll)

/-! ## Rows -/

/-- A row of `response_templates`. An integer column of SQLite holds other values too. -/
structure TemplateRow where
  templateId : Str
  patternId : Str
  statusCode : Json
  headersTemplate : Json
  bodyTemplate : Json
  fieldMappings : Json
  expectedVariables : Json
  confidence : BitVec 64
deriving Repr, DecidableEq

/-- The tables of a device that are edited. -/
structure Db where
  patterns : List PatternRow := []
  templates : List TemplateRow := []
  mappings : List MappingRow := []
deriving Repr, DecidableEq

/-- What an edit takes from the driver of the device database, and the export from pydantic. A column that may
    not be null refuses a null. -/
structure Host where
  bindText : Json → Result Str
  bindInt : Json → Result Json
  bindFloat : Json → Result (BitVec 64)
  /-- An `int` field. -/
  readInt : Json → Result Int

/-- The ids drawn in a request: for the template, and for the field mappings. -/
structure Draws where
  template : Str
  mapping : Nat → Str

section
variable (H : Host) (draws : Draws) (patternId : Str)

/-! ## The pattern -/

/-- What a text column holds once it was assigned to; an equal value is not written. -/
def assignText (old : Str) : Option Json → Result Str
  | none   => .ok old
  | some v => if v = .str old then .ok old else H.bindText v

def assignInt (old : Json) : Option Json → Result Json
  | none   => .ok old
  | some v => if pyEq v old then .ok old else H.bindInt v

def assignFloat (old : BitVec 64) : Option Json → Result (BitVec 64)
  | none   => .ok old
  | some v => if pyEq v (.float old) then .ok old else H.bindFloat v

def assignJson (old : Json) : Option Json → Json
  | none   => old
  | some v => if pyEq v old then old else v

/-- A confidence of a new row: null stands for the default of the column. -/
def newConfidence (value : Json) : Result (BitVec 64) :=
  if value = .null then .ok defaultConfidence else H.bindFloat value

/-- The row of a pattern that a `PUT` adds. -/
def newPattern (data : Dict Str Json) : Result PatternRow := do
  let method ← H.bindText ((data.get? "method").getD (.str "GET"))
  let pathPattern ← H.bindText (((data.get? "path_pattern").or (data.get? "path")).getD (.str []))
  let protocol ← H.bindText ((data.get? "protocol").getD (.str "http"))
  let intent ← H.bindText ((data.get? "intent").getD (.str []))
  let confidence ← newConfidence H ((data.get? "confidence").getD (.float 0))
  .ok
    { patternId, method, pathPattern, protocol, intent, confidence
      requiredHeaders := (data.get? "required_headers").getD (.arr [])
      bodySchema := (data.get? "body_schema").getD (.obj [])
      queryParamKeys := (data.get? "query_param_keys").getD (.arr []) }

/-- The row of a pattern with the fields that are given, and the path. -/
def editPattern (data : Dict Str Json) (path : Option Json) (row : PatternRow) : Result PatternRow := do
  let method ← assignText H row.method (data.get? "method")
  let pathPattern ← assignText H row.pathPattern path
  let protocol ← assignText H row.protocol (data.get? "protocol")
  let intent ← assignText H row.intent (data.get? "intent")
  let confidence ← assignFloat H row.confidence (data.get? "confidence")
  .ok
    { patternId := row.patternId, method, pathPattern, protocol, intent, confidence
      requiredHeaders := assignJson row.requiredHeaders (data.get? "required_headers")
      bodySchema := assignJson row.bodySchema (data.get? "body_schema")
      queryParamKeys := assignJson row.queryParamKeys (data.get? "query_param_keys") }

/-! ## The template -/

/-- `tpl_data.get(key, …)`. -/
def putGiven (tplData : Json) (key : Str) : Result (Option Json) := (asDict tplData).map fun data => Dict.get? data key

/-- `if key in tpl_data: … tpl_data[key]`. -/
def patchGiven (tplData : Json) (key : Str) : Result (Option Json) := do
  if ← tplData.isIn key then
    match tplData with
    | .obj data => .ok (Dict.get? data key)
    | _         => .error .typeError
  else .ok none

def newTemplate (data : Dict Str Json) : Result TemplateRow := do
  let statusCode ← H.bindInt ((data.get? "status_code").getD (.int 200))
  .ok
    { templateId := draws.template, patternId, statusCode, confidence := defaultConfidence
      headersTemplate := (data.get? "headers_template").getD (.obj [])
      bodyTemplate := (data.get? "body_template").getD (.obj [])
      fieldMappings := (data.get? "field_mappings").getD (.obj [])
      expectedVariables := (data.get? "expected_variables").getD (.arr []) }

def editTemplate (given : Str → Result (Option Json)) (row : TemplateRow) : Result TemplateRow := do
  let statusCode ← assignInt H row.statusCode (← given "status_code")
  let headersTemplate ← given "headers_template"
  let bodyTemplate ← given "body_template"
  let fieldMappings ← given "field_mappings"
  let expectedVariables ← given "expected_variables"
  .ok
    { row with
      statusCode
      headersTemplate := assignJson row.headersTemplate headersTemplate
      bodyTemplate := assignJson row.bodyTemplate bodyTemplate
      fieldMappings := assignJson row.fieldMappings fieldMappings
      expectedVariables := assignJson row.expectedVariables expectedVariables }

/-- The template of the pattern is edited, or added under a unique id. -/
def storeTemplate (given : Json → Str → Result (Option Json)) (tplData : Json) (templates : List TemplateRow) :
    Result (List TemplateRow) := do
  match ← scalarOneOrNone (templates.filter fun tmpl => tmpl.patternId = patternId) with
  | none     => do
    let data ← asDict tplData
    let row ← newTemplate H draws patternId data
    insertAll (·.templateId) templates [row]
  | some row => do
    let row ← editTemplate H (given tplData) row
    .ok (upsert (·.patternId) patternId row (fun _ => row) templates)

/-! ## The field mappings -/

def newMapping (intent : Str) (n : Nat) (m : Dict Str Json) : Result MappingRow := do
  let mappingId ← H.bindText ((field m "mapping_id").orElse (.str (draws.mapping n)))
  let requestField ← H.bindText ((m.get? "request_field").getD (.str []))
  let requestType ← H.bindText ((m.get? "request_type").getD (.str []))
  let responseField ← H.bindText ((m.get? "response_field").getD (.str []))
  let responseType ← H.bindText ((m.get? "response_type").getD (.str []))
  let bindNullable : Json → Result (Option Str)
    | .null => .ok none
    | value => (H.bindText value).map some
  let transform ← bindNullable (field m "transform")
  let formula ← bindNullable (((learnedFormula (field m "formula")).map .str).getD .null)
  let confidence ← newConfidence H ((m.get? "confidence").getD (.float defaultConfidence))
  .ok
    { mappingId, requestField, requestType, responseField, responseType, transform, formula, intent, confidence
      enumValues := field m "enum_values" }

/-- The mappings of the intent are replaced, unless none are given. -/
def storeMappings (intent : Str) (given : Json) (mappings : List MappingRow) : Result (List MappingRow) :=
  if given = .null then .ok mappings
  else do
    let ms ← (← given.iter).mapM asDict
    let rows ← ms.zipIdx.mapM fun m => newMapping H draws intent m.2 m.1
    insertAll (·.mappingId) (mappings.filter fun m => m.intent ≠ intent) rows

/-! ## The three handlers -/

/-- The row of the pattern in its place, or at the end. -/
def storePattern (row : PatternRow) (patterns : List PatternRow) : List PatternRow :=
  upsert (·.patternId) patternId row (fun _ => row) patterns

/-- The row that a `PUT` stores. -/
def putRow (data : Dict Str Json) : Option PatternRow → Result PatternRow
  | none     => newPattern H patternId data
  | some row => editPattern H data ((data.get? "path_pattern").or (data.get? "path")) row

/-- The session of a `PUT`. Of a body that is not a dictionary nothing can be got. -/
def putPattern (body : Json) (db : Db) : Result Db := do
  let found ← scalarOneOrNone (db.patterns.filter fun pat => pat.patternId = patternId)
  let data ← asDict body
  let row ← putRow H patternId data found
  let templates ← storeTemplate H draws patternId putGiven ((field data "response_template").orElse (.obj [])) db.templates
  let mappings ← storeMappings H draws row.intent (field data "field_mappings") db.mappings
  .ok { patterns := storePattern patternId row db.patterns, templates, mappings }

/-- The templates after a `PATCH`. -/
def patchTemplate (tplData : Json) (templates : List TemplateRow) : Result (List TemplateRow) :=
  if tplData = .null then .ok templates else storeTemplate H draws patternId patchGiven tplData templates

/-- The session of a `PATCH`; none when there is no such pattern. -/
def patchPattern (body : Json) (db : Db) : Result (Option Db) := do
  match ← scalarOneOrNone (db.patterns.filter fun pat => pat.patternId = patternId) with
  | none     => .ok none
  | some row => do
    let data ← asDict body
    let row ← editPattern H data (data.get? "path_pattern") row
    let templates ← patchTemplate H draws patternId (field data "response_template") db.templates
    let mappings ← storeMappings H draws row.intent (field data "field_mappings") db.mappings
    .ok (some { patterns := storePattern patternId row db.patterns, templates, mappings })

/-- The session of a `DELETE`; none when there is no such pattern. -/
def deletePattern (db : Db) : Result (Option Db) := do
  match ← scalarOneOrNone (db.patterns.filter fun pat => pat.patternId = patternId) with
  | none     => .ok none
  | some row =>
    let patterns := db.patterns.filter fun pat => pat.patternId ≠ patternId
    .ok (some
      { patterns
        templates := db.templates.filter fun tmpl => tmpl.patternId ≠ patternId
        mappings :=
          if patterns.any fun pat => pat.intent = row.intent then db.mappings
          else db.mappings.filter fun m => m.intent ≠ row.intent })

/-! ## Serving what is stored -/

/-- `templates_by_pattern_id`: the last template of a pattern. -/
def Db.templateOf (db : Db) (id : Str) : Option TemplateRow :=
  (db.templates.filter fun tmpl => tmpl.patternId == id).getLast?

/-- `mappings_by_intent`: the mappings of an intent. -/
def Db.mappingsOf (db : Db) (intent : Str) : List MappingRow := db.mappings.filter fun m => m.intent == intent

/-- A template, with its status read as an integer. -/
def TemplateRow.read (tmpl : TemplateRow) : Result ResponseTemplate := do
  let statusCode ← H.readInt tmpl.statusCode
  .ok
    { templateId := tmpl.templateId, patternId := tmpl.patternId, statusCode, headersTemplate := tmpl.headersTemplate
      bodyTemplate := tmpl.bodyTemplate, fieldMappings := tmpl.fieldMappings }

/-- What the export reads: of the templates, those of a pattern. -/
def Db.tables (db : Db) : Result DeviceDb := do
  let templates ← (db.patterns.filterMap fun pat => db.templateOf pat.patternId).mapM (TemplateRow.read H)
  .ok
    { patterns := db.patterns.map (·.toRequestPattern), templates
      mappings := db.mappings.map (·.toFieldMappingRow) }

/-- A device, and what the engine holds of it: the patterns it serves and those of a user's file. -/
structure State where
  db : Db := {}
  header : Option DeviceMeta := none
  cached : Option PatternDB := none
  seed : Option PatternDB := none
deriving Repr, DecidableEq

def State.learner (s : State) (tables : DeviceDb) : Learner where
  device := { db := tables, header := s.header }
  cached := s.cached
  seed := s.seed

/-- A device is registered under an id, a vendor and a type; its pattern file can be written or not. -/
structure Registered where
  deviceId : Str
  vendor : Str
  deviceType : Str
  written : Bool

variable (R : Registered)

/-- `_resync_device_patterns`: what fails is logged. -/
def resync (s : State) : State :=
  match s.db.tables H with
  | .error _   => s
  | .ok tables =>
    { s with
      cached := (exportAndSyncPatterns R.deviceId R.vendor R.deviceType R.written (s.learner tables)).cached }

/-- A response of the server. -/
structure Reply where
  status : Nat
  content : Dict Str Json
deriving Repr, DecidableEq

inductive Edit where
  | put (body : Json)
  | patch (body : Json)
  | delete
deriving Repr, DecidableEq

/-- The session of an edit. -/
def Edit.session : Edit → Db → Result (Option Db)
  | .put body,   db => (putPattern H draws patternId body db).map some
  | .patch body, db => patchPattern H draws patternId body db
  | .delete,     db => deletePattern patternId db

def Edit.done : Edit → Str
  | .delete => "deleted"
  | _       => "ok"

def Edit.rejected : Edit → Str
  | .delete => "Could not delete the pattern"
  | _       => "Invalid pattern update payload"

/-- `put_pattern`, `patch_pattern` and `delete_pattern`: a session that raises is rolled back. -/
def handle (edit : Edit) (s : State) : State × Reply :=
  match edit.session H draws patternId s.db with
  | .error _      => (s, { status := 400, content := [("error", .str edit.rejected)] })
  | .ok none      => (s, { status := 404, content := [("error", .str "Pattern not found")] })
  | .ok (some db) =>
    (resync H R { s with db }, { status := 200, content := [("status", .str edit.done), ("pattern_id", .str patternId)] })

end

/-! ## What an edit can do -/

section
variable {H : Host} {draws : Draws} {patternId : Str} {db db' : Db} {edit : Edit} {pat q : PatternRow}

/-- The intents a pattern is stored with. -/
def Db.intentsOf (db : Db) (id : Str) : List Str := (db.patterns.filter fun pat => pat.patternId = id).map (·.intent)

/-- A body that replaces field mappings. -/
def Edit.replacesMappings : Edit → Bool
  | .put (.obj data)   => field data "field_mappings" ≠ .null
  | .patch (.obj data) => field data "field_mappings" ≠ .null
  | _                  => false

/-- What a session does to the tables: the rows of other patterns stay where they are, and so do the mappings of
    the intents that the pattern neither had nor has; unless mappings are replaced, those of an intent that
    another pattern has stay too. -/
structure Effect (patternId : Str) (edit : Edit) (db db' : Db) : Prop where
  patterns : db'.patterns.filter (fun pat => pat.patternId ≠ patternId) =
    db.patterns.filter fun pat => pat.patternId ≠ patternId
  templates : ∀ id ≠ patternId, db'.templateOf id = db.templateOf id
  mappings : ∀ intent, intent ∉ db.intentsOf patternId → intent ∉ db'.intentsOf patternId →
    db'.mappingsOf intent = db.mappingsOf intent
  shared : edit.replacesMappings = false → ∀ q ∈ db.patterns, q.patternId ≠ patternId →
    db'.mappingsOf q.intent = db.mappingsOf q.intent

/-- Storing a pattern leaves the other patterns. -/
theorem filter_storePattern (hrow : pat.patternId = patternId) (patterns : List PatternRow) :
    (storePattern patternId pat patterns).filter (fun r => r.patternId ≠ patternId) =
      patterns.filter fun r => r.patternId ≠ patternId := by
  unfold storePattern
  exact filter_upsert (fun r hr => by simp [hr]) (fun _ _ => hrow) hrow

/-- The stored pattern is there. -/
theorem mem_storePattern (patterns : List PatternRow) : pat ∈ storePattern patternId pat patterns := by
  unfold storePattern
  obtain ⟨_, _, hmem⟩ := exists_update_mem (fun r : PatternRow => r.patternId) patternId pat (fun _ => pat) patterns
  exact hmem

theorem newPattern_id {data : Dict Str Json} (h : newPattern H patternId data = .ok pat) : pat.patternId = patternId := by
  unfold newPattern at h
  obtain ⟨_, _, h⟩ := Except.bind_ok_iff.mp h
  obtain ⟨_, _, h⟩ := Except.bind_ok_iff.mp h
  obtain ⟨_, _, h⟩ := Except.bind_ok_iff.mp h
  obtain ⟨_, _, h⟩ := Except.bind_ok_iff.mp h
  obtain ⟨_, _, h⟩ := Except.bind_ok_iff.mp h
  cases h
  rfl

theorem editPattern_id {data : Dict Str Json} {path : Option Json} {row : PatternRow}
    (h : editPattern H data path row = .ok pat) : pat.patternId = row.patternId := by
  unfold editPattern at h
  obtain ⟨_, _, h⟩ := Except.bind_ok_iff.mp h
  obtain ⟨_, _, h⟩ := Except.bind_ok_iff.mp h
  obtain ⟨_, _, h⟩ := Except.bind_ok_iff.mp h
  obtain ⟨_, _, h⟩ := Except.bind_ok_iff.mp h
  obtain ⟨_, _, h⟩ := Except.bind_ok_iff.mp h
  cases h
  rfl

theorem editTemplate_id {given : Str → Result (Option Json)} {row tmpl : TemplateRow}
    (h : editTemplate H given row = .ok tmpl) : tmpl.patternId = row.patternId := by
  unfold editTemplate at h
  obtain ⟨_, _, h⟩ := Except.bind_ok_iff.mp h
  obtain ⟨_, _, h⟩ := Except.bind_ok_iff.mp h
  obtain ⟨_, _, h⟩ := Except.bind_ok_iff.mp h
  obtain ⟨_, _, h⟩ := Except.bind_ok_iff.mp h
  obtain ⟨_, _, h⟩ := Except.bind_ok_iff.mp h
  obtain ⟨_, _, h⟩ := Except.bind_ok_iff.mp h
  cases h
  rfl

theorem newTemplate_id {data : Dict Str Json} {tmpl : TemplateRow} (h : newTemplate H draws patternId data = .ok tmpl) :
    tmpl.patternId = patternId := by
  unfold newTemplate at h
  obtain ⟨_, _, h⟩ := Except.bind_ok_iff.mp h
  cases h
  rfl

theorem scalarOneOrNone_mem {α : Type} {rows : List α} {row : α} (h : scalarOneOrNone rows = .ok (some row)) :
    row ∈ rows := by
  cases rows with
  | nil => cases h
  | cons r rows =>
    cases rows with
    | nil =>
      cases h
      exact List.mem_singleton_self _
    | cons _ _ => cases h

/-- The templates of other patterns stay. -/
theorem storeTemplate_other {given : Json → Str → Result (Option Json)} {tplData : Json} {templates templates' : List TemplateRow}
    (h : storeTemplate H draws patternId given tplData templates = .ok templates') {id : Str} (hid : id ≠ patternId) :
    templates'.filter (fun tmpl => tmpl.patternId == id) = templates.filter fun tmpl => tmpl.patternId == id := by
  unfold storeTemplate at h
  obtain ⟨found, hfound, h⟩ := Except.bind_ok_iff.mp h
  cases found with
  | none =>
    obtain ⟨data, _, h⟩ := Except.bind_ok_iff.mp h
    obtain ⟨row, hrow, h⟩ := Except.bind_ok_iff.mp h
    unfold insertAll at h
    split at h
    case isFalse => cases h
    case isTrue =>
      cases h
      rw [List.filter_append]
      simp [newTemplate_id hrow, Ne.symm hid]
  | some old =>
    obtain ⟨row, hrow, h⟩ := Except.bind_ok_iff.mp h
    cases h
    have hold : old.patternId = patternId := by simpa using (List.mem_filter.mp (scalarOneOrNone_mem hfound)).2
    have hnew : row.patternId = patternId := (editTemplate_id hrow).trans hold
    exact filter_upsert (fun r hr => by simp [hr, Ne.symm hid]) (fun _ _ => hnew) hnew

theorem newMapping_intent {intent : Str} {n : Nat} {m : Dict Str Json} {row : MappingRow}
    (h : newMapping H draws intent n m = .ok row) : row.intent = intent := by
  unfold newMapping at h
  obtain ⟨_, _, h⟩ := Except.bind_ok_iff.mp h
  obtain ⟨_, _, h⟩ := Except.bind_ok_iff.mp h
  obtain ⟨_, _, h⟩ := Except.bind_ok_iff.mp h
  obtain ⟨_, _, h⟩ := Except.bind_ok_iff.mp h
  obtain ⟨_, _, h⟩ := Except.bind_ok_iff.mp h
  obtain ⟨_, _, h⟩ := Except.bind_ok_iff.mp h
  obtain ⟨_, _, h⟩ := Except.bind_ok_iff.mp h
  obtain ⟨_, _, h⟩ := Except.bind_ok_iff.mp h
  cases h
  rfl

/-- The mappings of other intents stay. -/
theorem storeMappings_other {intent intent' : Str} {given : Json} {mappings mappings' : List MappingRow}
    (h : storeMappings H draws intent given mappings = .ok mappings') (hne : intent' ≠ intent) :
    mappings'.filter (fun m => m.intent == intent') = mappings.filter fun m => m.intent == intent' := by
  unfold storeMappings at h
  split at h
  case isTrue =>
    cases h
    rfl
  case isFalse =>
    obtain ⟨items, _, h⟩ := Except.bind_ok_iff.mp h
    obtain ⟨ms, _, h⟩ := Except.bind_ok_iff.mp h
    obtain ⟨rows, hrows, h⟩ := Except.bind_ok_iff.mp h
    unfold insertAll at h
    split at h
    case isFalse => cases h
    case isTrue =>
      cases h
      have hnone : rows.filter (fun m => m.intent == intent') = [] := by
        apply List.filter_eq_nil_iff.mpr
        intro row hrow
        obtain ⟨m, _, hm⟩ := (Except.forall₂_of_mapM hrows).exists_left hrow
        simp [newMapping_intent hm, Ne.symm hne]
      rw [List.filter_append, hnone, List.append_nil, List.filter_filter]
      apply List.filter_congr
      intro m _
      by_cases hm : m.intent = intent'
      · simp [hm, hne]
      · simp [hm]

/-- The tables after an edit, when the row of the pattern and the mappings are known. -/
theorem effect_of_stored {templates : List TemplateRow} {mappings : List MappingRow} {given : Json}
    (hrow : pat.patternId = patternId)
    (htemplates : ∀ id ≠ patternId, templates.filter (fun tmpl => tmpl.patternId == id) =
      db.templates.filter fun tmpl => tmpl.patternId == id)
    (hmappings : storeMappings H draws pat.intent given db.mappings = .ok mappings)
    (hgiven : edit.replacesMappings = false → given = .null) :
    Effect patternId edit db { patterns := storePattern patternId pat db.patterns, templates, mappings } where
  patterns := filter_storePattern hrow db.patterns
  templates id hid := by
    unfold Db.templateOf
    rw [htemplates id hid]
  mappings intent _ hnew := by
    apply storeMappings_other hmappings
    rintro rfl
    apply hnew
    exact List.mem_map.mpr ⟨pat, List.mem_filter.mpr ⟨mem_storePattern db.patterns, by simpa using hrow⟩, rfl⟩
  shared hkeeps q _ _ := by
    unfold storeMappings at hmappings
    rw [if_pos (hgiven hkeeps)] at hmappings
    cases hmappings
    rfl

theorem asDict_ok {v : Json} {data : Dict Str Json} (h : asDict v = .ok data) : v = .obj data := by
  cases v with
  | obj data' =>
    cases h
    rfl
  | _ => cases h

theorem effect_put {body : Json} (h : putPattern H draws patternId body db = .ok db') :
    Effect patternId (.put body) db db' := by
  unfold putPattern at h
  obtain ⟨found, hfound, h⟩ := Except.bind_ok_iff.mp h
  obtain ⟨data, hdata, h⟩ := Except.bind_ok_iff.mp h
  obtain ⟨row, hrow, h⟩ := Except.bind_ok_iff.mp h
  obtain ⟨templates, htemplates, h⟩ := Except.bind_ok_iff.mp h
  obtain ⟨mappings, hmappings, h⟩ := Except.bind_ok_iff.mp h
  cases h
  obtain rfl := asDict_ok hdata
  have hid : row.patternId = patternId := by
    cases found with
    | none => exact newPattern_id hrow
    | some old =>
      have hold := (List.mem_filter.mp (scalarOneOrNone_mem hfound)).2
      rw [editPattern_id hrow]
      simpa using hold
  apply effect_of_stored hid (fun id hne => storeTemplate_other htemplates hne) hmappings
  intro hkeeps
  simpa [Edit.replacesMappings] using hkeeps

theorem effect_patch {body : Json} (h : patchPattern H draws patternId body db = .ok (some db')) :
    Effect patternId (.patch body) db db' := by
  unfold patchPattern at h
  obtain ⟨found, hfound, h⟩ := Except.bind_ok_iff.mp h
  cases found with
  | none => cases h
  | some old =>
    obtain ⟨data, hdata, h⟩ := Except.bind_ok_iff.mp h
    obtain ⟨row, hrow, h⟩ := Except.bind_ok_iff.mp h
    obtain ⟨templates, htemplates, h⟩ := Except.bind_ok_iff.mp h
    obtain ⟨mappings, hmappings, h⟩ := Except.bind_ok_iff.mp h
    cases h
    obtain rfl := asDict_ok hdata
    have hid : row.patternId = patternId := by
      have hold := (List.mem_filter.mp (scalarOneOrNone_mem hfound)).2
      rw [editPattern_id hrow]
      simpa using hold
    have hothers : ∀ id ≠ patternId, templates.filter (fun tmpl => tmpl.patternId == id) =
        db.templates.filter fun tmpl => tmpl.patternId == id := by
      intro id hne
      unfold patchTemplate at htemplates
      split at htemplates
      · cases htemplates
        rfl
      · exact storeTemplate_other htemplates hne
    apply effect_of_stored hid hothers hmappings
    intro hkeeps
    simpa [Edit.replacesMappings] using hkeeps

theorem effect_delete (h : deletePattern patternId db = .ok (some db')) : Effect patternId .delete db db' := by
  unfold deletePattern at h
  obtain ⟨found, hfound, h⟩ := Except.bind_ok_iff.mp h
  cases found with
  | none => cases h
  | some row =>
    cases h
    have hrow := scalarOneOrNone_mem hfound
    -- Of an intent that is not the pattern's own, no mapping is dropped.
    have hkept : ∀ intent ≠ row.intent, (db.mappings.filter fun m => m.intent ≠ row.intent).filter (fun m => m.intent == intent) =
        db.mappings.filter fun m => m.intent == intent := by
      intro intent hne
      rw [List.filter_filter]
      apply List.filter_congr
      intro m _
      by_cases hm : m.intent = intent
      · simp [hm, hne]
      · simp [hm]
    constructor
    · rw [List.filter_filter]
      simp
    · intro id hid
      unfold Db.templateOf
      rw [List.filter_filter]
      congr 1
      apply List.filter_congr
      intro tmpl _
      by_cases htmpl : tmpl.patternId = id
      · simp [htmpl, hid]
      · simp [htmpl]
    · intro intent hold _
      unfold Db.mappingsOf
      split
      · rfl
      · apply hkept
        rintro rfl
        exact hold (List.mem_map.mpr ⟨row, hrow, rfl⟩)
    · intro _ q hq hne
      unfold Db.mappingsOf
      split
      · rfl
      · rename_i hunused
        apply hkept
        intro heq
        apply hunused
        rw [List.any_eq_true]
        exact ⟨q, List.mem_filter.mpr ⟨hq, by simpa using hne⟩, by simpa using heq⟩

/-- **What a session that goes through does to the tables.** -/
theorem effect_session (h : edit.session H draws patternId db = .ok (some db')) : Effect patternId edit db db' := by
  cases edit with
  | put body =>
    obtain ⟨_, hput, heq⟩ := Except.map_ok_iff.mp h
    cases heq
    exact effect_put hput
  | patch body => exact effect_patch h
  | delete => exact effect_delete h

/-! ## What another pattern is served with -/

/-- The pattern has a template, and its response triggers on `trigger`. -/
def Db.answers (db : Db) (trigger : Str) (pat : PatternRow) : Bool :=
  (db.templateOf pat.patternId).isSome && (pat.patternId == trigger || pat.intent == trigger)

/-- The pattern whose response a trigger finds: the first that answers it. -/
def Db.answeringTo (db : Db) (trigger : Str) : Option PatternRow :=
  if trigger = [] then none else db.patterns.find? (db.answers trigger)

/-- The pattern whose response answers `q`: by its id, else by its intent. -/
def Db.answering (db : Db) (q : PatternRow) : Option PatternRow :=
  (db.answeringTo q.patternId).or (db.answeringTo q.intent)

/-- The template and the field mappings that are applied when `q` is served. -/
def Db.applied (db : Db) (q : PatternRow) : Option (TemplateRow × List MappingRow) :=
  (db.answering q).bind fun r => (db.templateOf r.patternId).map fun tmpl => (tmpl, db.mappingsOf r.intent)

/-- What the edited pattern answers to, before or after. -/
def triggersOf (patternId : Str) (db db' : Db) : List Str :=
  patternId :: (db.intentsOf patternId ++ db'.intentsOf patternId)

/-- A pattern with no trigger of the edited one, and whose id and intent name no pattern with one of its
    intents. -/
structure Apart (patternId : Str) (db db' : Db) (q : PatternRow) : Prop where
  id : q.patternId ∉ triggersOf patternId db db'
  intent : q.intent ∉ triggersOf patternId db db'
  named : ∀ r ∈ db.patterns, r.patternId = q.patternId ∨ r.patternId = q.intent → r.intent ∉ triggersOf patternId db db'

theorem Effect.answers (h : Effect patternId edit db db') (trigger : Str) {r : PatternRow} (hr : r.patternId ≠ patternId) :
    db'.answers trigger r = db.answers trigger r := by
  unfold Db.answers
  rw [h.templates _ hr]

/-- A pattern does not answer to what is none of its triggers. -/
theorem answers_of_notMem {trigger : Str} {r : PatternRow} (hr : r ∈ db.patterns) (hid : r.patternId = patternId)
    (hne : trigger ≠ patternId) (hintent : trigger ∉ db.intentsOf patternId) : db.answers trigger r = false := by
  have hne' : r.patternId ≠ trigger := fun heq => hne (heq.symm.trans hid)
  have hintent' : r.intent ≠ trigger := by
    rintro rfl
    exact hintent (List.mem_map.mpr ⟨r, List.mem_filter.mpr ⟨hr, by simpa using hid⟩, rfl⟩)
  unfold Db.answers
  simp [hne', hintent']

/-- Who answers to what is none of a pattern's triggers is found among the others. -/
theorem find?_answers {trigger : Str} (hne : trigger ≠ patternId) (hintent : trigger ∉ db.intentsOf patternId) :
    db.patterns.find? (db.answers trigger) =
      (db.patterns.filter fun r => r.patternId ≠ patternId).find? (db.answers trigger) := by
  rw [List.find?_filter]
  apply List.find?_congr
  intro r hr
  by_cases hid : r.patternId = patternId
  · simp [hid, answers_of_notMem hr hid hne hintent]
  · simp [hid]

/-- **An edit does not change who answers to what is none of the pattern's triggers.** -/
theorem Effect.answeringTo (h : Effect patternId edit db db') {trigger : Str} (hne : trigger ≠ patternId)
    (hold : trigger ∉ db.intentsOf patternId) (hnew : trigger ∉ db'.intentsOf patternId) :
    db'.answeringTo trigger = db.answeringTo trigger := by
  unfold Db.answeringTo
  by_cases hempty : trigger = []
  · rw [if_pos hempty, if_pos hempty]
  · rw [if_neg hempty, if_neg hempty, find?_answers hne hold, find?_answers hne hnew, h.patterns]
    apply List.find?_congr
    intro r hr
    have hother := (List.mem_filter.mp hr).2
    exact h.answers trigger (by simpa using hother)

/-- What answers to a trigger is stored, has a template and the trigger. -/
theorem answeringTo_spec {trigger : Str} {r : PatternRow} (h : db.answeringTo trigger = some r) :
    r ∈ db.patterns ∧ (db.templateOf r.patternId).isSome = true ∧ (r.patternId = trigger ∨ r.intent = trigger) := by
  unfold Db.answeringTo at h
  split at h
  · cases h
  · refine ⟨List.mem_of_find?_eq_some h, ?_⟩
    have hanswers := List.find?_some h
    unfold Db.answers at hanswers
    simpa using hanswers

/-- The edited pattern does not answer to what is none of its triggers. -/
theorem answeringTo_other {trigger : Str} {r : PatternRow} (h : db.answeringTo trigger = some r) (hne : trigger ≠ patternId)
    (hold : trigger ∉ db.intentsOf patternId) : r.patternId ≠ patternId := by
  obtain ⟨hr, _, htrigger⟩ := answeringTo_spec h
  intro hid
  rcases htrigger with heq | heq
  · exact hne (heq.symm.trans hid)
  · exact hold (heq ▸ List.mem_map.mpr ⟨r, List.mem_filter.mpr ⟨hr, by simpa using hid⟩, rfl⟩)

/-- A pattern apart from the edited one is served as before. -/
theorem Effect.applied_apart (h : Effect patternId edit db db') (hq : Apart patternId db db' q) :
    db'.applied q = db.applied q := by
  have hid := hq.id
  have hintent := hq.intent
  unfold triggersOf at hid hintent
  rw [List.mem_cons, List.mem_append, not_or, not_or] at hid hintent
  have hanswering : db'.answering q = db.answering q := by
    unfold Db.answering
    rw [h.answeringTo hid.1 hid.2.1 hid.2.2, h.answeringTo hintent.1 hintent.2.1 hintent.2.2]
  unfold Db.applied
  rw [hanswering]
  cases hr : db.answering q with
  | none => rfl
  | some r =>
    have hfound : (r ∈ db.patterns ∧ r.patternId ≠ patternId) ∧
        (r.patternId = q.patternId ∨ r.intent = q.patternId ∨ r.patternId = q.intent ∨ r.intent = q.intent) := by
      rcases Option.or_eq_some_iff.mp hr with hbyId | ⟨_, hbyIntent⟩
      · obtain ⟨hmem, _, htrigger⟩ := answeringTo_spec hbyId
        exact ⟨⟨hmem, answeringTo_other hbyId hid.1 hid.2.1⟩, htrigger.imp_right .inl⟩
      · obtain ⟨hmem, _, htrigger⟩ := answeringTo_spec hbyIntent
        exact ⟨⟨hmem, answeringTo_other hbyIntent hintent.1 hintent.2.1⟩, .inr (.inr htrigger)⟩
    obtain ⟨⟨hmem, hother⟩, htrigger⟩ := hfound
    -- The mappings applied are those of the answering pattern's intent, which is none of the edited one's.
    have hfree : r.intent ∉ triggersOf patternId db db' := by
      rcases htrigger with heq | heq | heq | heq
      · exact hq.named r hmem (.inl heq)
      · exact heq ▸ hq.id
      · exact hq.named r hmem (.inr heq)
      · exact heq ▸ hq.intent
    unfold triggersOf at hfree
    rw [List.mem_cons, List.mem_append, not_or, not_or] at hfree
    rw [Option.bind_some, Option.bind_some, h.templates _ hother, h.mappings _ hfree.2.1 hfree.2.2]

/-- A pattern with a template of its own, whose id is no intent of the edited one, keeps its template; it keeps
    its mappings too unless mappings are replaced. -/
theorem Effect.applied_own (h : Effect patternId edit db db') (hq : q ∈ db.patterns) (hne : q.patternId ≠ patternId)
    (hown : (db.templateOf q.patternId).isSome = true) (hnamed : q.patternId ≠ [])
    (hold : q.patternId ∉ db.intentsOf patternId) (hnew : q.patternId ∉ db'.intentsOf patternId) :
    (db'.applied q).map Prod.fst = (db.applied q).map Prod.fst ∧
      (edit.replacesMappings = false → db'.applied q = db.applied q) := by
  have hfinds : (db.answeringTo q.patternId).isSome = true := by
    unfold Db.answeringTo
    rw [if_neg hnamed, List.find?_isSome]
    refine ⟨q, hq, ?_⟩
    unfold Db.answers
    simp [hown]
  obtain ⟨r, hr⟩ := Option.isSome_iff_exists.mp hfinds
  obtain ⟨hmem, _, _⟩ := answeringTo_spec hr
  have hother := answeringTo_other hr hne hold
  have hr' : db'.answeringTo q.patternId = some r := (h.answeringTo hne hold hnew).trans hr
  unfold Db.applied Db.answering
  rw [hr, hr', Option.some_or, Option.some_or, Option.bind_some, Option.bind_some, h.templates _ hother]
  constructor
  · rw [Option.map_map, Option.map_map]
    rfl
  · intro hkeeps
    rw [h.shared hkeeps r hmem hother]

end

/-! ## What is served after an edit -/

section
variable (H : Host) (R : Registered)

/-- The export of what is stored. -/
def exportStored (s : State) : Result PatternDB := do
  let tables ← s.db.tables H
  exportPatterns R.deviceId R.vendor R.deviceType (stateConfig s.header (servedConfig (s.learner tables))) tables

/-- Exactly what is stored is served, with the patterns of the user's file; nothing when there are none. -/
def Serves (s : State) (cached : Option PatternDB) : Prop :=
  ∃ doc, exportStored H R s = .ok doc ∧
    cached = if (withSeed (s.learner {}) doc).client.endpoints.isEmpty then none else some (withSeed (s.learner {}) doc)

/-- Every row that is exported reads. -/
structure Db.Reads (db : Db) : Prop where
  patterns : ∀ pat ∈ db.patterns, pat.reads = true
  templates : ∀ pat ∈ db.patterns, ∀ tmpl ∈ db.templateOf pat.patternId,
    (H.readInt tmpl.statusCode).toBool = true ∧ readsAsHeaders tmpl.headersTemplate = true ∧
      readsAsBody tmpl.bodyTemplate = true
  mappings : ∀ m ∈ db.mappings, m.reads = true

/-- Every row reads, the sensors start, and the pattern file can be written. -/
structure Syncable (s : State) : Prop where
  reads : s.db.Reads H
  header : ∀ m ∈ s.header, m.virtualSensors.all startsSensor = true
  cached : ∀ doc ∈ s.cached, doc.server.virtualSensors.all startsSensor = true
  seed : ∀ doc ∈ s.seed, doc.server.virtualSensors.all startsSensor = true
  written : R.written = true

end

section
variable {H : Host} {R : Registered} {s : State} {db : Db} {q : PatternRow}

/-- A sync that completes serves the export. -/
theorem serves_of_synced {tables : DeviceDb} {cached : Option PatternDB} (htables : s.db.tables H = .ok tables)
    (h : syncedPatterns R.deviceId R.vendor R.deviceType R.written (s.learner tables) = .ok cached) :
    Serves H R s cached := by
  unfold syncedPatterns at h
  obtain ⟨doc, hdoc, h⟩ := Except.bind_ok_iff.mp h
  have happlied : ∀ {doc' : PatternDB} {cached : Option PatternDB}, applied doc' = .ok cached → cached = some doc' := by
    intro doc' cached happlied
    unfold applied at happlied
    split at happlied
    · cases happlied
      rfl
    · cases happlied
  have hexport : exportStored H R s = .ok doc := by
    unfold exportStored
    rw [htables, Except.ok_bind]
    exact hdoc
  refine ⟨doc, hexport, ?_⟩
  have hseed : withSeed (s.learner tables) doc = withSeed (s.learner {}) doc := rfl
  rw [hseed] at h
  by_cases hempty : (withSeed (s.learner {}) doc).client.endpoints.isEmpty = true
  · rw [if_pos hempty] at h ⊢
    cases h
    rfl
  · rw [if_neg hempty] at h ⊢
    split at h
    · exact happlied h
    · obtain ⟨_, _, h⟩ := Except.bind_ok_iff.mp h
      split at h
      · exact happlied h
      · cases h

/-- A sync either serves what is stored, or leaves what was served. -/
theorem resync_cached (H : Host) (R : Registered) (s : State) :
    (resync H R s).cached = s.cached ∨ Serves H R s (resync H R s).cached := by
  unfold resync
  cases htables : s.db.tables H with
  | error e => exact .inl rfl
  | ok tables =>
    dsimp only
    unfold exportAndSyncPatterns
    cases hsync : syncedPatterns R.deviceId R.vendor R.deviceType R.written (s.learner tables) with
    | error e => exact .inl rfl
    | ok cached => exact .inr (serves_of_synced htables hsync)

/-- The tables of rows that read can be exported. -/
theorem Db.Reads.exportable (h : db.Reads H) : ∃ tables, db.tables H = .ok tables ∧ Exportable tables := by
  have hread : ∀ tmpl ∈ db.patterns.filterMap fun pat => db.templateOf pat.patternId,
      ∃ row, TemplateRow.read H tmpl = .ok row ∧ row.reads = true := by
    intro tmpl htmpl
    obtain ⟨pat, hpat, htemplate⟩ := List.mem_filterMap.mp htmpl
    obtain ⟨hstatus, hheaders, hbody⟩ := h.templates pat hpat tmpl htemplate
    obtain ⟨statusCode, hstatusCode⟩ := Except.exists_ok hstatus
    unfold TemplateRow.read
    rw [hstatusCode]
    exact ⟨_, rfl, by simp [ResponseTemplate.reads, hheaders, hbody]⟩
  obtain ⟨templates, htemplates, hall⟩ := Except.mapM_forall₂ hread
  refine ⟨_, by unfold Db.tables; rw [htemplates, Except.ok_bind], ?_⟩
  constructor
  · intro pat hpat
    obtain ⟨row, hrow, rfl⟩ := List.mem_map.mp hpat
    exact h.patterns row hrow
  · intro row hrow
    obtain ⟨_, _, hreads⟩ := hall.exists_left hrow
    exact hreads
  · intro m hm
    obtain ⟨row, hrow, rfl⟩ := List.mem_map.mp hm
    exact h.mappings row hrow

theorem Syncable.serves (h : Syncable H R s) : Serves H R s (resync H R s).cached := by
  obtain ⟨tables, htables, hexportable⟩ := h.reads.exportable
  obtain ⟨cached, hsync, _⟩ := syncedPatterns_ok R.deviceId R.vendor R.deviceType (s.learner tables) hexportable
    h.header h.cached h.seed
  rw [← h.written] at hsync
  have hserves := serves_of_synced htables hsync
  unfold resync
  rw [htables]
  dsimp only
  unfold exportAndSyncPatterns
  rw [hsync]
  exact hserves

/-! ## Served is what is applied -/

/-- A response that is exported with this template and these mappings. -/
def ExportedAs (H : Host) (triggers : List Str) (tmpl : TemplateRow) (ms : List MappingRow) (resp : ServerResponse) : Prop :=
  ∃ row, tmpl.read H = .ok row ∧ exportTemplate row triggers (ms.map (·.toFieldMappingRow)) = .ok resp

theorem ExportedAs.triggers {triggers : List Str} {tmpl : TemplateRow} {ms : List MappingRow} {resp : ServerResponse}
    (h : ExportedAs H triggers tmpl ms resp) : resp.triggers = triggers := by
  obtain ⟨row, _, h⟩ := h
  unfold exportTemplate at h
  obtain ⟨_, _, h⟩ := Except.bind_ok_iff.mp h
  obtain ⟨_, _, h⟩ := Except.bind_ok_iff.mp h
  obtain ⟨_, _, h⟩ := Except.bind_ok_iff.mp h
  cases h
  rfl

theorem TemplateRow.read_id {tmpl : TemplateRow} {row : ResponseTemplate} (h : tmpl.read H = .ok row) :
    row.patternId = tmpl.patternId := by
  unfold TemplateRow.read at h
  obtain ⟨_, _, h⟩ := Except.bind_ok_iff.mp h
  cases h
  rfl

theorem templateOf_id {id : Str} {tmpl : TemplateRow} (h : db.templateOf id = some tmpl) : tmpl.patternId = id := by
  have hmem := List.mem_filter.mp (List.mem_of_getLast? h)
  simpa using hmem.2

/-- Of the templates that are read, the last of a pattern is the last that is stored. -/
theorem getLast?_templates (hq : q ∈ db.patterns) :
    ((db.patterns.filterMap fun pat => db.templateOf pat.patternId).filter fun tmpl => tmpl.patternId == q.patternId).getLast? =
      db.templateOf q.patternId := by
  have hall : ∀ tmpl ∈ (db.patterns.filterMap fun pat => db.templateOf pat.patternId).filter
      fun tmpl => tmpl.patternId == q.patternId, db.templateOf q.patternId = some tmpl := by
    intro tmpl htmpl
    obtain ⟨hmem, hid⟩ := List.mem_filter.mp htmpl
    obtain ⟨pat, _, hpat⟩ := List.mem_filterMap.mp hmem
    rw [← beq_iff_eq.mp hid, templateOf_id hpat]
    exact hpat
  cases htmpl : db.templateOf q.patternId with
  | none =>
    rw [List.getLast?_eq_none_iff]
    apply List.eq_nil_iff_forall_not_mem.mpr
    intro tmpl hmem
    rw [hall tmpl hmem] at htmpl
    cases htmpl
  | some tmpl =>
    have hmem : tmpl ∈ (db.patterns.filterMap fun pat => db.templateOf pat.patternId).filter
        fun tmpl => tmpl.patternId == q.patternId :=
      List.mem_filter.mpr ⟨List.mem_filterMap.mpr ⟨q, hq, htmpl⟩, by simpa using templateOf_id htmpl⟩
    cases hlast : ((db.patterns.filterMap fun pat => db.templateOf pat.patternId).filter
        fun tmpl => tmpl.patternId == q.patternId).getLast? with
    | none =>
      rw [List.getLast?_eq_none_iff] at hlast
      rw [hlast] at hmem
      cases hmem
    | some last =>
      have hstored := hall last (List.mem_of_getLast? hlast)
      rw [htmpl] at hstored
      exact hstored.symm

/-- The template of a pattern in the tables that are exported is its own, read. -/
theorem templateOf_tables {tables : DeviceDb} (h : db.tables H = .ok tables) (hq : q ∈ db.patterns) :
    Option.Rel (fun tmpl row => TemplateRow.read H tmpl = .ok row) (db.templateOf q.patternId)
      (tables.templateOf q.patternId) := by
  unfold Db.tables at h
  obtain ⟨templates, htemplates, h⟩ := Except.bind_ok_iff.mp h
  cases h
  have hread := Except.forall₂_of_mapM htemplates
  have hfiltered : List.Forall₂ (fun tmpl row => TemplateRow.read H tmpl = .ok row)
      ((db.patterns.filterMap fun pat => db.templateOf pat.patternId).filter fun tmpl => tmpl.patternId == q.patternId)
      (templates.filter fun row => row.patternId == q.patternId) := by
    refine List.rel_filter ?_ hread
    intro tmpl row hrow
    dsimp only
    rw [TemplateRow.read_id hrow]
  have hlast := hfiltered.getLast?_rel
  rw [getLast?_templates hq] at hlast
  exact hlast

/-- A pattern row is exported with its template and the mappings of its intent. -/
theorem exportResponse_row {tables : DeviceDb} {resp : Option ServerResponse} (h : db.tables H = .ok tables) (hq : q ∈ db.patterns)
    (hresp : exportResponse patternTriggers tables q.toRequestPattern = .ok resp) :
    Option.Rel (fun tmpl resp => ExportedAs H [q.patternId, q.intent] tmpl (db.mappingsOf q.intent) resp)
      (db.templateOf q.patternId) resp := by
  have htemplate := templateOf_tables h hq
  have hmappings : tables.mappingsOf q.intent = (db.mappingsOf q.intent).map (·.toFieldMappingRow) := by
    unfold Db.tables at h
    obtain ⟨templates, _, h⟩ := Except.bind_ok_iff.mp h
    cases h
    unfold DeviceDb.mappingsOf Db.mappingsOf
    rw [List.filter_map]
    rfl
  unfold exportResponse at hresp
  rw [hmappings] at hresp
  generalize tables.templateOf q.patternId = row at htemplate hresp
  generalize db.templateOf q.patternId = tmpl at htemplate ⊢
  cases htemplate with
  | none =>
    cases hresp
    exact .none
  | some hread =>
    obtain ⟨resp', hresp', rfl⟩ := Except.map_ok_iff.mp hresp
    exact .some ⟨_, hread, hresp'⟩

/-- The response of the id comes first, and that of the intent second; neither is looked up when it is empty. -/
theorem responseForEndpoint_or (map : Dict Str ServerResponse) (id intent : Str) :
    responseForEndpoint map id intent =
      (if id = [] then none else map.get? id).or (if intent = [] then none else map.get? intent) := by
  unfold responseForEndpoint Dict.has
  by_cases hid : id = []
  · simp [hid]
  · cases hget : map.get? id with
    | none => simp [hid]
    | some resp => simp [hid]

theorem contains_pair (trigger id intent : Str) :
    [id, intent].contains trigger = (id == trigger || intent == trigger) := by
  rw [List.contains_cons, List.contains_cons, List.contains_nil, Bool.or_false, BEq.comm, BEq.comm (a := trigger)]

/-- **A stored pattern is served as its endpoint, and answered with the template and the mappings that apply.** -/
theorem served_applied {doc : PatternDB} (h : exportStored H R s = .ok doc) (hq : q ∈ s.db.patterns) :
    (∃ ep ∈ doc.client.endpoints, exportEndpoint q.toRequestPattern = .ok ep) ∧
      Option.Rel (fun applied resp => ∃ triggers, ExportedAs H triggers applied.1 applied.2 resp) (s.db.applied q)
        (responseForEndpoint (responsesByTrigger doc.server.responses) q.patternId q.intent) := by
  unfold exportStored at h
  obtain ⟨tables, htables, h⟩ := Except.bind_ok_iff.mp h
  have hpatterns : tables.patterns = s.db.patterns.map (·.toRequestPattern) := by
    unfold Db.tables at htables
    obtain ⟨_, _, htables⟩ := Except.bind_ok_iff.mp htables
    cases htables
    rfl
  unfold exportPatterns at h
  obtain ⟨eps, heps, h⟩ := Except.bind_ok_iff.mp h
  obtain ⟨resps, hresps, h⟩ := Except.bind_ok_iff.mp h
  cases h
  constructor
  · have hmem : q.toRequestPattern ∈ tables.patterns := hpatterns ▸ List.mem_map_of_mem hq
    obtain ⟨ep, hep, hexport⟩ := (Except.forall₂_of_mapM heps).exists_right hmem
    exact ⟨ep, hep, hexport⟩
  -- every row has its response at its place, so a lookup by trigger finds the same row on both sides
  · have hrows : List.Forall₂ (fun r resp => Option.Rel
        (fun tmpl resp => ExportedAs H [r.patternId, r.intent] tmpl (s.db.mappingsOf r.intent) resp)
        (s.db.templateOf r.patternId) resp) s.db.patterns resps := by
      have hexported := Except.forall₂_of_mapM hresps
      rw [hpatterns, List.forall₂_map_left_iff] at hexported
      exact hexported.imp_of_mem fun r hr resp hresp => exportResponse_row htables hr hresp
    have hfind : ∀ trigger, Option.Rel (fun r resp => Option.Rel
        (fun tmpl resp => ExportedAs H [r.patternId, r.intent] tmpl (s.db.mappingsOf r.intent) resp)
        (s.db.templateOf r.patternId) (some resp)) (s.db.answeringTo trigger)
        (if trigger = [] then none else (responsesByTrigger resps.reduceOption).get? trigger) := by
      intro trigger
      unfold Db.answeringTo
      by_cases hempty : trigger = []
      · rw [if_pos hempty, if_pos hempty]
        exact .none
      · rw [if_neg hempty, if_neg hempty, get?_responsesByTrigger]
        apply find?_triggered hrows
        · intro r tmpl resp htmpl hresp
          unfold Db.answers
          rw [hresp.triggers, htmpl, contains_pair, Option.isSome_some, Bool.true_and]
        · intro r hnone
          unfold Db.answers
          rw [hnone, Option.isSome_none, Bool.false_and]
    have hfirst := hfind q.patternId
    have hsecond := hfind q.intent
    rw [responseForEndpoint_or]
    unfold Db.applied Db.answering
    generalize s.db.answeringTo q.patternId = byId at hfirst
    generalize s.db.answeringTo q.intent = byIntent at hsecond
    generalize (if q.patternId = [] then none else (responsesByTrigger resps.reduceOption).get? q.patternId) = first at hfirst
    generalize (if q.intent = [] then none else (responsesByTrigger resps.reduceOption).get? q.intent) = second at hsecond
    -- the answer is the one found by id, else by intent
    have hpick : ∀ {found : Option PatternRow} {resp : Option ServerResponse},
        Option.Rel (fun r resp => Option.Rel
          (fun tmpl resp => ExportedAs H [r.patternId, r.intent] tmpl (s.db.mappingsOf r.intent) resp)
          (s.db.templateOf r.patternId) (some resp)) found resp →
        Option.Rel (fun applied resp => ∃ triggers, ExportedAs H triggers applied.1 applied.2 resp)
          (found.bind fun r => (s.db.templateOf r.patternId).map fun tmpl => (tmpl, s.db.mappingsOf r.intent)) resp := by
      intro found resp hrel
      cases hrel with
      | none => exact .none
      | @some r resp hrel =>
        rw [Option.bind_some]
        generalize s.db.templateOf r.patternId = tmpl at hrel
        cases hrel with
        | some hexported => exact .some ⟨_, hexported⟩
    cases hfirst with
    | none => exact hpick hsecond
    | some hrel => exact hpick (.some hrel)

end

/-! ## The law -/

/-- What an edit leaves of another pattern: its row and its template; if it is apart from the edited pattern, or
    has a template of its own and the edit replaces no mappings, all that it is served with. -/
structure Spares (patternId : Str) (edit : Edit) (db db' : Db) (q : PatternRow) : Prop where
  row : q ∈ db'.patterns
  template : db'.templateOf q.patternId = db.templateOf q.patternId
  apart : Apart patternId db db' q → db'.applied q = db.applied q
  own : (db.templateOf q.patternId).isSome = true → q.patternId ≠ [] → q.patternId ∉ db.intentsOf patternId →
    q.patternId ∉ db'.intentsOf patternId →
      (db'.applied q).map Prod.fst = (db.applied q).map Prod.fst ∧
        (edit.replacesMappings = false → db'.applied q = db.applied q)

/-- A pattern of a device is an endpoint of its export, and is answered with the template and the mappings that
    apply. -/
structure AnsweredAs (H : Host) (db : Db) (doc : PatternDB) (q : PatternRow) : Prop where
  endpoint : ∃ ep ∈ doc.client.endpoints, exportEndpoint q.toRequestPattern = .ok ep
  response : Option.Rel (fun applied resp => ∃ triggers, ExportedAs H triggers applied.1 applied.2 resp) (db.applied q)
    (responseForEndpoint (responsesByTrigger doc.server.responses) q.patternId q.intent)

/-- An edit that is refused changes nothing. After one that goes through, what is stored is served as soon as all
    of it reads, and until then what was served stays; the other patterns are spared. -/
structure TakesEffect (H : Host) (R : Registered) (patternId : Str) (edit : Edit) (s s' : State) (status : Nat) : Prop where
  refused : status ≠ 200 → s' = s
  served : status = 200 → s'.cached = s.cached ∨ Serves H R { s with db := s'.db } s'.cached
  synced : status = 200 → Syncable H R { s with db := s'.db } → Serves H R { s with db := s'.db } s'.cached
  answered : ∀ doc, exportStored H R { s with db := s'.db } = .ok doc → ∀ q ∈ s'.db.patterns, AnsweredAs H s'.db doc q
  spared : status = 200 → ∀ q ∈ s.db.patterns, q.patternId ≠ patternId → Spares patternId edit s.db s'.db q

section
variable {H : Host} {R : Registered} {draws : Draws} {patternId : Str} {edit : Edit} {s : State} {db db' : Db} {q : PatternRow}

theorem Effect.spares (h : Effect patternId edit db db') (hq : q ∈ db.patterns) (hne : q.patternId ≠ patternId) :
    Spares patternId edit db db' q where
  row := by
    have hkept : q ∈ db.patterns.filter fun pat => pat.patternId ≠ patternId :=
      List.mem_filter.mpr ⟨hq, by simpa using hne⟩
    rw [← h.patterns] at hkept
    exact (List.mem_filter.mp hkept).1
  template := h.templates _ hne
  apart := h.applied_apart
  own hown hnamed hold hnew := h.applied_own hq hne hown hnamed hold hnew

/-- A sync does not touch what is stored. -/
@[simp] theorem resync_db (H : Host) (R : Registered) (s : State) : (resync H R s).db = s.db := by
  unfold resync
  split <;> rfl

theorem answeredAs_of_exported {doc : PatternDB} (h : exportStored H R s = .ok doc) (hq : q ∈ s.db.patterns) :
    AnsweredAs H s.db doc q where
  endpoint := (served_applied h hq).1
  response := (served_applied h hq).2

end

/-- **An edit of a pattern takes effect, and spares the others.** -/
theorem edit_takesEffect (H : Host) (R : Registered) (draws : Draws) (patternId : Str) (edit : Edit) (s : State) :
    TakesEffect H R patternId edit s (handle H draws patternId R edit s).1 (handle H draws patternId R edit s).2.status := by
  unfold handle
  cases hsession : edit.session H draws patternId s.db with
  | error e =>
    constructor
    · intro _
      rfl
    · intro hstatus
      cases hstatus
    · intro hstatus
      cases hstatus
    · intro doc hdoc q hq
      exact answeredAs_of_exported hdoc hq
    · intro hstatus
      cases hstatus
  | ok stored =>
    cases stored with
    | none =>
      constructor
      · intro _
        rfl
      · intro hstatus
        cases hstatus
      · intro hstatus
        cases hstatus
      · intro doc hdoc q hq
        exact answeredAs_of_exported hdoc hq
      · intro hstatus
        cases hstatus
    | some db =>
      have hdb : { s with db := (resync H R { s with db }).db } = { s with db } := by rw [resync_db]
      constructor
      · intro hstatus
        exact absurd rfl hstatus
      · intro _
        rw [hdb]
        exact resync_cached H R { s with db }
      · intro _ hsyncable
        rw [hdb] at hsyncable ⊢
        exact hsyncable.serves
      · intro doc hdoc q hq
        rw [hdb] at hdoc
        rw [resync_db] at hq ⊢
        exact answeredAs_of_exported hdoc hq
      · intro _ q hq hne
        rw [resync_db]
        exact (effect_session hsession).spares hq hne

/-! ## Two lamps of one intent -/

/-- Texts and numbers are stored where they belong, and nothing else. -/
def strictHost : Host where
  bindText
    | .str text => .ok text
    | _         => .error .other
  bindInt
    | .null => .error .other
    | value => .ok value
  bindFloat
    | .float value => .ok value
    | _            => .error .other
  readInt
    | .int value => .ok value
    | _          => .error .typeError

def lampDraws : Draws where
  template := "5f3c9a10"
  mapping _ := "b81d02ee"

def lampDevice : Registered where
  deviceId := "lamp"
  vendor := "acme"
  deviceType := "light"
  written := true

def lampPattern (patternId path : Str) : PatternRow where
  patternId
  method := "GET"
  pathPattern := path
  protocol := "http"
  requiredHeaders := .arr []
  bodySchema := .obj []
  queryParamKeys := .arr []
  intent := "power"
  confidence := defaultConfidence

def lampTemplate (patternId : Str) : TemplateRow where
  templateId := patternId
  patternId
  statusCode := .int 200
  headersTemplate := .obj []
  bodyTemplate := .obj []
  fieldMappings := .obj []
  expectedVariables := .arr []
  confidence := defaultConfidence

/-- Two patterns with a template each, and a field mapping of the intent that they share. -/
def twoLamps : State where
  db :=
    { patterns := [lampPattern "on" "/on", lampPattern "off" "/off"]
      templates := [lampTemplate "on", lampTemplate "off"]
      mappings :=
        [{ mappingId := "level", requestField := "level", responseField := "result.level", transform := none
           formula := none, enumValues := .null, intent := "power", requestType := "string"
           responseType := "string", confidence := defaultConfidence }] }

/-- What is asked for to the letter: an edit that goes through is served at once, and another pattern is served as
    before. -/
structure LeavesOthers (H : Host) (R : Registered) (patternId : Str) (s s' : State) (status : Nat) : Prop where
  refused : status ≠ 200 → s' = s
  served : status = 200 → Serves H R { s with db := s'.db } s'.cached
  others : status = 200 → ∀ q ∈ s.db.patterns, q.patternId ≠ patternId → q ∈ s'.db.patterns ∧ s'.db.applied q = s.db.applied q

/-- Headers that are no list. -/
def oddHeaders : Edit := .patch (.obj [("required_headers", .int 5)])

/-- No field mappings. -/
def noMappings : Edit := .patch (.obj [("field_mappings", .arr [])])

/-- Headers that are no list are stored, and then nothing is exported; the field mappings that are dropped are those
    of the other lamp too. -/
theorem lampEdits_disturb :
    (¬ ∀ H R draws patternId edit s, LeavesOthers H R patternId s (handle H draws patternId R edit s).1
      (handle H draws patternId R edit s).2.status) ∧
    ¬ LeavesOthers strictHost lampDevice "on" twoLamps (handle strictHost lampDraws "on" lampDevice oddHeaders twoLamps).1
      (handle strictHost lampDraws "on" lampDevice oddHeaders twoLamps).2.status ∧
    ¬ LeavesOthers strictHost lampDevice "on" twoLamps (handle strictHost lampDraws "on" lampDevice noMappings twoLamps).1
      (handle strictHost lampDraws "on" lampDevice noMappings twoLamps).2.status := by
  have hheaders : ¬ LeavesOthers strictHost lampDevice "on" twoLamps
      (handle strictHost lampDraws "on" lampDevice oddHeaders twoLamps).1
      (handle strictHost lampDraws "on" lampDevice oddHeaders twoLamps).2.status := by
    intro h
    obtain ⟨doc, hdoc, _⟩ := h.served (by decide +kernel)
    have hraises : (exportStored strictHost lampDevice
        { twoLamps with db := (handle strictHost lampDraws "on" lampDevice oddHeaders twoLamps).1.db }).toBool = false := by
      decide +kernel
    rw [hdoc] at hraises
    cases hraises
  refine ⟨fun h => hheaders (h _ _ lampDraws _ _ _), hheaders, ?_⟩
  intro h
  obtain ⟨_, happlied⟩ := h.others (by decide +kernel) (lampPattern "off" "/off") (by decide +kernel) (by decide +kernel)
  revert happlied
  decide +kernel

end RideTheApi.PatternEdits
