import RideTheApi.PatternDb.Exportable
import RideTheApi.Py.Float
import RideTheApi.Py.Format

/-!
# `Pipeline.SavePatterns` — storing what the LLM answers

A reply is merged as a delta of the device model, else ingested as a pattern document, else read pattern by
pattern into the tables, whose JSON columns take whatever it holds. The export reads the tables back
through typed models: a database is `Exportable` when these take every column. Deltas and documents only
store what reads back (`exportable_saveDelta`, `exportable_saveDocument`), the patterns of a reply do where
they are `Learnable` (`learnPatterns_ok`).
-/

namespace RideTheApi.SavePatterns

open Py PatternDb KeyedTable

/-- What saving takes from the interpreter, from pydantic and from the driver of the device database. A JSON
    column takes every value that was read from JSON. -/
structure Host where
  interp : Interp
  /-- `hashlib.md5(text.encode("utf-8")).hexdigest()`. -/
  digest : Str → Result Str
  /-- `float(value)`; an integer beyond the range raises an `OverflowError`. -/
  toFloat : Json → Result (BitVec 64)
  /-- `int(value)`; an infinity raises an `OverflowError`. -/
  toInt : Json → Result Int
  /-- `DeviceModel.model_validate`. -/
  validateModel : Dict Str Json → Result DeviceModel
  /-- `PatternDB.model_validate`. -/
  validateDb : Dict Str Json → Result PatternDB
  /-- What a text column that may not be null stores of a value. -/
  bindText : Json → Result Str
  /-- A query for the rows with these ids. -/
  query : List Str → Result Unit
  /-- The driver takes the queries and the rows of a merge. -/
  takesModel : DeviceModel → Result Unit
  /-- The registry and the driver take the device and the rows of an import. -/
  takesDb : PatternDB → Result Unit

/-! ## Values of a reply -/

/-- `reply.get(key)`. -/
def field (reply : Dict Str Json) (key : Str) : Json := (reply.get? key).getD .null

/-- The default of `_confidence`, 0.5. -/
def defaultConfidence : BitVec 64 := 0x3fe0000000000000

/-- `_as_key_list`. -/
def asKeyList : Json → Json
  | .obj kvs => .arr (kvs.map fun kv => .str kv.1)
  | .arr xs  => .arr xs
  | _        => .arr []

/-- `_pattern_headers`. -/
def patternHeaders (data : Dict Str Json) : Json :=
  asKeyList ((field data "required_headers").orElse (field data "request_headers"))

/-- `_pattern_query_keys`. -/
def patternQueryKeys (data : Dict Str Json) : Json :=
  asKeyList (((field data "query_param_keys").orElse (field data "query_params")).orElse (field data "query_keys"))

/-- `_listed_patterns`. -/
def listedPatterns (analysis : Dict Str Json) : List (Dict Str Json) :=
  match (analysis.get? "patterns").getD ((analysis.get? "decoded_patterns").getD (.arr [])) with
  | .obj pattern  => [pattern]
  | .arr patterns => patterns.filterMap fun
    | .obj pattern => some pattern
    | _            => none
  | _             => []

/-- The patterns of a reply: without a list of them, the reply itself. -/
def repliedPatterns (analysis : Dict Str Json) : List (Dict Str Json) :=
  if listedPatterns analysis = [] ∧ !(analysis.has "patterns" || analysis.has "decoded_patterns") then [analysis]
  else listedPatterns analysis

/-- The response of a pattern; one that is empty or no object makes no template. -/
def responseData (data : Dict Str Json) : Dict Str Json :=
  match (data.get? "response").getD ((data.get? "response_template").getD (.obj [])) with
  | .obj response => response
  | _             => []

/-- `stored_formula` of any value. -/
def learnedFormula : Json → Option Str
  | .str formula => storedFormula formula
  | _            => none

/-- A field mapping of a pattern: its id, the request field and the object that describes it. -/
structure PreparedMapping where
  mappingId : Str
  requestField : Str
  respInfo : Dict Str Json

/-- The field mappings of a pattern; what is neither a text nor an object maps nothing. -/
def preparedMappings (deviceId intent : Str) (data : Dict Str Json) : List PreparedMapping :=
  match (data.get? "field_mappings").getD (.obj []) with
  | .obj mappings => mappings.filterMap fun mapping =>
    match mapping.2 with
    | .str target => some
      { mappingId := mappingId deviceId intent mapping.1
        requestField := mapping.1
        respInfo := [("response_field", .str target), ("type", .str "string")] }
    | .obj info   => some
      { mappingId := mappingId deviceId intent mapping.1
        requestField := mapping.1
        respInfo := info }
    | _           => none
  | _             => []

/-- A pattern with its ids. -/
structure Prepared where
  patternData : Dict Str Json
  intent : Str
  method : Str
  path : Str
  patternId : Str
  respData : Dict Str Json
  mappings : List PreparedMapping

/-- The field mappings that are not stored yet, each id once and under its intent. -/
def newMappings : List Str → List (Str × PreparedMapping) → List (Str × PreparedMapping)
  | _,     []      => []
  | known, m :: ms =>
    if m.2.mappingId ∈ known then newMappings known ms else m :: newMappings (m.2.mappingId :: known) ms

/-- What the rows end up with of several patterns of one id: the last one. -/
def written (items : List Prepared) : List Prepared :=
  items.foldl (fun kept item => upsert (·.patternId) item.patternId item (fun _ => item) kept) []

/-- The patterns that have a response. -/
def answered (items : List Prepared) : List Prepared := items.filter fun item => item.respData ≠ []

/-- The field mappings of the patterns of a reply. -/
def repliedMappings (items : List Prepared) : List (Str × PreparedMapping) :=
  items.flatMap fun item => item.mappings.map (Prod.mk item.intent)

/-- The ids that are looked up before anything is stored: patterns, templates and field mappings. -/
def lookups (items : List Prepared) : List (List Str) :=
  [items.map (·.patternId), (answered items).map (templateId ·.patternId),
    (repliedMappings items).map (·.2.mappingId)]

section
variable (H : Host) (deviceId : Str)

/-- `_confidence`. -/
def confidence : Json → Result (BitVec 64)
  | .bool _ => .ok defaultConfidence
  | value   =>
    match H.toFloat value with
    | .ok number         =>
      if isFinite number then
        let number := if floatLt number 0 then 0 else number
        .ok (if floatLt 0x3ff0000000000000 number then 0x3ff0000000000000 else number)
      else .ok defaultConfidence
    | .error .typeError  => .ok defaultConfidence
    | .error .valueError => .ok defaultConfidence
    | .error e           => .error e

/-- `_status_code`. -/
def statusCode : Json → Result Int
  | .bool _ => .ok 200
  | value   =>
    let value : Json := match value with
      | .str s => .str (s.stripSpace.before (cp ' '))
      | v      => v
    match H.toInt value with
    | .ok code           => .ok (if 100 ≤ code ∧ code ≤ 599 then code else 200)
    | .error .typeError  => .ok 200
    | .error .valueError => .ok 200
    | .error e           => .error e

/-! ## The patterns of a reply -/

/-- The ids and texts of a pattern. -/
def prepare (data : Dict Str Json) : Result Prepared := do
  let intent ← strOf H.interp ((field data "intent").orElse (.str "unknown"))
  let method ← strOf H.interp (((field data "method").orElse (field data "request_method")).orElse (.str "POST"))
  let path ← strOf H.interp (((field data "path").orElse (field data "request_path")).orElse (.str "/unknown"))
  let digest ← H.digest path
  let patternId := deviceId ++ (str "_" ++ (intent ++ (str "_" ++ digest.take 8)))
  .ok
    { patternData := data, intent, method, path, patternId
      respData := responseData data
      mappings := preparedMappings deviceId intent data }

/-- The numbers of a pattern, whose columns are not modelled here, but which are computed all the same. -/
def checkNumbers (item : Prepared) : Result Unit := do
  let _ ← confidence H (field item.patternData "confidence")
  if item.respData = [] then .ok ()
  else do
    let _ ← statusCode H (field item.respData "status_code")
    let _ ← confidence H (field item.respData "confidence")
    .ok ()

/-- The row of a pattern. -/
def bindPattern (item : Prepared) : Result RequestPattern := do
  let patternId ← H.bindText (.str item.patternId)
  let method ← H.bindText (.str item.method)
  let pathPattern ← H.bindText (.str item.path)
  let protocol ← H.bindText ((item.patternData.get? "protocol").getD (.str "http"))
  let intent ← H.bindText (.str item.intent)
  .ok
    { patternId, method, pathPattern, protocol, intent
      requiredHeaders := patternHeaders item.patternData
      bodySchema := (item.patternData.get? "body_schema").getD (.obj [])
      queryParamKeys := patternQueryKeys item.patternData }

/-- The template of a pattern with a response. -/
def bindTemplate (item : Prepared) : Result ResponseTemplate := do
  let code ← statusCode H (field item.respData "status_code")
  let id ← H.bindText (.str (templateId item.patternId))
  let patternId ← H.bindText (.str item.patternId)
  .ok
    { templateId := id
      patternId
      statusCode := code
      headersTemplate := (item.respData.get? "headers").getD (.obj [])
      bodyTemplate := (item.respData.get? "body").getD (.obj [])
      fieldMappings := (item.respData.get? "field_mappings").getD (.obj []) }

/-- What a text column that may be null stores of a value. -/
def bindNullable : Json → Result (Option Str)
  | .null => .ok none
  | value => (H.bindText value).map some

/-- The row of a new field mapping, under its intent. -/
def bindMapping (m : Str × PreparedMapping) : Result FieldMappingRow := do
  let _ ← confidence H (field m.2.respInfo "confidence")
  let id ← H.bindText (.str m.2.mappingId)
  let requestField ← H.bindText (.str m.2.requestField)
  let _ ← H.bindText ((m.2.respInfo.get? "request_type").getD (.str "string"))
  let responseField ← H.bindText ((m.2.respInfo.get? "response_field").getD (.str m.2.requestField))
  let _ ← H.bindText ((m.2.respInfo.get? "type").getD (.str "string"))
  let transform ← bindNullable H ((m.2.respInfo.get? "transform").getD (.str "direct"))
  let formula ← bindNullable H (((learnedFormula (field m.2.respInfo "formula")).map .str).getD .null)
  let intent ← H.bindText (.str m.1)
  .ok
    { mappingId := id, requestField, responseField, transform, formula, intent
      enumValues := field m.2.respInfo "enum_values" }

/-- The tables once the rows of a reply are stored; a template keeps the pattern it was made for. -/
def storeRows (patterns : List RequestPattern) (templates : List ResponseTemplate)
    (mappings : List FieldMappingRow) (db : DeviceDb) : DeviceDb where
  patterns := patterns.foldl (fun rows row => upsert (·.patternId) row.patternId row (fun _ => row) rows) db.patterns
  templates := templates.foldl (fun rows row =>
    upsert (·.templateId) row.templateId row (fun old => { row with patternId := old.patternId }) rows) db.templates
  mappings := db.mappings ++ mappings

/-- The loop over the patterns of a reply, in one transaction. -/
def learnPatterns (patterns : List (Dict Str Json)) (db : DeviceDb) : Result DeviceDb := do
  let items ← patterns.mapM (prepare H deviceId)
  let _ ← (lookups items).mapM H.query
  let _ ← items.mapM (checkNumbers H)
  let mappings ← (newMappings (db.mappings.map (·.mappingId)) (repliedMappings items)).mapM (bindMapping H)
  let templates ← (written (answered items)).mapM (bindTemplate H)
  let rows ← (written items).mapM (bindPattern H)
  .ok (storeRows rows templates mappings db)

/-! ## Deltas and documents -/

/-- A reply with a list of commands or responses is a delta. -/
def isDelta (reply : Dict Str Json) : Bool :=
  [field reply "commands", field reply "responses"].any fun
    | .arr _ => true
    | _      => false

/-- What of a reply makes up a delta. -/
def deltaKeys : List Str :=
  ["meta", "protocol", "commands", "responses", "interactions", "state_variables", "virtual_sensors",
    "observation_history"].map str

/-- The metadata of a delta that has none: what the header knows of the device. -/
def defaultMeta (header : DeviceMeta) : Json :=
  .obj [("pattern_id", .str (deviceId ++ str "-patterns")), ("vendor", .str header.vendor),
    ("device_type", .str header.deviceType), ("model", .str header.model)]

/-- The keys of a delta that a reply has, with metadata. -/
def prune (header : DeviceMeta) (reply : Dict Str Json) : Dict Str Json :=
  let pruned : Dict Str Json := deltaKeys.filterMap fun key => (reply.get? key).map (Prod.mk key)
  if pruned.has "meta" then pruned else pruned.set "meta" (defaultMeta deviceId header)

/-- The digest in the id of a command without one. -/
def pathDigest : Json → Result Str
  | .str []   => .ok (str "none")
  | .str path => (H.digest path).map (·.take 8)
  | _         => .error .attributeError

/-- A command with an id; one that is no object has no `get`. -/
def fillCommand : Json → Result Json
  | .obj cmd =>
    if (field cmd "id").truthy then .ok (.obj cmd)
    else do
      let digest ← pathDigest H
        ((((field cmd "path").orElse (field cmd "path_pattern")).orElse (field cmd "topic")).orElse (.str []))
      let kind ← strOf H.interp ((Dict.get? cmd "kind").getD (.str "cmd"))
      .ok (.obj (Dict.set cmd "id" (.str (deviceId ++ (str "_" ++ (kind ++ (str "_" ++ digest)))))))
  | _        => .error .attributeError

/-- `triggers[0]`. -/
def firstTrigger : Json → Result Json
  | .arr (trigger :: _) => .ok trigger
  | .arr []             => .error .indexError
  | .str (c :: _)       => .ok (.str [c])
  | .str []             => .error .indexError
  | .obj _              => .error .keyError
  | _                   => .error .typeError

/-- A response with an id. -/
def fillResponse : Json → Result Json
  | .obj resp =>
    if (field resp "id").truthy then .ok (.obj resp)
    else do
      let trigger ← firstTrigger ((Dict.get? resp "triggers").getD (.arr [.str "resp"]))
      let text ← strOf H.interp trigger
      .ok (.obj (Dict.set resp "id" (.str (str "tpl_" ++ (deviceId ++ (str "_" ++ text))))))
  | _         => .error .attributeError

/-- The items of a key with their ids; what is no list only has items that have no `get`. -/
def fillIds (key : Str) (fill : Json → Result Json) (pruned : Dict Str Json) : Result (Dict Str Json) :=
  match pruned.get? key with
  | none           => .ok pruned
  | some (.arr xs) => (xs.mapM fill).map fun xs => pruned.set key (.arr xs)
  | some value     => do
    let items ← value.iter
    let _ ← items.mapM fill
    .ok pruned

/-- The device model of a delta. -/
def deltaModel (header : Option DeviceMeta) (reply : Dict Str Json) : Result DeviceModel := do
  let pruned ← fillIds "commands" (fillCommand H deviceId) (prune deviceId (header.getD {}) reply)
  let pruned ← fillIds "responses" (fillResponse H deviceId) pruned
  H.validateModel pruned

/-- Merge a delta. The header is written in a transaction of its own, before the rows. -/
def saveDelta (reply : Dict Str Json) (device : Device) : Device × Result Unit :=
  match deltaModel H deviceId device.header reply with
  | .error e  => (device, .error e)
  | .ok model =>
    match mergeDeviceModel H.interp H.digest deviceId model device, H.takesModel model with
    | (merged, .error e), _       => (merged, .error e)
    | (merged, .ok ()), .ok ()    => (merged, .ok ())
    | (merged, .ok ()), .error e  => ({ device with header := merged.header }, .error e)

/-- A reply with the sections of a pattern document. -/
def isDocument (reply : Dict Str Json) : Bool := reply.has "meta" && reply.has "client" && reply.has "server"

/-- Ingest a pattern document. -/
def saveDocument (reply : Dict Str Json) (db : DeviceDb) : Result DeviceDb := do
  let doc ← H.validateDb reply
  let _ ← H.takesDb doc
  importPatterns deviceId doc db

/-- A reply as a delta, where it is one. -/
def tryDelta (reply : Dict Str Json) (device : Device) : Device × Result Unit :=
  if isDelta reply then saveDelta H deviceId reply device else (device, .error .other)

/-- A reply as a document, where it is one. -/
def tryDocument (reply : Dict Str Json) (db : DeviceDb) : Result DeviceDb :=
  if isDocument reply then saveDocument H deviceId reply db else .error .other

/-- `_save_patterns`: a reply that fails as a delta is tried as a document, and then pattern by pattern. -/
def savePatterns (reply : Dict Str Json) (device : Device) : Device × Result Unit :=
  -- The ids a failed delta was given stay in its commands and responses, which neither other reading looks at.
  match tryDelta H deviceId reply device with
  | (device, .ok ())   => (device, .ok ())
  | (device, .error _) =>
    match tryDocument H deviceId reply device.db with
    | .ok db   => ({ device with db }, .ok ())
    | .error _ =>
      match learnPatterns H deviceId (repliedPatterns reply) device.db with
      | .ok db   => ({ device with db }, .ok ())
      | .error e => (device, .error e)

/-! ## What a reply must hold -/

/-- The columns of a pattern take its texts, and the export reads its values back. -/
def takesPattern (item : Prepared) : Bool :=
  [.str item.patternId, .str item.method, .str item.path, (item.patternData.get? "protocol").getD (.str "http"),
      .str item.intent].all (fun value => (H.bindText value).toBool) &&
    readsAsKeys (patternHeaders item.patternData) && readsAsKeys (patternQueryKeys item.patternData) &&
    readsAsSchema ((item.patternData.get? "body_schema").getD (.obj []))

/-- The columns of a template take its texts, and the export reads its values back. -/
def takesTemplate (item : Prepared) : Bool :=
  [.str (templateId item.patternId), .str item.patternId].all (fun value => (H.bindText value).toBool) &&
    readsAsHeaders ((item.respData.get? "headers").getD (.obj [])) &&
    readsAsBody ((item.respData.get? "body").getD (.obj []))

/-- The columns of a field mapping take its texts, its confidence is computed, and the export reads the values
    of its enumeration back. -/
def takesMapping (m : Str × PreparedMapping) : Bool :=
  (confidence H (field m.2.respInfo "confidence")).toBool &&
    [.str m.2.mappingId, .str m.2.requestField, (m.2.respInfo.get? "request_type").getD (.str "string"),
      (m.2.respInfo.get? "response_field").getD (.str m.2.requestField),
      (m.2.respInfo.get? "type").getD (.str "string"), .str m.1].all (fun value => (H.bindText value).toBool) &&
    [(m.2.respInfo.get? "transform").getD (.str "direct"),
      ((learnedFormula (field m.2.respInfo "formula")).map .str).getD .null].all
        (fun value => (bindNullable H value).toBool) &&
    readsAsEnum (field m.2.respInfo "enum_values")

/-- The patterns of a reply can be stored, and what they store can be exported. -/
structure Learns (db : DeviceDb) (items : List Prepared) : Prop where
  queries : ∀ ids ∈ lookups items, (H.query ids).toBool = true
  numbers : ∀ item ∈ items, (checkNumbers H item).toBool = true
  mappings : ∀ m ∈ newMappings (db.mappings.map (·.mappingId)) (repliedMappings items), takesMapping H m = true
  templates : ∀ item ∈ written (answered items), takesTemplate H item = true
  patterns : ∀ item ∈ written items, takesPattern H item = true

instance Learns.decidable (db : DeviceDb) (items : List Prepared) : Decidable (Learns H db items) :=
  decidable_of_iff
    ((∀ ids ∈ lookups items, (H.query ids).toBool = true) ∧
      (∀ item ∈ items, (checkNumbers H item).toBool = true) ∧
      (∀ m ∈ newMappings (db.mappings.map (·.mappingId)) (repliedMappings items), takesMapping H m = true) ∧
      (∀ item ∈ written (answered items), takesTemplate H item = true) ∧
      ∀ item ∈ written items, takesPattern H item = true)
    ⟨fun ⟨hqueries, hnumbers, hmappings, htemplates, hpatterns⟩ =>
        ⟨hqueries, hnumbers, hmappings, htemplates, hpatterns⟩,
      fun h => ⟨h.queries, h.numbers, h.mappings, h.templates, h.patterns⟩⟩

/-- The patterns of a reply have ids, and are stored and exported under them. -/
def Learnable (patterns : List (Dict Str Json)) (db : DeviceDb) : Prop :=
  match patterns.mapM (prepare H deviceId) with
  | .ok items => Learns H db items
  | .error _  => False

instance Learnable.decidable (patterns : List (Dict Str Json)) (db : DeviceDb) :
    Decidable (Learnable H deviceId patterns db) :=
  match h : patterns.mapM (prepare H deviceId) with
  | .ok items => decidable_of_iff (Learns H db items) (by unfold Learnable; rw [h])
  | .error _  => .isFalse (by unfold Learnable; rw [h]; exact not_false)

end

/-! ## What a save keeps -/

section
variable {H : Host} {deviceId : Str} {db : DeviceDb} {reply : Dict Str Json}

/-- What is written of the patterns are some of them. -/
theorem mem_of_written {items : List Prepared} {item : Prepared} (h : item ∈ written items) : item ∈ items := by
  unfold written at h
  exact forall_foldl_upsert (by simp) (fun i hi _ _ _ => hi) (fun i hi => hi) item h

theorem bindPattern_ok {item : Prepared} (h : takesPattern H item = true) :
    ∃ row, bindPattern H item = .ok row ∧ row.reads = true := by
  simp only [takesPattern, Bool.and_eq_true, List.all_cons, List.all_nil] at h
  obtain ⟨⟨⟨⟨hid, hmethod, hpath, hprotocol, hintent, _⟩, hheaders⟩, hquery⟩, hschema⟩ := h
  obtain ⟨id, hid⟩ := Except.exists_ok hid
  obtain ⟨method, hmethod⟩ := Except.exists_ok hmethod
  obtain ⟨path, hpath⟩ := Except.exists_ok hpath
  obtain ⟨protocol, hprotocol⟩ := Except.exists_ok hprotocol
  obtain ⟨intent, hintent⟩ := Except.exists_ok hintent
  unfold bindPattern
  rw [hid, hmethod, hpath, hprotocol, hintent]
  exact ⟨_, rfl, by simp [RequestPattern.reads, hheaders, hquery, hschema]⟩

theorem bindTemplate_ok {item : Prepared} (h : takesTemplate H item = true)
    (hcode : ∃ code, statusCode H (field item.respData "status_code") = .ok code) :
    ∃ row, bindTemplate H item = .ok row ∧ row.reads = true := by
  simp only [takesTemplate, Bool.and_eq_true, List.all_cons, List.all_nil] at h
  obtain ⟨⟨⟨hid, hpattern, _⟩, hheaders⟩, hbody⟩ := h
  obtain ⟨code, hcode⟩ := hcode
  obtain ⟨id, hid⟩ := Except.exists_ok hid
  obtain ⟨patternId, hpattern⟩ := Except.exists_ok hpattern
  unfold bindTemplate
  rw [hcode, hid, hpattern]
  exact ⟨_, rfl, by simp [ResponseTemplate.reads, hheaders, hbody]⟩

theorem bindMapping_ok {m : Str × PreparedMapping} (h : takesMapping H m = true) :
    ∃ row, bindMapping H m = .ok row ∧ row.reads = true := by
  simp only [takesMapping, Bool.and_eq_true, List.all_cons, List.all_nil] at h
  obtain ⟨⟨⟨hconfidence, hid, hfield, hrequest, htarget, htype, hintent, _⟩, htransform, hformula, _⟩, henum⟩ := h
  obtain ⟨_, hconfidence⟩ := Except.exists_ok hconfidence
  obtain ⟨id, hid⟩ := Except.exists_ok hid
  obtain ⟨requestField, hfield⟩ := Except.exists_ok hfield
  obtain ⟨_, hrequest⟩ := Except.exists_ok hrequest
  obtain ⟨target, htarget⟩ := Except.exists_ok htarget
  obtain ⟨_, htype⟩ := Except.exists_ok htype
  obtain ⟨transform, htransform⟩ := Except.exists_ok htransform
  obtain ⟨formula, hformula⟩ := Except.exists_ok hformula
  obtain ⟨intent, hintent⟩ := Except.exists_ok hintent
  unfold bindMapping
  rw [hconfidence, hid, hfield, hrequest, htarget, htype, htransform, hformula, hintent]
  exact ⟨_, rfl, by simp [FieldMappingRow.reads, henum]⟩

/-- A pattern with a response whose numbers are computed has a status code. -/
theorem statusCode_of_checked {item : Prepared} (h : (checkNumbers H item).toBool = true)
    (hresp : item.respData ≠ []) : ∃ code, statusCode H (field item.respData "status_code") = .ok code := by
  obtain ⟨_, h⟩ := Except.exists_ok h
  unfold checkNumbers at h
  obtain ⟨_, _, h⟩ := Except.bind_ok_iff.mp h
  rw [if_neg hresp] at h
  obtain ⟨code, hcode, _⟩ := Except.bind_ok_iff.mp h
  exact ⟨code, hcode⟩

/-- Stored rows that read leave an exportable database exportable. -/
theorem exportable_storeRows {rows : List RequestPattern} {templates : List ResponseTemplate}
    {mappings : List FieldMappingRow} (h : Exportable db) (hrows : ∀ row ∈ rows, row.reads = true)
    (htemplates : ∀ row ∈ templates, row.reads = true) (hmappings : ∀ row ∈ mappings, row.reads = true) :
    Exportable (storeRows rows templates mappings db) where
  patterns := forall_foldl_upsert h.patterns (fun row hrow _ _ _ => hrows row hrow) hrows
  templates := forall_foldl_upsert h.templates (fun row hrow _ _ _ => htemplates row hrow) htemplates
  mappings := by
    intro row hrow
    rcases List.mem_append.mp hrow with hrow | hrow
    · exact h.mappings row hrow
    · exact hmappings row hrow

/-- Computations that all succeed with values that read. -/
theorem mapM_reads {α β : Type} {f : α → Result β} {reads : β → Bool} {as : List α}
    (h : ∀ a ∈ as, ∃ b, f a = .ok b ∧ reads b = true) : ∃ bs, as.mapM f = .ok bs ∧ ∀ b ∈ bs, reads b = true := by
  obtain ⟨bs, hbs, hrel⟩ := Except.mapM_forall₂ h
  refine ⟨bs, hbs, fun b hb => ?_⟩
  obtain ⟨_, _, hreads⟩ := hrel.exists_left hb
  exact hreads

/-- **Learnable patterns are stored, and the database stays exportable.** -/
theorem learnPatterns_ok {patterns : List (Dict Str Json)} (h : Exportable db)
    (hlearnable : Learnable H deviceId patterns db) :
    ∃ db', learnPatterns H deviceId patterns db = .ok db' ∧ Exportable db' := by
  unfold Learnable at hlearnable
  split at hlearnable
  case h_2 => exact hlearnable.elim
  case h_1 items hitems =>
    obtain ⟨_, hqueries, _⟩ := Except.exists_mapM fun ids hids => Except.exists_ok (hlearnable.queries ids hids)
    obtain ⟨_, hnumbers, _⟩ := Except.exists_mapM fun item hitem => Except.exists_ok (hlearnable.numbers item hitem)
    -- every row is bound, and what is bound reads back
    obtain ⟨mappings, hmappings, hmappingsRead⟩ := mapM_reads fun m hm => bindMapping_ok (hlearnable.mappings m hm)
    have hbound : ∀ item ∈ written (answered items), ∃ row, bindTemplate H item = .ok row ∧ row.reads = true := by
      intro item hitem
      have hanswered := List.mem_filter.mp (mem_of_written hitem)
      exact bindTemplate_ok (hlearnable.templates item hitem)
        (statusCode_of_checked (hlearnable.numbers item hanswered.1) (by simpa using hanswered.2))
    obtain ⟨templates, htemplates, htemplatesRead⟩ := mapM_reads hbound
    obtain ⟨rows, hrows, hrowsRead⟩ := mapM_reads fun item hitem => bindPattern_ok (hlearnable.patterns item hitem)
    unfold learnPatterns
    rw [hitems, Except.ok_bind, hqueries, Except.ok_bind, hnumbers, Except.ok_bind, hmappings, Except.ok_bind,
      htemplates, Except.ok_bind, hrows]
    exact ⟨_, rfl, exportable_storeRows h hrowsRead htemplatesRead hmappingsRead⟩

/-- A document leaves an exportable database exportable. -/
theorem exportable_saveDocument {db' : DeviceDb} (h : Exportable db)
    (hok : saveDocument H deviceId reply db = .ok db') : Exportable db' := by
  obtain ⟨doc, _, hok⟩ := Except.bind_ok_iff.mp hok
  obtain ⟨_, _, hok⟩ := Except.bind_ok_iff.mp hok
  exact h.importPatterns hok

/-- A delta leaves an exportable database exportable, whether or not it goes through. -/
theorem exportable_saveDelta {device : Device} (h : Exportable device.db) :
    Exportable (saveDelta H deviceId reply device).1.db := by
  unfold SavePatterns.saveDelta
  split
  case h_1 => exact h
  case h_2 model _ =>
    have hmerged : Exportable (mergeDeviceModel H.interp H.digest deviceId model device).1.db := h.mergeDeviceModel
    split
    next hmerge => exact hmerge ▸ hmerged
    next hmerge _ => exact hmerge ▸ hmerged
    next => exact h

end

end RideTheApi.SavePatterns
