import RideTheApi.Buffer.Ledger
import RideTheApi.Lib.Dict
import RideTheApi.Py.Format
import RideTheApi.Py.JsonSchema

/-!
# `PatternDb.Capture` — capture documents and the buffer

An import writes every pair of a capture document into the buffer of a device as a flat dictionary; an export
reads the buffered dictionaries back into pairs. The dictionary has one key for each field of a pair, and three
for its response, so the response is told from its status: a status of zero, the default of the model, reads as
no response at all (`exportPair_pairDict`).
-/

namespace RideTheApi.Capture

open Py Py.JsonSchema Buffer

/-! ## Documents -/

/-- What a text field of a model takes: no surrogates. -/
def isText (s : Str) : Bool := s.all fun c => !(0xd800 ≤ c.val && c.val ≤ 0xdfff)

/-- A text that was read into a model. -/
abbrev Text := { s : Str // isText s = true }

/-- A text from a literal. -/
def lit (s : String) (h : isText (str s) = true := by decide) : Text := ⟨str s, h⟩

/-- `RawResponse`. -/
structure RawResponse where
  statusCode : Int := 0
  headers : Dict Text Text := []
  body : Json := .null
  latencyMs : BitVec 64 := 0
deriving DecidableEq

/-- `RawPairWithResponse`, with timestamps in `τ`. -/
structure RawPair (τ : Type) where
  pairId : Text
  timestamp : τ
  protocol : Text := lit "http"
  method : Text := lit ""
  path : Text := lit ""
  headers : Dict Text Text := []
  queryParams : Dict Text Text := []
  body : Json := .null
  response : Option RawResponse := none
deriving DecidableEq

structure CaptureMeta (τ : Type) where
  version : Int := 1
  captureId : Text
  vendor : Text
  deviceType : Text
  model : Text := lit ""
  firmwareVersion : Text := lit ""
  captureDate : τ
  description : Text := lit ""
deriving DecidableEq

structure CaptureDeviceInfo where
  deviceId : Text := lit "obfuscated"
  mac : Text := lit "obfuscated"
  serial : Text := lit "obfuscated"
deriving DecidableEq

structure CaptureSession (τ : Type) where
  sessionId : Text
  type : Text := lit "capture"
  timestampStart : τ
  pairs : List (RawPair τ) := []
deriving DecidableEq

/-- Root model of a `.ride-capture.json`. -/
structure CaptureDB (τ : Type) where
  schemaUrl : Text := lit "https://ride-the-api.dev/capture-schema/v1"
  captureMeta : CaptureMeta τ
  deviceInfo : CaptureDeviceInfo := {}
  sessions : List (CaptureSession τ) := []
deriving DecidableEq

variable {τ : Type}

/-- The pairs of all sessions, in order. -/
def CaptureDB.pairs (capture : CaptureDB τ) : List (RawPair τ) := capture.sessions.flatMap (·.pairs)

/-- What captures take from the interpreter and from pydantic. -/
structure Host (τ : Type) where
  interp : Interp
  /-- `str.upper`. -/
  upper : Str → Str
  /-- `int(s)` of a text does not raise. -/
  isIntText : Str → Bool
  /-- `datetime.isoformat`. -/
  isoformat : τ → Str
  /-- A timestamp in a dumped document. -/
  dumpTime : τ → Str
  /-- `datetime.strftime`, down to the second and without separators. -/
  stamp : τ → Text
  /-- A `datetime` field. -/
  readTime : Json → Result τ
  /-- An `int` field. -/
  readInt : Json → Result Int
  /-- A `float` field. -/
  readFloat : Json → Result (BitVec 64)

/-- What pydantic is relied on for: a timestamp is read from its ISO format, and a number from itself. -/
structure Host.Lawful (H : Host τ) : Prop where
  readTime_isoformat : ∀ t, H.readTime (.str (H.isoformat t)) = .ok t
  readInt_int : ∀ n, H.readInt (.int n) = .ok n
  readFloat_float : ∀ x, H.readFloat (.float x) = .ok x

/-! ## Dumping -/

def ofTexts (texts : Dict Text Text) : Json := .obj (texts.map fun kv => (kv.1.val, .str kv.2.val))

/-- The fields of a model but those that are `None`. -/
def excludeNone (fields : Dict Str Json) : Json := .obj (fields.filter fun kv => kv.2 ≠ .null)

def dumpResponse (response : RawResponse) : Json :=
  excludeNone
    [("status_code", .int response.statusCode), ("headers", ofTexts response.headers), ("body", response.body),
      ("latency_ms", .float response.latencyMs)]

section
variable (H : Host τ)

def dumpPair (pair : RawPair τ) : Json :=
  excludeNone
    [("pair_id", .str pair.pairId.val), ("timestamp", .str (H.dumpTime pair.timestamp)),
      ("protocol", .str pair.protocol.val), ("method", .str pair.method.val), ("path", .str pair.path.val),
      ("headers", ofTexts pair.headers), ("query_params", ofTexts pair.queryParams), ("body", pair.body),
      ("response", (pair.response.map dumpResponse).getD .null)]

def dumpMeta (data : CaptureMeta τ) : Json :=
  .obj [("version", .int data.version), ("capture_id", .str data.captureId.val), ("vendor", .str data.vendor.val),
    ("device_type", .str data.deviceType.val), ("model", .str data.model.val),
    ("firmware_version", .str data.firmwareVersion.val), ("capture_date", .str (H.dumpTime data.captureDate)),
    ("description", .str data.description.val)]

def dumpSession (session : CaptureSession τ) : Json :=
  .obj [("session_id", .str session.sessionId.val), ("type", .str session.type.val),
    ("timestamp_start", .str (H.dumpTime session.timestampStart)), ("pairs", .arr (session.pairs.map (dumpPair H)))]

/-- `model_dump(mode="json", by_alias=True, exclude_none=True)`. -/
def modelDump (capture : CaptureDB τ) : Json :=
  .obj [("$schema", .str capture.schemaUrl.val), ("meta", dumpMeta H capture.captureMeta),
    ("device_info", .obj [("device_id", .str capture.deviceInfo.deviceId.val), ("mac", .str capture.deviceInfo.mac.val),
      ("serial", .str capture.deviceInfo.serial.val)]),
    ("sessions", .arr (capture.sessions.map (dumpSession H)))]

/-! ## Validation -/

def protocolSchema : JsonSchema :=
  textIn ["http", "https", "mqtt", "coap", "modbus", "websocket", "raw_tcp", "http2", "zigbee", "zwave", "matter"]

def responseSchema : JsonSchema :=
  object []
    [("status_code", .types [.integer]), ("headers", .types [.object]), ("body", .any),
      ("latency_ms", all [.types [.number], .minimum 0])]

def pairSchema : JsonSchema :=
  object ["pair_id", "timestamp", "protocol", "path"]
    [("pair_id", name), ("timestamp", text), ("protocol", protocolSchema), ("method", text), ("path", text),
      ("headers", all [.types [.object], .additional text]), ("query_params", .types [.object]), ("body", .any),
      ("response", responseSchema)]

def metaSchema : JsonSchema :=
  object ["capture_id", "vendor", "device_type", "capture_date"]
    [("version", all [.types [.integer], .const (.int 1)]), ("capture_id", name), ("vendor", name),
      ("device_type", name), ("model", text), ("firmware_version", text), ("capture_date", text),
      ("description", text)]

def sessionSchema : JsonSchema :=
  object ["session_id", "timestamp_start"]
    [("session_id", name), ("type", textIn ["boot", "command", "polling", "handshake", "capture"]),
      ("timestamp_start", text), ("pairs", arrayOf pairSchema)]

/-- `capture-schema-v1.json`. -/
def captureSchema : JsonSchema :=
  object ["$schema", "meta", "sessions"]
    [("$schema", .const (.str "https://ride-the-api.dev/capture-schema/v1")), ("meta", metaSchema),
      ("device_info", object [] [("device_id", text), ("mac", text), ("serial", text)]),
      ("sessions", arrayOf sessionSchema)]

/-- `PROTOCOL_METHODS`. -/
def protocolMethods : Dict Str (List String) :=
  let httpMethods := ["GET", "POST", "PUT", "PATCH", "DELETE", "HEAD", "OPTIONS"]
  [("http", httpMethods), ("https", httpMethods), ("http2", httpMethods),
   ("mqtt", ["publish", "subscribe", "unsubscribe", "connect"]),
   ("coap", ["get", "post", "put", "delete"]),
   ("modbus", ["read", "write", "read_write"]),
   ("websocket", ["send", "subscribe", "unsubscribe", "ping", "pong"]),
   ("raw_tcp", ["send", "receive"]),
   ("zigbee", ["report", "command", "bridge_event"]),
   ("zwave", ["report", "command", "wake_up"]),
   ("matter", ["invoke", "subscribe", "read", "write"])]

/-- `_validate_method_for_protocol` finds no error. -/
def validMethod (protocol method : Str) : Bool :=
  match protocolMethods.get? protocol with
  | none       => true
  | some valid => method.isEmpty || (valid.map fun m => H.upper (str m)).contains (H.upper method)

/-- `_validate_path_for_protocol` finds no error. -/
def validPath (protocol path : Str) : Bool :=
  if protocol ∈ ["http", "https", "http2"].map str ∧ path ≠ [] ∧ ¬ path.startsWith "/" then false
  else if protocol = str "modbus" ∧ path ≠ [] then H.isIntText path
  else true

/-- `validate_capture` of a dumped document, which has the protocol, the method and the path of every pair. -/
def validateCapture (capture : CaptureDB τ) : Bool :=
  captureSchema.valid (modelDump H capture) && capture.pairs.all fun pair =>
    validMethod H pair.protocol.val pair.method.val && validPath H pair.protocol.val pair.path.val

/-! ## Import -/

/-- The dictionary a pair is buffered as. -/
def pairDict (deviceId vendor : Text) (pair : RawPair τ) : Dict Str Json :=
  [("pair_id", .str pair.pairId.val),
   ("device_id", .str deviceId.val),
   ("vendor", .str vendor.val),
   ("protocol", .str pair.protocol.val),
   ("method", .str pair.method.val),
   ("path", .str pair.path.val),
   ("request_headers", ofTexts pair.headers),
   ("request_body", pair.body),
   ("request_query", ofTexts pair.queryParams),
   ("response_status", (pair.response.map fun r => .int r.statusCode).getD .null),
   ("response_headers", (pair.response.map fun r => ofTexts r.headers).getD (.obj [])),
   ("response_body", (pair.response.map (·.body)).getD .null),
   ("latency_ms", .float ((pair.response.map (·.latencyMs)).getD 0)),
   ("timestamp", .str (H.isoformat pair.timestamp))]

/-- `BufferManager.add_pair`; the import makes nothing of whether the buffer is full. -/
def addPair (object : Nat) (deviceId : Text) (pair : Dict Str Json) (s : Buffers Text (Dict Str Json)) :
    Result (Buffers Text (Dict Str Json)) := do
  let serialized ← dumps H.interp (.obj pair)
  .ok (s.addPair object deviceId pair serialized.length)

/-- The loop over the pairs: an exception leaves what was added before it. -/
def importPairs (object : Nat) (deviceId vendor : Text) :
    List (RawPair τ) → Buffers Text (Dict Str Json) → Buffers Text (Dict Str Json) × Result Nat
  | [],            s => (s, .ok 0)
  | pair :: pairs, s =>
    match addPair H object deviceId (pairDict H deviceId vendor pair) s with
    | .error e => (s, .error e)
    | .ok s    =>
      let (s, count) := importPairs object deviceId vendor pairs s
      (s, count.map (· + 1))

/-- The device a document is imported into: the target, unless it is empty. -/
def importDevice (target : Option Text) (capture : CaptureDB τ) : Text :=
  match target with
  | some deviceId => if deviceId.val = [] then capture.deviceInfo.deviceId else deviceId
  | none          => capture.deviceInfo.deviceId

/-- `import_capture`, through the store object `object`. -/
def importCapture (object : Nat) (target : Option Text) (capture : CaptureDB τ) (s : Buffers Text (Dict Str Json)) :
    Buffers Text (Dict Str Json) × Result Nat :=
  if validateCapture H capture then
    importPairs H object (importDevice target capture) capture.captureMeta.vendor capture.pairs s
  else (s, .error .other)

/-! ## Export -/

/-- A text field. -/
def asText : Json → Result Text
  | .str s => if h : isText s = true then .ok ⟨s, h⟩ else .error .valueError
  | _      => .error .valueError

/-- A field of texts by name. -/
def asTexts : Json → Result (Dict Text Text)
  | .obj kvs => kvs.mapM fun kv => do
    let key ← asText (.str kv.1)
    let value ← asText kv.2
    .ok (key, value)
  | _ => .error .valueError

/-- The response of a buffered pair, if it has a status. -/
def exportResponse (data : Dict Str Json) : Result (Option RawResponse) :=
  if ((data.get? "response_status").getD .null).truthy then do
    let statusCode ← H.readInt ((data.get? "response_status").getD (.int 0))
    let headers ← asTexts ((data.get? "response_headers").getD (.obj []))
    let latencyMs ← H.readFloat ((data.get? "latency_ms").getD (.float 0))
    .ok (some { statusCode, headers, body := (data.get? "response_body").getD .null, latencyMs })
  else .ok none

/-- A buffered pair; `uuid` is drawn for one without an id. -/
def exportPair (uuid : Text) (now : τ) (data : Dict Str Json) : Result (RawPair τ) := do
  let response ← exportResponse H data
  let pairId ← asText ((data.get? "pair_id").getD (.str uuid.val))
  let timestamp ← ((data.get? "timestamp").map H.readTime).getD (.ok now)
  let protocol ← asText ((data.get? "protocol").getD (.str "http"))
  let method ← asText ((data.get? "method").getD (.str []))
  let path ← asText ((data.get? "path").getD (.str []))
  let headers ← asTexts ((data.get? "request_headers").getD (.obj []))
  let queryParams ← asTexts ((data.get? "request_query").getD (.obj []))
  .ok
    { pairId, timestamp, protocol, method, path, headers, queryParams
      body := (data.get? "request_body").getD .null
      response }

/-- `vendor or "unknown"`. -/
def orUnknown (t : Text) : Text := if t.val = [] then lit "unknown" else t

theorem isText_append {s t : Str} (hs : isText s = true) (ht : isText t = true) : isText (s ++ t) = true := by
  unfold isText at hs ht ⊢
  rw [List.all_append, hs, ht, Bool.and_self]

/-- `export_capture`, with `uuid` what is drawn for each row. -/
def exportCapture (uuid : Nat → Text) (now : τ) (deviceId vendor deviceType : Text)
    (s : Buffers Text (Dict Str Json)) : Result (CaptureDB τ) := do
  let pairs ← (s.store.getBufferPairs deviceId).mapM fun e => exportPair H (uuid e.id) now e.pair
  .ok
    { captureMeta :=
        { captureId := ⟨deviceId.val ++ (str "-" ++ (H.stamp now).val),
            isText_append deviceId.property (isText_append (by decide) (H.stamp now).property)⟩
          vendor := orUnknown vendor
          deviceType := orUnknown deviceType
          captureDate := now }
      sessions := [{ sessionId := lit "export_001", timestampStart := now, pairs }] }

end

section
variable {H : Host τ} {object : Nat} {deviceId vendor : Text} {s s' : Buffers Text (Dict Str Json)}

/-! ## One pair there and back -/

theorem asText_val (t : Text) : asText (.str t.val) = .ok t := by
  show (if h : isText t.val = true then (.ok ⟨t.val, h⟩ : Result Text) else .error .valueError) = .ok t
  rw [dif_pos t.property]

theorem asTexts_ofTexts (texts : Dict Text Text) : asTexts (ofTexts texts) = .ok texts := by
  unfold asTexts ofTexts
  dsimp only
  induction texts with
  | nil => rfl
  | cons kv texts ih =>
    rw [List.map_cons, List.mapM_cons, ih]
    simp only [asText_val, Except.ok_bind]
    rfl

/-- What an export makes of the response of an imported pair. -/
def keptResponse (pair : RawPair τ) : Option RawResponse := pair.response.filter fun r => r.statusCode ≠ 0

theorem exportResponse_pairDict (hH : H.Lawful) (pair : RawPair τ) :
    exportResponse H (pairDict H deviceId vendor pair) = .ok (keptResponse pair) := by
  have hstatus : Dict.get? (pairDict H deviceId vendor pair) "response_status" =
      some ((pair.response.map fun r => .int r.statusCode).getD .null) := rfl
  have hheaders : Dict.get? (pairDict H deviceId vendor pair) "response_headers" =
      some ((pair.response.map fun r => ofTexts r.headers).getD (.obj [])) := rfl
  have hbody : Dict.get? (pairDict H deviceId vendor pair) "response_body" =
      some ((pair.response.map (·.body)).getD .null) := rfl
  have hlatency : Dict.get? (pairDict H deviceId vendor pair) "latency_ms" =
      some (.float ((pair.response.map (·.latencyMs)).getD 0)) := rfl
  unfold exportResponse keptResponse
  rw [hstatus, hheaders, hbody, hlatency]
  cases pair.response with
  | none => rfl
  | some r =>
    simp only [Option.map_some, Option.getD_some, Json.truthy, hH.readInt_int, asTexts_ofTexts, hH.readFloat_float,
      Except.ok_bind]
    -- The status decides alone: the rest of the response is there.
    by_cases hzero : r.statusCode = 0
    · simp [hzero, Option.filter]
    · simp [hzero, Option.filter]

/-- **A pair is exported as it was imported, but a response with a status of zero is lost.** -/
theorem exportPair_pairDict (hH : H.Lawful) (uuid : Text) (now : τ) (pair : RawPair τ) :
    exportPair H uuid now (pairDict H deviceId vendor pair) = .ok { pair with response := keptResponse pair } := by
  have hid : Dict.get? (pairDict H deviceId vendor pair) "pair_id" = some (.str pair.pairId.val) := rfl
  have htime : Dict.get? (pairDict H deviceId vendor pair) "timestamp" = some (.str (H.isoformat pair.timestamp)) := rfl
  have hprotocol : Dict.get? (pairDict H deviceId vendor pair) "protocol" = some (.str pair.protocol.val) := rfl
  have hmethod : Dict.get? (pairDict H deviceId vendor pair) "method" = some (.str pair.method.val) := rfl
  have hpath : Dict.get? (pairDict H deviceId vendor pair) "path" = some (.str pair.path.val) := rfl
  have hheaders : Dict.get? (pairDict H deviceId vendor pair) "request_headers" = some (ofTexts pair.headers) := rfl
  have hquery : Dict.get? (pairDict H deviceId vendor pair) "request_query" = some (ofTexts pair.queryParams) := rfl
  have hbody : Dict.get? (pairDict H deviceId vendor pair) "request_body" = some pair.body := rfl
  unfold exportPair
  rw [exportResponse_pairDict hH, hid, htime, hprotocol, hmethod, hpath, hheaders, hquery, hbody]
  simp only [Option.map_some, Option.getD_some, asText_val, asTexts_ofTexts, hH.readTime_isoformat, Except.ok_bind]

/-- A pair survives iff its response has another status. -/
theorem keptResponse_eq_iff (pair : RawPair τ) :
    keptResponse pair = pair.response ↔ ∀ r ∈ pair.response, r.statusCode ≠ 0 := by
  unfold keptResponse
  cases pair.response with
  | none => simp
  | some r =>
    by_cases hzero : r.statusCode = 0
    · simp [hzero, Option.filter]
    · simp [hzero, Option.filter]

/-! ## Filling an empty buffer -/

/-- The unflushed rows of a device are these pairs, numbered in order, and the store object knows a number that
    none of them passes. -/
structure Filled (object : Nat) (deviceId : Text) (pairs : List (Dict Str Json)) (s : Buffers Text (Dict Str Json)) :
    Prop where
  pairs : (s.store.rows.filter (Store.unflushed deviceId)).map Entry.pair = pairs
  ordered : (s.store.rows.filter (Store.unflushed deviceId)).Pairwise fun a b => a.sequence < b.sequence
  cached : ∀ e ∈ s.store.rows.filter (Store.unflushed deviceId),
    ∃ n, s.cached object deviceId = some n ∧ e.sequence ≤ n

theorem Filled.step {pairs : List (Dict Str Json)} {pair : Dict Str Json} (h : Filled object deviceId pairs s)
    (hadd : addPair H object deviceId pair s = .ok s') : Filled object deviceId (pairs ++ [pair]) s' := by
  unfold addPair at hadd
  obtain ⟨serialized, _, hadd⟩ := Except.bind_ok_iff.mp hadd
  obtain rfl := Except.ok.inj hadd
  have hrows : (s.addPair object deviceId pair serialized.length).store.rows.filter (Store.unflushed deviceId) =
      s.store.rows.filter (Store.unflushed deviceId) ++
        [{ id := s.store.nextId, device := deviceId, pair, size := serialized.length,
           sequence := s.nextSequence object deviceId }] := by
    simp [Buffers.addPair, Store.addPair, List.filter_append, Store.unflushed]
  have hcached : (s.addPair object deviceId pair serialized.length).cached object deviceId =
      some (s.nextSequence object deviceId) := by
    simp [Buffers.addPair, Buffers.setCached]
  -- Every row that is there was numbered from the cache.
  have hnext : ∀ e ∈ s.store.rows.filter (Store.unflushed deviceId), e.sequence < s.nextSequence object deviceId := by
    intro e he
    obtain ⟨n, hn, hle⟩ := h.cached e he
    unfold Buffers.nextSequence
    rw [hn]
    exact Nat.lt_succ_of_le hle
  constructor
  · rw [hrows, List.map_append, h.pairs]
    rfl
  · rw [hrows]
    apply List.pairwise_append.mpr
    refine ⟨h.ordered, List.pairwise_singleton _ _, ?_⟩
    intro a ha b hb
    rw [List.mem_singleton.mp hb]
    exact hnext a ha
  · intro e he
    refine ⟨_, hcached, ?_⟩
    rw [hrows] at he
    rcases List.mem_append.mp he with he | he
    · exact Nat.le_of_lt (hnext e he)
    · rw [List.mem_singleton.mp he]

/-- The rows are read in the order they were added. -/
theorem Filled.reads {pairs : List (Dict Str Json)} (h : Filled object deviceId pairs s) :
    (s.store.getBufferPairs deviceId).map Entry.pair = pairs := by
  have hsorted : s.store.getBufferPairs deviceId = s.store.rows.filter (Store.unflushed deviceId) := by
    apply List.Pairwise.insertionSort_eq
    exact h.ordered.imp fun hlt => Nat.le_of_lt hlt
  rw [hsorted, h.pairs]

theorem Filled.run {pairs : List (RawPair τ)} {before : List (Dict Str Json)} {count : Nat}
    (h : Filled object deviceId before s) (himport : importPairs H object deviceId vendor pairs s = (s', .ok count)) :
    Filled object deviceId (before ++ pairs.map (pairDict H deviceId vendor)) s' := by
  induction pairs generalizing s before count with
  | nil =>
    cases himport
    simpa using h
  | cons pair pairs ih =>
    unfold importPairs at himport
    cases hadd : addPair H object deviceId (pairDict H deviceId vendor pair) s with
    | error e =>
      rw [hadd] at himport
      cases himport
    | ok next =>
      rw [hadd] at himport
      cases hrest : importPairs H object deviceId vendor pairs next with
      | mk after result =>
        simp only [hrest, Prod.mk.injEq] at himport
        obtain ⟨rfl, hresult⟩ := himport
        obtain ⟨n, rfl, _⟩ := Except.map_ok_iff.mp hresult
        have hall := ih (h.step hadd) hrest
        rwa [List.append_assoc, List.singleton_append] at hall

/-- An empty buffer is filled with nothing. -/
theorem filled_nil (h : s.store.getBufferPairs deviceId = []) : Filled object deviceId [] s := by
  have hempty : s.store.rows.filter (Store.unflushed deviceId) = [] := by
    have hperm : (s.store.getBufferPairs deviceId).Perm (s.store.rows.filter (Store.unflushed deviceId)) :=
      List.perm_insertionSort _ _
    rw [h] at hperm
    exact hperm.symm.eq_nil
  constructor
  · rw [hempty, List.map_nil]
  · rw [hempty]
    exact List.Pairwise.nil
  · rw [hempty]
    intro e he
    cases he

/-! ## A document there and back -/

variable {capture : CaptureDB τ} {target : Option Text} {count : Nat} {deviceType : Text}

/-- What is exported after an import into an empty buffer. -/
theorem exportCapture_importCapture (hH : H.Lawful) (uuid : Nat → Text) (now : τ) (vendor deviceType : Text)
    (hempty : s.store.getBufferPairs (importDevice target capture) = [])
    (himport : importCapture H object target capture s = (s', .ok count)) :
    ∃ doc, exportCapture H uuid now (importDevice target capture) vendor deviceType s' = .ok doc ∧
      doc.pairs = capture.pairs.map fun pair => { pair with response := keptResponse pair } := by
  unfold importCapture at himport
  split at himport
  case isFalse => cases himport
  case isTrue =>
    have hreads := ((filled_nil hempty).run himport).reads
    rw [List.nil_append] at hreads
    have hrows : List.Forall₂ (fun e pair => e.pair = pairDict H (importDevice target capture) capture.captureMeta.vendor pair)
        (s'.store.getBufferPairs (importDevice target capture)) capture.pairs := by
      have hequal : List.Forall₂ (· = ·) ((s'.store.getBufferPairs (importDevice target capture)).map Entry.pair)
          (capture.pairs.map (pairDict H (importDevice target capture) capture.captureMeta.vendor)) := by
        rw [List.forall₂_eq_eq_eq]
        exact hreads
      exact List.forall₂_map_right_iff.mp (List.forall₂_map_left_iff.mp hequal)
    have hpairs := Except.mapM_of_forall₂ hrows
      (f := fun e => exportPair H (uuid e.id) now e.pair) (g := fun pair => { pair with response := keptResponse pair })
      fun e pair heq => by rw [heq, exportPair_pairDict hH]
    unfold exportCapture
    rw [hpairs, Except.ok_bind]
    refine ⟨_, rfl, ?_⟩
    unfold CaptureDB.pairs
    rw [List.flatMap_cons, List.flatMap_nil, List.append_nil]

/-- **A capture round-trips iff none of its responses has a status of zero.** -/
theorem pairs_survive_iff (hH : H.Lawful) (uuid : Nat → Text) (now : τ) (vendor deviceType : Text)
    (hempty : s.store.getBufferPairs (importDevice target capture) = [])
    (himport : importCapture H object target capture s = (s', .ok count)) :
    (∃ doc, exportCapture H uuid now (importDevice target capture) vendor deviceType s' = .ok doc ∧
        doc.pairs = capture.pairs) ↔
      ∀ pair ∈ capture.pairs, ∀ r ∈ pair.response, r.statusCode ≠ 0 := by
  obtain ⟨doc, hdoc, hpairs⟩ := exportCapture_importCapture hH uuid now vendor deviceType hempty himport
  have hsame : (∃ doc, exportCapture H uuid now (importDevice target capture) vendor deviceType s' = .ok doc ∧
      doc.pairs = capture.pairs) ↔
      (capture.pairs.map fun pair => { pair with response := keptResponse pair }) = capture.pairs.map id := by
    rw [List.map_id, ← hpairs]
    constructor
    · rintro ⟨doc', hdoc', h⟩
      cases hdoc.symm.trans hdoc'
      exact h
    · intro h
      exact ⟨doc, hdoc, h⟩
  rw [hsame, List.map_inj_left]
  apply forall₂_congr
  intro pair _
  rw [← keptResponse_eq_iff]
  constructor
  · intro h
    exact congrArg RawPair.response h
  · intro h
    rw [h]
    rfl

end

/-! ## Two captures -/

/-- A host whose timestamps are their ISO texts. -/
def isoHost : Host Str where
  interp := asciiInterp
  upper s := s.map fun c : CodePoint => if Interp.asciiLower c then Fin.ofNat 0x110000 (c.val - 0x20) else c
  isIntText := isDigits
  isoformat := id
  dumpTime := id
  stamp _ := lit "20240501100000"
  readTime
    | .str s => .ok s
    | _      => .error .valueError
  readInt
    | .int n => .ok n
    | _      => .error .valueError
  readFloat
    | .float x => .ok x
    | _        => .error .valueError

theorem isoHost_lawful : isoHost.Lawful where
  readTime_isoformat _ := rfl
  readInt_int _ := rfl
  readFloat_float _ := rfl

/-- A capture of one pair. -/
def captureOf (pair : RawPair Str) : CaptureDB Str where
  captureMeta :=
    { captureId := lit "c1", vendor := lit "acme", deviceType := lit "lamp", captureDate := "2024-05-01T10:00:00+00:00" }
  sessions := [{ sessionId := lit "s1", timestampStart := "2024-05-01T10:00:00+00:00", pairs := [pair] }]

/-- A message that was answered, over a protocol without a status. -/
def publish : RawPair Str where
  pairId := lit "p1"
  timestamp := "2024-05-01T10:00:00+00:00"
  protocol := lit "mqtt"
  method := lit "publish"
  path := lit "lamp/set"
  body := .obj [("on", .bool true)]
  response := some { body := .obj [("ok", .bool true)] }

/-- A request that was answered. -/
def request : RawPair Str where
  pairId := lit "p2"
  timestamp := "2024-05-01T10:00:01+00:00"
  method := lit "GET"
  path := lit "/status"
  response := some { statusCode := 200, body := .obj [("on", .bool true)] }

theorem request_survives :
    ∃ doc, exportCapture isoHost (fun _ => lit "") (str "2024-05-02T08:00:00+00:00") (lit "obfuscated") (lit "") (lit "")
        (importCapture isoHost 0 none (captureOf request) {}).1 = .ok doc ∧ doc.pairs = [request] :=
  have hcount : (importCapture isoHost 0 none (captureOf request) {}).2 = .ok 1 := by decide +kernel
  (pairs_survive_iff isoHost_lawful _ _ _ _ (by decide) (Prod.ext rfl hcount)).mpr (by decide)

/-- The response of the message is gone. -/
theorem publish_unanswered : ¬ ∀ (capture : CaptureDB Str) (s s' : Buffers Text (Dict Str Json)) (count : Nat),
    s.store.getBufferPairs (importDevice none capture) = [] →
    importCapture isoHost 0 none capture s = (s', .ok count) →
    ∃ doc, exportCapture isoHost (fun _ => lit "") (str "2024-05-02T08:00:00+00:00") (importDevice none capture) (lit "")
      (lit "") s' = .ok doc ∧ doc.pairs = capture.pairs := by
  intro h
  have hcount : (importCapture isoHost 0 none (captureOf publish) {}).2 = .ok 1 := by decide +kernel
  obtain ⟨doc, hdoc, hpairs⟩ := h (captureOf publish) {} _ 1 (by decide) (Prod.ext rfl hcount)
  have hexport : (exportCapture isoHost (fun _ => lit "") (str "2024-05-02T08:00:00+00:00") (importDevice none (captureOf publish))
      (lit "") (lit "") (importCapture isoHost 0 none (captureOf publish) {}).1).map (·.pairs) =
      .ok [{ publish with response := none }] := by decide +kernel
  rw [hdoc] at hexport
  have hsame := hpairs.symm.trans (Except.ok.inj hexport)
  revert hsame
  decide

end RideTheApi.Capture
