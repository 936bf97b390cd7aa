import RideTheApi.PatternDb.Schemas

/-!
# `PatternDb.Validator` — what a valid pattern document is

`pattern-schema-v1.json` on the dumped form of a document: the requirements its types do not already
carry. Unknown protocols and unanswered endpoints only produce warnings, so they do not appear here.
-/

namespace RideTheApi.PatternDb

open Py

/-- The `protocol` enumeration of the schema. -/
def schemaProtocols : List Str :=
  ["http", "https", "mqtt", "coap", "modbus", "websocket", "raw_tcp", "http2", "zigbee", "zwave", "matter",
    "tls", "tcp", "tcpip", "raw", "ws", "mqtt_connect"].map str

/-- A number with `minimum: 0`, by its bit pattern: negative zero and NaN pass. -/
def floatAtLeastZero (x : BitVec 64) : Bool :=
  x.msb == false || x == 0x8000000000000000#64 || decide (0xfff0000000000000#64 < x)

def validMapping (fm : FieldMapping) : Bool :=
  !fm.source.isEmpty && !fm.target.isEmpty &&
    (["direct", "enum", "formula", "scale"].map str).contains fm.transform

def validResponse (resp : ServerResponse) : Bool :=
  !resp.id.isEmpty && resp.fieldMappings.all validMapping

def validEndpoint (ep : ClientEndpoint) : Bool := !ep.id.isEmpty && !ep.intent.isEmpty

def validVariable (sv : StateVariable) : Bool :=
  !sv.name.isEmpty && (["boolean", "integer", "float", "string", "enum"].map str).contains sv.type

def validSensor (vs : VirtualSensor) : Bool :=
  !vs.name.isEmpty && (["integer", "float", "boolean"].map str).contains vs.type &&
    (["static", "drift", "periodic", "random"].map str).contains vs.behavior &&
    vs.driftRange.all (fun range => range.length == 2) && floatAtLeastZero vs.periodS &&
    floatAtLeastZero vs.updateIntervalS

def validAuth (auth : AuthConfig) : Bool :=
  (["bearer", "basic", "custom", "none"].map str).contains auth.type

/-- A document passes the v1 schema. -/
def validPattern (doc : PatternDB) : Bool :=
  doc.schemaUrl == str "https://ride-the-api.dev/pattern-schema/v1" && doc.patternMeta.version == 1 &&
    !doc.patternMeta.patternId.isEmpty && !doc.patternMeta.vendor.isEmpty &&
    !doc.patternMeta.deviceType.isEmpty && !doc.client.protocols.isEmpty &&
    doc.client.protocols.all schemaProtocols.contains && doc.client.authentication.all validAuth &&
    doc.client.endpoints.all validEndpoint && doc.server.responses.all validResponse &&
    doc.server.stateVariables.all validVariable && doc.server.virtualSensors.all validSensor

/-- The endpoints of a valid document have an id and an intent. -/
theorem validEndpoint_of_validPattern {doc : PatternDB} (h : validPattern doc = true) {ep : ClientEndpoint}
    (hep : ep ∈ doc.client.endpoints) : ep.id ≠ [] ∧ ep.intent ≠ [] := by
  simp only [validPattern, Bool.and_eq_true, List.all_eq_true] at h
  have hvalid : validEndpoint ep = true := h.1.1.1.2 ep hep
  simpa [validEndpoint] using hvalid

/-- The mappings of a valid document have a source. -/
theorem source_ne_of_validPattern {doc : PatternDB} (h : validPattern doc = true) {resp : ServerResponse}
    (hresp : resp ∈ doc.server.responses) {fm : FieldMapping} (hfm : fm ∈ resp.fieldMappings) :
    fm.source ≠ [] := by
  simp only [validPattern, Bool.and_eq_true, List.all_eq_true] at h
  have hvalid : validResponse resp = true := h.1.1.2 resp hresp
  simp only [validResponse, Bool.and_eq_true, List.all_eq_true] at hvalid
  have hmapping : validMapping fm = true := hvalid.2 fm hfm
  simp only [validMapping, Bool.and_eq_true] at hmapping
  simpa using hmapping.1.1

end RideTheApi.PatternDb
