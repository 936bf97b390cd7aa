import RideTheApi.Lib.Dict
import RideTheApi.Py.Text

/-!
# `PatternDb.Schemas` — the portable pattern documents

The pydantic models of a `.ride-pattern.json` file, v1 (`PatternDB`) and v2 (`DeviceModel`), with the
fields that matching, serving, import and export read. Field defaults are the models' own.
-/

namespace RideTheApi.PatternDb

open Py

/-- Maps a request field to a response field or state variable. -/
structure FieldMapping where
  source : Str := []
  target : Str := []
  transform : Str := "direct"
  formula : Str := []
  mapping : Option (Dict Str Json) := none
deriving Repr, DecidableEq

/-- A response template triggered by a client endpoint. -/
structure ServerResponse where
  id : Str
  triggers : List Str := []
  statusCode : Int := 200
  headersTemplate : Dict Str Str := []
  bodyTemplate : Dict Str Json := []
  fieldMappings : List FieldMapping := []
deriving Repr, DecidableEq

/-- A single endpoint the device calls. -/
structure ClientEndpoint where
  id : Str
  intent : Str
  method : Str := "GET"
  path : Str := []
  pathPattern : Str := []
  protocol : Str := []
  headers : Dict Str (List Str) := [("required", [])]
  queryParams : List Str := []
  bodySchema : Option (Dict Str Json) := none
deriving Repr, DecidableEq

/-- Authentication info for the device. -/
structure AuthConfig where
  type : Str := "bearer"
  tokenEndpoint : Str := []
  credentials : Str := "stored_externally"
deriving Repr, DecidableEq

/-- Client section: what the device sends to the cloud. -/
structure ClientConfig where
  protocols : List Str := [("http" : Str)]
  authentication : Option AuthConfig := none
  endpoints : List ClientEndpoint := []
deriving Repr, DecidableEq

/-- A persistent state variable for the simulated device. -/
structure StateVariable where
  name : Str
  type : Str := "string"
  default : Json := .null
  min : Option (BitVec 64) := none
  max : Option (BitVec 64) := none
  enum : Option (List Str) := none
  unit : Str := []
  persist : Bool := true
  description : Str := []
deriving Repr, DecidableEq

/-- A simulated sensor that generates realistic data. -/
structure VirtualSensor where
  name : Str
  type : Str := "integer"
  behavior : Str := "static"
  baseline : Str := []
  driftRange : Option (List (BitVec 64)) := none
  periodS : BitVec 64 := 0
  amplitude : Option (BitVec 64) := none
  updateIntervalS : BitVec 64 := 0x404e000000000000
  description : Str := []
deriving Repr, DecidableEq

/-- Server section: what the proxy should respond. -/
structure ServerConfig where
  stateVariables : List StateVariable := []
  responses : List ServerResponse := []
  virtualSensors : List VirtualSensor := []
deriving Repr, DecidableEq

/-- Metadata for a deciphered pattern file. -/
structure PatternMeta where
  version : Int := 1
  patternId : Str
  vendor : Str
  deviceType : Str
  model : Str := []
deriving Repr, DecidableEq

/-- Root model of a v1 `.ride-pattern.json`. -/
structure PatternDB where
  schemaUrl : Str := "https://ride-the-api.dev/pattern-schema/v1"
  patternMeta : PatternMeta
  client : ClientConfig := {}
  server : ServerConfig := {}
deriving Repr, DecidableEq

/-- `primary` plus whatever `extra` defines that `primary` does not: endpoints and responses by id, state
    variables and sensors by name. -/
def mergePatternDbs (primary extra : PatternDB) : PatternDB :=
  { primary with
    client :=
      { primary.client with
        endpoints := primary.client.endpoints ++ extra.client.endpoints.filter fun ep =>
          !(primary.client.endpoints.map (·.id)).contains ep.id }
    server :=
      { responses := primary.server.responses ++ extra.server.responses.filter fun resp =>
          !(primary.server.responses.map (·.id)).contains resp.id
        stateVariables := primary.server.stateVariables ++ extra.server.stateVariables.filter fun sv =>
          !(primary.server.stateVariables.map (·.name)).contains sv.name
        virtualSensors := primary.server.virtualSensors ++ extra.server.virtualSensors.filter fun vs =>
          !(primary.server.virtualSensors.map (·.name)).contains vs.name } }

/-! ## Device models -/

/-- Identification result of the first LLM flush. -/
structure ProtocolInfo where
  transport : Str := []
  protocol : Str := []
  proprietary : Bool := false
  security : Str := []
  handler : Str := "auto"
  identity : Str := []
  ports : List Int := []
  confidence : BitVec 64 := 0
deriving Repr, DecidableEq

/-- A device capability in protocol-agnostic form. -/
structure Command where
  id : Str
  kind : Str
  protocol : Str := "http"
  method : Str := "GET"
  path : Str := []
  pathPattern : Str := []
  topic : Str := []
  headers : Dict Str (List Str) := [("required", [])]
  queryParams : List Str := []
  bodySchema : Option (Dict Str Json) := none
deriving Repr, DecidableEq

/-- Root portable record of a device, the v2 `.ride-pattern.json`. -/
structure DeviceModel where
  schemaUrl : Str := "https://ride-the-api.dev/pattern-schema/v2"
  patternMeta : PatternMeta
  protocol : ProtocolInfo := {}
  commands : List Command := []
  responses : List ServerResponse := []
  interactions : List FieldMapping := []
  stateVariables : List StateVariable := []
  virtualSensors : List VirtualSensor := []
deriving Repr, DecidableEq

/-- `a or b` on strings. -/
def orStr (a b : Str) : Str := if a.isEmpty then b else a

/-- The v1 endpoint of a command of a device that speaks `deviceProtocol`. -/
def Command.toEndpoint (deviceProtocol : Str) (c : Command) : ClientEndpoint where
  id := c.id
  intent := c.kind
  method := orStr c.method "GET"
  path := orStr c.path (orStr c.pathPattern c.topic)
  pathPattern := orStr c.pathPattern (orStr c.path c.topic)
  protocol := deviceProtocol
  headers := if c.headers.isEmpty then [("required", [])] else c.headers
  queryParams := c.queryParams
  bodySchema := c.bodySchema

/-- Map a device model to the v1 set the engine matches on: the device protocol is projected onto every
    endpoint. -/
def DeviceModel.toPatternDb (model : DeviceModel) : PatternDB where
  patternMeta := model.patternMeta
  client :=
    { protocols := if model.protocol.protocol.isEmpty then [("http" : Str)] else [model.protocol.protocol]
      endpoints := model.commands.map (Command.toEndpoint model.protocol.protocol) }
  server :=
    { responses := model.responses
      stateVariables := model.stateVariables
      virtualSensors := model.virtualSensors }

/-! ## Loading a file's JSON -/

/-- The pydantic validation of the two formats. -/
structure Readers where
  validateModel : Json → Result DeviceModel
  validateDb : Json → Result PatternDB

/-- The pattern set that a file's JSON is loaded as. -/
def Readers.patterns (R : Readers) (data : Json) : Result PatternDB := do
  let schema ← data.getD "$schema" (.str [])
  if ← schema.isIn "pattern-schema/v2" then do
    let model ← R.validateModel data
    .ok model.toPatternDb
  else R.validateDb data

/-! ## Triggers -/

/-- The first response of each trigger. -/
def responsesByTrigger (responses : List ServerResponse) : Dict Str ServerResponse :=
  responses.foldl (fun d resp => resp.triggers.foldl (fun d trigger => d.setDefault trigger resp) d) []

/-- The response template that answers a client endpoint: one whose triggers name the endpoint's id wins
    over one that names its intent. -/
def responseForEndpoint (responsesByTrigger : Dict Str ServerResponse) (endpointId intent : Str) :
    Option ServerResponse :=
  if endpointId ≠ [] ∧ responsesByTrigger.has endpointId then responsesByTrigger.get? endpointId
  else if intent ≠ [] then responsesByTrigger.get? intent
  else none

/-! ## The trigger map -/

section
variable {responses : List ServerResponse} {trigger : Str}

/-- Adding the triggers of a response leaves the present ones alone. -/
theorem get?_setDefaults (triggers : List Str) (resp : ServerResponse) (d : Dict Str ServerResponse) :
    (triggers.foldl (fun d trigger => d.setDefault trigger resp) d).get? trigger =
      (d.get? trigger).or (if trigger ∈ triggers then some resp else none) := by
  induction triggers generalizing d with
  | nil => simp
  | cons t ts ih =>
    rw [List.foldl_cons, ih, Dict.get?_setDefault]
    by_cases ht : t = trigger
    · subst ht
      cases d.get? t <;> simp
    · have hne : ¬ trigger = t := fun h => ht h.symm
      simp [ht, hne, List.mem_cons]

/-- **The trigger map gives the first response that lists the trigger.** -/
theorem get?_responsesByTrigger (responses : List ServerResponse) (trigger : Str) :
    (responsesByTrigger responses).get? trigger = responses.find? fun resp => resp.triggers.contains trigger := by
  have hfold : ∀ d : Dict Str ServerResponse,
      (responses.foldl (fun d resp => resp.triggers.foldl (fun d trigger => d.setDefault trigger resp) d) d).get?
          trigger =
        (d.get? trigger).or (responses.find? fun resp => resp.triggers.contains trigger) := by
    induction responses with
    | nil => intro d; simp
    | cons resp responses ih =>
      intro d
      rw [List.foldl_cons, ih, get?_setDefaults, List.find?_cons]
      by_cases hmem : trigger ∈ resp.triggers
      · have hcontains : resp.triggers.contains trigger = true := by simpa using hmem
        rw [hcontains, if_pos hmem]
        cases d.get? trigger <;> simp
      · have hcontains : resp.triggers.contains trigger = false := by simpa using hmem
        rw [hcontains, if_neg hmem]
        cases d.get? trigger <;> simp
  exact hfold []

/-- A response found for an endpoint is one of the set. -/
theorem mem_of_responseForEndpoint {id intent : Str} {resp : ServerResponse}
    (h : responseForEndpoint (responsesByTrigger responses) id intent = some resp) : resp ∈ responses := by
  unfold responseForEndpoint at h
  split at h
  · rw [get?_responsesByTrigger] at h
    exact List.mem_of_find?_eq_some h
  · split at h
    · rw [get?_responsesByTrigger] at h
      exact List.mem_of_find?_eq_some h
    · cases h

end

end RideTheApi.PatternDb
