import Mathlib.Data.List.ReduceOption
import RideTheApi.Lib.Except
import RideTheApi.PatternDb.PortableSchema
import RideTheApi.PatternDb.SeedMerge
import RideTheApi.Py.Format

/-!
# `PatternDb.CrossChecks` — the warnings about a pattern file

A file that passes its schema is checked for endpoints that no response triggers, and for triggers that no
endpoint has. The checks know endpoints by their intents only, and of several endpoints of one id the last;
the engine answers an endpoint by its id first. `agrees_iff` says of which files the two say the same.
-/

namespace RideTheApi.CrossChecks

open Py PatternDb

/-! ## `validate_pattern` -/

/-- What a file is warned of. -/
inductive Warning where
  | unknownProtocol (protocol : Json)
  | noTopicPrefix
  | noResponse (endpointId intent : Json)
  | orphaned (responseId trigger : Json)
  | undefinedVariable (sensor : Json) (ref : Str)
deriving Repr, DecidableEq

/-- The text of a warning. -/
def Warning.text (I : Interp) : Warning → Result Str
  | .unknownProtocol protocol => do
    .ok (str "Unknown protocol '" ++ (← strOf I protocol) ++ str "' in client.protocols")
  | .noTopicPrefix => .ok "Protocol 'mqtt' is declared but no 'mqtt_topic_prefix' is set"
  | .noResponse endpointId intent => do
    .ok (str "Endpoint '" ++ (← strOf I endpointId) ++ str "' has intent '" ++ (← strOf I intent) ++
      str "' but no server response triggers it")
  | .orphaned responseId trigger => do
    .ok (str "Response '" ++ (← strOf I responseId) ++ str " triggers intent '" ++ (← strOf I trigger) ++
      str "' but no client endpoint has that intent")
  | .undefinedVariable sensor ref => do
    .ok (str "Virtual sensor '" ++ (← strOf I sensor) ++ str "' references state variable '" ++ ref ++
      str "' which is not defined")

structure ValidationResult where
  valid : Bool := true
  errors : List Str := []
  warnings : List Warning := []
deriving Repr, DecidableEq

/-- `ALL_PROTOCOLS`. -/
def allProtocols : List Str :=
  ["http", "https", "http2", "mqtt", "coap", "modbus", "websocket", "raw_tcp", "zigbee", "zwave", "matter"].map str

/-- The sections that both formats are checked by. -/
structure Shape where
  endpoints : List Json
  responses : List Json
  stateVariables : List Json
  virtualSensors : List Json
  protocols : Json
deriving Repr, DecidableEq

/-- The sections of a v1 file. -/
def shapeV1 (data : Json) : Result Shape := do
  let client ← data.getD "client" (.obj [])
  let server ← data.getD "server" (.obj [])
  .ok { endpoints := ← client.items "endpoints"
        responses := ← server.items "responses"
        stateVariables := ← server.items "state_variables"
        virtualSensors := ← server.items "virtual_sensors"
        protocols := ← client.getD "protocols" (.arr [.str "http"]) }

/-- The endpoint of a v2 command. -/
def commandEndpoint (data c : Json) : Result Json := do
  let id ← c.getD "id" .null
  let kind ← c.getD "kind" .null
  let method ← c.getD "method" .null
  let protocol ← c.getD "protocol" (← (← data.getD "protocol" (.obj [])).getD "protocol" (.str "http"))
  .ok (.obj [("id", id), ("intent", kind), ("method", method), ("protocol", protocol)])

/-- The sections of a v2 file, which are at its root. -/
def shapeV2 (data : Json) : Result Shape := do
  let endpoints ← (← data.items "commands").mapM (commandEndpoint data)
  let responses ← data.items "responses"
  let stateVariables ← data.items "state_variables"
  let virtualSensors ← data.items "virtual_sensors"
  let protocolName ← (← data.getD "protocol" (.obj [])).getD "protocol" .null
  .ok { endpoints, responses, stateVariables, virtualSensors
        protocols := .arr [if protocolName.truthy then protocolName else .str "http"] }

/-- Unknown protocols, and MQTT without a topic prefix. -/
def protocolWarnings (isV2 : Bool) (data protocols : Json) : Result (List Warning) := do
  let unknown := (← protocols.iter).filter fun p => !(allProtocols.map (.str ·)).contains p
  let mqtt ← protocols.isIn "mqtt"
  if !isV2 && mqtt then do
    let topicPrefix ← (← data.getD "client" (.obj [])).getD "mqtt_topic_prefix" .null
    .ok (unknown.map .unknownProtocol ++ if topicPrefix.truthy then [] else [.noTopicPrefix])
  else .ok (unknown.map .unknownProtocol)

/-- An endpoint whose intent is no trigger. -/
def endpointWarning (triggers : List Json) (ep : Json) : Result (Option Warning) := do
  let intent ← ep.getD "intent" (.str [])
  let endpointId ← ep.getD "id" (.str "?")
  .ok (if intent.truthy && !triggers.contains intent then some (.noResponse endpointId intent) else none)

/-- The triggers of a response that are no intent. -/
def responseWarnings (intents : List Json) (resp : Json) : Result (List Warning) := do
  let triggers ← resp.items "triggers"
  let responseId ← resp.getD "id" (.str "?")
  .ok ((triggers.filter fun trigger => !intents.contains trigger).map (.orphaned responseId))

/-- A sensor whose baseline names a state variable that is not there. -/
def sensorWarning (names : List Json) (vs : Json) : Result (Option Warning) := do
  match ← vs.getD "baseline" (.str []) with
  | .str baseline =>
    let sensor ← vs.getD "name" (.str "?")
    let ref : Str := (baseline.drop 7).dropLast
    .ok (if baseline.startsWith "\x7bstate." && !names.contains (.str ref) then some (.undefinedVariable sensor ref)
      else none)
  | _ => .error .attributeError

/-- `set({ep.get("id"): ep.get("intent") for ep in endpoints}.values())`. -/
def endpointIntentValues (endpoints : List Json) : Result (List Json) := do
  let pairs ← endpoints.mapM fun ep => do
    let endpointId ← ep.getD "id" .null
    let intent ← ep.getD "intent" .null
    .ok (endpointId, intent)
  .ok ((Dict.ofList pairs).map Prod.snd)

/-- The checks across sections. -/
def crossWarnings (s : Shape) : Result (List Warning) := do
  let intents ← endpointIntentValues s.endpoints
  let triggers ← s.responses.mapM fun resp => resp.items "triggers"
  let unanswered ← s.endpoints.mapM (endpointWarning triggers.flatten)
  let orphaned ← s.responses.mapM (responseWarnings intents)
  let names ← s.stateVariables.mapM fun sv => sv.getD "name" .null
  let undefined ← s.virtualSensors.mapM (sensorWarning names)
  .ok (unanswered.reduceOption ++ orphaned.flatten ++ undefined.reduceOption)

/-- The sections of a file. -/
def shapeOf (isV2 : Bool) (data : Json) : Result Shape := if isV2 then shapeV2 data else shapeV1 data

/-- The schema a file is checked against. -/
def schemaOf (isV2 : Bool) : JsonSchema := if isV2 then patternSchemaV2 else patternSchemaV1

/-- `validate_pattern`; `message` is what the schema validation says of a file that fails. -/
def validatePattern (message : Json → Str) (data : Dict Str Json) : Result ValidationResult := do
  let schemaUrl ← Json.getD (.obj data) "$schema" (.str "https://ride-the-api.dev/pattern-schema/v1")
  let isV2 ← schemaUrl.isIn "pattern-schema/v2"
  if (schemaOf isV2).valid (.obj data) then do
    let shape ← shapeOf isV2 (.obj data)
    let protocols ← protocolWarnings isV2 (.obj data) shape.protocols
    let cross ← crossWarnings shape
    .ok { warnings := protocols ++ cross }
  else .ok { valid := false, errors := [str "Schema validation failed: " ++ message (.obj data)] }

/-! ## The engine's set -/

/-- The ids of items, with the text under a key. -/
def readPairs (key : Str) (items : List Json) : Result (List (Json × Json)) :=
  items.mapM fun item => do
    let id ← item.getD "id" .null
    let value ← item.getD key .null
    .ok (id, value)

/-- The triggers of responses. -/
def readTriggers (responses : List Json) : Result (List (Json × List Json)) :=
  responses.mapM fun resp => do
    let id ← resp.getD "id" .null
    let triggers ← resp.items "triggers"
    .ok (id, triggers)

/-- Validation takes ids, intents, kinds and triggers as they stand in the file. -/
structure Keeps (R : Readers) : Prop where
  endpoints : ∀ data doc, R.validateDb data = .ok doc → ∃ client items, data.getD "client" (.obj []) = .ok client ∧
    client.items "endpoints" = .ok items ∧
    readPairs "intent" items = .ok (doc.client.endpoints.map fun ep => (.str ep.id, .str ep.intent))
  responses : ∀ data doc, R.validateDb data = .ok doc → ∃ server items, data.getD "server" (.obj []) = .ok server ∧
    server.items "responses" = .ok items ∧
    readTriggers items = .ok (doc.server.responses.map fun resp => (.str resp.id, resp.triggers.map .str))
  commands : ∀ data model, R.validateModel data = .ok model → ∃ items, data.items "commands" = .ok items ∧
    readPairs "kind" items = .ok (model.commands.map fun c => (.str c.id, .str c.kind))
  modelResponses : ∀ data model, R.validateModel data = .ok model → ∃ items, data.items "responses" = .ok items ∧
    readTriggers items = .ok (model.responses.map fun resp => (.str resp.id, resp.triggers.map .str))

/-! ## Agreement -/

/-- The trigger through which an endpoint is answered: its id, else its intent. -/
def answeredThrough (responsesByTrigger : Dict Str ServerResponse) (ep : ClientEndpoint) : Option Str :=
  if ep.id ≠ [] ∧ responsesByTrigger.has ep.id then some ep.id
  else if ep.intent ≠ [] ∧ responsesByTrigger.has ep.intent then some ep.intent
  else none

/-- An endpoint is reported exactly when no response answers it, and a trigger exactly when no endpoint is
    answered through it. -/
structure Agrees (warnings : List Warning) (doc : PatternDB) : Prop where
  unanswered : ∀ ep ∈ doc.client.endpoints, .noResponse (.str ep.id) (.str ep.intent) ∈ warnings ↔
    responseForEndpoint (responsesByTrigger doc.server.responses) ep.id ep.intent = none
  orphaned : ∀ resp ∈ doc.server.responses, ∀ trigger ∈ resp.triggers,
    .orphaned (.str resp.id) (.str trigger) ∈ warnings ↔
      ∀ ep ∈ doc.client.endpoints, answeredThrough (responsesByTrigger doc.server.responses) ep ≠ some trigger

/-- The triggers of the responses. -/
def triggersOf (doc : PatternDB) : List Str := doc.server.responses.flatMap (·.triggers)

/-- The intents that the checks know: of the endpoints of one id, that of the last. -/
def knownIntents (doc : PatternDB) : List Str :=
  (Dict.ofList (doc.client.endpoints.map fun ep => (ep.id, ep.intent))).map Prod.snd

/-- An endpoint that a response names by its id is also named by its intent; and the triggers that are known
    intents are the ids of endpoints, and the intents of endpoints that no response names by their ids. -/
structure IntentsTell (doc : PatternDB) : Prop where
  byIntent : ∀ ep ∈ doc.client.endpoints, ep.id ∈ triggersOf doc → ep.intent ∈ triggersOf doc
  known : ∀ trigger ∈ triggersOf doc, trigger ∈ knownIntents doc ↔
    ∃ ep ∈ doc.client.endpoints, ep.id = trigger ∨ ep.intent = trigger ∧ ep.id ∉ triggersOf doc

/-! ## Reading a valid file -/

open JsonSchema

/-- The JSON of an endpoint. -/
structure IsEndpoint (item : Json) (ep : ClientEndpoint) : Prop where
  id : ∀ default, item.getD "id" default = .ok (.str ep.id)
  intent : ∀ default, item.getD "intent" default = .ok (.str ep.intent)
  id_ne : ep.id ≠ []
  intent_ne : ep.intent ≠ []

/-- The JSON of a response. -/
structure IsResponse (item : Json) (resp : ServerResponse) : Prop where
  id : ∀ default, item.getD "id" default = .ok (.str resp.id)
  triggers : item.items "triggers" = .ok (resp.triggers.map .str)

/-- The sections of a valid file, and the set that the file is loaded as. -/
structure IsShape (s : Shape) (doc : PatternDB) : Prop where
  endpoints : List.Forall₂ IsEndpoint s.endpoints doc.client.endpoints
  responses : List.Forall₂ IsResponse s.responses doc.server.responses
  stateVariables : ∀ sv ∈ s.stateVariables, stateVariableSchema.valid sv = true
  virtualSensors : ∀ vs ∈ s.virtualSensors, virtualSensorSchema.valid vs = true
  protocols : ∃ ps, s.protocols = .arr ps

section
variable {R : Readers} {data : Json} {items : List Json} {doc : PatternDB} {model : DeviceModel} {s : Shape}

/-- What was read of items under an id and another name, for valid items. -/
theorem read_pairs {α : Type} {key : Str} {xs : List α} {f g : α → Str}
    (hnames : ∀ item ∈ items, ∃ id value : Str, id ≠ [] ∧ value ≠ [] ∧
      (∀ default, item.getD "id" default = .ok (.str id)) ∧ ∀ default, item.getD key default = .ok (.str value))
    (hread : readPairs key items = .ok (xs.map fun x => (.str (f x), .str (g x)))) :
    List.Forall₂ (fun item x => (∀ default, item.getD "id" default = .ok (.str (f x))) ∧
      (∀ default, item.getD key default = .ok (.str (g x))) ∧ f x ≠ [] ∧ g x ≠ []) items xs := by
  have hrel := List.forall₂_map_right_iff.mp (Except.forall₂_of_mapM hread)
  refine hrel.imp_of_mem fun item hitem x hx => ?_
  obtain ⟨id, value, hidne, hvaluene, hid, hvalue⟩ := hnames item hitem
  rw [hid, Except.ok_bind, hvalue, Except.ok_bind] at hx
  simp only [Except.ok.injEq, Prod.mk.injEq, JsonTree.str.injEq] at hx
  obtain ⟨rfl, rfl⟩ := hx
  exact ⟨hid, hvalue, hidne, hvaluene⟩

/-- The id of a valid response. -/
theorem response_name {item : Json} (h : serverResponseSchema.valid item = true) :
    ∃ id : Str, id ≠ [] ∧ ∀ default, item.getD "id" default = .ok (.str id) :=
  name_valid h List.mem_cons_self List.mem_cons_self

theorem read_responses {resps : List ServerResponse} (hvalid : ∀ item ∈ items, serverResponseSchema.valid item = true)
    (hread : readTriggers items = .ok (resps.map fun resp => (.str resp.id, resp.triggers.map .str))) :
    List.Forall₂ IsResponse items resps := by
  have hrel := List.forall₂_map_right_iff.mp (Except.forall₂_of_mapM hread)
  refine hrel.imp_of_mem fun item hitem resp hresp => ?_
  obtain ⟨id, _, hid⟩ := response_name (hvalid item hitem)
  rw [hid, Except.ok_bind] at hresp
  obtain ⟨triggers, htriggers, hresp⟩ := Except.bind_ok_iff.mp hresp
  simp only [Except.ok.injEq, Prod.mk.injEq, JsonTree.str.injEq] at hresp
  obtain ⟨rfl, rfl⟩ := hresp
  exact ⟨hid, htriggers⟩

/-- The id of a valid item, and its intent or kind. -/
theorem item_names {key : Str} {props : List (Str × JsonSchema)} {item : Json}
    (h : (object ["id", key] (("id", name) :: (key, name) :: props)).valid item = true) :
    ∃ id second : Str, id ≠ [] ∧ second ≠ [] ∧
      (∀ default, item.getD "id" default = .ok (.str id)) ∧ ∀ default, item.getD key default = .ok (.str second) := by
  obtain ⟨id, hidne, hid⟩ : ∃ id : Str, id ≠ [] ∧ ∀ default, item.getD "id" default = .ok (.str id) :=
    name_valid h List.mem_cons_self List.mem_cons_self
  obtain ⟨second, hsecondne, hsecond⟩ :
      ∃ second : Str, second ≠ [] ∧ ∀ default, item.getD key default = .ok (.str second) :=
    name_valid h (List.mem_cons_of_mem _ List.mem_cons_self) (List.mem_cons_of_mem _ List.mem_cons_self)
  exact ⟨id, second, hidne, hsecondne, hid, hsecond⟩

/-- **The sections of a valid v1 file** are those of the set it is loaded as. -/
theorem shapeV1_ok (hR : Keeps R) (hvalid : patternSchemaV1.valid data = true) (hdoc : R.validateDb data = .ok doc) :
    ∃ s, shapeV1 data = .ok s ∧ IsShape s doc := by
  obtain ⟨client, hclient, hclientValid⟩ :
      ∃ client, data.getD "client" (.obj []) = .ok client ∧ clientSchema.valid client = true :=
    getD_valid hvalid (by simp) (by decide)
  obtain ⟨server, hserver, hserverValid⟩ :
      ∃ server, data.getD "server" (.obj []) = .ok server ∧ serverSchema.valid server = true :=
    getD_valid hvalid (by simp) (by decide)
  obtain ⟨endpoints, hendpoints, hendpointsValid⟩ :
      ∃ xs, client.items "endpoints" = .ok xs ∧ ∀ x ∈ xs, endpointSchema.valid x = true :=
    items_valid hclientValid (by simp)
  obtain ⟨responses, hresponses, hresponsesValid⟩ :
      ∃ xs, server.items "responses" = .ok xs ∧ ∀ x ∈ xs, serverResponseSchema.valid x = true :=
    items_valid hserverValid (by simp)
  obtain ⟨stateVariables, hstateVariables, hstateVariablesValid⟩ :
      ∃ xs, server.items "state_variables" = .ok xs ∧ ∀ x ∈ xs, stateVariableSchema.valid x = true :=
    items_valid hserverValid (by simp)
  obtain ⟨virtualSensors, hvirtualSensors, hvirtualSensorsValid⟩ :
      ∃ xs, server.items "virtual_sensors" = .ok xs ∧ ∀ x ∈ xs, virtualSensorSchema.valid x = true :=
    items_valid hserverValid (by simp)
  obtain ⟨protocols, hprotocols, hprotocolsValid⟩ :
      ∃ ps, client.getD "protocols" (.arr [.str "http"]) = .ok ps ∧
        (all [arrayOf protocolSchema, .minItems 1]).valid ps = true :=
    getD_valid hclientValid (by simp) (by decide)
  have harray : (arrayOf protocolSchema).valid protocols = true := by
    rw [valid_all] at hprotocolsValid
    exact List.all_eq_true.mp hprotocolsValid _ List.mem_cons_self
  obtain ⟨ps, hps, _⟩ := valid_arrayOf_iff.mp harray
  -- what validation read is what is read here
  obtain ⟨client', items, hclient', hitems, hpairs⟩ := hR.endpoints data doc hdoc
  obtain ⟨server', items', hserver', hitems', htriggers⟩ := hR.responses data doc hdoc
  rw [hclient] at hclient'
  cases hclient'
  rw [hserver] at hserver'
  cases hserver'
  rw [hendpoints] at hitems
  cases hitems
  rw [hresponses] at hitems'
  cases hitems'
  refine ⟨⟨endpoints, responses, stateVariables, virtualSensors, protocols⟩, ?_, ?_, ?_, hstateVariablesValid,
    hvirtualSensorsValid, ps, hps⟩
  · unfold shapeV1
    rw [hclient, Except.ok_bind, hserver, Except.ok_bind, hendpoints, Except.ok_bind, hresponses, Except.ok_bind,
      hstateVariables, Except.ok_bind, hvirtualSensors, Except.ok_bind, hprotocols]
    rfl
  · refine (read_pairs (fun item hitem => item_names (hendpointsValid item hitem)) hpairs).imp ?_
    rintro item ep ⟨hid, hintent, hidne, hintentne⟩
    exact ⟨hid, hintent, hidne, hintentne⟩
  · exact read_responses hresponsesValid htriggers

/-- **The sections of a valid v2 file** are those of the set it is loaded as. -/
theorem shapeV2_ok (hR : Keeps R) (hvalid : patternSchemaV2.valid data = true)
    (hmodel : R.validateModel data = .ok model) : ∃ s, shapeV2 data = .ok s ∧ IsShape s model.toPatternDb := by
  obtain ⟨protocol, hprotocol, hprotocolValid⟩ :
      ∃ protocol, data.getD "protocol" (.obj []) = .ok protocol ∧ protocolInfoSchema.valid protocol = true :=
    getD_valid hvalid (by simp) (by decide)
  obtain ⟨protocolName, hname, _⟩ : ∃ name, protocol.getD "protocol" .null = .ok name ∧ JsonSchema.any.valid name = true := by
    obtain ⟨kvs, rfl, _⟩ := valid_object_iff.mp hprotocolValid
    exact ⟨_, rfl, rfl⟩
  obtain ⟨fallback, hfallback, _⟩ :
      ∃ name, protocol.getD "protocol" (.str "http") = .ok name ∧ text.valid name = true :=
    getD_valid hprotocolValid (by simp) (by decide)
  obtain ⟨commands, hcommands, hcommandsValid⟩ :
      ∃ xs, data.items "commands" = .ok xs ∧ ∀ x ∈ xs, commandSchema.valid x = true :=
    items_valid hvalid (by simp)
  obtain ⟨responses, hresponses, hresponsesValid⟩ :
      ∃ xs, data.items "responses" = .ok xs ∧ ∀ x ∈ xs, serverResponseSchema.valid x = true :=
    items_valid hvalid (by simp)
  obtain ⟨stateVariables, hstateVariables, hstateVariablesValid⟩ :
      ∃ xs, data.items "state_variables" = .ok xs ∧ ∀ x ∈ xs, stateVariableSchema.valid x = true :=
    items_valid hvalid (by simp)
  obtain ⟨virtualSensors, hvirtualSensors, hvirtualSensorsValid⟩ :
      ∃ xs, data.items "virtual_sensors" = .ok xs ∧ ∀ x ∈ xs, virtualSensorSchema.valid x = true :=
    items_valid hvalid (by simp)
  obtain ⟨items, hitems, hpairs⟩ := hR.commands data model hmodel
  obtain ⟨items', hitems', htriggers⟩ := hR.modelResponses data model hmodel
  rw [hcommands] at hitems
  cases hitems
  rw [hresponses] at hitems'
  cases hitems'
  have hread := read_pairs (fun item hitem => item_names (hcommandsValid item hitem)) hpairs
  -- each command becomes an endpoint with its id and kind
  have hendpoint : ∀ item ∈ commands, ∃ ep, commandEndpoint data item = .ok ep ∧
      ∀ id kind : Str, (∀ default, item.getD "id" default = .ok (.str id)) →
        (∀ default, item.getD "kind" default = .ok (.str kind)) →
          (∀ default, ep.getD "id" default = .ok (.str id)) ∧ ∀ default, ep.getD "intent" default = .ok (.str kind) := by
    intro item hitem
    obtain ⟨kvs, rfl, _⟩ := valid_object_iff.mp (hcommandsValid item hitem)
    have hmade : commandEndpoint data (.obj kvs) = .ok (.obj [("id", (kvs.lookup (str "id")).getD .null),
        ("intent", (kvs.lookup (str "kind")).getD .null), ("method", (kvs.lookup (str "method")).getD .null),
        ("protocol", (kvs.lookup (str "protocol")).getD fallback)]) := by
      unfold commandEndpoint
      simp only [getD_obj, Except.ok_bind, hprotocol, hfallback]
    refine ⟨_, hmade, fun id kind hid hkind => ⟨fun default => ?_, fun default => ?_⟩⟩
    · exact hid .null
    · exact hkind .null
  obtain ⟨endpoints, hendpoints, hmade⟩ := Except.mapM_forall₂ hendpoint
  refine ⟨⟨endpoints, responses, stateVariables, virtualSensors,
    .arr [if protocolName.truthy then protocolName else .str "http"]⟩, ?_, ?_, ?_, hstateVariablesValid,
    hvirtualSensorsValid, _, rfl⟩
  · unfold shapeV2
    rw [hcommands, Except.ok_bind, hendpoints, Except.ok_bind, hresponses, Except.ok_bind, hstateVariables,
      Except.ok_bind, hvirtualSensors, Except.ok_bind, hprotocol, Except.ok_bind, hname]
    rfl
  · refine List.forall₂_map_right_iff.mpr ?_
    refine List.Forall₂.common_left hmade hread ?_
    rintro item ep c hmade ⟨hid, hkind, hidne, hkindne⟩
    obtain ⟨hepId, hepIntent⟩ := hmade _ _ hid hkind
    exact ⟨hepId, hepIntent, hidne, hkindne⟩
  · exact read_responses hresponsesValid htriggers

end

/-! ## The warnings of a valid file -/

section
variable {s : Shape} {doc : PatternDB} {ep : ClientEndpoint} {resp : ServerResponse} {trigger : Str}

/-- Writing texts to a dictionary, seen as JSON. -/
theorem map_set_str (d : Dict Str Str) (k v : Str) :
    (d.set k v).map (fun kv => ((.str kv.1, .str kv.2) : Json × Json)) =
      Dict.set (d.map fun kv => (.str kv.1, .str kv.2)) (.str k) (.str v) := by
  induction d with
  | nil => rfl
  | cons kv d ih =>
    rw [Dict.set, List.map_cons, Dict.set]
    by_cases h : kv.1 = k
    · rw [if_pos h, if_pos (congrArg JsonTree.str h)]
      rfl
    · rw [if_neg h, if_neg (fun heq => h (JsonTree.str.inj heq)), List.map_cons, ih]

theorem map_ofList_str (kvs : List (Str × Str)) :
    (Dict.ofList kvs).map (fun kv => ((.str kv.1, .str kv.2) : Json × Json)) =
      Dict.ofList (kvs.map fun kv => (.str kv.1, .str kv.2)) := by
  have hfold : ∀ d : Dict Str Str, (kvs.foldl (fun d kv => d.set kv.1 kv.2) d).map
      (fun kv => ((.str kv.1, .str kv.2) : Json × Json)) =
        (kvs.map fun kv => (.str kv.1, .str kv.2)).foldl (fun d kv => Dict.set d kv.1 kv.2)
          (d.map fun kv => (.str kv.1, .str kv.2)) := by
    induction kvs with
    | nil => intro d; rfl
    | cons kv kvs ih =>
      intro d
      rw [List.foldl_cons, ih, map_set_str]
      rfl
  exact hfold []

/-- The intents that the checks know. -/
theorem endpointIntentValues_ok (h : IsShape s doc) :
    endpointIntentValues s.endpoints = .ok ((knownIntents doc).map .str) := by
  have hpairs : s.endpoints.mapM (fun ep => do
      let endpointId ← Json.getD ep "id" .null
      let intent ← Json.getD ep "intent" .null
      (.ok (endpointId, intent) : Result (Json × Json))) =
        .ok (doc.client.endpoints.map fun ep => (.str ep.id, .str ep.intent)) := by
    apply Except.mapM_of_forall₂ h.endpoints
    intro item ep hep
    rw [hep.id, Except.ok_bind, hep.intent, Except.ok_bind]
  have hvalues := congrArg (List.map Prod.snd)
    (map_ofList_str (doc.client.endpoints.map fun ep => (ep.id, ep.intent)))
  rw [List.map_map, List.map_map] at hvalues
  unfold endpointIntentValues knownIntents
  rw [hpairs, Except.ok_bind, List.map_map]
  exact congrArg Except.ok hvalues.symm

theorem contains_str (texts : List Str) (t : Str) : (texts.map JsonTree.str : List Json).contains (.str t) = texts.contains t := by
  rw [Bool.eq_iff_iff, List.contains_iff_mem, List.contains_iff_mem, List.mem_map]
  constructor
  · rintro ⟨t', ht', heq⟩
    exact JsonTree.str.inj heq ▸ ht'
  · intro ht
    exact ⟨t, ht, rfl⟩

/-- The warning about an endpoint. -/
def unansweredOf (doc : PatternDB) (ep : ClientEndpoint) : Option Warning :=
  if ep.intent ∈ triggersOf doc then none else some (.noResponse (.str ep.id) (.str ep.intent))

/-- The warnings about a response. -/
def orphanedOf (doc : PatternDB) (resp : ServerResponse) : List Warning :=
  (resp.triggers.filter fun trigger => !(knownIntents doc).contains trigger).map
    fun trigger => .orphaned (.str resp.id) (.str trigger)

theorem endpointWarning_ok {item : Json} (h : IsEndpoint item ep) :
    endpointWarning ((triggersOf doc).map .str) item = .ok (unansweredOf doc ep) := by
  have htruthy : Json.truthy (.str ep.intent) = true := by
    unfold Json.truthy
    simpa using h.intent_ne
  unfold endpointWarning unansweredOf
  rw [h.intent, Except.ok_bind, h.id, Except.ok_bind, htruthy, contains_str, Bool.true_and]
  by_cases hmem : ep.intent ∈ triggersOf doc <;> simp [hmem]

theorem responseWarnings_ok {item : Json} (h : IsResponse item resp) :
    responseWarnings ((knownIntents doc).map .str) item = .ok (orphanedOf doc resp) := by
  have hfilter : (resp.triggers.map JsonTree.str).filter
      (fun trigger : Json => !((knownIntents doc).map JsonTree.str).contains trigger) =
        (resp.triggers.filter fun trigger => !(knownIntents doc).contains trigger).map JsonTree.str := by
    rw [List.filter_map]
    congr 1
    apply List.filter_congr
    intro trigger _
    show (!((knownIntents doc).map JsonTree.str : List Json).contains (.str trigger)) = _
    rw [contains_str]
  unfold responseWarnings orphanedOf
  rw [h.triggers, Except.ok_bind, h.id, Except.ok_bind, hfilter, List.map_map]
  rfl

/-- A sensor is only warned of for its variable. -/
theorem sensorWarning_ok {vs : Json} (names : List Json) (h : virtualSensorSchema.valid vs = true) :
    ∃ warning, sensorWarning names vs = .ok warning ∧
      ∀ w ∈ warning, ∃ sensor ref, w = .undefinedVariable sensor ref := by
  obtain ⟨name, _, hname⟩ : ∃ name : Str, name ≠ [] ∧ ∀ default, vs.getD "name" default = .ok (.str name) :=
    name_valid h List.mem_cons_self List.mem_cons_self
  obtain ⟨baseline, hbaseline, hvalid⟩ :
      ∃ baseline, vs.getD "baseline" (.str []) = .ok baseline ∧ text.valid baseline = true :=
    getD_valid h (by simp) (by decide)
  obtain ⟨t, rfl⟩ := valid_text_iff.mp hvalid
  unfold sensorWarning
  rw [hbaseline, Except.ok_bind]
  dsimp only
  rw [hname, Except.ok_bind]
  refine ⟨_, rfl, fun w hw => ?_⟩
  split at hw
  · cases hw
    exact ⟨_, _, rfl⟩
  · cases hw

/-- A warning that is about an endpoint or a response. -/
def Warning.cross : Warning → Bool
  | .noResponse _ _ => true
  | .orphaned _ _   => true
  | _               => false

/-- **The checks of a valid file**: what they say of endpoints and responses. -/
theorem crossWarnings_ok (h : IsShape s doc) : ∃ others, crossWarnings s =
    .ok (doc.client.endpoints.filterMap (unansweredOf doc) ++ doc.server.responses.flatMap (orphanedOf doc) ++ others) ∧
      ∀ w ∈ others, w.cross = false := by
  have htriggers : s.responses.mapM (fun resp => Json.items resp "triggers") =
      .ok (doc.server.responses.map fun resp => resp.triggers.map .str) :=
    Except.mapM_of_forall₂ h.responses fun item resp hresp => hresp.triggers
  have hflatten : (doc.server.responses.map fun resp => (resp.triggers.map .str : List Json)).flatten =
      (triggersOf doc).map .str := by
    unfold triggersOf
    rw [List.map_flatMap, List.flatMap_def]
  have hunanswered : s.endpoints.mapM (endpointWarning ((triggersOf doc).map .str)) =
      .ok (doc.client.endpoints.map (unansweredOf doc)) :=
    Except.mapM_of_forall₂ h.endpoints fun item ep hep => endpointWarning_ok hep
  have horphaned : s.responses.mapM (responseWarnings ((knownIntents doc).map .str)) =
      .ok (doc.server.responses.map (orphanedOf doc)) :=
    Except.mapM_of_forall₂ h.responses fun item resp hresp => responseWarnings_ok hresp
  obtain ⟨names, hnames, _⟩ := Except.exists_mapM (f := fun sv => Json.getD sv "name" .null) fun sv hsv => by
    obtain ⟨name, _, hname⟩ : ∃ name : Str, name ≠ [] ∧ ∀ default, Json.getD sv "name" default = .ok (.str name) :=
      name_valid (h.stateVariables sv hsv) List.mem_cons_self List.mem_cons_self
    exact ⟨_, hname _⟩
  obtain ⟨undefined, hundefined, hsensors⟩ := Except.mapM_forall₂ fun vs hvs =>
    sensorWarning_ok names (h.virtualSensors vs hvs)
  refine ⟨undefined.reduceOption, ?_, ?_⟩
  · unfold crossWarnings
    rw [endpointIntentValues_ok h, Except.ok_bind, htriggers, Except.ok_bind, hflatten, hunanswered, Except.ok_bind,
      horphaned, Except.ok_bind, hnames, Except.ok_bind, hundefined, Except.ok_bind]
    unfold List.reduceOption
    rw [List.filterMap_map, List.flatMap_def]
    rfl
  · intro w hw
    obtain ⟨vs, hvs, hw'⟩ := hsensors.exists_left (List.reduceOption_mem_iff.mp hw)
    obtain ⟨sensor, ref, rfl⟩ := hw' w rfl
    rfl

/-- The other warnings of a valid file. -/
theorem protocolWarnings_ok (isV2 : Bool) {data : Json} (hvalid : (schemaOf isV2).valid data = true)
    {ps : List Json} : ∃ ws, protocolWarnings isV2 data (.arr ps) = .ok ws ∧ ∀ w ∈ ws, w.cross = false := by
  have hunknown : ∀ w ∈ (ps.filter fun p => !(allProtocols.map (.str ·)).contains p).map Warning.unknownProtocol,
      w.cross = false := by
    intro w hw
    obtain ⟨p, _, rfl⟩ := List.mem_map.mp hw
    rfl
  have hmqtt : Json.isIn "mqtt" (.arr ps) = .ok (ps.contains (.str "mqtt")) := rfl
  have hiter : Json.iter (.arr ps) = .ok ps := rfl
  unfold protocolWarnings
  rw [hiter, Except.ok_bind, hmqtt, Except.ok_bind]
  split
  next hv1 =>
    -- only a v1 file is asked for its prefix
    have hisV2 : isV2 = false := by
      cases isV2 with
      | true => cases hv1
      | false => rfl
    subst hisV2
    have hvalid : patternSchemaV1.valid data = true := hvalid
    obtain ⟨client, hclient, hclientValid⟩ :
        ∃ client, data.getD "client" (.obj []) = .ok client ∧ clientSchema.valid client = true :=
      getD_valid hvalid (by simp) (by decide)
    obtain ⟨kvs, rfl, _⟩ := valid_object_iff.mp hclientValid
    rw [hclient, Except.ok_bind, getD_obj, Except.ok_bind]
    refine ⟨_, rfl, fun w hw => ?_⟩
    rcases List.mem_append.mp hw with hw | hw
    · exact hunknown w hw
    · split at hw
      · cases hw
      · rw [List.mem_singleton.mp hw]
        rfl
  next => exact ⟨_, rfl, hunknown⟩

/-- A response triggers on a text. -/
theorem mem_triggersOf : trigger ∈ triggersOf doc ↔ ∃ resp ∈ doc.server.responses, trigger ∈ resp.triggers :=
  List.mem_flatMap

theorem has_responsesByTrigger :
    (responsesByTrigger doc.server.responses).has trigger = true ↔ trigger ∈ triggersOf doc := by
  unfold Dict.has
  rw [get?_responsesByTrigger, List.find?_isSome, mem_triggersOf]
  exact exists_congr fun resp => and_congr_right fun _ => List.contains_iff_mem

/-- What answers an endpoint is what its trigger leads to. -/
theorem responseForEndpoint_eq_none (ep : ClientEndpoint) :
    responseForEndpoint (responsesByTrigger doc.server.responses) ep.id ep.intent = none ↔
      answeredThrough (responsesByTrigger doc.server.responses) ep = none := by
  have hget : ∀ t, (responsesByTrigger doc.server.responses).get? t = none ↔
      ¬ (responsesByTrigger doc.server.responses).has t = true := by
    intro t
    unfold Dict.has
    rw [Bool.not_eq_true, Option.isSome_eq_false_iff, Option.isNone_iff_eq_none]
  unfold responseForEndpoint answeredThrough
  by_cases hid : ep.id ≠ [] ∧ (responsesByTrigger doc.server.responses).has ep.id = true
  · rw [if_pos hid, if_pos hid, hget]
    simp [hid.2]
  · rw [if_neg hid, if_neg hid]
    by_cases hintent : ep.intent ≠ []
    · rw [if_pos hintent, hget]
      by_cases hhas : (responsesByTrigger doc.server.responses).has ep.intent = true <;> simp [hhas, hintent]
    · rw [if_neg hintent, if_neg (fun h => hintent h.1)]
      simp

/-- The trigger that answers an endpoint of a valid file. -/
theorem answeredThrough_iff (hid : ep.id ≠ []) (hintent : ep.intent ≠ []) (htrigger : trigger ∈ triggersOf doc) :
    answeredThrough (responsesByTrigger doc.server.responses) ep = some trigger ↔
      ep.id = trigger ∨ ep.intent = trigger ∧ ep.id ∉ triggersOf doc := by
  unfold answeredThrough
  simp only [has_responsesByTrigger]
  by_cases hmem : ep.id ∈ triggersOf doc
  · rw [if_pos ⟨hid, hmem⟩, Option.some.injEq]
    exact ⟨.inl, fun h => h.resolve_right fun h => h.2 hmem⟩
  · have hne : ep.id ≠ trigger := fun h => hmem (h ▸ htrigger)
    rw [if_neg fun h => hmem h.2]
    constructor
    · intro h
      split at h
      · exact .inr ⟨Option.some.inj h, hmem⟩
      · cases h
    · intro h
      obtain ⟨rfl, _⟩ := h.resolve_left hne
      rw [if_pos ⟨hintent, htrigger⟩]

/-- An endpoint of a valid file has no answer iff neither its id nor its intent is a trigger. -/
theorem answeredThrough_eq_none (hid : ep.id ≠ []) (hintent : ep.intent ≠ []) :
    answeredThrough (responsesByTrigger doc.server.responses) ep = none ↔
      ep.id ∉ triggersOf doc ∧ ep.intent ∉ triggersOf doc := by
  unfold answeredThrough
  simp only [has_responsesByTrigger]
  by_cases hmem : ep.id ∈ triggersOf doc
  · rw [if_pos ⟨hid, hmem⟩]
    simp [hmem]
  · rw [if_neg fun h => hmem h.2]
    by_cases hmem' : ep.intent ∈ triggersOf doc
    · rw [if_pos ⟨hintent, hmem'⟩]
      simp [hmem']
    · rw [if_neg fun h => hmem' h.2]
      simp [hmem, hmem']

/-- The endpoints that are warned of. -/
theorem mem_unanswered (hep : ep ∈ doc.client.endpoints) :
    .noResponse (.str ep.id) (.str ep.intent) ∈ doc.client.endpoints.filterMap (unansweredOf doc) ↔
      ep.intent ∉ triggersOf doc := by
  rw [List.mem_filterMap]
  constructor
  · rintro ⟨ep', _, h⟩
    unfold unansweredOf at h
    split at h
    · cases h
    · next hnot =>
      simp only [Option.some.injEq, Warning.noResponse.injEq, JsonTree.str.injEq] at h
      exact h.2 ▸ hnot
  · intro hnot
    exact ⟨ep, hep, if_neg hnot⟩

/-- The triggers that are warned of. -/
theorem mem_orphaned (hresp : resp ∈ doc.server.responses) (htrigger : trigger ∈ resp.triggers) :
    .orphaned (.str resp.id) (.str trigger) ∈ doc.server.responses.flatMap (orphanedOf doc) ↔
      trigger ∉ knownIntents doc := by
  rw [List.mem_flatMap]
  constructor
  · rintro ⟨resp', _, h⟩
    obtain ⟨trigger', hmem, heq⟩ := List.mem_map.mp h
    simp only [Warning.orphaned.injEq, JsonTree.str.injEq] at heq
    simpa [heq.2] using (List.mem_filter.mp hmem).2
  · intro hnot
    exact ⟨resp, hresp, List.mem_map_of_mem (List.mem_filter.mpr ⟨htrigger, by simpa using hnot⟩)⟩

end

/-- A valid file names its schema. -/
theorem schema_of_valid {data : Dict Str Json} (isV2 : Bool) (h : (schemaOf isV2).valid (.obj data) = true) :
    ∀ default, Json.getD (.obj data) "$schema" default =
      .ok (.str (if isV2 then "https://ride-the-api.dev/pattern-schema/v2"
        else "https://ride-the-api.dev/pattern-schema/v1")) := by
  have hconst : ∀ {keys : List Str} {ps : List (Str × JsonSchema)} {url : Str},
      (object keys ps).valid (.obj data) = true → str "$schema" ∈ keys → (str "$schema", JsonSchema.const (.str url)) ∈ ps →
        ∀ default, Json.getD (.obj data) "$schema" default = .ok (.str url) := by
    intro keys ps url hobject hrequired hproperty default
    obtain ⟨kvs, heq, hkeys, hproperties⟩ := valid_object_iff.mp hobject
    cases heq
    obtain ⟨w, hw⟩ := hkeys _ hrequired
    rw [getD_obj, hw, valid_const_str (hproperties _ hproperty w hw)]
    rfl
  cases isV2 with
  | true => exact hconst h List.mem_cons_self List.mem_cons_self
  | false => exact hconst h List.mem_cons_self List.mem_cons_self

/-- **A valid file gets its warnings**, and of endpoints and responses those that are due. -/
theorem validatePattern_ok (message : Json → Str) {R : Readers} {data : Dict Str Json} {doc : PatternDB}
    (hR : Keeps R) (isV2 : Bool) (hvalid : (schemaOf isV2).valid (.obj data) = true)
    (hdoc : R.patterns (.obj data) = .ok doc) :
    ∃ warnings, validatePattern message data = .ok { warnings } ∧
      (∀ w : Warning, w.cross = true → (w ∈ warnings ↔
        w ∈ doc.client.endpoints.filterMap (unansweredOf doc) ∨ w ∈ doc.server.responses.flatMap (orphanedOf doc))) ∧
      ∀ ep ∈ doc.client.endpoints, ep.id ≠ [] ∧ ep.intent ≠ [] := by
  have hschema := schema_of_valid isV2 hvalid
  have hformat : Json.isIn "pattern-schema/v2" (.str (if isV2 then "https://ride-the-api.dev/pattern-schema/v2"
      else "https://ride-the-api.dev/pattern-schema/v1")) = .ok isV2 := by
    cases isV2 <;> decide +kernel
  have hshape : ∃ s, shapeOf isV2 (.obj data) = .ok s ∧ IsShape s doc := by
    unfold Readers.patterns at hdoc
    rw [hschema, Except.ok_bind, hformat, Except.ok_bind] at hdoc
    cases isV2 with
    | true =>
      obtain ⟨model, hmodel, hproject⟩ := Except.bind_ok_iff.mp hdoc
      cases hproject
      exact shapeV2_ok hR hvalid hmodel
    | false => exact shapeV1_ok hR hvalid hdoc
  obtain ⟨s, hs, hshape⟩ := hshape
  obtain ⟨ps, hps⟩ := hshape.protocols
  obtain ⟨protocols, hprotocols, hprotocolsCross⟩ :
      ∃ ws, protocolWarnings isV2 (.obj data) (.arr ps) = .ok ws ∧ ∀ w ∈ ws, w.cross = false :=
    protocolWarnings_ok isV2 hvalid
  obtain ⟨others, hcross, hothers⟩ := crossWarnings_ok hshape
  refine ⟨protocols ++ (doc.client.endpoints.filterMap (unansweredOf doc) ++
    doc.server.responses.flatMap (orphanedOf doc) ++ others), ?_, ?_, ?_⟩
  · unfold validatePattern
    rw [hschema, Except.ok_bind, hformat, Except.ok_bind, if_pos hvalid, hs, Except.ok_bind, hps, hprotocols,
      Except.ok_bind, hcross]
    rfl
  · intro w hw
    simp only [List.mem_append]
    constructor
    · rintro (hmem | (hmem | hmem) | hmem)
      · rw [hprotocolsCross w hmem] at hw
        cases hw
      · exact .inl hmem
      · exact .inr hmem
      · rw [hothers w hmem] at hw
        cases hw
    · rintro (hmem | hmem)
      · exact .inr (.inl (.inl hmem))
      · exact .inr (.inl (.inr hmem))
  · intro ep hep
    obtain ⟨item, _, hitem⟩ := hshape.endpoints.exists_left hep
    exact ⟨hitem.id_ne, hitem.intent_ne⟩

/-- **The checks and the engine agree on a valid file iff its intents tell what its ids do.** -/
theorem agrees_iff (message : Json → Str) (R : Readers) (data : Dict Str Json) (doc : PatternDB) (hR : Keeps R)
    (hvalid : patternSchemaV1.valid (.obj data) = true ∨ patternSchemaV2.valid (.obj data) = true)
    (hdoc : R.patterns (.obj data) = .ok doc) :
    (∃ warnings, validatePattern message data = .ok { warnings } ∧ Agrees warnings doc) ↔ IntentsTell doc := by
  have hschema : ∃ isV2, (schemaOf isV2).valid (.obj data) = true := by
    rcases hvalid with h | h
    · exact ⟨false, h⟩
    · exact ⟨true, h⟩
  obtain ⟨isV2, hschema⟩ := hschema
  obtain ⟨warnings, hwarnings, hmem, hnames⟩ := validatePattern_ok message hR isV2 hschema hdoc
  -- each warning comes from one of the two checks: an endpoint's from the first, a response's from the second
  have hunanswered : ∀ ep ∈ doc.client.endpoints,
      (.noResponse (.str ep.id) (.str ep.intent) ∈ warnings ↔ ep.intent ∉ triggersOf doc) := by
    intro ep hep
    rw [hmem _ rfl, mem_unanswered hep, or_iff_left]
    intro h
    obtain ⟨resp, _, h⟩ := List.mem_flatMap.mp h
    obtain ⟨_, _, heq⟩ := List.mem_map.mp h
    cases heq
  have horphaned : ∀ resp ∈ doc.server.responses, ∀ trigger ∈ resp.triggers,
      (.orphaned (.str resp.id) (.str trigger) ∈ warnings ↔ trigger ∉ knownIntents doc) := by
    intro resp hresp trigger htrigger
    rw [hmem _ rfl, mem_orphaned hresp htrigger, or_iff_right]
    intro h
    obtain ⟨ep, _, h⟩ := List.mem_filterMap.mp h
    unfold unansweredOf at h
    split at h <;> cases h
  constructor
  · rintro ⟨warnings', hwarnings', hagrees⟩
    rw [hwarnings] at hwarnings'
    cases hwarnings'
    constructor
    · intro ep hep hid
      have hreport := hagrees.unanswered ep hep
      rw [hunanswered ep hep, responseForEndpoint_eq_none,
        answeredThrough_eq_none (hnames ep hep).1 (hnames ep hep).2] at hreport
      exact not_not.mp fun hintent => (hreport.mp hintent).1 hid
    · intro trigger htrigger
      obtain ⟨resp, hresp, hmem'⟩ := mem_triggersOf.mp htrigger
      have hreport := hagrees.orphaned resp hresp trigger hmem'
      rw [horphaned resp hresp trigger hmem', not_iff_comm] at hreport
      rw [← hreport]
      push Not
      refine exists_congr fun ep => and_congr_right fun hep => ?_
      exact answeredThrough_iff (hnames ep hep).1 (hnames ep hep).2 htrigger
  · intro htell
    refine ⟨warnings, hwarnings, ?_, ?_⟩
    · intro ep hep
      rw [hunanswered ep hep, responseForEndpoint_eq_none,
        answeredThrough_eq_none (hnames ep hep).1 (hnames ep hep).2]
      exact ⟨fun hintent => ⟨fun hid => hintent (htell.byIntent ep hep hid), hintent⟩, fun h => h.2⟩
    · intro resp hresp trigger hmem'
      have htrigger : trigger ∈ triggersOf doc := mem_triggersOf.mpr ⟨resp, hresp, hmem'⟩
      rw [horphaned resp hresp trigger hmem', htell.known trigger htrigger]
      constructor
      · intro h ep hep hanswered
        exact h ⟨ep, hep, (answeredThrough_iff (hnames ep hep).1 (hnames ep hep).2 htrigger).mp hanswered⟩
      · rintro h ⟨ep, hep, hnamed⟩
        exact h ep hep ((answeredThrough_iff (hnames ep hep).1 (hnames ep hep).2 htrigger).mpr hnamed)

/-! ## A lamp's file -/

/-- A v1 file with one endpoint and one response. -/
def lampFile (triggers : List Json) : Dict Str Json :=
  [("$schema", .str "https://ride-the-api.dev/pattern-schema/v1"),
    ("meta", .obj [("pattern_id", .str "lamp-patterns"), ("vendor", .str "acme"), ("device_type", .str "light")]),
    ("client", .obj [("endpoints", .arr [.obj [("id", .str "on"), ("intent", .str "turn_on")]])]),
    ("server", .obj [("responses", .arr [.obj [("id", .str "r-on"), ("triggers", .arr triggers)]])])]

/-- The set it is loaded as. -/
def lampSet (triggers : List Str) : PatternDB where
  patternMeta := { patternId := "lamp-patterns", vendor := "acme", deviceType := "light" }
  client := { endpoints := [{ id := "on", intent := "turn_on" }] }
  server := { responses := [{ id := "r-on", triggers }] }

/-- The validation of the lamp's files: one with a response of the intent, and one as it is exported. -/
def lampReaders : Readers where
  validateModel _ := .error .valueError
  validateDb data :=
    if data = .obj (lampFile [.str "turn_on"]) then .ok (lampSet ["turn_on"])
    else if data = .obj (lampFile [.str "on", .str "turn_on"]) then .ok (lampSet ["on", "turn_on"])
    else .error .valueError

theorem lampReaders_keeps : Keeps lampReaders where
  endpoints data doc h := by
    unfold lampReaders at h
    dsimp only at h
    split at h
    next hdata =>
      cases h
      subst hdata
      exact ⟨_, _, rfl, rfl, by decide +kernel⟩
    next =>
      split at h
      next hdata =>
        cases h
        subst hdata
        exact ⟨_, _, rfl, rfl, by decide +kernel⟩
      next => cases h
  responses data doc h := by
    unfold lampReaders at h
    dsimp only at h
    split at h
    next hdata =>
      cases h
      subst hdata
      exact ⟨_, _, rfl, rfl, by decide +kernel⟩
    next =>
      split at h
      next hdata =>
        cases h
        subst hdata
        exact ⟨_, _, rfl, rfl, by decide +kernel⟩
      next => cases h
  commands _ _ h := by cases h
  modelResponses _ _ h := by cases h

theorem intentFile_agrees : ∃ warnings, validatePattern (fun _ => []) (lampFile [.str "turn_on"]) = .ok { warnings } ∧
    Agrees warnings (lampSet ["turn_on"]) := by
  refine (agrees_iff (fun _ => []) lampReaders (lampFile [.str "turn_on"]) (lampSet ["turn_on"]) lampReaders_keeps
    (.inl (by decide +kernel)) (by decide +kernel)).mpr ⟨by decide +kernel, by decide +kernel⟩

/-- The exported file answers its endpoint through the id, which is reported as an orphan. -/
theorem exportedFile_disagrees : ¬ ∀ (message : Json → Str) (R : Readers) (data : Dict Str Json) (doc : PatternDB),
    Keeps R → patternSchemaV1.valid (.obj data) = true ∨ patternSchemaV2.valid (.obj data) = true →
      R.patterns (.obj data) = .ok doc →
        ∃ warnings, validatePattern message data = .ok { warnings } ∧ Agrees warnings doc := by
  intro h
  obtain ⟨warnings, hwarnings, hagrees⟩ := h (fun _ => []) lampReaders (lampFile [.str "on", .str "turn_on"])
    (lampSet ["on", "turn_on"]) lampReaders_keeps (.inl (by decide +kernel)) (by decide +kernel)
  have hreported : validatePattern (fun _ => []) (lampFile [.str "on", .str "turn_on"]) =
      .ok { warnings := [.orphaned (.str "r-on") (.str "on")] } := by decide +kernel
  rw [hreported] at hwarnings
  cases hwarnings
  have horphaned := (hagrees.orphaned _ List.mem_cons_self "on" List.mem_cons_self).mp List.mem_cons_self
  exact absurd (horphaned _ List.mem_cons_self) (by decide +kernel)

end RideTheApi.CrossChecks
