import RideTheApi.Py.JsonSchema

/-!
# `PatternDb.PortableSchema` — the JSON Schemas of the pattern files

`pattern-schema-v1.json` and `pattern-schema-v2.json`. They share most of their definitions.
-/

namespace RideTheApi.PatternDb

open Py Py.JsonSchema

/-! ## Shared definitions -/

def objects : JsonSchema := arrayOf (.types [.object])

def texts : JsonSchema := arrayOf text

def headersSchema : JsonSchema := object [] [("required", texts)]

def stateVariableSchema : JsonSchema :=
  object ["name"]
    [("name", name), ("type", textIn ["boolean", "integer", "float", "string", "enum"]), ("default", .any),
      ("min", .types [.number]), ("max", .types [.number]), ("enum", texts), ("unit", text),
      ("persist", .types [.boolean]), ("description", text)]

def fieldMappingSchema : JsonSchema :=
  object ["source", "target"]
    [("source", name), ("target", name), ("transform", textIn ["direct", "enum", "formula", "scale"]),
      ("formula", text), ("mapping", .types [.object]), ("description", text)]

def serverResponseSchema : JsonSchema :=
  object ["id"]
    [("id", name), ("triggers", texts), ("status_code", .types [.integer]), ("headers_template", .types [.object]),
      ("body_template", .types [.object]), ("field_mappings", arrayOf fieldMappingSchema)]

def virtualSensorSchema : JsonSchema :=
  object ["name", "behavior"]
    [("name", name), ("type", textIn ["integer", "float", "boolean"]),
      ("behavior", textIn ["static", "drift", "periodic", "random"]), ("baseline", text),
      ("drift_range", all [arrayOf (.types [.number]), .minItems 2, .maxItems 2]),
      ("period_s", all [.types [.number], .minimum 0]), ("amplitude", .types [.number]),
      ("update_interval_s", all [.types [.number], .minimum 0]), ("description", text)]

/-! ## Version 1 -/

def protocolSchema : JsonSchema :=
  textIn ["http", "https", "mqtt", "coap", "modbus", "websocket", "raw_tcp", "http2", "zigbee", "zwave", "matter",
    "tls", "tcp", "tcpip", "raw", "ws", "mqtt_connect"]

def authenticationSchema : JsonSchema :=
  object []
    [("type", textIn ["bearer", "basic", "custom", "none"]), ("token_endpoint", text), ("credentials", text)]

def endpointVariantSchema : JsonSchema :=
  object [] [("firmware", text), ("path", text), ("body_schema", .types [.object])]

def endpointSchema : JsonSchema :=
  object ["id", "intent"]
    [("id", name), ("intent", name), ("method", text), ("path", text), ("path_pattern", text),
      ("headers", headersSchema), ("query_params", texts), ("body_schema", .types [.object]),
      ("response_fields", objects), ("variants", arrayOf endpointVariantSchema)]

def metaSchemaV1 : JsonSchema :=
  object ["pattern_id", "vendor", "device_type"]
    [("version", all [.types [.integer], .const (.int 1)]), ("pattern_id", name), ("vendor", name),
      ("device_type", name), ("model", text), ("firmware_versions", texts), ("description", text)]

def clientSchema : JsonSchema :=
  object []
    [("protocols", all [arrayOf protocolSchema, .minItems 1]), ("base_url", text), ("mqtt_topic_prefix", text),
      ("authentication", authenticationSchema), ("endpoints", arrayOf endpointSchema)]

def serverSchema : JsonSchema :=
  object []
    [("state_variables", arrayOf stateVariableSchema), ("responses", arrayOf serverResponseSchema),
      ("virtual_sensors", arrayOf virtualSensorSchema)]

/-- `pattern-schema-v1.json`. -/
def patternSchemaV1 : JsonSchema :=
  object ["$schema", "meta", "client", "server"]
    [("$schema", .const (.str "https://ride-the-api.dev/pattern-schema/v1")), ("meta", metaSchemaV1),
      ("client", clientSchema), ("server", serverSchema)]

/-! ## Version 2 -/

def metaSchemaV2 : JsonSchema :=
  object ["pattern_id", "vendor", "device_type"]
    [("version", .types [.integer]), ("pattern_id", name), ("vendor", name), ("device_type", name), ("model", text),
      ("firmware_versions", texts), ("description", text)]

def protocolInfoSchema : JsonSchema :=
  object []
    [("version", .types [.integer]), ("transport", text), ("protocol", text), ("proprietary", .types [.boolean]),
      ("security", text), ("handler", text), ("identity", text), ("ports", arrayOf (.types [.integer])),
      ("confidence", all [.types [.number], .minimum 0, .maximum 1])]

def commandSchema : JsonSchema :=
  object ["id", "kind"]
    [("id", name), ("kind", name), ("protocol", text), ("method", text), ("path", text), ("path_pattern", text),
      ("topic", text), ("headers", headersSchema), ("query_params", texts), ("body_schema", .types [.object]),
      ("confidence", all [.types [.number], .minimum 0, .maximum 1])]

def transportMetaSchema : JsonSchema :=
  object []
    [("port", .types [.integer]), ("tls", .types [.boolean]), ("topic", text), ("qos", .types [.integer, .null]),
      ("retain", .types [.boolean, .null]), ("func_code", .types [.integer, .null]),
      ("reg_address", .types [.integer, .null])]

/-- The `format` of a timestamp is an annotation, which is not checked. -/
def observationSchema : JsonSchema :=
  object ["id", "device_id", "timestamp"]
    [("id", name), ("device_id", name), ("timestamp", text), ("protocol", text),
      ("kind", textIn ["request", "response", "event", "publish", "subscribe", "frame", "telemetry", "will",
        "keepalive"]),
      ("transport", transportMetaSchema), ("content", .any), ("in_reply_to", .types [.string, .null]),
      ("confidence", all [.types [.number], .minimum 0, .maximum 1])]

/-- `pattern-schema-v2.json`. -/
def patternSchemaV2 : JsonSchema :=
  object ["$schema", "meta"]
    [("$schema", .const (.str "https://ride-the-api.dev/pattern-schema/v2")), ("meta", metaSchemaV2),
      ("protocol", protocolInfoSchema), ("commands", arrayOf commandSchema),
      ("responses", arrayOf serverResponseSchema), ("interactions", arrayOf fieldMappingSchema),
      ("state_variables", arrayOf stateVariableSchema), ("virtual_sensors", arrayOf virtualSensorSchema),
      ("observation_history", arrayOf observationSchema)]

end RideTheApi.PatternDb
