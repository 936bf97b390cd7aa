import RideTheApi.Engine.Formula
import RideTheApi.Engine.Match

/-!
# `Engine.Response` — building a local response from a template

A template is either a `ServerResponse` of the in-memory set or a `ResponseTemplate` row; both are read
through one view. The body is copied, the field mappings are applied to it one after another (a failing one
is skipped), and then, when the template's own body has placeholders, every string of the mapped body is
searched for placeholders.
-/

namespace RideTheApi.Engine

open Py PatternDb

/-- What `build_local_response` reads of a template, its field mappings normalised. -/
structure TemplateView where
  statusCode : Int
  headersTemplate : Json
  bodyTemplate : Json
  fieldMappings : List FieldMapping
deriving Repr, DecidableEq

/-- `_normalize_field_mappings` of a row: its column is a `{source: target}` dict, and every mapping is
    direct. A target that is no string makes the mapping fail, so it is left out. -/
def normalizeRowMappings : Json → List FieldMapping
  | .obj kvs => kvs.filterMap fun kv =>
    match kv.2 with
    | .str target => some { source := kv.1, target, transform := "direct", mapping := none, formula := [] }
    | _ => none
  | _ => []

/-- How a template is read, whichever kind it is. -/
def Template.view : Template → TemplateView
  | .response resp =>
    { statusCode := resp.statusCode
      headersTemplate := .obj (resp.headersTemplate.map fun kv => (kv.1, .str kv.2))
      bodyTemplate := .obj resp.bodyTemplate
      fieldMappings := resp.fieldMappings }
  | .row tmpl =>
    { statusCode := tmpl.statusCode
      headersTemplate := tmpl.headersTemplate
      bodyTemplate := tmpl.bodyTemplate
      fieldMappings := normalizeRowMappings tmpl.fieldMappings }

/-! ## Status and headers -/

/-- A final status (200-599) to answer with, else 200. -/
def servableStatus (status : Int) : Int := if 200 ≤ status ∧ status ≤ 599 then status else 200

/-- Headers about a single transfer, not the message. -/
def framingHeaders : List Str :=
  ["content-length", "transfer-encoding", "connection", "keep-alive", "proxy-connection", "te", "trailer",
    "upgrade", "content-encoding"].map str

/-- The headers without the framing headers, as `str: str`. -/
def withoutFramingHeaders (I : Interp) : Json → Result (Dict Str Str)
  | .obj kvs =>
    ((kvs.filter fun kv => !framingHeaders.contains (I.lowerStr kv.1)).mapM fun kv =>
      (strOf I kv.2).map fun v => (kv.1, v)).map Dict.ofList
  | _ => .ok []

/-! ## Field mappings -/

/-- The value a mapping writes; `none` when its source is missing. -/
def mappedValue (H : Host) (fm : FieldMapping) (request : Json) (store : DeviceStateStore) :
    Result (Option Json) := do
  let val ← resolveSource H fm.source request store
  match val with
  | .null => .ok none
  | val   =>
    if fm.transform = str "enum" then
      (strOf H.toInterp val).map fun key => some ((Dict.get? (fm.mapping.getD []) key).getD val)
    else if fm.transform = str "formula" then .ok (some (evalFormula H fm.formula request store))
    else .ok (some val)

/-- Apply one normalised field mapping to the body, or to the device state. -/
def applyFieldMapping (H : Host) (request : Json) (fm : FieldMapping) (body : Json)
    (store : DeviceStateStore) : Result (Json × DeviceStateStore) := do
  match ← mappedValue H fm request store with
  | none     => .ok (body, store)
  | some val =>
    if fm.target.startsWith "state." then .ok (body, store.set (fm.target.drop 6) val)
    else (setNested H.toInterp body fm.target val).map fun body => (body, store)

/-- Apply the field mappings one after another; one bad mapping must not fail the response. -/
def applyFieldMappings (H : Host) (request : Json) :
    List FieldMapping → Json → DeviceStateStore → Json × DeviceStateStore
  | [],        body, store => (body, store)
  | fm :: fms, body, store =>
    match applyFieldMapping H request fm body store with
    | .ok (body', store') => applyFieldMappings H request fms body' store'
    | .error _            => applyFieldMappings H request fms body store

/-! ## Placeholders -/

/-- Building a response may raise, and draws fresh uuids: the state counts them. -/
abbrev Build := StateT Nat Result

/-- Text for a placeholder embedded in a longer string, JSON-style. -/
def formatTemplateValue (I : Interp) : Json → Result Str
  | .null    => .ok []
  | .bool b  => .ok (if b then "true" else "false")
  | .arr xs  => dumps I (.arr xs)
  | .obj kvs => dumps I (.obj kvs)
  | v        => strOf I v

/-- The raw value a placeholder names. -/
def templateVarValue (H : Host) (store : DeviceStateStore) (request : Json) :
    Placeholder → Build Json
  | .state name   => pure (store.get name .null)
  | .request path => StateT.lift (resolveSource H (str "request." ++ path) request store)
  | .uuid         => fun n => .ok (.str (H.uuid4 n), n + 1)

/-- The text of a list of pieces, each placeholder formatted. -/
def expandPieces (I : Interp) (value : Placeholder → Build Json) : List Piece → Build Str
  | []           => pure []
  | .char c :: ps => do
    let rest ← expandPieces I value ps
    pure (c :: rest)
  | .var p :: ps => do
    let val ← value p
    let text ← StateT.lift (formatTemplateValue I val)
    let rest ← expandPieces I value ps
    pure (text ++ rest)

/-- Resolve the placeholders of one string: a string that is exactly one takes its value. -/
def expandStr (I : Interp) (value : Placeholder → Build Json) (s : Str) : Build Json :=
  if mayHaveVars s then
    match wholeVar I s with
    | some p => do
      let val ← value p
      pure (if val = .null then .str [] else val)
    | none => do
      let text ← expandPieces I value (pieces I s)
      pure (.str text)
  else pure (.str s)

mutual
/-- The strings and the keys of a value. -/
def textsOf : Json → List Str
  | .str s   => [s]
  | .arr xs  => textsOfList xs
  | .obj kvs => textsOfEntries kvs
  | _        => []
def textsOfList : List Json → List Str
  | []      => []
  | x :: xs => textsOf x ++ textsOfList xs
def textsOfEntries : List (Str × Json) → List Str
  | []            => []
  | (k, v) :: kvs => k :: (textsOf v ++ textsOfEntries kvs)
end

/-- Whether the body contains template variables. The source searches `str(body)`; the three markers are
    printable and hold no quote, so they occur there exactly when they occur in a string or a key. -/
def templateHasVars (body : Json) : Bool := (textsOf body).any mayHaveVars

/-- Resolve the placeholders of a body, when the template has any. -/
def resolveTemplateVars (I : Interp) (value : Placeholder → Build Json) (hasVars : Bool) (body : Json) :
    Build Json :=
  if hasVars then body.traverse (expandStr I value) else pure body

/-- A response to serve. -/
structure LocalResponse where
  statusCode : Int
  headers : Dict Str Str
  body : Json
deriving Repr, DecidableEq

/-- Build a local response from a template, resolving variables. Returns the response and the device
    state after it. -/
def buildLocalResponse (H : Host) (t : TemplateView) (request : Json) (store : DeviceStateStore) :
    Build (LocalResponse × DeviceStateStore) := do
  let headers ← StateT.lift (withoutFramingHeaders H.toInterp t.headersTemplate)
  let (body, store) := applyFieldMappings H request t.fieldMappings t.bodyTemplate store
  let body ← resolveTemplateVars H.toInterp (templateVarValue H store request)
    (templateHasVars t.bodyTemplate) body
  pure ({ statusCode := servableStatus t.statusCode, headers, body }, store)

end RideTheApi.Engine
