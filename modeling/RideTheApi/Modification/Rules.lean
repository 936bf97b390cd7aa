import Mathlib.Data.List.Sort
import RideTheApi.Lib.Faulty
import RideTheApi.Modification.Paths
import RideTheApi.Py.Equal
import RideTheApi.Py.Format
import RideTheApi.Py.Regex

/-!
# `Modification.Rules` — the rules of the modification engine

A rule has conditions, an action with its parameters, a priority and a direction. Rules are loaded from the
configuration, whose legacy fields are translated on the way. Bodies and response wrappers are objects on a heap: a rule
that is applied copies the message with its body first and writes into the copy.
-/

namespace RideTheApi.Modification

open Py Engine Faulty

/-- What the engine takes from the interpreter: patterns that are not of the fragment, and arithmetic on numbers, which
    rounds where a float takes part. -/
structure Builtins extends Dpath where
  /-- `re.compile(pattern).search`. -/
  compile : Str → Result (Str → Bool)
  add : Json → Json → Result Json
  mul : Json → Json → Result Json
  max : Json → Json → Result Json
  min : Json → Json → Result Json
  /-- `int(value)`. -/
  toInt : Json → Result Int

/-- `re.compile(pattern).search`. -/
def Builtins.search (B : Builtins) (pattern : Str) : Result (Str → Bool) :=
  match Regex.parse pattern with
  | some r => .ok r.search
  | none   => B.compile pattern

/-! ## Objects -/

/-- Where an object is. -/
abbrev Ref := Nat

/-- A `{status_code, headers, body}` dict, with what else it holds. -/
structure Wrapper where
  statusCode : Json
  headers : Option (Dict Str Json)
  body : Ref
  others : Dict Str Json := []

/-- An object: a body, or a wrapper. -/
inductive Cell where
  | value (v : Json)
  | wrapper (w : Wrapper)

/-- The objects, in the order they were made. -/
abbrev Heap := List Cell

/-- The body at a reference. -/
def Heap.body (h : Heap) (r : Ref) : Json :=
  match h[r]? with
  | some (.value v) => v
  | _               => .null

/-- A new object. -/
def alloc (c : Cell) : Faulty Heap Ref := fun h => (some h.length, h ++ [c])

/-- Write over a body. -/
def writeBody (r : Ref) (v : Json) : Faulty Heap Unit := modify fun h => h.set r (.value v)

/-- What may raise and changes nothing. -/
def raising {α : Type} (r : Result α) : Faulty Heap α := fun h => (r.toOption, h)

/-! ## Messages -/

inductive ModificationAction where
  | modify
  | block
  | inject
  | replace
  | redirect
  | delay
deriving Repr, DecidableEq

/-- `self.action.value`. -/
def ModificationAction.text : ModificationAction → Str
  | .modify   => "modify"
  | .block    => "block"
  | .inject   => "inject"
  | .replace  => "replace"
  | .redirect => "redirect"
  | .delay    => "delay"

/-- An entry of `modifications`, without its time. -/
structure Tracked where
  rule : Str
  action : ModificationAction
deriving Repr, DecidableEq

/-- A request or response as the rules see it. Its header names are in lower case. -/
structure InterceptedMessage where
  direction : Str
  deviceId : Str
  vendor : Str
  deviceType : Json
  intent : Str
  method : Option Str
  path : Json
  headers : Dict Str Json
  body : Ref
  queryParams : Dict Str Str := []
  metadata : Dict Str Json := []
  blocked : Bool := false
  blockReason : Option Str := none
  modifications : List Tracked := []
  initialHeaders : Option (Dict Str Json) := none

/-- `copy`: the body is copied too. -/
def InterceptedMessage.copy (msg : InterceptedMessage) : Faulty Heap InterceptedMessage := do
  let h ← get
  let body ← alloc (.value (h.body msg.body))
  pure { msg with body }

/-! ## Rules -/

/-- A rule with all its fields; those of the field path were read already. -/
structure Rule extends ModificationRule where
  name : Str
  matchVendor : Option Str
  matchDeviceType : Option Str
  matchIntent : Option Str
  matchValue : Json
  matchHeadersLower : Option (Dict Str Str)
  matchMethod : Option Str
  pathRegex : Option (Str → Bool)
  action : ModificationAction
  actionParams : Dict Str Json
  priority : Int
  enabled : Bool
  direction : Str

/-- The condition on a field of the message; without a text there is none. -/
def admits (want : Option Str) (actual : Json) : Bool :=
  match want with
  | none      => true
  | some want => want.isEmpty || pyEq actual (.str want)

/-- `{k.lower(): v for k, v in headers.items()}`. -/
def lowerKeys {α : Type} (I : Interp) (headers : Dict Str α) : Dict Str α :=
  Dict.ofList (headers.map fun kv => (I.lowerStr kv.1, kv.2))

variable (B : Builtins)

/-- The condition on the path. -/
def Rule.pathMatches (rule : Rule) (path : Json) : Result Bool :=
  match rule.pathRegex with
  | none        => .ok true
  | some search =>
    match path.orElse (.str []) with
    | .str path => .ok (search path)
    | _         => .error .typeError

/-- The condition on the headers. -/
def Rule.headersMatch (rule : Rule) (headers : Dict Str Json) : Bool :=
  (rule.matchHeadersLower.getD []).all fun kv =>
    match headers.get? kv.1 with
    | some v => pyEq v (.str kv.2)
    | none   => false

/-- The condition on a field of the body. -/
def Rule.fieldMatches (rule : Rule) (body : Json) : Result Bool :=
  match rule.matchFieldPath with
  | none | some [] => .ok true
  | some path      => do
    let value ← getJsonPath B.toDpath rule.toModificationRule body path
    .ok (value ≠ .null && (rule.matchValue == .null || pyEq value rule.matchValue))

/-- `matches`. -/
def Rule.matches (rule : Rule) (h : Heap) (msg : InterceptedMessage) (direction : Str) : Result Bool :=
  if !rule.enabled then .ok false
  else if rule.direction ≠ str "both" ∧ rule.direction ≠ direction then .ok false
  else if !admits rule.matchVendor (.str msg.vendor) then .ok false
  else if !admits rule.matchDeviceType msg.deviceType then .ok false
  else if !admits rule.matchIntent (.str msg.intent) then .ok false
  else if !admits rule.matchMethod ((msg.method.map JsonTree.str).getD .null) then .ok false
  else do
    if !(← rule.pathMatches msg.path) then .ok false
    else if !rule.headersMatch msg.headers then .ok false
    else rule.fieldMatches B (h.body msg.body)

/-! ## Applying a rule -/

/-- `isinstance(value, (int, float))`. -/
def isNumber : Json → Bool
  | .int _ | .float _ | .bool _ => true
  | _                           => false

/-- `s.replace(old, new)` from here, where so many characters were replaced already. -/
def replaceFrom (old new : Str) : Nat → Str → Str
  | _,        []     => []
  | skip + 1, _ :: s => replaceFrom old new skip s
  | 0,        c :: s =>
    if Str.startsWith (c :: s) old then new ++ replaceFrom old new (old.length - 1) s else c :: replaceFrom old new 0 s

/-- `s.replace(old, new)`. -/
def replaceAll (old new s : Str) : Str :=
  if old = [] then new ++ s.flatMap fun c => c :: new else replaceFrom old new 0 s

/-- `action_params.get(key, default)`. -/
def Rule.param (rule : Rule) (key : Str) (default : Json) : Json := (rule.actionParams.get? key).getD default

/-- The text of a path; nothing else is one. -/
def pathText : Json → Result Str
  | .str path => .ok path
  | _         => .error .typeError

/-- `_get_json_path(modified.body, field_path)`. -/
def Rule.getField (rule : Rule) (body : Ref) (fieldPath : Json) : Faulty Heap Json := do
  let h ← get
  if !(h.body body).truthy then pure .null
  else do
    let path ← raising (pathText fieldPath)
    raising (getJsonPath B.toDpath rule.toModificationRule (h.body body) path)

/-- `_set_json_path(modified.body, field_path, value)`. -/
def Rule.setField (rule : Rule) (body : Ref) (fieldPath value : Json) : Faulty Heap Unit := do
  let h ← get
  if !(h.body body).truthy then pure ()
  else do
    let path ← raising (pathText fieldPath)
    let written := setJsonPath B.toDpath rule.toModificationRule (h.body body) path value
    writeBody body written.2
    let _ ← raising written.1
    pure ()

/-- `_delete_json_path(modified.body, field_path)`. -/
def Rule.deleteField (_rule : Rule) (body : Ref) (fieldPath : Json) : Faulty Heap Unit := do
  let h ← get
  let path ← raising (pathText fieldPath)
  let deleted := deleteJsonPath B.toInterp (h.body body) path
  writeBody body deleted.2
  let _ ← raising deleted.1
  pure ()

/-- Set a number to what is computed from it. -/
def Rule.compute (rule : Rule) (body : Ref) (fieldPath : Json) (f : Json → Result Json) : Faulty Heap Unit := do
  let current ← rule.getField B body fieldPath
  if isNumber current then do
    let value ← raising (f current)
    rule.setField B body fieldPath value
  else pure ()

/-- `max(current, min_val)` and `min(current, max_val)`, with the bounds that are given. -/
def Rule.clamp (rule : Rule) (current : Json) : Result Json := do
  let low := rule.param "min" .null
  let high := rule.param "max" .null
  let current ← if low = .null then .ok current else B.max current low
  if high = .null then .ok current else B.min current high

/-- The text of a field with `old` replaced. -/
def Rule.replaceText (rule : Rule) (body : Ref) (fieldPath : Json) : Faulty Heap Unit := do
  let current ← rule.getField B body fieldPath
  match current with
  | .str s =>
    match rule.param "old" (.str []), rule.param "new" (.str []) with
    | .str old, .str new => rule.setField B body fieldPath (.str (replaceAll old new s))
    | _,        _        => raiseIf true
  | _      => pure ()

/-- The operation of a `MODIFY` rule on its field; any other does nothing. -/
def Rule.operate (rule : Rule) (body : Ref) (fieldPath operation : Json) : Faulty Heap Unit :=
  if operation = .str "set" then rule.setField B body fieldPath (rule.param "value" .null)
  else if operation = .str "add" then rule.compute B body fieldPath fun current => B.add current (rule.param "amount" (.int 0))
  else if operation = .str "multiply" then
    rule.compute B body fieldPath fun current => B.mul current (rule.param "factor" (.int 1))
  else if operation = .str "clamp" then rule.compute B body fieldPath (rule.clamp B)
  else if operation = .str "replace" then rule.replaceText B body fieldPath
  else if operation = .str "remove" then rule.deleteField B body fieldPath
  else pure ()

/-- `MODIFY`, on the field that is named or else the one the rule matches. -/
def Rule.modifyField (rule : Rule) (body : Ref) : Faulty Heap Unit :=
  let fieldPath := (rule.param "field_path" .null).orElse (.str (rule.matchFieldPath.getD []))
  if fieldPath.truthy then rule.operate B body fieldPath (rule.param "operation" (.str "set")) else pure ()

/-- `INJECT`. -/
def Rule.injectField (rule : Rule) (body : Ref) : Faulty Heap Unit :=
  let fieldPath := rule.param "field_path" .null
  let value := rule.param "value" .null
  if fieldPath.truthy && value ≠ .null then rule.setField B body fieldPath value else pure ()

/-- What an action does to the copied message. -/
def Rule.act (rule : Rule) (modified : InterceptedMessage) : Faulty Heap InterceptedMessage :=
  match rule.action with
  | .block    =>
    pure { modified with blocked := true, blockReason := some (str "Rule: " ++ rule.name) }
  | .modify   => do
    rule.modifyField B modified.body
    pure modified
  | .inject   => do
    rule.injectField B modified.body
    pure modified
  | .replace  =>
    -- the body is the object of the rule itself; it is copied before anything writes into it
    if rule.param "body" .null = .null then pure modified
    else do
      let body ← alloc (.value (rule.param "body" .null))
      pure { modified with body }
  | .redirect =>
    let path := rule.param "path" .null
    let host := rule.param "host" .null
    pure { modified with
      path := if path.truthy then path else modified.path
      headers := if host.truthy then modified.headers.set "host" host else modified.headers }
  | .delay    =>
    pure { modified with metadata := modified.metadata.set "artificial_delay_ms" (rule.param "delay_ms" (.int 0)) }

/-- `apply`. What is blocked is not tracked. -/
def Rule.apply (rule : Rule) (intercepted : InterceptedMessage) : Faulty Heap InterceptedMessage := do
  let modified ← intercepted.copy
  let modified ← rule.act B modified
  if rule.action = .block then pure modified
  else pure { modified with modifications := modified.modifications ++ [⟨rule.name, rule.action⟩] }

/-! ## Loading -/

/-- A rule of the configuration, in the fields of the engine or in those of the legacy format. -/
structure RuleConfig where
  name : Str := []
  matchType : Str := "hostname"
  matchValue : Json := .null
  action : ModificationAction := .modify
  targetField : Str := []
  targetValue : Json := .null
  priority : Int := 0
  enabled : Bool := true
  matchVendor : Option Str := none
  matchDeviceType : Option Str := none
  matchIntent : Option Str := none
  matchFieldPath : Option Str := none
  matchHeaders : Option (Dict Str Str) := none
  matchMethod : Option Str := none
  matchPathPattern : Option Str := none
  actionParams : Dict Str Json := []
  direction : Str := "request"

/-- What `_legacy_match` puts in the place of the native fields. -/
inductive LegacyMatch where
  | nothing
  | headers (host : Str)
  | pathPattern (pattern : Str)

/-- `any(_rule_field(rule_data, f) for f in _NATIVE_MATCH_FIELDS)`. -/
def RuleConfig.native (data : RuleConfig) : Bool :=
  [data.matchVendor, data.matchDeviceType, data.matchIntent, data.matchFieldPath, data.matchMethod,
      data.matchPathPattern].any (fun field => field.any (!·.isEmpty)) ||
    data.matchHeaders.any (!·.isEmpty)

/-- `str(match_type or "hostname").lower()`. -/
def RuleConfig.legacyType (I : Interp) (data : RuleConfig) : Str :=
  I.lowerStr (if data.matchType = [] then "hostname" else data.matchType)

/-- `rf"^{re.escape(str(match_value))}(?:[/?#]|$)"`. -/
def pathPrefixPattern (value : Str) : Str := str "^" ++ Regex.escape value ++ str "(?:[/?#]|$)"

/-- `_legacy_match`. -/
def RuleConfig.legacyMatch (I : Interp) (data : RuleConfig) : Result (Option LegacyMatch) :=
  if data.native then .ok (some .nothing)
  else if data.matchValue = .null ∨ data.matchValue = .str [] then .ok (some .nothing)
  else if data.legacyType I = str "hostname" ∨ data.legacyType I = str "header" then do
    let value ← strOf I data.matchValue
    .ok (some (.headers value))
  else if data.legacyType I = str "path" then do
    let value ← strOf I data.matchValue
    .ok (some (.pathPattern (pathPrefixPattern value)))
  else .ok none

/-- `_translate_legacy_action_params`. -/
def RuleConfig.legacyActionParams (data : RuleConfig) : Result (Dict Str Json) :=
  match data.action with
  | .modify   =>
    .ok (if data.targetField = [] then []
      else [("operation", .str "set"), ("value", data.targetValue), ("field_path", .str data.targetField)])
  | .inject   =>
    .ok (if data.targetField = [] then [] else [("field_path", .str data.targetField), ("value", data.targetValue)])
  | .replace  => .ok (if data.targetValue = .null then [] else [("body", data.targetValue)])
  | .redirect =>
    if data.targetValue = .null then .ok []
    else do
      let path ← strOf B.toInterp data.targetValue
      .ok [("path", .str path)]
  | .delay    =>
    match B.toInt (data.targetValue.orElse (.int 0)) with
    | .ok delay          => .ok [("delay_ms", .int delay)]
    | .error .typeError  => .ok []
    | .error .valueError => .ok []
    | .error e           => .error e
  | .block    => .ok []

/-- The action parameters a rule is made with. -/
def RuleConfig.params (data : RuleConfig) : Result (Dict Str Json) :=
  if data.actionParams = [] then data.legacyActionParams B else .ok data.actionParams

/-- The matching fields a rule is made with: its own, those of the translation in their place. -/
structure MatchFields where
  headers : Option (Dict Str Str)
  pathPattern : Option Str
  value : Json

/-- `match.update(legacy_match, match_value=None)`. -/
def RuleConfig.matchFields (data : RuleConfig) : LegacyMatch → MatchFields
  | .nothing          => ⟨data.matchHeaders, data.matchPathPattern, data.matchValue⟩
  | .headers host     => ⟨some [("host", host)], data.matchPathPattern, .null⟩
  | .pathPattern text => ⟨data.matchHeaders, some text, .null⟩

/-- `__post_init__`: the pattern is compiled. -/
def compilePath (pattern : Option Str) : Result (Option (Str → Bool)) :=
  match pattern with
  | none | some [] => .ok none
  | some pattern   => (B.search pattern).map some

/-- The rule with these matching fields. -/
def RuleConfig.rule (data : RuleConfig) (fields : MatchFields) (actionParams : Dict Str Json)
    (pathRegex : Option (Str → Bool)) : Rule where
  matchFieldPath := data.matchFieldPath
  fieldPathParts := data.matchFieldPath.bind fun path =>
    if path ≠ [] ∧ path.includes "[" = false ∧ splitCleanPath path ≠ [] then some (splitCleanPath path) else none
  postInit := rfl
  name := data.name
  matchVendor := data.matchVendor
  matchDeviceType := data.matchDeviceType
  matchIntent := data.matchIntent
  matchValue := fields.value
  matchHeadersLower := (fields.headers.filter (!·.isEmpty)).map (lowerKeys B.toInterp)
  matchMethod := data.matchMethod
  pathRegex
  action := data.action
  actionParams
  priority := data.priority
  enabled := data.enabled
  direction := data.direction

/-- One rule of `_load_rules`; a legacy match that cannot be translated makes none. -/
def RuleConfig.load (data : RuleConfig) : Result (Option Rule) := do
  match ← data.legacyMatch B.toInterp with
  | none        => .ok none
  | some legacy =>
    let actionParams ← data.params B
    let fields := data.matchFields legacy
    let pathRegex ← compilePath B fields.pathPattern
    .ok (some (data.rule B fields actionParams pathRegex))

/-- `key=lambda r: -r.priority`. -/
def Rule.Before (r r' : Rule) : Prop := r'.priority ≤ r.priority

instance : DecidableRel Rule.Before := fun r r' => inferInstanceAs (Decidable (r'.priority ≤ r.priority))

/-- `_load_rules`: a rule that raises is left out. -/
def loadRules (enabled : Bool) (rules : List RuleConfig) : List Rule :=
  if enabled then (rules.filterMap fun data => (data.load B).toOption.bind id).insertionSort Rule.Before else []

end RideTheApi.Modification
