import Mathlib.Data.List.Sort
import Mathlib.Data.Rat.Init
import Mathlib.Algebra.Order.Ring.Rat
import RideTheApi.Lib.Transition
import RideTheApi.Py.Equal
import RideTheApi.Py.Interp

/-!
# `Traffic.Selector` — the rules that decide intercept or passthrough

A rule's fields hold whatever an update stores in them, so a field is a Python value: `None`, a number, text, a member of
one of the three enumerations, or another object. Beside the fields a rule keeps what `_recompile` made of its match
definition. The selector keeps the rules sorted by priority, highest first, and `evaluate` takes the first that matches.

Network notation, `fnmatch` patterns and what a sort leaves of a list it cannot order are the interpreter's: `Matchers`.
-/

namespace RideTheApi.Traffic

open Py

/-- `TrafficScope`. -/
inductive TrafficScope where
  | local_
  | external
deriving Repr, DecidableEq

/-- `TrafficAction`. -/
inductive TrafficAction where
  | intercept
  | passthrough
deriving Repr, DecidableEq

/-- `MatchType`. -/
inductive MatchType where
  | cidr
  | hostname
  | vendor
  | deviceId
deriving Repr, DecidableEq

/-- The text of a member: every member is a `str`. -/
def TrafficScope.value : TrafficScope → Str
  | .local_   => "local"
  | .external => "external"

/-- The text of a member. -/
def TrafficAction.value : TrafficAction → Str
  | .intercept   => "intercept"
  | .passthrough => "passthrough"

/-- The text of a member. -/
def MatchType.value : MatchType → Str
  | .cidr     => "cidr"
  | .hostname => "hostname"
  | .vendor   => "vendor"
  | .deviceId => "device_id"

/-- A value a field can hold: `empty` is an empty list or dict, `object` any object that is none of the others. -/
inductive Val where
  | none
  | bool (b : Bool)
  | int (n : Int)
  | float (bits : BitVec 64)
  | str (s : Str)
  | scope (m : TrafficScope)
  | matchType (m : MatchType)
  | action (m : TrafficAction)
  | empty
  | object
deriving Repr, DecidableEq

namespace Val

/-- The text of a `str`. -/
def text : Val → Option Str
  | .str s       => some s
  | .scope m     => some m.value
  | .matchType m => some m.value
  | .action m    => some m.value
  | _            => Option.none

/-- `bool(v)`. -/
def truthy : Val → Bool
  | .none    => false
  | .bool b  => b
  | .int n   => n != 0
  | .float x => x != 0 && x != 0x8000000000000000#64
  | .str s   => !s.isEmpty
  | .empty   => false
  | _        => true

/-- The number that `<` compares; other values are not ordered with numbers, and `NaN` with none. -/
def number : Val → Option ℚ
  | .bool b  => some (if b then 1 else 0)
  | .int n   => some n
  | .float x => floatValue x
  | _        => Option.none

/-- `v == TrafficScope.LOCAL`. -/
def isLocal (v : Val) : Bool := v.text == some TrafficScope.local_.value

/-- The match type `v` is equal to. -/
def kind (v : Val) : Option MatchType := [.cidr, .hostname, .vendor, .deviceId].find? fun m => v.text == some m.value

/-- `v.value`, which only members have. -/
def hasValue : Val → Bool
  | .scope _ | .matchType _ | .action _ => true
  | _ => false

end Val

/-- What `_recompile` derives from the match definition. -/
structure Compiled (N : Type) where
  pattern : Option Str
  network : Option N
  lower   : Str
deriving DecidableEq

/-- `TrafficRule`. -/
structure Rule (N : Type) where
  name       : Val
  scope      : Val
  matchType  : Val
  matchValue : Val
  action     : Val
  priority   : Val
  enabled    : Val
  compiled   : Compiled N
deriving DecidableEq

/-- The interpreter's part: Unicode, networks and addresses, shell patterns, and sorting. -/
structure Matchers (N : Type) where
  interp : Interp
  /-- `ip_network(s, strict=False)`; nothing for a `ValueError`. -/
  ipNetwork : Str → Option N
  /-- `ip_address(client_ip) in network`, and `False` for a text that is no address. -/
  contains : N → Str → Bool
  /-- `re.compile(fnmatch.translate(pattern), re.IGNORECASE).match(host)`. -/
  glob : Str → Str → Bool
  /-- What sorting leaves of a list whose keys `<` does not order, and whether it raises. -/
  unordered : List (Rule N) → List (Rule N) × Bool
  unordered_perm : ∀ rules, (unordered rules).1.Perm rules

/-- `TrafficRequestInfo`. -/
structure RequestInfo where
  clientIp : Str
  hostname : Option Str
  vendor   : Option Str
  deviceId : Option Str
  isLocal  : Bool
deriving Repr, DecidableEq

/-- `normalize_hostname`. -/
def normalizeHostname (I : Interp) : Option Str → Option Str
  | none      => none
  | some []   => some []
  | some host =>
    let host := Str.stripSpace host
    let host :=
      if Str.startsWith host "[" then
        let inner := host.tail
        if inner.contains (cp ']') then Str.before (cp ']') inner else inner
      else if host.count (cp ':') = 1 then
        let port := (host.dropWhile (· != cp ':')).tail
        if port.isEmpty || I.strIsDigit port then Str.before (cp ':') host else host
      else host
    some (I.lowerStr (host.rdropWhile (· == cp '.')))

section
variable {N : Type} (M : Matchers N)

/-! ## Compiling a match definition -/

/-- The exceptions of `_recompile`: a `ValueError`, or another. -/
inductive CompileError where
  | valueError
  | other
deriving Repr, DecidableEq

/-- `self.match_value.lower() if self.match_value else ""`; nothing for a truthy value without `lower`. -/
def lowerOf (v : Val) : Option Str := if v.truthy then v.text.map M.interp.lowerStr else some []

/-- `ip_network(v, strict=False)`: a number is an address, a member and any other object no notation. -/
def networkOf : Val → Option N
  | .str s      => M.ipNetwork s
  | .bool false => M.ipNetwork (str "0.0.0.0/32")
  | .int 0      => M.ipNetwork (str "0.0.0.0/32")
  | _           => none

/-- `fnmatch.translate(v)`: the pattern's text; nothing for a value that has no characters. -/
def patternOf : Val → Option Str
  | .empty => some []
  | v      => v.text

/-- `_recompile`: the rule as it is left, and what was raised. -/
def recompile (r : Rule N) : Rule N × Option CompileError :=
  match lowerOf M r.matchValue with
  | none     => ({ r with compiled := ⟨none, none, r.compiled.lower⟩ }, some .other)
  | some low =>
    match r.matchType.kind with
    | some .cidr =>
      match networkOf M r.matchValue with
      | some net => ({ r with compiled := ⟨none, some net, low⟩ }, none)
      | none     => ({ r with compiled := ⟨none, none, low⟩ }, some .valueError)
    | some .hostname =>
      match patternOf r.matchValue with
      | some pattern => ({ r with compiled := ⟨some pattern, none, low⟩ }, none)
      | none         => ({ r with compiled := ⟨none, none, low⟩ }, some .other)
    | _ => ({ r with compiled := ⟨none, none, low⟩ }, none)

/-! ## Matching a request -/

/-- The match by type, on a compiled definition. -/
def matchesBy (c : Compiled N) (matchValue : Val) (req : RequestInfo) : MatchType → Bool
  | .hostname =>
    match normalizeHostname M.interp req.hostname, c.pattern with
    | some host, some pattern => !host.isEmpty && M.glob pattern host
    | _, _ => false
  | .deviceId =>
    match req.deviceId with
    | some id => !id.isEmpty && matchValue.text == some id
    | none    => false
  | .vendor =>
    match req.vendor with
    | some vendor => !vendor.isEmpty && (matchValue.text == some vendor || M.interp.lowerStr vendor == c.lower)
    | none        => false
  | .cidr =>
    match c.network with
    | some net => !req.clientIp.isEmpty && M.contains net req.clientIp
    | none     => false

/-- `matches`: scope and match type are compared with `is`, so only members count. -/
def ruleMatches (r : Rule N) (req : RequestInfo) : Bool :=
  r.enabled.truthy && !(r.scope == .scope .local_ && !req.isLocal) &&
    match r.matchType with
    | .matchType m => matchesBy M r.compiled r.matchValue req m
    | _            => false

/-- The rule's current match definition matches: its fields by value, compiled afresh. -/
def definitionMatches (r : Rule N) (req : RequestInfo) : Bool :=
  r.enabled.truthy && !(r.scope.isLocal && !req.isLocal) &&
    match r.matchType.kind with
    | some m => matchesBy M (recompile M r).1.compiled r.matchValue req m
    | none   => false

/-! ## The selector -/

/-- The rules, and the default action. -/
structure Selector (N : Type) where
  rules         : List (Rule N)
  defaultAction : TrafficAction

/-- `evaluate`: the action of the first rule that matches. Its log line asks for `action.value`. -/
def evaluate (s : Selector N) (req : RequestInfo) : Option Val :=
  match s.rules.find? fun r => ruleMatches M r req with
  | some r => if r.action.hasValue then some r.action else none
  | none   => some (.action s.defaultAction)

/-- `<` orders the priorities: they are numbers, or there is nothing to compare. -/
def Orderly (rules : List (Rule N)) : Prop := rules.length ≤ 1 ∨ ∀ r ∈ rules, r.priority.number.isSome = true

instance (rules : List (Rule N)) : Decidable (Orderly rules) := inferInstanceAs (Decidable (_ ∨ _))

/-- `a` may stand before `b`: the priority of `a` is not lower. -/
def NotBelow (a b : Rule N) : Prop := b.priority.number.getD 0 ≤ a.priority.number.getD 0

instance : DecidableRel (NotBelow (N := N)) := fun _ _ => inferInstanceAs (Decidable (_ ≤ _))

/-- `self.rules.sort(key=lambda r: r.priority, reverse=True)`, which is stable; and whether it raises. -/
def sortRules (rules : List (Rule N)) : List (Rule N) × Bool :=
  if Orderly rules then (rules.insertionSort NotBelow, false) else M.unordered rules

/-- What a call returns, or that it raises. -/
inductive Answer where
  | returned (ok : Bool)
  | raised
deriving Repr, DecidableEq

/-- Sort the rules, and return `True`. -/
def resorted (s : Selector N) : Selector N × Answer :=
  let sorted := sortRules M s.rules
  ({ s with rules := sorted.1 }, if sorted.2 then .raised else .returned true)

/-- `add_rule`. -/
def addRule (s : Selector N) (rule : Rule N) : Selector N × Answer :=
  match recompile M rule with
  | (rule, none)           => resorted M { s with rules := s.rules ++ [rule] }
  | (_, some .valueError)  => (s, .returned false)
  | (_, some .other)       => (s, .raised)

/-- The first rule called `name`, with the rules before and after it. -/
def findRule (name : Str) : List (Rule N) → Option (List (Rule N) × Rule N × List (Rule N))
  | []      => none
  | r :: rs =>
    if r.name.text = some name then some ([], r, rs)
    else (findRule name rs).map fun (before, found, after) => (r :: before, found, after)

/-- `remove_rule`. -/
def removeRule (s : Selector N) (name : Str) : Selector N × Answer :=
  match findRule name s.rules with
  | some (before, _, after) => ({ s with rules := before ++ after }, .returned true)
  | none                    => (s, .returned false)

/-- A keyword of `update_rule`: a field of the rule, or a name that the rule has no attribute for. -/
inductive Keyword where
  | name
  | scope
  | matchType
  | matchValue
  | action
  | priority
  | enabled
  | unknown
deriving Repr, DecidableEq

/-- `if hasattr(rule, key): setattr(rule, key, value)`. -/
def setField (r : Rule N) : Keyword × Val → Rule N
  | (.name, v)       => { r with name := v }
  | (.scope, v)      => { r with scope := v }
  | (.matchType, v)  => { r with matchType := v }
  | (.matchValue, v) => { r with matchValue := v }
  | (.action, v)     => { r with action := v }
  | (.priority, v)   => { r with priority := v }
  | (.enabled, v)    => { r with enabled := v }
  | (.unknown, _)    => r

/-- The keywords stored one after the other. -/
def setFields (r : Rule N) (kwargs : List (Keyword × Val)) : Rule N := kwargs.foldl setField r

/-- `any(k in kwargs for k in ("match_value", "match_type"))`. -/
def touchesMatch (kwargs : List (Keyword × Val)) : Bool :=
  kwargs.any fun kv => kv.1 == .matchValue || kv.1 == .matchType

/-- `"priority" in kwargs`. -/
def touchesPriority (kwargs : List (Keyword × Val)) : Bool := kwargs.any fun kv => kv.1 == .priority

/-- The end of `update_rule`: re-sort if the priority was given. -/
def finishUpdate (s : Selector N) (kwargs : List (Keyword × Val)) : Selector N × Answer :=
  if touchesPriority kwargs then resorted M s else (s, .returned true)

/-- The way back from a match definition that does not compile: only the match fields are put back. -/
def rollback (s : Selector N) (before after : List (Rule N)) (old rule : Rule N) : Selector N × Answer :=
  match recompile M { rule with matchType := old.matchType, matchValue := old.matchValue } with
  | (rule, none)   => ({ s with rules := before ++ rule :: after }, .returned false)
  | (rule, some _) => ({ s with rules := before ++ rule :: after }, .raised)

/-- `update_rule`. -/
def updateRule (s : Selector N) (name : Str) (kwargs : List (Keyword × Val)) : Selector N × Answer :=
  match findRule name s.rules with
  | none => (s, .returned false)
  | some (before, old, after) =>
    let rule := setFields old kwargs
    if touchesMatch kwargs then
      match recompile M rule with
      | (rule, none)        => finishUpdate M { s with rules := before ++ rule :: after } kwargs
      | (rule, some .valueError) => rollback M s before after old rule
      | (rule, some .other) => ({ s with rules := before ++ rule :: after }, .raised)
    else finishUpdate M { s with rules := before ++ rule :: after } kwargs

/-- The calls on the selector. -/
inductive Call (N : Type) where
  | addRule (rule : Rule N)
  | removeRule (name : Str)
  | updateRule (name : Str) (kwargs : List (Keyword × Val))

/-- A call. -/
def call (s : Selector N) : Call N → Selector N × Answer
  | .addRule rule           => addRule M s rule
  | .removeRule name        => removeRule s name
  | .updateRule name kwargs => updateRule M s name kwargs

/-- The state a call leads to. -/
def step (s : Selector N) (c : Call N) : Option (Selector N) := some (call M s c).1

/-! ## The rules of the configuration -/

/-- A rule of the `traffic_selection` section. -/
structure ConfigRule where
  name       : Str
  scope      : Str
  matchType  : Str
  matchValue : Str
  action     : Str
  priority   : Int
  enabled    : Bool

/-- `TrafficScope(value)`. -/
def TrafficScope.ofValue (s : Str) : Option TrafficScope := [.local_, .external].find? fun m => m.value == s

/-- `TrafficAction(value)`. -/
def TrafficAction.ofValue (s : Str) : Option TrafficAction := [.intercept, .passthrough].find? fun m => m.value == s

/-- `MatchType(value)`. -/
def MatchType.ofValue (s : Str) : Option MatchType := [.cidr, .hostname, .vendor, .deviceId].find? fun m => m.value == s

/-- `TrafficRule(…)` from a rule of the configuration; nothing where it is refused. -/
def parseRule (c : ConfigRule) : Option (Rule N) := do
  let scope ← TrafficScope.ofValue c.scope
  let matchType ← MatchType.ofValue c.matchType
  let action ← TrafficAction.ofValue c.action
  match recompile M ⟨.str c.name, .scope scope, .matchType matchType, .str c.matchValue, .action action,
      .int c.priority, .bool c.enabled, ⟨none, none, []⟩⟩ with
  | (rule, none)   => some rule
  | (_,    some _) => none

/-- `_load_rules`: a rule that is refused is logged and left out. -/
def loadRules (defaultAction : TrafficAction) (rules : List ConfigRule) : Selector N :=
  ⟨(sortRules M (rules.filterMap (parseRule M))).1, defaultAction⟩

end
end RideTheApi.Traffic
