import RideTheApi.Modification.Legacy

/-!
# `Modification.Processing` — the rules on a request and on a response

Both drivers make a message, apply the matching rules to it one after the other up to one that blocks, and carry the
message back. What happens to the message is `Applied`; objects that existed before stay as they were, since the heap
only grows by what is copied.
-/

namespace RideTheApi.Modification

open Py Faulty

/-! ## The drivers -/

/-- A request, as far as rules read and change it. -/
structure InterceptedRequest where
  deviceId : Str
  vendor : Str := []
  method : Option Str := none
  path : Json := .null
  headers : Dict Str Json := []
  body : Ref
  queryParams : Dict Str Str := []
  metadata : Dict Str Json := []
  parsedIntent : Option Str := none
  modifications : List Tracked := []
  blocked : Bool := false
  blockReason : Option Str := none

/-- `_metadata.get("device_type", "unknown")`. -/
def InterceptedRequest.deviceType (r : InterceptedRequest) : Json :=
  (r.metadata.get? (str "device_type")).getD (.str "unknown")

/-- `from_request`. -/
def InterceptedMessage.fromRequest (I : Interp) (r : InterceptedRequest) : InterceptedMessage where
  direction := "request"
  deviceId := r.deviceId
  vendor := r.vendor
  deviceType := r.deviceType
  intent := r.parsedIntent.getD "unknown"
  method := r.method
  path := r.path
  headers := lowerKeys I r.headers
  body := r.body
  queryParams := r.queryParams
  metadata := r.metadata
  initialHeaders := some (lowerKeys I r.headers)

/-- The wrapper a response is, if it is one. -/
def Heap.wrapper? (h : Heap) (response : Ref) : Option Wrapper :=
  match h[response]? with
  | some (.wrapper w) => some w
  | _                 => none

/-- The headers of a wrapper. -/
def wrapperHeaders (wrapped : Option Wrapper) : Dict Str Json := (wrapped.bind (·.headers)).getD []

/-- `from_response` of the record that is made of a response. -/
def InterceptedMessage.fromResponse (I : Interp) (r : InterceptedRequest) (response : Ref) (wrapped : Option Wrapper) :
    InterceptedMessage where
  direction := "response"
  deviceId := r.deviceId
  vendor := r.vendor
  deviceType := r.deviceType
  intent := r.parsedIntent.getD "unknown"
  method := r.method
  path := r.path
  headers := lowerKeys I (wrapperHeaders wrapped)
  body := (wrapped.map (·.body)).getD response
  metadata :=
    [("device_id", .str r.deviceId), ("vendor", .str r.vendor), ("device_type", r.deviceType),
      ("intent", .str (r.parsedIntent.getD "unknown")), ("method", (r.method.map JsonTree.str).getD .null),
      ("path", r.path)]

variable (B : Builtins)

/-- A body as text, in the audit log. -/
def auditText (body : Json) : Result (Option Str) :=
  if body = .null then .ok none else (dumps B.toInterp body).map some

/-- The body before a rule, whose text is kept as it is. -/
def originalText (original : Json) : Result (Option Str) :=
  match original with
  | .str s => .ok (some s)
  | v      => auditText B v

/-- `_log_modification`: the entry takes both bodies as text. -/
def logModification (original modified : Json) : Result Unit := do
  let _ ← originalText B original
  let _ ← auditText B modified
  .ok ()

/-- The loop of both drivers. -/
def processRules (direction : Str) : List Rule → InterceptedMessage → Faulty Heap InterceptedMessage
  | [],            msg => pure msg
  | rule :: rules, msg => do
    let h ← get
    let hit ← raising (rule.matches B h msg direction)
    if hit then do
      let modified ← rule.apply B msg
      let h ← get
      raising (logModification B (h.body msg.body) (h.body modified.body))
      if modified.blocked then pure modified else processRules direction rules modified
    else processRules direction rules msg

/-- `a is b or a == b`, for dicts. -/
def sameHeaders (a b : Dict Str Json) : Bool :=
  a.length == b.length && a.all fun kv => (b.get? kv.1).any fun v => v == kv.2 || pyEq v kv.2

/-- `_apply_to_request`. -/
def applyToRequest (original : InterceptedRequest) (msg : InterceptedMessage) : InterceptedRequest :=
  { original with
    body := msg.body
    path := if pyEq msg.path original.path then original.path else msg.path
    headers :=
      if sameHeaders msg.headers (msg.initialHeaders.getD (lowerKeys B.toInterp original.headers)) then original.headers
      else msg.headers
    metadata := msg.metadata
    modifications := msg.modifications
    blocked := original.blocked || msg.blocked
    blockReason := if msg.blocked then msg.blockReason else original.blockReason }

/-- `process_request`. -/
def processRequest (rules : List Rule) (intercepted : InterceptedRequest) :
    Faulty Heap (InterceptedRequest × Bool) :=
  if rules.isEmpty then pure (intercepted, false)
  else do
    let msg ← processRules B "request" rules (.fromRequest B.toInterp intercepted)
    pure (applyToRequest B intercepted msg, !msg.modifications.isEmpty)

/-- The wrapper that is served after the rules ran, without its body. -/
def servedWrapper (wrapped : Option Wrapper) (msg : InterceptedMessage) (body : Ref) : Wrapper :=
  let out : Wrapper :=
    if msg.blocked then { statusCode := .int 403, headers := some [], body }
    else
      let out := wrapped.getD { statusCode := .int 200, headers := some [], body }
      { out with
        body
        headers :=
          if sameHeaders msg.headers (lowerKeys B.toInterp (wrapperHeaders wrapped)) then out.headers
          else some msg.headers }
  let delay := (msg.metadata.get? (str "artificial_delay_ms")).getD .null
  if delay.truthy then { out with others := out.others.set "delay_ms" delay } else out

/-- The body that is served: that of the message, or why it was blocked. -/
def servedBody (msg : InterceptedMessage) : Faulty Heap Ref :=
  if msg.blocked then
    alloc (.value (.obj [("error", .str "blocked"), ("reason", (msg.blockReason.map JsonTree.str).getD .null)]))
  else pure msg.body

/-- `_apply_to_response`. -/
def applyToResponse (wrapped : Option Wrapper) (msg : InterceptedMessage) : Faulty Heap Ref := do
  let body ← servedBody msg
  alloc (.wrapper (servedWrapper B wrapped msg body))

/-- `process_response`. -/
def processResponse (rules : List Rule) (intercepted : InterceptedRequest) (response : Ref) :
    Faulty Heap (Ref × Bool) :=
  if rules.isEmpty then pure (response, false)
  else do
    let h ← get
    let wrapped := h.wrapper? response
    let msg ← processRules B "response" rules (.fromResponse B.toInterp intercepted response wrapped)
    if msg.modifications.isEmpty && !msg.blocked then pure (response, false)
    else do
      let out ← applyToResponse B wrapped msg
      pure (out, true)

/-! ## The rules of an engine -/

/-- What changes the rules of an engine. -/
inductive EngineEvent where
  | load (enabled : Bool) (rules : List RuleConfig)
  | addRule (rule : Rule)
  | removeRule (name : Str)

/-- `_load_rules`, `add_rule` and `remove_rule`. -/
def stepRules (rules : List Rule) : EngineEvent → List Rule
  | .load enabled rules => loadRules B enabled rules
  | .addRule rule       => (rules ++ [rule]).insertionSort Rule.Before
  | .removeRule name    => rules.eraseP (·.name = name)

/-- The rules after these events. -/
def engineRules (events : List EngineEvent) : List Rule := events.foldl (stepRules B) []

/-! ## What should happen -/

/-- A message, with the objects there are. -/
abbrev Scene := InterceptedMessage × Heap

/-- **The matching rules are applied**, in the order of the list, each to what the ones before it left, and none after
    one that blocks. The last argument has the rules that were applied. -/
inductive Applied (direction : Str) : List Rule → Scene → Scene → List Rule → Prop where
  | done (s : Scene) : Applied direction [] s s []
  | skip {rule : Rule} {rules used : List Rule} {s s' : Scene} (hit : rule.matches B s.2 s.1 direction = .ok false)
      (rest : Applied direction rules s s' used) : Applied direction (rule :: rules) s s' used
  | block {rule : Rule} {rules : List Rule} {s : Scene} {msg : InterceptedMessage} {h : Heap}
      (hit : rule.matches B s.2 s.1 direction = .ok true) (blocks : rule.action = .block)
      (apply : rule.apply B s.1 s.2 = (some msg, h)) : Applied direction (rule :: rules) s (msg, h) [rule]
  | change {rule : Rule} {rules used : List Rule} {s s' : Scene} {msg : InterceptedMessage} {h : Heap}
      (hit : rule.matches B s.2 s.1 direction = .ok true) (passes : rule.action ≠ .block)
      (apply : rule.apply B s.1 s.2 = (some msg, h)) (rest : Applied direction rules (msg, h) s' used) :
      Applied direction (rule :: rules) s s' (rule :: used)

/-- The request is processed right. Objects stay as they were, also when a rule raises. What is returned carries the
    message the rules left, is the request as it was without a matching rule, and counts as modified with one. -/
def RequestRight (rules : List Rule) (r : InterceptedRequest) (h : Heap) : Prop :=
  h <+: (processRequest B rules r h).2 ∧
    ∀ r' modified h', processRequest B rules r h = (some (r', modified), h') →
      ∃ used msg, Applied B "request" rules (.fromRequest B.toInterp r, h) (msg, h') used ∧
        used.Pairwise Rule.Before ∧
        (used ≠ [] → r' = applyToRequest B r msg) ∧
        (used = [] → r'.method = r.method ∧ r'.path = r.path ∧ r'.headers = r.headers ∧
          r'.queryParams = r.queryParams ∧ r'.body = r.body ∧ r'.blocked = r.blocked ∧ h' = h) ∧
        (modified = true ↔ used ≠ [])

/-- The response is processed right. -/
def ResponseRight (rules : List Rule) (r : InterceptedRequest) (response : Ref) (h : Heap) : Prop :=
  h <+: (processResponse B rules r response h).2 ∧
    ∀ out modified h', processResponse B rules r response h = (some (out, modified), h') →
      ∃ used msg h'', Applied B "response" rules
          (.fromResponse B.toInterp r response (h.wrapper? response), h) (msg, h'') used ∧
        used.Pairwise Rule.Before ∧
        (used ≠ [] → ∃ body, (msg.blocked = false → body = msg.body) ∧ h'' <+: h' ∧
          h'.wrapper? out = some (servedWrapper B (h.wrapper? response) msg body)) ∧
        (used = [] → out = response ∧ h' = h) ∧
        (modified = true ↔ used ≠ [])

/-- The first rule of the list that matches the message. -/
def firstMatch (direction : Str) (h : Heap) (msg : InterceptedMessage) : List Rule → Result (Option Rule)
  | []            => .ok none
  | rule :: rules => do
    if ← rule.matches B h msg direction then .ok (some rule) else firstMatch direction h msg rules

/-- The first rule that matches the request blocks it; its body can be logged. -/
def BlockedAtOnce (rules : List Rule) (r : InterceptedRequest) (h : Heap) : Prop :=
  ∃ rule, firstMatch B "request" h (.fromRequest B.toInterp r) rules = .ok (some rule) ∧ rule.action = .block ∧
    ∃ text, auditText B (h.body r.body) = .ok text

/-! ## Objects stay as they were -/

section
variable {h₀ h h' : Heap} {direction : Str} {rule : Rule} {rules : List Rule} {msg : InterceptedMessage} {body : Ref}
  {r : InterceptedRequest} {response : Ref}

theorem alloc_leaves (hh : h₀ <+: h) (c : Cell) : Leaves (alloc c) h (h₀ <+: ·) := hh.trans (List.prefix_append h [c])

theorem raising_leaves {α : Type} (hh : h₀ <+: h) (x : Result α) : Leaves (raising x) h (h₀ <+: ·) := hh

/-- A write above what existed. -/
theorem writeBody_leaves (hh : h₀ <+: h) (hbody : h₀.length ≤ body) (v : Json) :
    Leaves (writeBody body v) h (h₀ <+: ·) := by
  obtain ⟨t, rfl⟩ := hh
  show h₀ <+: (h₀ ++ t).set body (.value v)
  rw [List.set_append_right body _ hbody]
  exact List.prefix_append h₀ _

theorem getField_leaves (hh : h₀ <+: h) (fieldPath : Json) : Leaves (rule.getField B body fieldPath) h (h₀ <+: ·) := by
  unfold Rule.getField
  apply Leaves.get_bind
  split
  · exact leaves_pure hh
  · apply (raising_leaves hh _).bind
    intro path s hs
    exact raising_leaves hs _

theorem setField_leaves (hh : h₀ <+: h) (hbody : h₀.length ≤ body) (fieldPath value : Json) :
    Leaves (rule.setField B body fieldPath value) h (h₀ <+: ·) := by
  unfold Rule.setField
  apply Leaves.get_bind
  split
  · exact leaves_pure hh
  · apply (raising_leaves hh _).bind
    intro path s hs
    apply (writeBody_leaves hs hbody _).bind
    intro _ s hs
    apply (raising_leaves hs _).bind
    intro _ s hs
    exact leaves_pure hs

theorem deleteField_leaves (hh : h₀ <+: h) (hbody : h₀.length ≤ body) (fieldPath : Json) :
    Leaves (rule.deleteField B body fieldPath) h (h₀ <+: ·) := by
  unfold Rule.deleteField
  apply Leaves.get_bind
  apply (raising_leaves hh _).bind
  intro path s hs
  apply (writeBody_leaves hs hbody _).bind
  intro _ s hs
  apply (raising_leaves hs _).bind
  intro _ s hs
  exact leaves_pure hs

theorem compute_leaves (hh : h₀ <+: h) (hbody : h₀.length ≤ body) (fieldPath : Json) (f : Json → Result Json) :
    Leaves (rule.compute B body fieldPath f) h (h₀ <+: ·) := by
  unfold Rule.compute
  apply (getField_leaves B hh _).bind
  intro current s hs
  split
  · apply (raising_leaves hs _).bind
    intro value s hs
    exact setField_leaves B hs hbody _ _
  · exact leaves_pure hs

theorem replaceText_leaves (hh : h₀ <+: h) (hbody : h₀.length ≤ body) (fieldPath : Json) :
    Leaves (rule.replaceText B body fieldPath) h (h₀ <+: ·) := by
  unfold Rule.replaceText
  apply (getField_leaves B hh _).bind
  intro current s hs
  split
  · split
    · exact setField_leaves B hs hbody _ _
    · exact leaves_raiseIf true hs
  · exact leaves_pure hs

theorem operate_leaves (hh : h₀ <+: h) (hbody : h₀.length ≤ body) (fieldPath operation : Json) :
    Leaves (rule.operate B body fieldPath operation) h (h₀ <+: ·) := by
  unfold Rule.operate
  split
  · exact setField_leaves B hh hbody _ _
  split
  · exact compute_leaves B hh hbody _ _
  split
  · exact compute_leaves B hh hbody _ _
  split
  · exact compute_leaves B hh hbody _ _
  split
  · exact replaceText_leaves B hh hbody _
  split
  · exact deleteField_leaves B hh hbody _
  · exact leaves_pure hh

/-- An action writes into the copied body only. -/
theorem act_leaves (hh : h₀ <+: h) (hbody : h₀.length ≤ msg.body) : Leaves (rule.act B msg) h (h₀ <+: ·) := by
  unfold Rule.act
  cases rule.action with
  | block => exact leaves_pure hh
  | redirect => exact leaves_pure hh
  | delay => exact leaves_pure hh
  | modify =>
    have hmodify : Leaves (rule.modifyField B msg.body) h (h₀ <+: ·) := by
      unfold Rule.modifyField
      dsimp only
      split
      · exact operate_leaves B hh hbody _ _
      · exact leaves_pure hh
    apply hmodify.bind
    intro _ s hs
    exact leaves_pure hs
  | inject =>
    have hinject : Leaves (rule.injectField B msg.body) h (h₀ <+: ·) := by
      unfold Rule.injectField
      dsimp only
      split
      · exact setField_leaves B hh hbody _ _
      · exact leaves_pure hh
    apply hinject.bind
    intro _ s hs
    exact leaves_pure hs
  | replace =>
    dsimp only
    split
    · exact leaves_pure hh
    · apply (alloc_leaves hh _).bind
      intro _ s hs
      exact leaves_pure hs

theorem copy_eq (msg : InterceptedMessage) (h : Heap) :
    msg.copy h = (some { msg with body := h.length }, h ++ [.value (h.body msg.body)]) := rfl

/-- A rule is applied to a copy. -/
theorem apply_leaves (rule : Rule) (msg : InterceptedMessage) (h : Heap) :
    Leaves (rule.apply B msg) h (h <+: ·) := by
  have hact : Leaves (rule.act B { msg with body := h.length }) (h ++ [.value (h.body msg.body)]) (h <+: ·) :=
    act_leaves B (List.prefix_append h _) le_rfl
  unfold Rule.apply Leaves
  rw [bind_returned (copy_eq msg h)]
  refine Leaves.bind hact ?_
  intro modified s hs
  split
  · exact leaves_pure hs
  · exact leaves_pure hs

theorem processRules_leaves (direction : Str) (rules : List Rule) (msg : InterceptedMessage) (hh : h₀ <+: h) :
    Leaves (processRules B direction rules msg) h (h₀ <+: ·) := by
  induction rules generalizing msg h with
  | nil => exact leaves_pure hh
  | cons rule rules ih =>
    unfold processRules
    apply Leaves.get_bind
    apply (raising_leaves hh _).bind
    intro hit s hs
    split
    · have happly : Leaves (rule.apply B msg) s (h₀ <+: ·) := hs.trans (apply_leaves B rule msg s)
      apply happly.bind
      intro modified s hs
      apply Leaves.get_bind
      apply (raising_leaves hs _).bind
      intro _ s hs
      split
      · exact leaves_pure hs
      · exact ih modified hs
    · exact ih msg hs

/-- **A request is processed without writing to an object that existed.** -/
theorem processRequest_leaves (rules : List Rule) (r : InterceptedRequest) (h : Heap) :
    Leaves (processRequest B rules r) h (h <+: ·) := by
  unfold processRequest
  split
  · exact List.prefix_refl h
  · apply (processRules_leaves B "request" rules _ (List.prefix_refl h)).bind
    intro msg s hs
    exact leaves_pure hs

theorem applyToResponse_leaves (hh : h₀ <+: h) (wrapped : Option Wrapper) (msg : InterceptedMessage) :
    Leaves (applyToResponse B wrapped msg) h (h₀ <+: ·) := by
  have hbody : Leaves (servedBody msg) h (h₀ <+: ·) := by
    unfold servedBody
    split
    · exact alloc_leaves hh _
    · exact leaves_pure hh
  unfold applyToResponse
  apply hbody.bind
  intro body s hs
  exact alloc_leaves hs _

/-- **So is a response.** -/
theorem processResponse_leaves (rules : List Rule) (r : InterceptedRequest) (response : Ref) (h : Heap) :
    Leaves (processResponse B rules r response) h (h <+: ·) := by
  unfold processResponse
  split
  · exact List.prefix_refl h
  · apply Leaves.get_bind
    apply (processRules_leaves B "response" rules _ (List.prefix_refl h)).bind
    intro msg s hs
    split
    · exact leaves_pure hs
    · apply (applyToResponse_leaves B hs _ msg).bind
      intro out s hs
      exact leaves_pure hs

end

/-! ## What a rule leaves of a message -/

section
variable {h h' : Heap} {direction : Str} {rule : Rule} {rules used : List Rule} {msg msg' : InterceptedMessage}
  {s s' : Scene} {r : InterceptedRequest} {response : Ref}

/-- An action that does not block leaves the tracking as it is. -/
theorem act_tracks (hpasses : rule.action ≠ .block) : Post (rule.act B msg) h fun result _ =>
    ∀ msg' ∈ result, msg'.modifications = msg.modifications ∧ msg'.blocked = msg.blocked := by
  have hself : ∀ msg' ∈ some msg, msg'.modifications = msg.modifications ∧ msg'.blocked = msg.blocked := by
    rintro _ ⟨⟩
    exact ⟨rfl, rfl⟩
  unfold Rule.act
  cases haction : rule.action with
  | block => exact absurd haction hpasses
  | redirect =>
    rintro _ ⟨⟩
    exact ⟨rfl, rfl⟩
  | delay =>
    rintro _ ⟨⟩
    exact ⟨rfl, rfl⟩
  | modify =>
    apply Post.bind (Q := fun _ _ => True) trivial
    · rintro _ _ _ ⟨⟩
    · intro _ _ _
      exact hself
  | inject =>
    apply Post.bind (Q := fun _ _ => True) trivial
    · rintro _ _ _ ⟨⟩
    · intro _ _ _
      exact hself
  | replace =>
    dsimp only
    split
    · exact hself
    · apply Post.bind (Q := fun _ _ => True) trivial
      · rintro _ _ _ ⟨⟩
      · rintro _ _ _ _ ⟨⟩
        exact ⟨rfl, rfl⟩

/-- A rule that does not block is tracked. -/
theorem apply_tracks (hpasses : rule.action ≠ .block) (happly : rule.apply B msg h = (some msg', h')) :
    msg'.modifications = msg.modifications ++ [⟨rule.name, rule.action⟩] ∧ msg'.blocked = msg.blocked := by
  have hact : Post (rule.act B { msg with body := h.length }) (h ++ [.value (h.body msg.body)]) fun result _ =>
      ∀ msg' ∈ result, msg'.modifications = msg.modifications ∧ msg'.blocked = msg.blocked :=
    act_tracks B hpasses
  unfold Rule.apply at happly
  rw [bind_returned (copy_eq msg h)] at happly
  cases hres : rule.act B { msg with body := h.length } (h ++ [.value (h.body msg.body)]) with
  | mk result s =>
    unfold Post at hact
    rw [hres] at hact
    cases result with
    | none =>
      rw [bind_raised hres] at happly
      cases happly
    | some modified =>
      obtain ⟨hmodifications, hblocked⟩ := hact modified rfl
      rw [bind_returned hres, if_neg hpasses] at happly
      obtain ⟨heq, -⟩ := Prod.mk.inj happly
      obtain rfl := Option.some.inj heq
      exact ⟨by rw [hmodifications], hblocked⟩

/-- The message that a rule blocks. -/
def blockedBy (rule : Rule) (msg : InterceptedMessage) (h : Heap) : InterceptedMessage :=
  { msg with body := h.length, blocked := true, blockReason := some (str "Rule: " ++ rule.name) }

theorem apply_blocks (hblocks : rule.action = .block) :
    rule.apply B msg h = (some (blockedBy rule msg h), h ++ [.value (h.body msg.body)]) := by
  have hact : rule.act B { msg with body := h.length } (h ++ [.value (h.body msg.body)]) =
      (some (blockedBy rule msg h), h ++ [.value (h.body msg.body)]) := by
    unfold Rule.act
    rw [hblocks]
    rfl
  unfold Rule.apply
  rw [bind_returned (copy_eq msg h), bind_returned hact, if_pos hblocks]
  rfl

/-! ## The loop applies the matching rules -/

theorem raising_returned {α : Type} {x : Result α} {a : α} (hx : x = .ok a) : raising x h = (some a, h) := by
  rw [hx]
  rfl

theorem raising_raised {α : Type} {x : Result α} {e : Exn} (hx : x = .error e) : raising x h = (none, h) := by
  rw [hx]
  rfl

/-- A rule that does not match is passed over. -/
theorem processRules_skip (hmiss : rule.matches B h msg direction = .ok false) :
    processRules B direction (rule :: rules) msg h = processRules B direction rules msg h := by
  show (raising (rule.matches B h msg direction) >>= _) h = _
  rw [bind_returned (raising_returned hmiss)]
  rfl

/-- What follows a rule that matched. -/
theorem processRules_hit (hhit : rule.matches B h msg direction = .ok true) :
    processRules B direction (rule :: rules) msg h =
      (rule.apply B msg >>= fun modified => get >>= fun h =>
        raising (logModification B (h.body msg.body) (h.body modified.body)) >>= fun _ =>
          if modified.blocked then pure modified else processRules B direction rules modified) h := by
  show (raising (rule.matches B h msg direction) >>= _) h = _
  rw [bind_returned (raising_returned hhit)]
  rfl

/-- **The loop applies the matching rules.** -/
theorem processRules_applied (hblocked : msg.blocked = false)
    (hrun : processRules B direction rules msg h = (some msg', h')) :
    ∃ used, Applied B direction rules (msg, h) (msg', h') used := by
  induction rules generalizing msg h with
  | nil =>
    obtain ⟨heq, rfl⟩ := Prod.mk.inj hrun
    obtain rfl := Option.some.inj heq
    exact ⟨[], .done _⟩
  | cons rule rules ih =>
    cases hmatch : rule.matches B h msg direction with
    | error e =>
      have hraise : processRules B direction (rule :: rules) msg h = (none, h) := by
        show (raising (rule.matches B h msg direction) >>= _) h = _
        rw [bind_raised (raising_raised hmatch)]
      rw [hraise] at hrun
      cases hrun
    | ok hit =>
      cases hit with
      | false =>
        rw [processRules_skip B hmatch] at hrun
        obtain ⟨used, happlied⟩ := ih hblocked hrun
        exact ⟨used, .skip hmatch happlied⟩
      | true =>
        rw [processRules_hit B hmatch] at hrun
        -- the matching rule runs on the message as the earlier ones left it
        cases happly : rule.apply B msg h with
        | mk result s =>
          cases result with
          | none =>
            rw [bind_raised happly] at hrun
            cases hrun
          | some modified =>
            rw [bind_returned happly] at hrun
            change (raising (logModification B (s.body msg.body) (s.body modified.body)) >>= fun _ =>
              if modified.blocked then pure modified else processRules B direction rules modified) s = _ at hrun
            cases hlog : logModification B (s.body msg.body) (s.body modified.body) with
            | error e =>
              rw [bind_raised (raising_raised hlog)] at hrun
              cases hrun
            | ok _ =>
              rw [bind_returned (raising_returned hlog)] at hrun
              by_cases haction : rule.action = .block
              · have heq := (apply_blocks B haction).symm.trans happly
                obtain ⟨hmodified, -⟩ := Prod.mk.inj heq
                obtain rfl := Option.some.inj hmodified
                rw [if_pos (show (blockedBy rule msg h).blocked = true from rfl)] at hrun
                obtain ⟨hmsg, rfl⟩ := Prod.mk.inj hrun
                obtain rfl := Option.some.inj hmsg
                exact ⟨[rule], .block hmatch haction happly⟩
              -- only a block sets the flag, so the loop goes on
              · have htracks := apply_tracks B haction happly
                have hunblocked : modified.blocked = false := htracks.2.trans hblocked
                rw [if_neg (by rw [hunblocked]; exact Bool.false_ne_true)] at hrun
                obtain ⟨used, happlied⟩ := ih hunblocked hrun
                exact ⟨rule :: used, .change hmatch haction happly happlied⟩

/-! ## What the applied rules say of the message -/

variable {B} in
theorem Applied.eq_of_nil (happlied : Applied B direction rules s s' used) (hnil : used = []) : s' = s := by
  induction happlied with
  | done s => rfl
  | skip hit rest ih => exact ih hnil
  | block => cases hnil
  | change => cases hnil

variable {B} in
/-- The rules that are applied are rules of the list, in its order. -/
theorem Applied.sublist (happlied : Applied B direction rules s s' used) : used.Sublist rules := by
  induction happlied with
  | done s => exact List.Sublist.refl []
  | skip hit rest ih => exact ih.cons _
  | block hit blocks apply => exact (List.nil_sublist _).cons_cons _
  | change hit passes apply rest ih => exact ih.cons_cons _

variable {B} in
/-- The first rule that is applied is the first one that matches. -/
theorem Applied.firstMatch (happlied : Applied B direction rules s s' used) :
    firstMatch B direction s.2 s.1 rules = .ok used.head? := by
  induction happlied with
  | done s => rfl
  | skip hit rest ih =>
    unfold Modification.firstMatch
    rw [hit]
    exact ih
  | block hit blocks apply =>
    unfold Modification.firstMatch
    rw [hit]
    rfl
  | change hit passes apply rest ih =>
    unfold Modification.firstMatch
    rw [hit]
    rfl

variable {B} in
/-- Tracked modifications stay. -/
theorem Applied.modifications_prefix (happlied : Applied B direction rules s s' used) :
    s.1.modifications <+: s'.1.modifications := by
  induction happlied with
  | done s => exact List.prefix_refl _
  | skip hit rest ih => exact ih
  | block hit blocks apply =>
    obtain ⟨heq, -⟩ := Prod.mk.inj ((apply_blocks B blocks).symm.trans apply)
    obtain rfl := Option.some.inj heq
    exact List.prefix_refl _
  | change hit passes apply rest ih =>
    refine List.IsPrefix.trans ?_ ih
    rw [(apply_tracks B passes apply).1]
    exact List.prefix_append _ _

variable {B} in
/-- A message that is blocked at once is blocked, and nothing is tracked. -/
theorem Applied.head_blocks (happlied : Applied B direction rules s s' used) (hhead : used.head? = some rule)
    (hblocks : rule.action = .block) : s'.1.blocked = true ∧ s'.1.modifications = s.1.modifications := by
  induction happlied with
  | done s => cases hhead
  | skip hit rest ih => exact ih hhead
  | block hit blocks apply =>
    obtain ⟨heq, -⟩ := Prod.mk.inj ((apply_blocks B blocks).symm.trans apply)
    obtain rfl := Option.some.inj heq
    exact ⟨rfl, rfl⟩
  | change hit passes apply rest ih =>
    obtain rfl := Option.some.inj hhead
    exact absurd hblocks passes

variable {B} in
/-- Where the first rule does not block, a modification is tracked. -/
theorem Applied.head_changes (happlied : Applied B direction rules s s' used) (hhead : used.head? = some rule)
    (hpasses : rule.action ≠ .block) : s'.1.modifications ≠ [] := by
  induction happlied with
  | done s => cases hhead
  | skip hit rest ih => exact ih hhead
  | block hit blocks apply =>
    obtain rfl := Option.some.inj hhead
    exact absurd blocks hpasses
  | change hit passes apply rest ih =>
    have hprefix := rest.modifications_prefix
    rw [(apply_tracks B passes apply).1] at hprefix
    intro hnil
    rw [hnil] at hprefix
    simpa using List.prefix_nil.mp hprefix

end

/-! ## Rules in order -/

instance : Std.Total Rule.Before := ⟨fun r r' => (le_total r'.priority r.priority)⟩

instance : IsTrans Rule Rule.Before := ⟨fun _ _ _ hab hbc => le_trans hbc hab⟩

theorem stepRules_ordered (rules : List Rule) (event : EngineEvent) (hrules : rules.Pairwise Rule.Before) :
    (stepRules B rules event).Pairwise Rule.Before := by
  cases event with
  | load enabled configs =>
    show (loadRules B enabled configs).Pairwise Rule.Before
    unfold loadRules
    split
    · exact List.pairwise_insertionSort Rule.Before _
    · exact List.Pairwise.nil
  | addRule rule => exact List.pairwise_insertionSort Rule.Before _
  | removeRule name => exact hrules.sublist List.eraseP_sublist

/-- **The rules of an engine are in descending priority**, whatever happened to it. -/
theorem engineRules_ordered (events : List EngineEvent) : (engineRules B events).Pairwise Rule.Before := by
  have hfold : ∀ (events : List EngineEvent) (rules : List Rule), rules.Pairwise Rule.Before →
      (events.foldl (stepRules B) rules).Pairwise Rule.Before := by
    intro events
    induction events with
    | nil => exact fun rules hrules => hrules
    | cons event events ih => exact fun rules hrules => ih _ (stepRules_ordered B rules event hrules)
  exact hfold events [] List.Pairwise.nil

/-! ## Processing right -/

section
variable {h h' : Heap} {direction : Str} {rule : Rule} {rules used : List Rule} {msg msg' : InterceptedMessage}
  {r : InterceptedRequest} {response : Ref}

/-- What a heap with a new body reads. -/
theorem body_append (h : Heap) (v : Json) (r : Ref) :
    Heap.body (h ++ [.value v]) r = if r = h.length then v else h.body r := by
  unfold Heap.body
  rcases Nat.lt_trichotomy r h.length with hlt | rfl | hgt
  · rw [List.getElem?_append_left hlt, if_neg (Nat.ne_of_lt hlt)]
  · simp
  · have hold : h[r]? = none := List.getElem?_eq_none (Nat.le_of_lt hgt)
    have hnew : (h ++ [Cell.value v])[r]? = none := by
      apply List.getElem?_eq_none
      rw [List.length_append]
      exact hgt
    rw [hold, hnew, if_neg (Nat.ne_of_gt hgt)]

/-- The new copy of a body reads like the body. -/
theorem body_copied (h : Heap) (r : Ref) : Heap.body (h ++ [.value (h.body r)]) r = h.body r ∧
    Heap.body (h ++ [.value (h.body r)]) h.length = h.body r := by
  rw [body_append, body_append, if_pos rfl]
  exact ⟨ite_self _, rfl⟩

theorem logModification_ok_iff (v : Json) : (∃ u, logModification B v v = .ok u) ↔ ∃ text, auditText B v = .ok text := by
  constructor
  · rintro ⟨u, hlog⟩
    unfold logModification at hlog
    obtain ⟨_, -, hlog⟩ := Except.bind_ok_iff.mp hlog
    obtain ⟨text, haudit, -⟩ := Except.bind_ok_iff.mp hlog
    exact ⟨text, haudit⟩
  · rintro ⟨text, haudit⟩
    have horiginal : ∃ text, originalText B v = .ok text := by
      cases v with
      | str s => exact ⟨some s, rfl⟩
      | _ => exact ⟨text, haudit⟩
    obtain ⟨original, horiginal⟩ := horiginal
    refine ⟨(), ?_⟩
    unfold logModification
    rw [horiginal, haudit]
    rfl

/-- Where the first rule that matches blocks, its message is all that is left. -/
theorem processRules_blockedAtOnce (hfirst : firstMatch B direction h msg rules = .ok (some rule))
    (hblocks : rule.action = .block) :
    processRules B direction rules msg h =
      ((logModification B (h.body msg.body) (h.body msg.body)).toOption.map fun _ => blockedBy rule msg h,
        h ++ [.value (h.body msg.body)]) := by
  induction rules with
  | nil => cases hfirst
  | cons first rules ih =>
    unfold firstMatch at hfirst
    cases hmatch : first.matches B h msg direction with
    | error e =>
      rw [hmatch] at hfirst
      cases hfirst
    | ok hit =>
      rw [hmatch] at hfirst
      cases hit with
      | false =>
        rw [processRules_skip B hmatch]
        exact ih hfirst
      | true =>
        obtain rfl := Option.some.inj (Except.ok.inj hfirst)
        rw [processRules_hit B hmatch, bind_returned (apply_blocks B hblocks)]
        show (raising (logModification B (Heap.body (h ++ [.value (h.body msg.body)]) msg.body)
          (Heap.body (h ++ [.value (h.body msg.body)]) h.length)) >>= _) _ = _
        rw [(body_copied h msg.body).1, (body_copied h msg.body).2]
        cases hlog : logModification B (h.body msg.body) (h.body msg.body) with
        | error e =>
          rw [bind_raised (raising_raised rfl)]
          rfl
        | ok _ =>
          rw [bind_returned (raising_returned rfl), if_pos (show (blockedBy first msg h).blocked = true from rfl)]
          rfl

theorem sameHeaders_refl {a : Dict Str Json} (hkeys : (Dict.keys a).Nodup) : sameHeaders a a = true := by
  unfold sameHeaders
  rw [beq_self_eq_true, Bool.true_and, List.all_eq_true]
  rintro ⟨k, v⟩ hkv
  have hget : a.get? k = some v := Dict.get?_of_mem hkeys hkv
  simp [hget]

theorem nodup_lowerKeys {α : Type} (I : Interp) (headers : Dict Str α) : (Dict.keys (lowerKeys I headers)).Nodup :=
  Dict.nodup_keys_ofList _

/-- Without a matching rule the request is as it was. -/
theorem applyToRequest_untouched (r : InterceptedRequest) :
    applyToRequest B r (.fromRequest B.toInterp r) = { r with modifications := [] } := by
  have hsame : sameHeaders (lowerKeys B.toInterp r.headers) (lowerKeys B.toInterp r.headers) = true :=
    sameHeaders_refl (nodup_lowerKeys _ _)
  unfold applyToRequest InterceptedMessage.fromRequest
  simp [hsame]

theorem processRequest_eq (hrules : rules ≠ []) (r : InterceptedRequest) :
    processRequest B rules r = (processRules B "request" rules (.fromRequest B.toInterp r) >>= fun msg =>
      pure (applyToRequest B r msg, !msg.modifications.isEmpty)) := by
  unfold processRequest
  rw [if_neg (by simpa using hrules)]

/-- What a request is answered with, and the rules that were applied to it. -/
theorem processRequest_applied {r' : InterceptedRequest} {modified : Bool} (hrules : rules ≠ [])
    (hrun : processRequest B rules r h = (some (r', modified), h')) :
    ∃ msg used, processRules B "request" rules (.fromRequest B.toInterp r) h = (some msg, h') ∧
      Applied B "request" rules (.fromRequest B.toInterp r, h) (msg, h') used ∧ r' = applyToRequest B r msg ∧
        modified = !msg.modifications.isEmpty := by
  rw [processRequest_eq B hrules] at hrun
  cases hloop : processRules B "request" rules (.fromRequest B.toInterp r) h with
  | mk result s =>
    cases result with
    | none =>
      rw [bind_raised hloop] at hrun
      cases hrun
    | some msg =>
      rw [bind_returned hloop] at hrun
      obtain ⟨heq, rfl⟩ := Prod.mk.inj hrun
      obtain ⟨rfl, rfl⟩ := Prod.mk.inj (Option.some.inj heq)
      obtain ⟨used, happlied⟩ := processRules_applied B rfl hloop
      exact ⟨msg, used, rfl, happlied, rfl, rfl⟩

/-- **When a request is processed right**: when the first rule that matches it does not block it. -/
theorem requestRight_iff (hordered : rules.Pairwise Rule.Before) (r : InterceptedRequest) (h : Heap) :
    RequestRight B rules r h ↔ ¬ BlockedAtOnce B rules r h := by
  constructor
  · rintro ⟨-, hright⟩ ⟨rule, hfirst, hblocks, haudit⟩
    have hrules : rules ≠ [] := by
      rintro rfl
      cases hfirst
    obtain ⟨u, hlog⟩ := (logModification_ok_iff B _).mpr haudit
    have hloop := processRules_blockedAtOnce B hfirst hblocks
    rw [show (InterceptedMessage.fromRequest B.toInterp r).body = r.body from rfl, hlog] at hloop
    have hrun := congrFun (processRequest_eq B hrules r) h
    rw [bind_returned hloop] at hrun
    -- the run says "modified", and no rule was used
    obtain ⟨used, msg, happlied, -, -, -, hflag⟩ := hright _ _ _ hrun
    have hused : used = [] := by
      by_contra hne
      cases hflag.mpr hne
    have hmatch := happlied.firstMatch
    rw [hused, hfirst] at hmatch
    cases hmatch
  · intro hnot
    refine ⟨processRequest_leaves B rules r h, fun r' modified h' hrun => ?_⟩
    by_cases hrules : rules = []
    · subst hrules
      obtain ⟨heq, rfl⟩ := Prod.mk.inj hrun
      obtain ⟨rfl, rfl⟩ := Prod.mk.inj (Option.some.inj heq)
      refine ⟨[], _, .done _, List.Pairwise.nil, fun hne => absurd rfl hne, fun _ => ?_, by simp⟩
      exact ⟨rfl, rfl, rfl, rfl, rfl, rfl, rfl⟩
    · obtain ⟨msg, used, hloop, happlied, rfl, rfl⟩ := processRequest_applied B hrules hrun
      refine ⟨used, msg, happlied, hordered.sublist happlied.sublist, fun _ => rfl, fun hnil => ?_, ?_⟩
      · obtain ⟨rfl, rfl⟩ := Prod.mk.inj (happlied.eq_of_nil hnil)
        rw [applyToRequest_untouched]
        exact ⟨rfl, rfl, rfl, rfl, rfl, rfl, rfl⟩
      · cases hhead : used.head? with
        | none =>
          have hnil := List.head?_eq_none_iff.mp hhead
          obtain ⟨rfl, rfl⟩ := Prod.mk.inj (happlied.eq_of_nil hnil)
          simp [hnil, InterceptedMessage.fromRequest]
        | some rule =>
          have hne : used ≠ [] := by
            rintro rfl
            cases hhead
          have hpasses : rule.action ≠ .block := by
            intro hblocks
            have hfirst := happlied.firstMatch
            rw [hhead] at hfirst
            have hlooped := processRules_blockedAtOnce B hfirst hblocks
            rw [hloop] at hlooped
            obtain ⟨hresult, -⟩ := Prod.mk.inj hlooped
            apply hnot
            refine ⟨rule, hfirst, hblocks, (logModification_ok_iff B _).mp ?_⟩
            cases hlog : logModification B (h.body r.body) (h.body r.body) with
            | ok u => exact ⟨u, rfl⟩
            | error e =>
              rw [show (InterceptedMessage.fromRequest B.toInterp r).body = r.body from rfl, hlog] at hresult
              cases hresult
          have hmodified := happlied.head_changes hhead hpasses
          simp [hne, hmodified]

/-- A message that comes without tracking carries it once a rule is applied. -/
theorem Applied.untouched_iff {msg msg' : InterceptedMessage} (happlied : Applied B direction rules (msg, h) (msg', h') used)
    (hmodifications : msg.modifications = []) (hblocked : msg.blocked = false) :
    (msg'.modifications.isEmpty && !msg'.blocked) = true ↔ used = [] := by
  cases hhead : used.head? with
  | none =>
    have hnil := List.head?_eq_none_iff.mp hhead
    obtain ⟨rfl, rfl⟩ := Prod.mk.inj (happlied.eq_of_nil hnil)
    simp [hnil, hmodifications, hblocked]
  | some rule =>
    have hne : used ≠ [] := by
      rintro rfl
      cases hhead
    by_cases hblocks : rule.action = .block
    · have hblocked' : msg'.blocked = true := (happlied.head_blocks hhead hblocks).1
      simp [hne, hblocked']
    · have hmodified : msg'.modifications ≠ [] := happlied.head_changes hhead hblocks
      simp [hne, hmodified]

/-- What is made of a message that rules were applied to. -/
theorem applyToResponse_served (wrapped : Option Wrapper) (msg : InterceptedMessage) (h : Heap) :
    ∃ out h' body, applyToResponse B wrapped msg h = (some out, h') ∧ h <+: h' ∧
      (msg.blocked = false → body = msg.body) ∧ h'.wrapper? out = some (servedWrapper B wrapped msg body) := by
  have hbody : ∃ body s, servedBody msg h = (some body, s) ∧ h <+: s ∧ (msg.blocked = false → body = msg.body) := by
    unfold servedBody
    cases msg.blocked with
    | true => exact ⟨_, _, rfl, List.prefix_append _ _, nofun⟩
    | false => exact ⟨_, _, rfl, List.prefix_refl _, fun _ => rfl⟩
  obtain ⟨body, s, hserved, hgrows, hbody⟩ := hbody
  refine ⟨s.length, s ++ [.wrapper (servedWrapper B wrapped msg body)], body, ?_, ?_, hbody, ?_⟩
  · unfold applyToResponse
    rw [bind_returned hserved]
    rfl
  · exact hgrows.trans (List.prefix_append _ _)
  · unfold Heap.wrapper?
    simp

theorem processResponse_eq (hrules : rules ≠ []) (r : InterceptedRequest) (response : Ref) (h : Heap) :
    processResponse B rules r response h =
      (processRules B "response" rules (.fromResponse B.toInterp r response (h.wrapper? response)) >>= fun msg =>
        if msg.modifications.isEmpty && !msg.blocked then pure (response, false)
        else applyToResponse B (h.wrapper? response) msg >>= fun out => pure (out, true)) h := by
  unfold processResponse
  rw [if_neg (by simpa using hrules)]
  rfl

/-- **A response is processed right.** -/
theorem responseRight (hordered : rules.Pairwise Rule.Before) (r : InterceptedRequest) (response : Ref) (h : Heap) :
    ResponseRight B rules r response h := by
  refine ⟨processResponse_leaves B rules r response h, fun out modified h' hrun => ?_⟩
  by_cases hrules : rules = []
  · subst hrules
    obtain ⟨heq, rfl⟩ := Prod.mk.inj hrun
    obtain ⟨rfl, rfl⟩ := Prod.mk.inj (Option.some.inj heq)
    exact ⟨[], _, _, .done _, List.Pairwise.nil, fun hne => absurd rfl hne, fun _ => ⟨rfl, rfl⟩, by simp⟩
  rw [processResponse_eq B hrules] at hrun
  cases hloop : processRules B "response" rules (.fromResponse B.toInterp r response (h.wrapper? response)) h with
  | mk result s =>
    cases result with
    | none =>
      rw [bind_raised hloop] at hrun
      cases hrun
    | some msg =>
      rw [bind_returned hloop] at hrun
      obtain ⟨used, happlied⟩ := processRules_applied B rfl hloop
      have hbefore := hordered.sublist happlied.sublist
      have huntouched := happlied.untouched_iff B rfl rfl
      by_cases hused : used = []
      · rw [if_pos (huntouched.mpr hused)] at hrun
        obtain ⟨heq, rfl⟩ := Prod.mk.inj hrun
        obtain ⟨rfl, rfl⟩ := Prod.mk.inj (Option.some.inj heq)
        obtain ⟨rfl, rfl⟩ := Prod.mk.inj (happlied.eq_of_nil hused)
        exact ⟨used, _, _, happlied, hbefore, fun hne => absurd hused hne, fun _ => ⟨rfl, rfl⟩, by simp [hused]⟩
      · rw [if_neg (fun htrue => hused (huntouched.mp htrue))] at hrun
        obtain ⟨served, s', body, hserve, hgrows, hbody, hwrapper⟩ :=
          applyToResponse_served B (h.wrapper? response) msg s
        rw [bind_returned hserve] at hrun
        obtain ⟨heq, rfl⟩ := Prod.mk.inj hrun
        obtain ⟨rfl, rfl⟩ := Prod.mk.inj (Option.some.inj heq)
        refine ⟨used, msg, s, happlied, hbefore, fun _ => ⟨body, hbody, hgrows, hwrapper⟩, ?_, ?_⟩
        · exact fun hnil => absurd hnil hused
        · simp [hused]

end

/-- **Rules touch only what they match, on both sides**, except that a request which is blocked at once does not count as
    modified. -/
theorem process_right_iff (B : Builtins) (events : List EngineEvent) (r : InterceptedRequest) (response : Ref) (h : Heap) :
    (engineRules B events).Pairwise Rule.Before ∧ ResponseRight B (engineRules B events) r response h ∧
      (RequestRight B (engineRules B events) r h ↔ ¬ BlockedAtOnce B (engineRules B events) r h) :=
  ⟨engineRules_ordered B events, responseRight B (engineRules_ordered B events) r response h,
    requestRight_iff B (engineRules_ordered B events) r h⟩

/-! ## Two conventions -/

/-- The rules block the message. -/
def Blocks (direction : Str) (rules : List Rule) (msg : InterceptedMessage) (h : Heap) : Prop :=
  ∃ used s, Applied B direction rules (msg, h) s used ∧ s.1.blocked = true

/-- What is blocked counts as modified as `counts` says, on both sides. -/
def Convention (counts : Bool) (rules : List Rule) (r : InterceptedRequest) (response : Ref) (h : Heap) : Prop :=
  (Blocks B "request" rules (.fromRequest B.toInterp r) h →
    ∀ r' modified h', processRequest B rules r h = (some (r', modified), h') → modified = counts) ∧
  (Blocks B "response" rules (.fromResponse B.toInterp r response (h.wrapper? response)) h →
    ∀ out modified h', processResponse B rules r response h = (some (out, modified), h') → modified = counts)

/-- A rule that blocks everything. -/
def denyAll : Rule where
  matchFieldPath := none
  fieldPathParts := none
  postInit := none_postInit
  name := "deny"
  matchVendor := none
  matchDeviceType := none
  matchIntent := none
  matchValue := .null
  matchHeadersLower := none
  matchMethod := none
  pathRegex := none
  action := .block
  actionParams := []
  priority := 10
  enabled := true
  direction := "both"

/-- What it blocks counts as modified in a response and not in a request. -/
theorem denied_twoConventions : ¬ ∃ counts, ∀ (B : Builtins) (events : List EngineEvent) (r : InterceptedRequest)
    (response : Ref) (h : Heap), Convention B counts (engineRules B events) r response h := by
  rintro ⟨counts, hconvention⟩
  have hmatches : ∀ h msg direction, denyAll.matches plainBuiltins h msg direction = .ok true := fun _ _ _ => rfl
  have hblocks : ∀ direction msg h, Blocks plainBuiltins direction [denyAll] msg h := fun direction msg h =>
    ⟨[denyAll], _, .block (hmatches h msg direction) rfl (apply_blocks plainBuiltins rfl), rfl⟩
  have hrules : engineRules plainBuiltins [.addRule denyAll] = [denyAll] := rfl
  obtain ⟨hrequest, hresponse⟩ := hconvention plainBuiltins [.addRule denyAll] { deviceId := "lamp", body := 0 } 0 [.value .null]
  rw [hrules] at hrequest hresponse
  have hfalse : false = counts := hrequest (hblocks _ _ _) _ _ _ rfl
  have htrue : true = counts := hresponse (hblocks _ _ _) _ _ _ rfl
  exact absurd (hfalse.trans htrue.symm) (by decide)

end RideTheApi.Modification
