import RideTheApi.Engine.MemoryAgreement
import RideTheApi.PatternDb.DeviceModel

/-!
# `Pipeline.Restart` — what is served live and what a fresh process loads

A sync serves the v1 document of the device's rows, and writes a file: the v2 device model when the device
has a header that says anything, else the same v1 document. A fresh process loads the file and projects a
v2 model back to v1. Two things differ after the projection: every endpoint speaks the header's protocol,
and an endpoint without a method is a `GET`. Responses are found and built alike.
-/

namespace RideTheApi.Restart

open Py PatternDb Engine FirstMax

/-! ## Writing and loading the file -/

/-- A portable file: either format. -/
inductive PortableFile where
  | v1 (doc : PatternDB)
  | v2 (model : DeviceModel)
deriving Repr, DecidableEq

/-- How a portable file is written as text and read back. What was written reads back as itself. -/
structure FileFormat where
  Text : Type
  dump : PortableFile → Option Text
  load : Text → Option PortableFile
  load_dump : ∀ file text, dump file = some text → load text = some file

/-- A v2 model is written once the header says something. -/
def hasHeader : Option DeviceMeta → Bool
  | some m => !m.protocols.isEmpty || !m.transport.isEmpty
  | none   => false

/-- The file a sync writes for the patterns it serves. -/
def portableFile (deviceId vendor deviceType : Str) (applied : Option (List StateVariable × List VirtualSensor))
    (device : Device) (doc : PatternDB) : Result PortableFile :=
  if hasHeader device.header then (exportDeviceModel deviceId vendor deviceType applied device).map .v2
  else .ok (.v1 doc)

/-- Rebuild what is served for a device without a user-supplied file, and export it: the served document and
    the text of the file, or none when there is no pattern. -/
def exportAndSync (F : FileFormat) (deviceId vendor deviceType : Str)
    (applied : Option (List StateVariable × List VirtualSensor)) (device : Device) :
    Result (Option (PatternDB × F.Text)) := do
  let doc ← exportPatterns deviceId vendor deviceType (stateConfig device.header applied) device.db
  if doc.client.endpoints.isEmpty then .ok none
  else do
    let file ← portableFile deviceId vendor deviceType applied device doc
    match F.dump file with
    | some text => .ok (some (doc, text))
    | none      => .error .other

/-- The document a file is applied as. -/
def PortableFile.patternDb : PortableFile → PatternDB
  | v1 doc   => doc
  | v2 model => model.toPatternDb

/-- The device a file was exported for: what its pattern id says before `-patterns`, else the file's stem. -/
def deviceIdFromPatternFile (stem patternId : Str) : Str :=
  if patternId.endsWith "-patterns" && decide ((str "-patterns").length < patternId.length) then
    patternId.take (patternId.length - (str "-patterns").length)
  else stem

/-- What a fresh process serves from memory for a device, after it auto-loaded the file. -/
def restarted (F : FileFormat) (stem deviceId : Str) (text : F.Text) : Option CachedPatterns :=
  (F.load text).bind fun file =>
    if deviceIdFromPatternFile stem file.patternDb.patternMeta.patternId = deviceId then
      some (applyPatternDb file.patternDb)
    else none

/-- A restart keeps the behaviour: every request selects the same pattern with the same score and gets the
    same response, whatever the device's state. -/
def KeepsBehaviour (F : FileFormat) (stem deviceId : Str) (live : PatternDB) (text : F.Text) : Prop :=
  ∀ H tables call request store, serve H (some (applyPatternDb live)) tables call request store =
    serve H (restarted F stem deviceId text) tables call request store

/-! ## When a restart keeps the behaviour -/

/-- Two protocols filter requests alike: they are the same, or both of the HTTP family. -/
def filtersAlike (a b : Str) : Bool :=
  a == b || (["http", "https"].map str).contains a && (["http", "https"].map str).contains b

/-- The protocol of the header, which every endpoint of a loaded model speaks. -/
def headerProtocol (device : Device) : Str := (exportProtocol device.header).protocol

/-- A device whose behaviour a restart keeps: the file is the served document itself, or every pattern has a
    method and a protocol that filters like the header's. -/
structure RestartsAlike (deviceId : Str) (device : Device) : Prop where
  deviceId : deviceId ≠ []
  rows : hasHeader device.header = true → ∀ pat ∈ device.db.patterns,
    pat.method ≠ [] ∧ filtersAlike pat.protocol (headerProtocol device) = true

section
variable {F : FileFormat} {stem deviceId vendor deviceType : Str} {device : Device}
  {applied : Option (List StateVariable × List VirtualSensor)} {live : PatternDB} {text : F.Text}

theorem deviceIdFromPatternFile_eq (stem : Str) (h : deviceId ≠ []) :
    deviceIdFromPatternFile stem (deviceId ++ str "-patterns") = deviceId := by
  have hends : (deviceId ++ str "-patterns").endsWith "-patterns" = true :=
    List.isSuffixOf_iff_suffix.mpr (List.suffix_append _ _)
  have hlen : (str "-patterns").length < (deviceId ++ str "-patterns").length := by
    rw [List.length_append]
    have := List.length_pos_iff.mpr h
    omega
  unfold deviceIdFromPatternFile
  rw [hends, decide_eq_true hlen, if_pos (by rfl), List.length_append, Nat.add_sub_cancel]
  exact List.take_left

/-- Protocols that filter alike pass the same requests. -/
theorem protocolMatches_of_filtersAlike {a b : Str} (h : filtersAlike a b = true) (r : Str) :
    protocolMatches r a = protocolMatches r b := by
  simp only [filtersAlike, Bool.or_eq_true, beq_iff_eq, Bool.and_eq_true, List.contains_iff_mem] at h
  rcases h with rfl | ⟨ha, hb⟩
  · rfl
  · have hhttp : ∀ c ∈ ["http", "https"].map str,
        protocolMatches r c = (r.isEmpty || (["http", "https"].map str).contains r) := by
      intro c hc
      have hempty : c.isEmpty = false := by
        revert c
        decide
      have hcontains : (["http", "https"].map str).contains c = true := by
        rwa [List.contains_iff_mem]
      unfold protocolMatches
      rw [hempty, hcontains, Bool.or_false, Bool.and_true, Bool.or_assoc]
      by_cases heq : r = c
      · rw [beq_iff_eq.mpr heq, heq, hcontains]
        rfl
      · rw [beq_eq_false_iff_ne.mpr heq]
        rfl
    rw [hhttp a ha, hhttp b hb]

/-- A request protocol that tells two protocols apart which do not filter alike, when the second is named:
    the first passes it and the second does not. -/
theorem exists_separating {a p : Str} (hp : p ≠ []) (h : filtersAlike a p = false) :
    ∃ r, protocolMatches r a = true ∧ protocolMatches r p = false := by
  by_cases ha : a = []
  · refine ⟨cp 'x' :: p, ?_, ?_⟩
    · simp [protocolMatches, ha]
    · have hne : (cp 'x' :: p : Str) ≠ p := by simp
      have hnot : (["http", "https"].map str).contains (cp 'x' :: p) = false := by
        rw [Bool.eq_false_iff, ne_eq, List.contains_iff_mem]
        have hhead : ∀ c ∈ ["http", "https"].map str, c.head? ≠ some (cp 'x') := by decide
        exact fun hmem => hhead _ hmem rfl
      unfold protocolMatches
      rw [hnot, beq_eq_false_iff_ne.mpr hne]
      simp [hp]
  · refine ⟨a, ?_, ?_⟩
    · simp [protocolMatches]
    · unfold filtersAlike at h
      unfold protocolMatches
      rw [Bool.or_assoc, h]
      simp [ha, hp]

/-! ## The two documents -/

/-- The command an endpoint is exported as. -/
def commandOf (ep : ClientEndpoint) : Command where
  id := ep.id
  kind := orStr ep.intent ep.id
  protocol := orStr ep.protocol "http"
  method := orStr ep.method "GET"
  path := ep.path
  pathPattern := ep.pathPattern
  headers := ep.headers
  queryParams := ep.queryParams
  bodySchema := ep.bodySchema

/-- Both exports read a pattern row alike. -/
theorem exportCommand_eq (pat : RequestPattern) : exportCommand pat = (exportEndpoint pat).map commandOf := by
  unfold exportCommand exportEndpoint
  cases toStrList (pat.requiredHeaders.orElse (.arr [])) with
  | error e => rfl
  | ok headers =>
    cases toStrList (pat.queryParamKeys.orElse (.arr [])) with
    | error e => rfl
    | ok query => cases toOptDict (pat.bodySchema.orElse .null) <;> rfl

/-- The columns of a row an endpoint was exported from. -/
theorem exportEndpoint_fields {pat : RequestPattern} {ep : ClientEndpoint} (h : exportEndpoint pat = .ok ep) :
    ep.method = pat.method ∧ ep.protocol = pat.protocol ∧ ep.path = ep.pathPattern ∧ ep.headers ≠ [] := by
  unfold exportEndpoint at h
  obtain ⟨headers, _, h⟩ := Except.bind_ok_iff.mp h
  obtain ⟨query, _, h⟩ := Except.bind_ok_iff.mp h
  obtain ⟨schema, _, h⟩ := Except.bind_ok_iff.mp h
  cases h
  exact ⟨rfl, rfl, rfl, List.cons_ne_nil _ _⟩

/-- Both exports read a template alike, but for the triggers. -/
theorem exportResponse_eq (triggers triggers' : RequestPattern → List Str) (db : DeviceDb) (pat : RequestPattern) :
    exportResponse triggers' db pat =
      (exportResponse triggers db pat).map (Option.map fun resp => { resp with triggers := triggers' pat }) := by
  unfold exportResponse
  cases db.templateOf pat.patternId with
  | none => rfl
  | some tmpl =>
    dsimp only
    unfold exportTemplate
    cases (db.mappingsOf pat.intent).mapM schemaMapping with
    | error e => rfl
    | ok fms =>
      cases toStrDict (tmpl.headersTemplate.orElse (.obj [])) with
      | error e => rfl
      | ok headers => cases toDict (tmpl.bodyTemplate.orElse (.obj [])) <;> rfl

/-- An exported response has the triggers of its pattern. -/
theorem exportResponse_triggers {triggers : RequestPattern → List Str} {db : DeviceDb} {pat : RequestPattern}
    {resp : ServerResponse} (h : exportResponse triggers db pat = .ok (some resp)) : resp.triggers = triggers pat := by
  have hsame := exportResponse_eq triggers triggers db pat
  rw [h] at hsame
  exact congrArg ServerResponse.triggers (Option.some.inj (Except.ok.inj hsame))

/-- Responses that differ in their triggers only. -/
def SameResponse (resp resp' : ServerResponse) : Prop := resp' = { resp with triggers := resp'.triggers }

/-- The same response is found by a trigger that both lists have alike. -/
theorem find?_sameResponse {resps resps' : List (Option ServerResponse)} {trigger : Str}
    (h : List.Forall₂ (Option.Rel fun resp resp' => SameResponse resp resp' ∧
      resp.triggers.contains trigger = resp'.triggers.contains trigger) resps resps') :
    Option.Rel SameResponse (resps.reduceOption.find? fun resp => resp.triggers.contains trigger)
      (resps'.reduceOption.find? fun resp => resp.triggers.contains trigger) := by
  induction h with
  | nil => exact .none
  | cons hhead _ ih =>
    cases hhead with
    | none =>
      rw [List.reduceOption_cons_of_none, List.reduceOption_cons_of_none]
      exact ih
    | @some resp resp' hsame =>
      rw [List.reduceOption_cons_of_some, List.reduceOption_cons_of_some, List.find?_cons, List.find?_cons, ← hsame.2]
      cases resp.triggers.contains trigger with
      | true => exact .some hsame.1
      | false => exact ih

/-- The response of an endpoint is the same in both documents: only an empty intent is looked up under
    another name, and under that name the id has been tried. -/
theorem responseForEndpoint_sameResponse {map map' : Dict Str ServerResponse}
    (h : ∀ trigger ≠ [], Option.Rel SameResponse (map.get? trigger) (map'.get? trigger)) (id intent : Str) :
    Option.Rel SameResponse (responseForEndpoint map id intent) (responseForEndpoint map' id (orStr intent id)) := by
  by_cases hid : id = []
  · have horStr : orStr intent id = intent := by
      rw [hid]
      cases intent <;> rfl
    have hempty : ∀ map : Dict Str ServerResponse, responseForEndpoint map [] intent =
        if intent ≠ [] then map.get? intent else none := fun map => if_neg fun h => h.1 rfl
    rw [horStr, hid, hempty, hempty]
    by_cases hintent : intent = []
    · rw [if_neg (not_not.mpr hintent), if_neg (not_not.mpr hintent)]
      exact .none
    · rw [if_pos hintent, if_pos hintent]
      exact h intent hintent
  · have hrel := h id hid
    by_cases hintent : intent = []
    · subst hintent
      show Option.Rel SameResponse (responseForEndpoint map id []) (responseForEndpoint map' id id)
      rw [responseForEndpoint_eq map' hid hid]
      unfold responseForEndpoint Dict.has
      rw [if_neg (c := ([] : Str) ≠ []) (by simp)]
      generalize map.get? id = found at hrel ⊢
      generalize map'.get? id = found' at hrel ⊢
      cases hrel with
      | none =>
        rw [if_neg (fun hhas => nomatch hhas.2), Option.none_or]
        exact .none
      | some hsame => simpa [hid] using Option.Rel.some hsame
    · rw [orStr_of_ne hintent, responseForEndpoint_eq map hid hintent, responseForEndpoint_eq map' hid hintent]
      have hrel' := h intent hintent
      generalize map.get? id = found at hrel ⊢
      generalize map'.get? id = found' at hrel ⊢
      cases hrel with
      | none =>
        rw [Option.none_or, Option.none_or]
        exact hrel'
      | some hsame => exact .some hsame

/-! ## The two sets in memory -/

/-- A live compiled endpoint and the loaded one of the same row, when the header speaks `protocol`. -/
def SameRow (protocol : Str) (c c' : CompiledEndpoint) : Prop :=
  c'.endpoint.id = c.endpoint.id ∧ c'.target = { c.target with method := orStr c.target.method "GET" } ∧
    c'.protocol = protocol ∧ c'.intent = orStr c.intent c.endpoint.id

theorem sameRow_compile {pat : RequestPattern} {ep : ClientEndpoint} (protocol : Str)
    (h : exportEndpoint pat = .ok ep) :
    SameRow protocol (compileEndpoint ep) (compileEndpoint ((commandOf ep).toEndpoint protocol)) := by
  obtain ⟨_, _, hpath, hheaders⟩ := exportEndpoint_fields h
  have hmethod : orStr (orStr ep.method "GET") "GET" = orStr ep.method "GET" := by cases ep.method <;> rfl
  have hpattern : orStr (orStr ep.pathPattern (orStr ep.path [])) (orStr ep.path (orStr ep.pathPattern [])) =
      orStr ep.pathPattern ep.path := by
    rw [hpath]
    cases ep.pathPattern <;> rfl
  have hsame : (if ep.headers.isEmpty then [(str "required", [])] else ep.headers) = ep.headers := by
    cases hcase : ep.headers with
    | nil => exact absurd hcase hheaders
    | cons kv kvs => rfl
  refine ⟨rfl, ?_, rfl, rfl⟩
  show PatternTarget.mk (orStr (orStr ep.method "GET") "GET")
      (orStr (orStr ep.pathPattern (orStr ep.path [])) (orStr ep.path (orStr ep.pathPattern [])))
      (ofStrList ((Dict.get? (if ep.headers.isEmpty then [(str "required", [])] else ep.headers)
        (str "required")).getD [])) _ _ = _
  rw [hmethod, hpattern, hsame]
  rfl

/-- **What is loaded, against what is live**: the same rows, and the same responses by trigger. -/
theorem loaded_sameRows {doc : PatternDB} {model : DeviceModel} {config : List StateVariable × List VirtualSensor}
    (hdoc : exportPatterns deviceId vendor deviceType config device.db = .ok doc)
    (hmodel : exportDeviceModel deviceId vendor deviceType applied device = .ok model) :
    List.Forall₂ (SameRow (headerProtocol device)) (applyPatternDb doc).compiled
        (applyPatternDb model.toPatternDb).compiled ∧
      ∀ trigger ≠ [], Option.Rel SameResponse ((applyPatternDb doc).triggerMap.get? trigger)
        ((applyPatternDb model.toPatternDb).triggerMap.get? trigger) := by
  unfold exportPatterns at hdoc
  obtain ⟨eps, heps, hdoc⟩ := Except.bind_ok_iff.mp hdoc
  obtain ⟨resps, hresps, hdoc⟩ := Except.bind_ok_iff.mp hdoc
  cases hdoc
  unfold exportDeviceModel at hmodel
  obtain ⟨cmds, hcmds, hmodel⟩ := Except.bind_ok_iff.mp hmodel
  obtain ⟨resps', hresps', hmodel⟩ := Except.bind_ok_iff.mp hmodel
  cases hmodel
  have hrows := Except.forall₂_of_mapM heps
  have hrows' := Except.forall₂_of_mapM hcmds
  have hreps := Except.forall₂_of_mapM hresps
  have hreps' := Except.forall₂_of_mapM hresps'
  constructor
  · show List.Forall₂ _ (eps.map compileEndpoint)
      ((cmds.map (Command.toEndpoint (headerProtocol device))).map compileEndpoint)
    rw [List.map_map, List.forall₂_map_left_iff, List.forall₂_map_right_iff]
    refine hrows.common_left hrows' fun pat ep cmd hep hcmd => ?_
    rw [exportCommand_eq, hep] at hcmd
    cases hcmd
    exact sameRow_compile _ hep
  · intro trigger htrigger
    show Option.Rel _ ((responsesByTrigger resps.reduceOption).get? trigger)
      ((responsesByTrigger resps'.reduceOption).get? trigger)
    rw [get?_responsesByTrigger, get?_responsesByTrigger]
    refine find?_sameResponse (hreps.common_left hreps' fun pat resp resp' hresp hresp' => ?_)
    rw [exportResponse_eq patternTriggers, hresp] at hresp'
    cases hresp'
    cases resp with
    | none => exact .none
    | some r =>
      refine .some ⟨rfl, ?_⟩
      rw [exportResponse_triggers hresp, contains_patternTriggers]
      exact (contains_commandTriggers htrigger pat).symm

/-! ## Serving alike -/

/-- Rows that are matched alike: the same target under the same filter. -/
def MatchedAlike (protocol : Str) (c c' : CompiledEndpoint) : Prop :=
  SameRow protocol c c' ∧ c.target.method ≠ [] ∧ filtersAlike c.protocol protocol = true

theorem MatchedAlike.target {protocol : Str} {c c' : CompiledEndpoint} (h : MatchedAlike protocol c c') :
    c'.target = c.target := by
  rw [h.1.2.1, orStr_of_ne h.2.1]

/-- The shortcuts, the filter and the scores of the two walks agree. -/
theorem walks_alike (map map' : Dict Str ServerResponse) (protocol : Str) (call : MatchCall) :
    (shortcuts (compiledCandidate map) call).Alike (shortcuts (compiledCandidate map') call)
      (compatible (compiledCandidate map) call) (compatible (compiledCandidate map') call)
      (MatchedAlike protocol) where
  stop _ := rfl
  skip r c c' h := by
    show (decide (7 / 10 ≤ r) && c.target.method != call.method) = _
    rw [← h.target]
    rfl
  admits c c' h := by
    show protocolMatches call.protocol c.protocol = protocolMatches call.protocol c'.protocol
    rw [h.1.2.2.1, protocolMatches_of_filtersAlike h.2.2]
  estimate r c c' h := by
    show calculateSimilarity c.target _ r = _
    rw [← h.target]
    rfl

/-- Responses that differ in their triggers only answer alike. -/
theorem SameResponse.alike {resp resp' : ServerResponse} (h : SameResponse resp resp') :
    Template.Alike (.response resp) (.response resp') := by
  rw [h]
  exact ⟨rfl, rfl⟩

/-- **Sets that match alike and have the same responses serve alike.** -/
theorem serve_alike {live loaded : CachedPatterns} {protocol : Str}
    (hrows : List.Forall₂ (MatchedAlike protocol) live.compiled loaded.compiled)
    (hresps : ∀ trigger ≠ [], Option.Rel SameResponse (live.triggerMap.get? trigger)
      (loaded.triggerMap.get? trigger))
    (H : Host) (tables : PatternTables) (call : MatchCall) (request : Json) (store : DeviceStateStore) :
    serve H (some live) tables call request store = serve H (some loaded) tables call request store := by
  have hfetch : ∀ c c', MatchedAlike protocol c c' →
      Except.Rel (Option.Rel SameResponse) ((compiledCandidate live.triggerMap).fetch c)
        ((compiledCandidate loaded.triggerMap).fetch c') := by
    intro c c' h
    show Except.Rel _ (.ok (responseForEndpoint _ c.endpoint.id c.intent))
      (.ok (responseForEndpoint _ c'.endpoint.id c'.intent))
    rw [h.1.1, h.1.2.2.2]
    exact .ok (responseForEndpoint_sameResponse hresps _ _)
  have hrel : Except.Rel MatchResult.Alike (findBestMatch (some live) tables call)
      (findBestMatch (some loaded) tables call) := by
    unfold findBestMatch
    refine Except.Rel.map (prunedScan_rel (T := fun _ _ r r' => Option.Rel SameResponse r r')
      (walks_alike _ _ protocol call) hfetch hrows ⟨rfl, .none⟩) fun b b' hbest => ?_
    obtain ⟨hscore, hfound⟩ := hbest
    unfold endpointResult MatchResult.Alike MatchResult.selection
    rw [hscore]
    generalize b.found = f at hfound
    generalize b'.found = f' at hfound
    cases hfound with
    | none => exact ⟨rfl, .none⟩
    | @some p p' hp =>
      obtain ⟨hmatched, htemplate⟩ := hp
      constructor
      · show (some p.1.endpoint.id, b'.score) = (some p'.1.endpoint.id, b'.score)
        rw [hmatched.1.1]
      · show Option.Rel Template.Alike (p.2.map .response) (p'.2.map .response)
        generalize p.2 = t at htemplate
        generalize p'.2 = t' at htemplate
        cases htemplate with
        | none => exact .none
        | some hsame => exact .some hsame.alike
  unfold serve
  generalize findBestMatch (some live) tables call = x at hrel
  generalize findBestMatch (some loaded) tables call = y at hrel
  cases hrel with
  | error e => rfl
  | @ok r r' hab =>
    show (pure r >>= fun r => answer H r request store) = (pure r' >>= fun r => answer H r request store)
    rw [pure_bind, pure_bind, answer_eq hab]

/-! ## A pattern that is filtered out -/

/-- A candidate of the request's method scores. -/
theorem calculateSimilarity_pos {t : PatternTarget} {r : RequestInput} {s : ℚ} (hmethod : r.method = t.method)
    (h : calculateSimilarity t r 0 = .ok s) : 0 < s := by
  have hweight := sixty_le_weight t r
  have hpath := (pathSimilarity_mem t.pathPattern r.path).1
  have hscore : 30 ≤ methodPathScore t r := by
    unfold methodPathScore
    rw [if_pos hmethod]
    linarith
  have hpos : 0 < (methodPathScore t r + (weight t r - 60)) / weight t r := div_pos (by linarith) (by linarith)
  unfold calculateSimilarity at h
  dsimp only at h
  rw [if_neg (not_le.mpr hpos)] at h
  obtain ⟨score, hadd, rfl⟩ := Except.map_ok_iff.mp h
  obtain ⟨ds, hds⟩ := remainingDims_of_addRemaining hadd
  obtain ⟨hvalid, _, hsum⟩ := remainingDims_ok hds
  rw [hsum] at hadd
  cases hadd
  have hgained := hvalid.gained_nonneg
  exact div_pos (by linarith) (by linarith)

/-- Serving from memory is answering what the walk over the endpoints found. -/
theorem serve_cached {cached : CachedPatterns} {call : MatchCall} {H : Host} {tables : PatternTables} {request : Json}
    {store : DeviceStateStore} {b : Best ℚ CompiledEndpoint (Option ServerResponse)}
    (h : matchLoop (compiledCandidate cached.triggerMap) cached.compiled call = .ok b) :
    serve H (some cached) tables call request store = answer H (endpointResult b) request store := by
  have hmatch : findBestMatch (some cached) tables call = .ok (endpointResult b) := by
    show Except.map endpointResult (matchLoop _ _ _) = _
    rw [h]
    rfl
  unfold serve
  rw [hmatch]
  show (pure (endpointResult b) >>= fun r => answer H r request store) = _
  rw [pure_bind]

/-- What is answered names the pattern that was selected. -/
theorem answer_patternId {H : Host} {r : MatchResult} {request : Json} {store : DeviceStateStore} {served : Served}
    {n n' : Nat} (h : answer H r request store n = .ok (served, n')) : served.patternId = r.pattern.map (·.patternId) := by
  unfold answer at h
  cases htemplate : r.template with
  | none =>
    rw [htemplate] at h
    cases h
    rfl
  | some t =>
    rw [htemplate] at h
    obtain ⟨⟨response, m⟩, _, h⟩ := Except.bind_ok_iff.mp h
    cases h
    rfl

/-- A request that every endpoint is filtered from selects nothing. -/
theorem serve_of_filtered {cached : CachedPatterns} {call : MatchCall}
    (h : ∀ c ∈ cached.compiled, protocolMatches call.protocol c.protocol = false) (H : Host) (tables : PatternTables)
    (request : Json) (store : DeviceStateStore) :
    serve H (some cached) tables call request store = pure ⟨none, 0, none⟩ := by
  have hscan : matchLoop (compiledCandidate cached.triggerMap) cached.compiled call = .ok ⟨0, none⟩ :=
    prunedScan_of_not_admits h
  rw [serve_cached hscan]
  rfl

/-- A bare request of a method and a protocol. -/
def probe (method protocol : Str) : MatchCall where
  method := method
  path := []
  headers := []
  body := .null
  queryParams := []
  protocol := protocol

/-- A request of an endpoint's method and protocol selects something, or raises. -/
theorem serve_ne_of_admitted {cached : CachedPatterns} {call : MatchCall} {c : CompiledEndpoint}
    (hc : c ∈ cached.compiled) (hmethod : call.method = c.target.method)
    (hprotocol : protocolMatches call.protocol c.protocol = true) (H : Host) (tables : PatternTables)
    (request : Json) (store : DeviceStateStore) :
    serve H (some cached) tables call request store ≠ pure ⟨none, 0, none⟩ := by
  intro hserve
  cases hloop : matchLoop (compiledCandidate cached.triggerMap) cached.compiled call with
  | error e =>
    have hraises : serve H (some cached) tables call request store 0 = .error e := by
      show (StateT.lift (Except.map endpointResult (matchLoop _ _ _)) >>= _ : Build Served) 0 = _
      rw [hloop]
      rfl
    rw [hserve] at hraises
    cases hraises
  | ok b =>
    rw [serve_cached hloop] at hserve
    have hfound : b.found = none := by
      have hid := answer_patternId (congrFun hserve 0)
      cases hb : b.found with
      | none => rfl
      | some p =>
        unfold endpointResult at hid
        rw [hb] at hid
        cases hid
    have hskip : (shortcuts (compiledCandidate cached.triggerMap) call).skip 0 c = false := by
      show (decide ((7 : ℚ) / 10 ≤ 0) && _) = false
      rw [decide_eq_false (by norm_num)]
      rfl
    have hstop : (shortcuts (compiledCandidate cached.triggerMap) call).stop 0 = false := by
      show decide ((1 : ℚ) ≤ 0) = false
      exact decide_eq_false (by norm_num)
    obtain ⟨s, hs, hle⟩ := prunedScan_none hloop hfound hstop hc hprotocol hskip
    exact absurd hle (not_le.mpr (calculateSimilarity_pos hmethod hs))

/-! ## A sync that completed -/

/-- What a completed sync serves and writes. -/
theorem exportAndSync_ok (h : exportAndSync F deviceId vendor deviceType applied device = .ok (some (live, text))) :
    exportPatterns deviceId vendor deviceType (stateConfig device.header applied) device.db = .ok live ∧
      ∃ file, portableFile deviceId vendor deviceType applied device live = .ok file ∧ F.load text = some file := by
  unfold exportAndSync at h
  obtain ⟨doc, hdoc, h⟩ := Except.bind_ok_iff.mp h
  split at h
  · cases h
  · obtain ⟨file, hfile, h⟩ := Except.bind_ok_iff.mp h
    split at h
    next written hdump =>
      cases h
      exact ⟨hdoc, file, hfile, F.load_dump file _ hdump⟩
    next => cases h

/-- The documents of a device are named after it. -/
theorem patternId_of_export {config : List StateVariable × List VirtualSensor} {doc : PatternDB}
    (h : exportPatterns deviceId vendor deviceType config device.db = .ok doc) :
    doc.patternMeta.patternId = deviceId ++ str "-patterns" := by
  unfold exportPatterns at h
  obtain ⟨eps, _, h⟩ := Except.bind_ok_iff.mp h
  obtain ⟨resps, _, h⟩ := Except.bind_ok_iff.mp h
  cases h
  rfl

theorem patternId_of_exportModel {model : DeviceModel}
    (h : exportDeviceModel deviceId vendor deviceType applied device = .ok model) :
    model.patternMeta.patternId = deviceId ++ str "-patterns" := by
  unfold exportDeviceModel at h
  obtain ⟨cmds, _, h⟩ := Except.bind_ok_iff.mp h
  obtain ⟨resps, _, h⟩ := Except.bind_ok_iff.mp h
  cases h
  rfl

/-- What a fresh process serves from the file of a named device: the served document itself, or the
    projection of its model. -/
theorem restarted_eq (stem : Str) (hid : deviceId ≠ [])
    (h : exportAndSync F deviceId vendor deviceType applied device = .ok (some (live, text))) :
    (hasHeader device.header = false ∧ restarted F stem deviceId text = some (applyPatternDb live)) ∨
    ∃ model, hasHeader device.header = true ∧
      exportDeviceModel deviceId vendor deviceType applied device = .ok model ∧
      restarted F stem deviceId text = some (applyPatternDb model.toPatternDb) := by
  obtain ⟨hlive, file, hfile, hload⟩ := exportAndSync_ok h
  unfold portableFile at hfile
  unfold restarted
  rw [hload, Option.bind_some]
  split at hfile
  next hheader =>
    obtain ⟨model, hmodel, rfl⟩ := Except.map_ok_iff.mp hfile
    refine .inr ⟨model, hheader, hmodel, if_pos ?_⟩
    show deviceIdFromPatternFile stem model.patternMeta.patternId = deviceId
    rw [patternId_of_exportModel hmodel]
    exact deviceIdFromPatternFile_eq stem hid
  next hheader =>
    cases hfile
    refine .inl ⟨by simpa using hheader, if_pos ?_⟩
    show deviceIdFromPatternFile stem live.patternMeta.patternId = deviceId
    rw [patternId_of_export hlive]
    exact deviceIdFromPatternFile_eq stem hid

/-- A live endpoint has the method and the protocol of its row. -/
theorem live_fields (hlive : exportPatterns deviceId vendor deviceType (stateConfig device.header applied) device.db =
    .ok live) : List.Forall₂ (fun pat (c : CompiledEndpoint) => c.target.method = pat.method ∧ c.protocol = pat.protocol)
      device.db.patterns (applyPatternDb live).compiled := by
  unfold exportPatterns at hlive
  obtain ⟨eps, heps, hlive⟩ := Except.bind_ok_iff.mp hlive
  obtain ⟨resps, _, hlive⟩ := Except.bind_ok_iff.mp hlive
  cases hlive
  show List.Forall₂ _ device.db.patterns (eps.map compileEndpoint)
  rw [List.forall₂_map_right_iff]
  refine (Except.forall₂_of_mapM heps).imp fun pat ep hep => ?_
  obtain ⟨hmethod, hprotocol, _⟩ := exportEndpoint_fields hep
  exact ⟨hmethod, hprotocol⟩

/-- A device that restarts alike keeps its behaviour. -/
theorem keepsBehaviour_of_restartsAlike
    (hsync : exportAndSync F deviceId vendor deviceType applied device = .ok (some (live, text)))
    (halike : RestartsAlike deviceId device) : KeepsBehaviour F stem deviceId live text := by
  intro H tables call request store
  have hlive := (exportAndSync_ok hsync).1
  rcases restarted_eq stem halike.deviceId hsync with
    ⟨_, hrestarted⟩ | ⟨model, hheader, hmodel, hrestarted⟩
  · rw [hrestarted]
  · obtain ⟨hrows, hresps⟩ := loaded_sameRows hlive hmodel
    have hmatched : List.Forall₂ (MatchedAlike (headerProtocol device)) (applyPatternDb live).compiled
        (applyPatternDb model.toPatternDb).compiled := by
      refine hrows.imp_of_mem fun c hc c' hrow => ?_
      obtain ⟨pat, hpat, hmethod, hprotocol⟩ := (live_fields hlive).exists_left hc
      obtain ⟨hne, hfilters⟩ := halike.rows hheader pat hpat
      exact ⟨hrow, hmethod ▸ hne, hprotocol ▸ hfilters⟩
    rw [hrestarted]
    exact serve_alike hmatched hresps H tables call request store

/-- A kept behaviour has patterns that filter like the header's protocol: a request of another one's method
    and protocol is served live and filtered from the whole loaded set. -/
theorem filtersAlike_of_keepsBehaviour
    (hsync : exportAndSync F deviceId vendor deviceType applied device = .ok (some (live, text)))
    (hkeeps : KeepsBehaviour F stem deviceId live text) (hid : deviceId ≠ []) (hheader : hasHeader device.header = true)
    (hp : headerProtocol device ≠ []) :
    ∀ pat ∈ device.db.patterns, filtersAlike pat.protocol (headerProtocol device) = true := by
  intro pat hpat
  have hlive := (exportAndSync_ok hsync).1
  rcases restarted_eq stem hid hsync with ⟨hnone, _⟩ | ⟨model, _, hmodel, hrestarted⟩
  · rw [hheader] at hnone
    cases hnone
  · obtain ⟨hrows, _⟩ := loaded_sameRows hlive hmodel
    obtain ⟨c, hc, hmethod, hprotocol⟩ := (live_fields hlive).exists_right hpat
    by_contra hfilters
    obtain ⟨r, hadmits, hrejects⟩ := exists_separating hp (Bool.eq_false_iff.mpr hfilters)
    have hnothing : ∀ c' ∈ (applyPatternDb model.toPatternDb).compiled,
        protocolMatches (probe c.target.method r).protocol c'.protocol = false := by
      intro c' hc'
      obtain ⟨_, _, hrow⟩ := hrows.exists_left hc'
      rw [hrow.2.2.1]
      exact hrejects
    have hsame := hkeeps asciiHost ⟨[], []⟩ (probe c.target.method r) .null {}
    rw [hrestarted, serve_of_filtered hnothing] at hsame
    exact serve_ne_of_admitted hc rfl (hprotocol ▸ hadmits) _ _ _ _ hsame

end

/-- **A restart keeps the behaviour of a device that restarts alike; and where a model was written under a
    named protocol, every device it keeps has patterns that filter like that protocol.** -/
theorem restart_keeps_behaviour (F : FileFormat) (stem deviceId vendor deviceType : Str)
    (applied : Option (List StateVariable × List VirtualSensor)) (device : Device) (live : PatternDB) (text : F.Text)
    (hsync : exportAndSync F deviceId vendor deviceType applied device = .ok (some (live, text))) :
    (RestartsAlike deviceId device → KeepsBehaviour F stem deviceId live text) ∧
      (KeepsBehaviour F stem deviceId live text → deviceId ≠ [] → hasHeader device.header = true →
        headerProtocol device ≠ [] → ∀ pat ∈ device.db.patterns,
          filtersAlike pat.protocol (headerProtocol device) = true) :=
  ⟨keepsBehaviour_of_restartsAlike hsync, filtersAlike_of_keepsBehaviour hsync⟩

/-- A format whose text is the file itself. -/
def plainFormat : FileFormat where
  Text := PortableFile
  dump := some
  load := some
  load_dump := fun _ _ h => h.symm ▸ rfl

/-- A device with two patterns under an HTTP header; the second speaks `protocol`. -/
def bridge (protocol : Str) : Device where
  db :=
    { patterns :=
        [{ newPattern "p1" with method := "GET", pathPattern := "/state", protocol := "http", intent := "read" },
         { newPattern "p2" with method := "PUT", pathPattern := "/state", protocol := protocol, intent := "write" }] }
  header := some { protocols := ["http"] }

/-- A sync of the bridge completes. -/
theorem bridge_synced (protocol : Str) (h : (match exportAndSync plainFormat "dev" "acme" "bridge" none (bridge protocol) with
      | .ok (some _) => true
      | _            => false) = true) :
    ∃ live text, exportAndSync plainFormat "dev" "acme" "bridge" none (bridge protocol) = .ok (some (live, text)) := by
  split at h
  next p hp => exact ⟨p.1, p.2, hp⟩
  next => cases h

/-- A bridge that speaks HTTP and HTTPS behaves after a restart as before. -/
theorem httpsBridge_kept : ∃ live text,
    exportAndSync plainFormat "dev" "acme" "bridge" none (bridge "https") = .ok (some (live, text)) ∧
      KeepsBehaviour plainFormat "stem" "dev" live text := by
  obtain ⟨live, text, hsync⟩ := bridge_synced "https" (by decide +kernel)
  have halike : RestartsAlike "dev" (bridge "https") := ⟨by decide, fun _ => by decide +kernel⟩
  exact ⟨live, text, hsync, (restart_keeps_behaviour plainFormat "stem" "dev" "acme" "bridge" none (bridge "https") live
    text hsync).1 halike⟩

/-- A bridge that also speaks MQTT loses that pattern to its header. -/
theorem mqttBridge_lost : ¬ ∀ (F : FileFormat) (stem deviceId vendor deviceType : Str)
    (applied : Option (List StateVariable × List VirtualSensor)) (device : Device) (live : PatternDB) (text : F.Text),
    deviceId ≠ [] → device.db.patterns ≠ [] →
      exportAndSync F deviceId vendor deviceType applied device = .ok (some (live, text)) →
        KeepsBehaviour F stem deviceId live text := by
  intro h
  obtain ⟨live, text, hsync⟩ := bridge_synced "mqtt" (by decide +kernel)
  have hkeeps := h plainFormat "stem" "dev" "acme" "bridge" none (bridge "mqtt") live text (by decide) (by decide) hsync
  have hfilters := filtersAlike_of_keepsBehaviour hsync hkeeps (by decide) (by decide) (by decide)
  exact absurd hfilters (by decide)

end RideTheApi.Restart
