import RideTheApi.Engine.Similarity
import RideTheApi.Lib.Transition
import RideTheApi.PatternDb.DeviceModel

/-!
# `Pipeline.HeaderProtocol` — the ingress decision a learning cycle writes into the header

The first flush derives the header of a device from the analysis (`_persist_device_meta`); a later delta
may fill in what is still undecided. On every request the TLS listener resolves the protocol it passes to
the matcher through that header, and the matcher compares it with the protocol of each pattern. A header
mode outside the HTTP family therefore hides every pattern the same ingress learned.
-/

namespace RideTheApi.HeaderProtocol

open Py PatternDb Engine Transition

/-! ## The header of a first flush -/

/-- What the registry knows of a device. -/
structure DeviceRegistry where
  vendor : Str
  deviceType : Str
deriving Repr, DecidableEq

/-- `analysis.get(key)`. -/
def answer (analysis : Dict Str Json) (key : Str) : Json := (Dict.get? analysis key).getD .null

/-- The whitelisted protocol token of any value. -/
def protocolOf (I : Interp) : Json → Option Str
  | .str s => normalizeProtocol I s
  | _      => none

/-- The whitelisted connection mode of any value. -/
def connectionModeOf (I : Interp) : Json → Option Str
  | .str s => normalizeConnectionMode I s
  | _      => none

/-- The structured identification of an analysis, when there is one that validates. -/
def protocolInfo (validateInfo : Dict Str Json → Option ProtocolInfo) (analysis : Dict Str Json) :
    Option ProtocolInfo :=
  match answer analysis "protocol_info" with
  | .obj fields => validateInfo fields
  | _           => none

/-- The protocols of the structured `client` shape; a `client` that is no object raises. -/
def clientProtocols (analysis : Dict Str Json) : Result Json :=
  match (answer analysis "client").orElse (.obj []) with
  | .obj client => .ok ((answer client "protocols").orElse (.arr []))
  | _           => .error .attributeError

/-- A flat `protocols` answer, else the protocol of the identification. -/
def flatProtocols (info : Option ProtocolInfo) (analysis : Dict Str Json) : Json :=
  match info with
  | some info =>
    (answer analysis "protocols").orElse (if info.protocol.isEmpty then .null else .arr [.str info.protocol])
  | none      => answer analysis "protocols"

/-- What an analysis reports as protocols. -/
def reportedProtocols (info : Option ProtocolInfo) (analysis : Dict Str Json) : Result Json :=
  if (flatProtocols info analysis).truthy then .ok (flatProtocols info analysis) else clientProtocols analysis

/-- The whitelisted protocols of what was reported. -/
def keptProtocols (I : Interp) : Json → List Str
  | .str s  => (protocolOf I (.str s)).toList
  | .arr xs => xs.filterMap (protocolOf I)
  | _       => []

/-- What an analysis names as the ingress mode: its own answer, the suggested handler, else the first
    protocol. -/
def namedMode (info : Option ProtocolInfo) (protocols : List Str) (analysis : Dict Str Json) : Json :=
  let mode := (answer analysis "connection_mode").orElse ((info.map fun info => .str info.handler).getD .null)
  if mode.truthy then mode else .str (protocols.headD "auto")

/-- The header a first flush writes. -/
def flushedHeader (I : Interp) (device : DeviceRegistry) (info : Option ProtocolInfo) (protocols : List Str)
    (analysis : Dict Str Json) : DeviceMeta :=
  let known := info.getD {}
  { vendor := orStr device.vendor "unknown"
    deviceType := orStr device.deviceType "unknown"
    model := known.identity
    protocols := if protocols.isEmpty then [[]] else protocols
    connectionMode := (connectionModeOf I (namedMode info protocols analysis)).getD "auto"
    transport := known.transport
    security := known.security
    proprietary := known.proprietary
    identity := known.identity
    ports := known.ports
    confidence := if floatTruthy known.confidence then known.confidence else 0 }

/-- `_persist_device_meta`: the stored header, or the exception that reaches the cycle. -/
def persistDeviceMeta (I : Interp) (validateInfo : Dict Str Json → Option ProtocolInfo) (device : DeviceRegistry)
    (analysis : Dict Str Json) : Result DeviceMeta :=
  let info := protocolInfo validateInfo analysis
  (reportedProtocols info analysis).map fun reported =>
    (flushedHeader I device info (keptProtocols I reported) analysis).validate I

/-! ## Learning cycles -/

/-- One learning cycle: the analysis, the device model it validates to as a delta (none when it is not one),
    and which of its steps went through. -/
structure Flush where
  analysis : Dict Str Json
  delta : Option DeviceModel
  mergeStored : Bool
  patternsSaved : Bool
  headerStored : Bool
deriving Repr, DecidableEq

/-- The header after the patterns of a cycle were saved: a delta writes it before any row. -/
def savedHeader (I : Interp) (flush : Flush) (header : Option DeviceMeta) : Option DeviceMeta :=
  match flush.delta with
  | some model => if flush.mergeStored then some ((mergedHeader I model (header.getD {})).validate I) else header
  | none       => header

/-- The header after a cycle: the first flush derives it, a later one leaves it to the delta. -/
def learnedHeader (I : Interp) (validateInfo : Dict Str Json → Option ProtocolInfo) (device : DeviceRegistry)
    (flush : Flush) (header : Option DeviceMeta) : Option DeviceMeta :=
  match header, persistDeviceMeta I validateInfo device flush.analysis with
  | none, .ok stored =>
    if flush.patternsSaved && flush.headerStored then some stored else savedHeader I flush header
  | _, _             => savedHeader I flush header

/-- A cycle as a step of the header. -/
def flushStep (I : Interp) (validateInfo : Dict Str Json → Option ProtocolInfo) (device : DeviceRegistry)
    (header : Option DeviceMeta) (flush : Flush) : Option (Option DeviceMeta) :=
  some (learnedHeader I validateInfo device flush header)

/-- A merge writes the header `savedHeader` says. -/
theorem mergeDeviceModel_header (I : Interp) (pathDigest : Str → Result Str) (deviceId : Str) (model : DeviceModel)
    (device : Device) (flush : Flush) (hdelta : flush.delta = some model) (hstored : flush.mergeStored = true) :
    (mergeDeviceModel I pathDigest deviceId model device).1.header = savedHeader I flush device.header := by
  unfold savedHeader
  rw [hdelta]
  dsimp only
  rw [if_pos hstored]
  unfold mergeDeviceModel
  dsimp only
  split <;> rfl

/-! ## The protocol of a request -/

/-- The operational protocol of a device: the per-address override, else the stored mode, else what the
    ingress speaks. The stored mode is checked again on read. -/
def resolveDeviceProtocol (I : Interp) (connection : Str) (header : Option DeviceMeta) (ingressDefault : Str) :
    Str :=
  if connection ≠ [] ∧ connection ≠ str "auto" then connection
  else
    match header.bind fun m => normalizeConnectionMode I m.connectionMode with
    | some mode => if mode = str "auto" then ingressDefault else mode
    | none      => ingressDefault

/-- The HTTP ingresses. -/
inductive HttpIngress where
  | proxyRoute
  | tlsListener
deriving Repr, DecidableEq

namespace HttpIngress

/-- The protocol an ingress speaks. -/
def ingressDefault : HttpIngress → Str
  | proxyRoute  => "http"
  | tlsListener => "https"

/-- The protocol an ingress passes to the matcher: the proxy route never resolves it. -/
def passedProtocol (I : Interp) (connection : Str) (header : Option DeviceMeta) : HttpIngress → Str
  | proxyRoute  => "http"
  | tlsListener => resolveDeviceProtocol I connection header (ingressDefault tlsListener)

end HttpIngress

/-- The protocols of one family. -/
def httpProtocols : List Str := ["http", "https"].map str

/-- A device serves what it learned: a pattern captured over HTTP or TLS stays compatible with the resolved
    protocol and with the one the ingress passes. -/
def ServesOwnPatterns (I : Interp) (connection : Str) (header : Option DeviceMeta) : Prop :=
  ∀ (ingress : HttpIngress) (pat : RequestPattern), pat.protocol ∈ httpProtocols →
    protocolMatches (resolveDeviceProtocol I connection header ingress.ingressDefault) pat.protocol = true ∧
    protocolMatches (ingress.passedProtocol I connection header) pat.protocol = true

/-- An ingress mode that keeps to the HTTP family: none, undecided or `http`. -/
def httpMode (mode : Option Str) : Bool := mode.all fun mode => mode == str "auto" || mode == str "http"

/-- What a cycle names as the ingress mode, where it decides it, keeps to the HTTP family: the analysis of a
    first flush that is stored, else the delta while the header is undecided. -/
def namesHttp (I : Interp) (validateInfo : Dict Str Json → Option ProtocolInfo) (header : Option DeviceMeta)
    (flush : Flush) : Bool :=
  let info := protocolInfo validateInfo flush.analysis
  let named := flush.delta.all fun model =>
    !flush.mergeStored || model.protocol.protocol.isEmpty ||
      orStr (header.getD {}).connectionMode "auto" != str "auto" ||
      httpMode (normalizeConnectionMode I model.protocol.handler)
  match header, reportedProtocols info flush.analysis with
  | none, .ok reported =>
    if flush.patternsSaved && flush.headerStored then
      httpMode (connectionModeOf I (namedMode info (keptProtocols I reported) flush.analysis))
    else named
  | _, _ => named

/-! ## Compatibility and the resolved mode -/

section
variable {I : Interp} {validateInfo : Dict Str Json → Option ProtocolInfo} {device : DeviceRegistry}
  {connection : Str} {header : Option DeviceMeta} {flush : Flush}

/-- The mode read back from the header keeps to the HTTP family. -/
def httpHeader (I : Interp) (header : Option DeviceMeta) : Bool :=
  httpMode (header.bind fun m => normalizeConnectionMode I m.connectionMode)

/-- A request protocol that is not empty is compatible with the HTTP patterns iff it is in the family. -/
theorem matches_http_iff {protocol : Str} (hne : protocol ≠ []) :
    (∀ pat : RequestPattern, pat.protocol ∈ httpProtocols → protocolMatches protocol pat.protocol = true) ↔
      protocol ∈ httpProtocols := by
  constructor
  · intro h
    have hhttp := h { newPattern [] with protocol := str "http" } (by decide)
    simp only [protocolMatches, Bool.or_eq_true, Bool.and_eq_true, List.isEmpty_iff, beq_iff_eq,
      List.contains_iff_mem] at hhttp
    rcases hhttp with ((hempty | hempty) | heq) | hmem
    · exact absurd hempty hne
    · exact absurd hempty (by decide)
    · exact heq ▸ (by decide)
    · exact hmem.1
  · intro h pat hpat
    simp only [protocolMatches, Bool.or_eq_true, Bool.and_eq_true, List.contains_iff_mem]
    exact .inr ⟨h, hpat⟩

theorem ingressDefault_http (ingress : HttpIngress) : ingress.ingressDefault ∈ httpProtocols := by
  cases ingress <;> decide

theorem nil_notMem_safeConnectionModes : [] ∉ safeConnectionModes := by decide

/-- The resolved protocol of an undecided device, by its header. -/
theorem resolve_of_undecided (I : Interp) (header : Option DeviceMeta)
    (h : connection = [] ∨ connection = str "auto") (ingressDefault : Str) :
    resolveDeviceProtocol I connection header ingressDefault =
      match header.bind fun m => normalizeConnectionMode I m.connectionMode with
      | some mode => if mode = str "auto" then ingressDefault else mode
      | none      => ingressDefault := by
  unfold resolveDeviceProtocol
  rw [if_neg]
  rcases h with rfl | rfl <;> simp

/-- **Without an override, a device serves its patterns iff its header keeps to the HTTP family.** -/
theorem servesOwnPatterns_iff_httpHeader (h : connection = [] ∨ connection = str "auto") :
    ServesOwnPatterns I connection header ↔ httpHeader I header = true := by
  have hresolve := fun d => resolve_of_undecided I header h d
  have hsafe : ∀ mode, (header.bind fun m => normalizeConnectionMode I m.connectionMode) = some mode →
      mode ∈ safeConnectionModes := by
    intro mode hmode
    obtain ⟨m, _, hm⟩ := Option.bind_eq_some_iff.mp hmode
    exact normalizeConnectionMode_safe hm
  unfold httpHeader
  generalize (header.bind fun m => normalizeConnectionMode I m.connectionMode) = read at hresolve hsafe
  constructor
  · intro hserves
    cases read with
    | none => rfl
    | some mode =>
      by_cases hauto : mode = str "auto"
      · subst hauto
        rfl
      · have hmem : mode ∈ httpProtocols := by
          refine (matches_http_iff fun hnil => nil_notMem_safeConnectionModes (hnil ▸ hsafe mode rfl)).mp ?_
          intro pat hpat
          have hpassed := (hserves .tlsListener pat hpat).1
          rw [hresolve] at hpassed
          dsimp only at hpassed
          rwa [if_neg hauto] at hpassed
        -- the header modes and the HTTP family only share `http`
        have hshared : ∀ mode ∈ safeConnectionModes, mode ∈ httpProtocols → httpMode (some mode) = true := by
          decide
        exact hshared mode (hsafe mode rfl) hmem
  · intro hmode ingress pat hpat
    have hresolved : ∀ d ∈ httpProtocols, resolveDeviceProtocol I connection header d ∈ httpProtocols := by
      intro d hd
      rw [hresolve]
      cases read with
      | none => exact hd
      | some mode =>
        dsimp only
        simp only [httpMode, Option.all_some, Bool.or_eq_true, beq_iff_eq] at hmode
        rcases hmode with rfl | rfl
        · rw [if_pos rfl]
          exact hd
        · rw [if_neg (by decide)]
          decide
    have hmatches : ∀ protocol ∈ httpProtocols, protocolMatches protocol pat.protocol = true := fun protocol hp =>
      (matches_http_iff fun hnil => absurd (hnil ▸ hp) (by decide)).mpr hp pat hpat
    refine ⟨hmatches _ (hresolved _ (ingressDefault_http ingress)), ?_⟩
    cases ingress with
    | proxyRoute => exact hmatches (str "http") (by decide)
    | tlsListener => exact hmatches _ (hresolved _ (by decide))

/-- With an override, the header is not consulted: the override alone decides. -/
theorem servesOwnPatterns_of_override (hne : connection ≠ []) (hauto : connection ≠ str "auto") :
    ServesOwnPatterns I connection header ↔ connection ∈ httpProtocols := by
  have hresolve : ∀ d, resolveDeviceProtocol I connection header d = connection := fun d => if_pos ⟨hne, hauto⟩
  constructor
  · intro h
    refine (matches_http_iff hne).mp fun pat hpat => ?_
    have hserves := (h .tlsListener pat hpat).1
    rwa [hresolve] at hserves
  · intro h ingress pat hpat
    refine ⟨?_, ?_⟩
    · rw [hresolve]
      exact (matches_http_iff hne).mpr h pat hpat
    · cases ingress with
      | proxyRoute =>
        have hhttp : str "http" ∈ httpProtocols := by decide
        exact (matches_http_iff (by decide)).mpr hhttp pat hpat
      | tlsListener =>
        show protocolMatches (resolveDeviceProtocol I connection header _) pat.protocol = true
        rw [hresolve]
        exact (matches_http_iff hne).mpr h pat hpat

/-! ## What one cycle does to the mode -/

/-- A stored mode reads back as the family of the mode that was named. -/
theorem httpMode_whitelisted (value : Str) :
    httpMode (normalizeConnectionMode I (whitelistedConnectionMode I value)) =
      httpMode (normalizeConnectionMode I value) := by
  rw [normalizeConnectionMode_self whitelistedConnectionMode_safe]
  unfold whitelistedConnectionMode
  cases normalizeConnectionMode I value with
  | none => rfl
  | some mode => rfl

/-- A validated header reads back as the mode it was given. -/
theorem httpHeader_validate (m : DeviceMeta) :
    httpHeader I (some (m.validate I)) = httpMode (normalizeConnectionMode I m.connectionMode) := by
  unfold httpHeader
  rw [Option.bind_some]
  exact httpMode_whitelisted m.connectionMode

/-- A mode that was whitelisted once, or the undecided one, is whitelisted as itself. -/
theorem httpMode_named (value : Json) :
    httpMode (normalizeConnectionMode I ((connectionModeOf I value).getD "auto")) =
      httpMode (connectionModeOf I value) := by
  cases hmode : connectionModeOf I value with
  | none =>
    rw [Option.getD_none, normalizeConnectionMode_self (by decide)]
    rfl
  | some mode =>
    have hsafe : mode ∈ safeConnectionModes := by
      cases value <;> first | cases hmode | exact normalizeConnectionMode_safe hmode
    rw [Option.getD_some, normalizeConnectionMode_self hsafe]

/-- The mode of a merged header: the delta's while the header is undecided. -/
theorem mergedHeader_httpMode (model : DeviceModel) {current : DeviceMeta}
    (h : httpMode (normalizeConnectionMode I current.connectionMode) = true) :
    httpMode (normalizeConnectionMode I (mergedHeader I model current).connectionMode) =
      (model.protocol.protocol.isEmpty || orStr current.connectionMode "auto" != str "auto" ||
        httpMode (normalizeConnectionMode I model.protocol.handler)) := by
  unfold mergedHeader
  dsimp only
  cases hprotocol : model.protocol.protocol.isEmpty with
  | true =>
    rw [if_pos rfl, h]
    rfl
  | false =>
    rw [if_neg (by decide), Bool.false_or]
    dsimp only
    cases hmode : normalizeConnectionMode I model.protocol.handler with
    | none =>
      dsimp only
      rw [h]
      exact (Bool.or_true _).symm
    | some mode =>
      dsimp only
      by_cases hundecided : orStr current.connectionMode "auto" = str "auto"
      · rw [if_pos hundecided, hundecided, normalizeConnectionMode_self (normalizeConnectionMode_safe hmode)]
        simp
      · rw [if_neg hundecided, h]
        simp [hundecided]

/-- The header a device without one is read as. -/
theorem httpMode_getD (h : httpHeader I header = true) :
    httpMode (normalizeConnectionMode I (header.getD {}).connectionMode) = true := by
  cases header with
  | none =>
    show httpMode (normalizeConnectionMode I (str "auto")) = true
    rw [normalizeConnectionMode_self (by decide)]
    rfl
  | some m => exact h

/-- The mode after the patterns of a cycle were saved. -/
theorem httpHeader_saved (flush : Flush) (h : httpHeader I header = true) :
    httpHeader I (savedHeader I flush header) = flush.delta.all fun model =>
      !flush.mergeStored || model.protocol.protocol.isEmpty ||
        orStr (header.getD {}).connectionMode "auto" != str "auto" ||
        httpMode (normalizeConnectionMode I model.protocol.handler) := by
  unfold savedHeader
  cases hdelta : flush.delta with
  | none => exact h
  | some model =>
    dsimp only
    rw [Option.all_some]
    cases hstored : flush.mergeStored with
    | false =>
      rw [if_neg (by decide), h]
      rfl
    | true =>
      rw [if_pos rfl, httpHeader_validate, mergedHeader_httpMode model (httpMode_getD h)]
      rfl

/-- The mode a first flush stores. -/
theorem httpHeader_persisted {stored : DeviceMeta} {reported : Json}
    (hreported : reportedProtocols (protocolInfo validateInfo flush.analysis) flush.analysis = .ok reported)
    (h : persistDeviceMeta I validateInfo device flush.analysis = .ok stored) :
    httpHeader I (some stored) = httpMode (connectionModeOf I
      (namedMode (protocolInfo validateInfo flush.analysis) (keptProtocols I reported) flush.analysis)) := by
  unfold persistDeviceMeta at h
  dsimp only at h
  rw [hreported] at h
  cases h
  rw [httpHeader_validate]
  exact httpMode_named _

/-- **One cycle keeps the header in the HTTP family iff what it names does.** -/
theorem httpHeader_learned (h : httpHeader I header = true) :
    httpHeader I (learnedHeader I validateInfo device flush header) = namesHttp I validateInfo header flush := by
  have hsaved := httpHeader_saved flush h
  unfold learnedHeader namesHttp
  dsimp only
  cases header with
  | some m => exact hsaved
  | none =>
    cases hreported : reportedProtocols (protocolInfo validateInfo flush.analysis) flush.analysis with
    | error e =>
      have hraises : persistDeviceMeta I validateInfo device flush.analysis = .error e := by
        unfold persistDeviceMeta
        dsimp only
        rw [hreported]
        rfl
      rw [hraises]
      exact hsaved
    | ok reported =>
      obtain ⟨stored, hstored⟩ : ∃ stored, persistDeviceMeta I validateInfo device flush.analysis = .ok stored := by
        unfold persistDeviceMeta
        dsimp only
        rw [hreported]
        exact ⟨_, rfl⟩
      rw [hstored]
      dsimp only
      split
      · exact httpHeader_persisted hreported hstored
      · exact hsaved

end

/-! ## Runs of learning cycles -/

/-- **A device serves what it learned, after every cycle of a run, iff every cycle that decides its ingress
    mode names one of the HTTP family** (or the operator's override settles it). -/
theorem servesOwnPatterns_iff (I : Interp) (validateInfo : Dict Str Json → Option ProtocolInfo)
    (device : DeviceRegistry) (connection : Str) (flushes : List Flush) :
    (∀ seen, seen <+: flushes → ∀ header, exec (flushStep I validateInfo device) none seen = some header →
        ServesOwnPatterns I connection header) ↔
      connection ∈ httpProtocols ∨
        (connection = [] ∨ connection = str "auto") ∧
          AllOk (flushStep I validateInfo device) (fun header flush => namesHttp I validateInfo header flush = true)
            none flushes := by
  by_cases hundecided : connection = [] ∨ connection = str "auto"
  · have hnot : connection ∉ httpProtocols := by rcases hundecided with rfl | rfl <;> decide
    have hruns : (∀ seen, seen <+: flushes → ∀ header, exec (flushStep I validateInfo device) none seen = some header →
        httpHeader I header = true) ↔ AllOk (flushStep I validateInfo device)
          (fun header flush => namesHttp I validateInfo header flush = true) none flushes := by
      refine forall_prefix_iff_allOk (fun header flush => ⟨_, rfl⟩) (fun header flush header' h hstep => ?_) rfl
      cases hstep
      rw [httpHeader_learned h]
    simp only [servesOwnPatterns_iff_httpHeader hundecided, hruns]
    exact ⟨fun h => .inr ⟨hundecided, h⟩, fun h => (h.resolve_left hnot).2⟩
  · rw [not_or] at hundecided
    simp only [servesOwnPatterns_of_override hundecided.1 hundecided.2]
    constructor
    · exact fun h => .inl (h [] List.nil_prefix none rfl)
    · intro h seen _ header _
      exact h.resolve_right fun h => h.1.elim hundecided.1 hundecided.2

/-- A first flush over the TLS listener whose analysis names the mode `tls`. -/
def tlsFlush : Flush where
  analysis := [(str "protocols", .arr [.str (str "https")]), (str "connection_mode", .str (str "tls"))]
  delta := none
  mergeStored := true
  patternsSaved := true
  headerStored := true

/-- A device captured over TLS is hidden from its own listener by the header of its first flush. -/
theorem tlsFlush_hidden : ¬ ∀ (I : Interp) (validateInfo : Dict Str Json → Option ProtocolInfo)
    (device : DeviceRegistry) (flushes : List Flush) (header : Option DeviceMeta),
    exec (flushStep I validateInfo device) none flushes = some header →
      ServesOwnPatterns I (str "auto") header := by
  intro h
  have hserves := h asciiInterp (fun _ => none) ⟨str "acme", str "camera"⟩ [tlsFlush] _ rfl
  have hpassed := (hserves .tlsListener { newPattern [] with protocol := str "https" } (by decide)).2
  exact absurd hpassed (by decide +kernel)

end RideTheApi.HeaderProtocol
