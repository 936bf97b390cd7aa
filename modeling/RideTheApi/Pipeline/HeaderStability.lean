import RideTheApi.Pipeline.HeaderProtocol

/-!
# `Pipeline.HeaderStability` — what a run of header writes keeps

Two writers share the header of a device: the first flush, and every merge of a delta. Both pass it through
the same validators, so a stored header is always a validated one (`Validated`). The validators strip a
text after the merge has already preferred it over the stored one: a delta text of nothing but whitespace
is carried, and then stored as nothing.
-/

namespace RideTheApi.HeaderStability

open Py PatternDb HeaderProtocol Transition

/-- One write of the header, and whether it went through. -/
inductive HeaderWrite where
  | firstFlush (analysis : Dict Str Json) (stored : Bool)
  | merge (model : DeviceModel) (stored : Bool)
deriving Repr, DecidableEq

/-- The header after a write. A write that fails is logged and leaves it. -/
def written (I : Interp) (validateInfo : Dict Str Json → Option ProtocolInfo) (device : DeviceRegistry)
    (header : Option DeviceMeta) : HeaderWrite → Option DeviceMeta
  | .firstFlush analysis stored =>
    match persistDeviceMeta I validateInfo device analysis with
    | .ok flushed => if stored then some flushed else header
    | .error _    => header
  | .merge model stored =>
    if stored then some ((mergedHeader I model (header.getD {})).validate I) else header

/-- A write as a step of the header. -/
def writeStep (I : Interp) (validateInfo : Dict Str Json → Option ProtocolInfo) (device : DeviceRegistry)
    (header : Option DeviceMeta) (write : HeaderWrite) : Option (Option DeviceMeta) :=
  some (written I validateInfo device header write)

/-- The writes of a learning cycle: the merge of its delta, then the write of a first flush. Whether it is
    the first flush was asked before the merge. -/
def writesOf (header : Option DeviceMeta) (flush : Flush) : List HeaderWrite :=
  flush.delta.toList.map (fun model => .merge model flush.mergeStored) ++
    if header.isNone && flush.patternsSaved then [.firstFlush flush.analysis flush.headerStored] else []

/-- The writes of a run of cycles. -/
def writesOfRun (I : Interp) (validateInfo : Dict Str Json → Option ProtocolInfo) (device : DeviceRegistry) :
    Option DeviceMeta → List Flush → List HeaderWrite
  | _,      []               => []
  | header, flush :: flushes =>
    writesOf header flush ++
      writesOfRun I validateInfo device (learnedHeader I validateInfo device flush header) flushes

/-! ## What a header must keep -/

/-- The protocols of a header are known. -/
def protocolsSettled (header : DeviceMeta) : Bool := header.protocols.any fun p => !p.isEmpty

/-- The ingress decision of a header is taken. -/
def modeSettled (header : DeviceMeta) : Bool := header.connectionMode != str "auto"

/-- A header that only names whitelisted protocols and modes. -/
structure Whitelisted (header : DeviceMeta) : Prop where
  protocols : ∀ p ∈ header.protocols, p = [] ∨ p ∈ safeProtocols
  mode : header.connectionMode ∈ safeConnectionModes

/-- No entry that says something is replaced by one that says nothing. -/
structure NoneBlanked (before after : DeviceMeta) : Prop where
  identity : before.identity ≠ [] → after.identity ≠ []
  model : before.model ≠ [] → after.model ≠ []
  transport : before.transport ≠ [] → after.transport ≠ []
  security : before.security ≠ [] → after.security ≠ []
  ports : before.ports ≠ [] → after.ports ≠ []

/-- A write does not degrade a header: what it stores is whitelisted, what was settled stays, and a merge
    blanks no entry. -/
structure Kept (I : Interp) (validateInfo : Dict Str Json → Option ProtocolInfo) (device : DeviceRegistry)
    (header : Option DeviceMeta) (write : HeaderWrite) : Prop where
  whitelisted : ∀ after, written I validateInfo device header write = some after → Whitelisted after
  stays : ∀ before, header = some before → ∃ after, written I validateInfo device header write = some after ∧
    (protocolsSettled before = true → after.protocols = before.protocols) ∧
    (modeSettled before = true → after.connectionMode = before.connectionMode) ∧
    (∀ model stored, write = .merge model stored → NoneBlanked before after)

/-! ## When it does -/

/-- A text that a merge carries, of which validation leaves nothing. -/
def blank (text : Str) : Bool := !text.isEmpty && text.stripSpace.isEmpty

/-- A delta that carries a protocol has no blank text where the header says something. -/
def carriesNoBlank (info : ProtocolInfo) (current : DeviceMeta) : Bool :=
  (!blank info.identity || (current.identity.isEmpty && current.model.isEmpty)) &&
    (!blank info.transport || current.transport.isEmpty) && (!blank info.security || current.security.isEmpty)

/-- An analysis that reports, as protocols and mode, what the header has settled. -/
def namesSettled (I : Interp) (validateInfo : Dict Str Json → Option ProtocolInfo) (analysis : Dict Str Json)
    (current : DeviceMeta) : Bool :=
  let info := protocolInfo validateInfo analysis
  match reportedProtocols info analysis with
  | .ok reported =>
    (!protocolsSettled current || (keptProtocols I reported).eraseDups == current.protocols) &&
      (!modeSettled current ||
        connectionModeOf I (namedMode info (keptProtocols I reported) analysis) == some current.connectionMode)
  | .error _ => true

/-- A write that keeps the header: a merge whose delta carries no protocol or no blank text, and a first
    flush that meets no header or names what is settled. -/
def keeps (I : Interp) (validateInfo : Dict Str Json → Option ProtocolInfo) (header : Option DeviceMeta) :
    HeaderWrite → Bool
  | .firstFlush analysis stored => !stored || header.all (namesSettled I validateInfo analysis)
  | .merge model stored =>
    !stored || model.protocol.protocol.isEmpty || header.all (carriesNoBlank model.protocol)

section
variable {I : Interp} {validateInfo : Dict Str Json → Option ProtocolInfo} {device : DeviceRegistry}
  {header : Option DeviceMeta} {current : DeviceMeta}

/-! ## The writes of the learning path -/

/-- A merge of a delta writes the header as a write does. -/
theorem mergeDeviceModel_written (pathDigest : Str → Result Str) (deviceId : Str) (model : DeviceModel)
    (stored : Device) : (mergeDeviceModel I pathDigest deviceId model stored).1.header =
      written I validateInfo device stored.header (.merge model true) := by
  unfold mergeDeviceModel
  dsimp only
  split <;> rfl

/-- A cycle leaves the header that its writes leave. -/
theorem exec_writesOf (flush : Flush) :
    exec (writeStep I validateInfo device) header (writesOf header flush) =
      some (learnedHeader I validateInfo device flush header) := by
  have hmerge : exec (writeStep I validateInfo device) header
      (flush.delta.toList.map fun model => .merge model flush.mergeStored) =
        some (savedHeader I flush header) := by
    unfold savedHeader
    cases flush.delta with
    | none => rfl
    | some model => rfl
  unfold writesOf learnedHeader
  rw [exec_append, hmerge, Option.bind_some]
  cases header with
  | some m => rfl
  | none =>
    cases hsaved : flush.patternsSaved with
    | false =>
      cases persistDeviceMeta I validateInfo device flush.analysis with
      | error e => rfl
      | ok flushed => rfl
    | true =>
      show some (written I validateInfo device _ (.firstFlush flush.analysis flush.headerStored)) = _
      unfold written
      dsimp only
      cases persistDeviceMeta I validateInfo device flush.analysis with
      | error e => rfl
      | ok flushed => rw [Bool.true_and]

/-- **A run of cycles is the run of its writes.** -/
theorem exec_writesOfRun (flushes : List Flush) :
    exec (flushStep I validateInfo device) header flushes =
      exec (writeStep I validateInfo device) header (writesOfRun I validateInfo device header flushes) := by
  induction flushes generalizing header with
  | nil => rfl
  | cons flush flushes ih =>
    rw [writesOfRun, exec_append, exec_writesOf, Option.bind_some, ← ih]
    rfl

/-! ## A stored header -/

/-- What validating again leaves of a header: its protocols, its mode, and something of every text. -/
structure Validated (I : Interp) (header : DeviceMeta) : Prop where
  protocols : whitelistedProtocols I header.protocols = header.protocols
  mode : whitelistedConnectionMode I header.connectionMode = header.connectionMode
  identity : shortText header.identity = [] → header.identity = []
  model : shortText header.model = [] → header.model = []
  transport : shortText header.transport = [] → header.transport = []
  security : shortText header.security = [] → header.security = []

theorem validated_validate (m : DeviceMeta) : Validated I (m.validate I) where
  protocols := whitelistedProtocols_idem m.protocols
  mode := whitelistedConnectionMode_self whitelistedConnectionMode_safe
  identity := shortText_idem_eq_nil.mp
  model := shortText_idem_eq_nil.mp
  transport := shortText_idem_eq_nil.mp
  security := shortText_idem_eq_nil.mp

theorem whitelisted_validate (m : DeviceMeta) : Whitelisted (m.validate I) where
  protocols := fun p hp => by
    rcases whitelistedProtocols_cases I m.protocols with hempty | ⟨_, _, hsafe⟩
    · have hmem : p ∈ whitelistedProtocols I m.protocols := hp
      rw [hempty, List.mem_singleton] at hmem
      exact .inl hmem
    · exact .inr (hsafe p hp)
  mode := whitelistedConnectionMode_safe

/-- The header after a write is the old one, or a validated one. -/
theorem written_cases (write : HeaderWrite) :
    written I validateInfo device header write = header ∨
      ∃ m : DeviceMeta, written I validateInfo device header write = some (m.validate I) := by
  cases write with
  | merge model stored =>
    cases stored with
    | false => exact .inl rfl
    | true => exact .inr ⟨_, rfl⟩
  | firstFlush analysis stored =>
    unfold written persistDeviceMeta
    dsimp only
    cases reportedProtocols (protocolInfo validateInfo analysis) analysis with
    | error e => exact .inl rfl
    | ok reported =>
      cases stored with
      | false => exact .inl rfl
      | true => exact .inr ⟨_, rfl⟩

/-! ## One merge -/

/-- The text a merge leaves is empty where the stored one was not iff the delta's is blank. -/
theorem carried_ne_nil_iff (text : Str) {stored : Str} (h : shortText stored = [] → stored = []) :
    (stored ≠ [] → shortText (orStr text stored) ≠ []) ↔ (!blank text || stored.isEmpty) = true := by
  cases stored with
  | nil => simp
  | cons c rest =>
    have hstored : shortText (c :: rest) ≠ [] := fun hnil => List.cons_ne_nil c rest (h hnil)
    cases text with
    | nil =>
      show (_ → shortText (c :: rest) ≠ []) ↔ _
      exact ⟨fun _ => rfl, fun _ _ => hstored⟩
    | cons d ds =>
      have hshort : shortText (d :: ds) = [] ↔ Str.stripSpace (d :: ds) = [] := shortText_eq_nil_iff
      show (_ → shortText (d :: ds) ≠ []) ↔ _
      simp [blank, hshort]

/-- A merge keeps the protocols that are settled. -/
theorem mergedHeader_protocols (model : DeviceModel) (h : protocolsSettled current = true) :
    (mergedHeader I model current).protocols = current.protocols := by
  unfold mergedHeader
  dsimp only
  cases model.protocol.protocol.isEmpty with
  | true => rfl
  | false =>
    rw [if_neg (by decide)]
    dsimp only
    cases normalizeProtocol I model.protocol.protocol with
    | none => rfl
    | some protocol => exact if_pos h

/-- A merge keeps the mode that is settled. -/
theorem mergedHeader_mode (model : DeviceModel) (hsafe : current.connectionMode ∈ safeConnectionModes)
    (h : modeSettled current = true) :
    (mergedHeader I model current).connectionMode = current.connectionMode := by
  have hne : current.connectionMode ≠ [] := fun hnil => nil_notMem_safeConnectionModes (hnil ▸ hsafe)
  have hmode : orStr current.connectionMode "auto" ≠ str "auto" := by
    unfold orStr
    rw [if_neg (by simpa using hne)]
    exact bne_iff_ne.mp h
  unfold mergedHeader
  dsimp only
  cases model.protocol.protocol.isEmpty with
  | true => rfl
  | false =>
    rw [if_neg (by decide)]
    dsimp only
    cases normalizeConnectionMode I model.protocol.handler with
    | none => rfl
    | some mode => exact if_neg hmode

/-- **A merge blanks no entry iff its delta carries no protocol or no blank text.** -/
theorem noneBlanked_merge_iff (hvalid : Validated I current) (model : DeviceModel) :
    NoneBlanked current ((mergedHeader I model current).validate I) ↔
      (model.protocol.protocol.isEmpty || carriesNoBlank model.protocol current) = true := by
  unfold mergedHeader
  dsimp only
  cases model.protocol.protocol.isEmpty with
  | true =>
    refine ⟨fun _ => rfl, fun _ => ?_⟩
    exact { identity := mt hvalid.identity
            model := mt hvalid.model
            transport := mt hvalid.transport
            security := mt hvalid.security
            ports := id }
  | false =>
    have hports : current.ports ≠ [] →
        (if model.protocol.ports.isEmpty then current.ports else model.protocol.ports) ≠ [] := by
      intro hne
      split
      next => exact hne
      next hcarried => exact fun hnil => hcarried (List.isEmpty_iff.mpr hnil)
    have hidentity := carried_ne_nil_iff model.protocol.identity hvalid.identity
    have hmodel := carried_ne_nil_iff model.protocol.identity hvalid.model
    have htransport := carried_ne_nil_iff model.protocol.transport hvalid.transport
    have hsecurity := carried_ne_nil_iff model.protocol.security hvalid.security
    rw [if_neg (by decide), Bool.false_or]
    unfold carriesNoBlank
    rw [Bool.or_and_distrib_left, Bool.and_eq_true, Bool.and_eq_true, Bool.and_eq_true, ← hidentity, ← hmodel,
      ← htransport, ← hsecurity]
    constructor
    · intro h
      exact ⟨⟨⟨h.identity, h.model⟩, h.transport⟩, h.security⟩
    · rintro ⟨⟨⟨h₁, h₂⟩, h₃⟩, h₄⟩
      exact ⟨h₁, h₂, h₃, h₄, hports⟩

/-! ## One first flush -/

/-- What is kept of a report is whitelisted. -/
theorem keptProtocols_safe (reported : Json) : ∀ p ∈ keptProtocols I reported, p ∈ safeProtocols := by
  have hone : ∀ v p, protocolOf I v = some p → p ∈ safeProtocols := by
    intro v p h
    cases v <;> first | cases h | exact normalizeProtocol_safe h
  intro p hp
  unfold keptProtocols at hp
  cases reported with
  | str s => exact hone _ p (Option.mem_toList.mp hp)
  | arr xs =>
    obtain ⟨v, _, hv⟩ := List.mem_filterMap.mp hp
    exact hone v p hv
  | _ => exact absurd hp List.not_mem_nil

/-- The protocols of a first flush: those kept, each once. -/
theorem flushed_protocols {kept : List Str} (hsafe : ∀ p ∈ kept, p ∈ safeProtocols) :
    whitelistedProtocols I (if kept.isEmpty then [[]] else kept) =
      if kept.eraseDups = [] then [[]] else kept.eraseDups := by
  cases kept with
  | nil =>
    show whitelistedProtocols I [[]] = [[]]
    rw [whitelistedProtocols_of_one]
    rfl
  | cons token tokens =>
    have hall : (token :: tokens).filterMap (normalizeProtocol I) = token :: tokens := by
      rw [List.filterMap_congr (g := some) fun p hp => normalizeProtocol_self (hsafe p hp), List.filterMap_some]
    have hne : (token :: tokens).eraseDups ≠ [] := by
      rw [List.eraseDups_cons]
      exact List.cons_ne_nil _ _
    rw [if_neg hne]
    show whitelistedProtocols I (token :: tokens) = _
    unfold whitelistedProtocols
    rw [hall]
    cases herase : (token :: tokens).eraseDups with
    | nil => exact absurd herase hne
    | cons t ts => rfl

theorem connectionModeOf_safe {named : Json} {mode : Str} (h : connectionModeOf I named = some mode) :
    mode ∈ safeConnectionModes := by
  cases named <;> first | cases h | exact normalizeConnectionMode_safe h

/-- The mode of a first flush: the one named, else the undecided one. -/
theorem flushed_mode (named : Json) :
    whitelistedConnectionMode I ((connectionModeOf I named).getD "auto") =
      (connectionModeOf I named).getD "auto" := by
  cases hmode : connectionModeOf I named with
  | none => exact whitelistedConnectionMode_self (by decide)
  | some mode => exact whitelistedConnectionMode_self (connectionModeOf_safe hmode)

/-- Settled protocols are written again iff they are the ones kept. -/
theorem protocols_again_iff {kept : List Str} (h : protocolsSettled current = true) :
    (if kept.eraseDups = [] then [[]] else kept.eraseDups) = current.protocols ↔
      kept.eraseDups = current.protocols := by
  by_cases hnone : kept.eraseDups = []
  · rw [if_pos hnone, hnone]
    unfold protocolsSettled at h
    constructor
    · intro heq
      rw [← heq] at h
      cases h
    · intro heq
      rw [← heq] at h
      cases h
  · rw [if_neg hnone]

/-- A settled mode is written again iff it is the one named. -/
theorem mode_again_iff {named : Json} (h : modeSettled current = true) :
    (connectionModeOf I named).getD "auto" = current.connectionMode ↔
      connectionModeOf I named = some current.connectionMode := by
  cases connectionModeOf I named with
  | none =>
    rw [Option.getD_none]
    exact ⟨fun heq => absurd heq.symm (bne_iff_ne.mp h), fun heq => nomatch heq⟩
  | some mode => rw [Option.getD_some, Option.some_inj]

/-- **A first flush keeps what is settled iff its analysis names it.** -/
theorem firstFlush_stays_iff {analysis : Dict Str Json} {reported : Json}
    (hreported : reportedProtocols (protocolInfo validateInfo analysis) analysis = .ok reported)
    {flushed : DeviceMeta} (hflushed : persistDeviceMeta I validateInfo device analysis = .ok flushed) :
    ((protocolsSettled current = true → flushed.protocols = current.protocols) ∧
      (modeSettled current = true → flushed.connectionMode = current.connectionMode)) ↔
        namesSettled I validateInfo analysis current = true := by
  have hprotocols : flushed.protocols =
      if (keptProtocols I reported).eraseDups = [] then [[]] else (keptProtocols I reported).eraseDups := by
    rw [← flushed_protocols (keptProtocols_safe reported)]
    unfold persistDeviceMeta at hflushed
    dsimp only at hflushed
    rw [hreported] at hflushed
    cases hflushed
    rfl
  have hmode : flushed.connectionMode =
      (connectionModeOf I (namedMode (protocolInfo validateInfo analysis) (keptProtocols I reported) analysis)).getD
        "auto" := by
    rw [← flushed_mode]
    unfold persistDeviceMeta at hflushed
    dsimp only at hflushed
    rw [hreported] at hflushed
    cases hflushed
    rfl
  unfold namesSettled
  dsimp only
  rw [hreported, hprotocols, hmode]
  dsimp only
  rw [Bool.and_eq_true, Bool.or_eq_true, Bool.or_eq_true, beq_iff_eq, beq_iff_eq, Bool.not_eq_true',
    Bool.not_eq_true']
  refine and_congr ?_ ?_
  · cases hsettled : protocolsSettled current with
    | false => simp
    | true =>
      rw [protocols_again_iff hsettled]
      simp
  · cases hsettled : modeSettled current with
    | false => simp
    | true =>
      rw [mode_again_iff hsettled]
      simp

/-! ## One write -/

/-- What the writes so far leave: no header, or a validated one. -/
def Stored (I : Interp) (header : Option DeviceMeta) : Prop :=
  ∀ m, header = some m → Validated I m ∧ Whitelisted m

theorem stored_none : Stored I none := fun _ h => nomatch h

/-- A write leaves a validated header. -/
theorem Stored.written (h : Stored I header) (write : HeaderWrite) :
    Stored I (written I validateInfo device header write) := by
  intro after hafter
  rcases written_cases write with hsame | ⟨m, hm⟩
  · rw [hsame] at hafter
    exact h after hafter
  · rw [hm] at hafter
    cases hafter
    exact ⟨validated_validate m, whitelisted_validate m⟩

/-- A write that leaves the header as it was keeps it. -/
theorem kept_of_unchanged (h : Stored I header) {write : HeaderWrite}
    (hsame : written I validateInfo device header write = header) : Kept I validateInfo device header write where
  whitelisted := fun after hafter => (h after (hsame ▸ hafter)).2
  stays := fun before hbefore =>
    ⟨before, hsame.trans hbefore, fun _ => rfl, fun _ => rfl, fun _ _ _ => ⟨id, id, id, id, id⟩⟩

/-- **A merge keeps the header iff its delta carries no protocol or no blank text.** -/
theorem kept_merge_iff (h : Stored I header) (model : DeviceModel) :
    Kept I validateInfo device header (.merge model true) ↔
      (model.protocol.protocol.isEmpty || header.all (carriesNoBlank model.protocol)) = true := by
  have hwritten : written I validateInfo device header (.merge model true) =
      some ((mergedHeader I model (header.getD {})).validate I) := rfl
  cases header with
  | none =>
    refine ⟨fun _ => Bool.or_true _, fun _ => ⟨fun after hafter => ?_, fun before hbefore => nomatch hbefore⟩⟩
    rw [hwritten] at hafter
    cases hafter
    exact whitelisted_validate _
  | some current =>
    obtain ⟨hvalid, hwhite⟩ := h current rfl
    rw [Option.all_some, ← noneBlanked_merge_iff hvalid model]
    constructor
    · intro hkept
      obtain ⟨after, hafter, _, _, hblanked⟩ := hkept.stays current rfl
      rw [hwritten] at hafter
      cases hafter
      exact hblanked model true rfl
    · intro hblanked
      refine ⟨fun after hafter => ?_, fun before hbefore => ?_⟩
      · rw [hwritten] at hafter
        cases hafter
        exact whitelisted_validate _
      · cases hbefore
        refine ⟨_, hwritten, fun hsettled => ?_, fun hsettled => ?_, fun model' stored heq => ?_⟩
        · show whitelistedProtocols I (mergedHeader I model current).protocols = current.protocols
          rw [mergedHeader_protocols model hsettled, hvalid.protocols]
        · show whitelistedConnectionMode I (mergedHeader I model current).connectionMode = current.connectionMode
          rw [mergedHeader_mode model hwhite.mode hsettled, hvalid.mode]
        · cases heq
          exact hblanked

/-- **A first flush keeps the header iff it meets none, or its analysis names what is settled.** -/
theorem kept_firstFlush_iff (h : Stored I header) (analysis : Dict Str Json) :
    Kept I validateInfo device header (.firstFlush analysis true) ↔
      header.all (namesSettled I validateInfo analysis) = true := by
  cases hreported : reportedProtocols (protocolInfo validateInfo analysis) analysis with
  | error e =>
    have hwritten : written I validateInfo device header (.firstFlush analysis true) = header := by
      unfold written persistDeviceMeta
      dsimp only
      rw [hreported]
      rfl
    refine ⟨fun _ => ?_, fun _ => kept_of_unchanged h hwritten⟩
    unfold namesSettled
    dsimp only
    rw [hreported]
    cases header <;> rfl
  | ok reported =>
    obtain ⟨m, hm⟩ : ∃ m : DeviceMeta,
        persistDeviceMeta I validateInfo device analysis = .ok (m.validate I) := by
      unfold persistDeviceMeta
      dsimp only
      rw [hreported]
      exact ⟨_, rfl⟩
    have hwritten : written I validateInfo device header (.firstFlush analysis true) = some (m.validate I) := by
      unfold written
      dsimp only
      rw [hm]
      rfl
    have hwhitelisted : ∀ after, written I validateInfo device header (.firstFlush analysis true) = some after →
        Whitelisted after := by
      intro after hafter
      rw [hwritten] at hafter
      cases hafter
      exact whitelisted_validate m
    cases header with
    | none => exact ⟨fun _ => rfl, fun _ => ⟨hwhitelisted, fun before hbefore => nomatch hbefore⟩⟩
    | some current =>
      rw [Option.all_some, ← firstFlush_stays_iff hreported hm]
      constructor
      · intro hkept
        obtain ⟨after, hafter, hprotocols, hmode, _⟩ := hkept.stays current rfl
        rw [hwritten] at hafter
        cases hafter
        exact ⟨hprotocols, hmode⟩
      · rintro ⟨hprotocols, hmode⟩
        refine ⟨hwhitelisted, fun before hbefore => ?_⟩
        cases hbefore
        exact ⟨_, hwritten, hprotocols, hmode, fun _ _ heq => nomatch heq⟩

/-- **One write keeps the header iff it is one of those that do.** -/
theorem kept_iff_keeps (h : Stored I header) (write : HeaderWrite) :
    Kept I validateInfo device header write ↔ keeps I validateInfo header write = true := by
  cases write with
  | firstFlush analysis stored =>
    cases stored with
    | true => exact kept_firstFlush_iff h analysis
    | false =>
      refine ⟨fun _ => rfl, fun _ => kept_of_unchanged h ?_⟩
      unfold written
      dsimp only
      cases persistDeviceMeta I validateInfo device analysis with
      | error e => rfl
      | ok flushed => rfl
  | merge model stored =>
    cases stored with
    | true => exact kept_merge_iff h model
    | false => exact ⟨fun _ => rfl, fun _ => kept_of_unchanged h rfl⟩

end

/-! ## Runs of writes -/

/-- **A header never degrades over a run of writes iff every merge of it carries no blank text where the
    header says something, and every first flush meets no header or names what is settled.** -/
theorem allOk_kept_iff (I : Interp) (validateInfo : Dict Str Json → Option ProtocolInfo) (device : DeviceRegistry)
    (writes : List HeaderWrite) :
    AllOk (writeStep I validateInfo device) (Kept I validateInfo device) none writes ↔
      AllOk (writeStep I validateInfo device)
        (fun header write => keeps I validateInfo header write = true) none writes := by
  refine allOk_iff_allOk (fun _ write h => kept_iff_keeps h write) (fun _ write _ h _ hstep => ?_) stored_none
  cases hstep
  exact h.written write

/-- A delta that identifies a device by the given text. -/
def identifiedAs (identity : Str) : DeviceModel :=
  { patternMeta := { patternId := "d-patterns", vendor := "acme", deviceType := "lamp" }, protocol := { protocol := "mqtt", identity } }

/-- A first flush, a delta that names the device, and one that names it by three spaces: the name is gone. -/
theorem not_kept_blankIdentity :
    ¬ ∀ (I : Interp) (validateInfo : Dict Str Json → Option ProtocolInfo) (device : DeviceRegistry)
      (analysis : Dict Str Json) (deltas : List DeviceModel),
      AllOk (writeStep I validateInfo device) (Kept I validateInfo device) none
        (.firstFlush analysis true :: deltas.map fun model => .merge model true) := by
  intro h
  have hrun := h asciiInterp (fun _ => none) ⟨str "acme", str "camera"⟩ []
    [identifiedAs "Hue", identifiedAs "   "]
  obtain ⟨after, hafter, _, _, hblanked⟩ := hrun.2.2.1.stays _ rfl
  have hempty : after.identity = [] := by
    rw [← Option.some.inj hafter]
    decide +kernel
  exact (hblanked _ _ rfl).identity (by decide +kernel) hempty

end RideTheApi.HeaderStability
