import RideTheApi.PatternDb.Schemas
import RideTheApi.Py.Interp

/-!
# `PatternDb.Header` — the device header

The header (`DeviceMeta`) is written through one validating model, so a stored header only names
whitelisted protocols and connection modes, and its short texts are stripped and cut. Protocols are never
empty: a header that knows none says `[""]`.
-/

namespace RideTheApi.PatternDb

open Py

/-- Protocol tokens a device can be attributed with. -/
def safeProtocols : List Str :=
  ["http", "https", "tls", "tcp", "tcpip", "mqtt", "mqtt_connect", "modbus", "coap", "matter", "websocket",
    "ws", "zigbee", "zwave", "raw"].map str

/-- Ingress modes the server acts on. -/
def safeConnectionModes : List Str := ["auto", "tls", "http", "mqtt", "coap", "modbus"].map str

def maxMetaText : Nat := 200

/-- The whitelisted protocol token for a value, else none. -/
def normalizeProtocol (I : Interp) (value : Str) : Option Str :=
  let token : Str := I.lowerStr value.stripSpace
  if token ∈ safeProtocols then some token else none

/-- The whitelisted connection mode for a value, else none. -/
def normalizeConnectionMode (I : Interp) (value : Str) : Option Str :=
  let mode : Str := I.lowerStr value.stripSpace
  if mode ∈ safeConnectionModes then some mode else none

/-- Per-device header persisted in the device database. -/
structure DeviceMeta where
  vendor : Str := "unknown"
  deviceType : Str := "unknown"
  model : Str := []
  protocols : List Str := [[]]
  connectionMode : Str := "auto"
  transport : Str := []
  security : Str := []
  proprietary : Bool := false
  identity : Str := []
  ports : List Int := []
  confidence : BitVec 64 := 0
  stateVariables : List StateVariable := []
  virtualSensors : List VirtualSensor := []
deriving Repr, DecidableEq

/-- `_whitelisted_protocols`: the known tokens, each once; `[""]` when there is none. -/
def whitelistedProtocols (I : Interp) (value : List Str) : List Str :=
  match (value.filterMap (normalizeProtocol I)).eraseDups with
  | []   => [[]]
  | kept => kept

/-- `_whitelisted_connection_mode`. -/
def whitelistedConnectionMode (I : Interp) (value : Str) : Str :=
  (normalizeConnectionMode I value).getD "auto"

/-- `_short_text`. -/
def shortText (value : Str) : Str := value.stripSpace.take maxMetaText

/-- The header as `DeviceMeta(**meta)` validates it. -/
def DeviceMeta.validate (I : Interp) (header : DeviceMeta) : DeviceMeta :=
  { header with
    protocols := whitelistedProtocols I header.protocols
    connectionMode := whitelistedConnectionMode I header.connectionMode
    model := shortText header.model
    identity := shortText header.identity
    transport := shortText header.transport
    security := shortText header.security }

/-! ## Whitelisted values -/

section
variable {I : Interp} {value token : Str}

theorem normalizeProtocol_safe (h : normalizeProtocol I value = some token) : token ∈ safeProtocols := by
  unfold normalizeProtocol at h
  dsimp only at h
  split at h
  next hmem =>
    cases h
    exact hmem
  next => cases h

theorem normalizeConnectionMode_safe (h : normalizeConnectionMode I value = some token) :
    token ∈ safeConnectionModes := by
  unfold normalizeConnectionMode at h
  dsimp only at h
  split at h
  next hmem =>
    cases h
    exact hmem
  next => cases h

/-- Lower-casing leaves lower-case ASCII alone. -/
theorem lowerStr_of_lower (h : ∀ c ∈ value, c.val < 0x80 ∧ Interp.asciiUpper c = false) :
    I.lowerStr value = value := by
  induction value with
  | nil => rfl
  | cons c cs ih =>
    obtain ⟨hascii, hupper⟩ := h c List.mem_cons_self
    have hrest := ih fun d hd => h d (List.mem_cons_of_mem _ hd)
    unfold Interp.lowerStr at hrest ⊢
    rw [List.flatMap_cons, hrest, if_pos hascii, hupper]
    rfl

/-- A token in lower-case ASCII without whitespace around it. -/
def plainToken (value : Str) : Bool :=
  value.stripSpace == value && value.all fun c => decide (c.val < 0x80) && !Interp.asciiUpper c

theorem plainToken_spec (h : plainToken value = true) :
    value.stripSpace = value ∧ ∀ c ∈ value, c.val < 0x80 ∧ Interp.asciiUpper c = false := by
  simpa [plainToken] using h

theorem safeProtocols_plain : safeProtocols.all plainToken = true := by decide +kernel

theorem safeConnectionModes_plain : safeConnectionModes.all plainToken = true := by decide +kernel

/-- A whitelisted protocol is its own token. -/
theorem normalizeProtocol_self (h : token ∈ safeProtocols) : normalizeProtocol I token = some token := by
  obtain ⟨hstrip, hlower⟩ := plainToken_spec (List.all_eq_true.mp safeProtocols_plain token h)
  unfold normalizeProtocol
  rw [hstrip, lowerStr_of_lower hlower]
  exact if_pos h

/-- A whitelisted mode is its own token. -/
theorem normalizeConnectionMode_self (h : token ∈ safeConnectionModes) :
    normalizeConnectionMode I token = some token := by
  obtain ⟨hstrip, hlower⟩ := plainToken_spec (List.all_eq_true.mp safeConnectionModes_plain token h)
  unfold normalizeConnectionMode
  rw [hstrip, lowerStr_of_lower hlower]
  exact if_pos h

theorem whitelistedConnectionMode_safe : whitelistedConnectionMode I value ∈ safeConnectionModes := by
  unfold whitelistedConnectionMode
  cases hmode : normalizeConnectionMode I value with
  | none =>
    show str "auto" ∈ safeConnectionModes
    decide +kernel
  | some mode => exact normalizeConnectionMode_safe hmode

theorem whitelistedConnectionMode_self (h : token ∈ safeConnectionModes) :
    whitelistedConnectionMode I token = token := by
  unfold whitelistedConnectionMode
  rw [normalizeConnectionMode_self h]
  rfl

/-- The whitelisted form of at most one protocol: one safe token, or the empty one. -/
theorem whitelistedProtocols_single (h : whitelistedProtocols I [value] = [token]) :
    token = [] ∨ token ∈ safeProtocols := by
  unfold whitelistedProtocols at h
  cases hnorm : normalizeProtocol I value with
  | none =>
    rw [List.filterMap_cons_none hnorm] at h
    exact .inl (List.singleton_inj.mp h).symm
  | some t =>
    rw [List.filterMap_cons_some hnorm] at h
    have htoken : t = token := List.singleton_inj.mp h
    exact .inr (htoken ▸ normalizeProtocol_safe hnorm)

/-- One protocol is whitelisted to one. -/
theorem whitelistedProtocols_of_one (I : Interp) (value : Str) :
    whitelistedProtocols I [value] = [(normalizeProtocol I value).getD []] := by
  unfold whitelistedProtocols
  cases hnorm : normalizeProtocol I value with
  | none =>
    rw [List.filterMap_cons_none hnorm]
    rfl
  | some t =>
    rw [List.filterMap_cons_some hnorm]
    rfl

/-! ## Validated again

A header that was validated once keeps its protocols and its mode when it is validated again. A text may
still lose a space that the cut left at its end, but a text that is not empty never becomes empty. -/

theorem nodup_eraseDups {α : Type} [BEq α] [LawfulBEq α] (l : List α) : l.eraseDups.Nodup := by
  match l with
  | [] => exact List.nodup_nil
  | a :: as =>
    rw [List.eraseDups_cons]
    have hshorter := List.length_filter_le (fun b => !b == a) as
    refine List.nodup_cons.mpr ⟨fun hmem => ?_, nodup_eraseDups _⟩
    rw [List.mem_eraseDups, List.mem_filter] at hmem
    simp at hmem
termination_by l.length
decreasing_by
  rw [List.length_cons]
  exact Nat.lt_succ_of_le hshorter

theorem eraseDups_of_nodup {α : Type} [BEq α] [LawfulBEq α] {l : List α} (h : l.Nodup) : l.eraseDups = l := by
  induction l with
  | nil => rfl
  | cons a as ih =>
    obtain ⟨hfresh, hrest⟩ := List.nodup_cons.mp h
    have hkept : as.filter (fun b => !b == a) = as := by
      refine List.filter_eq_self.mpr fun b hb => ?_
      have hne : b ≠ a := fun heq => hfresh (heq ▸ hb)
      simp [hne]
    rw [List.eraseDups_cons, hkept, ih hrest]

/-- Whitelisted protocols are safe tokens, each once, or `[""]`. -/
theorem whitelistedProtocols_cases (I : Interp) (value : List Str) :
    whitelistedProtocols I value = [[]] ∨
      whitelistedProtocols I value ≠ [] ∧ (whitelistedProtocols I value).Nodup ∧
        ∀ p ∈ whitelistedProtocols I value, p ∈ safeProtocols := by
  unfold whitelistedProtocols
  cases hkept : (value.filterMap (normalizeProtocol I)).eraseDups with
  | nil => exact .inl rfl
  | cons token tokens =>
    have hnodup := nodup_eraseDups (value.filterMap (normalizeProtocol I))
    rw [hkept] at hnodup
    refine .inr ⟨List.cons_ne_nil _ _, hnodup, fun p hp => ?_⟩
    have hmem : p ∈ value.filterMap (normalizeProtocol I) := by
      rw [← List.mem_eraseDups, hkept]
      exact hp
    obtain ⟨v, _, hv⟩ := List.mem_filterMap.mp hmem
    exact normalizeProtocol_safe hv

theorem nil_notMem_safeProtocols : [] ∉ safeProtocols := by decide

/-- Safe tokens, each once, are whitelisted as they are. -/
theorem whitelistedProtocols_of_safe {tokens : List Str} (hne : tokens ≠ []) (hnodup : tokens.Nodup)
    (hsafe : ∀ p ∈ tokens, p ∈ safeProtocols) : whitelistedProtocols I tokens = tokens := by
  have hall : tokens.filterMap (normalizeProtocol I) = tokens := by
    rw [List.filterMap_congr (g := some) fun p hp => normalizeProtocol_self (hsafe p hp), List.filterMap_some]
  unfold whitelistedProtocols
  rw [hall, eraseDups_of_nodup hnodup]
  cases tokens with
  | nil => exact absurd rfl hne
  | cons token tokens => rfl

/-- Protocols that were whitelisted once are whitelisted as they are. -/
theorem whitelistedProtocols_idem (value : List Str) :
    whitelistedProtocols I (whitelistedProtocols I value) = whitelistedProtocols I value := by
  rcases whitelistedProtocols_cases I value with hempty | ⟨hne, hnodup, hsafe⟩
  · rw [hempty, whitelistedProtocols_of_one]
    rfl
  · exact whitelistedProtocols_of_safe hne hnodup hsafe

/-- A short text is empty iff nothing is left once the whitespace around it is stripped. -/
theorem shortText_eq_nil_iff : shortText value = [] ↔ value.stripSpace = [] := by
  unfold shortText maxMetaText
  rw [List.take_eq_nil_iff]
  exact ⟨fun h => h.resolve_left (by decide), .inr⟩

/-- A short text that is not empty starts with a character that is no whitespace. -/
theorem shortText_head {c : CodePoint} {rest : Str} (h : shortText value = c :: rest) :
    Str.isSpace c = false := by
  unfold shortText maxMetaText at h
  cases hstrip : value.stripSpace with
  | nil =>
    rw [hstrip] at h
    cases h
  | cons d ds =>
    rw [hstrip] at h
    cases h
    exact Str.stripSpace_head hstrip

/-- A short text that is not empty is not empty when it is shortened again. -/
theorem shortText_idem_eq_nil : shortText (shortText value) = [] ↔ shortText value = [] := by
  rw [shortText_eq_nil_iff]
  constructor
  · intro hstrip
    cases hshort : shortText value with
    | nil => rfl
    | cons c rest =>
      rw [hshort, Str.stripSpace_eq_nil_iff] at hstrip
      have hspace := hstrip c List.mem_cons_self
      rw [shortText_head hshort] at hspace
      cases hspace
  · intro h
    rw [h]
    rfl

end

end RideTheApi.PatternDb
