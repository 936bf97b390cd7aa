import Mathlib.Data.List.Induction
import RideTheApi.Lib.Indexes
import RideTheApi.Py.Value

/-!
# `Adapters.Registry` — the adapters, and the indexes over them

The registry keeps an adapter for each vendor and three things derived from them: the vendor that claims a hostname,
the adapters of a protocol, and the vendors. `register` replaces the adapter of the vendor and enters the new one into
the indexes.
-/

namespace RideTheApi.Adapters

open Py

/-- `ProtocolType`. -/
inductive ProtocolType where
  | http
  | https
  | mqtt
  | mqtts
  | websocket
  | coap
  | modbus
  | modbuss
  | matter
  | zigbee
  | zwave
  | tcpip
deriving Repr, DecidableEq

/-- A `ProtocolAdapter`, as far as the registry reads it. -/
structure ProtocolAdapter where
  /-- Which object it is: two adapters may agree in everything else. -/
  object : Nat
  vendor : Str
  supportedProtocols : List ProtocolType
  vendorHostnames : List Str
deriving Repr, DecidableEq

/-- `ProtocolAdapterRegistry`. -/
structure ProtocolAdapterRegistry where
  adapters : Dict Str ProtocolAdapter := []
  /-- Hostname to vendor. -/
  hostnameMap : Dict Str Str := []
  protocolMap : Dict ProtocolType (List ProtocolAdapter) := []
  vendorsList : List Str := []

namespace ProtocolAdapterRegistry

/-- `register`. -/
def register (r : ProtocolAdapterRegistry) (adapter : ProtocolAdapter) : ProtocolAdapterRegistry :=
  let adapters := r.adapters.set adapter.vendor adapter
  { adapters
    hostnameMap := adapter.vendorHostnames.foldl (fun m hostname => m.set hostname adapter.vendor) r.hostnameMap
    protocolMap := adapter.supportedProtocols.foldl (fun m proto => m.appendAt proto adapter) r.protocolMap
    vendorsList := adapters.keys }

/-- `get_adapter`. -/
def getAdapter (r : ProtocolAdapterRegistry) (vendor : Str) : Option ProtocolAdapter := r.adapters.get? vendor

/-- `get_adapter_by_hostname`. -/
def getAdapterByHostname (r : ProtocolAdapterRegistry) (hostname : Str) : Option ProtocolAdapter :=
  match r.hostnameMap.get? hostname with
  -- an empty vendor is no vendor
  | some vendor => if vendor = [] then none else r.adapters.get? vendor
  | none        => none

/-- `get_adapter_by_protocol`. -/
def getAdapterByProtocol (r : ProtocolAdapterRegistry) (protocol : ProtocolType) : List ProtocolAdapter :=
  r.protocolMap.listed protocol

/-- `list_vendors`. -/
def listVendors (r : ProtocolAdapterRegistry) : List Str := r.vendorsList

/-- `list_hostnames`. -/
def listHostnames (r : ProtocolAdapterRegistry) : List Str := r.hostnameMap.keys

/-- What a new registry is after some `register` calls. -/
def registerAll (as : List ProtocolAdapter) : ProtocolAdapterRegistry := as.foldl register {}

theorem registerAll_concat (as : List ProtocolAdapter) (a : ProtocolAdapter) :
    registerAll (as ++ [a]) = (registerAll as).register a := List.foldl_concat register {} a as

/-! ## What the maps hold -/

/-- A vendor has the last adapter registered for it. -/
theorem getAdapter_registerAll (as : List ProtocolAdapter) (vendor : Str) :
    (registerAll as).getAdapter vendor = Indexes.current (·.vendor) vendor as := by
  induction as using List.reverseRecOn with
  | nil => rfl
  | append_singleton as a ih =>
    rw [registerAll_concat, Indexes.current, Indexes.lastWhere_concat]
    show Dict.get? ((registerAll as).adapters.set a.vendor a) vendor = _
    rw [Dict.get?_set]
    by_cases h : a.vendor = vendor
    · simp [h]
    · simp only [h, decide_false, if_false]
      exact ih

/-- A hostname has the vendor of the last adapter that claimed it. -/
theorem hostnameMap_registerAll (as : List ProtocolAdapter) (hostname : Str) :
    (registerAll as).hostnameMap.get? hostname =
      (Indexes.claimant (·.vendorHostnames) hostname as).map (·.vendor) := by
  induction as using List.reverseRecOn with
  | nil => rfl
  | append_singleton as a ih =>
    rw [registerAll_concat, Indexes.claimant, Indexes.lastWhere_concat]
    show Dict.get? ((registerAll as).hostnameMap.setAll a.vendorHostnames a.vendor) hostname = _
    rw [Dict.get?_setAll]
    by_cases h : hostname ∈ a.vendorHostnames
    · simp [h]
    · simp only [h, decide_false, if_false]
      exact ih

/-- A protocol has every adapter ever registered with it. -/
theorem getAdapterByProtocol_registerAll (as : List ProtocolAdapter) (protocol : ProtocolType) :
    (registerAll as).getAdapterByProtocol protocol = Indexes.grouped (·.supportedProtocols) protocol as := by
  induction as using List.reverseRecOn with
  | nil => rfl
  | append_singleton as a ih =>
    rw [registerAll_concat]
    show Dict.listed (a.supportedProtocols.foldl (fun m proto => m.appendAt proto a) (registerAll as).protocolMap) protocol = _
    rw [Dict.listed_foldl_appendAt]
    show (registerAll as).getAdapterByProtocol protocol ++ _ = _
    rw [ih]
    simp [Indexes.grouped]

/-- The vendors listed are the ones that have an adapter. -/
theorem listVendors_registerAll (as : List ProtocolAdapter) :
    (registerAll as).listVendors = (registerAll as).adapters.keys := by
  induction as using List.reverseRecOn with
  | nil => rfl
  | append_singleton as a ih => rw [registerAll_concat]; rfl

/-- A hostname is listed iff some adapter ever claimed it. -/
theorem mem_listHostnames_registerAll (as : List ProtocolAdapter) (hostname : Str) :
    hostname ∈ (registerAll as).listHostnames ↔ ∃ a ∈ as, hostname ∈ a.vendorHostnames := by
  show hostname ∈ Dict.keys (registerAll as).hostnameMap ↔ _
  rw [Dict.mem_keys, Dict.has, hostnameMap_registerAll, Option.isSome_map, ← Option.ne_none_iff_isSome, ne_eq,
    Indexes.claimant, Indexes.lastWhere_eq_none_iff]
  simp

/-! ## Agreement -/

/-- The indexes agree with the adapters: a lookup leads to adapters that are registered under their vendor and declare
    what was looked up, each once, and a registered adapter is found under each protocol it declares. -/
structure Agrees (r : ProtocolAdapterRegistry) : Prop where
  hostname : ∀ h a, r.getAdapterByHostname h = some a → r.getAdapter a.vendor = some a ∧ h ∈ a.vendorHostnames
  protocol : ∀ p, ∀ a ∈ r.getAdapterByProtocol p, r.getAdapter a.vendor = some a ∧ p ∈ a.supportedProtocols
  once : ∀ p, (r.getAdapterByProtocol p).Nodup
  found : ∀ vendor a, r.getAdapter vendor = some a → ∀ p ∈ a.supportedProtocols, a ∈ r.getAdapterByProtocol p

/-- No adapter with protocols is replaced or lists one twice, and no adapter is replaced that is the last to claim a
    hostname for a vendor with a name. -/
def NothingLost (as : List ProtocolAdapter) : Prop :=
  Indexes.GroupedOnce (·.vendor) (·.supportedProtocols) as ∧
    Indexes.ClaimsKept (·.vendor) (·.vendorHostnames) (fun vendor => vendor ≠ []) as

instance (as : List ProtocolAdapter) : Decidable (NothingLost as) := inferInstanceAs (Decidable (_ ∧ _))

/-- A registered adapter is always found under its protocols. -/
theorem found_registerAll (as : List ProtocolAdapter) (vendor : Str) (a : ProtocolAdapter)
    (h : (registerAll as).getAdapter vendor = some a) (p : ProtocolType) (hp : p ∈ a.supportedProtocols) :
    a ∈ (registerAll as).getAdapterByProtocol p := by
  rw [getAdapter_registerAll] at h
  rw [getAdapterByProtocol_registerAll]
  exact Indexes.mem_grouped.mpr ⟨Indexes.mem_of_lastWhere h, hp⟩

/-- A hostname lookup leads to the adapter its last claimant's vendor has now. -/
theorem getAdapterByHostname_registerAll (as : List ProtocolAdapter) (hostname : Str) (a : ProtocolAdapter) :
    (registerAll as).getAdapterByHostname hostname = some a ↔
      ∃ c, Indexes.claimant (·.vendorHostnames) hostname as = some c ∧ c.vendor ≠ [] ∧
        Indexes.current (·.vendor) c.vendor as = some a := by
  unfold getAdapterByHostname
  rw [hostnameMap_registerAll]
  cases Indexes.claimant (·.vendorHostnames) hostname as with
  | none => simp
  | some c =>
    simp only [Option.map_some, Option.some.injEq, exists_eq_left']
    by_cases h : c.vendor = []
    · simp [h]
    · rw [if_neg h, ← getAdapter_registerAll]
      simp only [ne_eq, h, not_false_eq_true, true_and]
      exact Iff.rfl

/-- **Hostnames.** Every hostname leads to an adapter that claims it iff no last claimant was replaced. -/
theorem hostname_iff (as : List ProtocolAdapter) :
    (∀ h a, (registerAll as).getAdapterByHostname h = some a →
        (registerAll as).getAdapter a.vendor = some a ∧ h ∈ a.vendorHostnames) ↔
      Indexes.ClaimsKept (·.vendor) (·.vendorHostnames) (fun vendor => vendor ≠ []) as := by
  rw [← Indexes.claimant_current_iff]
  constructor
  · intro hagrees h c hc hvendor
    -- the claimant's vendor has an adapter: the claimant was registered
    cases hcurrent : Indexes.current (·.vendor) c.vendor as with
    | none =>
      have habsent := Indexes.lastWhere_eq_none_iff.mp hcurrent c (Indexes.mem_of_lastWhere hc)
      simp at habsent
    | some a =>
      have hfound := (getAdapterByHostname_registerAll as h a).mpr ⟨c, hc, hvendor, hcurrent⟩
      exact ⟨a, rfl, (hagrees h a hfound).2⟩
  · intro hclaims h a hfound
    obtain ⟨c, hc, hvendor, hcurrent⟩ := (getAdapterByHostname_registerAll as h a).mp hfound
    obtain ⟨b, hb, hdeclares⟩ := hclaims h c hc hvendor
    rw [hcurrent, Option.some.injEq] at hb
    subst hb
    rw [Indexes.owner_of_current hcurrent, getAdapter_registerAll]
    exact ⟨hcurrent, hdeclares⟩

/-- **Protocols.** Every protocol has registered adapters, each once, iff no adapter with protocols was replaced and none
    lists one twice. -/
theorem protocol_iff (as : List ProtocolAdapter) :
    (∀ p, ((registerAll as).getAdapterByProtocol p).Nodup ∧
        ∀ a ∈ (registerAll as).getAdapterByProtocol p, (registerAll as).getAdapter a.vendor = some a) ↔
      Indexes.GroupedOnce (·.vendor) (·.supportedProtocols) as := by
  rw [← Indexes.grouped_current_iff]
  simp only [getAdapterByProtocol_registerAll, getAdapter_registerAll]

/-- **The indexes agree with the adapters iff nothing was lost.** -/
theorem indexes_agree (as : List ProtocolAdapter) : (registerAll as).Agrees ↔ NothingLost as := by
  rw [NothingLost, ← hostname_iff, ← protocol_iff]
  constructor
  · intro h
    exact ⟨fun p => ⟨h.once p, fun a ha => (h.protocol p a ha).1⟩, h.hostname⟩
  · rintro ⟨hprotocol, hhostname⟩
    refine ⟨hhostname, fun p a ha => ⟨(hprotocol p).2 a ha, ?_⟩, fun p => (hprotocol p).1, found_registerAll as⟩
    rw [getAdapterByProtocol_registerAll] at ha
    exact (Indexes.mem_grouped.mp ha).2

/-- A vendor registered again with other protocols: the adapter replaced is still found by its own. -/
theorem indexes_stale : ¬ ∀ as : List ProtocolAdapter, (registerAll as).Agrees := by
  intro h
  let replaced : ProtocolAdapter :=
    { object := 0, vendor := "acme", supportedProtocols := [.http], vendorHostnames := ["old.acme"] }
  let adapter : ProtocolAdapter :=
    { object := 1, vendor := "acme", supportedProtocols := [.mqtt], vendorHostnames := ["new.acme"] }
  have hfound : replaced ∈ (registerAll [replaced, adapter]).getAdapterByProtocol .http := by decide
  have hgone : (registerAll [replaced, adapter]).getAdapter "acme" ≠ some replaced := by decide
  exact hgone ((h _).protocol _ _ hfound).1

/-- Registering adapters of different vendors, each listing a protocol once, loses nothing. -/
theorem nothingLost_of_distinct {as : List ProtocolAdapter} (hvendors : (as.map (·.vendor)).Nodup)
    (hprotocols : ∀ a ∈ as, a.supportedProtocols.Nodup) : NothingLost as := by
  induction as with
  | nil => exact ⟨trivial, trivial⟩
  | cons a as ih =>
    rw [List.map_cons, List.nodup_cons] at hvendors
    have hrest := ih hvendors.2 fun b hb => hprotocols b (List.mem_cons_of_mem _ hb)
    have hunreplaced : ∀ c ∈ as, c.vendor ≠ a.vendor := fun c hc heq =>
      hvendors.1 (heq ▸ List.mem_map_of_mem hc)
    exact ⟨⟨fun _ => ⟨hprotocols a List.mem_cons_self, hunreplaced⟩, hrest.1⟩, fun _ _ _ _ => hunreplaced, hrest.2⟩

end ProtocolAdapterRegistry

end RideTheApi.Adapters
