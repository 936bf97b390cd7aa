import RideTheApi.Lib.Dict
import RideTheApi.Lib.Transition
import RideTheApi.Py.Equal

/-!
# `Protocols.Manager` — protocol servers started, stopped, edited and reconciled

`ProtocolServerManager` over its registered plugins. A plugin carries the configuration it holds, its `running` flag and
the servers it has started; each server remembers the settings its start read, which an edit of the configuration in
place does not reach. Starts and stops succeed here.

`reconcile_config` compares the new section with the configuration the plugin holds. `settled_iff` says when that is
enough: where the comparison finds nothing to do, the plugin must be as the section wants it already.
-/

namespace RideTheApi.Protocols

open Py Transition

/-- `model_dump()` of a configuration section: field names and values. -/
abbrev Settings := Dict Str Json

/-- A configuration object: its class and its fields. -/
structure Section where
  type     : Str
  settings : Settings
deriving Repr, DecidableEq

/-- `bool(getattr(cfg, "enabled", False))`. -/
def Section.enabled (cfg : Section) : Bool := ((Dict.get? cfg.settings (str "enabled")).getD (.bool false)).truthy

/-- The fields among `names`. -/
def Settings.only (names : List String) (s : Settings) : Settings := s.filter fun kv => names.any fun n => str n == kv.1

/-- What tells plugin classes apart: the settings a start reads, where the started server is kept, and whether `start`
    returns at once while a server is kept. -/
structure PluginClass where
  used    : Settings → Settings
  slot    : Settings → Str
  guarded : Bool

/-- A listener that is started once, with the settings in `fields`. -/
def listener (fields : List String) : PluginClass := ⟨Settings.only fields, fun _ => str "_server", true⟩

/-- `MQTTServerPlugin`. -/
def mqtt : PluginClass := listener ["host", "port"]

/-- `CoAPServerPlugin`. -/
def coap : PluginClass := listener ["host", "port"]

/-- `ModbusServerPlugin`. -/
def modbus : PluginClass := listener ["host", "port"]

/-- `WebSocketServerPlugin`. -/
def websocket : PluginClass := listener ["host", "port", "max_message_size"]

/-- `RawTCPServerPlugin`. -/
def rawTcp : PluginClass := listener ["host", "port"]

/-- `HTTP2ServerPlugin`. -/
def http2 : PluginClass := listener ["host", "cleartext_port"]

/-- `ZigbeeBridgePlugin`. -/
def zigbeeBridge : PluginClass :=
  listener ["mqtt_host", "mqtt_port", "mqtt_user", "mqtt_pass", "topic_prefix", "reconnect_interval"]

/-- `MatterBridgePlugin`. -/
def matterBridge : PluginClass := listener ["host", "controller_port"]

/-- `ZWaveBridgePlugin`: its `start` looks at no server it has already started. -/
def zwaveBridge : PluginClass where
  used s :=
    if s.get? (str "connection_type") = some (.str (str "ws")) then s.only ["host", "ws_port"]
    else s.only ["host", "port", "mqtt_user", "mqtt_pass"]
  slot s := if s.get? (str "connection_type") = some (.str (str "ws")) then str "_ws_task" else str "_client"
  guarded := false

/-- A plugin: `kept` holds the servers it can stop, `lost` those it started and no longer has hold of. -/
structure Plugin where
  cls     : PluginClass
  config  : Section
  running : Bool
  kept    : Dict Str Settings
  lost    : List Settings

namespace Plugin

/-- A plugin as its constructor leaves it. -/
def new (cls : PluginClass) (config : Section) : Plugin := ⟨cls, config, false, [], []⟩

/-- The settings of every server of the plugin that is up. -/
def live (p : Plugin) : List Settings := p.kept.map Prod.snd ++ p.lost

/-- `start`. -/
def start (p : Plugin) : Plugin :=
  if p.cls.guarded && !p.kept.isEmpty then p
  else
    let slot := p.cls.slot p.config.settings
    { p with running := true, kept := Dict.set p.kept slot (p.cls.used p.config.settings),
             lost := (Dict.get? p.kept slot).toList ++ p.lost }

/-- `stop`. -/
def stop (p : Plugin) : Plugin := { p with running := false, kept := [] }

/-- `hasattr` and `setattr` on the configuration, keyword by keyword: a field is set, `reserved` names are attributes
    that cannot be, and end the call; other names are skipped. -/
def setFields (reserved : Str → Bool) : Settings → Settings → Settings
  | s, []            => s
  | s, (k, v) :: kvs =>
    if Dict.has s k then setFields reserved (Dict.set s k v) kvs
    else if reserved k then s
    else setFields reserved s kvs

/-- `update_config`. -/
def updateConfig (reserved : Str → Bool) (p : Plugin) (kwargs : Settings) : Plugin :=
  { p with config := { p.config with settings := setFields reserved p.config.settings kwargs } }

/-- `old_vals == new_vals`, which are both empty for sections of different classes. -/
def sameValues (old new : Section) : Bool :=
  if old.type = new.type then pyEq (.obj old.settings) (.obj new.settings) else true

/-- `plugin.config = sub`. -/
def withConfig (p : Plugin) (sub : Section) : Plugin := { p with config := sub }

/-- `reconcile_config` for one plugin and its section `sub`. -/
def reconcile (p : Plugin) (sub : Section) : Plugin :=
  if sub.enabled then
    if p.config.enabled && sameValues p.config sub then p.withConfig sub
    else if p.running then (p.withConfig sub).stop.start
    else (p.withConfig sub).start
  else if p.config.enabled then (p.withConfig sub).stop
  else p.withConfig sub

/-- The plugin runs exactly when its section enables it, and then with that section's settings. -/
def Settled (p : Plugin) (sub : Section) : Prop :=
  p.config = sub ∧
    if sub.enabled then p.running = true ∧ p.live = [p.cls.used sub.settings]
    else p.running = false ∧ p.live = []

/-- No server of the plugin is lost, and where the comparison finds nothing to do the plugin is as `sub` wants it. -/
def Comparable (p : Plugin) (sub : Section) : Prop :=
  p.lost = [] ∧
    (sub.enabled = true → p.config.enabled = true → sameValues p.config sub = true →
      p.running = true ∧ p.live = [p.cls.used sub.settings]) ∧
    (sub.enabled = false → p.config.enabled = false → p.running = false)

/-- The flag says whether the plugin has a server to stop. -/
def Coherent (p : Plugin) : Prop := p.running = !p.kept.isEmpty

theorem coherent_new (cls : PluginClass) (config : Section) : (new cls config).Coherent := rfl

theorem coherent_stop (p : Plugin) : p.stop.Coherent := rfl

theorem set_ne_nil (d : Dict Str Settings) (k : Str) (v : Settings) : (Dict.set d k v).isEmpty = false := by
  cases d with
  | nil => rfl
  | cons kv d =>
    rw [Dict.set]
    split <;> rfl

theorem Coherent.start {p : Plugin} (h : p.Coherent) : p.start.Coherent := by
  unfold Plugin.start
  split
  · exact h
  · show true = !(Dict.set p.kept _ _).isEmpty
    rw [set_ne_nil]
    rfl

/-- Starting a plugin that has nothing running. -/
theorem start_of_stopped {p : Plugin} (hkept : p.kept = []) :
    p.start.running = true ∧ p.start.live = p.cls.used p.config.settings :: p.lost ∧ p.start.config = p.config := by
  have hstart : p.start =
      { p with running := true, kept := [(p.cls.slot p.config.settings, p.cls.used p.config.settings)] } := by
    unfold Plugin.start
    rw [hkept, List.isEmpty_nil, Bool.not_true, Bool.and_false, if_neg Bool.false_ne_true]
    rfl
  rw [hstart]
  exact ⟨rfl, rfl, rfl⟩

theorem Coherent.kept_eq_nil {p : Plugin} (h : p.Coherent) (hrun : p.running = false) : p.kept = [] := by
  unfold Coherent at h
  rw [hrun] at h
  simpa using h.symm

theorem Coherent.reconcile {p : Plugin} (h : p.Coherent) (sub : Section) : (p.reconcile sub).Coherent := by
  have hconfig : (p.withConfig sub).Coherent := h
  unfold Plugin.reconcile
  split
  · split
    · exact hconfig
    · split
      · exact (coherent_stop _).start
      · exact hconfig.start
  · split
    · exact coherent_stop _
    · exact hconfig

/-- **One plugin.** Reconciling settles it exactly when the comparison it goes by is good enough. -/
theorem settled_reconcile_iff {p : Plugin} (h : p.Coherent) (sub : Section) :
    (p.reconcile sub).Settled sub ↔ p.Comparable sub := by
  unfold Comparable
  cases hnew : sub.enabled with
  | true =>
    cases hsame : p.config.enabled && sameValues p.config sub with
    | true =>
      obtain ⟨hold, hvals⟩ := Bool.and_eq_true_iff.mp hsame
      -- the values compare as the same: the server that runs is left as it is
      have hrec : p.reconcile sub = p.withConfig sub := by
        simp only [Plugin.reconcile, hnew, hsame, if_true]
      rw [hrec]
      simp only [Settled, withConfig, live, hnew, hold, hvals, if_true, true_and, forall_const, reduceCtorEq,
        false_implies, and_true]
      constructor
      · intro hset
        -- the one server that is live is the one that is kept
        have hkept : p.kept ≠ [] := fun hnil => by
          have := h
          rw [Coherent, hnil, hset.1] at this
          cases this
        refine ⟨?_, hset⟩
        obtain ⟨kv, kept, hcons⟩ := List.exists_cons_of_ne_nil hkept
        have hlive : kv.2 :: (kept.map Prod.snd ++ p.lost) = [p.cls.used sub.settings] := by
          rw [← hset.2]
          show _ = p.kept.map Prod.snd ++ p.lost
          rw [hcons]
          rfl
        exact (List.append_eq_nil_iff.mp (List.cons.inj hlive).2).2
      · exact fun hc => hc.2
    | false =>
      -- stopped if it ran, the plugin is started with the new section
      have hstopped : ∃ q : Plugin, q.kept = [] ∧ q.lost = p.lost ∧ q.cls = p.cls ∧ q.config = sub ∧
          p.reconcile sub = q.start := by
        simp only [Plugin.reconcile, hnew, hsame, if_true, Bool.false_eq_true, if_false]
        cases hrun : p.running with
        | true => exact ⟨(p.withConfig sub).stop, rfl, rfl, rfl, rfl, rfl⟩
        | false => exact ⟨p.withConfig sub, h.kept_eq_nil hrun, rfl, rfl, rfl, rfl⟩
      obtain ⟨q, hkept, hlost, hcls, hcfg, hrec⟩ := hstopped
      obtain ⟨hrun, hlive, hconfig⟩ := start_of_stopped hkept
      have hclass : q.start.cls = q.cls := by
        unfold Plugin.start
        split <;> rfl
      rw [hrec]
      simp only [Settled, hnew, hrun, hlive, hconfig, hclass, hcls, hcfg, hlost, if_true, true_and, List.cons.injEq,
        reduceCtorEq, false_implies, and_true]
      refine ⟨fun hnil => ⟨hnil, fun _ hold hvals => ?_⟩, fun hc => hc.1⟩
      rw [hold, hvals] at hsame
      cases hsame
  | false =>
    simp only [reduceCtorEq, false_implies, true_and, forall_const]
    cases hold : p.config.enabled with
    | true =>
      -- it is switched off, and stopped
      have hrec : p.reconcile sub = (p.withConfig sub).stop := by
        simp only [Plugin.reconcile, hnew, hold, if_true, Bool.false_eq_true, if_false]
      rw [hrec]
      simp only [Settled, hnew, stop, withConfig, live, List.map_nil, List.nil_append, true_and, Bool.false_eq_true, if_false,
        reduceCtorEq, false_implies, and_true]
    | false =>
      have hrec : p.reconcile sub = p.withConfig sub := by
        simp only [Plugin.reconcile, hnew, hold, Bool.false_eq_true, if_false]
      rw [hrec]
      simp only [Settled, hnew, withConfig, live, true_and, Bool.false_eq_true, if_false, forall_const]
      constructor
      · rintro ⟨hrun, hlive⟩
        exact ⟨(List.append_eq_nil_iff.mp hlive).2, hrun⟩
      · rintro ⟨hlost, hrun⟩
        exact ⟨hrun, by rw [hlost, h.kept_eq_nil hrun]; rfl⟩

end Plugin

/-! ## The manager -/

/-- The registered plugins by name. -/
abbrev Manager := Dict Str Plugin

/-- The calls on the manager. -/
inductive Call where
  | startAll
  | startPlugin (name : Str)
  | stopPlugin (name : Str)
  | updatePluginConfig (name : Str) (kwargs : Settings)
  | reconcileConfig (newConfig : Dict Str Section)

namespace Manager

/-- `start_all`. -/
def startAll (m : Manager) : Manager := m.map fun np => (np.1, if np.2.config.enabled then np.2.start else np.2)

/-- `reconcile_config`: a plugin the configuration has no section for is left alone. -/
def reconcileConfig (m : Manager) (newConfig : Dict Str Section) : Manager :=
  m.map fun np => (np.1, match Dict.get? newConfig np.1 with
    | none     => np.2
    | some sub => np.2.reconcile sub)

/-- A call. -/
def step (reserved : Str → Bool) (m : Manager) : Call → Option Manager
  | .startAll                       => some m.startAll
  | .startPlugin name               => some (Dict.modify m name Plugin.start)
  | .stopPlugin name                => some (Dict.modify m name Plugin.stop)
  | .updatePluginConfig name kwargs => some (Dict.modify m name fun p => p.updateConfig reserved kwargs)
  | .reconcileConfig newConfig      => some (m.reconcileConfig newConfig)

/-- What `reconcile_config` owes: every registered plugin the new configuration has a section for is settled. -/
def Converges (m : Manager) : Call → Prop
  | .reconcileConfig newConfig =>
    ∀ name p, (name, p) ∈ m.reconcileConfig newConfig → ∀ sub, Dict.get? newConfig name = some sub → p.Settled sub
  | _ => True

/-- For every such plugin the comparison is good enough before the call. -/
def Comparable (m : Manager) : Call → Prop
  | .reconcileConfig newConfig =>
    ∀ name p, (name, p) ∈ m → ∀ sub, Dict.get? newConfig name = some sub → p.Comparable sub
  | _ => True

/-- Every plugin's flag is right. -/
def Coherent (m : Manager) : Prop := ∀ np ∈ m, np.2.Coherent

variable {m m' : Manager} {reserved : Str → Bool}

theorem converges_iff (h : m.Coherent) (c : Call) : m.Converges c ↔ m.Comparable c := by
  cases c with
  | reconcileConfig newConfig =>
    constructor
    · intro hc name p hp sub hsub
      refine (Plugin.settled_reconcile_iff (h _ hp) sub).mp (hc name _ (List.mem_map.mpr ⟨_, hp, ?_⟩) sub hsub)
      simp only [hsub]
    · intro hc name q hq sub hsub
      obtain ⟨⟨name', p⟩, hp, heq⟩ := List.mem_map.mp hq
      obtain ⟨rfl, rfl⟩ := Prod.mk.inj heq
      simp only [hsub]
      exact (Plugin.settled_reconcile_iff (h _ hp) sub).mpr (hc name' p hp sub hsub)
  | startAll => exact Iff.rfl
  | startPlugin name => exact Iff.rfl
  | stopPlugin name => exact Iff.rfl
  | updatePluginConfig name kwargs => exact Iff.rfl

theorem Coherent.map {f : Str × Plugin → Plugin} (h : m.Coherent) (hf : ∀ np, np.2.Coherent → (f np).Coherent) :
    Coherent (m.map fun np => (np.1, f np)) := by
  intro np hnp
  obtain ⟨np', hmem, rfl⟩ := List.mem_map.mp hnp
  exact hf np' (h np' hmem)

theorem Coherent.modify {name : Str} {f : Plugin → Plugin} (h : m.Coherent) (hf : ∀ p, p.Coherent → (f p).Coherent) :
    Coherent (Dict.modify m name f) := by
  intro np hnp
  obtain ⟨np', hmem, rfl⟩ := List.mem_map.mp hnp
  split
  · exact hf np'.2 (h np' hmem)
  · exact h np' hmem

/-- Every call keeps the flags right. -/
theorem Coherent.step {c : Call} (h : m.Coherent) (hs : step reserved m c = some m') : m'.Coherent := by
  cases c with
  | startAll =>
    cases hs
    refine h.map fun np hnp => ?_
    split
    · exact hnp.start
    · exact hnp
  | startPlugin name =>
    cases hs
    exact h.modify fun p hp => hp.start
  | stopPlugin name =>
    cases hs
    exact h.modify fun p _ => Plugin.coherent_stop p
  | updatePluginConfig name kwargs =>
    cases hs
    exact h.modify fun p hp => hp
  | reconcileConfig newConfig =>
    cases hs
    refine h.map fun np hnp => ?_
    split
    · exact hnp
    · exact hnp.reconcile _

/-- **Where the servers converge.** Over every run of calls on plugins that have just been registered: each
    `reconcile_config` settles what it has sections for iff before each of them the comparison is good enough. -/
theorem converges_along_iff (reserved : Str → Bool) (plugins : Dict Str (PluginClass × Section)) (calls : List Call) :
    AllOk (step reserved) Converges (plugins.map fun np => (np.1, .new np.2.1 np.2.2)) calls ↔
      AllOk (step reserved) Comparable (plugins.map fun np => (np.1, .new np.2.1 np.2.2)) calls := by
  refine allOk_iff_allOk (fun _ c h => converges_iff h c) (fun _ _ _ h _ hs => h.step hs) fun np hnp => ?_
  obtain ⟨np', -, rfl⟩ := List.mem_map.mp hnp
  exact Plugin.coherent_new _ _

/-- A plugin that was stopped by hand stays stopped through a reconcile that enables it. -/
theorem not_converges_stopped :
    ¬ ∀ reserved (plugins : Dict Str (PluginClass × Section)) calls,
      AllOk (step reserved) Converges (plugins.map fun np => (np.1, .new np.2.1 np.2.2)) calls := by
  intro h
  let on : Section := ⟨str "RawTCPServerConfig", [(str "enabled", .bool true)]⟩
  have hrun := h (fun _ => false) [(str "raw_tcp", rawTcp, on)]
    [.startAll, .stopPlugin (str "raw_tcp"), .reconcileConfig [(str "raw_tcp", on)]]
  have hset := hrun.2.2.1 (str "raw_tcp") _ (List.mem_singleton.mpr rfl) on rfl
  exact absurd hset.2.1 (by decide)

end Manager
end RideTheApi.Protocols
