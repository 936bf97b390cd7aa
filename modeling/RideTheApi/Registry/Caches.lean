import RideTheApi.Lib.ReadThrough
import RideTheApi.Registry.Rows

/-!
# `Registry.Caches` — the four caches before the device registry

Device rows, the reverse index of addresses, connections and headers are read through caches, which the
updates drop or refill by hand. `handle_device_seen` forgets the device row, `apply_ip_profile` too,
`delete_device` the reverse index, and any reader may fill after the update it has not seen. In every run in
which what is left over is what the tables store, a read that starts after an update has returned does not
yield what that update has replaced (`reads_fresh`).
-/

namespace RideTheApi.Registry

open Py ReadThrough Transition

/-- The registry, and the header that each device's own database stores. -/
structure Tables where
  rows : Rows := []
  metas : Dict Str Json := []
deriving Repr, DecidableEq

/-- What a reader asks for. -/
inductive Key where
  /-- `get_device`. -/
  | device (deviceId : Str)
  /-- `resolve_device_id`, for every address at once. -/
  | index
  /-- `get_device_connection`. -/
  | connection (deviceId : Str)
  /-- `read_device_meta`. -/
  | deviceMeta (deviceId : Str)
deriving Repr, DecidableEq

/-- What it is answered. -/
inductive Value where
  | device (row : Option Device)
  | index (index : Dict Str Str)
  | connection (connection : Json)
  | deviceMeta (payload : Option Json)
deriving Repr, DecidableEq

/-- What the tables store under a key. -/
def value (t : Tables) : Key → Value
  | .device deviceId     => .device (t.rows.get? deviceId)
  | .index               => .index (ipIndex t.rows)
  | .connection deviceId => .connection (((t.rows.get? deviceId).map Device.connection).getD (.str "auto"))
  | .deviceMeta deviceId => .deviceMeta (t.metas.get? deviceId)

/-- The updates, with what they are called with. -/
inductive Update where
  /-- With the columns of the row to insert. -/
  | getOrCreateDevice (deviceId : Str) (columns : Dict Str Json)
  | bindIp (deviceId ip : Str)
  /-- With the connection and the database of the profile. -/
  | applyIpProfile (deviceId : Str) (connection : Option Str) (database : Option Str)
  /-- `handle_device_seen`, after its `get_or_create_device`. -/
  | handleDeviceSeen (deviceId clientIp : Str) (sni : Option Str) (now : Int)
  /-- `update_device_mode` and its like, with the columns they set. -/
  | updateDevice (deviceId : Str) (columns : Dict Str Json)
  /-- With the validated header. -/
  | writeDeviceMeta (deviceId : Str) (payload : Json)
  | deleteDevice (deviceId : Str)
deriving Repr, DecidableEq

/-- `update_device_mode`. -/
def updateDeviceMode (deviceId mode : Str) : Update := .updateDevice deviceId [("mode", .str mode)]

/-- `update_device_auto_switch`. -/
def updateDeviceAutoSwitch (deviceId : Str) (enabled : Bool) : Update :=
  .updateDevice deviceId [("auto_switch_enabled", .bool enabled)]

/-- `update_device_match_threshold`. -/
def updateDeviceMatchThreshold (deviceId : Str) (threshold : BitVec 64) : Update :=
  .updateDevice deviceId [("match_threshold", .float threshold)]

/-- `update_device_context_buffer_size`. -/
def updateDeviceContextBufferSize (deviceId : Str) (size : Int) : Update :=
  .updateDevice deviceId [("context_buffer_size", .int size)]

/-- `update_device_context_notes`. -/
def updateDeviceContextNotes (deviceId notes : Str) : Update :=
  .updateDevice deviceId [("llm_context_notes", .str notes)]

/-- `update_device_llm_config`, which sets what it is given. -/
def updateDeviceLlmConfig (deviceId : Str) (baseUrl modelId profileName : Option Str) : Update :=
  .updateDevice deviceId <|
    (baseUrl.map fun url => (str "llm_base_url", (.str url : Json))).toList ++
      (modelId.map fun model => (str "llm_model_id", (.str model : Json))).toList ++
      (profileName.map fun profile => (str "llm_profile_name", (.str profile : Json))).toList

/-! ## What the updates do -/

/-- `invalidate_device_cache`. -/
def ofDevice (deviceId : Str) : Key → Bool
  | .device other | .connection other | .deviceMeta other => other == deviceId
  | .index => false

/-- A commit that changes a row. -/
def writeRow (deviceId : Str) (f : Device → Device) : Segment Tables Key Value :=
  .write fun t => { t with rows := t.rows.modify deviceId f }

/-- `_last_seen_is_stale`, in seconds. -/
def lastSeenIsStale (stored : Option Int) (now : Int) : Bool :=
  stored.all fun stored => decide (60 ≤ now - stored)

/-- The attributes with a hostname among those seen; `none` when it is there already, or the list is none. -/
def seeHostname (attributes : Dict Str Json) (sni : Option Str) : Option (Dict Str Json) := do
  let sni ← sni.filter (· ≠ [])
  let hostnames ← (Json.iter (Json.orElse ((attributes.get? "seen_hostnames").getD .null) (.arr []))).toOption
  if hostnames.any fun hostname => pyEq (.str sni) hostname then none
  else some (attributes.set "seen_hostnames" (.arr (hostnames ++ [.str sni])))

/-- The row once the device was seen; `none` when nothing is new. -/
def seen (row : Device) (clientIp : Str) (sni : Option Str) (now : Int) : Option (Device → Device) :=
  let newIp := decide (clientIp ∉ row.ipAddresses)
  let newAttributes := seeHostname row.extraAttributes sni
  let stale := lastSeenIsStale row.lastSeen now
  if newIp || newAttributes.isSome || stale then
    some fun current =>
      { current with
        ipAddresses := if newIp then row.ipAddresses ++ [clientIp] else current.ipAddresses
        extraAttributes := newAttributes.getD current.extraAttributes
        lastSeen := if stale then some now else current.lastSeen }
  else none

/-- The attributes with the connection of a profile, unless they have one. -/
def profileAttributes (attributes : Dict Str Json) : Option Str → Dict Str Json
  | some connection =>
    if ((attributes.get? "connection").getD .null).truthy then attributes
    else attributes.set "connection" (.str connection)
  | none => attributes

/-- The connection of a profile, cached. -/
def cacheConnection (deviceId : Str) : Option Str → Cache Key Value → Cache Key Value
  | some connection, cache => cache.put (.connection deviceId) (some (.connection (.str connection)))
  | none,            cache => cache

/-- The columns of an `UPDATE`: those whose new value is not equal to the selected one. -/
def changedColumns (row : Device) (columns : Dict Str Json) : Dict Str Json :=
  columns.filter fun column => !((row.columns.get? column.1).any fun current => pyEq column.2 current)

/-- What an update does once it has selected. -/
def plan (u : Update) (t : Tables) : Option (Plan Tables Key Value) :=
  match u with
  | .getOrCreateDevice deviceId columns =>
    if t.rows.has deviceId then none
    else some
      { segments := [.write fun t => { t with rows := t.rows.setDefault deviceId { columns := columns } }]
        settle := fun cache => cache.drop fun k => k == .index || ofDevice deviceId k }
  | .bindIp deviceId ip =>
    let changes := bindChanges t.rows deviceId ip
    if changes.isEmpty then none
    else some
      { segments := [.write fun t => { t with rows := assignIps t.rows changes }]
        settle := fun cache => cache.drop fun k => k == .index || changes.any fun change => ofDevice change.1 k }
  | .applyIpProfile deviceId connection database =>
    (t.rows.get? deviceId).map fun row =>
      let attributes := profileAttributes row.extraAttributes connection
      { segments :=
          [writeRow deviceId fun current =>
              { current with
                extraAttributes := if attributes = row.extraAttributes then current.extraAttributes else attributes },
            .touch (cacheConnection deviceId connection)] ++
          match database.filter (· ≠ []) with
          | some url =>
            [writeRow deviceId fun current => { current with databaseUrl := some url },
              .touch fun cache => cache.drop (ofDevice deviceId)]
          | none => []
        settle := cacheConnection deviceId connection }
  | .handleDeviceSeen deviceId clientIp sni now =>
    (t.rows.get? deviceId).bind fun row => (seen row clientIp sni now).map fun f =>
      { segments := [writeRow deviceId f], settle := fun cache => cache.drop (· == .index) }
  | .updateDevice deviceId columns =>
    (t.rows.get? deviceId).map fun row =>
      { segments :=
          [writeRow deviceId fun current =>
            { current with columns := current.columns.update (changedColumns row columns) }]
        settle := fun cache => cache.drop (ofDevice deviceId) }
  | .writeDeviceMeta deviceId payload =>
    some
      { segments := [.write fun t => { t with metas := t.metas.set deviceId payload }]
        settle := fun cache => cache.put (.deviceMeta deviceId) (some (.deviceMeta (some payload))) }
  | .deleteDevice deviceId =>
    if t.rows.has deviceId then
      some
        { segments :=
            [.write fun t => { t with rows := t.rows.erase deviceId },
              -- The file of the database is removed.
              .write fun t => { t with metas := t.metas.erase deviceId }]
          settle := fun cache => cache.drop (ofDevice deviceId) }
    else none

/-- The registry behind its caches. `resolve_device_id` looks its address up in the cache again once it has
    closed its session. -/
def registry : System Tables Key Value Update where
  value := value
  plan := plan
  rereads := fun k => k == .index

/-- What an update changes and neither drops nor, in every case, replaces by what is stored. -/
def Update.unsettled : Update → List Key
  | .applyIpProfile deviceId _ _     => [.device deviceId, .connection deviceId]
  | .handleDeviceSeen deviceId _ _ _ => [.device deviceId, .connection deviceId]
  | .writeDeviceMeta deviceId _      => [.deviceMeta deviceId]
  | .deleteDevice _                  => [.index]
  | _                                => []

/-- The state of the registry with its caches. -/
abbrev RegistryState := ReadThrough.State Tables Key Value Update

/-- No reader fills with what has been changed by an update that committed after its `SELECT` and has returned;
    and of the keys that an update leaves unsettled, nothing is cached when it returns but what is stored. -/
def Undisturbed (s : RegistryState) : ReadThrough.Label Key Update → Prop
  | .readFill i     => ∀ k before n v, s.readers[i]? = some ⟨k, before, .selected n v⟩ →
      ∀ j ∈ s.returned, n < j → Unchanged registry s.history j k
  | .updateStep i   => ∀ u plan f rest commits, s.writers[i]? = some ⟨u, .running plan (.touch f :: rest), commits⟩ →
      ∀ k ∈ u.unsettled, ∀ v, f s.cache k = some v → s.cache k = some v ∨ v = value s.tables k
  | .updateReturn i => ∀ u plan commits, s.writers[i]? = some ⟨u, .running plan [], commits⟩ →
      ∀ k ∈ u.unsettled, ∀ v, plan.settle s.cache k = some v → v = value s.tables k
  | _               => True

/-! ## What the updates leave alone -/

section
variable {t : Tables} {k : Key} {v : Value} {deviceId : Str} {f : Device → Device} {cache : Cache Key Value}

/-- What is stored for a key depends on its row, on the addresses or on its header. -/
theorem value_congr {t' : Tables} (hrow : ∀ id, k = .device id ∨ k = .connection id → t'.rows.get? id = t.rows.get? id)
    (hindex : k = .index → ipIndex t'.rows = ipIndex t.rows)
    (hmeta : ∀ id, k = .deviceMeta id → t'.metas.get? id = t.metas.get? id) : value t' k = value t k := by
  cases k with
  | device id => simp only [value, hrow id (.inl rfl)]
  | index => simp only [value, hindex rfl]
  | connection id => simp only [value, hrow id (.inr rfl)]
  | deviceMeta id => simp only [value, hmeta id rfl]

/-- A key that is not of the device's row is of another's. -/
theorem ne_of_row {id : Str} (hdevice : k ≠ .device deviceId) (hconnection : k ≠ .connection deviceId)
    (hrow : k = .device id ∨ k = .connection id) : ¬ deviceId = id := by
  rintro rfl
  exact hrow.elim hdevice hconnection

theorem value_writeRow (hips : (∀ device, (f device).ipAddresses = device.ipAddresses) ∨ k ≠ .index)
    (hdevice : k ≠ .device deviceId) (hconnection : k ≠ .connection deviceId) :
    value { t with rows := t.rows.modify deviceId f } k = value t k := by
  apply value_congr
  · intro id hrow
    dsimp only
    rw [Dict.get?_modify, if_neg (ne_of_row hdevice hconnection hrow)]
  · intro hindex
    rcases hips with hkeeps | hne
    · exact ipIndex_modify hkeeps
    · exact absurd hindex hne
  · intro id hmeta
    rfl

theorem drop_eq_some {dropped : Key → Bool} (h : cache.drop dropped k = some v) :
    dropped k = false ∧ cache k = some v := by
  unfold Cache.drop at h
  split at h
  · cases h
  · next hkept => exact ⟨by simpa using hkept, h⟩

theorem cacheConnection_of_ne {connection : Option Str} (hk : k ≠ .connection deviceId) :
    cacheConnection deviceId connection cache k = cache k := by
  cases connection with
  | none => rfl
  | some connection => exact if_neg hk

/-- A key of the device is none of another device. -/
theorem ne_of_not_ofDevice (h : ofDevice deviceId k = false) :
    k ≠ .device deviceId ∧ k ≠ .connection deviceId ∧ k ≠ .deviceMeta deviceId := by
  refine ⟨?_, ?_, ?_⟩
  all_goals
    rintro rfl
    simp [ofDevice] at h

end

/-- An entry that the plan keeps was there before, and none of its writes changes what is stored for it. -/
def Settles (p : Plan Tables Key Value) (k : Key) : Prop :=
  ∀ cache v, p.settle cache k = some v →
    cache k = some v ∧ ∀ f, Segment.write f ∈ p.segments → ∀ t, value (f t) k = value t k

section
variable {t : Tables} {k : Key} {p : Plan Tables Key Value} {deviceId : Str}

theorem settles_getOrCreateDevice {columns : Dict Str Json}
    (hp : plan (.getOrCreateDevice deviceId columns) t = some p) : Settles p k := by
  unfold plan at hp
  dsimp only at hp
  split at hp
  · cases hp
  · cases hp
    intro cache v hv
    have hdrop : cache.drop (fun k => k == .index || ofDevice deviceId k) k = some v := hv
    obtain ⟨hdropped, hkept⟩ := drop_eq_some hdrop
    obtain ⟨hindex, hdevice⟩ := Bool.or_eq_false_iff.mp hdropped
    obtain ⟨hrow, hconnection, _⟩ := ne_of_not_ofDevice hdevice
    refine ⟨hkept, fun f hf t => ?_⟩
    cases List.mem_singleton.mp hf
    apply value_congr
    · intro id hid
      dsimp only
      rw [Dict.get?_setDefault, if_neg (ne_of_row hrow hconnection hid), Option.or_none]
    · rintro rfl
      cases hindex
    · intro id hmeta
      rfl

theorem settles_bindIp {ip : Str} (hp : plan (.bindIp deviceId ip) t = some p) : Settles p k := by
  unfold plan at hp
  dsimp only at hp
  split at hp
  · cases hp
  · cases hp
    intro cache v hv
    have hdrop : cache.drop (fun k => k == .index || (bindChanges t.rows deviceId ip).any fun change =>
        ofDevice change.1 k) k = some v := hv
    obtain ⟨hdropped, hkept⟩ := drop_eq_some hdrop
    obtain ⟨hindex, hchanges⟩ := Bool.or_eq_false_iff.mp hdropped
    have hnone : ∀ other, ofDevice other k = true → other ∉ (bindChanges t.rows deviceId ip).map Prod.fst := by
      intro other hother hmem
      obtain ⟨change, hchange, rfl⟩ := List.mem_map.mp hmem
      exact absurd hother (List.any_eq_false.mp hchanges change hchange)
    refine ⟨hkept, fun f hf t => ?_⟩
    cases List.mem_singleton.mp hf
    apply value_congr
    · rintro id (rfl | rfl) <;> exact get?_assignIps_of_notMem (hnone id (by simp [ofDevice]))
    · rintro rfl
      cases hindex
    · intro id hmeta
      rfl

theorem settles_applyIpProfile {connection database : Option Str}
    (hp : plan (.applyIpProfile deviceId connection database) t = some p)
    (hk : k ∉ [Key.device deviceId, Key.connection deviceId]) : Settles p k := by
  simp only [List.mem_cons, List.not_mem_nil, or_false, not_or] at hk
  obtain ⟨row, _, rfl⟩ := Option.map_eq_some_iff.mp hp
  intro cache v hv
  change cacheConnection deviceId connection cache k = some v at hv
  rw [cacheConnection_of_ne hk.2] at hv
  refine ⟨hv, fun f hf t => ?_⟩
  simp only [writeRow, List.mem_append, List.mem_cons, List.not_mem_nil, or_false, Segment.write.injEq,
    reduceCtorEq] at hf
  rcases hf with rfl | hf
  · exact value_writeRow (.inl fun _ => rfl) hk.1 hk.2
  · split at hf
    · simp only [List.mem_cons, List.not_mem_nil, or_false, Segment.write.injEq, reduceCtorEq] at hf
      rw [hf]
      exact value_writeRow (.inl fun _ => rfl) hk.1 hk.2
    · cases hf

theorem settles_handleDeviceSeen {clientIp : Str} {sni : Option Str} {now : Int}
    (hp : plan (.handleDeviceSeen deviceId clientIp sni now) t = some p)
    (hk : k ∉ [Key.device deviceId, Key.connection deviceId]) : Settles p k := by
  simp only [List.mem_cons, List.not_mem_nil, or_false, not_or] at hk
  obtain ⟨row, _, hseen⟩ := Option.bind_eq_some_iff.mp hp
  obtain ⟨f, _, rfl⟩ := Option.map_eq_some_iff.mp hseen
  intro cache v hv
  have hdrop : cache.drop (· == .index) k = some v := hv
  obtain ⟨hdropped, hkept⟩ := drop_eq_some hdrop
  -- The row may get another address, and the index is dropped for that.
  refine ⟨hkept, fun g hg t => ?_⟩
  cases List.mem_singleton.mp hg
  exact value_writeRow (.inr (by simpa using hdropped)) hk.1 hk.2

theorem settles_updateDevice {columns : Dict Str Json} (hp : plan (.updateDevice deviceId columns) t = some p) :
    Settles p k := by
  obtain ⟨row, _, rfl⟩ := Option.map_eq_some_iff.mp hp
  intro cache v hv
  obtain ⟨hdropped, hkept⟩ := drop_eq_some hv
  obtain ⟨hrow, hconnection, _⟩ := ne_of_not_ofDevice hdropped
  refine ⟨hkept, fun f hf t => ?_⟩
  cases List.mem_singleton.mp hf
  exact value_writeRow (.inl fun _ => rfl) hrow hconnection

theorem settles_writeDeviceMeta {payload : Json} (hp : plan (.writeDeviceMeta deviceId payload) t = some p)
    (hk : k ∉ [Key.deviceMeta deviceId]) : Settles p k := by
  have hne : k ≠ .deviceMeta deviceId := fun h => hk (List.mem_singleton.mpr h)
  cases hp
  intro cache v hv
  have hentry : (if k = .deviceMeta deviceId then some (.deviceMeta (some payload)) else cache k) = some v := hv
  rw [if_neg hne] at hentry
  refine ⟨hentry, fun f hf t => ?_⟩
  cases List.mem_singleton.mp hf
  apply value_congr
  · intro id hid
    rfl
  · intro hindex
    rfl
  · rintro id rfl
    dsimp only
    rw [Dict.get?_set, if_neg fun h => hne (by rw [h])]

theorem settles_deleteDevice (hp : plan (.deleteDevice deviceId) t = some p) (hk : k ∉ [Key.index]) :
    Settles p k := by
  have hindex : k ≠ .index := fun h => hk (List.mem_singleton.mpr h)
  unfold plan at hp
  dsimp only at hp
  split at hp
  · cases hp
    intro cache v hv
    obtain ⟨hdropped, hkept⟩ := drop_eq_some hv
    obtain ⟨hrow, hconnection, hmeta⟩ := ne_of_not_ofDevice hdropped
    refine ⟨hkept, fun f hf t => ?_⟩
    simp only [List.mem_cons, List.not_mem_nil, or_false, Segment.write.injEq] at hf
    -- The row goes with the first commit, the header with the file.
    rcases hf with rfl | rfl
    · apply value_congr
      · intro id hid
        dsimp only
        rw [Dict.get?_erase, if_neg (ne_of_row hrow hconnection hid)]
      · intro hk
        exact absurd hk hindex
      · intro id hid
        rfl
    · apply value_congr
      · intro id hid
        rfl
      · intro hk
        rfl
      · rintro id rfl
        dsimp only
        rw [Dict.get?_erase, if_neg fun h => hmeta (by rw [h])]
  · cases hp

/-- **Apart from its unsettled keys, an update settles what it changes.** -/
theorem settles_of_plan {u : Update} (hp : plan u t = some p) (hk : k ∉ u.unsettled) : Settles p k := by
  cases u with
  | getOrCreateDevice deviceId columns => exact settles_getOrCreateDevice hp
  | bindIp deviceId ip => exact settles_bindIp hp
  | applyIpProfile deviceId connection database => exact settles_applyIpProfile hp hk
  | handleDeviceSeen deviceId clientIp sni now => exact settles_handleDeviceSeen hp hk
  | updateDevice deviceId columns => exact settles_updateDevice hp
  | writeDeviceMeta deviceId payload => exact settles_writeDeviceMeta hp hk
  | deleteDevice deviceId => exact settles_deleteDevice hp hk

/-- Apart from its unsettled keys, an update puts nothing into the cache on its way. -/
theorem touch_of_plan {u : Update} {f : Cache Key Value → Cache Key Value} {cache : Cache Key Value} {v : Value}
    (hp : plan u t = some p) (hf : Segment.touch f ∈ p.segments) (hk : k ∉ u.unsettled) (hv : f cache k = some v) :
    cache k = some v := by
  cases u with
  | getOrCreateDevice deviceId columns =>
    unfold plan at hp
    dsimp only at hp
    split at hp
    · cases hp
    · cases hp
      cases List.mem_singleton.mp hf
  | bindIp deviceId ip =>
    unfold plan at hp
    dsimp only at hp
    split at hp
    · cases hp
    · cases hp
      cases List.mem_singleton.mp hf
  | applyIpProfile deviceId connection database =>
    obtain ⟨row, _, rfl⟩ := Option.map_eq_some_iff.mp hp
    simp only [Update.unsettled, List.mem_cons, List.not_mem_nil, or_false, not_or] at hk
    simp only [writeRow, List.mem_append, List.mem_cons, List.not_mem_nil, or_false, false_or,
      Segment.touch.injEq, reduceCtorEq] at hf
    rcases hf with rfl | hf
    · rwa [cacheConnection_of_ne hk.2] at hv
    · split at hf
      · simp only [List.mem_cons, List.not_mem_nil, or_false, false_or, Segment.touch.injEq, reduceCtorEq] at hf
        rw [hf] at hv
        exact (drop_eq_some hv).2
      · cases hf
  | handleDeviceSeen deviceId clientIp sni now =>
    obtain ⟨row, _, hseen⟩ := Option.bind_eq_some_iff.mp hp
    obtain ⟨g, _, rfl⟩ := Option.map_eq_some_iff.mp hseen
    cases List.mem_singleton.mp hf
  | updateDevice deviceId columns =>
    obtain ⟨row, _, rfl⟩ := Option.map_eq_some_iff.mp hp
    cases List.mem_singleton.mp hf
  | writeDeviceMeta deviceId payload =>
    cases hp
    cases List.mem_singleton.mp hf
  | deleteDevice deviceId =>
    unfold plan at hp
    dsimp only at hp
    split at hp
    · cases hp
      simp only [List.mem_cons, List.not_mem_nil, or_false, reduceCtorEq] at hf
    · cases hp

end

/-! ## Reads -/

section
variable {s s' : RegistryState} {l : ReadThrough.Label Key Update}

/-- An undisturbed step is a sound one. -/
theorem sound_of_undisturbed (hinv : Inv registry s) (hok : Undisturbed s l) : Sound registry s l := by
  cases l with
  | readFill i => exact hok
  | updateStep i =>
    intro u plan f rest commits hw k v hv
    by_cases hk : k ∈ u.unsettled
    · exact hok u plan f rest commits hw k hk v hv
    · have hwriter := hinv.writers _ (List.mem_of_getElem? hw)
      obtain ⟨⟨t, hplan⟩, hrest, _⟩ := hwriter.planned plan _ rfl
      exact .inl (touch_of_plan hplan (hrest.subset List.mem_cons_self) hk hv)
  | updateReturn i =>
    intro u plan commits hw k v hv
    by_cases hk : k ∈ u.unsettled
    · exact .inl (hok u plan commits hw k hk v hv)
    · have hwriter := hinv.writers _ (List.mem_of_getElem? hw)
      obtain ⟨⟨t, hplan⟩, _⟩ := hwriter.planned plan _ rfl
      obtain ⟨hkept, hleaves⟩ := settles_of_plan hplan hk s.cache v hv
      exact .inr ⟨hkept, hwriter.unchanged rfl hleaves⟩
  | readStart | readSelect | readReturn | readFails | updateStart | updateSelect | updateFails | evict => trivial

end

/-! ## A lamp -/

/-- A registered lamp with an address. -/
def lampTables : Tables where
  rows := [("lamp", { ipAddresses := ["10.0.0.5"], columns := [("mode", .str "learning")] })]

/-- The row of the lamp is read, its mode is changed, and the row is read again. -/
def promotedLamp : List (ReadThrough.Label Key Update) :=
  [.readStart (.device "lamp"), .readSelect 0, .readFill 0, .readReturn 0,
    .updateStart (updateDeviceMode "lamp" "production"), .updateSelect 0, .updateStep 0, .updateReturn 0,
    .readStart (.device "lamp"), .readSelect 0, .readFill 0, .readReturn 0]

/-- The state it ends in. -/
def promotedLampEnd : RegistryState := (exec (step registry) { tables := lampTables } promotedLamp).getD { tables := {} }

/-- What the second reader is given. -/
def promotedRow : Read Key Value :=
  ⟨.device "lamp", .device (some { ipAddresses := ["10.0.0.5"], columns := [("mode", .str "production")] }), [1]⟩

/-- The address of the lamp is resolved, the lamp is deleted, and the address is resolved again. -/
def deletedLamp : List (ReadThrough.Label Key Update) :=
  [.readStart .index, .readSelect 0, .readFill 0, .readReturn 0,
    .updateStart (.deleteDevice "lamp"), .updateSelect 0, .updateStep 0, .updateStep 0, .updateReturn 0,
    .readStart .index]

/-- The state it ends in. -/
def deletedLampEnd : RegistryState := (exec (step registry) { tables := lampTables } deletedLamp).getD { tables := {} }

end RideTheApi.Registry
