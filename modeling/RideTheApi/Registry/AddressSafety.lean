import RideTheApi.Registry.Addresses

/-!
# `Registry.AddressSafety` — an address belongs to one device

A sighting lists its address for the device named after it without asking who holds it, and every writer commits
a list that it read some awaits ago. In the runs in which no write is overtaken and no sighting takes an address
that is bound elsewhere, each address has one holder and a lookup names the device it was bound to.
-/

namespace RideTheApi.Registry.Addresses

open Py Transition

/-! ## Rows and their index -/

section
variable {rows : Rows} {ip x deviceId : Str}

instance (rows : Rows) : Decidable (OneHolder rows) :=
  inferInstanceAs (Decidable (∀ row ∈ rows, ∀ row' ∈ rows, ∀ ip ∈ row.2.ipAddresses, _ → _))

/-- The device lists the address. -/
def Lists (rows : Rows) (deviceId ip : Str) : Prop := ∃ row, (deviceId, row) ∈ rows ∧ ip ∈ row.ipAddresses

theorem get?_foldl_setDefault (ips : List Str) (index : Dict Str Str) :
    (ips.foldl (fun index ip => index.setDefault ip deviceId) index).get? x =
      (index.get? x).or (if x ∈ ips then some deviceId else none) := by
  induction ips generalizing index with
  | nil => simp
  | cons ip ips ih =>
    rw [List.foldl_cons, ih, Dict.get?_setDefault, Option.or_assoc]
    congr 1
    by_cases hx : ip = x
    · simp [hx]
    · rw [if_neg hx, Option.none_or]
      simp [Ne.symm hx]

/-- The index names the first device that lists an address. -/
theorem get?_ipIndex : (ipIndex rows).get? ip = (rows.find? fun row => ip ∈ row.2.ipAddresses).map Prod.fst := by
  have hfold : ∀ (rows : Rows) (index : Dict Str Str),
      (rows.foldl (fun index row => row.2.ipAddresses.foldl (fun index ip => index.setDefault ip row.1) index) index).get? ip =
        (index.get? ip).or ((rows.find? fun row => ip ∈ row.2.ipAddresses).map Prod.fst) := by
    intro rows
    induction rows with
    | nil => simp
    | cons row rows ih =>
      intro index
      rw [List.foldl_cons, ih, get?_foldl_setDefault, Option.or_assoc, List.find?_cons]
      congr 1
      by_cases hip : ip ∈ row.2.ipAddresses <;> simp [hip]
  exact (hfold rows []).trans (Option.none_or)

theorem ipIndex_of_lists (h : OneHolder rows) (hl : Lists rows deviceId ip) : (ipIndex rows).get? ip = some deviceId := by
  obtain ⟨row, hrow, hip⟩ := hl
  rw [get?_ipIndex]
  cases hfind : rows.find? fun row => ip ∈ row.2.ipAddresses with
  | none => exact absurd hip (by simpa using List.find?_eq_none.mp hfind _ hrow)
  | some first =>
    have hfirst := List.find?_some hfind
    exact congrArg some (h first (List.mem_of_find?_eq_some hfind) _ hrow ip (by simpa using hfirst) hip)

/-! ### Rows changed at one address -/

variable {g : Str × Device → Device}

/-- The rows with every device changed by its entry. -/
def changeRows (rows : Rows) (g : Str × Device → Device) : Rows := rows.map fun row => (row.1, g row)

theorem keys_changeRows : (changeRows rows g).keys = rows.keys := by
  unfold changeRows Dict.keys
  rw [List.map_map]
  rfl

theorem oneHolder_changeRows (holder : Str) (h : OneHolder rows)
    (hother : ∀ row ∈ rows, ∀ x, x ≠ ip → (x ∈ (g row).ipAddresses ↔ x ∈ row.2.ipAddresses))
    (hip : ∀ row ∈ rows, ip ∈ (g row).ipAddresses → row.1 = holder) : OneHolder (changeRows rows g) := by
  intro row hrow row' hrow' x hx hx'
  obtain ⟨row, hmem, rfl⟩ := List.mem_map.mp hrow
  obtain ⟨row', hmem', rfl⟩ := List.mem_map.mp hrow'
  by_cases heq : x = ip
  · subst heq
    exact (hip row hmem hx).trans (hip row' hmem' hx').symm
  · exact h row hmem row' hmem' x ((hother row hmem x heq).mp hx) ((hother row' hmem' x heq).mp hx')

theorem lists_changeRows (h : Lists rows deviceId x)
    (hkept : ∀ row ∈ rows, x ∈ row.2.ipAddresses → x ∈ (g row).ipAddresses) : Lists (changeRows rows g) deviceId x := by
  obtain ⟨row, hrow, hx⟩ := h
  exact ⟨g (deviceId, row), List.mem_map.mpr ⟨_, hrow, rfl⟩, hkept _ hrow hx⟩

theorem modify_eq_changeRows (f : Device → Device) :
    rows.modify deviceId f = changeRows rows fun row => if row.1 = deviceId then f row.2 else row.2 := by
  unfold Dict.modify changeRows
  refine List.map_congr_left fun row _ => ?_
  dsimp only
  split <;> rfl

/-- New addresses for some rows, each by its own change. -/
theorem assignIps_eq_changeRows {changes : List (Str × List Str)} (h : (changes.map Prod.fst).Nodup) :
    assignIps rows changes =
      changeRows rows fun row => { row.2 with ipAddresses := (Dict.get? changes row.1).getD row.2.ipAddresses } := by
  unfold assignIps
  induction changes generalizing rows with
  | nil => exact (List.map_id' rows).symm
  | cons change changes ih =>
    obtain ⟨hnot, hrest⟩ := List.nodup_cons.mp h
    rw [List.foldl_cons, ih hrest, modify_eq_changeRows]
    unfold changeRows
    rw [List.map_map]
    refine List.map_congr_left fun row _ => ?_
    obtain ⟨id, ips⟩ := change
    dsimp only [Function.comp_apply]
    rw [Dict.get?_cons]
    by_cases hid : id = row.1
    · have hnone : Dict.get? changes row.1 = none := Dict.get?_eq_none.mpr (hid ▸ hnot)
      simp [hid, hnone]
    · simp [hid, Ne.symm hid]

end

/-! ## What `bind_ip` and a sighting write -/

section
variable {read : Rows} {deviceId ip : Str}

/-- The addresses `bind_ip` gives a row it has read. -/
def boundIps (deviceId ip : Str) (row : Str × Device) : Option (List Str) :=
  if row.1 = deviceId then
    if ip ∈ row.2.ipAddresses then none else some (row.2.ipAddresses ++ [ip])
  else if ip ∈ row.2.ipAddresses then some (row.2.ipAddresses.filter (· ≠ ip))
  else none

theorem bindChanges_eq (h : read.has deviceId = true) :
    bindChanges read deviceId ip = read.filterMap fun row => (boundIps deviceId ip row).map (Prod.mk row.1) := by
  unfold bindChanges
  rw [if_pos h]
  refine List.filterMap_congr fun row _ => ?_
  unfold boundIps
  split
  · split <;> rfl
  · split <;> rfl

theorem keys_bindChanges_nodup (hread : read.keys.Nodup) (h : read.has deviceId = true) :
    ((bindChanges read deviceId ip).map Prod.fst).Nodup := by
  rw [bindChanges_eq h]
  refine List.Nodup.sublist ?_ hread
  clear hread h
  induction read with
  | nil => exact List.Sublist.slnil
  | cons row rows ih =>
    rw [List.filterMap_cons]
    cases boundIps deviceId ip row with
    | none => exact ih.cons _
    | some ips => exact ih.cons_cons _

theorem get?_bindChanges (hread : read.keys.Nodup) (h : read.has deviceId = true) {id : Str} {ips : List Str}
    (hips : Dict.get? (bindChanges read deviceId ip) id = some ips) :
    ∃ row, read.get? id = some row ∧ boundIps deviceId ip (id, row) = some ips := by
  have hmem := Dict.mem_of_get? hips
  rw [bindChanges_eq h] at hmem
  obtain ⟨row, hrow, heq⟩ := List.mem_filterMap.mp hmem
  obtain ⟨ips', hips', hpair⟩ := Option.map_eq_some_iff.mp heq
  cases hpair
  exact ⟨row.2, Dict.get?_of_mem hread hrow, hips'⟩

/-- What is written differs from what was read by the address only, and lists that for the device only. -/
theorem mem_boundIps {row : Str × Device} {ips : List Str} (h : boundIps deviceId ip row = some ips) :
    (∀ x, x ≠ ip → (x ∈ ips ↔ x ∈ row.2.ipAddresses)) ∧ (ip ∈ ips ↔ row.1 = deviceId) := by
  unfold boundIps at h
  split at h
  next hid =>
    split at h
    · cases h
    · cases h
      refine ⟨fun x hx => ?_, iff_of_true (List.mem_append_right _ List.mem_cons_self) hid⟩
      rw [List.mem_append, List.mem_singleton]
      exact or_iff_left hx
  next hid =>
    split at h
    · cases h
      refine ⟨fun x hx => ?_, iff_of_false (fun hmem => ?_) hid⟩
      · rw [List.mem_filter]
        exact and_iff_left (by simpa using hx)
      · exact absurd (List.mem_filter.mp hmem).2 (by simp)
    · cases h

/-- What a sighting writes to the addresses of the row it has read. -/
theorem ipAddresses_seen {row : Device} {sni : Option Str} {now : Int} {f : Device → Device}
    (h : seen row ip sni now = some f) (current : Device) :
    (f current).ipAddresses = if ip ∈ row.ipAddresses then current.ipAddresses else row.ipAddresses ++ [ip] := by
  unfold seen at h
  dsimp only at h
  split at h
  · cases h
    by_cases hip : ip ∈ row.ipAddresses <;> simp [hip]
  · cases h

end

/-! ## Guarded runs -/

variable (selfConnection : Str → Bool)

/-- The kept index names the owner of an address. -/
def IndexRight (w : Watched) (ip : Str) : Prop :=
  ∀ deviceId ∈ w.owner.get? ip, ∀ index ∈ w.sys.ipLookupCache, Dict.get? index ip = some deviceId

instance (w : Watched) (ip : Str) : Decidable (IndexRight w ip) :=
  inferInstanceAs (Decidable (∀ deviceId ∈ w.owner.get? ip, ∀ index ∈ w.sys.ipLookupCache, _))

/-- No other call is binding the address. -/
def LastBind (w : Watched) (id : Nat) (ip : Str) : Prop :=
  ∀ entry ∈ w.sys.tasks, entry.2.binds ip = true → entry.1 = id

instance (w : Watched) (id : Nat) (ip : Str) : Decidable (LastBind w id ip) :=
  inferInstanceAs (Decidable (∀ entry ∈ w.sys.tasks, _))

/-- Before a sighting lists its address, its row holds what it has read, or that and the address already, and
    nobody else lists the address. -/
def SightingCurrent (rows : Rows) (sighting : Sighting) (read : Device) : Prop :=
  sighting.clientIp ∉ read.ipAddresses → ∀ row ∈ rows,
    if row.1 = deviceIdFromIp sighting.clientIp then
      row.2.ipAddresses = read.ipAddresses ∨ row.2.ipAddresses = read.ipAddresses ++ [sighting.clientIp]
    else sighting.clientIp ∉ row.2.ipAddresses

instance (rows : Rows) (sighting : Sighting) (read : Device) : Decidable (SightingCurrent rows sighting read) :=
  inferInstanceAs (Decidable (_ → ∀ row ∈ rows, ite _ _ _))

/-- A row that `bind_ip` writes holds what it has read, or what it writes already; of the others the device alone
    lists the address. -/
def RowCurrent (deviceId ip : Str) (read : Rows) (row : Str × Device) : Prop :=
  (∀ ips ∈ Dict.get? (bindChanges read deviceId ip) row.1,
    row.2.ipAddresses = ips ∨ ∀ old ∈ read.get? row.1, row.2.ipAddresses = old.ipAddresses) ∧
  (Dict.get? (bindChanges read deviceId ip) row.1 = none → (ip ∈ row.2.ipAddresses ↔ row.1 = deviceId))

/-- Every row is as `bind_ip` takes it to be when it commits. -/
def BindCurrent (rows : Rows) (deviceId ip : Str) (read : Rows) : Prop := ∀ row ∈ rows, RowCurrent deviceId ip read row

instance (rows : Rows) (deviceId ip : Str) (read : Rows) : Decidable (BindCurrent rows deviceId ip read) :=
  inferInstanceAs (Decidable (∀ row ∈ rows, (∀ ips ∈ Dict.get? _ row.1, _ ∨ ∀ old ∈ read.get? row.1, _) ∧ (_ → _)))

/-- What a call may find as it goes on. -/
def TaskGuarded (w : Watched) (id : Nat) : Task → Prop
  | .marking sighting read _      => SightingCurrent w.sys.rows sighting read
  | .bindWriting deviceId ip read => BindCurrent w.sys.rows deviceId ip read
  | .indexing _ index =>
    ∀ entry ∈ w.owner, w.promised entry.1 = some entry.2 → index.get? entry.1 = some entry.2
  | .binding deviceId ip => w.sys.rows.has deviceId = false → LastBind w id ip → IndexRight w ip
  | .bound _ ip changed  => changed = false → LastBind w id ip → IndexRight w ip
  | .closing _           => (w.due.get? id).isSome → w.sys.ipLookupCache.isSome
  | _ => True

instance (w : Watched) (id : Nat) : DecidablePred (TaskGuarded w id)
  | .marking sighting read _      => inferInstanceAs (Decidable (SightingCurrent w.sys.rows sighting read))
  | .bindWriting deviceId ip read => inferInstanceAs (Decidable (BindCurrent w.sys.rows deviceId ip read))
  | .indexing _ _                 => inferInstanceAs (Decidable (∀ entry ∈ w.owner, _ → _))
  | .binding _ ip                 => inferInstanceAs (Decidable (_ → LastBind w id ip → IndexRight w ip))
  | .bound _ ip _                 => inferInstanceAs (Decidable (_ → LastBind w id ip → IndexRight w ip))
  | .closing _                    => inferInstanceAs (Decidable (_ → _))
  | .creating _ _ _ | .inserting _ _ _ | .inserted _ _ | .opening _ | .sighted _ | .marked | .resolving _ => .isTrue trivial

/-- No write is overtaken, no sighting takes a held address, no lookup keeps an index from before a bind that
    has returned, a bind that changes nothing returns over an index that is right, and a lookup that owes an
    answer finds the index still there when it looks again. -/
def Guarded (w : Watched) : Event → Prop
  | .begin _ _   => True
  | .resume id _ => ∀ t ∈ w.sys.tasks.get? id, TaskGuarded w id t

instance (w : Watched) : DecidablePred (Guarded w)
  | .begin _ _   => .isTrue trivial
  | .resume id _ => inferInstanceAs (Decidable (∀ t ∈ w.sys.tasks.get? id, TaskGuarded w id t))

/-- What holds in every state of a guarded run. -/
structure Inv (w : Watched) : Prop where
  ids : w.sys.tasks.keys.Nodup
  dues : w.due.keys.Nodup
  distinct : w.sys.rows.keys.Nodup
  oneHolder : OneHolder w.sys.rows
  owned : ∀ ip deviceId, w.owner.get? ip = some deviceId → Lists w.sys.rows deviceId ip
  index : ∀ ip deviceId index, w.promised ip = some deviceId → w.sys.ipLookupCache = some index →
    index.get? ip = some deviceId
  due : ∀ id ip deviceId, w.due.get? id = some (ip, deviceId) → w.promised ip = some deviceId ∧
    (w.sys.tasks.get? id = some (.resolving ip) ∨
      (∃ index, w.sys.tasks.get? id = some (.indexing ip index) ∧ index.get? ip = some deviceId) ∨
      w.sys.tasks.get? id = some (.closing ip))
  read : ∀ id deviceId ip read, w.sys.tasks.get? id = some (.bindWriting deviceId ip read) →
    read.keys.Nodup ∧ read.has deviceId = true ∧ w.sys.rows.has deviceId = true

theorem inv_init (r : Registered) : Inv (init r) where
  ids := List.nodup_nil
  dues := List.nodup_nil
  distinct := r.distinct
  oneHolder := r.oneHolder
  owned := fun _ _ h => by cases h
  index := fun _ _ _ h _ => by cases h
  due := fun _ _ _ h => by cases h
  read := fun _ _ _ _ h => by cases h

/-! ## Calls under way -/

section
variable {s : System} {w : Watched} {id id' : Nat} {now : Int} {t : Task} {next : Option Task} {ip deviceId : Str}

theorem get?_keep : (s.keep id next).tasks.get? id' = if id = id' then next else s.tasks.get? id' := by
  cases next with
  | none => exact Dict.get?_erase s.tasks id id'
  | some t => exact Dict.get?_set s.tasks id id' t

theorem nodup_keep (h : s.tasks.keys.Nodup) : (s.keep id next).tasks.keys.Nodup := by
  cases next with
  | none => exact h.sublist (List.filter_sublist.map Prod.fst)
  | some t => exact Dict.nodup_keys_set h

/-- What is promised: the owner, while nobody binds the address. -/
theorem promised_iff (h : w.sys.tasks.keys.Nodup) :
    w.promised ip = some deviceId ↔
      (∀ id t, w.sys.tasks.get? id = some t → t.binds ip = false) ∧ w.owner.get? ip = some deviceId := by
  unfold Watched.promised
  by_cases hany : (w.sys.tasks.any fun entry => entry.2.binds ip) = true
  · rw [if_pos hany]
    refine iff_of_false nofun fun hno => ?_
    obtain ⟨entry, hentry, hbinds⟩ := List.any_eq_true.mp hany
    rw [hno.1 entry.1 entry.2 (Dict.get?_of_mem h hentry)] at hbinds
    cases hbinds
  · rw [if_neg hany]
    refine (and_iff_right fun id t ht => ?_).symm
    by_contra hbinds
    exact hany (List.any_eq_true.mpr ⟨_, Dict.mem_of_get? ht, by simpa using hbinds⟩)

/-- **One call goes on.** What it must leave for the invariant to hold again: rows with one holder that still
    list what is owned, an index that is right for what is promised now, and, where the call is a lookup that
    owes an answer, the state that a lookup is in next. -/
theorem Inv.keep {rows' : Rows} {cache' : Option (Dict Str Str)} {owner' : Dict Str Str} {due' : Dict Nat (Str × Str)}
    (h : Inv w) (ht : w.sys.tasks.get? id = some t)
    (hbinds : ∀ t', next = some t' → ∀ ip, t'.binds ip = t.binds ip)
    (hdistinct : rows'.keys.Nodup) (hone : OneHolder rows') (hhas : ∀ d, w.sys.rows.has d = true → rows'.has d = true)
    (howned : ∀ ip d, owner'.get? ip = some d → Lists rows' d ip)
    (howner : ∀ ip, t.binds ip = false ∨ next = none → owner'.get? ip = w.owner.get? ip)
    (hindex : ∀ ip d index, w.promised ip = some d ∨ next = none ∧ t.binds ip = true ∧ LastBind w id ip ∧ w.owner.get? ip = some d →
      cache' = some index → index.get? ip = some d)
    (hdues : due'.keys.Nodup) (hother : ∀ id', id' ≠ id → ∀ p, due'.get? id' = some p → w.due.get? id' = some p)
    (hdue : ∀ ip d, due'.get? id = some (ip, d) → w.due.get? id = some (ip, d) ∧
      (next = some (.resolving ip) ∨ (∃ index, next = some (.indexing ip index) ∧ index.get? ip = some d) ∨
        next = some (.closing ip)))
    (hread : ∀ d ip read, next = some (.bindWriting d ip read) →
      read.keys.Nodup ∧ read.has d = true ∧ rows'.has d = true) :
    Inv ⟨System.keep ⟨rows', cache', w.sys.tasks⟩ id next, owner', due'⟩ := by
  have hids : (System.keep ⟨rows', cache', w.sys.tasks⟩ id next).tasks.keys.Nodup := nodup_keep h.ids
  have hrows : (System.keep ⟨rows', cache', w.sys.tasks⟩ id next).rows = rows' := by cases next <;> rfl
  have hcache : (System.keep ⟨rows', cache', w.sys.tasks⟩ id next).ipLookupCache = cache' := by cases next <;> rfl
  have hget : ∀ id', (System.keep ⟨rows', cache', w.sys.tasks⟩ id next).tasks.get? id' =
      if id = id' then next else w.sys.tasks.get? id' := fun id' => get?_keep
  -- nothing is promised now that was not before, but by the end of the last bind
  have hback : ∀ ip d, Watched.promised ⟨System.keep ⟨rows', cache', w.sys.tasks⟩ id next, owner', due'⟩ ip = some d →
      w.promised ip = some d ∨ next = none ∧ t.binds ip = true ∧ LastBind w id ip ∧ w.owner.get? ip = some d := by
    intro ip d hp
    obtain ⟨hno, howns⟩ := (promised_iff hids).mp hp
    have hothers : ∀ id' t', id' ≠ id → w.sys.tasks.get? id' = some t' → t'.binds ip = false := by
      intro id' t' hne ht'
      exact hno id' t' ((hget id').trans (by rw [if_neg (Ne.symm hne)]; exact ht'))
    cases hb : t.binds ip with
    | false =>
      refine .inl ((promised_iff h.ids).mpr ⟨fun id' t' ht' => ?_, (howner ip (.inl hb)).symm.trans howns⟩)
      by_cases hid : id' = id
      · subst hid
        cases ht.symm.trans ht'
        exact hb
      · exact hothers id' t' hid ht'
    | true =>
      have hnone : next = none := by
        cases hn : next with
        | none => rfl
        | some t' =>
          have := hno id t' ((hget id).trans (by rw [if_pos rfl]; exact hn))
          rw [hbinds t' hn ip, hb] at this
          cases this
      refine .inr ⟨hnone, rfl, fun entry hentry hbind => ?_, (howner ip (.inr hnone)).symm.trans howns⟩
      by_contra hne
      rw [hothers entry.1 entry.2 hne (Dict.get?_of_mem h.ids hentry)] at hbind
      cases hbind
  -- what was promised is promised still, since the call binds nothing else
  have hforth : ∀ ip d, w.promised ip = some d →
      Watched.promised ⟨System.keep ⟨rows', cache', w.sys.tasks⟩ id next, owner', due'⟩ ip = some d := by
    intro ip d hp
    obtain ⟨hno, howns⟩ := (promised_iff h.ids).mp hp
    have hb := hno id t ht
    refine (promised_iff hids).mpr ⟨fun id' t' ht' => ?_, (howner ip (.inl hb)).trans howns⟩
    rw [hget] at ht'
    split at ht'
    · rw [hbinds t' ht' ip]
      exact hb
    · exact hno id' t' ht'
  constructor
  · exact hids
  · exact hdues
  · rw [hrows]
    exact hdistinct
  · rw [hrows]
    exact hone
  · intro ip d hd
    rw [hrows]
    exact howned ip d hd
  · intro ip d index hp hc
    rw [hcache] at hc
    exact hindex ip d index (hback ip d hp) hc
  · -- what is owed: by this call as its next state says, by the others as before
    intro id' ip d hd
    by_cases hid : id' = id
    · subst hid
      obtain ⟨hd, hnext⟩ := hdue ip d hd
      refine ⟨hforth ip d (h.due _ ip d hd).1, ?_⟩
      rw [hget, if_pos rfl]
      exact hnext
    · obtain ⟨hp, htask⟩ := h.due id' ip d (hother id' hid _ hd)
      refine ⟨hforth ip d hp, ?_⟩
      rw [hget, if_neg (Ne.symm hid)]
      exact htask
  · intro id' d ip read hr
    rw [hget] at hr
    rw [hrows]
    split at hr
    · exact hread d ip read hr
    · obtain ⟨hnodup, hd, hd'⟩ := h.read id' d ip read hr
      exact ⟨hnodup, hd, hhas d hd'⟩

/-- Only a lookup owes an answer. -/
theorem Inv.not_due (h : Inv w) (ht : w.sys.tasks.get? id = some t)
    (hlookup : ∀ ip index, t ≠ .resolving ip ∧ t ≠ .indexing ip index ∧ t ≠ .closing ip) : w.due.get? id = none := by
  cases hd : w.due.get? id with
  | none => rfl
  | some p =>
    obtain ⟨-, htask | ⟨index, htask, -⟩ | htask⟩ := h.due id p.1 p.2 hd
    · exact absurd (Option.some.inj (ht.symm.trans htask)) (hlookup p.1 []).1
    · exact absurd (Option.some.inj (ht.symm.trans htask)) (hlookup p.1 index).2.1
    · exact absurd (Option.some.inj (ht.symm.trans htask)) (hlookup p.1 []).2.2

/-- A call that is no lookup goes on and leaves the rows as they are, and the index as it is or forgotten. -/
theorem Inv.keep_rows {cache' : Option (Dict Str Str)} (h : Inv w) (ht : w.sys.tasks.get? id = some t)
    (hlookup : ∀ ip index, t ≠ .resolving ip ∧ t ≠ .indexing ip index ∧ t ≠ .closing ip)
    (hbinds : ∀ t', next = some t' → ∀ ip, t'.binds ip = t.binds ip)
    (hcache : cache' = none ∨ cache' = w.sys.ipLookupCache ∧
      (next = none → ∀ ip, t.binds ip = true → LastBind w id ip → IndexRight w ip))
    (hread : ∀ d ip read, next = some (.bindWriting d ip read) →
      read.keys.Nodup ∧ read.has d = true ∧ w.sys.rows.has d = true) :
    Inv ⟨System.keep ⟨w.sys.rows, cache', w.sys.tasks⟩ id next, w.owner, w.due⟩ := by
  refine h.keep ht hbinds h.distinct h.oneHolder (fun _ hd => hd) h.owned (fun _ _ => rfl) ?_ h.dues (fun _ _ _ hd => hd) ?_ hread
  · intro ip d index hp hc
    rcases hcache with rfl | ⟨rfl, hend⟩
    · cases hc
    · rcases hp with hp | ⟨hnone, hb, hlast, howns⟩
      · exact h.index ip d index hp hc
      · exact hend hnone ip hb hlast d howns index hc
  · intro ip d hd
    rw [h.not_due ht hlookup] at hd
    cases hd

/-! ### Row by row -/

/-- The book after a call has gone on. -/
def ownerAfter (w : Watched) : Task → Dict Str Str
  | .bindWriting deviceId ip _ => w.owner.set ip deviceId
  | _ => w.owner

def dueAfter (w : Watched) (id : Nat) : Task → Dict Nat (Str × Str)
  | .closing _ => w.due.erase id
  | _ => w.due

variable {selfConnection : Str → Bool} {w' : Watched}

/-- What a call that goes on does. -/
theorem resume_cases (h : step selfConnection w (.resume id now) = some w') :
    ∃ t, w.sys.tasks.get? id = some t ∧
      w' = ⟨(advance w.sys now t).1.keep id (advance w.sys now t).2, ownerAfter w t, dueAfter w id t⟩ := by
  obtain ⟨s', hs, rfl⟩ := Option.map_eq_some_iff.mp h
  simp only [System.step] at hs
  cases ht : w.sys.tasks.get? id with
  | none =>
    rw [ht] at hs
    cases hs
  | some t =>
    refine ⟨t, rfl, ?_⟩
    rw [ht] at hs
    cases t with
    | creating deviceId columns sighting =>
      simp only at hs
      split at hs
      · cases hs
      · cases hs
        simp only [ht]
        rfl
    | _ =>
      cases hs
      simp only [ht]
      rfl

/-- A new device lists no address. -/
theorem Inv.inserting {columns : Dict Str Json} {sighting : Option Sighting} (h : Inv w)
    (ht : w.sys.tasks.get? id = some (.inserting deviceId columns sighting)) :
    Inv ⟨System.keep ⟨w.sys.rows.setDefault deviceId { columns := columns }, w.sys.ipLookupCache, w.sys.tasks⟩ id
      (some (.inserted deviceId sighting)), w.owner, w.due⟩ := by
  have hold : ∀ row ∈ w.sys.rows, row ∈ w.sys.rows.setDefault deviceId { columns := columns } := by
    intro row hrow
    unfold Dict.setDefault
    split
    · exact hrow
    · next hno =>
      rw [Dict.set_of_notMem _ (fun hmem => hno (Dict.mem_keys.mp hmem))]
      exact List.mem_append_left _ hrow
  have hnew : ∀ row ∈ w.sys.rows.setDefault deviceId { columns := columns }, ∀ x ∈ row.2.ipAddresses, row ∈ w.sys.rows := by
    intro row hrow x hx
    unfold Dict.setDefault at hrow
    split at hrow
    · exact hrow
    · rcases Dict.mem_set hrow with hrow | rfl
      · exact hrow
      · cases hx
  refine h.keep ht ?_ ?_ ?_ ?_ ?_ (fun _ _ => rfl) ?_ h.dues (fun _ _ _ hd => hd) ?_ ?_
  · intro t' ht' ip
    cases ht'
    rfl
  · unfold Dict.setDefault
    split
    · exact h.distinct
    · exact Dict.nodup_keys_set h.distinct
  · intro row hrow row' hrow' x hx hx'
    exact h.oneHolder row (hnew row hrow x hx) row' (hnew row' hrow' x hx') x hx hx'
  · intro d hd
    rw [← Dict.mem_keys] at hd ⊢
    obtain ⟨row, hrow, rfl⟩ := List.mem_map.mp hd
    exact List.mem_map_of_mem (hold row hrow)
  · intro ip d hd
    obtain ⟨row, hrow, hip⟩ := h.owned ip d hd
    exact ⟨row, hold _ hrow, hip⟩
  · rintro ip d index (hp | ⟨hnone, -⟩) hc
    · exact h.index ip d index hp hc
    · cases hnone
  · intro ip d hd
    rw [h.not_due ht (by simp)] at hd
    cases hd
  · intro d ip read hr
    cases hr

/-- A guarded sighting adds its address where nobody lists it. -/
theorem Inv.marking {sighting : Sighting} {row : Device} {seenAt : Int} {f : Device → Device} (h : Inv w)
    (ht : w.sys.tasks.get? id = some (.marking sighting row seenAt))
    (hf : seen row sighting.clientIp sighting.sni seenAt = some f)
    (hok : SightingCurrent w.sys.rows sighting row) :
    Inv ⟨System.keep ⟨w.sys.rows.modify (deviceIdFromIp sighting.clientIp) f, w.sys.ipLookupCache, w.sys.tasks⟩ id
      (some .marked), w.owner, w.due⟩ := by
  rw [modify_eq_changeRows]
  -- the row may only gain `clientIp`: every other address is listed where it was
  have hother : ∀ entry ∈ w.sys.rows, ∀ x, x ≠ sighting.clientIp →
      (x ∈ (if entry.1 = deviceIdFromIp sighting.clientIp then f entry.2 else entry.2).ipAddresses ↔
        x ∈ entry.2.ipAddresses) := by
    intro entry hentry x hx
    split
    next hid =>
      rw [ipAddresses_seen hf]
      split
      · exact Iff.rfl
      next hnew =>
        have hcurrent := hok hnew entry hentry
        rw [if_pos hid] at hcurrent
        rcases hcurrent with hcurrent | hcurrent <;> simp [hcurrent, hx]
    next => exact Iff.rfl
  have hkept : ∀ x, ∀ entry ∈ w.sys.rows, x ∈ entry.2.ipAddresses →
      x ∈ (if entry.1 = deviceIdFromIp sighting.clientIp then f entry.2 else entry.2).ipAddresses := by
    intro x entry hentry hx
    by_cases heq : x = sighting.clientIp
    · subst heq
      split
      · rw [ipAddresses_seen hf]
        split
        · exact hx
        · exact List.mem_append_right _ List.mem_cons_self
      · exact hx
    · exact (hother entry hentry x heq).mpr hx
  refine h.keep ht ?_ ?_ ?_ ?_ ?_ (fun _ _ => rfl) ?_ h.dues (fun _ _ _ hd => hd) ?_ ?_
  · intro t' ht' ip
    cases ht'
    rfl
  · rw [keys_changeRows]
    exact h.distinct
  · by_cases hnew : sighting.clientIp ∈ row.ipAddresses
    · -- nothing is added
      intro entry hentry entry' hentry' x hx hx'
      obtain ⟨entry, hmem, rfl⟩ := List.mem_map.mp hentry
      obtain ⟨entry', hmem', rfl⟩ := List.mem_map.mp hentry'
      have hback : ∀ entry : Str × Device,
          (if entry.1 = deviceIdFromIp sighting.clientIp then f entry.2 else entry.2).ipAddresses = entry.2.ipAddresses := by
        intro entry
        split
        · rw [ipAddresses_seen hf, if_pos hnew]
        · rfl
      rw [hback] at hx hx'
      exact h.oneHolder entry hmem entry' hmem' x hx hx'
    · refine oneHolder_changeRows (deviceIdFromIp sighting.clientIp) h.oneHolder hother ?_
      intro entry hentry hip
      by_contra hid
      have hcurrent := hok hnew entry hentry
      rw [if_neg hid] at hip hcurrent
      exact hcurrent hip
  · intro d hd
    rw [← Dict.mem_keys, keys_changeRows]
    exact Dict.mem_keys.mpr hd
  · intro ip d hd
    exact lists_changeRows (h.owned ip d hd) (hkept ip)
  · rintro ip d index (hp | ⟨hnone, -⟩) hc
    · exact h.index ip d index hp hc
    · cases hnone
  · intro ip d hd
    rw [h.not_due ht (by simp)] at hd
    cases hd
  · intro d ip read hr
    cases hr

/-- A guarded bind moves its address and no other. -/
theorem Inv.bindWriting {read : Rows} (h : Inv w) (ht : w.sys.tasks.get? id = some (.bindWriting deviceId ip read))
    (hok : BindCurrent w.sys.rows deviceId ip read) (changed : Bool) :
    Inv ⟨System.keep ⟨assignIps w.sys.rows (bindChanges read deviceId ip), w.sys.ipLookupCache, w.sys.tasks⟩ id
      (some (.bound deviceId ip changed)), w.owner.set ip deviceId, w.due⟩ := by
  obtain ⟨hnodup, hread, hhas⟩ := h.read id deviceId ip read ht
  rw [assignIps_eq_changeRows (keys_bindChanges_nodup hnodup hread)]
  have hrow : ∀ entry ∈ w.sys.rows,
      (∀ x, x ≠ ip → (x ∈ (Dict.get? (bindChanges read deviceId ip) entry.1).getD entry.2.ipAddresses ↔
        x ∈ entry.2.ipAddresses)) ∧
      (ip ∈ (Dict.get? (bindChanges read deviceId ip) entry.1).getD entry.2.ipAddresses ↔ entry.1 = deviceId) := by
    intro entry hentry
    have hcurrent := hok entry hentry
    cases hips : Dict.get? (bindChanges read deviceId ip) entry.1 with
    | none => exact ⟨fun _ _ => Iff.rfl, hcurrent.2 hips⟩
    | some ips =>
      obtain ⟨old, hold, hbound⟩ := get?_bindChanges hnodup hread hips
      obtain ⟨hother, hip⟩ := mem_boundIps hbound
      refine ⟨fun x hx => ?_, hip⟩
      rcases hcurrent.1 ips hips with hcurrent | hcurrent
      · rw [hcurrent]
        exact Iff.rfl
      · rw [hcurrent old hold]
        exact hother x hx
  refine h.keep ht ?_ ?_ ?_ ?_ ?_ ?_ ?_ h.dues (fun _ _ _ hd => hd) ?_ ?_
  · intro t' ht' ip
    cases ht'
    rfl
  · rw [keys_changeRows]
    exact h.distinct
  · exact oneHolder_changeRows deviceId h.oneHolder (fun entry hentry => (hrow entry hentry).1)
      fun entry hentry hip => (hrow entry hentry).2.mp hip
  · intro d hd
    rw [← Dict.mem_keys, keys_changeRows]
    exact Dict.mem_keys.mpr hd
  · intro x d hd
    rw [Dict.get?_set] at hd
    split at hd
    next heq =>
      subst heq
      cases hd
      obtain ⟨entry, hentry, hid⟩ := List.mem_map.mp (Dict.mem_keys.mpr hhas)
      refine ⟨_, List.mem_map.mpr ⟨entry, hentry, by rw [hid]⟩, ?_⟩
      exact (hrow entry hentry).2.mpr hid
    next hne =>
      exact lists_changeRows (h.owned x d hd) fun entry hentry hx => ((hrow entry hentry).1 x (Ne.symm hne)).mpr hx
  · intro x hx
    rw [Dict.get?_set]
    refine if_neg fun heq => ?_
    rcases hx with hx | hx
    · simp [Task.binds, heq] at hx
    · cases hx
  · rintro x d index (hp | ⟨hnone, -⟩) hc
    · exact h.index x d index hp hc
    · cases hnone
  · intro x d hd
    rw [h.not_due ht (by simp)] at hd
    cases hd
  · intro d x read' hr
    cases hr

/-- A call that binds nothing and leaves rows and index alone. -/
theorem Inv.idle (h : Inv w) (ht : w.sys.tasks.get? id = some t)
    (hlookup : ∀ ip index, t ≠ .resolving ip ∧ t ≠ .indexing ip index ∧ t ≠ .closing ip)
    (hb : ∀ ip, t.binds ip = false) (hnext : ∀ t', next = some t' → ∀ ip, t'.binds ip = false) :
    Inv ⟨w.sys.keep id next, w.owner, w.due⟩ := by
  refine h.keep_rows ht hlookup (fun t' ht' ip => (hnext t' ht' ip).trans (hb ip).symm) (.inr ⟨rfl, fun _ ip hip => ?_⟩) ?_
  · rw [hb] at hip
    cases hip
  · rintro d ip read rfl
    have := hnext _ rfl ip
    simp [Task.binds] at this

/-- A call that forgets the index. -/
theorem Inv.forget (h : Inv w) (ht : w.sys.tasks.get? id = some t)
    (hlookup : ∀ ip index, t ≠ .resolving ip ∧ t ≠ .indexing ip index ∧ t ≠ .closing ip)
    (hnext : ∀ t', next = some t' → ∀ ip, t'.binds ip = t.binds ip ∧ t'.binds ip = false) :
    Inv ⟨System.keep ⟨w.sys.rows, none, w.sys.tasks⟩ id next, w.owner, w.due⟩ := by
  refine h.keep_rows ht hlookup (fun t' ht' ip => (hnext t' ht' ip).1) (.inl rfl) ?_
  rintro d ip read rfl
  have := (hnext _ rfl ip).2
  simp [Task.binds] at this

/-- A lookup reads an index that is right for what it owes. -/
theorem Inv.resolving (h : Inv w) (ht : w.sys.tasks.get? id = some (.resolving ip)) :
    Inv ⟨w.sys.keep id (some (.indexing ip (ipIndex w.sys.rows))), w.owner, w.due⟩ := by
  show Inv ⟨System.keep ⟨w.sys.rows, w.sys.ipLookupCache, w.sys.tasks⟩ id _, _, _⟩
  refine h.keep ht ?_ h.distinct h.oneHolder (fun _ hd => hd) h.owned (fun _ _ => rfl) ?_ h.dues
    (fun _ _ _ hd => hd) ?_ ?_
  · intro t' ht' ip
    cases ht'
    rfl
  · rintro x d index (hp | ⟨hnone, -⟩) hc
    · exact h.index x d index hp hc
    · cases hnone
  · intro x d hd
    refine ⟨hd, .inr (.inl ⟨ipIndex w.sys.rows, ?_, ?_⟩)⟩
    · obtain ⟨-, htask | ⟨index, htask, -⟩ | htask⟩ := h.due id x d hd
      · cases ht.symm.trans htask
        rfl
      · cases ht.symm.trans htask
      · cases ht.symm.trans htask
    · have howns := ((promised_iff h.ids).mp (h.due id x d hd).1).2
      exact ipIndex_of_lists h.oneHolder (h.owned x d howns)
  · intro d x read hr
    cases hr

/-- A lookup keeps an index that is right for what is promised. -/
theorem Inv.indexing {index : Dict Str Str} (h : Inv w) (ht : w.sys.tasks.get? id = some (.indexing ip index))
    (hok : ∀ entry ∈ w.owner, w.promised entry.1 = some entry.2 → index.get? entry.1 = some entry.2) :
    Inv ⟨System.keep ⟨w.sys.rows, some index, w.sys.tasks⟩ id (some (.closing ip)), w.owner, w.due⟩ := by
  refine h.keep ht ?_ h.distinct h.oneHolder (fun _ hd => hd) h.owned (fun _ _ => rfl) ?_ h.dues (fun _ _ _ hd => hd) ?_ ?_
  · intro t' ht' ip
    cases ht'
    rfl
  · rintro x d index' (hp | ⟨hnone, -⟩) hc
    · cases hc
      exact hok (x, d) (Dict.mem_of_get? ((promised_iff h.ids).mp hp).2) hp
    · cases hnone
  · intro x d hd
    refine ⟨hd, .inr (.inr ?_)⟩
    obtain ⟨-, htask | ⟨index', htask, -⟩ | htask⟩ := h.due id x d hd
    · cases ht.symm.trans htask
    · cases ht.symm.trans htask
      rfl
    · cases ht.symm.trans htask
  · intro d x read hr
    cases hr

/-- A lookup returns, and owes nothing any more. -/
theorem Inv.closing (h : Inv w) (ht : w.sys.tasks.get? id = some (.closing ip)) :
    Inv ⟨w.sys.keep id none, w.owner, w.due.erase id⟩ := by
  show Inv ⟨System.keep ⟨w.sys.rows, w.sys.ipLookupCache, w.sys.tasks⟩ id _, _, _⟩
  refine h.keep ht (by simp) h.distinct h.oneHolder (fun _ hd => hd) h.owned (fun _ _ => rfl) ?_
    (h.dues.sublist (List.filter_sublist.map Prod.fst)) ?_ ?_ (by simp)
  · rintro x d index (hp | ⟨-, hb, -⟩) hc
    · exact h.index x d index hp hc
    · cases hb
  · intro id' hid p hd
    rw [Dict.get?_erase, if_neg (Ne.symm hid)] at hd
    exact hd
  · intro x d hd
    rw [Dict.get?_erase, if_pos rfl] at hd
    cases hd

/-- A guarded call that goes on keeps the invariant. -/
theorem Inv.resume (h : Inv w) (hok : Guarded w (.resume id now))
    (hs : step selfConnection w (.resume id now) = some w') : Inv w' := by
  obtain ⟨t, ht, rfl⟩ := resume_cases hs
  have hok := hok t ht
  cases t with
  | creating deviceId columns sighting =>
    simp only [advance]
    split
    · exact h.idle ht (by simp) (fun _ => rfl) fun t' ht' ip => by cases ht'; rfl
    · exact h.idle ht (by simp) (fun _ => rfl) fun t' ht' ip => by cases ht'; rfl
  | inserting deviceId columns sighting => exact h.inserting ht
  | inserted deviceId sighting =>
    exact h.forget ht (by simp) fun t' ht' ip => by cases ht'; exact ⟨rfl, rfl⟩
  | opening sighting =>
    refine h.idle ht (by simp) (fun _ => rfl) fun t' ht' ip => ?_
    obtain ⟨_, -, rfl⟩ := Option.map_eq_some_iff.mp ht'
    rfl
  | sighted sighting =>
    simp only [advance]
    split
    · exact h.idle ht (by simp) (fun _ => rfl) (by simp)
    · split
      · exact h.idle ht (by simp) (fun _ => rfl) fun t' ht' ip => by cases ht'; rfl
      · exact h.idle ht (by simp) (fun _ => rfl) (by simp)
  | marking sighting row seenAt =>
    simp only [advance]
    split
    · exact h.idle ht (by simp) (fun _ => rfl) (by simp)
    next f hf => exact h.marking ht hf hok
  | marked => exact h.forget ht (by simp) fun t' ht' ip => by cases ht'
  | binding deviceId ip =>
    simp only [advance]
    split
    next hhas =>
      refine h.keep_rows ht (by simp) (fun t' ht' ip => by cases ht'; rfl) (.inr ⟨rfl, by simp⟩) ?_
      intro d x read hr
      cases hr
      exact ⟨h.distinct, hhas, hhas⟩
    next hhas =>
      refine h.keep_rows ht (by simp) (by simp) (.inr ⟨rfl, fun _ x hx hlast => ?_⟩) (by simp)
      obtain rfl : ip = x := by simpa [Task.binds] using hx
      exact hok (by simpa using hhas) hlast
  | bindWriting deviceId ip read => exact h.bindWriting ht hok _
  | bound deviceId ip changed =>
    cases changed with
    | true => exact h.forget ht (by simp) fun t' ht' ip => by cases ht'
    | false =>
      refine h.keep_rows ht (by simp) (fun t' ht' ip => by cases ht') (.inr ⟨rfl, fun _ x hx hlast => ?_⟩)
        fun d ip' read hn => by cases hn
      obtain rfl : ip = x := by simpa [Task.binds] using hx
      exact hok rfl hlast
  | resolving ip => exact h.resolving ht
  | indexing ip index => exact h.indexing ht hok
  | closing ip => exact h.closing ht

/-- **One call starts.** It leaves the invariant where it is not a bind, or a bind of an address that no lookup
    owes. -/
theorem Inv.add {due' : Dict Nat (Str × Str)} (h : Inv w) (hid : w.sys.tasks.get? id = none)
    (hread : ∀ d ip read, next ≠ some (.bindWriting d ip read)) (hdues : due'.keys.Nodup)
    (hdue : ∀ id' ip d, due'.get? id' = some (ip, d) →
      w.promised ip = some d ∧ (∀ t, next = some t → t.binds ip = false) ∧
        (w.due.get? id' = some (ip, d) ∨ id' = id ∧ next = some (.resolving ip))) :
    Inv ⟨w.sys.keep id next, w.owner, due'⟩ := by
  have hids : (w.sys.keep id next).tasks.keys.Nodup := nodup_keep h.ids
  have hrows : (w.sys.keep id next).rows = w.sys.rows := by cases next <;> rfl
  have hcache : (w.sys.keep id next).ipLookupCache = w.sys.ipLookupCache := by cases next <;> rfl
  have hget : ∀ id', (w.sys.keep id next).tasks.get? id' = if id = id' then next else w.sys.tasks.get? id' :=
    fun id' => get?_keep
  have hold : ∀ id' t, w.sys.tasks.get? id' = some t → (w.sys.keep id next).tasks.get? id' = some t := by
    intro id' t ht
    rw [hget, if_neg fun heq => ?_]
    · exact ht
    · rw [← heq, hid] at ht
      cases ht
  constructor
  · exact hids
  · exact hdues
  · rw [hrows]
    exact h.distinct
  · rw [hrows]
    exact h.oneHolder
  · intro ip d hd
    rw [hrows]
    exact h.owned ip d hd
  · intro ip d index hp hc
    obtain ⟨hno, howns⟩ := (promised_iff hids).mp hp
    rw [hcache] at hc
    exact h.index ip d index ((promised_iff h.ids).mpr ⟨fun id' t ht => hno id' t (hold id' t ht), howns⟩) hc
  · intro id' ip d hd
    obtain ⟨hp, hnext, htask⟩ := hdue id' ip d hd
    obtain ⟨hno, howns⟩ := (promised_iff h.ids).mp hp
    refine ⟨(promised_iff hids).mpr ⟨fun id'' t ht => ?_, howns⟩, ?_⟩
    · rw [hget] at ht
      split at ht
      · exact hnext t ht
      · exact hno id'' t ht
    · rcases htask with hd | ⟨rfl, htask⟩
      · rcases (h.due id' ip d hd).2 with ht | ⟨index, ht, hindex⟩ | ht
        · exact .inl (hold id' _ ht)
        · exact .inr (.inl ⟨index, hold id' _ ht, hindex⟩)
        · exact .inr (.inr (hold id' _ ht))
      · exact .inl ((hget id').trans (by rw [if_pos rfl]; exact htask))
  · intro id' d ip read hr
    rw [hrows]
    rw [hget] at hr
    split at hr
    · exact absurd hr (hread d ip read)
    · exact h.read id' d ip read hr

/-- What a lookup under way owes is promised. -/
theorem Inv.due_old (h : Inv w) (hnext : ∀ t, next = some t → ∀ ip, t.binds ip = false) :
    ∀ id' ip d, w.due.get? id' = some (ip, d) →
      w.promised ip = some d ∧ (∀ t, next = some t → t.binds ip = false) ∧
        (w.due.get? id' = some (ip, d) ∨ id' = id ∧ next = some (.resolving ip)) :=
  fun id' ip d hd => ⟨(h.due id' ip d hd).1, fun t ht => hnext t ht ip, .inl hd⟩

/-- Every call that starts keeps the invariant. -/
theorem Inv.begin {call : Call} (h : Inv w) (hs : step selfConnection w (.begin id call) = some w') : Inv w' := by
  obtain ⟨s', hsys, rfl⟩ := Option.map_eq_some_iff.mp hs
  simp only [System.step] at hsys
  split at hsys
  · cases hsys
  next hfree =>
    cases hsys
    have hid : w.sys.tasks.get? id = none := by
      unfold Dict.has at hfree
      simpa using hfree
    cases call with
    | bindIp deviceId ip =>
      have hdues : Dict.keys (w.due.filter fun entry => entry.2.1 ≠ ip) |>.Nodup :=
        h.dues.sublist (List.filter_sublist.map Prod.fst)
      refine h.add hid (fun d ip read hn => by cases hn) hdues fun id' x d hd => ?_
      obtain ⟨hmem, hne⟩ := List.mem_filter.mp (Dict.mem_of_get? hd)
      have hdue := Dict.get?_of_mem h.dues hmem
      refine ⟨(h.due id' x d hdue).1, fun t ht => ?_, .inl hdue⟩
      cases ht
      have hother : x ≠ ip := by simpa using hne
      exact beq_eq_false_iff_ne.mpr hother.symm
    | handleDeviceSeen clientIp sni columns =>
      simp only [start]
      split
      · exact h.add hid (by simp) h.dues (h.due_old (by simp))
      · exact h.add hid (by simp) h.dues (h.due_old fun t ht ip => by cases ht; rfl)
    | getOrCreateDevice deviceId columns =>
      exact h.add hid (fun d ip read hn => by cases hn) h.dues (h.due_old fun t ht ip => by cases ht; rfl)
    | resolveDeviceId ip =>
      have hidle : Inv ⟨w.sys.keep id none, w.owner, w.due⟩ := h.add hid (by simp) h.dues (h.due_old (by simp))
      have hstarted : Inv ⟨w.sys.keep id (some (.resolving ip)), w.owner, w.due⟩ :=
        h.add hid (by simp) h.dues (h.due_old fun t ht ip => by cases ht; rfl)
      have hhas : (w.sys.keep id (start selfConnection w.sys (.resolveDeviceId ip))).tasks.has id =
          (start selfConnection w.sys (.resolveDeviceId ip)).isSome := by
        unfold Dict.has
        rw [get?_keep, if_pos rfl]
      dsimp only
      rw [hhas]
      by_cases hkept : w.sys.ipLookupCache.isSome = true
      · rw [show start selfConnection w.sys (.resolveDeviceId ip) = none from if_pos hkept]
        cases w.promised ip <;> exact hidle
      · rw [show start selfConnection w.sys (.resolveDeviceId ip) = some (.resolving ip) from if_neg hkept]
        cases hp : w.promised ip with
        | none => exact hstarted
        | some deviceId =>
          refine h.add hid (by simp) (Dict.nodup_keys_set h.dues) fun id' x d hd => ?_
          rw [Dict.get?_set] at hd
          split at hd
          next heq =>
            cases hd
            exact ⟨hp, fun t ht => by cases ht; rfl, .inr ⟨heq.symm, rfl⟩⟩
          next => exact h.due_old (fun t ht ip => by cases ht; rfl) id' x d hd

/-- Every guarded event keeps the invariant. -/
theorem Inv.step {e : Event} (h : Inv w) (hok : Guarded w e) (hs : step selfConnection w e = some w') : Inv w' := by
  cases e with
  | begin id call => exact h.begin hs
  | resume id now => exact h.resume hok hs

/-- In a state of the invariant a guarded event leaves what it owes. -/
theorem kept_of_inv {e : Event} (h : Inv w) (hok : Guarded w e) : Kept selfConnection w e := by
  refine ⟨fun w' hs => (h.step hok hs).oneHolder, fun ip result hanswer deviceId howed => ?_⟩
  cases e with
  | begin id call =>
    cases call with
    | resolveDeviceId ip' =>
      obtain ⟨index, hindex, hpair⟩ := Option.map_eq_some_iff.mp hanswer
      cases hpair
      exact congrArg Except.ok (h.index ip deviceId index howed hindex)
    | _ => cases hanswer
  | resume id now =>
    obtain ⟨⟨ip', d⟩, hdue, hd⟩ := Option.map_eq_some_iff.mp howed
    cases hd
    obtain ⟨hp, htask⟩ := h.due id ip' d hdue
    simp only [answer] at hanswer
    split at hanswer
    next x ht =>
      have hok : (w.due.get? id).isSome → w.sys.ipLookupCache.isSome := hok _ ht
      obtain rfl : ip' = x := by
        rcases htask with htask | ⟨index, htask, -⟩ | htask
        · cases ht.symm.trans htask
        · cases ht.symm.trans htask
        · cases ht.symm.trans htask
          rfl
      cases hcache : w.sys.ipLookupCache with
      | none =>
        have hsome := hok (by rw [hdue]; rfl)
        rw [hcache] at hsome
        cases hsome
      | some index =>
        rw [hcache] at hanswer
        cases hanswer
        exact congrArg Except.ok (h.index _ d index hp hcache)
    next => cases hanswer

end

/-- A television and a camera, registered without an address. -/
def household : Registered where
  rows := [(str "tv", {}), (str "cam", {})]
  distinct := by decide +kernel
  oneHolder := by decide +kernel

/-- The call with a number goes on `n` times. -/
def resumes (id n : Nat) : List Event := List.replicate n (.resume id 0)

/-- A device is seen, and its address is then bound to the television. -/
def seenThenBound : List Event :=
  .begin 0 (.handleDeviceSeen (str "10.0.0.5") none []) :: resumes 0 7 ++
    .begin 1 (.bindIp (str "tv") (str "10.0.0.5")) :: resumes 1 3

end RideTheApi.Registry.Addresses
