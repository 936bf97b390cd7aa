import RideTheApi.Lib.Transition
import RideTheApi.Registry.Rows

/-!
# `Registry.Isolation` — which file a device's sessions are on

A device's database is the file of its URL, or one named after its id; a rename names a file after the device
and moves it. Names pass through sanitisers that are not injective, a deletion removes the file named after
the id, and an engine is looked for under the device an address belongs to but a session is opened under the
address. In every run that meets none of this, each device has a file of its own (`isolated_of_distinct`).
-/

namespace RideTheApi.Isolation

open Py Registry Transition

/-! ## File names -/

/-- A character of `[A-Za-z0-9]`. -/
def isAlnum (c : CodePoint) : Bool :=
  (cp 'A' ≤ c && c ≤ cp 'Z') || (cp 'a' ≤ c && c ≤ cp 'z') || (cp '0' ≤ c && c ≤ cp '9')

/-- A character of `[A-Za-z0-9_.-]`. -/
def isSafe (c : CodePoint) : Bool := isAlnum c || c == cp '_' || c == cp '.' || c == cp '-'

/-- `s.strip(chars)`. -/
def stripChars (chars s : Str) : Str := (s.dropWhile (chars.contains ·)).rdropWhile (chars.contains ·)

/-- `re.sub` of every run of characters by one; the flag says that a run has begun. -/
def subRuns (p : CodePoint → Bool) (c : CodePoint) : Bool → Str → Str
  | _,     []      => []
  | inRun, x :: xs =>
    if p x then (if inRun then subRuns p c true xs else c :: subRuns p c true xs) else x :: subRuns p c false xs

/-- `_safe_db_name`. -/
def safeDbName (deviceId : Str) : Str :=
  let sanitized := stripChars "._" (deviceId.map fun c => if isSafe c then c else cp '_')
  (if sanitized = [] then str "device" else sanitized) ++ str ".db"

/-- `sanitize_filename_component`: the value itself, when it is safe. -/
def sanitizeFilenameComponent : Str → Option Str
  | []      => none
  | c :: cs => if isAlnum c && cs.all isSafe then some (c :: cs) else none

/-- The file name that `rename_device_database` makes of a name; `none` when it raises. -/
def renameTarget (newName : Str) : Option Str :=
  let slug := subRuns Str.isSpace (cp '-') false (Str.stripSpace newName)
  let slug := slug.map fun c => if isSafe c then c else cp '-'
  let slug := stripChars "-." (subRuns (· == cp '-') (cp '-') false slug)
  (sanitizeFilenameComponent slug).map fun component =>
    let target := safeDbName component
    if Str.endsWith target ".db" then target else target ++ str ".db"

/-! ## The database manager -/

/-- What the manager holds, and the files there are in the directory of the device databases. The open engines
    are kept with their URLs, and so are the session factories, under the same ids. -/
structure Manager where
  rows : Rows := []
  deviceDbUrls : Dict Str Str := []
  deviceEngines : Dict Str Str := []
  ipLookupCache : Option (Dict Str Str) := none
  files : List Str := []
deriving Repr, DecidableEq

/-- A session that was opened: the file of the device it was opened for, and the URL it is on, when there is
    one. -/
structure Opened where
  expected : Option Str
  session : Option Str
deriving Repr, DecidableEq

/-- A deletion: the file of the device, the files of the devices that stay registered, and what files there
    were before and after. -/
structure Deletion where
  own : Option Str
  others : List Str
  before : List Str
  after : List Str
deriving Repr, DecidableEq

/-- The manager, with what was opened and deleted. -/
structure State where
  manager : Manager := {}
  opened : List Opened := []
  deletions : List Deletion := []
deriving Repr, DecidableEq

/-- A call. -/
inductive Label where
  | getOrCreateDevice (deviceId : Str) (columns : Dict Str Json)
  | bindIp (deviceId ip : Str)
  | renameDeviceDatabase (deviceId newName : Str)
  | deleteDevice (deviceId : Str)
  /-- `get_device_session`, for a device id or an address. -/
  | getDeviceSession (deviceId : Str)
deriving Repr, DecidableEq

/-- `_SQLITE_PREFIX`. -/
def sqlitePrefix : Str := "sqlite+aiosqlite:///"

/-- The URL of a file. -/
def sqliteUrl (path : Str) : Str := sqlitePrefix ++ path

/-- The file of a URL, when it is a local one. -/
def urlPath (url : Str) : Option Str :=
  if Str.startsWith url sqlitePrefix then some (url.drop sqlitePrefix.length) else none

/-- `database_url` of a row, where an empty one counts as none. -/
def rowUrl (rows : Rows) (deviceId : Str) : Option Str :=
  ((rows.get? deviceId).bind Device.databaseUrl).filter (· ≠ [])

section
variable (dir : Str) (isIp : Str → Bool)

/-- The default file of a device. -/
def defaultPath (deviceId : Str) : Str := dir ++ str "/" ++ safeDbName deviceId

namespace Manager
variable (m : Manager)

/-- `_resolve_device_db_path`: the override, then the registry, then the default. -/
def resolveDeviceDbPath (deviceId : Str) : Option Str :=
  match ((m.deviceDbUrls.get? deviceId).filter (· ≠ [])).or (rowUrl m.rows deviceId) with
  | some url => urlPath url
  | none     => some (defaultPath dir deviceId)

/-- The URL that `get_device_engine` opens. -/
def engineUrl (deviceId : Str) : Str :=
  ((m.deviceDbUrls.get? deviceId).or (rowUrl m.rows deviceId)).getD (sqliteUrl (defaultPath dir deviceId))

/-- The index of addresses, as `resolve_device_id` finds or builds it. -/
def ipIndex : Dict Str Str := m.ipLookupCache.getD (Registry.ipIndex m.rows)

/-- The id that `get_device_engine` opens an engine for: the holder of an address without an engine. -/
def engineId (deviceId : Str) : Str :=
  if !m.deviceEngines.has deviceId && isIp deviceId then
    ((m.ipIndex.get? deviceId).filter (· ≠ [])).getD deviceId
  else deviceId

/-- Opening the engine of an id. A file that does not exist is created. -/
def openEngine (deviceId : Str) : Manager :=
  if m.deviceEngines.has deviceId then m
  else
    { m with
      deviceDbUrls := ((rowUrl m.rows deviceId).map fun url => m.deviceDbUrls.setDefault deviceId url).getD m.deviceDbUrls
      deviceEngines := m.deviceEngines.set deviceId (m.engineUrl dir deviceId)
      files := ((urlPath (m.engineUrl dir deviceId)).map fun path => m.files.insert path).getD m.files }

/-- `get_device_engine`. -/
def getDeviceEngine (deviceId : Str) : Manager :=
  let found :=
    if !m.deviceEngines.has deviceId && isIp deviceId then { m with ipLookupCache := some m.ipIndex } else m
  found.openEngine dir (m.engineId isIp deviceId)

/-- `get_or_create_device`. -/
def getOrCreateDevice (deviceId : Str) (columns : Dict Str Json) : Manager :=
  let registered :=
    if m.rows.has deviceId then m
    else { m with rows := m.rows.set deviceId { columns := columns }, ipLookupCache := none }
  registered.getDeviceEngine dir isIp deviceId

/-- `bind_ip`. -/
def bindIp (deviceId ip : Str) : Manager :=
  let changes := bindChanges m.rows deviceId ip
  { m with
    rows := assignIps m.rows changes
    ipLookupCache := if changes.isEmpty then m.ipLookupCache else none }

/-- The files after `_move_db_file`. -/
def moveDbFile (oldPath newPath : Str) : List Str :=
  if oldPath ∈ m.files then (m.files.filter (· ≠ oldPath)).insert newPath else m.files

/-- `rename_device_database`, where a call that raises changes nothing. -/
def renameDeviceDatabase (deviceId newName : Str) : Manager :=
  match renameTarget newName with
  | none        => m
  | some target =>
    if !m.rows.has deviceId then m
    else
      let named := m.rows.modify deviceId fun device => { device with databaseName := some newName }
      match m.resolveDeviceDbPath dir deviceId with
      | none         => { m with rows := named }
      | some oldPath =>
        let newPath := dir ++ str "/" ++ target
        if oldPath = newPath then { m with rows := named }
        else if newPath ∈ m.files then m
        else
          { m with
            rows := named.modify deviceId fun device => { device with databaseUrl := some (sqliteUrl newPath) }
            deviceDbUrls := m.deviceDbUrls.set deviceId (sqliteUrl newPath)
            deviceEngines := m.deviceEngines.erase deviceId
            files := m.moveDbFile oldPath newPath }

/-- `delete_device` of a registered device. -/
def deleteDevice (deviceId : Str) : Manager :=
  { m with
    rows := m.rows.erase deviceId
    deviceDbUrls := m.deviceDbUrls.erase deviceId
    deviceEngines := m.deviceEngines.erase deviceId
    files := m.files.filter (· ≠ defaultPath dir deviceId) }

/-- The file of the device that an id or an address stands for. -/
def expectedPath (deviceId : Str) : Option Str :=
  if m.rows.has deviceId then m.resolveDeviceDbPath dir deviceId
  else ((Registry.ipIndex m.rows).get? deviceId).bind (m.resolveDeviceDbPath dir)

end Manager

/-- One step. -/
def step (s : State) : Label → Option State
  | .getOrCreateDevice deviceId columns =>
    some { s with manager := s.manager.getOrCreateDevice dir isIp deviceId columns }
  | .bindIp deviceId ip => some { s with manager := s.manager.bindIp deviceId ip }
  | .renameDeviceDatabase deviceId newName =>
    some { s with manager := s.manager.renameDeviceDatabase dir deviceId newName }
  | .deleteDevice deviceId =>
    if s.manager.rows.has deviceId then
      let after := s.manager.deleteDevice dir deviceId
      some { s with
        manager := after
        deletions := s.deletions ++ [
          { own := s.manager.resolveDeviceDbPath dir deviceId
            others := after.rows.keys.filterMap (after.resolveDeviceDbPath dir)
            before := s.manager.files
            after := after.files }] }
    else some s
  | .getDeviceSession deviceId =>
    let opened := s.manager.getDeviceEngine dir isIp deviceId
    some { s with
      manager := opened
      -- The session factory is looked for under the id as it was given; without one the call raises.
      opened := s.opened ++ [
        { expected := s.manager.expectedPath dir deviceId
          session := opened.deviceEngines.get? deviceId }] }

/-- A session is on the file of the device it was opened for. -/
def Opened.Ok (o : Opened) : Prop := ∀ path, o.expected = some path → o.session = some (sqliteUrl path)

/-- A deletion removes the file of the device, and no file of a device that stays registered. -/
def Deletion.Ok (d : Deletion) : Prop :=
  (∀ path, d.own = some path → path ∉ d.after) ∧ ∀ path ∈ d.others, path ∈ d.before → path ∈ d.after

/-- Device databases are isolated. -/
structure Isolated (s : State) : Prop where
  distinct : ∀ a b path, s.manager.rows.has a = true → s.manager.rows.has b = true → a ≠ b →
    s.manager.resolveDeviceDbPath dir a = some path → s.manager.resolveDeviceDbPath dir b ≠ some path
  opened : ∀ o ∈ s.opened, o.Ok
  deletions : ∀ d ∈ s.deletions, d.Ok

/-- A new device's default file is no registered device's file; a rename to a file that does not exist is to no
    other device's file; only a device that is on its default file is deleted; and a session is opened for a
    registered device whose id is no address of another, or for what is neither. -/
def Distinct (s : State) : Label → Prop
  | .getOrCreateDevice deviceId _ => s.manager.rows.has deviceId = false → ∀ other,
      s.manager.rows.has other = true →
        s.manager.resolveDeviceDbPath dir other ≠ some (defaultPath dir deviceId)
  | .renameDeviceDatabase deviceId newName => ∀ target, renameTarget newName = some target →
      dir ++ str "/" ++ target ∉ s.manager.files → ∀ other, s.manager.rows.has other = true → other ≠ deviceId →
        s.manager.resolveDeviceDbPath dir other ≠ some (dir ++ str "/" ++ target)
  | .deleteDevice deviceId => s.manager.rows.has deviceId = true →
      s.manager.resolveDeviceDbPath dir deviceId = some (defaultPath dir deviceId)
  | .getDeviceSession deviceId =>
    if s.manager.rows.has deviceId then s.manager.engineId isIp deviceId = deviceId
    else (Registry.ipIndex s.manager.rows).get? deviceId = none
  | .bindIp _ _ => True

end

/-- What is said of every registered device is checked on the rows. -/
def decideRegistered (rows : Rows) (p : Str → Prop) [DecidablePred p] :
    Decidable (∀ id, rows.has id = true → p id) :=
  decidable_of_iff (∀ id ∈ rows.keys, p id) (forall_congr' fun _ => by rw [Dict.mem_keys])

instance Distinct.decidable (dir : Str) (isIp : Str → Bool) (s : State) :
    (l : Label) → Decidable (Distinct dir isIp s l)
  | .getOrCreateDevice deviceId _ =>
    have := decideRegistered s.manager.rows fun other =>
      s.manager.resolveDeviceDbPath dir other ≠ some (defaultPath dir deviceId)
    inferInstanceAs (Decidable (s.manager.rows.has deviceId = false → ∀ other, s.manager.rows.has other = true →
      s.manager.resolveDeviceDbPath dir other ≠ some (defaultPath dir deviceId)))
  | .renameDeviceDatabase deviceId newName =>
    have (target : Str) := decideRegistered s.manager.rows fun other => other ≠ deviceId →
      s.manager.resolveDeviceDbPath dir other ≠ some (dir ++ str "/" ++ target)
    match h : renameTarget newName with
    | none        => .isTrue fun target htarget => by rw [h] at htarget; cases htarget
    | some target =>
      decidable_of_iff (dir ++ str "/" ++ target ∉ s.manager.files → ∀ other, s.manager.rows.has other = true →
          other ≠ deviceId → s.manager.resolveDeviceDbPath dir other ≠ some (dir ++ str "/" ++ target))
        ⟨fun hfree _ htarget => by cases h.symm.trans htarget; exact hfree, fun hok => hok target h⟩
  | .deleteDevice deviceId =>
    inferInstanceAs (Decidable (s.manager.rows.has deviceId = true →
      s.manager.resolveDeviceDbPath dir deviceId = some (defaultPath dir deviceId)))
  | .getDeviceSession deviceId =>
    inferInstanceAs (Decidable (if s.manager.rows.has deviceId then s.manager.engineId isIp deviceId = deviceId
      else (Registry.ipIndex s.manager.rows).get? deviceId = none))
  | .bindIp _ _ => .isTrue trivial

/-! ## The file of a device, by its row -/

/-- The file of a device as its row has it. -/
def storedPath (dir : Str) (rows : Rows) (deviceId : Str) : Option Str :=
  match rowUrl rows deviceId with
  | some url => urlPath url
  | none     => some (defaultPath dir deviceId)

/-- The overrides repeat the rows, the rows have local URLs, and the engines are open on the files of the rows. -/
structure Inv (dir : Str) (m : Manager) : Prop where
  urls : ∀ id url, m.deviceDbUrls.get? id = some url → rowUrl m.rows id = some url
  rowUrls : ∀ id url, rowUrl m.rows id = some url → ∃ path, url = sqliteUrl path
  engines : ∀ id url, m.deviceEngines.get? id = some url →
    ∃ path, storedPath dir m.rows id = some path ∧ url = sqliteUrl path

section
variable {dir : Str} {isIp : Str → Bool} {m : Manager} {rows : Rows} {deviceId : Str}

theorem urlPath_sqliteUrl (path : Str) : urlPath (sqliteUrl path) = some path := by
  unfold urlPath sqliteUrl Str.startsWith
  rw [if_pos (List.isPrefixOf_iff_prefix.mpr (List.prefix_append _ _)), List.drop_left]

theorem inv_init : Inv dir {} where
  urls := fun _ _ h => by cases h
  rowUrls := fun _ _ h => by cases h
  engines := fun _ _ h => by cases h

theorem Inv.urls_or (h : Inv dir m) (id : Str) :
    (m.deviceDbUrls.get? id).or (rowUrl m.rows id) = rowUrl m.rows id := by
  cases hurl : m.deviceDbUrls.get? id with
  | none => rfl
  | some url => exact (h.urls id url hurl).symm

/-- What a device resolves to is what its row says. -/
theorem Inv.resolve (h : Inv dir m) (id : Str) : m.resolveDeviceDbPath dir id = storedPath dir m.rows id := by
  unfold Manager.resolveDeviceDbPath storedPath
  have hor : ((m.deviceDbUrls.get? id).filter (· ≠ [])).or (rowUrl m.rows id) = rowUrl m.rows id := by
    cases hurl : m.deviceDbUrls.get? id with
    | none => rfl
    | some url =>
      obtain ⟨path, rfl⟩ := h.rowUrls id url (h.urls id url hurl)
      have hnonempty : sqliteUrl path ≠ [] := List.append_ne_nil_of_left_ne_nil (by decide) _
      rw [Option.filter_some_pos (by simpa using hnonempty)]
      exact (h.urls id _ hurl).symm
  rw [hor]
  cases rowUrl m.rows id <;> rfl

theorem Inv.engineUrl (h : Inv dir m) (id : Str) :
    ∃ path, storedPath dir m.rows id = some path ∧ m.engineUrl dir id = sqliteUrl path := by
  unfold Manager.engineUrl storedPath
  rw [h.urls_or]
  cases hurl : rowUrl m.rows id with
  | none => exact ⟨defaultPath dir id, rfl, rfl⟩
  | some url =>
    obtain ⟨path, rfl⟩ := h.rowUrls id url hurl
    exact ⟨path, urlPath_sqliteUrl path, rfl⟩

/-! ## Engines -/

theorem Inv.openEngine (h : Inv dir m) (id : Str) : Inv dir (m.openEngine dir id) := by
  unfold Manager.openEngine
  split
  · exact h
  · refine ⟨?_, h.rowUrls, ?_⟩
    · intro other url hurl
      cases hrow : rowUrl m.rows id with
      | none =>
        rw [hrow] at hurl
        exact h.urls other url hurl
      -- The override that is added repeats the row.
      | some stored =>
        rw [hrow, Option.map_some, Option.getD_some, Dict.get?_setDefault] at hurl
        cases hother : m.deviceDbUrls.get? other with
        | some override =>
          rw [hother, Option.some_or] at hurl
          exact (h.urls other override hother).trans hurl
        | none =>
          rw [hother, Option.none_or] at hurl
          split at hurl
          · next hid => exact hid ▸ hrow.trans hurl
          · cases hurl
    · intro other url hurl
      have hset : (m.deviceEngines.set id (m.engineUrl dir id)).get? other = some url := hurl
      rw [Dict.get?_set] at hset
      split at hset
      · next hid =>
        obtain ⟨path, hpath, hengine⟩ := h.engineUrl id
        exact ⟨path, hid ▸ hpath, (Option.some.inj hset).symm.trans hengine⟩
      · exact h.engines other url hset

theorem rows_openEngine (id : Str) : (m.openEngine dir id).rows = m.rows := by
  unfold Manager.openEngine
  split <;> rfl

theorem has_openEngine (id : Str) : (m.openEngine dir id).deviceEngines.has id = true := by
  unfold Manager.openEngine
  split
  · assumption
  · unfold Dict.has
    rw [Dict.get?_set, if_pos rfl]
    rfl

theorem Inv.getDeviceEngine (h : Inv dir m) (id : Str) : Inv dir (m.getDeviceEngine dir isIp id) := by
  unfold Manager.getDeviceEngine
  apply Inv.openEngine
  split
  · exact ⟨h.urls, h.rowUrls, h.engines⟩
  · exact h

theorem rows_getDeviceEngine (id : Str) : (m.getDeviceEngine dir isIp id).rows = m.rows := by
  unfold Manager.getDeviceEngine
  rw [rows_openEngine]
  split <;> rfl

theorem has_getDeviceEngine (dir : Str) {id : Str} (h : m.engineId isIp id = id) :
    (m.getDeviceEngine dir isIp id).deviceEngines.has id = true := by
  unfold Manager.getDeviceEngine
  rw [h]
  exact has_openEngine id

/-! ## Rows -/

/-- Rows that keep the URLs keep the invariant. -/
theorem Inv.of_rowUrl {m' : Manager} (h : Inv dir m) (hrows : ∀ id, rowUrl m'.rows id = rowUrl m.rows id)
    (hurls : m'.deviceDbUrls = m.deviceDbUrls) (hengines : m'.deviceEngines = m.deviceEngines) : Inv dir m' where
  urls := fun id url hurl => (hrows id).trans (h.urls id url (hurls ▸ hurl))
  rowUrls := fun id url hurl => h.rowUrls id url ((hrows id).symm.trans hurl)
  engines := by
    intro id url hurl
    unfold storedPath
    rw [hrows]
    exact h.engines id url (hengines ▸ hurl)

theorem rowUrl_of_not_has (h : rows.has deviceId = false) : rowUrl rows deviceId = none := by
  unfold Dict.has at h
  unfold rowUrl
  rw [Option.isSome_eq_false_iff, Option.isNone_iff_eq_none] at h
  rw [h]
  rfl

/-- A new row has no URL of its own. -/
theorem rowUrl_set (h : rows.has deviceId = false) (columns : Dict Str Json) (id : Str) :
    rowUrl (rows.set deviceId { columns := columns }) id = rowUrl rows id := by
  by_cases hid : deviceId = id
  · subst hid
    rw [rowUrl_of_not_has h]
    unfold rowUrl
    rw [Dict.get?_set, if_pos rfl]
    rfl
  · unfold rowUrl
    rw [Dict.get?_set, if_neg hid]

theorem has_modify (f : Device → Device) (id : Str) : (rows.modify deviceId f).has id = rows.has id := by
  unfold Dict.has
  rw [Dict.get?_modify]
  split
  · rw [Option.isSome_map]
  · rfl

theorem rowUrl_modify {f : Device → Device} (hf : ∀ device, (f device).databaseUrl = device.databaseUrl) (id : Str) :
    rowUrl (rows.modify deviceId f) id = rowUrl rows id := by
  unfold rowUrl
  rw [Dict.get?_modify]
  split
  · cases rows.get? id with
    | none => rfl
    | some device => rw [Option.map_some, Option.bind_some, Option.bind_some, hf]
  · rfl

theorem rowUrl_assignIps (changes : List (Str × List Str)) (id : Str) :
    rowUrl (assignIps rows changes) id = rowUrl rows id := by
  unfold assignIps
  induction changes generalizing rows with
  | nil => rfl
  | cons change changes ih =>
    rw [List.foldl_cons, ih]
    apply rowUrl_modify
    intro device
    rfl

theorem has_assignIps (changes : List (Str × List Str)) (id : Str) :
    (assignIps rows changes).has id = rows.has id := by
  unfold assignIps
  induction changes generalizing rows with
  | nil => rfl
  | cons change changes ih =>
    rw [List.foldl_cons, ih]
    exact has_modify _ id

theorem rowUrl_erase (id : Str) : rowUrl (rows.erase deviceId) id = if deviceId = id then none else rowUrl rows id := by
  unfold rowUrl
  rw [Dict.get?_erase]
  split <;> rfl

/-- Registered devices have files of their own. -/
def DistinctFiles (dir : Str) (rows : Rows) : Prop :=
  ∀ a b path, rows.has a = true → rows.has b = true → a ≠ b → storedPath dir rows a = some path →
    storedPath dir rows b ≠ some path

theorem storedPath_congr {rows' : Rows} {id : Str} (h : rowUrl rows' id = rowUrl rows id) :
    storedPath dir rows' id = storedPath dir rows id := by
  unfold storedPath
  rw [h]

/-- Fewer devices on the same files. -/
theorem DistinctFiles.of_subset {rows' : Rows} (h : DistinctFiles dir rows)
    (hhas : ∀ id, rows'.has id = true → rows.has id = true)
    (hstored : ∀ id, rows'.has id = true → storedPath dir rows' id = storedPath dir rows id) :
    DistinctFiles dir rows' := by
  intro a b path ha hb hab hpath
  rw [hstored a ha] at hpath
  rw [hstored b hb]
  exact h a b path (hhas a ha) (hhas b hb) hab hpath

/-- One more device, or one device moved, to a file that is none of the others'. -/
theorem DistinctFiles.of_move {rows' : Rows} {newPath : Str} (deviceId : Str) (h : DistinctFiles dir rows)
    (hhas : ∀ id, id ≠ deviceId → rows'.has id = rows.has id)
    (hstored : ∀ id, id ≠ deviceId → storedPath dir rows' id = storedPath dir rows id)
    (hnew : storedPath dir rows' deviceId = some newPath)
    (hfree : ∀ other, rows.has other = true → other ≠ deviceId → storedPath dir rows other ≠ some newPath) :
    DistinctFiles dir rows' := by
  intro a b path ha hb hab hpath
  by_cases hid : a = deviceId
  · subst hid
    rw [hnew] at hpath
    rw [hstored b (Ne.symm hab), ← hpath]
    exact hfree b (hhas b (Ne.symm hab) ▸ hb) (Ne.symm hab)
  · rw [hstored a hid] at hpath
    rw [hhas a hid] at ha
    by_cases hid' : b = deviceId
    · rw [hid', hnew]
      intro hsame
      exact hfree a ha hid (hpath.trans hsame.symm)
    · rw [hstored b hid']
      exact h a b path ha (hhas b hid' ▸ hb) hab hpath

/-! ## The calls -/

theorem has_set (device : Device) (id : Str) :
    (rows.set deviceId device).has id = (decide (deviceId = id) || rows.has id) := by
  unfold Dict.has
  rw [Dict.get?_set]
  split
  · next hid => simp [hid]
  · next hid => simp [hid]

theorem Inv.getOrCreateDevice (h : Inv dir m) (columns : Dict Str Json) :
    Inv dir (m.getOrCreateDevice dir isIp deviceId columns) := by
  unfold Manager.getOrCreateDevice
  apply Inv.getDeviceEngine
  split
  · exact h
  · next hnew => exact h.of_rowUrl (rowUrl_set (by simpa using hnew) columns) rfl rfl

theorem distinctFiles_getOrCreateDevice (h : DistinctFiles dir m.rows) (columns : Dict Str Json)
    (hfree : m.rows.has deviceId = false → ∀ other, m.rows.has other = true →
      storedPath dir m.rows other ≠ some (defaultPath dir deviceId)) :
    DistinctFiles dir (m.getOrCreateDevice dir isIp deviceId columns).rows := by
  unfold Manager.getOrCreateDevice
  rw [rows_getDeviceEngine]
  split
  · exact h
  · next hnew =>
    have hnew : m.rows.has deviceId = false := by simpa using hnew
    refine h.of_move deviceId (fun id hid => ?_) (fun id _ => storedPath_congr (rowUrl_set hnew columns id)) ?_
      (fun other hother _ => hfree hnew other hother)
    · show (m.rows.set deviceId _).has id = m.rows.has id
      rw [has_set, decide_eq_false (Ne.symm hid), Bool.false_or]
    · have hnone : rowUrl (m.rows.set deviceId { columns := columns }) deviceId = none :=
        (rowUrl_set hnew columns deviceId).trans (rowUrl_of_not_has hnew)
      show storedPath dir (m.rows.set deviceId { columns := columns }) deviceId = _
      unfold storedPath
      rw [hnone]

theorem Inv.bindIp (h : Inv dir m) (ip : Str) : Inv dir (m.bindIp deviceId ip) :=
  h.of_rowUrl (rowUrl_assignIps _) rfl rfl

theorem distinctFiles_bindIp (h : DistinctFiles dir m.rows) (ip : Str) :
    DistinctFiles dir (m.bindIp deviceId ip).rows :=
  h.of_subset (fun id hid => has_assignIps _ id ▸ hid) fun id _ => storedPath_congr (rowUrl_assignIps _ id)

theorem Inv.deleteDevice (h : Inv dir m) : Inv dir (m.deleteDevice dir deviceId) where
  urls := by
    intro id url hurl
    have herased : (m.deviceDbUrls.erase deviceId).get? id = some url := hurl
    show rowUrl (m.rows.erase deviceId) id = some url
    rw [Dict.get?_erase] at herased
    rw [rowUrl_erase]
    split at herased
    · cases herased
    · next hid =>
      rw [if_neg hid]
      exact h.urls id url herased
  rowUrls := by
    intro id url hurl
    have herased : rowUrl (m.rows.erase deviceId) id = some url := hurl
    rw [rowUrl_erase] at herased
    split at herased
    · cases herased
    · exact h.rowUrls id url herased
  engines := by
    intro id url hurl
    have herased : (m.deviceEngines.erase deviceId).get? id = some url := hurl
    rw [Dict.get?_erase] at herased
    split at herased
    · cases herased
    · next hid =>
      show ∃ path, storedPath dir (m.rows.erase deviceId) id = some path ∧ url = sqliteUrl path
      rw [storedPath_congr ((rowUrl_erase id).trans (if_neg hid))]
      exact h.engines id url herased

theorem has_erase {id : Str} (h : (rows.erase deviceId).has id = true) : deviceId ≠ id ∧ rows.has id = true := by
  unfold Dict.has at h
  rw [Dict.get?_erase] at h
  split at h
  · cases h
  · next hid => exact ⟨hid, h⟩

theorem storedPath_erase {id : Str} (hid : deviceId ≠ id) :
    storedPath dir (rows.erase deviceId) id = storedPath dir rows id :=
  storedPath_congr ((rowUrl_erase id).trans (if_neg hid))

theorem distinctFiles_deleteDevice (h : DistinctFiles dir m.rows) :
    DistinctFiles dir (m.deleteDevice dir deviceId).rows :=
  h.of_subset (fun _ hid => (has_erase hid).2) fun _ hid => storedPath_erase (has_erase hid).1

/-- A deletion of a device on its default file removes that file and no other device's. -/
theorem deletion_ok (hinv : Inv dir m) (h : DistinctFiles dir m.rows) (hhas : m.rows.has deviceId = true)
    (hdefault : m.resolveDeviceDbPath dir deviceId = some (defaultPath dir deviceId)) :
    Deletion.Ok
      { own := m.resolveDeviceDbPath dir deviceId
        others := (m.deleteDevice dir deviceId).rows.keys.filterMap
          ((m.deleteDevice dir deviceId).resolveDeviceDbPath dir)
        before := m.files
        after := (m.deleteDevice dir deviceId).files } := by
  refine ⟨fun path hpath => ?_, fun path hpath hbefore => ?_⟩
  -- The device is on the file that its id names, which is the one that goes.
  · have hown : m.resolveDeviceDbPath dir deviceId = some path := hpath
    rw [hdefault] at hown
    obtain rfl := Option.some.inj hown
    intro hmem
    have hkept := (List.mem_filter.mp hmem).2
    simp at hkept
  · obtain ⟨id, hid, hresolve⟩ := List.mem_filterMap.mp hpath
    have hregistered : (m.rows.erase deviceId).has id = true := Dict.mem_keys.mp hid
    obtain ⟨hne, hother⟩ := has_erase hregistered
    rw [hinv.deleteDevice.resolve] at hresolve
    have hstored : storedPath dir m.rows id = some path := (storedPath_erase hne).symm.trans hresolve
    rw [hinv.resolve] at hdefault
    refine List.mem_filter.mpr ⟨hbefore, ?_⟩
    -- The file that goes is the device's own, and so no other's.
    have hnot : path ≠ defaultPath dir deviceId := by
      rintro rfl
      exact h deviceId id _ hhas hother hne hdefault hstored
    simpa using hnot

theorem rowUrl_named (name : Str) (id : Str) :
    rowUrl (rows.modify deviceId fun device => { device with databaseName := some name }) id = rowUrl rows id := by
  apply rowUrl_modify
  intro device
  rfl

theorem renamed_ne_nil (path : Str) : sqliteUrl path ≠ [] := List.append_ne_nil_of_left_ne_nil (by decide) _

/-- The URL of a device that was renamed to a file. -/
theorem rowUrl_renamed {name path : Str} (hhas : rows.has deviceId = true) (id : Str) :
    rowUrl ((rows.modify deviceId fun device => { device with databaseName := some name }).modify deviceId
      fun device => { device with databaseUrl := some (sqliteUrl path) }) id =
        if deviceId = id then some (sqliteUrl path) else rowUrl rows id := by
  unfold rowUrl
  rw [Dict.get?_modify, Dict.get?_modify]
  split
  · next hid =>
    subst hid
    obtain ⟨device, hdevice⟩ := Option.isSome_iff_exists.mp hhas
    rw [hdevice]
    exact Option.filter_some_pos (by simpa using renamed_ne_nil path)
  · rfl

/-- What a rename does: nothing, the name alone, or the name and the file. -/
inductive Renamed (dir : Str) (m : Manager) (deviceId newName : Str) : Manager → Prop where
  | same : Renamed dir m deviceId newName m
  | named : Renamed dir m deviceId newName
      { m with rows := m.rows.modify deviceId fun device => { device with databaseName := some newName } }
  | moved (target oldPath : Str) (htarget : renameTarget newName = some target) (hhas : m.rows.has deviceId = true)
      (hfile : dir ++ str "/" ++ target ∉ m.files) :
      Renamed dir m deviceId newName
        { m with
          rows := (m.rows.modify deviceId fun device => { device with databaseName := some newName }).modify deviceId
            fun device => { device with databaseUrl := some (sqliteUrl (dir ++ str "/" ++ target)) }
          deviceDbUrls := m.deviceDbUrls.set deviceId (sqliteUrl (dir ++ str "/" ++ target))
          deviceEngines := m.deviceEngines.erase deviceId
          files := m.moveDbFile oldPath (dir ++ str "/" ++ target) }

theorem renamed_renameDeviceDatabase (dir : Str) (m : Manager) (deviceId newName : Str) :
    Renamed dir m deviceId newName (m.renameDeviceDatabase dir deviceId newName) := by
  unfold Manager.renameDeviceDatabase
  split
  · exact .same
  · next target htarget =>
    split
    · exact .same
    · next hhas =>
      dsimp only
      split
      · exact .named
      · next oldPath hold =>
        split
        · exact .named
        · split
          · exact .same
          · next hfile => exact .moved target oldPath htarget (by simpa using hhas) hfile

theorem Inv.renameDeviceDatabase (h : Inv dir m) (newName : Str) :
    Inv dir (m.renameDeviceDatabase dir deviceId newName) := by
  have hrenamed := renamed_renameDeviceDatabase dir m deviceId newName
  generalize m.renameDeviceDatabase dir deviceId newName = m' at hrenamed ⊢
  cases hrenamed with
  | same => exact h
  | named => exact h.of_rowUrl (rowUrl_named newName) rfl rfl
  | moved target oldPath htarget hhas hfile =>
    refine ⟨?_, ?_, ?_⟩
    · intro id url hurl
      have hset : (m.deviceDbUrls.set deviceId (sqliteUrl (dir ++ str "/" ++ target))).get? id = some url := hurl
      rw [Dict.get?_set] at hset
      dsimp only
      rw [rowUrl_renamed hhas]
      split
      · next hid => rwa [if_pos hid] at hset
      · next hid =>
        rw [if_neg hid] at hset
        exact h.urls id url hset
    · intro id url hurl
      dsimp only at hurl
      rw [rowUrl_renamed hhas] at hurl
      split at hurl
      · exact ⟨_, (Option.some.inj hurl).symm⟩
      · exact h.rowUrls id url hurl
    · intro id url hurl
      -- The engine of the device that moved is gone, so the engine is another's.
      have herased : (m.deviceEngines.erase deviceId).get? id = some url := hurl
      rw [Dict.get?_erase] at herased
      split at herased
      · cases herased
      · next hid =>
        dsimp only
        rw [storedPath_congr ((rowUrl_renamed hhas id).trans (if_neg hid))]
        exact h.engines id url herased

theorem distinctFiles_renameDeviceDatabase {newName : Str} (h : DistinctFiles dir m.rows)
    (hfree : ∀ target, renameTarget newName = some target → dir ++ str "/" ++ target ∉ m.files →
      ∀ other, m.rows.has other = true → other ≠ deviceId →
        storedPath dir m.rows other ≠ some (dir ++ str "/" ++ target)) :
    DistinctFiles dir (m.renameDeviceDatabase dir deviceId newName).rows := by
  have hrenamed := renamed_renameDeviceDatabase dir m deviceId newName
  generalize m.renameDeviceDatabase dir deviceId newName = m' at hrenamed ⊢
  cases hrenamed with
  | same => exact h
  | named =>
    apply h.of_subset
    · intro id hid
      dsimp only at hid
      rwa [has_modify] at hid
    · intro id _
      exact storedPath_congr (rowUrl_named newName id)
  | moved target oldPath htarget hhas hfile =>
    apply h.of_move deviceId
    · intro id _
      dsimp only
      rw [has_modify, has_modify]
    · intro id hid
      exact storedPath_congr ((rowUrl_renamed hhas id).trans (if_neg (Ne.symm hid)))
    · unfold storedPath
      dsimp only
      rw [rowUrl_renamed hhas, if_pos rfl]
      exact urlPath_sqliteUrl _
    · exact hfree target htarget hfile

/-- A session for a registered device, whose engine is looked for under its own id, is on its file. -/
theorem opened_ok (hinv : Inv dir m)
    (hok : if m.rows.has deviceId then m.engineId isIp deviceId = deviceId
      else (Registry.ipIndex m.rows).get? deviceId = none) :
    Opened.Ok
      { expected := m.expectedPath dir deviceId
        session := (m.getDeviceEngine dir isIp deviceId).deviceEngines.get? deviceId } := by
  intro path hexpected
  have hpath : m.expectedPath dir deviceId = some path := hexpected
  unfold Manager.expectedPath at hpath
  split at hok
  · next hhas =>
    rw [if_pos hhas, hinv.resolve] at hpath
    obtain ⟨url, hurl⟩ := Option.isSome_iff_exists.mp (has_getDeviceEngine dir hok)
    -- The engine that was found or opened is on the file of the row.
    obtain ⟨stored, hstored, rfl⟩ := (hinv.getDeviceEngine deviceId).engines deviceId url hurl
    rw [rows_getDeviceEngine, hpath] at hstored
    rw [Option.some.inj hstored]
    exact hurl
  · next hhas =>
    rw [if_neg hhas, hok] at hpath
    cases hpath

end

/-! ## Runs -/

/-- What holds in a run that keeps the files apart. -/
structure Safe (dir : Str) (s : State) : Prop where
  inv : Inv dir s.manager
  distinct : DistinctFiles dir s.manager.rows
  opened : ∀ o ∈ s.opened, o.Ok
  deletions : ∀ d ∈ s.deletions, d.Ok

section
variable {dir : Str} {isIp : Str → Bool} {s s' : State} {l : Label}

theorem Safe.step (h : Safe dir s) (hok : Distinct dir isIp s l) (hs : step dir isIp s l = some s') : Safe dir s' := by
  cases l with
  | getOrCreateDevice deviceId columns =>
    cases hs
    refine ⟨h.inv.getOrCreateDevice columns, distinctFiles_getOrCreateDevice h.distinct columns ?_, h.opened,
      h.deletions⟩
    intro hnew other hother
    rw [← h.inv.resolve]
    exact hok hnew other hother
  | bindIp deviceId ip =>
    cases hs
    exact ⟨h.inv.bindIp ip, distinctFiles_bindIp h.distinct ip, h.opened, h.deletions⟩
  | renameDeviceDatabase deviceId newName =>
    cases hs
    refine ⟨h.inv.renameDeviceDatabase newName, distinctFiles_renameDeviceDatabase h.distinct ?_, h.opened,
      h.deletions⟩
    intro target htarget hfile other hother hne
    rw [← h.inv.resolve]
    exact hok target htarget hfile other hother hne
  | deleteDevice deviceId =>
    simp only [Isolation.step] at hs
    split at hs
    · next hhas =>
      cases hs
      refine ⟨h.inv.deleteDevice, distinctFiles_deleteDevice h.distinct, h.opened, fun d hd => ?_⟩
      rcases List.mem_append.mp hd with hd | hd
      · exact h.deletions d hd
      · rw [List.mem_singleton.mp hd]
        exact deletion_ok h.inv h.distinct hhas (hok hhas)
    · cases hs
      exact h
  | getDeviceSession deviceId =>
    cases hs
    refine ⟨h.inv.getDeviceEngine deviceId, ?_, fun o ho => ?_, h.deletions⟩
    · show DistinctFiles dir (s.manager.getDeviceEngine dir isIp deviceId).rows
      rw [rows_getDeviceEngine]
      exact h.distinct
    · rcases List.mem_append.mp ho with ho | ho
      · exact h.opened o ho
      · rw [List.mem_singleton.mp ho]
        exact opened_ok h.inv hok

/-- **In every run that keeps the files apart, device databases are isolated**, whatever the ids and names. -/
theorem isolated_of_distinct (h : ReachesUnder (step dir isIp) (Distinct dir isIp) {} s) : Isolated dir s := by
  have hstart : Safe dir {} := by
    refine ⟨inv_init, fun a _ _ ha => ?_, fun _ ho => ?_, fun _ hd => ?_⟩
    · cases ha
    · cases ho
    · cases hd
  have hsafe := h.invariant hstart fun _ _ _ hsafe hok hs => hsafe.step hok hs
  refine ⟨fun a b path ha hb hab hpath => ?_, hsafe.opened, hsafe.deletions⟩
  rw [hsafe.inv.resolve] at hpath ⊢
  exact hsafe.distinct a b path ha hb hab hpath

end

/-- A lamp that is renamed keeps its file while a plug beside it is deleted. -/
def renamedLamp : List Label :=
  [.getOrCreateDevice "lamp" [], .bindIp "lamp" "10.0.0.5", .renameDeviceDatabase "lamp" "Living room",
    .getOrCreateDevice "plug" [], .getDeviceSession "lamp", .deleteDevice "plug", .getDeviceSession "lamp"]

/-- The state it ends in. -/
def renamedLampEnd : State := (exec (step "/data" (· == "10.0.0.5")) {} renamedLamp).getD {}

theorem renamedLamp_isolated : Isolated "/data" renamedLampEnd := by
  have hreach : ReachesUnder (step "/data" (· == "10.0.0.5")) (Distinct "/data" (· == "10.0.0.5")) {}
      renamedLampEnd :=
    reachesUnder_of_exec .start renamedLamp (by decide +kernel) (by decide +kernel)
  exact isolated_of_distinct hreach

/-- Two devices whose ids the sanitiser makes the same. -/
def sharedFile : List Label := [.getOrCreateDevice "a/b" [], .getOrCreateDevice "a_b" []]

/-- The state it ends in. -/
def sharedFileEnd : State := (exec (step "/data" (· == "10.0.0.5")) {} sharedFile).getD {}

/-- They are on one file. -/
theorem sharedFile_shared :
    ¬ ∀ dir isIp s, Reaches (step dir isIp) {} s → Isolated dir s := by
  intro h
  have hreach : Reaches (step "/data" (· == "10.0.0.5")) {} sharedFileEnd :=
    reaches_of_exec sharedFile (by decide +kernel)
  have hisolated := h _ _ _ hreach
  exact hisolated.distinct "a/b" "a_b" "/data/a_b.db" (by decide +kernel) (by decide +kernel) (by decide +kernel)
    (by decide +kernel) (by decide +kernel)

end RideTheApi.Isolation
