import RideTheApi.Pipeline.PatternSync

/-!
# `Pipeline.Forgetting` — whether a removed pattern stays removed

What is known of a device is kept three times: as rows of its database, as the set the process serves from
memory, and as the file a sync wrote, which the next process loads. Saves and imports never remove a row;
`delete_pattern` and `delete_device` do. A removed pattern is not matched as long as the set in memory does
not list it (`neverMatched_of_forgets`), and the steps that leave it listed are those `Forgets` excludes
(`forgotten_iff_forgets`): a deletion whose sync fails, the deletion of a device that is served, and a start
from a file that still lists it.
-/

namespace RideTheApi.Forgetting

open Py PatternDb SavePatterns Restart Transition KeyedTable
open Engine (findBestMatch MatchCall applyPatternDb tablesOf)
open PatternSync (startsSensor learnedLamp)

/-! ## What is known of a device -/

/-- The ids of the patterns of a database. -/
def patternIds (db : DeviceDb) : List Str := db.patterns.map (·.patternId)

/-- The ids of the patterns of a document. -/
def listedIds (doc : PatternDB) : List Str := doc.client.endpoints.map (·.id)

/-- What is stored of a device, what the process serves of it and the text of the exported file. The removed
    patterns are those that were in the database and are not now. -/
structure Knowledge (Text : Type) where
  device : Device := {}
  cached : Option PatternDB := none
  file : Option Text := none
  removed : List Str := []
deriving Repr, DecidableEq

section
variable {Text : Type}

/-- The ids of the patterns that are served from memory. -/
def Knowledge.servedIds (s : Knowledge Text) : List Str := (s.cached.map listedIds).getD []

/-- What is stored changes: what the database lists no more is removed, what it lists again is not. -/
def Knowledge.setDevice (s : Knowledge Text) (device : Device) : Knowledge Text :=
  { s with
    device
    removed := (s.removed ++ patternIds s.device.db).filter fun id => id ∉ patternIds device.db }

/-- No removed pattern is matched, whatever the request. -/
def NeverMatched (s : Knowledge Text) : Prop :=
  ∀ call r, findBestMatch (s.cached.map applyPatternDb) (tablesOf s.device.db) call = .ok r →
    ∀ pat ∈ r.pattern, pat.patternId ∉ s.removed

/-! ## Deleting -/

/-- The rows `delete_pattern` removes: the pattern, its template, and the field mappings of an intent that no
    pattern has any more. Without the pattern nothing is deleted. -/
def deletePattern (id : Str) (db : DeviceDb) : Option DeviceDb :=
  match scalarOneOrNone (db.patterns.filter fun pat => pat.patternId = id) with
  | .ok (some pattern) =>
    let patterns := db.patterns.filter fun pat => pat.patternId ≠ id
    some
      { patterns
        templates := db.templates.filter fun tmpl => tmpl.patternId ≠ id
        mappings :=
          if patterns.any fun pat => pat.intent = pattern.intent then db.mappings
          else db.mappings.filter fun row => row.intent ≠ pattern.intent }
  | _                  => none

/-- A pattern is deleted from the database. -/
def Knowledge.removePattern (s : Knowledge Text) (id : Str) : Knowledge Text :=
  match deletePattern id s.device.db with
  | some db => s.setDevice { s.device with db }
  | none    => s

/-- `delete_device`: each of its two files may fail to be removed. What is served stays. -/
def Knowledge.removeDevice (s : Knowledge Text) (dbRemoved fileRemoved : Bool) : Knowledge Text :=
  let s := if dbRemoved then s.setDevice {} else s
  if fileRemoved then { s with file := none } else s

end

section
variable (F : FileFormat) (H : Host) (stem deviceId vendor deviceType : Str)

/-! ## Syncs and restarts -/

/-- What a sync of the device makes: the set to serve and the text of its file, if it has a pattern. -/
def exported (s : Knowledge F.Text) : Result (Option (PatternDB × F.Text)) :=
  exportAndSync F deviceId vendor deviceType
    (s.cached.map fun doc => (doc.server.stateVariables, doc.server.virtualSensors)) s.device

/-- `export_and_sync_patterns`: the file is written before the patterns are applied, and a failure leaves the
    rest as it was. -/
def resync (written : Bool) (s : Knowledge F.Text) : Knowledge F.Text :=
  match exported F deviceId vendor deviceType s with
  | .error _               => s
  | .ok none               => { s with cached := none }
  | .ok (some (doc, text)) =>
    if written then
      match PatternSync.applied doc with
      | .ok cached => { s with cached, file := some text }
      | .error _   => { s with file := some text }
    else s

/-- A sync goes through: there is nothing to export, or the file is written and the sensors start. -/
def goesThrough (written : Bool) (s : Knowledge F.Text) : Bool :=
  match exported F deviceId vendor deviceType s with
  | .error _            => false
  | .ok none            => true
  | .ok (some (doc, _)) => written && doc.server.virtualSensors.all startsSensor

/-- `_auto_load_patterns`: what a process that finds this file serves of the device. -/
def autoLoaded (file : Option F.Text) : Option PatternDB :=
  (file.bind F.load).bind fun file =>
    if deviceIdFromPatternFile stem file.patternDb.patternMeta.patternId = deviceId then
      (PatternSync.applied file.patternDb).toOption.join
    else none

/-- The ids of the patterns a process starts with. -/
def loadedIds (file : Option F.Text) : List Str := ((autoLoaded F stem deviceId file).map listedIds).getD []

/-- The process ends and another one starts. -/
def restart (s : Knowledge F.Text) : Knowledge F.Text := { s with cached := autoLoaded F stem deviceId s.file }

/-! ## Runs -/

/-- What happens to a device. A deleted pattern is synced at once, unless the process ends between. -/
inductive Event where
  | saves (reply : Dict Str Json)
  | imports (doc : PatternDB)
  | importsModel (model : DeviceModel)
  | identifies (header : DeviceMeta)
  | syncs (written : Bool)
  | deletesPattern (id : Str) (written : Bool)
  | endsDeleting (id : Str)
  | deletesDevice (dbRemoved fileRemoved : Bool)
  | restarts

/-- One event; one that is refused changes nothing. -/
def step (s : Knowledge F.Text) : Event → Option (Knowledge F.Text)
  | .saves reply                         => some (s.setDevice (savePatterns H deviceId reply s.device).1)
  | .imports doc                         =>
    some (match importPatterns deviceId doc s.device.db with
      | .ok db   => s.setDevice { s.device with db }
      | .error _ => s)
  | .importsModel model                  =>
    some (match importDeviceModel H.interp deviceId model s.device with
      | .ok device => s.setDevice device
      | .error _   => s)
  | .identifies header                   => some (s.setDevice { s.device with header := some header })
  | .syncs written                       => some (resync F deviceId vendor deviceType written s)
  | .deletesPattern id written           =>
    some (if (deletePattern id s.device.db).isSome then
        resync F deviceId vendor deviceType written (s.removePattern id)
      else s)
  | .endsDeleting id                     => some (restart F stem deviceId (s.removePattern id))
  | .deletesDevice dbRemoved fileRemoved => some (s.removeDevice dbRemoved fileRemoved)
  | .restarts                            => some (restart F stem deviceId s)

/-- A step that leaves no removed pattern in memory: a deleted pattern is not served, or the sync goes
    through; a device is deleted while none of its patterns is served; and the file a process starts from
    lists no removed pattern. -/
def Forgets (s : Knowledge F.Text) : Event → Prop
  | .deletesPattern id written => (deletePattern id s.device.db).isSome = true →
      id ∉ s.servedIds ∨ goesThrough F deviceId vendor deviceType written (s.removePattern id) = true
  | .endsDeleting id           => ∀ old ∈ loadedIds F stem deviceId s.file, old ∉ (s.removePattern id).removed
  | .deletesDevice dbRemoved _ => dbRemoved = true → ∀ id ∈ patternIds s.device.db, id ∉ s.servedIds
  | .restarts                  => ∀ old ∈ loadedIds F stem deviceId s.file, old ∉ s.removed
  | _                          => True

instance Forgets.decidable (s : Knowledge F.Text) (event : Event) :
    Decidable (Forgets F stem deviceId vendor deviceType s event) := by
  cases event <;> unfold Forgets <;> infer_instance

end

/-! ## A match is listed -/

section
variable {Text : Type} {s : Knowledge Text} {device : Device} {id : Str}

/-- What a walk finds is one of the candidates. -/
theorem matchLoop_found {α β : Type} {C : Engine.Candidate α β} {items : List α} {call : MatchCall}
    {b : FirstMax.Best ℚ α β} (h : Engine.matchLoop C items call = .ok b) {p : α × β} (hp : b.found = some p) :
    p.1 ∈ items := by
  unfold Engine.matchLoop at h
  rcases FirstMax.prunedScan_found h hp with hstart | hmem
  · cases hstart
  · exact hmem

/-- **A match is listed in memory**, or by the database when there is nothing in memory. -/
theorem matched_listed {call : MatchCall} {r : Engine.MatchResult} {pat : Engine.MatchedPattern}
    (h : findBestMatch (s.cached.map applyPatternDb) (tablesOf s.device.db) call = .ok r) (hpat : pat ∈ r.pattern) :
    pat.patternId ∈ s.servedIds ∨ pat.patternId ∈ patternIds s.device.db := by
  unfold findBestMatch at h
  unfold Knowledge.servedIds
  cases hcached : s.cached with
  | some doc =>
    rw [hcached] at h
    obtain ⟨b, hloop, rfl⟩ := Except.map_ok_iff.mp h
    obtain ⟨p, hfound, rfl⟩ := Option.map_eq_some_iff.mp hpat
    obtain ⟨ep, hep, hcompiled⟩ := List.mem_map.mp (matchLoop_found hloop hfound)
    rw [← hcompiled]
    exact .inl (List.mem_map_of_mem hep)
  | none =>
    rw [hcached] at h
    obtain ⟨b, hloop, rfl⟩ := Except.map_ok_iff.mp h
    obtain ⟨p, hfound, rfl⟩ := Option.map_eq_some_iff.mp hpat
    exact .inr (List.mem_map_of_mem (matchLoop_found hloop hfound))

/-- No removed pattern is stored or served. -/
structure Forgotten (s : Knowledge Text) : Prop where
  gone : ∀ id ∈ s.removed, id ∉ patternIds s.device.db
  unserved : ∀ id ∈ s.removed, id ∉ s.servedIds

theorem Forgotten.neverMatched (h : Forgotten s) : NeverMatched s := by
  intro call r hmatch pat hpat hremoved
  rcases matched_listed hmatch hpat with hserved | hstored
  · exact h.unserved _ hremoved hserved
  · exact h.gone _ hremoved hstored

/-! ## Changing what is stored -/

theorem mem_removed_setDevice : id ∈ (s.setDevice device).removed ↔
    (id ∈ s.removed ∨ id ∈ patternIds s.device.db) ∧ id ∉ patternIds device.db := by
  unfold Knowledge.setDevice
  rw [List.mem_filter, List.mem_append, decide_eq_true_eq]

theorem gone_setDevice (s : Knowledge Text) (device : Device) :
    ∀ id ∈ (s.setDevice device).removed, id ∉ patternIds (s.setDevice device).device.db :=
  fun _ hid => (mem_removed_setDevice.mp hid).2

/-- **What is stored may change as long as no pattern that goes is served.** -/
theorem forgotten_setDevice_iff (h : Forgotten s) (device : Device) : Forgotten (s.setDevice device) ↔
    ∀ id ∈ patternIds s.device.db, id ∉ patternIds device.db → id ∉ s.servedIds := by
  constructor
  · intro hset id hid hgone
    exact hset.unserved id (mem_removed_setDevice.mpr ⟨.inr hid, hgone⟩)
  · intro hgoes
    refine ⟨gone_setDevice s device, fun id hid => ?_⟩
    obtain ⟨hwas, hgone⟩ := mem_removed_setDevice.mp hid
    rcases hwas with hremoved | hstored
    · exact h.unserved id hremoved
    · exact hgoes id hstored hgone

/-- A change that removes no pattern. -/
theorem Forgotten.setDevice (h : Forgotten s) (hkeeps : ∀ id ∈ patternIds s.device.db, id ∈ patternIds device.db) :
    Forgotten (s.setDevice device) :=
  (forgotten_setDevice_iff h device).mpr fun id hid hgone => absurd (hkeeps id hid) hgone

/-- The patterns after one was deleted: all others. -/
theorem patternIds_deletePattern {db db' : DeviceDb} (h : deletePattern id db = some db') :
    id ∈ patternIds db ∧ ∀ x, x ∈ patternIds db' ↔ x ∈ patternIds db ∧ x ≠ id := by
  unfold deletePattern at h
  split at h
  next pattern hpattern =>
    cases h
    constructor
    · have hmem : pattern ∈ db.patterns.filter fun pat => pat.patternId = id := by
        unfold scalarOneOrNone at hpattern
        split at hpattern
        · cases hpattern
        next x hx =>
          cases hpattern
          rw [hx]
          exact List.mem_singleton_self _
        · cases hpattern
      obtain ⟨hpat, hid⟩ := List.mem_filter.mp hmem
      exact List.mem_map.mpr ⟨pattern, hpat, of_decide_eq_true hid⟩
    · intro x
      simp only [patternIds, List.mem_map, List.mem_filter, decide_eq_true_eq]
      constructor
      · rintro ⟨pat, ⟨hpat, hne⟩, rfl⟩
        exact ⟨⟨pat, hpat, rfl⟩, hne⟩
      · rintro ⟨⟨pat, hpat, rfl⟩, hne⟩
        exact ⟨pat, ⟨hpat, hne⟩, rfl⟩
  next => cases h

/-- A pattern that is deleted must not be served. -/
theorem forgotten_removePattern_iff (h : Forgotten s) (id : Str) :
    Forgotten (s.removePattern id) ↔ ((deletePattern id s.device.db).isSome = true → id ∉ s.servedIds) := by
  unfold Knowledge.removePattern
  cases hdelete : deletePattern id s.device.db with
  | none => exact ⟨fun _ => nofun, fun _ => h⟩
  | some db =>
    obtain ⟨hid, hids⟩ := patternIds_deletePattern hdelete
    rw [forgotten_setDevice_iff h]
    constructor
    · exact fun hgoes _ => hgoes id hid fun hmem => ((hids id).mp hmem).2 rfl
    · intro hunserved x hx hgone
      have heq : x = id := by_contra fun hne => hgone ((hids x).mpr ⟨hx, hne⟩)
      rw [heq]
      exact hunserved rfl

theorem gone_removePattern (h : Forgotten s) (id : Str) :
    ∀ x ∈ (s.removePattern id).removed, x ∉ patternIds (s.removePattern id).device.db := by
  unfold Knowledge.removePattern
  split
  · exact gone_setDevice _ _
  · exact h.gone

/-- A device that is deleted must not be served. -/
theorem forgotten_removeDevice_iff (h : Forgotten s) (dbRemoved fileRemoved : Bool) :
    Forgotten (s.removeDevice dbRemoved fileRemoved) ↔
      (dbRemoved = true → ∀ id ∈ patternIds s.device.db, id ∉ s.servedIds) := by
  have hdb : Forgotten (if dbRemoved then s.setDevice {} else s) ↔
      (dbRemoved = true → ∀ id ∈ patternIds s.device.db, id ∉ s.servedIds) := by
    cases dbRemoved with
    | false => exact ⟨fun _ => nofun, fun _ => h⟩
    | true =>
      rw [if_pos rfl, forgotten_setDevice_iff h]
      exact ⟨fun hgoes _ id hid => hgoes id hid (List.not_mem_nil), fun hgoes id hid _ => hgoes rfl id hid⟩
  unfold Knowledge.removeDevice
  dsimp only
  rw [← hdb]
  cases fileRemoved with
  | false => exact Iff.rfl
  | true => exact ⟨fun hf => ⟨hf.gone, hf.unserved⟩, fun hf => ⟨hf.gone, hf.unserved⟩⟩

end

/-! ## Saves and imports remove nothing -/

section
variable {H : Host} {deviceId : Str} {device : Device} {db db' : DeviceDb} {id : Str}

theorem patternIds_importPatterns {doc : PatternDB} (h : importPatterns deviceId doc db = .ok db')
    (hid : id ∈ patternIds db) : id ∈ patternIds db' := by
  obtain ⟨_, rfl⟩ := importPatterns_ok_iff.mp h
  unfold patternIds
  rw [importPlan_patterns]
  refine (mem_keys_foldl_upsert ?_ ?_ id).mpr (.inl hid)
  · exact fun _ _ hkey => hkey
  · exact fun _ => rfl

theorem patternIds_importDeviceModel {I : Interp} {model : DeviceModel} {device' : Device}
    (h : importDeviceModel I deviceId model device = .ok device') (hid : id ∈ patternIds device.db) :
    id ∈ patternIds device'.db := by
  obtain ⟨db', hdb, rfl⟩ := Except.map_ok_iff.mp h
  exact patternIds_importPatterns hdb hid

theorem patternIds_mergeDeviceModel {I : Interp} {digest : Str → Result Str} {model : DeviceModel}
    (hid : id ∈ patternIds device.db) :
    id ∈ patternIds (mergeDeviceModel I digest deviceId model device).1.db := by
  unfold mergeDeviceModel
  dsimp only
  split
  · unfold patternIds
    rw [mergeCommands_patterns]
    refine (mem_keys_foldl_upsert ?_ ?_ id).mpr (.inl hid)
    · exact fun _ _ hkey => hkey
    · exact fun _ => rfl
  · exact hid

theorem patternIds_tryDelta {reply : Dict Str Json} (hid : id ∈ patternIds device.db) :
    id ∈ patternIds (tryDelta H deviceId reply device).1.db := by
  unfold tryDelta
  split
  · unfold saveDelta
    cases deltaModel H deviceId device.header reply with
    | error e => exact hid
    | ok model =>
      have hmerged : id ∈ patternIds (mergeDeviceModel H.interp H.digest deviceId model device).1.db :=
        patternIds_mergeDeviceModel hid
      dsimp only
      split
      next hmerge => exact hmerge ▸ hmerged
      next hmerge _ => exact hmerge ▸ hmerged
      next => exact hid
  · exact hid

theorem patternIds_learnPatterns {patterns : List (Dict Str Json)}
    (h : learnPatterns H deviceId patterns db = .ok db') (hid : id ∈ patternIds db) : id ∈ patternIds db' := by
  unfold learnPatterns at h
  obtain ⟨_, _, h⟩ := Except.bind_ok_iff.mp h
  obtain ⟨_, _, h⟩ := Except.bind_ok_iff.mp h
  obtain ⟨_, _, h⟩ := Except.bind_ok_iff.mp h
  obtain ⟨_, _, h⟩ := Except.bind_ok_iff.mp h
  obtain ⟨_, _, h⟩ := Except.bind_ok_iff.mp h
  obtain ⟨rows, _, h⟩ := Except.bind_ok_iff.mp h
  cases h
  unfold patternIds storeRows
  refine (mem_keys_foldl_upsert ?_ ?_ id).mpr (.inl hid)
  · exact fun _ _ _ => rfl
  · exact fun _ => rfl

theorem patternIds_tryDocument {reply : Dict Str Json} (h : tryDocument H deviceId reply db = .ok db')
    (hid : id ∈ patternIds db) : id ∈ patternIds db' := by
  unfold tryDocument at h
  split at h
  · unfold saveDocument at h
    obtain ⟨_, _, h⟩ := Except.bind_ok_iff.mp h
    obtain ⟨_, _, h⟩ := Except.bind_ok_iff.mp h
    exact patternIds_importPatterns h hid
  · cases h

/-- **A save removes no pattern**, whether it goes through or raises. -/
theorem patternIds_savePatterns (reply : Dict Str Json) (hid : id ∈ patternIds device.db) :
    id ∈ patternIds (savePatterns H deviceId reply device).1.db := by
  have htried : id ∈ patternIds (tryDelta H deviceId reply device).1.db := patternIds_tryDelta hid
  unfold savePatterns
  split
  next hdelta =>
    rw [hdelta] at htried
    exact htried
  next hdelta =>
    rw [hdelta] at htried
    split
    next hdocument => exact patternIds_tryDocument hdocument htried
    next =>
      split
      next hlearned => exact patternIds_learnPatterns hlearned htried
      next => exact htried

end

/-! ## A sync and a start -/

section
variable {F : FileFormat} {H : Host} {stem deviceId vendor deviceType : Str} {s s' : Knowledge F.Text}

/-- An export lists the rows. -/
theorem listedIds_exportPatterns {config : List StateVariable × List VirtualSensor} {db : DeviceDb} {doc : PatternDB}
    (h : exportPatterns deviceId vendor deviceType config db = .ok doc) : listedIds doc = patternIds db := by
  unfold exportPatterns at h
  obtain ⟨endpoints, hendpoints, h⟩ := Except.bind_ok_iff.mp h
  obtain ⟨_, _, h⟩ := Except.bind_ok_iff.mp h
  cases h
  show endpoints.map (·.id) = db.patterns.map (·.patternId)
  rw [← List.forall₂_eq_eq_eq, List.forall₂_map_left_iff, List.forall₂_map_right_iff]
  refine (Except.forall₂_of_mapM hendpoints).flip.imp fun ep pat hep => ?_
  unfold exportEndpoint at hep
  obtain ⟨_, _, hep⟩ := Except.bind_ok_iff.mp hep
  obtain ⟨_, _, hep⟩ := Except.bind_ok_iff.mp hep
  obtain ⟨_, _, hep⟩ := Except.bind_ok_iff.mp hep
  cases hep
  rfl

/-- A sync leaves what is stored and what was removed. -/
theorem resync_stored (written : Bool) (s : Knowledge F.Text) :
    (resync F deviceId vendor deviceType written s).device = s.device ∧
      (resync F deviceId vendor deviceType written s).removed = s.removed := by
  unfold resync
  split
  · exact ⟨rfl, rfl⟩
  · exact ⟨rfl, rfl⟩
  · split
    · split <;> exact ⟨rfl, rfl⟩
    · exact ⟨rfl, rfl⟩

/-- **A sync that goes through serves nothing that is not stored.** -/
theorem servedIds_resync {written : Bool} (h : goesThrough F deviceId vendor deviceType written s = true) :
    ∀ id ∈ (resync F deviceId vendor deviceType written s).servedIds, id ∈ patternIds s.device.db := by
  unfold goesThrough at h
  unfold resync
  split at h
  next => cases h
  next => nofun
  next doc text hexport =>
    simp only [Bool.and_eq_true] at h
    obtain ⟨rfl, hsensors⟩ := h
    have happlied : PatternSync.applied doc = .ok (some doc) := if_pos hsensors
    have hlisted : listedIds doc = patternIds s.device.db := listedIds_exportPatterns (exportAndSync_ok hexport).1
    rw [if_pos rfl, happlied]
    show ∀ id ∈ listedIds doc, _
    rw [hlisted]
    exact fun _ hid => hid

/-- A sync that does not go through leaves what was served. -/
theorem cached_resync_of_fails {written : Bool} (h : goesThrough F deviceId vendor deviceType written s = false) :
    (resync F deviceId vendor deviceType written s).cached = s.cached := by
  unfold goesThrough at h
  unfold resync
  split at h
  next => rfl
  next => cases h
  next doc text _ =>
    cases written with
    | false => rfl
    | true =>
      have hfails : PatternSync.applied doc = .error .indexError := by
        rw [Bool.true_and] at h
        exact if_neg (by rw [h]; exact Bool.false_ne_true)
      rw [if_pos rfl, hfails]

/-- A sync forgets what was removed if it goes through; else it keeps what was forgotten. -/
theorem forgotten_resync_iff (hgone : ∀ id ∈ s.removed, id ∉ patternIds s.device.db) (written : Bool) :
    Forgotten (resync F deviceId vendor deviceType written s) ↔
      Forgotten s ∨ goesThrough F deviceId vendor deviceType written s = true := by
  have hstored : (resync F deviceId vendor deviceType written s).device = s.device ∧
      (resync F deviceId vendor deviceType written s).removed = s.removed := resync_stored written s
  cases hthrough : goesThrough F deviceId vendor deviceType written s with
  | true =>
    refine iff_of_true ⟨?_, fun id hid hserved => ?_⟩ (.inr rfl)
    · rw [hstored.1, hstored.2]
      exact hgone
    · rw [hstored.2] at hid
      exact hgone id hid (servedIds_resync hthrough id hserved)
  | false =>
    have hserved : (resync F deviceId vendor deviceType written s).servedIds = s.servedIds := by
      unfold Knowledge.servedIds
      rw [cached_resync_of_fails hthrough]
    constructor
    · intro hforgotten
      refine .inl ⟨hgone, fun id hid => ?_⟩
      rw [← hserved]
      exact hforgotten.unserved id (hstored.2 ▸ hid)
    · intro hforgotten
      have hwas : Forgotten s := hforgotten.resolve_right (nofun)
      refine ⟨?_, ?_⟩
      · rw [hstored.1, hstored.2]
        exact hwas.gone
      · rw [hstored.2, hserved]
        exact hwas.unserved

/-- A process that starts must not find a removed pattern in the file. -/
theorem forgotten_restart_iff (hgone : ∀ id ∈ s.removed, id ∉ patternIds s.device.db) :
    Forgotten (restart F stem deviceId s) ↔ ∀ old ∈ loadedIds F stem deviceId s.file, old ∉ s.removed :=
  ⟨fun h old hold hremoved => h.unserved old hremoved hold, fun h => ⟨hgone, fun id hid hold => h id hold hid⟩⟩

/-- A command lists its row. -/
theorem listedIds_exportDeviceModel {applied : Option (List StateVariable × List VirtualSensor)} {device : Device}
    {model : DeviceModel} (h : exportDeviceModel deviceId vendor deviceType applied device = .ok model) :
    listedIds model.toPatternDb = patternIds device.db := by
  unfold exportDeviceModel at h
  obtain ⟨commands, hcommands, h⟩ := Except.bind_ok_iff.mp h
  obtain ⟨_, _, h⟩ := Except.bind_ok_iff.mp h
  cases h
  show (commands.map (Command.toEndpoint _)).map (·.id) = device.db.patterns.map (·.patternId)
  rw [List.map_map, ← List.forall₂_eq_eq_eq, List.forall₂_map_left_iff, List.forall₂_map_right_iff]
  refine (Except.forall₂_of_mapM hcommands).flip.imp fun cmd pat hcmd => ?_
  unfold exportCommand at hcmd
  obtain ⟨_, _, hcmd⟩ := Except.bind_ok_iff.mp hcmd
  obtain ⟨_, _, hcmd⟩ := Except.bind_ok_iff.mp hcmd
  obtain ⟨_, _, hcmd⟩ := Except.bind_ok_iff.mp hcmd
  cases hcmd
  rfl

/-- Whatever is loaded from a file is listed by it. -/
theorem listed_of_loadedIds {text : F.Text} {file : PortableFile} (hload : F.load text = some file) {id : Str}
    (hid : id ∈ loadedIds F stem deviceId (some text)) : id ∈ listedIds file.patternDb := by
  unfold loadedIds autoLoaded at hid
  rw [Option.bind_some, hload, Option.bind_some] at hid
  unfold PatternSync.applied at hid
  split at hid
  · split at hid
    · exact hid
    · cases hid
  · cases hid

/-- A sync that makes nothing has no rows. -/
theorem patterns_of_exported_none (h : exported F deviceId vendor deviceType s = .ok none) :
    s.device.db.patterns = [] := by
  unfold exported exportAndSync at h
  obtain ⟨doc, hdoc, h⟩ := Except.bind_ok_iff.mp h
  split at h
  next hempty =>
    have hids : patternIds s.device.db = [] := by
      rw [← listedIds_exportPatterns hdoc]
      unfold listedIds
      rw [List.isEmpty_iff.mp hempty]
      rfl
    exact List.map_eq_nil_iff.mp hids
  next =>
    obtain ⟨_, _, h⟩ := Except.bind_ok_iff.mp h
    split at h <;> cases h

/-- **After a sync that goes through and has a pattern to write, a start forgets**: its file lists the rows. -/
theorem forgets_restart_of_synced {written : Bool} (hgone : ∀ id ∈ s.removed, id ∉ patternIds s.device.db)
    (hthrough : goesThrough F deviceId vendor deviceType written s = true) (hrows : s.device.db.patterns ≠ []) :
    Forgets F stem deviceId vendor deviceType (resync F deviceId vendor deviceType written s) .restarts := by
  intro old hold hremoved
  rw [(resync_stored written s).2] at hremoved
  refine hgone old hremoved ?_
  unfold goesThrough at hthrough
  unfold resync at hold
  split at hthrough
  next => cases hthrough
  next hexport => exact absurd (patterns_of_exported_none hexport) hrows
  next doc text hexport =>
    simp only [Bool.and_eq_true] at hthrough
    obtain ⟨rfl, hsensors⟩ := hthrough
    have happlied : PatternSync.applied doc = .ok (some doc) := if_pos hsensors
    rw [hexport] at hold
    dsimp only at hold
    rw [if_pos rfl, happlied] at hold
    obtain ⟨hdoc, file, hfile, hload⟩ := exportAndSync_ok hexport
    have hlisted : listedIds file.patternDb = patternIds s.device.db := by
      unfold portableFile at hfile
      split at hfile
      · obtain ⟨model, hmodel, rfl⟩ := Except.map_ok_iff.mp hfile
        exact listedIds_exportDeviceModel hmodel
      · cases hfile
        exact listedIds_exportPatterns hdoc
    rw [← hlisted]
    exact listed_of_loadedIds hload hold

/-! ## Every run -/

/-- **A step keeps what was forgotten exactly if `Forgets` allows it.** -/
theorem forgotten_step_iff {event : Event} (h : Forgotten s)
    (hstep : step F H stem deviceId vendor deviceType s event = some s') :
    Forgotten s' ↔ Forgets F stem deviceId vendor deviceType s event := by
  cases event with
  | saves reply =>
    cases hstep
    exact iff_of_true (h.setDevice fun id hid => patternIds_savePatterns reply hid) trivial
  | imports doc =>
    cases hstep
    refine iff_of_true ?_ trivial
    split
    next himport => exact h.setDevice fun id hid => patternIds_importPatterns himport hid
    next => exact h
  | importsModel model =>
    cases hstep
    refine iff_of_true ?_ trivial
    split
    next himport => exact h.setDevice fun id hid => patternIds_importDeviceModel himport hid
    next => exact h
  | identifies header =>
    cases hstep
    exact iff_of_true (h.setDevice fun id hid => hid) trivial
  | syncs written =>
    cases hstep
    exact iff_of_true ((forgotten_resync_iff h.gone written).mpr (.inl h)) trivial
  | deletesPattern id written =>
    cases hstep
    unfold Forgets
    by_cases hdeletes : (deletePattern id s.device.db).isSome = true
    · rw [if_pos hdeletes, forgotten_resync_iff (gone_removePattern h id), forgotten_removePattern_iff h]
      exact ⟨fun hforgets _ => hforgets.imp_left fun hunserved => hunserved hdeletes,
        fun hforgets => (hforgets hdeletes).imp_left fun hunserved _ => hunserved⟩
    · rw [if_neg hdeletes]
      exact iff_of_true h fun hsome => absurd hsome hdeletes
  | endsDeleting id =>
    cases hstep
    rw [forgotten_restart_iff (gone_removePattern h id)]
    have hfile : (s.removePattern id).file = s.file := by
      unfold Knowledge.removePattern
      split <;> rfl
    rw [hfile]
    rfl
  | deletesDevice dbRemoved fileRemoved =>
    cases hstep
    exact forgotten_removeDevice_iff h dbRemoved fileRemoved
  | restarts =>
    cases hstep
    exact forgotten_restart_iff h.gone

/-- Nothing was removed of a device that nothing is known of. -/
theorem forgotten_empty : Forgotten ({} : Knowledge F.Text) := ⟨by simp, by simp⟩

/-- **No removed pattern is stored or served at any point of a run iff each of its steps forgets.** -/
theorem forgotten_iff_forgets {events : List Event} :
    (∀ pre, pre <+: events → ∀ s, exec (step F H stem deviceId vendor deviceType) {} pre = some s → Forgotten s) ↔
      AllOk (step F H stem deviceId vendor deviceType) (Forgets F stem deviceId vendor deviceType) {} events := by
  refine forall_prefix_iff_allOk (fun s event => ?_) (fun s event s' h hstep => forgotten_step_iff h hstep)
    forgotten_empty
  cases event <;> exact ⟨_, rfl⟩

end

/-- **In every run each step of which forgets, a pattern that has been removed from the database is never
    matched again** unless a later save or import adds it. -/
theorem neverMatched_of_forgets (F : FileFormat) (H : Host) (stem deviceId vendor deviceType : Str)
    (s : Knowledge F.Text) (h : ReachesUnder (step F H stem deviceId vendor deviceType)
      (Forgets F stem deviceId vendor deviceType) {} s) : NeverMatched s := by
  have hforgotten : Forgotten s :=
    h.invariant forgotten_empty fun s event s' hs hok hstep => (forgotten_step_iff hs hstep).mpr hok
  exact hforgotten.neverMatched

/-! ## A lamp that forgets -/

instance : DecidableEq plainFormat.Text := inferInstanceAs (DecidableEq PortableFile)

/-- What happens to a lamp. -/
abbrev lampStep : Knowledge plainFormat.Text → Event → Option (Knowledge plainFormat.Text) :=
  step plainFormat PatternSync.lampHost "stem" "lamp" "unknown" "unknown"

/-- A lamp learns to go on and off and is synced, forgets how to go on, and is restarted. -/
def forgetsOn : List Event :=
  learnedLamp.map (fun cycle => .saves cycle.reply) ++ [.syncs true, .deletesPattern "lamp_on_891652ef" true, .restarts]

/-- What is known of the lamp then. -/
def forgotOn : Knowledge plainFormat.Text := (exec lampStep {} forgetsOn).getD {}

theorem forgotOn_neverMatched : forgotOn.removed = [str "lamp_on_891652ef"] ∧ NeverMatched forgotOn := by
  have hreach : ReachesUnder lampStep (Forgets plainFormat "stem" "lamp" "unknown" "unknown") {} forgotOn :=
    reachesUnder_of_exec .start forgetsOn (by decide +kernel) (by decide +kernel)
  exact ⟨by decide +kernel, neverMatched_of_forgets plainFormat PatternSync.lampHost "stem" "lamp" "unknown" "unknown"
    forgotOn hreach⟩

/-- A lamp learns to go on and is synced; its last pattern is deleted, and it is restarted. -/
def forgetsAll : List Event :=
  (learnedLamp.take 1).map (fun cycle => .saves cycle.reply) ++
    [.syncs true, .deletesPattern "lamp_on_891652ef" true, .restarts]

/-- What is known of the lamp then. -/
def forgotAll : Knowledge plainFormat.Text := (exec lampStep {} forgetsAll).getD {}

/-- A request to switch the lamp on. -/
def switchOn : MatchCall where
  method := "POST"
  path := "/lamp"
  headers := []
  body := .null
  queryParams := []

/-- The deletion of the last pattern leaves its file, from which the next process matches it. -/
theorem forgotAll_matched : ¬ ∀ F H stem deviceId vendor deviceType (s : Knowledge F.Text),
    Reaches (step F H stem deviceId vendor deviceType) {} s → NeverMatched s := by
  intro h
  have hreach : Reaches lampStep {} forgotAll := reaches_of_exec forgetsAll (by decide +kernel)
  have hnever := h plainFormat PatternSync.lampHost "stem" "lamp" "unknown" "unknown" forgotAll hreach
  have hmatch : (match findBestMatch (forgotAll.cached.map applyPatternDb) (tablesOf forgotAll.device.db) switchOn with
      | .ok r    => r.pattern.any fun pat => decide (pat.patternId ∈ forgotAll.removed)
      | .error _ => false) = true := by
    decide +kernel
  split at hmatch
  next r hr =>
    obtain ⟨pat, hpat, hremoved⟩ := (Option.any_eq_true _ _).mp hmatch
    exact hnever switchOn r hr pat hpat (of_decide_eq_true hremoved)
  next => cases hmatch

end RideTheApi.Forgetting
