import RideTheApi.Lib.StableSort
import RideTheApi.PatternDb.SeedMerge
import RideTheApi.Pipeline.PatternSync

/-!
# `Pipeline.StartupPatterns` — the pattern files that are served after a start

At startup the pattern files that are found are loaded one by one: those that a sync wrote first, then those
a user supplied, each for the device that it names. A user's file is put in the slot of its device and
merged onto what the device's own export held. The slot has room for one file, so of several files of
a user for one device the last that loads is served, and is all that later syncs merge.
-/

namespace RideTheApi.StartupPatterns

open Py PatternDb PatternSync

/-! ## The files -/

/-- What reading a file as JSON yields. -/
inductive Reading where
  | osError
  | jsonDecodeError
  | raises (e : Exn)
  | data (v : Json)
deriving Repr, DecidableEq

structure PatternFile where
  name : Str
  reading : Reading
deriving Repr, DecidableEq

/-- The validation of the two formats, and the hash that names exports. -/
structure Host extends Readers where
  sha256 : Str → Result Str

/-- `sorted(search_dir.glob("*.ride-pattern.json"))`, for the files of a directory. -/
def globPatterns (dir : List PatternFile) : List PatternFile :=
  (dir.filter fun file => file.name.endsWith ".ride-pattern.json").insertionSort fun f g => f.name ≤ g.name

/-- `pattern_file.stem`. -/
def stem (name : Str) : Str :=
  let stem := (name.rdropWhile (· != cp '.')).dropLast
  if stem.isEmpty || name.getLast? == some (cp '.') then name else stem

/-- `s.replace(p, "")`, while `skip` code points of an occurrence are left. -/
def removeFrom (p : Str) : Nat → Str → Str
  | _, []            => []
  | skip + 1, _ :: s => removeFrom p skip s
  | 0, c :: s        => if Str.startsWith (c :: s) p then removeFrom p (p.length - 1) s else c :: removeFrom p 0 s

/-- `s.removesuffix(p)`. -/
def removeSuffix (s p : Str) : Str := if s.endsWith p then s.take (s.length - p.length) else s

/-- The device id that the name of a file gives. -/
def deviceIdFromName (name : Str) : Str :=
  if (stem name).endsWith ".ride-pattern" then removeFrom ".ride-pattern" 0 (stem name) else stem name

/-- `_device_id_from_pattern_file`: the id of `meta.pattern_id`, else that of the name. -/
def deviceIdFromPatternFile (file : PatternFile) : Result Str :=
  match file.reading with
  | .osError         => .ok (deviceIdFromName file.name)
  | .jsonDecodeError => .ok (deviceIdFromName file.name)
  | .raises e        => .error e
  | .data data       => do
    let patternMeta ← data.getD "meta" (.obj [])
    match ← patternMeta.getD "pattern_id" (.str []) with
    | .str patternId =>
      if patternId.endsWith "-patterns" && decide ((str "-patterns").length < patternId.length) then
        .ok (removeSuffix patternId "-patterns")
      else .ok (deviceIdFromName file.name)
    | _ => .error .attributeError

/-- A file that was found, the device it is for, and whether a sync wrote it. -/
structure Found where
  file : PatternFile
  deviceId : Str
  own : Bool
deriving Repr, DecidableEq

section
variable (H : Host)

/-- `_is_own_export`. -/
def isOwnExport (file : PatternFile) (deviceId : Str) : Result Bool := do
  let digest ← H.sha256 deviceId
  .ok (removeSuffix file.name ".ride-pattern.json" == digest)

/-- The files of the directories that are searched, each with its device: what they name, then what wrote them. -/
def foundPatterns (dirs : List (List PatternFile)) : Result (List Found) := do
  let named ← (dirs.flatMap globPatterns).mapM fun file => do
    let deviceId ← deviceIdFromPatternFile file
    .ok (file, deviceId)
  named.mapM fun item => do
    let own ← isOwnExport H item.1 item.2
    .ok ⟨item.1, item.2, own⟩

/-- The pattern set that a file holds. -/
def patternsOf : Reading → Result PatternDB
  | .osError         => .error .other
  | .jsonDecodeError => .error .valueError
  | .raises e        => .error e
  | .data data       => H.patterns data

/-! ## Loading them -/

/-- What the engine holds: the sets that are served, and those of users' files. -/
structure Engine where
  cached : Dict Str PatternDB := []
  seeds : Dict Str PatternDB := []
deriving Repr, DecidableEq

/-- `apply_pattern_db`. -/
def Engine.applyPatternDb (engine : Engine) (deviceId : Str) (doc : PatternDB) : Result Engine := do
  let _ ← applied doc
  .ok { engine with cached := engine.cached.set deviceId doc }

/-- `load_pattern_file`. -/
def Engine.loadPatternFile (engine : Engine) (deviceId : Str) (file : PatternFile) (seed : Bool) :
    Result (Engine × PatternDB) := do
  let doc ← patternsOf H file.reading
  let engine ← engine.applyPatternDb deviceId doc
  .ok (if seed then { engine with seeds := engine.seeds.set deviceId doc } else engine, doc)

/-- The engine while files are loaded, and the exports that were. -/
structure Loading where
  engine : Engine := {}
  snapshots : Dict Str PatternDB := []
deriving Repr, DecidableEq

/-- One file: one that does not load is passed over. -/
def loadFound (s : Loading) (found : Found) : Result Loading :=
  match s.engine.loadPatternFile H found.deviceId found.file (!found.own) with
  | .error _           => .ok s
  | .ok (engine, doc) =>
    if found.own then .ok { engine, snapshots := s.snapshots.set found.deviceId doc }
    else match s.snapshots.get? found.deviceId with
      | none          => .ok { s with engine }
      | some snapshot => do
        let engine ← engine.applyPatternDb found.deviceId (mergePatternDbs snapshot doc)
        .ok { s with engine }

/-- `_auto_load_patterns`, for a new engine: exports first. -/
def autoLoadPatterns (dirs : List (List PatternFile)) : Result Engine := do
  let files ← foundPatterns H dirs
  let s ← (files.insertionSort fun f g => (!f.own) ≤ !g.own).foldlM (loadFound H) {}
  .ok s.engine

/-! ## What is served -/

/-- A later sync: the device as it is then, and whether the pattern file could be written. -/
structure Sync where
  device : Device := {}
  vendor : Str := "unknown"
  deviceType : Str := "unknown"
  written : Bool := true

/-- A sync of what the engine holds of a device. -/
def syncStep (deviceId : Str) (s : Learner) (sync : Sync) : Learner :=
  exportAndSyncPatterns deviceId sync.vendor sync.deviceType sync.written { s with device := sync.device }

/-- What the engine holds of a device after later syncs. -/
def Engine.synced (engine : Engine) (deviceId : Str) (syncs : List Sync) : Learner :=
  syncs.foldl (syncStep deviceId) { cached := engine.cached.get? deviceId, seed := engine.seeds.get? deviceId }

/-- The set that a file holds, if it is one. -/
def Found.patterns (found : Found) : Option PatternDB := (patternsOf H found.file.reading).toOption

end

/-- An endpoint of this id is served. -/
def ServesId (served : Option PatternDB) (id : Str) : Prop :=
  ∃ doc ∈ served, id ∈ doc.client.endpoints.map (·.id)

/-- The endpoints of a user's file are served, by id. -/
def ServesSeed (seed : PatternDB) (served : Option PatternDB) : Prop :=
  ∀ ep ∈ seed.client.endpoints, ServesId served ep.id

/-- The endpoints of an export are served, and no others under their ids. -/
structure ServesExport (snapshot : PatternDB) (served : Option PatternDB) : Prop where
  all : ∀ ep ∈ snapshot.client.endpoints, ∃ doc ∈ served, ep ∈ doc.client.endpoints
  wins : ∀ doc ∈ served, ∀ ep ∈ doc.client.endpoints, ep.id ∈ snapshot.client.endpoints.map (·.id) →
    ep ∈ snapshot.client.endpoints

instance (served : Option PatternDB) (id : Str) : Decidable (ServesId served id) :=
  inferInstanceAs (Decidable (∃ doc ∈ served, id ∈ doc.client.endpoints.map (·.id)))

instance (seed : PatternDB) (served : Option PatternDB) : Decidable (ServesSeed seed served) :=
  inferInstanceAs (Decidable (∀ ep ∈ seed.client.endpoints, ServesId served ep.id))

instance (snapshot : PatternDB) (served : Option PatternDB) : Decidable (ServesExport snapshot served) :=
  decidable_of_iff
    ((∀ ep ∈ snapshot.client.endpoints, ∃ doc ∈ served, ep ∈ doc.client.endpoints) ∧
      ∀ doc ∈ served, ∀ ep ∈ doc.client.endpoints, ep.id ∈ snapshot.client.endpoints.map (·.id) →
        ep ∈ snapshot.client.endpoints)
    ⟨fun ⟨hall, hwins⟩ => ⟨hall, hwins⟩, fun h => ⟨h.all, h.wins⟩⟩

section
variable (H : Host)

/-- A file is served: an export as it is, a user's by the ids of its endpoints, also after later syncs. -/
def Found.Served (found : Found) (engine : Engine) : Prop :=
  ∀ doc ∈ found.patterns H,
    if found.own then ServesExport doc (engine.cached.get? found.deviceId)
    else ServesSeed doc (engine.cached.get? found.deviceId) ∧
      ∀ syncs, ServesSeed doc (engine.synced found.deviceId syncs).cached

/-- The start goes through, and every file that was found is served. -/
def ServesUnion (dirs : List (List PatternFile)) : Prop :=
  ∃ files engine, foundPatterns H dirs = .ok files ∧ autoLoadPatterns H dirs = .ok engine ∧
    ∀ found ∈ files, found.Served H engine

/-- At most one export of each device is found. -/
def OneExport (dirs : List (List PatternFile)) : Prop :=
  ∀ files, foundPatterns H dirs = .ok files → ∀ deviceId : Str,
    (files.filter fun found => found.own && found.deviceId == deviceId).length ≤ 1

/-- The sensors of a set start. -/
def starts (doc : PatternDB) : Bool := doc.server.virtualSensors.all startsSensor

/-- The sets of the files that load for a device. -/
def loadsFor (own : Bool) (deviceId : Str) (files : List Found) : List PatternDB :=
  ((files.filter fun found => found.own == own && found.deviceId == deviceId).filterMap (·.patterns H)).filter starts

/-- The last file of a user that loads for a device. -/
def lastSeed (deviceId : Str) (files : List Found) : Option PatternDB := (loadsFor H false deviceId files).getLast?

/-- No file stops the start; what a user's file has, the last that loads for its device has too, and an export
    whose sensors do not start has nothing that file lacks. -/
def LastHoldsAll (dirs : List (List PatternFile)) : Prop :=
  ∃ files, foundPatterns H dirs = .ok files ∧ ∀ found ∈ files, ∀ doc ∈ found.patterns H,
    if found.own then starts doc = true ∨ ServesExport doc (lastSeed H found.deviceId files)
    else ServesSeed doc (lastSeed H found.deviceId files)

end

/-! ## One file after the other -/

section
variable {H : Host} {s : Loading} {found : Found} {files : List Found} {doc : PatternDB} {deviceId : Str}

/-- The set of a file that loads. -/
def Found.loads (H : Host) (found : Found) : Option PatternDB := (found.patterns H).filter starts

theorem applied_of_starts (h : starts doc = true) : applied doc = .ok (some doc) := if_pos h

theorem loadPatternFile_ok {engine : Engine} {seed : Bool} (h : found.loads H = some doc) :
    engine.loadPatternFile H found.deviceId found.file seed =
      .ok ({ cached := engine.cached.set found.deviceId doc
             seeds := if seed then engine.seeds.set found.deviceId doc else engine.seeds }, doc) := by
  obtain ⟨hpatterns, hstarts⟩ := Option.filter_eq_some_iff.mp h
  unfold Found.patterns at hpatterns
  unfold Engine.loadPatternFile Engine.applyPatternDb
  cases hdoc : patternsOf H found.file.reading with
  | error e =>
    rw [hdoc] at hpatterns
    cases hpatterns
  | ok doc' =>
    rw [hdoc] at hpatterns
    cases hpatterns
    rw [Except.ok_bind, applied_of_starts hstarts]
    cases seed <;> rfl

theorem loadPatternFile_error {engine : Engine} {seed : Bool} (h : found.loads H = none) :
    ∃ e, engine.loadPatternFile H found.deviceId found.file seed = .error e := by
  unfold Found.loads Found.patterns at h
  unfold Engine.loadPatternFile Engine.applyPatternDb
  cases hdoc : patternsOf H found.file.reading with
  | error e => exact ⟨e, rfl⟩
  | ok doc =>
    rw [hdoc] at h
    have hstarts : ¬ starts doc = true := by simpa [Except.toOption] using h
    have hrefused : applied doc = .error .indexError := if_neg hstarts
    rw [Except.ok_bind, hrefused]
    exact ⟨_, rfl⟩

/-- The files that load, one more file being found. -/
theorem last_snoc (own : Bool) (deviceId : Str) (files : List Found) (found : Found) :
    (loadsFor H own deviceId (files ++ [found])).getLast? =
      (if found.own = own ∧ found.deviceId = deviceId then found.loads H else none).or
        (loadsFor H own deviceId files).getLast? := by
  unfold loadsFor
  rw [List.filter_append, List.filterMap_append, List.filter_append, List.getLast?_append]
  congr 1
  by_cases h : found.own = own ∧ found.deviceId = deviceId
  · rw [if_pos h, List.filter_cons_of_pos (by simpa using h)]
    unfold Found.loads
    cases hpatterns : found.patterns H with
    | none => simp [hpatterns]
    | some doc => by_cases hstarts : starts doc = true <;> simp [hpatterns, hstarts, Option.filter]
  · rw [if_neg h, List.filter_cons_of_neg (by simpa using h)]
    rfl

theorem starts_of_last {own : Bool} (h : (loadsFor H own deviceId files).getLast? = some doc) : starts doc = true :=
  (List.mem_filter.mp (List.mem_of_getLast? h)).2

theorem starts_merge {p e : PatternDB} (hp : starts p = true) (he : starts e = true) :
    starts (mergePatternDbs p e) = true :=
  withSeed_sensors (s := { seed := some e }) (fun _ h => Option.some.inj h ▸ he) hp

/-- What is served, of an export and a user's file that were loaded. -/
def servedOf : Option PatternDB → Option PatternDB → Option PatternDB
  | some snapshot, some seed => some (mergePatternDbs snapshot seed)
  | some snapshot, none      => some snapshot
  | none, seed               => seed

/-- What was loaded of some files, for every device. -/
structure Loaded (H : Host) (files : List Found) (s : Loading) : Prop where
  snapshots : ∀ deviceId, s.snapshots.get? deviceId = (loadsFor H true deviceId files).getLast?
  seeds : ∀ deviceId, s.engine.seeds.get? deviceId = lastSeed H deviceId files
  cached : ∀ deviceId, s.engine.cached.get? deviceId =
    servedOf (s.snapshots.get? deviceId) (s.engine.seeds.get? deviceId)

theorem loaded_nil : Loaded H [] {} where
  snapshots _ := rfl
  seeds _ := rfl
  cached _ := rfl

/-- **One more file**, an export only while none of a user's was loaded. -/
theorem Loaded.step (h : Loaded H files s) (hfirst : found.own = true → ∀ deviceId, lastSeed H deviceId files = none) :
    ∃ s', loadFound H s found = .ok s' ∧ Loaded H (files ++ [found]) s' := by
  unfold loadFound
  cases hloads : found.loads H with
  | none =>
    obtain ⟨e, herror⟩ : ∃ e, s.engine.loadPatternFile H found.deviceId found.file (!found.own) = .error e :=
      loadPatternFile_error hloads
    refine ⟨s, by rw [herror], ?_, ?_, h.cached⟩
    · intro deviceId
      rw [last_snoc, hloads, ite_self, Option.none_or]
      exact h.snapshots deviceId
    · intro deviceId
      unfold lastSeed
      rw [last_snoc, hloads, ite_self, Option.none_or]
      exact h.seeds deviceId
  | some doc =>
    rw [loadPatternFile_ok hloads]
    cases hown : found.own with
    | true =>
      refine ⟨_, rfl, ?_, ?_, ?_⟩
      · intro deviceId
        rw [last_snoc, hloads, hown, Dict.get?_set]
        by_cases hd : found.deviceId = deviceId
        · simp [hd]
        · simp [hd, h.snapshots]
      · intro deviceId
        have hseeds := h.seeds deviceId
        unfold lastSeed at hseeds ⊢
        rw [last_snoc, hown]
        simpa using hseeds
      · intro deviceId
        -- an export comes before any file of the user, so there is no seed to merge it with
        have hnone : s.engine.seeds.get? deviceId = none := (h.seeds deviceId).trans (hfirst hown deviceId)
        have hcached := h.cached deviceId
        show (s.engine.cached.set found.deviceId doc).get? deviceId =
          servedOf ((s.snapshots.set found.deviceId doc).get? deviceId) (s.engine.seeds.get? deviceId)
        rw [hnone] at hcached ⊢
        rw [Dict.get?_set, Dict.get?_set]
        by_cases hd : found.deviceId = deviceId
        · rw [if_pos hd, if_pos hd]
          rfl
        · rw [if_neg hd, if_neg hd]
          exact hcached
    | false =>
      have hsnapshots : ∀ deviceId, s.snapshots.get? deviceId =
          (loadsFor H true deviceId (files ++ [found])).getLast? := by
        intro deviceId
        rw [last_snoc, hown]
        simpa using h.snapshots deviceId
      have hseeds : ∀ deviceId, (s.engine.seeds.set found.deviceId doc).get? deviceId =
          lastSeed H deviceId (files ++ [found]) := by
        intro deviceId
        unfold lastSeed
        rw [last_snoc, hloads, hown, Dict.get?_set]
        by_cases hd : found.deviceId = deviceId
        · simp [hd]
        · have := h.seeds deviceId
          unfold lastSeed at this
          simp [hd, this]
      cases hsnapshot : s.snapshots.get? found.deviceId with
      | none =>
        refine ⟨_, rfl, hsnapshots, hseeds, fun deviceId => ?_⟩
        show (s.engine.cached.set found.deviceId doc).get? deviceId =
          servedOf (s.snapshots.get? deviceId) ((s.engine.seeds.set found.deviceId doc).get? deviceId)
        rw [Dict.get?_set, Dict.get?_set]
        by_cases hd : found.deviceId = deviceId
        · rw [if_pos hd, if_pos hd, ← hd, hsnapshot]
          rfl
        · rw [if_neg hd, if_neg hd]
          exact h.cached deviceId
      | some snapshot =>
        -- a snapshot is there already: what is served is the snapshot with the seed merged into it
        have hmerged : starts (mergePatternDbs snapshot doc) = true :=
          starts_merge (starts_of_last ((h.snapshots _).symm.trans hsnapshot)) (Option.filter_eq_some_iff.mp hloads).2
        dsimp only
        unfold Engine.applyPatternDb
        rw [applied_of_starts hmerged]
        refine ⟨_, rfl, hsnapshots, hseeds, fun deviceId => ?_⟩
        show ((s.engine.cached.set found.deviceId doc).set found.deviceId _).get? deviceId =
          servedOf (s.snapshots.get? deviceId) ((s.engine.seeds.set found.deviceId doc).get? deviceId)
        rw [Dict.get?_set, Dict.get?_set, Dict.get?_set]
        by_cases hd : found.deviceId = deviceId
        · rw [if_pos hd, if_pos hd, ← hd, hsnapshot]
          rfl
        · rw [if_neg hd, if_neg hd, if_neg hd]
          exact h.cached deviceId

/-- **All files**, with the exports first. -/
theorem Loaded.run (rest : List Found) {files : List Found} {s : Loading} (h : Loaded H files s)
    (hfirst : (files ++ rest).Pairwise fun f g => g.own = true → f.own = true) :
    ∃ s', rest.foldlM (loadFound H) s = .ok s' ∧ Loaded H (files ++ rest) s' := by
  induction rest generalizing files s with
  | nil => exact ⟨s, rfl, (List.append_nil files).symm ▸ h⟩
  | cons found rest ih =>
    have hbefore : found.own = true → ∀ deviceId, lastSeed H deviceId files = none := by
      intro hown deviceId
      have hnone : (files.filter fun f => f.own == false && f.deviceId == deviceId) = [] := by
        refine List.filter_eq_nil_iff.mpr fun f hf => ?_
        have hexport := (List.pairwise_append.mp hfirst).2.2 f hf found List.mem_cons_self hown
        simp [hexport]
      unfold lastSeed loadsFor
      rw [hnone]
      rfl
    obtain ⟨s₁, hstep, h₁⟩ := h.step hbefore
    obtain ⟨s', hrun, h'⟩ := ih h₁ (by simpa using hfirst)
    exact ⟨s', by rw [List.foldlM_cons, hstep]; exact hrun, by simpa using h'⟩

/-- The sort changes no order of two files of one kind. -/
theorem loadsFor_sorted (own : Bool) (deviceId : Str) (files : List Found) :
    loadsFor H own deviceId (files.insertionSort fun f g => (!f.own) ≤ !g.own) = loadsFor H own deviceId files := by
  unfold loadsFor
  rw [StableSort.insertionSort_test (fun f : Found => !f.own), List.filter_append, List.filter_filter,
    List.filter_filter]
  congr 2
  cases own with
  | true =>
    have hnone : (files.filter fun f => (f.own == true && f.deviceId == deviceId) && !f.own) = [] :=
      List.filter_eq_nil_iff.mpr fun f _ => by cases f.own <;> simp
    rw [hnone, List.append_nil]
    exact List.filter_congr fun f _ => by cases f.own <;> simp
  | false =>
    have hnone : (files.filter fun f => (f.own == false && f.deviceId == deviceId) && !!f.own) = [] :=
      List.filter_eq_nil_iff.mpr fun f _ => by cases f.own <;> simp
    rw [hnone, List.nil_append]
    exact List.filter_congr fun f _ => by cases f.own <;> simp

/-- **What the start leaves**: for every device its export that loaded, with the last user's file that did. -/
theorem autoLoadPatterns_ok {dirs : List (List PatternFile)} (h : foundPatterns H dirs = .ok files) :
    ∃ engine, autoLoadPatterns H dirs = .ok engine ∧
      (∀ deviceId, engine.seeds.get? deviceId = lastSeed H deviceId files) ∧
      ∀ deviceId, engine.cached.get? deviceId =
        servedOf (loadsFor H true deviceId files).getLast? (lastSeed H deviceId files) := by
  have hsorted : ([] ++ files.insertionSort fun f g : Found => (!f.own) ≤ !g.own).Pairwise
      fun f g : Found => g.own = true → f.own = true := by
    rw [List.nil_append, StableSort.insertionSort_test (fun f : Found => !f.own)]
    refine List.pairwise_append.mpr ⟨?_, ?_, ?_⟩
    · exact List.pairwise_of_forall_mem_list fun f hf g _ _ => by simpa using (List.mem_filter.mp hf).2
    · refine List.pairwise_of_forall_mem_list fun f _ g hg hown => ?_
      have := (List.mem_filter.mp hg).2
      simp [hown] at this
    · intro f hf g _ _
      simpa using (List.mem_filter.mp hf).2
  obtain ⟨s, hrun, hloaded⟩ := loaded_nil.run _ hsorted
  have hlast : ∀ own deviceId, loadsFor H own deviceId ([] ++ files.insertionSort fun f g : Found => (!f.own) ≤ !g.own) =
      loadsFor H own deviceId files := fun own deviceId => loadsFor_sorted own deviceId files
  refine ⟨s.engine, ?_, ?_, ?_⟩
  · unfold autoLoadPatterns
    rw [h, Except.ok_bind, hrun]
    rfl
  · intro deviceId
    rw [hloaded.seeds, lastSeed, hlast]
    rfl
  · intro deviceId
    rw [hloaded.cached, hloaded.snapshots, hloaded.seeds, lastSeed, hlast, hlast]
    rfl

/-! ## What is served of them -/

section
variable {served : Option PatternDB} {seed snapshot : PatternDB} {id : Str}

theorem serves_some : ServesId (some doc) id ↔ id ∈ doc.client.endpoints.map (·.id) := by
  simp [ServesId]

/-- A merge has the ids of both sets. -/
theorem servesId_merge {p e : PatternDB} :
    ServesId (some (mergePatternDbs p e)) id ↔ ServesId (some p) id ∨ ServesId (some e) id := by
  have hendpoints := (SeedMerge.extends_mergePatternDbs p e).endpoints
  rw [serves_some, serves_some, serves_some, hendpoints, List.map_append, List.mem_append]
  constructor
  · rintro (h | h)
    · exact .inl h
    · obtain ⟨ep, hep, rfl⟩ := List.mem_map.mp h
      exact .inr (List.mem_map_of_mem (List.mem_of_mem_filter hep))
  · rintro (h | h)
    · exact .inl h
    · by_cases hp : id ∈ p.client.endpoints.map (·.id)
      · exact .inl hp
      · obtain ⟨ep, hep, rfl⟩ := List.mem_map.mp h
        exact .inr (List.mem_map_of_mem (List.mem_filter.mpr ⟨hep, by simpa using hp⟩))

/-- What the user's file serves stays served with an export. -/
theorem ServesId.servedOf {last : Option PatternDB} (h : ServesId last id) (snapshot : Option PatternDB) :
    ServesId (servedOf snapshot last) id := by
  cases last with
  | none =>
    obtain ⟨doc, hdoc, _⟩ := h
    cases hdoc
  | some seed =>
    cases snapshot with
    | none => exact h
    | some snapshot => exact servesId_merge.mpr (.inr h)

/-- An export wins over the user's file. -/
theorem servesExport_servedOf (snapshot : PatternDB) (last : Option PatternDB) :
    ServesExport snapshot (StartupPatterns.servedOf (some snapshot) last) := by
  cases last with
  | none =>
    exact ⟨fun ep hep => ⟨snapshot, rfl, hep⟩, fun doc hdoc ep hep _ => Option.some.inj hdoc ▸ hep⟩
  | some seed =>
    have hendpoints := (SeedMerge.extends_mergePatternDbs snapshot seed).endpoints
    constructor
    · intro ep hep
      exact ⟨_, rfl, hendpoints ▸ List.mem_append_left _ hep⟩
    · intro doc hdoc ep hep hid
      obtain rfl := Option.some.inj hdoc
      rw [hendpoints] at hep
      rcases List.mem_append.mp hep with hep | hep
      · exact hep
      · have hnot := (List.mem_filter.mp hep).2
        simp [hid] at hnot

/-! ## Later syncs -/

variable {s : Learner}

theorem servesId_withSeed (h : ServesId s.seed id) (doc : PatternDB) : ServesId (some (withSeed s doc)) id := by
  unfold withSeed
  cases hseed : s.seed with
  | none =>
    rw [hseed] at h
    obtain ⟨doc, hdoc, _⟩ := h
    cases hdoc
  | some seed =>
    rw [hseed] at h
    exact servesId_merge.mpr (.inr h)

/-- A sync that goes through serves what the user's file has. -/
theorem syncedPatterns_serves {vendor deviceType : Str} {written : Bool} {cached : Option PatternDB}
    (h : syncedPatterns deviceId vendor deviceType written s = .ok cached) (hid : ServesId s.seed id) :
    ServesId cached id := by
  have happlied : ∀ {doc : PatternDB}, applied (withSeed s doc) = .ok cached → ServesId cached id := by
    intro doc hok
    unfold applied at hok
    split at hok
    · cases hok
      exact servesId_withSeed hid doc
    · cases hok
  unfold syncedPatterns at h
  obtain ⟨doc, _, h⟩ := Except.bind_ok_iff.mp h
  split at h
  next hempty =>
    -- nothing is left to serve, but the user's file has the id
    have hserved := serves_some.mp (servesId_withSeed hid doc)
    rw [List.isEmpty_iff.mp hempty] at hserved
    cases hserved
  next =>
    split at h
    next => exact happlied h
    next =>
      obtain ⟨_, _, h⟩ := Except.bind_ok_iff.mp h
      split at h
      · exact happlied h
      · cases h

theorem syncStep_seed (deviceId : Str) (s : Learner) (sync : Sync) : (syncStep deviceId s sync).seed = s.seed := by
  unfold syncStep exportAndSyncPatterns
  split <;> rfl

/-- **One sync** goes on serving what the user's file has. -/
theorem syncStep_serves (sync : Sync) (hid : ServesId s.seed id) (h : ServesId s.cached id) :
    ServesId (syncStep deviceId s sync).cached id := by
  unfold syncStep exportAndSyncPatterns
  split
  next cached hok => exact syncedPatterns_serves hok hid
  next => exact h

/-- **All later syncs** do. -/
theorem syncs_serve (syncs : List Sync) {s : Learner} (hid : ServesId s.seed id) (h : ServesId s.cached id) :
    ServesId (syncs.foldl (syncStep deviceId) s).cached id := by
  induction syncs generalizing s with
  | nil => exact h
  | cons sync syncs ih => exact ih ((syncStep_seed deviceId s sync).symm ▸ hid) (syncStep_serves sync hid h)

/-- A sync of a device nothing is learned of serves only what the user's file has. -/
theorem seed_of_emptySync (hcached : ∀ doc ∈ s.cached, starts doc = true) (hseed : ∀ doc ∈ s.seed, starts doc = true)
    (h : ServesId (syncStep deviceId s {}).cached id) : ServesId s.seed id := by
  let s' : Learner := { s with device := {} }
  have hexport : ∃ doc, exportPatterns deviceId "unknown" "unknown" (stateConfig s'.device.header (servedConfig s'))
      s'.device.db = .ok doc ∧ doc.client.endpoints = [] ∧ starts doc = true :=
    ⟨_, rfl, rfl, stateConfig_sensors (s := s') (fun _ h => by cases h) hcached⟩
  obtain ⟨doc, hdoc, hnone, hdocStarts⟩ := hexport
  have happlied : applied (withSeed s' doc) = .ok (some (withSeed s' doc)) :=
    applied_of_starts (withSeed_sensors hseed hdocStarts)
  have hsynced : syncedPatterns deviceId "unknown" "unknown" true s' =
      .ok (if (withSeed s' doc).client.endpoints.isEmpty then none else some (withSeed s' doc)) := by
    unfold syncedPatterns
    rw [hdoc, Except.ok_bind, hnone, happlied]
    split <;> rfl
  have hserved : ServesId (some (withSeed s' doc)) id := by
    unfold syncStep exportAndSyncPatterns at h
    rw [hsynced] at h
    dsimp only at h
    split at h
    · obtain ⟨_, hnothing, _⟩ := h
      cases hnothing
    · exact h
  have hdocServes : ¬ ServesId (some doc) id := by
    rw [serves_some, hnone]
    exact List.not_mem_nil
  unfold withSeed at hserved
  cases hs : s.seed with
  | none =>
    rw [show s'.seed = none from hs] at hserved
    exact absurd hserved hdocServes
  | some seed =>
    rw [show s'.seed = some seed from hs] at hserved
    exact (servesId_merge.mp hserved).resolve_left hdocServes

end

theorem starts_servedOf {snapshot last : Option PatternDB} (hsnapshot : ∀ doc ∈ snapshot, starts doc = true)
    (hlast : ∀ doc ∈ last, starts doc = true) : ∀ doc ∈ servedOf snapshot last, starts doc = true := by
  cases snapshot with
  | none => exact hlast
  | some snapshot =>
    cases last with
    | none => exact hsnapshot
    | some seed =>
      intro doc hdoc
      obtain rfl := Option.some.inj hdoc
      exact starts_merge (hsnapshot snapshot rfl) (hlast seed rfl)

/-- The one export of a device loads iff its sensors start. -/
theorem loadsFor_export
    (hone : (files.filter fun f => f.own && f.deviceId == found.deviceId).length ≤ 1) (hfound : found ∈ files)
    (hown : found.own = true) (hdoc : found.patterns H = some doc) :
    (loadsFor H true found.deviceId files).getLast? = if starts doc then some doc else none := by
  have hmem : found ∈ files.filter fun f => f.own && f.deviceId == found.deviceId :=
    List.mem_filter.mpr ⟨hfound, by simp [hown]⟩
  have honly : (files.filter fun f => f.own == true && f.deviceId == found.deviceId) = [found] := by
    have hexports : (files.filter fun f => f.own == true && f.deviceId == found.deviceId) =
        files.filter fun f => f.own && f.deviceId == found.deviceId :=
      List.filter_congr fun f _ => by cases f.own <;> rfl
    rw [hexports]
    obtain ⟨f, hf⟩ := List.length_eq_one_iff.mp (Nat.le_antisymm hone (List.length_pos_of_mem hmem))
    rw [hf] at hmem ⊢
    rw [List.mem_singleton.mp hmem]
  unfold loadsFor
  rw [honly]
  by_cases hstarts : starts doc = true <;> simp [hdoc, hstarts]

end

/-- **Every file that is found is served iff the last user's file of each device holds all of them.** -/
theorem servesUnion_iff (H : Host) (dirs : List (List PatternFile)) (hone : OneExport H dirs) :
    ServesUnion H dirs ↔ LastHoldsAll H dirs := by
  cases hfiles : foundPatterns H dirs with
  | error e =>
    constructor
    · rintro ⟨files, _, h, _⟩
      rw [hfiles] at h
      cases h
    · rintro ⟨files, h, _⟩
      rw [hfiles] at h
      cases h
  | ok files =>
    obtain ⟨engine, hengine, hseeds, hcached⟩ := autoLoadPatterns_ok hfiles
    constructor
    · rintro ⟨files', engine', hfiles', hengine', hserved⟩
      rw [hfiles] at hfiles'
      cases hfiles'
      rw [hengine] at hengine'
      cases hengine'
      refine ⟨files, hfiles, fun found hfound doc hdoc => ?_⟩
      have hfile := hserved found hfound doc hdoc
      cases hown : found.own with
      | true =>
        rw [hown, hcached, loadsFor_export (hone files hfiles _) hfound hown hdoc] at hfile
        by_cases hstarts : starts doc = true
        · exact .inl hstarts
        · simp only [hstarts] at hfile
          exact .inr hfile
      | false =>
        rw [hown] at hfile
        intro ep hep
        -- the promise holds through every later sync, so also through one with an empty database
        have hlater := hfile.2 [{}] ep hep
        have hlast : ∀ doc ∈ lastSeed H found.deviceId files, starts doc = true := fun doc h => starts_of_last h
        have hid := seed_of_emptySync (by
          rw [hcached]
          exact starts_servedOf (fun doc h => starts_of_last h) hlast) (by rw [hseeds]; exact hlast) hlater
        exact hseeds found.deviceId ▸ hid
    · rintro ⟨files', hfiles', hall⟩
      rw [hfiles] at hfiles'
      cases hfiles'
      refine ⟨files, engine, hfiles, hengine, fun found hfound doc hdoc => ?_⟩
      have hfile := hall found hfound doc hdoc
      cases hown : found.own with
      | true =>
        rw [hown] at hfile
        show ServesExport doc _
        rw [hcached, loadsFor_export (hone files hfiles _) hfound hown hdoc]
        by_cases hstarts : starts doc = true
        · rw [if_pos hstarts]
          exact servesExport_servedOf doc _
        · rw [if_neg hstarts]
          exact hfile.resolve_left hstarts
      | false =>
        rw [hown] at hfile
        have hnow : ServesSeed doc (engine.cached.get? found.deviceId) := by
          intro ep hep
          rw [hcached]
          exact (hfile ep hep).servedOf _
        refine ⟨hnow, fun syncs ep hep => syncs_serve syncs ?_ (hnow ep hep)⟩
        show ServesId (engine.seeds.get? found.deviceId) ep.id
        rw [hseeds]
        exact hfile ep hep

/-! ## A lamp with a user's files -/

/-- The JSON of a set for the lamp, with one endpoint. -/
def lampData (id intent path : Str) : Json :=
  .obj [("meta", .obj [("pattern_id", .str "lamp-patterns"), ("vendor", .str "acme"), ("device_type", .str "light")]),
    ("client", .obj [("endpoints", .arr [.obj [("id", .str id), ("intent", .str intent), ("path", .str path)]])])]

/-- The set it validates as. -/
def lampSet (id intent path : Str) : PatternDB where
  patternMeta := { patternId := "lamp-patterns", vendor := "acme", deviceType := "light" }
  client := { endpoints := [{ id, intent, path }] }

/-- The host of these files. -/
def lampHost : Host where
  sha256 _ := .ok "c98e85f249002f03068e2a61e1a1df5c0db035d6cdf41d00ff6056ed63060947"
  validateModel _ := .error .valueError
  validateDb data :=
    if data = lampData "on" "turn_on" "/on" then .ok (lampSet "on" "turn_on" "/on")
    else if data = lampData "dim" "set_level" "/dim" then .ok (lampSet "dim" "set_level" "/dim")
    else .error .valueError

/-- What the lamp's sync wrote, and one file of a user. -/
def exportAndSeed : List (List PatternFile) :=
  [[⟨"c98e85f249002f03068e2a61e1a1df5c0db035d6cdf41d00ff6056ed63060947.ride-pattern.json", .data (lampData "on" "turn_on" "/on")⟩],
    [⟨"dimmer.ride-pattern.json", .data (lampData "dim" "set_level" "/dim")⟩]]

/-- What is found of them. -/
def exportAndSeedFound : List Found :=
  [⟨⟨"c98e85f249002f03068e2a61e1a1df5c0db035d6cdf41d00ff6056ed63060947.ride-pattern.json", .data (lampData "on" "turn_on" "/on")⟩, "lamp", true⟩,
    ⟨⟨"dimmer.ride-pattern.json", .data (lampData "dim" "set_level" "/dim")⟩, "lamp", false⟩]

theorem exportAndSeed_served : ServesUnion lampHost exportAndSeed := by
  have hfound : foundPatterns lampHost exportAndSeed = .ok exportAndSeedFound := by decide +kernel
  refine (servesUnion_iff lampHost exportAndSeed ?_).mpr ⟨exportAndSeedFound, hfound, by decide +kernel⟩
  intro files hfiles deviceId
  rw [hfound] at hfiles
  cases hfiles
  by_cases hd : str "lamp" = deviceId <;> simp [exportAndSeedFound, hd]

/-- Two files of a user for the lamp. -/
def twoSeeds : List (List PatternFile) :=
  [[⟨"dimmer.ride-pattern.json", .data (lampData "dim" "set_level" "/dim")⟩,
    ⟨"switch.ride-pattern.json", .data (lampData "on" "turn_on" "/on")⟩]]

/-- What is found of them. -/
def twoSeedsFound : List Found :=
  [⟨⟨"dimmer.ride-pattern.json", .data (lampData "dim" "set_level" "/dim")⟩, "lamp", false⟩,
    ⟨⟨"switch.ride-pattern.json", .data (lampData "on" "turn_on" "/on")⟩, "lamp", false⟩]

/-- Only the second one is served. -/
theorem twoSeeds_dropped : ¬ ∀ (H : Host) (dirs : List (List PatternFile)), OneExport H dirs → ServesUnion H dirs := by
  intro h
  have hfound : foundPatterns lampHost twoSeeds = .ok twoSeedsFound := by decide +kernel
  have hone : OneExport lampHost twoSeeds := by
    intro files hfiles deviceId
    rw [hfound] at hfiles
    cases hfiles
    simp [twoSeedsFound]
  obtain ⟨files, engine, hfiles, hengine, hserved⟩ := h lampHost twoSeeds hone
  rw [hfound] at hfiles
  cases hfiles
  have hloaded : autoLoadPatterns lampHost twoSeeds =
      .ok { cached := [("lamp", lampSet "on" "turn_on" "/on")], seeds := [("lamp", lampSet "on" "turn_on" "/on")] } := by
    decide +kernel
  rw [hloaded] at hengine
  cases hengine
  have hdimmer := (hserved _ List.mem_cons_self (lampSet "dim" "set_level" "/dim") (by decide +kernel)).1
  exact absurd hdimmer (by decide +kernel)

end RideTheApi.StartupPatterns
