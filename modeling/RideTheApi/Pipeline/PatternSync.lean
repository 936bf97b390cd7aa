import RideTheApi.Lib.Transition
import RideTheApi.Pipeline.Restart
import RideTheApi.Pipeline.SavePatterns

/-!
# `Pipeline.PatternSync` — what is served after each reply

A cycle saves the patterns of a reply and then rebuilds what the engine serves of the device: the exported
tables and the patterns of a user's file, applied as a whole. A value that the export refuses, or a sensor
that does not start, leaves the engine with what it served before. In every run of replies that are taken as
deltas or documents, or whose patterns are learnable, no save raises and every row is served
(`served_of_servable`).
-/

namespace RideTheApi.PatternSync

open Py PatternDb SavePatterns Restart Transition

/-! ## Export and sync -/

/-- A device and what the engine holds of it: the patterns it serves and those of a user's file. A save may
    have raised. -/
structure Learner where
  device : Device := {}
  cached : Option PatternDB := none
  seed : Option PatternDB := none
  raised : Bool := false
deriving Repr, DecidableEq

/-- A drift range of one bound has no second one to read. -/
def startsSensor (vs : VirtualSensor) : Bool := vs.driftRange.all fun range => range.length != 1

/-- `apply_pattern_db`: the sensors start before the patterns are served. -/
def applied (doc : PatternDB) : Result (Option PatternDB) :=
  if doc.server.virtualSensors.all startsSensor then .ok (some doc) else .error .indexError

/-- The state variables and sensors that are served. -/
def servedConfig (s : Learner) : Option (List StateVariable × List VirtualSensor) :=
  s.cached.map fun doc => (doc.server.stateVariables, doc.server.virtualSensors)

/-- The exported patterns with those of the user's file. -/
def withSeed (s : Learner) (doc : PatternDB) : PatternDB :=
  match s.seed with
  | some seed => mergePatternDbs doc seed
  | none      => doc

section
variable (H : Host) (deviceId vendor deviceType : Str)

/-- What is served after a sync; `written` says whether the file could be written. -/
def syncedPatterns (written : Bool) (s : Learner) : Result (Option PatternDB) := do
  let doc ← exportPatterns deviceId vendor deviceType (stateConfig s.device.header (servedConfig s)) s.device.db
  if (withSeed s doc).client.endpoints.isEmpty then .ok none
  else if doc.client.endpoints.isEmpty then applied (withSeed s doc)
  else do
    let _ ← portableFile deviceId vendor deviceType (servedConfig s) s.device doc
    if written then applied (withSeed s doc) else .error .other

/-- `export_and_sync_patterns`: a sync that fails leaves what was served. -/
def exportAndSyncPatterns (written : Bool) (s : Learner) : Learner :=
  match syncedPatterns deviceId vendor deviceType written s with
  | .ok cached => { s with cached }
  | .error _   => s

/-! ## Cycles -/

/-- A learning cycle: the reply, and whether the pattern file could be written. -/
structure Cycle where
  reply : Dict Str Json
  written : Bool

/-- A cycle as a step; a save that raises ends it. -/
def cycleStep (s : Learner) (cycle : Cycle) : Option Learner :=
  match savePatterns H deviceId cycle.reply s.device with
  | (device, .ok ())   => some (exportAndSyncPatterns deviceId vendor deviceType cycle.written { s with device })
  | (device, .error _) => some { s with device, raised := true }

/-- No save raised, the tables can be exported, and every pattern row is served. -/
structure Served (s : Learner) : Prop where
  quiet : s.raised = false
  exports : ∃ doc, exportPatterns deviceId vendor deviceType (stateConfig s.device.header (servedConfig s))
    s.device.db = .ok doc
  rows : ∀ pat ∈ s.device.db.patterns, ∃ doc ∈ s.cached, ∃ ep ∈ doc.client.endpoints, exportEndpoint pat = .ok ep

/-- The device model of a reply that is a delta and validates as one. -/
def delta (reply : Dict Str Json) (header : Option DeviceMeta) : Option DeviceModel :=
  if isDelta reply then (deltaModel H deviceId header reply).toOption else none

/-- The commands of a delta have ids, and the driver takes their rows. -/
def takesDelta (model : DeviceModel) : Bool :=
  (model.commands.mapM (commandPatternId H.digest deviceId)).toBool && (H.takesModel model).toBool

/-- A reply is a valid document, whose rows the driver takes. -/
def takesDocument (reply : Dict Str Json) : Bool :=
  isDocument reply && match H.validateDb reply with
    | .ok doc  => validPattern doc && (H.takesDb doc).toBool
    | .error _ => false

/-- A cycle whose reply is taken as a delta or a document, or has learnable patterns; the sensors it teaches
    start, and the file is written. -/
structure Servable (s : Learner) (cycle : Cycle) : Prop where
  saved : (∃ model ∈ delta H deviceId cycle.reply s.device.header, takesDelta H deviceId model = true) ∨
    takesDocument H cycle.reply = true ∨ Learnable H deviceId (repliedPatterns cycle.reply) s.device.db
  sensors : ∀ model ∈ delta H deviceId cycle.reply s.device.header, model.virtualSensors.all startsSensor = true
  written : cycle.written = true

instance Servable.decidable (s : Learner) (cycle : Cycle) : Decidable (Servable H deviceId s cycle) :=
  decidable_of_iff
    (((∃ model ∈ delta H deviceId cycle.reply s.device.header, takesDelta H deviceId model = true) ∨
        takesDocument H cycle.reply = true ∨ Learnable H deviceId (repliedPatterns cycle.reply) s.device.db) ∧
      (∀ model ∈ delta H deviceId cycle.reply s.device.header, model.virtualSensors.all startsSensor = true) ∧
      cycle.written = true)
    ⟨fun ⟨hsaved, hsensors, hwritten⟩ => ⟨hsaved, hsensors, hwritten⟩, fun h => ⟨h.saved, h.sensors, h.written⟩⟩

/-- A device nothing was learned of yet, whose header and served patterns have sensors that start. -/
structure Fresh (s : Learner) : Prop where
  quiet : s.raised = false
  db : s.device.db = {}
  header : ∀ m ∈ s.device.header, m.virtualSensors.all startsSensor = true
  cached : ∀ doc ∈ s.cached, doc.server.virtualSensors.all startsSensor = true
  seed : ∀ doc ∈ s.seed, doc.server.virtualSensors.all startsSensor = true

end

/-! ## A save goes through -/

section
variable {H : Host} {deviceId vendor deviceType : Str} {reply : Dict Str Json} {device : Device} {db : DeviceDb}

/-- A delta that is taken goes through. -/
theorem tryDelta_ok (h : ∃ model ∈ delta H deviceId reply device.header, takesDelta H deviceId model = true) :
    (tryDelta H deviceId reply device).2 = .ok () := by
  obtain ⟨model, hmodel, htakes⟩ := h
  unfold delta at hmodel
  by_cases hdelta : isDelta reply = true
  · rw [if_pos hdelta] at hmodel
    simp only [takesDelta, Bool.and_eq_true] at htakes
    obtain ⟨ids, hids⟩ := Except.exists_ok htakes.1
    obtain ⟨_, hrows⟩ := Except.exists_ok htakes.2
    unfold tryDelta saveDelta
    rw [if_pos hdelta]
    cases hvalid : deltaModel H deviceId device.header reply with
    | error e =>
      rw [hvalid] at hmodel
      cases hmodel
    | ok model' =>
      rw [hvalid] at hmodel
      cases hmodel
      unfold mergeDeviceModel
      dsimp only
      rw [hids, hrows]
  · rw [if_neg hdelta] at hmodel
    cases hmodel

/-- A delta that fails leaves the tables alone. -/
theorem tryDelta_db {e : Exn} (h : (tryDelta H deviceId reply device).2 = .error e) :
    (tryDelta H deviceId reply device).1.db = device.db := by
  unfold tryDelta at h ⊢
  split at h
  next hdelta =>
    rw [if_pos hdelta]
    unfold saveDelta at h ⊢
    cases hvalid : deltaModel H deviceId device.header reply with
    | error e => rfl
    | ok model =>
      rw [hvalid] at h
      dsimp only at h ⊢
      unfold mergeDeviceModel at h ⊢
      dsimp only at h ⊢
      cases hids : model.commands.mapM (commandPatternId H.digest deviceId) with
      | error e => rfl
      | ok ids =>
        cases hrows : H.takesModel model with
        | error e => rfl
        | ok _ =>
          rw [hids, hrows] at h
          cases h
  next hdelta => rw [if_neg hdelta]

/-- The sensors of the header after a delta: the delta's, else those that were there. -/
theorem mergedHeader_sensors (I : Interp) (model : DeviceModel) (current : DeviceMeta) :
    ((mergedHeader I model current).validate I).virtualSensors =
      if model.virtualSensors.isEmpty then current.virtualSensors else model.virtualSensors := by
  show (if model.virtualSensors.isEmpty then _ else model.virtualSensors) = _
  by_cases hprotocol : model.protocol.protocol.isEmpty = true
  · rw [if_pos hprotocol]
  · rw [if_neg hprotocol]

/-- The header a merge leaves has sensors that start, if the delta's and its own did. -/
theorem mergeDeviceModel_sensors {I : Interp} {pathDigest : Str → Result Str} {model : DeviceModel}
    (hheader : ∀ m ∈ device.header, m.virtualSensors.all startsSensor = true)
    (hmodel : model.virtualSensors.all startsSensor = true) :
    ∀ m ∈ (mergeDeviceModel I pathDigest deviceId model device).1.header, m.virtualSensors.all startsSensor = true := by
  have hwritten : ∀ m ∈ some ((mergedHeader I model (device.header.getD {})).validate I),
      m.virtualSensors.all startsSensor = true := by
    intro m hm
    cases hm
    rw [mergedHeader_sensors]
    split
    · cases hcurrent : device.header with
      | none => rfl
      | some m => exact hheader m hcurrent
    · exact hmodel
  unfold mergeDeviceModel
  dsimp only
  split
  · exact hwritten
  · exact hwritten

theorem tryDelta_sensors (hheader : ∀ m ∈ device.header, m.virtualSensors.all startsSensor = true)
    (hdelta : ∀ model ∈ delta H deviceId reply device.header, model.virtualSensors.all startsSensor = true) :
    ∀ m ∈ (tryDelta H deviceId reply device).1.header, m.virtualSensors.all startsSensor = true := by
  unfold tryDelta
  unfold delta at hdelta
  split
  next hisDelta =>
    rw [if_pos hisDelta] at hdelta
    unfold saveDelta
    cases hvalid : deltaModel H deviceId device.header reply with
    | error e => exact hheader
    | ok model =>
      rw [hvalid] at hdelta
      have hmerged : ∀ m ∈ (mergeDeviceModel H.interp H.digest deviceId model device).1.header,
          m.virtualSensors.all startsSensor = true := mergeDeviceModel_sensors hheader (hdelta model rfl)
      dsimp only
      split
      next hmerge => exact hmerge ▸ hmerged
      next hmerge _ => exact hmerge ▸ hmerged
      next hmerge _ => rw [hmerge] at hmerged; exact hmerged
  next => exact hheader

/-- A document that is taken goes through. -/
theorem tryDocument_ok (deviceId : Str) (db : DeviceDb) (h : takesDocument H reply = true) :
    ∃ db', tryDocument H deviceId reply db = .ok db' := by
  simp only [takesDocument, Bool.and_eq_true] at h
  obtain ⟨hdocument, h⟩ := h
  unfold tryDocument saveDocument
  rw [if_pos hdocument]
  cases hvalid : H.validateDb reply with
  | error e =>
    rw [hvalid] at h
    cases h
  | ok doc =>
    rw [hvalid] at h
    simp only [Bool.and_eq_true] at h
    obtain ⟨_, hrows⟩ := Except.exists_ok h.2
    exact ⟨_, by rw [Except.ok_bind, hrows, Except.ok_bind]; exact importPatterns_ok_iff.mpr ⟨h.1, rfl⟩⟩

theorem exportable_tryDelta (h : Exportable device.db) : Exportable (tryDelta H deviceId reply device).1.db := by
  unfold tryDelta
  split
  · exact exportable_saveDelta h
  · exact h

theorem exportable_tryDocument {db' : DeviceDb} (h : Exportable db)
    (hok : tryDocument H deviceId reply db = .ok db') : Exportable db' := by
  unfold tryDocument at hok
  split at hok
  · exact exportable_saveDocument h hok
  · cases hok

/-- **A reply that is taken, or has learnable patterns, is saved without raising**, and the tables stay
    exportable. Only a delta writes the header. -/
theorem savePatterns_ok (h : Exportable device.db)
    (hsaved : (∃ model ∈ delta H deviceId reply device.header, takesDelta H deviceId model = true) ∨
      takesDocument H reply = true ∨ Learnable H deviceId (repliedPatterns reply) device.db) :
    ∃ saved, savePatterns H deviceId reply device = (saved, .ok ()) ∧ Exportable saved.db ∧
      saved.header = (tryDelta H deviceId reply device).1.header := by
  have htried : Exportable (tryDelta H deviceId reply device).1.db := exportable_tryDelta h
  unfold savePatterns
  cases hdelta : tryDelta H deviceId reply device with
  | mk tried result =>
    rw [hdelta] at htried
    cases result with
    | ok _ => exact ⟨tried, rfl, htried, rfl⟩
    | error e =>
      -- what failed as a delta left the tables alone, so the rest of the condition is still about them
      have hdb : (tryDelta H deviceId reply device).1.db = device.db := tryDelta_db (by rw [hdelta])
      rw [hdelta] at hdb
      have hrest := hsaved.resolve_left fun htaken => by
        have hok := tryDelta_ok htaken
        rw [hdelta] at hok
        cases hok
      dsimp only
      cases hdocument : tryDocument H deviceId reply tried.db with
      | ok db' => exact ⟨_, rfl, exportable_tryDocument htried hdocument, rfl⟩
      | error _ =>
        have hlearnable := hrest.resolve_left fun htaken => by
          obtain ⟨db', hok⟩ := tryDocument_ok deviceId tried.db htaken
          rw [hdocument] at hok
          cases hok
        obtain ⟨db', hlearned, hexportable⟩ := learnPatterns_ok htried (hdb.symm ▸ hlearnable)
        dsimp only
        rw [hlearned]
        exact ⟨_, rfl, hexportable, rfl⟩

end

/-! ## A sync serves every row -/

section
variable {H : Host} {deviceId vendor deviceType : Str} {s : Learner} {doc : PatternDB}

/-- The state variables and sensors an export reads are the header's or the served ones. -/
theorem stateConfig_sensors (hheader : ∀ m ∈ s.device.header, m.virtualSensors.all startsSensor = true)
    (hcached : ∀ doc ∈ s.cached, doc.server.virtualSensors.all startsSensor = true) :
    (stateConfig s.device.header (servedConfig s)).2.all startsSensor = true := by
  have hserved : ((servedConfig s).getD ([], [])).2.all startsSensor = true := by
    unfold servedConfig
    cases hc : s.cached with
    | none => rfl
    | some doc => exact hcached doc hc
  unfold stateConfig
  cases hm : s.device.header with
  | none => exact hserved
  | some m =>
    dsimp only
    split
    · exact hheader m hm
    · exact hserved

/-- The exported endpoints are served, whatever the user's file adds. -/
theorem mem_withSeed {ep : ClientEndpoint} (h : ep ∈ doc.client.endpoints) :
    ep ∈ (withSeed s doc).client.endpoints := by
  unfold withSeed
  split
  · exact List.mem_append_left _ h
  · exact h

theorem withSeed_sensors (hseed : ∀ doc ∈ s.seed, doc.server.virtualSensors.all startsSensor = true)
    (hdoc : doc.server.virtualSensors.all startsSensor = true) :
    (withSeed s doc).server.virtualSensors.all startsSensor = true := by
  unfold withSeed
  split
  next seed hs =>
    show (_ ++ _ : List VirtualSensor).all startsSensor = true
    rw [List.all_append, hdoc, Bool.true_and, List.all_eq_true]
    intro vs hvs
    exact List.all_eq_true.mp (hseed seed hs) vs (List.mem_of_mem_filter hvs)
  next => exact hdoc

/-- The file of an exportable device is made. -/
theorem portableFile_ok (h : Exportable s.device.db) (deviceId vendor deviceType : Str) (doc : PatternDB) :
    ∃ file, portableFile deviceId vendor deviceType (servedConfig s) s.device doc = .ok file := by
  unfold portableFile
  split
  · obtain ⟨model, hmodel⟩ := h.exportDeviceModel_ok deviceId vendor deviceType (servedConfig s)
    rw [hmodel]
    exact ⟨_, rfl⟩
  · exact ⟨_, rfl⟩

/-- **A sync of an exportable device serves every row**, and what it serves has sensors that start. -/
theorem syncedPatterns_ok (deviceId vendor deviceType : Str) (s : Learner) (h : Exportable s.device.db)
    (hheader : ∀ m ∈ s.device.header, m.virtualSensors.all startsSensor = true)
    (hcached : ∀ doc ∈ s.cached, doc.server.virtualSensors.all startsSensor = true)
    (hseed : ∀ doc ∈ s.seed, doc.server.virtualSensors.all startsSensor = true) :
    ∃ cached, syncedPatterns deviceId vendor deviceType true s = .ok cached ∧
      (∀ doc ∈ cached, doc.server.virtualSensors.all startsSensor = true) ∧
      ∀ pat ∈ s.device.db.patterns, ∃ doc ∈ cached, ∃ ep ∈ doc.client.endpoints, exportEndpoint pat = .ok ep := by
  obtain ⟨doc, hdoc, hof⟩ := h.exportPatterns_ok deviceId vendor deviceType
    (stateConfig s.device.header (servedConfig s))
  have hsensors : (withSeed s doc).server.virtualSensors.all startsSensor = true :=
    withSeed_sensors hseed (hof.sensors ▸ stateConfig_sensors hheader hcached)
  have happlied : applied (withSeed s doc) = .ok (some (withSeed s doc)) := if_pos hsensors
  have hrows : ∀ pat ∈ s.device.db.patterns, ∃ ep ∈ (withSeed s doc).client.endpoints, exportEndpoint pat = .ok ep := by
    intro pat hpat
    obtain ⟨ep, hep, hexport⟩ := hof.endpoints.exists_right hpat
    exact ⟨ep, mem_withSeed hep, hexport⟩
  -- wherever the patterns are applied, they are served with every row
  have hserved : (∀ doc' ∈ some (withSeed s doc), doc'.server.virtualSensors.all startsSensor = true) ∧
      ∀ pat ∈ s.device.db.patterns, ∃ doc' ∈ some (withSeed s doc), ∃ ep ∈ doc'.client.endpoints,
        exportEndpoint pat = .ok ep :=
    ⟨fun doc' hdoc' => Option.some.inj hdoc' ▸ hsensors, fun pat hpat => ⟨_, rfl, hrows pat hpat⟩⟩
  unfold syncedPatterns
  rw [hdoc, Except.ok_bind]
  split
  next hempty =>
    -- no endpoint is left, so there was no row to serve
    refine ⟨none, rfl, by simp, fun pat hpat => ?_⟩
    obtain ⟨ep, hep, _⟩ := hrows pat hpat
    rw [List.isEmpty_iff.mp hempty] at hep
    cases hep
  next =>
    split
    next => exact ⟨_, happlied, hserved⟩
    next =>
      obtain ⟨file, hfile⟩ := portableFile_ok h deviceId vendor deviceType doc
      rw [hfile, Except.ok_bind, if_pos rfl]
      exact ⟨_, happlied, hserved⟩

/-! ## Every cycle -/

/-- What servable cycles keep. -/
structure SyncInv (s : Learner) : Prop where
  quiet : s.raised = false
  exportable : Exportable s.device.db
  header : ∀ m ∈ s.device.header, m.virtualSensors.all startsSensor = true
  cached : ∀ doc ∈ s.cached, doc.server.virtualSensors.all startsSensor = true
  seed : ∀ doc ∈ s.seed, doc.server.virtualSensors.all startsSensor = true
  rows : ∀ pat ∈ s.device.db.patterns, ∃ doc ∈ s.cached, ∃ ep ∈ doc.client.endpoints, exportEndpoint pat = .ok ep

theorem Fresh.inv (h : Fresh s) : SyncInv s where
  quiet := h.quiet
  exportable := h.db ▸ exportable_empty
  header := h.header
  cached := h.cached
  seed := h.seed
  rows := by simp [h.db]

theorem SyncInv.step {cycle : Cycle} {s' : Learner} (h : SyncInv s) (hok : Servable H deviceId s cycle)
    (hstep : cycleStep H deviceId vendor deviceType s cycle = some s') : SyncInv s' := by
  obtain ⟨saved, hsaved, hexportable, hheader⟩ := savePatterns_ok h.exportable hok.saved
  have hsensors : ∀ m ∈ saved.header, m.virtualSensors.all startsSensor = true :=
    hheader ▸ tryDelta_sensors h.header hok.sensors
  obtain ⟨cached, hsynced, hcached, hrows⟩ :=
    syncedPatterns_ok deviceId vendor deviceType { s with device := saved } hexportable hsensors h.cached h.seed
  unfold cycleStep at hstep
  rw [hsaved] at hstep
  cases hstep
  unfold exportAndSyncPatterns
  rw [hok.written, hsynced]
  exact ⟨h.quiet, hexportable, hsensors, hcached, h.seed, hrows⟩

theorem SyncInv.served (h : SyncInv s) : Served deviceId vendor deviceType s where
  quiet := h.quiet
  exports := by
    obtain ⟨doc, hdoc, _⟩ := h.exportable.exportPatterns_ok deviceId vendor deviceType
      (stateConfig s.device.header (servedConfig s))
    exact ⟨doc, hdoc⟩
  rows := h.rows

end

/-- **In every run of servable cycles no save raises, the tables can be exported and every row is served.** -/
theorem served_of_servable {H : Host} {deviceId vendor deviceType : Str} {s₀ s : Learner} (h₀ : Fresh s₀)
    (h : ReachesUnder (cycleStep H deviceId vendor deviceType) (Servable H deviceId) s₀ s) :
    Served deviceId vendor deviceType s :=
  (h.invariant h₀.inv fun _ _ _ hinv hok hstep => hinv.step hok hstep).served

/-- A host for concrete cycles: one path to digest, numbers only where there are some, and one delta. -/
def lampHost : Host where
  interp := asciiInterp
  digest _ := .ok "891652ef70f2218c552b876c04111c5e"
  toFloat
    | .float x => .ok x
    | _        => .error .typeError
  toInt
    | .int n => .ok n
    | _      => .error .typeError
  validateModel _ := .ok
    { patternMeta := { patternId := "lamp-patterns", vendor := "unknown", deviceType := "unknown" }
      commands := [{ id := "lamp_off_891652ef", kind := "off", method := "POST", path := "/lamp" }] }
  validateDb _ := .error .valueError
  bindText
    | .str s => .ok s
    | _      => .error .other
  query _ := .ok ()
  takesModel _ := .ok ()
  takesDb _ := .ok ()

/-- A lamp is learned pattern by pattern, and then a command by a delta. -/
def learnedLamp : List Cycle :=
  [⟨[("patterns", .arr [.obj [("intent", .str "on"), ("path", .str "/lamp"), ("request_headers", .arr [.str "Host"]),
        ("response", .obj [("status_code", .int 200), ("body", .obj [("power", .str "on")])]),
        ("field_mappings", .obj [("level", .str "result.level")])]])], true⟩,
    ⟨[("commands", .arr [.obj [("kind", .str "off"), ("method", .str "POST"), ("path", .str "/lamp")]])], true⟩]

/-- What was learned in the end. -/
def learnedLampEnd : Learner :=
  (exec (cycleStep lampHost "lamp" "unknown" "unknown") {} learnedLamp).getD {}

theorem learnedLamp_served : learnedLampEnd.device.db.patterns.length = 2 ∧
    Served "lamp" "unknown" "unknown" learnedLampEnd := by
  have hreach : ReachesUnder (cycleStep lampHost "lamp" "unknown" "unknown") (Servable lampHost "lamp") {}
      learnedLampEnd :=
    reachesUnder_of_exec .start learnedLamp (by decide +kernel) (by decide +kernel)
  refine ⟨by decide +kernel, served_of_servable ⟨rfl, rfl, ?_, ?_, ?_⟩ hreach⟩ <;> intro _ h <;> cases h

/-- A pattern whose body schema is a list, as `_save_patterns` stores it. -/
def listedSchema : List Cycle :=
  [⟨[("patterns", .arr [.obj [("intent", .str "on"), ("path", .str "/lamp"), ("body_schema", .arr [.str "power"])]])],
    true⟩]

/-- What was learned of it. -/
def listedSchemaEnd : Learner :=
  (exec (cycleStep lampHost "lamp" "unknown" "unknown") {} listedSchema).getD {}

/-- The pattern is stored, and the export refuses it. -/
theorem listedSchema_unserved : ¬ ∀ H deviceId vendor deviceType s,
    Reaches (cycleStep H deviceId vendor deviceType) {} s → Served deviceId vendor deviceType s := by
  intro h
  have hreach : Reaches (cycleStep lampHost "lamp" "unknown" "unknown") {} listedSchemaEnd :=
    reaches_of_exec listedSchema (by decide +kernel)
  obtain ⟨doc, hdoc⟩ := (h _ _ _ _ _ hreach).exports
  have hfails : exportPatterns "lamp" "unknown" "unknown"
      (stateConfig listedSchemaEnd.device.header (servedConfig listedSchemaEnd)) listedSchemaEnd.device.db =
        .error .valueError := by
    decide +kernel
  rw [hfails] at hdoc
  cases hdoc

end RideTheApi.PatternSync
