import Mathlib.Data.List.Nodup
import RideTheApi.Lib.Dict
import RideTheApi.Lib.Except
import RideTheApi.Py.Equal

/-!
# `Resilience.Backup` — exporting the learned patterns of a device and importing them

An export lists, for each of three tables, hand-picked columns of every row. An import takes the rows of an
uploaded document, keeps the keys that are columns of the model, skips the ids that are stored already, and
adds the rest in one transaction.

The argument is the same for the three tables. A stored value is stored again as it is, so an exported row
is accepted and agrees with its source in the columns listed (`insert_exported`). The ids of a table are
distinct and the guard sees every stored one, so what is added is exactly what is missing
(`importTable_exported`).
-/

namespace RideTheApi.Backup

open Py

/-! ## The models -/

inductive ColumnType where
  | string
  | integer
  | float
  | json
  | dateTime
deriving Repr, DecidableEq

/-- A column that an import can set: what it holds when nothing is given, and whether it may be null. -/
structure Column where
  name : Str
  type : ColumnType
  default : Option Json := none
  nullable : Bool := false
deriving Repr, DecidableEq

/-- A model: its unique id, and its columns but those that the database fills itself (`id`, `created_at`,
    `updated_at`). -/
structure Model where
  key : Str
  columns : List Column
  distinct : (columns.map (·.name)).Nodup := by decide
  keyed : { name := key, type := .string } ∈ columns := by decide

/-- `RequestPattern`. -/
def requestPattern : Model where
  key := "pattern_id"
  columns :=
    [{ name := "pattern_id", type := .string },
     { name := "method", type := .string },
     { name := "path_pattern", type := .string },
     { name := "protocol", type := .string },
     { name := "required_headers", type := .json, default := some (.arr []) },
     { name := "body_schema", type := .json, default := some (.obj []) },
     { name := "query_param_keys", type := .json, default := some (.arr []) },
     { name := "intent", type := .string },
     { name := "confidence", type := .float, default := some (.float 0x3fe0000000000000) },
     { name := "hit_count", type := .integer, default := some (.int 0) },
     { name := "last_matched", type := .dateTime, nullable := true }]

/-- `ResponseTemplate`. -/
def responseTemplate : Model where
  key := "template_id"
  columns :=
    [{ name := "template_id", type := .string },
     { name := "pattern_id", type := .string },
     { name := "status_code", type := .integer },
     { name := "headers_template", type := .json, default := some (.obj []) },
     { name := "body_template", type := .json, default := some (.obj []) },
     { name := "field_mappings", type := .json, default := some (.obj []) },
     { name := "expected_variables", type := .json, default := some (.arr []) },
     { name := "confidence", type := .float, default := some (.float 0x3fe0000000000000) },
     { name := "hit_count", type := .integer, default := some (.int 0) },
     { name := "last_used", type := .dateTime, nullable := true }]

/-- `FieldMapping`. -/
def fieldMapping : Model where
  key := "mapping_id"
  columns :=
    [{ name := "mapping_id", type := .string },
     { name := "request_field", type := .string },
     { name := "request_type", type := .string },
     { name := "response_field", type := .string },
     { name := "response_type", type := .string },
     { name := "transform", type := .string, nullable := true },
     { name := "formula", type := .string, nullable := true },
     { name := "enum_values", type := .json, nullable := true },
     { name := "intent", type := .string },
     { name := "confidence", type := .float, default := some (.float 0x3fe0000000000000) }]

def models : List Model := [requestPattern, responseTemplate, fieldMapping]

/-- A stored row, with the columns `σ` that the database fills itself. -/
structure Row (σ : Type) where
  values : Dict Str Json
  server : σ
deriving Repr, DecidableEq

variable {σ : Type}

def Row.get (row : Row σ) (name : Str) : Json := (row.values.get? name).getD .null

/-! ## The driver -/

/-- What an import and an export take from the driver of a device database. -/
structure Driver (σ : Type) where
  /-- What is read back from a column of this type that a value was written to. -/
  bind : ColumnType → Json → Result Json
  /-- A query for the rows with these ids. -/
  query : List Json → Result Unit
  /-- The columns that the database fills itself, for a row that is added to a table. -/
  server : List (Row σ) → σ

section
variable (D : Driver σ)

/-- What a column holds that nothing is given for. -/
def Column.absent (c : Column) : Result Json :=
  match c.default with
  | some value => .ok value
  | none       => if c.nullable then .ok .null else .error .other

/-- What a column holds once a row that may give a value for it is flushed. A null counts as absent, except
    in a JSON column; a date column takes no JSON value. -/
def Column.store (c : Column) : Option Json → Result Json
  | none       => c.absent
  | some value =>
    if value = .null ∧ c.type ≠ .json then c.absent
    else if c.type = .dateTime then .error .other
    else D.bind c.type value

/-- A value that a column can hold. Dates are written by other code. -/
def Column.Holds (c : Column) (value : Json) : Prop :=
  c.type = .dateTime ∨ ∃ given, c.store D given = .ok value

/-- A row that a table of the model can hold. -/
def Model.Stored (m : Model) (row : Row σ) : Prop := ∀ c ∈ m.columns, c.Holds D (row.get c.name)

/-- What the driver is relied on for: it stores what it read back as it is, and the defaults of the models;
    only a JSON column, which takes a null, turns a value into one. -/
structure Driver.Lawful : Prop where
  bind_bind : ∀ {type v w}, D.bind type v = .ok w → D.bind type w = .ok w
  bind_ne_null : ∀ {type v w}, type ≠ .json → D.bind type v = .ok w → w ≠ .null
  bind_null : D.bind .json .null = .ok .null
  bind_string : ∀ {v w}, D.bind .string v = .ok w → ∃ s, w = .str s
  bind_default : ∀ m ∈ models, ∀ c ∈ m.columns, ∀ v ∈ c.default, D.bind c.type v = .ok v

/-- A table of a device: what its columns can hold, under distinct ids. -/
@[ext] structure Table (m : Model) where
  rows : List (Row σ)
  stored : ∀ row ∈ rows, m.Stored D row
  distinct : (rows.map fun row => row.get m.key).Nodup

/-- The tables of a device that are exported and imported. -/
@[ext] structure DeviceDb where
  patterns : Table D requestPattern
  templates : Table D responseTemplate
  mappings : Table D fieldMapping

end

variable {D : Driver σ} {m : Model}

/-- The ids of a table. -/
def Table.ids (table : Table D m) : List Json := table.rows.map fun row => row.get m.key

def Table.empty : Table D m where
  rows := []
  stored := by simp
  distinct := by simp

/-- A device without anything learned. -/
def DeviceDb.empty : DeviceDb D where
  patterns := .empty
  templates := .empty
  mappings := .empty

/-! ## Export -/

/-- The columns of a model that an export lists: the id is one, none is a date, and a row without the
    columns that are not listed is complete. -/
structure Listing (m : Model) where
  names : List Str
  known : ∀ name ∈ names, name ∈ m.columns.map (·.name)
  plain : ∀ c ∈ m.columns, c.name ∈ names → c.type ≠ .dateTime
  key : m.key ∈ names
  complete : ∀ c ∈ m.columns, c.name ∈ names ∨ c.absent.toBool

def patternListing : Listing requestPattern where
  names := ["pattern_id", "method", "path_pattern", "protocol", "required_headers", "query_param_keys", "body_schema",
    "intent", "confidence"]
  known := by decide
  plain := by decide
  key := by decide
  complete := by decide

def templateListing : Listing responseTemplate where
  names := ["template_id", "pattern_id", "status_code", "headers_template", "body_template", "field_mappings",
    "expected_variables", "confidence"]
  known := by decide
  plain := by decide
  key := by decide
  complete := by decide

def mappingListing : Listing fieldMapping where
  names := ["mapping_id", "request_field", "request_type", "response_field", "response_type", "transform", "formula",
    "enum_values", "intent", "confidence"]
  known := by decide
  plain := by decide
  key := by decide
  complete := by decide

/-- The listed columns of a row. -/
def Listing.exportRow (L : Listing m) (row : Row σ) : Dict Str Json := L.names.map fun name => (name, row.get name)

def Listing.exportTable (L : Listing m) (table : Table D m) : Json := .arr (table.rows.map fun row => .obj (L.exportRow row))

/-- `export_device_patterns`, at the time `now`. -/
def exportDevicePatterns (deviceId now : Str) (db : DeviceDb D) : Dict Str Json :=
  [("device_id", .str deviceId),
   ("exported_at", .str now),
   ("format_version", .str "1.0"),
   ("patterns", patternListing.exportTable db.patterns),
   ("templates", templateListing.exportTable db.templates),
   ("field_mappings", mappingListing.exportTable db.mappings)]

/-! ## Import -/

/-- `_import_rows`: objects only, known columns only. -/
def importRows (m : Model) : Option Json → List (Dict Str Json)
  | some (.arr rows) => rows.filterMap fun
    | .obj row => some (row.filter fun kv => kv.1 ∈ m.columns.map (·.name))
    | _        => none
  | _ => []

/-- The values of a row that is flushed. -/
def Model.bindRow (D : Driver σ) (m : Model) (data : Dict Str Json) : Result (Dict Str Json) :=
  m.columns.mapM fun c => (c.store D (data.get? c.name)).map fun value => (c.name, value)

/-- The ids that are looked up, as they are bound to the query. -/
def bindIds (D : Driver σ) (m : Model) (rows : List (Dict Str Json)) : Result (List Json) :=
  (rows.filterMap fun data => data.get? m.key).mapM fun id =>
    if id = .null then .ok .null else D.bind .string id

/-- The ids of uploaded rows that are stored. -/
def existingIds (rows : List (Dict Str Json)) (table : Table D m) : Result (List Json) := do
  let ids ← bindIds D m rows
  if ids.isEmpty then .ok []
  else do
    let _ ← D.query ids
    .ok (table.ids.filter fun id => id ∈ ids)

/-- The uploaded rows that are not skipped. -/
def newRows (m : Model) : List Json → List (Dict Str Json) → Result (List (Dict Str Json))
  | _,        []           => .ok []
  | existing, data :: rows => do
    let id ← hashable ((data.get? m.key).getD .null)
    if existing.any fun known => pyEq known id then newRows m existing rows
    else do
      let rows ← newRows m ((data.get? m.key).toList ++ existing) rows
      .ok (data :: rows)

theorem get?_bindRow {data values : Dict Str Json} (h : m.bindRow D data = .ok values) {c : Column} (hc : c ∈ m.columns) :
    ∃ value, values.get? c.name = some value ∧ c.store D (data.get? c.name) = .ok value := by
  have hrows := Except.forall₂_of_mapM h
  have hdistinct := m.distinct
  clear h
  generalize m.columns = columns at hc hrows hdistinct
  induction hrows with
  | nil => cases hc
  | @cons c' kv columns values hkv hrest ih =>
    obtain ⟨value, hvalue, rfl⟩ := Except.map_ok_iff.mp hkv
    rw [List.map_cons, List.nodup_cons] at hdistinct
    rcases List.mem_cons.mp hc with rfl | hc
    · exact ⟨value, by rw [Dict.get?_cons, if_pos rfl], hvalue⟩
    · have hne : c'.name ≠ c.name := fun heq => hdistinct.1 (heq ▸ List.mem_map_of_mem hc)
      obtain ⟨value', hget, hstore⟩ := ih hc hdistinct.2
      exact ⟨value', by rw [Dict.get?_cons, if_neg hne, hget], hstore⟩

theorem stored_bindRow {data values : Dict Str Json} (h : m.bindRow D data = .ok values) (server : σ) :
    m.Stored D { values, server } := by
  intro c hc
  obtain ⟨value, hget, hstore⟩ := get?_bindRow h hc
  have hvalue : Row.get { values, server } c.name = value := by simp [Row.get, hget]
  exact .inr ⟨_, hvalue ▸ hstore⟩

/-- A row is flushed: an id that is stored already breaks the unique constraint. -/
def Table.insert (table : Table D m) (data : Dict Str Json) : Result (Table D m) :=
  match h : m.bindRow D data with
  | .error e   => .error e
  | .ok values =>
    let row : Row σ := { values, server := D.server table.rows }
    if hkey : row.get m.key ∈ table.ids then .error .other
    else .ok
      { rows := table.rows ++ [row]
        stored := by
          intro r hr
          rcases List.mem_append.mp hr with hr | hr
          · exact table.stored r hr
          · exact List.mem_singleton.mp hr ▸ stored_bindRow h _
        distinct := by
          rw [List.map_append]
          refine List.nodup_append.mpr ⟨table.distinct, List.nodup_singleton _, ?_⟩
          rintro a ha b hb rfl
          rw [List.mem_singleton.mp hb] at ha
          exact hkey ha }

/-- The import of one table, with the number of rows added. -/
def importTable (rows : List (Dict Str Json)) (table : Table D m) : Result (Table D m × Nat) := do
  let existing ← existingIds rows table
  let added ← newRows m existing rows
  let table ← added.foldlM Table.insert table
  .ok (table, added.length)

/-- The three imports; the rows of the first table are counted. -/
def importAll (data : Dict Str Json) (db : DeviceDb D) : Result (DeviceDb D × Nat) := do
  let patterns ← importTable (importRows requestPattern (data.get? "patterns")) db.patterns
  let templates ← importTable (importRows responseTemplate (data.get? "templates")) db.templates
  let mappings ← importTable (importRows fieldMapping (data.get? "field_mappings")) db.mappings
  .ok ({ patterns := patterns.1, templates := templates.1, mappings := mappings.1 }, patterns.2)

/-- `import_device_patterns`: in one session, which an exception rolls back. -/
def importDevicePatterns (data : Dict Str Json) (db : DeviceDb D) : DeviceDb D × Result Nat :=
  match importAll data db with
  | .error e       => (db, .error e)
  | .ok (db', count) => (db', .ok count)

/-! ## What a column holds is stored again as it is -/

section
variable {c : Column} {value : Json}

theorem Column.store_some (c : Column) (value : Json) : c.store D (some value) =
    if value = .null ∧ c.type ≠ .json then c.absent
    else if c.type = .dateTime then .error .other
    else D.bind c.type value := rfl

/-- What a column holds by default is stored again, when it is given back. -/
theorem Column.store_of_absent (hD : D.Lawful) (hm : m ∈ models) (hc : c ∈ m.columns) (htype : c.type ≠ .dateTime)
    (h : c.absent = .ok value) : c.store D (some value) = .ok value := by
  rw [Column.store_some]
  by_cases hnull : value = .null ∧ c.type ≠ .json
  · rw [if_pos hnull]
    exact h
  · rw [if_neg hnull, if_neg htype]
    unfold Column.absent at h
    cases hdefault : c.default with
    | some v =>
      rw [hdefault] at h
      cases h
      exact hD.bind_default m hm c hc _ hdefault
    | none =>
      -- Nothing is stored as a null, and only a JSON column keeps one that is given.
      rw [hdefault] at h
      by_cases hnullable : c.nullable = true
      · simp only [hnullable, if_true] at h
        cases h
        have hjson : c.type = .json := by
          by_contra hne
          exact hnull ⟨rfl, hne⟩
        rw [hjson]
        exact hD.bind_null
      · simp [hnullable] at h

theorem Column.store_of_holds (hD : D.Lawful) (hm : m ∈ models) (hc : c ∈ m.columns) (htype : c.type ≠ .dateTime)
    (h : c.Holds D value) : c.store D (some value) = .ok value := by
  rcases h with h | ⟨given, h⟩
  · exact absurd h htype
  · cases given with
    | none => exact Column.store_of_absent hD hm hc htype h
    | some v =>
      rw [Column.store_some] at h
      by_cases hnull : v = .null ∧ c.type ≠ .json
      · rw [if_pos hnull] at h
        exact Column.store_of_absent hD hm hc htype h
      · rw [if_neg hnull, if_neg htype] at h
        have hbound : ¬ (value = .null ∧ c.type ≠ .json) := fun hv => hD.bind_ne_null hv.2 h hv.1
        rw [Column.store_some, if_neg hbound, if_neg htype]
        exact hD.bind_bind h

end

section
variable {L : Listing m} {row row' : Row σ} {table source target : Table D m}

/-- A stored id is a text. -/
theorem Model.Stored.id (hD : D.Lawful) (h : m.Stored D row) : ∃ s, row.get m.key = .str s := by
  rcases h _ m.keyed with htype | ⟨given, hstore⟩
  · cases htype
  · cases given with
    | none => cases hstore
    | some v =>
      rw [Column.store_some] at hstore
      split_ifs at hstore with hnull hdate
      · cases hstore
      · exact hD.bind_string hstore

theorem Table.bind_id (hD : D.Lawful) (hm : m ∈ models) (h : row ∈ table.rows) :
    row.get m.key ≠ .null ∧ D.bind .string (row.get m.key) = .ok (row.get m.key) := by
  obtain ⟨s, hs⟩ := (table.stored row h).id hD
  have hstore := Column.store_of_holds hD hm m.keyed (by simp) (table.stored row h _ m.keyed)
  simp only [hs] at hstore ⊢
  refine ⟨by simp, ?_⟩
  simpa [Column.store] using hstore

/-! ## The rows of an export -/

/-- Two rows that agree in the columns listed. -/
def Listing.Same (L : Listing m) (row row' : Row σ) : Prop := ∀ name ∈ L.names, row.get name = row'.get name

theorem Listing.Same.exportRow (h : L.Same row row') : L.exportRow row = L.exportRow row' := by
  apply List.map_congr_left
  intro name hname
  rw [h name hname]

theorem Listing.get?_exportRow (L : Listing m) (row : Row σ) (name : Str) :
    Dict.get? (L.exportRow row) name = if name ∈ L.names then some (row.get name) else none := by
  unfold Listing.exportRow
  induction L.names with
  | nil => rfl
  | cons n names ih =>
    rw [List.map_cons, Dict.get?_cons, ih]
    by_cases hn : n = name
    · simp [hn]
    · simp [hn, Ne.symm hn]

/-- Every key of an exported row is a column. -/
theorem importRows_exportTable (L : Listing m) (table : Table D m) :
    importRows m (some (L.exportTable table)) = table.rows.map L.exportRow := by
  have hrow : ∀ row : Row σ, (L.exportRow row).filter (fun kv => kv.1 ∈ m.columns.map (·.name)) = L.exportRow row := by
    intro row
    rw [List.filter_eq_self]
    intro kv hkv
    obtain ⟨name, hname, rfl⟩ := List.mem_map.mp hkv
    exact decide_eq_true (L.known name hname)
  simp only [importRows, Listing.exportTable, List.filterMap_map, Function.comp_def, hrow, List.filterMap_eq_map']

/-- The lookup of an import finds the stored ids among the exported ones. -/
theorem existingIds_exported (hD : D.Lawful) (hm : m ∈ models) (L : Listing m) (source target : Table D m)
    (hquery : D.query source.ids = .ok ()) :
    existingIds (source.rows.map L.exportRow) target = .ok (target.ids.filter fun id => id ∈ source.ids) := by
  have hget : ∀ row : Row σ, Dict.get? (L.exportRow row) m.key = some (row.get m.key) := fun row => by
    rw [L.get?_exportRow, if_pos L.key]
  have hids : bindIds D m (source.rows.map L.exportRow) = .ok source.ids := by
    have hkeys : ((source.rows.map L.exportRow).filterMap fun data => data.get? m.key) = source.ids := by
      rw [List.filterMap_map]
      simp only [Function.comp_def, hget, Table.ids, List.filterMap_eq_map']
    unfold bindIds
    rw [hkeys]
    apply Except.mapM_self
    intro id hid
    obtain ⟨row, hrow, rfl⟩ := List.mem_map.mp hid
    obtain ⟨hne, hbind⟩ := source.bind_id hD hm hrow
    rw [if_neg hne, hbind]
  unfold existingIds
  rw [hids, Except.ok_bind, hquery, Except.ok_bind]
  split
  case isTrue hempty => simp [List.isEmpty_iff.mp hempty]
  case isFalse => rfl

/-- A guard of texts knows an id iff it is one of them. -/
theorem any_known {existing : List Json} (hexisting : ∀ known ∈ existing, ∃ s, known = .str s) (id : Json) :
    (existing.any fun known => pyEq known id) = true ↔ id ∈ existing := by
  rw [List.any_eq_true]
  constructor
  · rintro ⟨known, hknown, heq⟩
    obtain ⟨s, rfl⟩ := hexisting known hknown
    exact pyEq_str.mp heq ▸ hknown
  · intro hid
    obtain ⟨s, rfl⟩ := hexisting id hid
    exact ⟨_, hid, pyEq_str.mpr rfl⟩

/-- The guard skips the exported rows whose id it knows, and no other: their ids are distinct. -/
theorem newRows_exported (hD : D.Lawful) (L : Listing m) {rows : List (Row σ)} (hstored : ∀ row ∈ rows, m.Stored D row)
    (hdistinct : (rows.map fun row => row.get m.key).Nodup) {existing : List Json}
    (hexisting : ∀ known ∈ existing, ∃ s, known = .str s) :
    newRows m existing (rows.map L.exportRow) =
      .ok ((rows.filter fun row => row.get m.key ∉ existing).map L.exportRow) := by
  induction rows generalizing existing with
  | nil => rfl
  | cons row rows ih =>
    have hget : Dict.get? (L.exportRow row) m.key = some (row.get m.key) := by
      rw [L.get?_exportRow, if_pos L.key]
    obtain ⟨s, hs⟩ := (hstored row List.mem_cons_self).id hD
    have hhash : hashable (row.get m.key) = .ok (row.get m.key) := by
      rw [hs]
      rfl
    rw [List.map_cons, List.nodup_cons] at hdistinct
    have hrest := fun r hr => hstored r (List.mem_cons_of_mem _ hr)
    rw [List.map_cons, newRows, hget, Option.getD_some, hhash, Except.ok_bind]
    by_cases hknown : row.get m.key ∈ existing
    · rw [if_pos ((any_known hexisting _).mpr hknown), List.filter_cons_of_neg (by simpa using hknown)]
      exact ih hrest hdistinct.2 hexisting
    · have hgrown : ∀ known ∈ row.get m.key :: existing, ∃ s, known = .str s := by
        intro known hmem
        rcases List.mem_cons.mp hmem with rfl | hmem
        · exact ⟨s, hs⟩
        · exact hexisting known hmem
      -- The id that is known from here on is the id of no later row.
      have hfilter : (rows.filter fun r => r.get m.key ∉ row.get m.key :: existing) =
          rows.filter fun r => r.get m.key ∉ existing := by
        apply List.filter_congr
        intro r hr
        have hne : r.get m.key ≠ row.get m.key := fun heq => hdistinct.1 (List.mem_map.mpr ⟨r, hr, heq⟩)
        simp [hne]
      rw [if_neg (mt (any_known hexisting _).mp hknown), List.filter_cons_of_pos (by simpa using hknown)]
      rw [Option.toList_some, List.singleton_append, ih hrest hdistinct.2 hgrown, hfilter, Except.ok_bind, List.map_cons]

/-! ## Adding exported rows -/

theorem Table.insert_ok {data values : Dict Str Json} (h : m.bindRow D data = .ok values)
    (hkey : Row.get { values, server := D.server table.rows } m.key ∉ table.ids) :
    ∃ after, table.insert data = .ok after ∧ after.rows = table.rows ++ [{ values, server := D.server table.rows }] := by
  unfold Table.insert
  split
  case h_1 e he =>
    rw [h] at he
    cases he
  case h_2 values' hv =>
    obtain rfl : values = values' := Except.ok.inj (h.symm.trans hv)
    rw [dif_neg hkey]
    exact ⟨_, rfl, rfl⟩

/-- An exported row binds, and to values that agree with it in the columns listed. -/
theorem bindRow_exported (hD : D.Lawful) (hm : m ∈ models) (L : Listing m) (hstored : m.Stored D row) :
    ∃ values, m.bindRow D (L.exportRow row) = .ok values ∧ ∀ server, L.Same row { values, server } := by
  have hlisted : ∀ c ∈ m.columns, c.name ∈ L.names →
      c.store D (Dict.get? (L.exportRow row) c.name) = .ok (row.get c.name) := by
    intro c hc hname
    rw [L.get?_exportRow, if_pos hname]
    exact Column.store_of_holds hD hm hc (L.plain c hc hname) (hstored c hc)
  have hstore : ∀ c ∈ m.columns, ∃ kv,
      ((c.store D (Dict.get? (L.exportRow row) c.name)).map fun value => (c.name, value)) = .ok kv := by
    intro c hc
    by_cases hname : c.name ∈ L.names
    · rw [hlisted c hc hname]
      exact ⟨_, rfl⟩
    · -- A column that is not listed is left to its default.
      obtain ⟨value, hvalue⟩ := Except.exists_ok ((L.complete c hc).resolve_left hname)
      rw [L.get?_exportRow, if_neg hname]
      exact ⟨(c.name, value), Except.map_ok_iff.mpr ⟨value, hvalue, rfl⟩⟩
  obtain ⟨values, hvalues, _⟩ := Except.exists_mapM hstore
  refine ⟨values, hvalues, fun server name hname => ?_⟩
  obtain ⟨c, hc, rfl⟩ := List.mem_map.mp (L.known name hname)
  obtain ⟨value, hget, hbound⟩ := get?_bindRow hvalues hc
  rw [hlisted c hc hname] at hbound
  cases hbound
  simp [Row.get, hget]

/-- **An exported row is accepted**, by a table without its id. -/
theorem insert_exported (hD : D.Lawful) (hm : m ∈ models) (L : Listing m) (hstored : m.Stored D row)
    (hfresh : row.get m.key ∉ table.ids) :
    ∃ after row', table.insert (L.exportRow row) = .ok after ∧ after.rows = table.rows ++ [row'] ∧ L.Same row row' := by
  obtain ⟨values, hvalues, hsame⟩ := bindRow_exported hD hm L hstored
  have hid := hsame (D.server table.rows) m.key L.key
  have hkey : Row.get { values, server := D.server table.rows } m.key ∉ table.ids := hid ▸ hfresh
  obtain ⟨after, hinsert, hrows⟩ := Table.insert_ok hvalues hkey
  exact ⟨after, _, hinsert, hrows, hsame _⟩

theorem insertAll_exported (hD : D.Lawful) (hm : m ∈ models) (L : Listing m) {rows : List (Row σ)}
    (hstored : ∀ row ∈ rows, m.Stored D row) (hdistinct : (rows.map fun row => row.get m.key).Nodup)
    (hfresh : ∀ row ∈ rows, row.get m.key ∉ table.ids) :
    ∃ after added, (rows.map L.exportRow).foldlM Table.insert table = .ok after ∧
      after.rows = table.rows ++ added ∧ List.Forall₂ L.Same rows added := by
  induction rows generalizing table with
  | nil => exact ⟨table, [], rfl, by simp, .nil⟩
  | cons row rows ih =>
    rw [List.map_cons, List.nodup_cons] at hdistinct
    obtain ⟨next, row', hinsert, hrows, hsame⟩ :=
      insert_exported hD hm L (hstored row List.mem_cons_self) (hfresh row List.mem_cons_self)
    have hnext : ∀ r ∈ rows, r.get m.key ∉ next.ids := by
      intro r hr hmem
      unfold Table.ids at hmem
      rw [hrows, List.map_append, List.mem_append, List.map_singleton, List.mem_singleton] at hmem
      rcases hmem with hmem | hmem
      · exact hfresh r (List.mem_cons_of_mem _ hr) hmem
      · exact hdistinct.1 (List.mem_map.mpr ⟨r, hr, hmem.trans (hsame m.key L.key).symm⟩)
    obtain ⟨after, added, hall, hadded, hrest⟩ :=
      ih (fun r hr => hstored r (List.mem_cons_of_mem _ hr)) hdistinct.2 hnext
    refine ⟨after, row' :: added, ?_, ?_, .cons hsame hrest⟩
    · rw [List.map_cons, List.foldlM_cons, hinsert, Except.ok_bind, hall]
    · rw [hadded, hrows, List.append_assoc, List.singleton_append]

/-! ## One table -/

/-- The rows of a table that another lacks. -/
def Table.missing (source target : Table D m) : List (Row σ) := source.rows.filter fun row => row.get m.key ∉ target.ids

/-- What an import makes of a table: every row is left as it is, and exactly the missing ones are added, in all
    columns listed. -/
def Restored (L : Listing m) (source before after : Table D m) : Prop :=
  ∃ added, after.rows = before.rows ++ added ∧ List.Forall₂ L.Same (source.missing before) added

/-- **The import of an exported table adds exactly what is missing.** -/
theorem importTable_exported (hD : D.Lawful) (hm : m ∈ models) (L : Listing m) (source before : Table D m)
    (hquery : D.query source.ids = .ok ()) :
    ∃ after, importTable (importRows m (some (L.exportTable source))) before =
        .ok (after, (source.missing before).length) ∧ Restored L source before after := by
  have hexisting : ∀ known ∈ before.ids.filter fun id => id ∈ source.ids, ∃ s, known = .str s := by
    intro known hknown
    obtain ⟨row, hrow, rfl⟩ := List.mem_map.mp (List.mem_filter.mp hknown).1
    exact (before.stored row hrow).id hD
  have hmissing : (source.rows.filter fun row => row.get m.key ∉ before.ids.filter fun id => id ∈ source.ids) =
      source.missing before := by
    apply List.filter_congr
    intro row hrow
    have hid : row.get m.key ∈ source.ids := List.mem_map.mpr ⟨row, hrow, rfl⟩
    simp [hid]
  have hsub : (source.missing before).Sublist source.rows := List.filter_sublist
  have hfresh : ∀ row ∈ source.missing before, row.get m.key ∉ before.ids := fun row hrow => by
    simpa using (List.mem_filter.mp hrow).2
  obtain ⟨after, added, hall, hrows, hsame⟩ := insertAll_exported hD hm L
    (fun row hrow => source.stored row (hsub.subset hrow)) (source.distinct.sublist (hsub.map _)) hfresh
  refine ⟨after, ?_, added, hrows, hsame⟩
  unfold importTable
  rw [importRows_exportTable, existingIds_exported hD hm L source before hquery, Except.ok_bind,
    newRows_exported hD L source.stored source.distinct hexisting, Except.ok_bind, hmissing, hall, Except.ok_bind,
    List.length_map]

/-- Nothing is missing after an import. -/
theorem Restored.missing {before after : Table D m} (h : Restored L source before after) : source.missing after = [] := by
  obtain ⟨added, hrows, hsame⟩ := h
  apply List.filter_eq_nil_iff.mpr
  intro row hrow
  have hmem : row.get m.key ∈ after.ids := by
    unfold Table.ids
    rw [hrows, List.map_append, List.mem_append]
    by_cases hbefore : row.get m.key ∈ before.ids
    · exact .inl hbefore
    · obtain ⟨row', hrow', hrel⟩ := hsame.exists_right (List.mem_filter.mpr ⟨hrow, by simpa using hbefore⟩)
      exact .inr (List.mem_map.mpr ⟨row', hrow', (hrel m.key L.key).symm⟩)
  simpa using hmem

/-- A table that misses nothing is left as it is. -/
theorem Restored.unchanged {before after : Table D m} (h : Restored L source before after)
    (hmissing : source.missing before = []) : after = before := by
  obtain ⟨added, hrows, hsame⟩ := h
  rw [hmissing] at hsame
  cases hsame
  apply Table.ext
  rw [hrows, List.append_nil]

/-- An empty table is restored to all the rows of the source. -/
theorem Restored.export {after : Table D m} (h : Restored L source .empty after) :
    L.exportTable after = L.exportTable source := by
  obtain ⟨added, hrows, hsame⟩ := h
  have hall : source.missing .empty = source.rows := by
    apply List.filter_eq_self.mpr
    intro row _
    simp [Table.ids, Table.empty]
  rw [hall] at hsame
  have hexported : source.rows.map L.exportRow = added.map L.exportRow :=
    hsame.map_eq_map fun row row' hrel => hrel.exportRow
  have hobjects := congrArg (List.map (JsonTree.obj : Dict Str Json → Json)) hexported
  rw [List.map_map, List.map_map] at hobjects
  unfold Listing.exportTable
  rw [hrows]
  exact congrArg JsonTree.arr hobjects.symm

/-- A flush adds one row. -/
theorem Table.insert_extends {data : Dict Str Json} {after : Table D m} (h : table.insert data = .ok after) :
    ∃ row, after.rows = table.rows ++ [row] := by
  unfold Table.insert at h
  split at h
  case h_1 => cases h
  case h_2 values _ =>
    dsimp only at h
    split at h
    case isTrue => cases h
    case isFalse =>
      cases h
      exact ⟨_, rfl⟩

/-- The import of one table leaves every row as it is, whatever was uploaded. -/
theorem importTable_extends {rows : List (Dict Str Json)} {after : Table D m} {count : Nat}
    (h : importTable rows table = .ok (after, count)) :
    ∃ added, after.rows = table.rows ++ added ∧ added.length = count := by
  unfold importTable at h
  obtain ⟨existing, _, h⟩ := Except.bind_ok_iff.mp h
  obtain ⟨new, _, h⟩ := Except.bind_ok_iff.mp h
  obtain ⟨after', hall, h⟩ := Except.bind_ok_iff.mp h
  cases h
  clear * - hall
  induction new generalizing table with
  | nil =>
    cases hall
    exact ⟨[], by simp, rfl⟩
  | cons data new ih =>
    rw [List.foldlM_cons] at hall
    obtain ⟨next, hinsert, hall⟩ := Except.bind_ok_iff.mp hall
    obtain ⟨row, hrow⟩ := Table.insert_extends hinsert
    obtain ⟨added, hrows, hlength⟩ := ih hall
    refine ⟨row :: added, ?_, ?_⟩
    · rw [hrows, hrow, List.append_assoc, List.singleton_append]
    · rw [List.length_cons, hlength, List.length_cons]

end

/-! ## The three tables -/

section
variable {source before after : DeviceDb D}

/-- The lookups of an import of these rows are answered. -/
structure DeviceDb.Answered (source : DeviceDb D) : Prop where
  patterns : D.query source.patterns.ids = .ok ()
  templates : D.query source.templates.ids = .ok ()
  mappings : D.query source.mappings.ids = .ok ()

/-- `Restored`, for the tables of a device. -/
structure DeviceDb.Restored (source before after : DeviceDb D) : Prop where
  patterns : Backup.Restored patternListing source.patterns before.patterns after.patterns
  templates : Backup.Restored templateListing source.templates before.templates after.templates
  mappings : Backup.Restored mappingListing source.mappings before.mappings after.mappings

theorem importAll_exported (hD : D.Lawful) (deviceId now : Str) (source before : DeviceDb D) (h : source.Answered) :
    ∃ after, importDevicePatterns (exportDevicePatterns deviceId now source) before =
        (after, .ok (source.patterns.missing before.patterns).length) ∧ source.Restored before after := by
  obtain ⟨patterns, hpatterns, hp⟩ :=
    importTable_exported hD (by simp [models]) patternListing source.patterns before.patterns h.patterns
  obtain ⟨templates, htemplates, ht⟩ :=
    importTable_exported hD (by simp [models]) templateListing source.templates before.templates h.templates
  obtain ⟨mappings, hmappings, hm⟩ :=
    importTable_exported hD (by simp [models]) mappingListing source.mappings before.mappings h.mappings
  have hall : importAll (exportDevicePatterns deviceId now source) before =
      .ok ({ patterns, templates, mappings }, (source.patterns.missing before.patterns).length) := by
    unfold importAll
    rw [show Dict.get? (exportDevicePatterns deviceId now source) "patterns" =
      some (patternListing.exportTable source.patterns) from rfl, hpatterns, Except.ok_bind]
    rw [show Dict.get? (exportDevicePatterns deviceId now source) "templates" =
      some (templateListing.exportTable source.templates) from rfl, htemplates, Except.ok_bind]
    rw [show Dict.get? (exportDevicePatterns deviceId now source) "field_mappings" =
      some (mappingListing.exportTable source.mappings) from rfl, hmappings, Except.ok_bind]
  refine ⟨{ patterns, templates, mappings }, ?_, hp, ht, hm⟩
  unfold importDevicePatterns
  rw [hall]

end

/-! ## A driver -/

/-- A driver that stores a value as it is, where the type of the column has it. -/
def plainDriver : Driver Nat where
  bind
    | .string,  .str s   => .ok (.str s)
    | .integer, .int n   => if -2 ^ 63 ≤ n ∧ n < 2 ^ 63 then .ok (.int n) else .error .other
    | .float,   .float x => if isNaN x then .error .other else .ok (.float x)
    | .json,    v        => .ok v
    | _,        _        => .error .other
  query _ := .ok ()
  server rows := rows.length + 1

theorem plainDriver_bind {type : ColumnType} {v w : Json} (h : plainDriver.bind type v = .ok w) : w = v := by
  simp only [plainDriver] at h
  split at h <;> first | (split at h <;> cases h <;> rfl) | (cases h <;> rfl)

theorem plainDriver_lawful : plainDriver.Lawful where
  bind_bind h := by
    obtain rfl := plainDriver_bind h
    exact h
  bind_ne_null hne h := by
    obtain rfl := plainDriver_bind h
    rintro rfl
    revert hne h
    rename ColumnType => type
    cases type <;> simp [plainDriver]
  bind_null := rfl
  bind_string := by
    intro v w h
    obtain rfl := plainDriver_bind h
    cases w with
    | str s => exact ⟨s, rfl⟩
    | _ => cases h
  bind_default := by decide +kernel

/-- What a pump has learned: a formula and an enum. -/
def pumpDocument : Dict Str Json :=
  [("patterns", .arr [.obj [("pattern_id", .str "pat_1"), ("method", .str "POST"), ("path_pattern", .str "/mode"),
      ("protocol", .str "http"), ("intent", .str "set_mode")]]),
   ("templates", .arr [.obj [("template_id", .str "tpl_1"), ("pattern_id", .str "pat_1"), ("status_code", .int 200)]]),
   ("field_mappings", .arr [.obj [("mapping_id", .str "map_1"), ("request_field", .str "rpm"), ("request_type", .str "int"),
      ("response_field", .str "hz"), ("response_type", .str "float"), ("intent", .str "set_mode"),
      ("formula", .str "rpm / 60"), ("enum_values", .obj [("off", .int 0)])]])]

def pump : DeviceDb plainDriver := (importDevicePatterns pumpDocument .empty).1

end RideTheApi.Backup
