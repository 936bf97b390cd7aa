import RideTheApi.Pipeline.LearnedRows
import RideTheApi.Pipeline.PatternSync

/-!
# `Pipeline.Revision` — saving a list of patterns again, and saving a revision of it

What a save leaves is read off by looking its ids up (`Learned`): the last pattern listed under an id has
the row of the id, the last answered one its template, and the first field mapping of an id that is not
stored yet a row of its own. So a list that is saved twice changes nothing the second time, but patterns
that derive one id share a row, and what a revision says of a stored field mapping, or no longer says at
all, is not taken up.
-/

namespace RideTheApi.SavePatterns

open Py PatternDb KeyedTable

/-! ## What a list says -/

/-- The patterns of a list with their ids. -/
def listedItems (H : Host) (deviceId : Str) (patterns : List (Dict Str Json)) : List Prepared :=
  match patterns.mapM (prepare H deviceId) with
  | .ok items => items
  | .error _  => []

/-- The pattern that is listed last under an id. -/
def lastListed (items : List Prepared) (id : Str) : Option Prepared := row? (·.patternId) id items.reverse

/-- The field mapping that is listed first under an id, with its intent. -/
def firstReplied (items : List Prepared) (id : Str) : Option (Str × PreparedMapping) :=
  row? (·.2.mappingId) id (repliedMappings items)

/-- Two patterns of one request. -/
def SameRequest (item other : Prepared) : Prop := item.method = other.method ∧ item.path = other.path

/-- A pattern whose request no other one has. -/
def Lone (items : List Prepared) (item : Prepared) : Prop := ∀ other ∈ items, SameRequest other item → other = item

/-- A text column stores the text it is given. -/
structure Host.Lawful (H : Host) : Prop where
  text : ∀ s s', H.bindText (.str s) = .ok s' → s' = s

/-! ## What a save leaves -/

/-- What a save leaves under every id. -/
structure Learned (H : Host) (items : List Prepared) (db db' : LearnedDb) : Prop where
  listed : ∀ id item, lastListed items id = some item →
    ∃ row, bindPatternRow H item = .ok row ∧ row? (·.patternId) id db'.patterns = some row
  answered : ∀ id item, lastListed (answered items) id = some item →
    ∃ row, bindTemplateRow H item = .ok row ∧ row? (·.templateId) (templateId id) db'.templates =
      some (row.keepPattern ((row? (·.templateId) (templateId id) db.templates).getD row))
  unanswered : ∀ id, lastListed (SavePatterns.answered items) id = none →
    row? (·.templateId) (templateId id) db'.templates = row? (·.templateId) (templateId id) db.templates
  stored : ∀ id row, row? (·.mappingId) id db.mappings = some row → row? (·.mappingId) id db'.mappings = some row
  added : ∀ id m, row? (·.mappingId) id db.mappings = none → firstReplied items id = some m →
    ∃ row, bindMappingRow H m = .ok row ∧ row? (·.mappingId) id db'.mappings = some row
  absent : ∀ id, row? (·.mappingId) id db.mappings = none → firstReplied items id = none →
    row? (·.mappingId) id db'.mappings = none

section
variable {H : Host} {deviceId : Str} {db db' : LearnedDb} {items : List Prepared}

theorem bindPatternRow_ids (hlawful : H.Lawful) {item : Prepared} {row : PatternRow}
    (h : bindPatternRow H item = .ok row) :
    row.patternId = item.patternId ∧ row.method = item.method ∧ row.pathPattern = item.path := by
  unfold bindPatternRow bindPattern at h
  obtain ⟨_, hrow, h⟩ := Except.bind_ok_iff.mp h
  obtain ⟨_, _, h⟩ := Except.bind_ok_iff.mp h
  obtain ⟨_, hid, hrow⟩ := Except.bind_ok_iff.mp hrow
  obtain ⟨_, hmethod, hrow⟩ := Except.bind_ok_iff.mp hrow
  obtain ⟨_, hpath, hrow⟩ := Except.bind_ok_iff.mp hrow
  obtain ⟨_, _, hrow⟩ := Except.bind_ok_iff.mp hrow
  obtain ⟨_, _, hrow⟩ := Except.bind_ok_iff.mp hrow
  cases hrow
  cases h
  exact ⟨hlawful.text _ _ hid, hlawful.text _ _ hmethod, hlawful.text _ _ hpath⟩

theorem bindTemplateRow_ids (hlawful : H.Lawful) {item : Prepared} {row : TemplateRow}
    (h : bindTemplateRow H item = .ok row) :
    row.templateId = templateId item.patternId ∧ row.patternId = item.patternId := by
  unfold bindTemplateRow bindTemplate at h
  obtain ⟨_, hrow, h⟩ := Except.bind_ok_iff.mp h
  obtain ⟨_, _, h⟩ := Except.bind_ok_iff.mp h
  obtain ⟨_, _, hrow⟩ := Except.bind_ok_iff.mp hrow
  obtain ⟨_, hid, hrow⟩ := Except.bind_ok_iff.mp hrow
  obtain ⟨_, hpattern, hrow⟩ := Except.bind_ok_iff.mp hrow
  cases hrow
  cases h
  exact ⟨hlawful.text _ _ hid, hlawful.text _ _ hpattern⟩

theorem bindMappingRow_ids (hlawful : H.Lawful) {m : Str × PreparedMapping} {row : MappingRow}
    (h : bindMappingRow H m = .ok row) : row.mappingId = m.2.mappingId ∧ row.intent = m.1 := by
  unfold bindMappingRow bindMapping at h
  obtain ⟨_, hrow, h⟩ := Except.bind_ok_iff.mp h
  obtain ⟨_, _, h⟩ := Except.bind_ok_iff.mp h
  obtain ⟨_, _, h⟩ := Except.bind_ok_iff.mp h
  obtain ⟨_, _, h⟩ := Except.bind_ok_iff.mp h
  obtain ⟨_, _, hrow⟩ := Except.bind_ok_iff.mp hrow
  obtain ⟨_, hid, hrow⟩ := Except.bind_ok_iff.mp hrow
  obtain ⟨_, _, hrow⟩ := Except.bind_ok_iff.mp hrow
  obtain ⟨_, _, hrow⟩ := Except.bind_ok_iff.mp hrow
  obtain ⟨_, _, hrow⟩ := Except.bind_ok_iff.mp hrow
  obtain ⟨_, _, hrow⟩ := Except.bind_ok_iff.mp hrow
  obtain ⟨_, _, hrow⟩ := Except.bind_ok_iff.mp hrow
  obtain ⟨_, _, hrow⟩ := Except.bind_ok_iff.mp hrow
  obtain ⟨_, hintent, hrow⟩ := Except.bind_ok_iff.mp hrow
  cases hrow
  cases h
  exact ⟨hlawful.text _ _ hid, hlawful.text _ _ hintent⟩

/-- The ids that are written are distinct. -/
theorem nodup_written (items : List Prepared) : ((written items).map (·.patternId)).Nodup :=
  nodup_foldl_upsert (fun _ _ _ => rfl) (fun _ => rfl) List.nodup_nil

/-- What is written under an id is listed last under it. -/
theorem row?_written (items : List Prepared) (id : Str) : row? (·.patternId) id (written items) = lastListed items id := by
  unfold written lastListed
  rw [row?_foldl_replace, row?_nil, Option.or_none]

/-- The new field mapping of an id: the first one listed, unless the id is known. -/
theorem row?_newMappings (known : List Str) (ms : List (Str × PreparedMapping)) (id : Str) :
    row? (·.2.mappingId) id (newMappings known ms) =
      if id ∈ known then none else row? (·.2.mappingId) id ms := by
  induction ms generalizing known with
  | nil =>
    rw [newMappings, row?_nil]
    split <;> rfl
  | cons m ms ih =>
    rw [newMappings, row?_cons]
    by_cases hm : m.2.mappingId ∈ known
    · rw [if_pos hm, ih]
      by_cases hid : id ∈ known
      · rw [if_pos hid, if_pos hid]
      · have hne : m.2.mappingId ≠ id := fun heq => hid (heq ▸ hm)
        rw [if_neg hid, if_neg hid, if_neg hne]
    · rw [if_neg hm, row?_cons, ih]
      by_cases heq : m.2.mappingId = id
      · subst heq
        rw [if_pos rfl, if_neg hm, if_pos rfl]
      · have hknown : id ∈ m.2.mappingId :: known ↔ id ∈ known := by
          rw [List.mem_cons]
          exact or_iff_right (Ne.symm heq)
        rw [if_neg heq, if_neg heq]
        simp only [hknown]

/-- A mapping of a list is no new one once its id is known. -/
theorem newMappings_of_known {known : List Str} {ms : List (Str × PreparedMapping)}
    (h : ∀ m ∈ ms, m.2.mappingId ∈ known) : newMappings known ms = [] := by
  induction ms with
  | nil => rfl
  | cons m ms ih =>
    rw [newMappings, if_pos (h m List.mem_cons_self)]
    exact ih fun m' hm' => h m' (List.mem_cons_of_mem _ hm')

theorem templateId_injective {id id' : Str} (h : templateId id = templateId id') : id = id' :=
  List.append_cancel_left h

/-- The rows bound of the patterns that are written, by id. -/
theorem row?_boundRows (hlawful : H.Lawful) {rows : List PatternRow}
    (hrows : (written items).mapM (bindPatternRow H) = .ok rows) (id : Str) :
    Option.Rel (fun item row => bindPatternRow H item = .ok row) (lastListed items id)
        (row? (·.patternId) id rows) ∧ (rows.map (·.patternId)).Nodup := by
  have hbound := Except.forall₂_of_mapM hrows
  constructor
  · rw [← row?_written]
    refine hbound.find?_rel fun item row hrow => decide_eq_decide.mpr ?_
    show item.patternId = id ↔ row.patternId = id
    rw [(bindPatternRow_ids hlawful hrow).1]
  · rw [← hbound.map_eq_map (f := (·.patternId)) fun item row hrow => (bindPatternRow_ids hlawful hrow).1.symm]
    exact nodup_written items

/-- The templates bound of the answered patterns that are written, by the id of the pattern. -/
theorem row?_boundTemplates (hlawful : H.Lawful) {templates : List TemplateRow}
    (htemplates : (written (answered items)).mapM (bindTemplateRow H) = .ok templates) (id : Str) :
    Option.Rel (fun item row => bindTemplateRow H item = .ok row) (lastListed (answered items) id)
        (row? (·.templateId) (templateId id) templates) ∧ (templates.map (·.templateId)).Nodup := by
  have hbound := Except.forall₂_of_mapM htemplates
  constructor
  · rw [← row?_written]
    refine hbound.find?_rel fun item row hrow => decide_eq_decide.mpr ?_
    show item.patternId = id ↔ row.templateId = templateId id
    rw [(bindTemplateRow_ids hlawful hrow).1]
    exact ⟨congrArg templateId, templateId_injective⟩
  · have hids : templates.map (·.templateId) = ((written (answered items)).map (·.patternId)).map templateId := by
      rw [List.map_map]
      refine (hbound.map_eq_map fun item row hrow => ?_).symm
      exact (bindTemplateRow_ids hlawful hrow).1.symm
    rw [hids]
    exact (nodup_written (answered items)).map fun _ _ => templateId_injective

/-- The new field mappings that are bound, by id. -/
theorem row?_boundMappings (hlawful : H.Lawful) {known : List Str} {mappings : List MappingRow}
    (hmappings : (newMappings known (repliedMappings items)).mapM (bindMappingRow H) = .ok mappings) (id : Str) :
    Option.Rel (fun m row => bindMappingRow H m = .ok row)
      (if id ∈ known then none else firstReplied items id) (row? (·.mappingId) id mappings) := by
  rw [firstReplied, ← row?_newMappings]
  refine (Except.forall₂_of_mapM hmappings).find?_rel fun m row hrow => decide_eq_decide.mpr ?_
  show m.2.mappingId = id ↔ row.mappingId = id
  rw [(bindMappingRow_ids hlawful hrow).1]

/-- The steps of a save that goes through. -/
theorem learnRows_steps {patterns : List (Dict Str Json)} (hne : patterns ≠ [])
    (h : learnRows H deviceId patterns db = .ok db') :
    ∃ checks numbers mappings templates rows, patterns.mapM (prepare H deviceId) = .ok (listedItems H deviceId patterns) ∧
      (lookups (listedItems H deviceId patterns)).mapM H.query = .ok checks ∧
      (listedItems H deviceId patterns).mapM (checkNumbers H) = .ok numbers ∧
      (newMappings (db.mappings.map (·.mappingId)) (repliedMappings (listedItems H deviceId patterns))).mapM
        (bindMappingRow H) = .ok mappings ∧
      (written (answered (listedItems H deviceId patterns))).mapM (bindTemplateRow H) = .ok templates ∧
      (written (listedItems H deviceId patterns)).mapM (bindPatternRow H) = .ok rows ∧
      db' = storeLearned rows templates mappings db := by
  unfold learnRows at h
  rw [if_neg (by simpa using hne)] at h
  obtain ⟨items, hitems, h⟩ := Except.bind_ok_iff.mp h
  have hlisted : listedItems H deviceId patterns = items := by
    unfold listedItems
    rw [hitems]
  obtain ⟨checks, hchecks, h⟩ := Except.bind_ok_iff.mp h
  obtain ⟨numbers, hnumbers, h⟩ := Except.bind_ok_iff.mp h
  obtain ⟨mappings, hmappings, h⟩ := Except.bind_ok_iff.mp h
  obtain ⟨templates, htemplates, h⟩ := Except.bind_ok_iff.mp h
  obtain ⟨rows, hrows, h⟩ := Except.bind_ok_iff.mp h
  cases h
  rw [hlisted]
  exact ⟨checks, numbers, mappings, templates, rows, hitems, hchecks, hnumbers, hmappings, htemplates, hrows, rfl⟩

/-- A template keeps the pattern of the row that was stored under its id. -/
theorem row?_storeLearned_templates {templates : List TemplateRow} (hnodup : (templates.map (·.templateId)).Nodup)
    (rows : List PatternRow) (mappings : List MappingRow) (db : LearnedDb) (id : Str) :
    row? (·.templateId) id (storeLearned rows templates mappings db).templates =
      (row? (·.templateId) id templates).elim (row? (·.templateId) id db.templates)
        fun row => some (row.keepPattern ((row? (·.templateId) id db.templates).getD row)) := by
  have hkeep : ∀ row old : TemplateRow, old.templateId = row.templateId →
      (row.keepPattern old).templateId = row.templateId := fun _ _ _ => rfl
  unfold storeLearned
  exact row?_foldl_upsert hkeep (fun _ => rfl) hnodup id

/-- **What a save leaves, id by id.** -/
theorem learnRows_spec (hlawful : H.Lawful) {patterns : List (Dict Str Json)}
    (h : learnRows H deviceId patterns db = .ok db') : Learned H (listedItems H deviceId patterns) db db' := by
  by_cases hne : patterns = []
  · subst hne
    cases h
    exact ⟨nofun, nofun, fun _ _ => rfl, fun _ _ h => h, nofun, fun _ h _ => h⟩
  · obtain ⟨_, _, mappings, templates, rows, _, _, _, hmappings, htemplates, hrows, rfl⟩ := learnRows_steps hne h
    generalize listedItems H deviceId patterns = items at hmappings htemplates hrows ⊢
    have hmappingRow : ∀ id, row? (·.mappingId) id (storeLearned rows templates mappings db).mappings =
        (row? (·.mappingId) id db.mappings).or (row? (·.mappingId) id mappings) := fun id => row?_append id _ _
    have htemplateRow : ∀ id, row? (·.templateId) (templateId id) (storeLearned rows templates mappings db).templates =
        (row? (·.templateId) (templateId id) templates).elim (row? (·.templateId) (templateId id) db.templates)
          fun row => some (row.keepPattern ((row? (·.templateId) (templateId id) db.templates).getD row)) :=
      fun id => row?_storeLearned_templates (row?_boundTemplates hlawful htemplates id).2 rows mappings db (templateId id)
    have hknown : ∀ id, row? (·.mappingId) id db.mappings = none → id ∉ db.mappings.map (·.mappingId) :=
      fun id => row?_eq_none_iff.mp
    refine ⟨fun id item hitem => ?_, fun id item hitem => ?_, fun id hnone => ?_, fun id row hrow => ?_,
      fun id m hnone hm => ?_, fun id hnone hm => ?_⟩
    · -- a listed pattern replaces the row of its id
      obtain ⟨hrel, hnodup⟩ := row?_boundRows hlawful hrows id
      rw [hitem] at hrel
      cases hrow : row? (·.patternId) id rows with
      | none =>
        rw [hrow] at hrel
        cases hrel
      | some row =>
        rw [hrow] at hrel
        cases hrel with
        | some hbound =>
          refine ⟨row, hbound, ?_⟩
          show row? (·.patternId) id (rows.foldl _ db.patterns) = some row
          rw [row?_foldl_replace, row?_reverse hnodup, hrow]
          rfl
    · -- an answered one is upserted, and the stored pattern id stays
      have hrel := (row?_boundTemplates hlawful htemplates id).1
      rw [hitem] at hrel
      rw [htemplateRow]
      cases hrow : row? (·.templateId) (templateId id) templates with
      | none =>
        rw [hrow] at hrel
        cases hrel
      | some row =>
        rw [hrow] at hrel
        cases hrel with
        | some hbound => exact ⟨row, hbound, rfl⟩
    · have hrel := (row?_boundTemplates hlawful htemplates id).1
      rw [hnone] at hrel
      rw [htemplateRow]
      cases hrow : row? (·.templateId) (templateId id) templates with
      | none => rfl
      | some row =>
        rw [hrow] at hrel
        cases hrel
    · rw [hmappingRow, hrow]
      rfl
    · -- an unknown id takes the first mapping listed under it
      have hrel := row?_boundMappings hlawful hmappings id
      rw [if_neg (hknown id hnone), hm] at hrel
      rw [hmappingRow, hnone]
      cases hrow : row? (·.mappingId) id mappings with
      | none =>
        rw [hrow] at hrel
        cases hrel
      | some row =>
        rw [hrow] at hrel
        cases hrel with
        | some hbound => exact ⟨row, hbound, rfl⟩
    · have hrel := row?_boundMappings hlawful hmappings id
      rw [if_neg (hknown id hnone), hm] at hrel
      rw [hmappingRow, hnone]
      cases hrow : row? (·.mappingId) id mappings with
      | none => rfl
      | some row =>
        rw [hrow] at hrel
        cases hrel

end

/-! ## A list and its revision -/

/-- A listed pattern has a row, a template and field mappings of its own. -/
structure HasOwn (H : Host) (items : List Prepared) (db : LearnedDb) (item : Prepared) : Prop where
  row : ∃ row, row? (·.patternId) item.patternId db.patterns = some row ∧
    row.method = item.method ∧ row.pathPattern = item.path
  template : item.respData ≠ [] → ∃ row, bindTemplateRow H item = .ok row ∧
    row? (·.templateId) (templateId item.patternId) db.templates = some row
  mappings : ∀ m ∈ item.mappings, ∃ row, bindMappingRow H (item.intent, m) = .ok row ∧
    row? (·.mappingId) m.mappingId db.mappings = some row
  unshared : ∀ other ∈ items, ¬ SameRequest other item →
    ∀ m ∈ item.mappings, ∀ m' ∈ other.mappings, m'.mappingId ≠ m.mappingId

/-- Two databases hold the same of the listed patterns: their rows, their templates, the field mappings they
    list and those of their intents. -/
structure SameOf (items : List Prepared) (db db' : LearnedDb) : Prop where
  patterns : ∀ item ∈ items,
    row? (·.patternId) item.patternId db.patterns = row? (·.patternId) item.patternId db'.patterns
  templates : ∀ item ∈ items, row? (·.templateId) (templateId item.patternId) db.templates =
    row? (·.templateId) (templateId item.patternId) db'.templates
  mappings : ∀ item ∈ items, ∀ m ∈ item.mappings,
    row? (·.mappingId) m.mappingId db.mappings = row? (·.mappingId) m.mappingId db'.mappings
  intents : ∀ item ∈ items, ∀ id (row : MappingRow), row.intent = item.intent →
    (row? (·.mappingId) id db.mappings = some row ↔ row? (·.mappingId) id db'.mappings = some row)

/-- What a list leaves (`saved`), and its revision after it (`revised`) or without it (`only`): each listed
    pattern has its own rows, the list saved again changes nothing, and the revision replaces it. -/
structure Revises (H : Host) (deviceId : Str) (patterns revision : List (Dict Str Json))
    (saved revised only : LearnedDb) : Prop where
  own : ∀ item ∈ listedItems H deviceId patterns, Lone (listedItems H deviceId patterns) item →
    HasOwn H (listedItems H deviceId patterns) saved item
  again : learnRows H deviceId patterns saved = .ok saved
  replaced : SameOf (listedItems H deviceId revision) revised only

/-- A listed pattern meets no other under its ids, in the list and in the database. -/
structure Apart (H : Host) (items : List Prepared) (db : LearnedDb) (item : Prepared) : Prop where
  listed : lastListed items item.patternId = some item
  template : item.respData ≠ [] → ∀ row,
    row? (·.templateId) (templateId item.patternId) db.templates = some row → row.patternId = item.patternId
  stored : ∀ m ∈ item.mappings, ∀ row, row? (·.mappingId) m.mappingId db.mappings = some row →
    bindMappingRow H (item.intent, m) = .ok row
  first : ∀ m ∈ item.mappings, row? (·.mappingId) m.mappingId db.mappings = none →
    ∀ m₀, firstReplied items m.mappingId = some m₀ → bindMappingRow H (item.intent, m) = bindMappingRow H m₀
  unshared : ∀ other ∈ items, ¬ SameRequest other item →
    ∀ m ∈ item.mappings, ∀ m' ∈ other.mappings, m'.mappingId ≠ m.mappingId

/-- A revision lists again what the list before it added: it answers the patterns that were answered, and says
    the same of every field mapping that was new, as far as its ids and its intents reach. -/
structure Carries (H : Host) (items revision : List Prepared) (db : LearnedDb) : Prop where
  templates : ∀ item ∈ revision, lastListed (answered revision) item.patternId = none →
    ∀ before, lastListed (answered items) item.patternId = some before →
      ∃ row old, bindTemplateRow H before = .ok row ∧
        row? (·.templateId) (templateId item.patternId) db.templates = some old ∧ row.keepPattern old = old
  mappings : ∀ id m, row? (·.mappingId) id db.mappings = none → firstReplied items id = some m →
    (∃ item ∈ revision, item.intent = m.1 ∨ ∃ m' ∈ item.mappings, m'.mappingId = id) →
      ∃ m', firstReplied revision id = some m' ∧ bindMappingRow H m' = bindMappingRow H m

section
variable {H : Host} {deviceId : Str} {db saved revised only : LearnedDb} {items revision : List Prepared}
  {item : Prepared}

/-! ## Own rows -/

theorem mem_of_lastListed {id : Str} (h : lastListed items id = some item) : item ∈ items :=
  List.mem_reverse.mp (mem_of_row? h)

/-- Some pattern is listed last under the id of a listed one. -/
theorem exists_lastListed (hitem : item ∈ items) : ∃ last, lastListed items item.patternId = some last := by
  refine Option.ne_none_iff_exists'.mp fun hnone => ?_
  exact row?_eq_none_iff.mp hnone (List.mem_map_of_mem (List.mem_reverse.mpr hitem))

/-- Some field mapping is listed first under the id of a listed one. -/
theorem exists_firstReplied (hitem : item ∈ items) {m : PreparedMapping} (hm : m ∈ item.mappings) :
    ∃ first, firstReplied items m.mappingId = some first := by
  have hreplied : (item.intent, m) ∈ repliedMappings items :=
    List.mem_flatMap.mpr ⟨item, hitem, List.mem_map_of_mem hm⟩
  refine Option.ne_none_iff_exists'.mp fun hnone => ?_
  exact row?_eq_none_iff.mp hnone (List.mem_map.mpr ⟨(item.intent, m), hreplied, rfl⟩)

theorem firstReplied_id {id : Str} {m : Str × PreparedMapping} (h : firstReplied items id = some m) :
    m.2.mappingId = id := by
  have hkey := key_of_row? h
  exact hkey

/-- The pattern listed last under an id is the last answered one, when it is answered. -/
theorem lastListed_answered {id : Str} (h : lastListed items id = some item) (hresp : item.respData ≠ []) :
    lastListed (answered items) id = some item := by
  unfold lastListed answered
  rw [← List.filter_reverse]
  exact row?_filter h (by simpa using hresp)

/-- **A listed pattern whose request no other has gets rows of its own iff it meets no other under its ids.** -/
theorem hasOwn_iff (hlawful : H.Lawful) (h : Learned H items db saved) (hitem : item ∈ items)
    (hlone : Lone items item) : HasOwn H items saved item ↔ Apart H items db item := by
  constructor
  · intro hown
    have hlisted : lastListed items item.patternId = some item := by
      obtain ⟨last, hlast⟩ := exists_lastListed hitem
      obtain ⟨row, hbound, hrow⟩ := h.listed _ last hlast
      obtain ⟨row', hrow', hmethod, hpath⟩ := hown.row
      obtain ⟨_, hmethodBound, hpathBound⟩ := bindPatternRow_ids hlawful hbound
      cases hrow.symm.trans hrow'
      have hsame : SameRequest last item := ⟨hmethodBound.symm.trans hmethod, hpathBound.symm.trans hpath⟩
      rw [hlast, hlone last (mem_of_lastListed hlast) hsame]
    refine ⟨hlisted, fun hresp old hold => ?_, fun m hm row hrow => ?_, fun m hm hnone m₀ hm₀ => ?_, hown.unshared⟩
    · obtain ⟨row, hbound, hrow⟩ := h.answered _ item (lastListed_answered hlisted hresp)
      obtain ⟨row', hbound', hrow'⟩ := hown.template hresp
      cases hbound.symm.trans hbound'
      rw [hold, hrow'] at hrow
      have hkept := congrArg (·.patternId) (Option.some.inj hrow)
      exact hkept.symm.trans (bindTemplateRow_ids hlawful hbound).2
    · obtain ⟨row', hbound, hrow'⟩ := hown.mappings m hm
      cases (h.stored _ row hrow).symm.trans hrow'
      exact hbound
    · obtain ⟨row', hbound, hrow'⟩ := hown.mappings m hm
      obtain ⟨row, hbound₀, hrow⟩ := h.added _ m₀ hnone hm₀
      cases hrow.symm.trans hrow'
      exact hbound.trans hbound₀.symm
  · intro hapart
    refine ⟨?_, fun hresp => ?_, fun m hm => ?_, hapart.unshared⟩
    · obtain ⟨row, hbound, hrow⟩ := h.listed _ item hapart.listed
      obtain ⟨_, hmethod, hpath⟩ := bindPatternRow_ids hlawful hbound
      exact ⟨row, hrow, hmethod, hpath⟩
    · obtain ⟨row, hbound, hrow⟩ := h.answered _ item (lastListed_answered hapart.listed hresp)
      refine ⟨row, hbound, hrow.trans (congrArg some ?_)⟩
      have hpattern : ((row? (·.templateId) (templateId item.patternId) db.templates).getD row).patternId =
          row.patternId := by
        cases hold : row? (·.templateId) (templateId item.patternId) db.templates with
        | none => rfl
        | some old => exact (hapart.template hresp old hold).trans (bindTemplateRow_ids hlawful hbound).2.symm
      unfold TemplateRow.keepPattern
      rw [hpattern]
    · cases hstored : row? (·.mappingId) m.mappingId db.mappings with
      | some row => exact ⟨row, hapart.stored m hm row hstored, h.stored _ row hstored⟩
      | none =>
        obtain ⟨m₀, hm₀⟩ := exists_firstReplied hitem hm
        obtain ⟨row, hbound, hrow⟩ := h.added _ m₀ hstored hm₀
        exact ⟨row, (hapart.first m hm hstored m₀ hm₀).trans hbound, hrow⟩

/-! ## The same list again -/

/-- **Rows that are stored already change nothing**, once the counters are there. -/
theorem storeLearned_stored {rows : List PatternRow} {templates : List TemplateRow} {counters : LearnedCounters}
    (hcounters : saved.counters = some counters)
    (hrows : ∀ row ∈ rows, row? (·.patternId) row.patternId saved.patterns = some row)
    (htemplates : ∀ row ∈ templates, ∃ old, row? (·.templateId) row.templateId saved.templates = some old ∧
      row.keepPattern old = old) : storeLearned rows templates [] saved = saved := by
  have hnoPattern : rows.filter (fun row => row.patternId ∉ saved.patterns.map (·.patternId)) = [] := by
    refine List.filter_eq_nil_iff.mpr fun row hrow => ?_
    have hmem := List.mem_map_of_mem (f := (·.patternId)) (mem_of_row? (hrows row hrow))
    simpa using hmem
  have hnoTemplate : templates.filter (fun row => row.templateId ∉ saved.templates.map (·.templateId)) = [] := by
    refine List.filter_eq_nil_iff.mpr fun row hrow => ?_
    obtain ⟨old, hold, _⟩ := htemplates row hrow
    have hmem := List.mem_map_of_mem (f := (·.templateId)) (mem_of_row? hold)
    rw [key_of_row? hold] at hmem
    simpa using hmem
  have hpatterns : rows.foldl (fun rows row => upsert (·.patternId) row.patternId row (fun _ => row) rows)
      saved.patterns = saved.patterns :=
    foldl_upsert_of_row? fun row hrow => ⟨row, hrows row hrow, rfl⟩
  have hkept : templates.foldl (fun rows row => upsert (·.templateId) row.templateId row row.keepPattern rows)
      saved.templates = saved.templates :=
    foldl_upsert_of_row? htemplates
  unfold storeLearned
  rw [hpatterns, hkept, hnoPattern, hnoTemplate, List.append_nil, hcounters]
  show LearnedDb.mk saved.patterns saved.templates saved.mappings (some counters) = saved
  rw [← hcounters]

/-- **A list that was saved changes nothing when it is saved again.** -/
theorem learnRows_again (hlawful : H.Lawful) {patterns : List (Dict Str Json)}
    (h : learnRows H deviceId patterns db = .ok saved) : learnRows H deviceId patterns saved = .ok saved := by
  by_cases hne : patterns = []
  · subst hne
    rfl
  · have hspec := learnRows_spec hlawful h
    obtain ⟨checks, numbers, mappings, templates, rows, hitems, hchecks, hnumbers, _, htemplates, hrows, hsaved⟩ :=
      learnRows_steps hne h
    -- after the first save every id of the list is known, so nothing is new and every upsert keeps its row
    have hknown : newMappings (saved.mappings.map (·.mappingId)) (repliedMappings (listedItems H deviceId patterns)) =
        [] := by
      refine newMappings_of_known fun m hm => ?_
      by_contra hunknown
      obtain ⟨item, hitem, hm⟩ := List.mem_flatMap.mp hm
      obtain ⟨m, hmem, rfl⟩ := List.mem_map.mp hm
      obtain ⟨first, hfirst⟩ := exists_firstReplied hitem hmem
      have hnone := row?_eq_none_iff.mpr hunknown
      cases hstored : row? (·.mappingId) m.mappingId db.mappings with
      | some row => exact nomatch (hspec.stored _ row hstored).symm.trans hnone
      | none =>
        obtain ⟨row, _, hrow⟩ := hspec.added _ first hstored hfirst
        exact nomatch hrow.symm.trans hnone
    have hpatternRow : ∀ row ∈ rows, row? (·.patternId) row.patternId saved.patterns = some row := by
      intro row hrow
      obtain ⟨item, hitem, hbound⟩ := (Except.forall₂_of_mapM hrows).exists_left hrow
      have hlast : lastListed (listedItems H deviceId patterns) item.patternId = some item := by
        rw [← row?_written]
        exact row?_of_mem (nodup_written _) hitem
      obtain ⟨row', hbound', hrow'⟩ := hspec.listed _ item hlast
      cases hbound.symm.trans hbound'
      rw [(bindPatternRow_ids hlawful hbound).1]
      exact hrow'
    have htemplateRow : ∀ row ∈ templates, ∃ old, row? (·.templateId) row.templateId saved.templates = some old ∧
        row.keepPattern old = old := by
      intro row hrow
      obtain ⟨item, hitem, hbound⟩ := (Except.forall₂_of_mapM htemplates).exists_left hrow
      have hlast : lastListed (answered (listedItems H deviceId patterns)) item.patternId = some item := by
        rw [← row?_written]
        exact row?_of_mem (nodup_written _) hitem
      obtain ⟨row', hbound', hrow'⟩ := hspec.answered _ item hlast
      cases hbound.symm.trans hbound'
      rw [(bindTemplateRow_ids hlawful hbound).1]
      exact ⟨_, hrow', rfl⟩
    have hsame : storeLearned rows templates [] saved = saved := by
      have hcounters : ∃ counters, saved.counters = some counters := by
        rw [hsaved]
        exact ⟨_, rfl⟩
      obtain ⟨counters, hcounters⟩ := hcounters
      exact storeLearned_stored hcounters hpatternRow htemplateRow
    unfold learnRows
    rw [if_neg (by simpa using hne), hitems, Except.ok_bind, hchecks, Except.ok_bind, hnumbers, Except.ok_bind,
      hknown, htemplates, hrows]
    exact congrArg Except.ok hsame

/-! ## The revision -/

/-- A template keeps the pattern it was made for when the list before the revision is saved. -/
theorem keptPattern_saved (hlawful : H.Lawful) (h : Learned H items db saved) {row : TemplateRow}
    (hrow : row.patternId = item.patternId) :
    ((row? (·.templateId) (templateId item.patternId) saved.templates).getD row).patternId =
      ((row? (·.templateId) (templateId item.patternId) db.templates).getD row).patternId := by
  cases hlast : lastListed (answered items) item.patternId with
  | none => rw [h.unanswered _ hlast]
  | some before =>
    obtain ⟨rowBefore, hbound, hsaved⟩ := h.answered _ before hlast
    rw [hsaved]
    show ((row? (·.templateId) (templateId item.patternId) db.templates).getD rowBefore).patternId = _
    cases row? (·.templateId) (templateId item.patternId) db.templates with
    | some old => rfl
    | none =>
      have hid : before.patternId = item.patternId := key_of_row? hlast
      exact ((bindTemplateRow_ids hlawful hbound).2.trans hid).trans hrow.symm

/-- The template of a revised pattern is replaced, unless the revision leaves out one that was added. -/
theorem templates_replaced_iff (hlawful : H.Lawful) (h : Learned H items db saved)
    (hrevised : Learned H revision saved revised) (honly : Learned H revision db only) :
    row? (·.templateId) (templateId item.patternId) revised.templates =
        row? (·.templateId) (templateId item.patternId) only.templates ↔
      (lastListed (answered revision) item.patternId = none →
        ∀ before, lastListed (answered items) item.patternId = some before →
          ∃ row old, bindTemplateRow H before = .ok row ∧
            row? (·.templateId) (templateId item.patternId) db.templates = some old ∧ row.keepPattern old = old) := by
  cases hlast : lastListed (answered revision) item.patternId with
  | some last =>
    refine ⟨fun _ hnone => (nomatch hnone), fun _ => ?_⟩
    obtain ⟨row, hbound, hrow⟩ := hrevised.answered _ last hlast
    obtain ⟨row', hbound', hrow'⟩ := honly.answered _ last hlast
    cases hbound.symm.trans hbound'
    have hid : last.patternId = item.patternId := key_of_row? hlast
    rw [hrow, hrow']
    unfold TemplateRow.keepPattern
    rw [keptPattern_saved hlawful h ((bindTemplateRow_ids hlawful hbound).2.trans hid)]
  | none =>
    rw [hrevised.unanswered _ hlast, honly.unanswered _ hlast]
    constructor
    · intro hsame _ before hbefore
      obtain ⟨row, hbound, hrow⟩ := h.answered _ before hbefore
      rw [hrow] at hsame
      refine ⟨row, _, hbound, hsame.symm, ?_⟩
      rfl
    · intro hcarried
      cases hbefore : lastListed (answered items) item.patternId with
      | none => exact h.unanswered _ hbefore
      | some before =>
        obtain ⟨row, old, hbound, hold, hkept⟩ := hcarried rfl before hbefore
        obtain ⟨row', hbound', hrow⟩ := h.answered _ before hbefore
        cases hbound.symm.trans hbound'
        rw [hrow, hold, Option.getD_some, hkept]

/-- A field mapping that the list before did not add is what the revision alone leaves. -/
theorem mapping_same (h : Learned H items db saved) (hrevised : Learned H revision saved revised)
    (honly : Learned H revision db only) {id : Str}
    (hold : row? (·.mappingId) id db.mappings ≠ none ∨ firstReplied items id = none) :
    row? (·.mappingId) id revised.mappings = row? (·.mappingId) id only.mappings := by
  cases hstored : row? (·.mappingId) id db.mappings with
  | some row => rw [hrevised.stored _ row (h.stored _ row hstored), honly.stored _ row hstored]
  | none =>
    have hsaved := h.absent _ hstored (hold.resolve_left fun hne => hne hstored)
    cases hfirst : firstReplied revision id with
    | none => rw [hrevised.absent _ hsaved hfirst, honly.absent _ hstored hfirst]
    | some m =>
      obtain ⟨row, hbound, hrow⟩ := hrevised.added _ m hsaved hfirst
      obtain ⟨row', hbound', hrow'⟩ := honly.added _ m hstored hfirst
      cases hbound.symm.trans hbound'
      rw [hrow, hrow']

/-- **A revision replaces the list iff it lists again what the list added.** -/
theorem sameOf_iff (hlawful : H.Lawful) (h : Learned H items db saved) (hrevised : Learned H revision saved revised)
    (honly : Learned H revision db only) : SameOf revision revised only ↔ Carries H items revision db := by
  constructor
  · intro hsame
    refine ⟨fun item hitem => ?_, fun id m hnone hm hreach => ?_⟩
    · exact (templates_replaced_iff hlawful h hrevised honly).mp (hsame.templates item hitem)
    · obtain ⟨row, hbound, hsaved⟩ := h.added _ m hnone hm
      have hrow := hrevised.stored _ row hsaved
      -- the revision alone leaves the same row, so it has to add it
      have honlyRow : row? (·.mappingId) id only.mappings = some row := by
        obtain ⟨item, hitem, hintent | ⟨m', hm', hid⟩⟩ := hreach
        · exact (hsame.intents item hitem id row ((bindMappingRow_ids hlawful hbound).2.trans hintent.symm)).mp hrow
        · subst hid
          exact (hsame.mappings item hitem m' hm').symm.trans hrow
      cases hfirst : firstReplied revision id with
      | none => exact nomatch honlyRow.symm.trans (honly.absent _ hnone hfirst)
      | some m' =>
        obtain ⟨row', hbound', hrow'⟩ := honly.added _ m' hnone hfirst
        cases honlyRow.symm.trans hrow'
        exact ⟨m', rfl, hbound'.trans hbound.symm⟩
  · intro hcarries
    -- what the list added under an id the revision reaches, the revision adds as well
    have hadded : ∀ id m, row? (·.mappingId) id db.mappings = none → firstReplied items id = some m →
        (∃ item ∈ revision, item.intent = m.1 ∨ ∃ m' ∈ item.mappings, m'.mappingId = id) →
          row? (·.mappingId) id revised.mappings = row? (·.mappingId) id only.mappings := by
      intro id m hnone hm hreach
      obtain ⟨row, hbound, hsaved⟩ := h.added _ m hnone hm
      obtain ⟨m', hm', hsame⟩ := hcarries.mappings id m hnone hm hreach
      obtain ⟨row', hbound', hrow'⟩ := honly.added _ m' hnone hm'
      cases (hbound'.symm.trans hsame).trans hbound
      rw [hrevised.stored _ _ hsaved, hrow']
    refine ⟨fun item hitem => ?_, fun item hitem => ?_, fun item hitem m hm => ?_, fun item hitem id row hintent => ?_⟩
    · obtain ⟨last, hlast⟩ := exists_lastListed hitem
      obtain ⟨row, hbound, hrow⟩ := hrevised.listed _ last hlast
      obtain ⟨row', hbound', hrow'⟩ := honly.listed _ last hlast
      cases hbound.symm.trans hbound'
      rw [hrow, hrow']
    · exact (templates_replaced_iff hlawful h hrevised honly).mpr (hcarries.templates item hitem)
    · cases hstored : row? (·.mappingId) m.mappingId db.mappings with
      | some row =>
        exact mapping_same h hrevised honly (.inl (hstored ▸ Option.some_ne_none row))
      | none =>
        cases hfirst : firstReplied items m.mappingId with
        | none => exact mapping_same h hrevised honly (.inr hfirst)
        | some m₀ => exact hadded _ m₀ hstored hfirst ⟨item, hitem, .inr ⟨m, hm, rfl⟩⟩
    · cases hstored : row? (·.mappingId) id db.mappings with
      | some old =>
        rw [mapping_same h hrevised honly (.inl (hstored ▸ Option.some_ne_none old))]
      | none =>
        cases hfirst : firstReplied items id with
        | none => rw [mapping_same h hrevised honly (.inr hfirst)]
        | some m =>
          obtain ⟨rowAdded, hbound, hsaved⟩ := h.added _ m hstored hfirst
          have hrevisedRow := hrevised.stored _ rowAdded hsaved
          constructor
          · intro hrow
            cases hrow.symm.trans hrevisedRow
            have hreach : item.intent = m.1 := hintent.symm.trans (bindMappingRow_ids hlawful hbound).2
            rw [← hadded id m hstored hfirst ⟨item, hitem, .inl hreach⟩]
            exact hrow
          · intro hrow
            cases hlisted : firstReplied revision id with
            | none => exact nomatch hrow.symm.trans (honly.absent _ hstored hlisted)
            | some m' =>
              obtain ⟨other, hother, hm'⟩ := List.mem_flatMap.mp (mem_of_row? hlisted)
              obtain ⟨m'', hm'', rfl⟩ := List.mem_map.mp hm'
              rw [hadded id m hstored hfirst ⟨other, hother, .inr ⟨m'', hm'', firstReplied_id hlisted⟩⟩]
              exact hrow

/-- **A list that is saved leaves each pattern its own rows, changes nothing when it is saved again and is
    replaced by its revision iff** no pattern of another request meets it under its ids, the database holds
    nothing else under them, and the revision lists again what the list added. -/
theorem revises_iff (hlawful : H.Lawful) {patterns revisedPatterns : List (Dict Str Json)}
    (hsave : learnRows H deviceId patterns db = .ok saved)
    (hrevise : learnRows H deviceId revisedPatterns saved = .ok revised)
    (honly : learnRows H deviceId revisedPatterns db = .ok only) :
    Revises H deviceId patterns revisedPatterns saved revised only ↔
      (∀ item ∈ listedItems H deviceId patterns, Lone (listedItems H deviceId patterns) item →
        Apart H (listedItems H deviceId patterns) db item) ∧
      Carries H (listedItems H deviceId patterns) (listedItems H deviceId revisedPatterns) db := by
  have hspec := learnRows_spec hlawful hsave
  have hsame := sameOf_iff hlawful hspec (learnRows_spec hlawful hrevise) (learnRows_spec hlawful honly)
  constructor
  · intro h
    exact ⟨fun item hitem hlone => (hasOwn_iff hlawful hspec hitem hlone).mp (h.own item hitem hlone),
      hsame.mp h.replaced⟩
  · rintro ⟨hapart, hcarries⟩
    exact ⟨fun item hitem hlone => (hasOwn_iff hlawful hspec hitem hlone).mpr (hapart item hitem hlone),
      learnRows_again hlawful hsave, hsame.mpr hcarries⟩

end

/-- A lamp's pattern that maps the level to a field of the answer. -/
def lampPattern (target : Str) : Dict Str Json :=
  [("intent", .str "on"), ("path", .str "/lamp"),
    ("response", .obj [("status_code", .int 200), ("body", .obj [("power", .str "on")])]),
    ("field_mappings", .obj [("level", .str target)])]

theorem lampHost_lawful : PatternSync.lampHost.Lawful where
  text := fun _ _ h => by
    cases h
    rfl

/-- What saving a list leaves of a database. -/
def savedLamp (patterns : List (Dict Str Json)) (db : LearnedDb) : LearnedDb :=
  match learnRows PatternSync.lampHost "lamp" patterns db with
  | .ok saved => saved
  | .error _  => db

/-- A revision that moves the level elsewhere leaves it where it was. -/
theorem not_revises_movedLevel : ¬ ∀ (H : Host) (deviceId : Str) (patterns revisedPatterns : List (Dict Str Json))
    (db saved revised only : LearnedDb), H.Lawful → learnRows H deviceId patterns db = .ok saved →
      learnRows H deviceId revisedPatterns saved = .ok revised → learnRows H deviceId revisedPatterns db = .ok only →
        Revises H deviceId patterns revisedPatterns saved revised only := by
  intro h
  have hrevises := h PatternSync.lampHost "lamp" [lampPattern "result.level"] [lampPattern "result.brightness"] {}
    (savedLamp [lampPattern "result.level"] {})
    (savedLamp [lampPattern "result.brightness"] (savedLamp [lampPattern "result.level"] {}))
    (savedLamp [lampPattern "result.brightness"] {}) lampHost_lawful
    (by decide +kernel) (by decide +kernel) (by decide +kernel)
  have hitem := List.getElem_mem (l := listedItems PatternSync.lampHost "lamp" [lampPattern "result.brightness"])
    (n := 0) (by decide +kernel)
  have hsame := hrevises.replaced.mappings _ hitem _ (List.getElem_mem (n := 0) (by decide +kernel))
  revert hsame
  decide +kernel

/-- A revision that says the same of the level replaces the list. -/
theorem revises_sameLevel : Revises PatternSync.lampHost "lamp" [lampPattern "result.level"]
    [lampPattern "result.level"] (savedLamp [lampPattern "result.level"] {})
    (savedLamp [lampPattern "result.level"] (savedLamp [lampPattern "result.level"] {}))
    (savedLamp [lampPattern "result.level"] {}) := by
  have hsave : learnRows PatternSync.lampHost "lamp" [lampPattern "result.level"] {} =
      .ok (savedLamp [lampPattern "result.level"] {}) := by decide +kernel
  refine (revises_iff lampHost_lawful hsave (by decide +kernel) hsave).mpr ⟨fun item hitem hlone => ?_, ?_⟩
  · obtain ⟨lampItem, hlist, hmappings⟩ : ∃ lampItem : Prepared,
        listedItems PatternSync.lampHost "lamp" [lampPattern "result.level"] = [lampItem] ∧
          ∃ m, lampItem.mappings = [m] := ⟨_, rfl, _, rfl⟩
    obtain ⟨m, hm⟩ := hmappings
    rw [hlist] at hitem ⊢
    cases List.mem_singleton.mp hitem
    have hlisted : lastListed [item] item.patternId = some item := by
      unfold lastListed
      rw [List.reverse_singleton, row?_cons, if_pos rfl]
    refine ⟨hlisted, fun _ => nofun, fun _ _ => nofun, fun m' hm' _ m₀ hm₀ => ?_,
      fun other hother hne => ?_⟩
    · have hreplied : repliedMappings [item] = [(item.intent, m)] := by
        unfold repliedMappings
        rw [List.flatMap_singleton, hm]
        rfl
      rw [hm, List.mem_singleton] at hm'
      have hmem := mem_of_row? hm₀
      rw [hreplied, List.mem_singleton] at hmem
      rw [hmem, hm']
    · cases List.mem_singleton.mp hother
      exact absurd ⟨rfl, rfl⟩ hne
  · refine ⟨fun item _ hnone before hbefore => ?_, fun _ m _ hm _ => ⟨m, hm, rfl⟩⟩
    rw [hnone] at hbefore
    cases hbefore

end RideTheApi.SavePatterns
