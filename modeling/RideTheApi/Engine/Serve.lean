import RideTheApi.Engine.Response

/-!
# `Engine.Serve` — matching a request and answering it

A pattern document is applied by compiling its endpoints and indexing its responses by trigger. Serving
finds the best match, from the applied set or from the database, and builds the response of its template.
What building reads of a field mapping depends on its transform, so mappings are compared in canonical
form: a mapping that is neither an enum nor a formula is direct.
-/

namespace RideTheApi.Engine

open Py PatternDb

/-! ## Applying a document -/

/-- The compiled form of an endpoint. -/
def compileEndpoint (ep : ClientEndpoint) : CompiledEndpoint where
  endpoint := ep
  target :=
    { method := ep.method
      pathPattern := orStr ep.pathPattern ep.path
      requiredHeaders := ofStrList ((Dict.get? ep.headers (str "required")).getD [])
      bodySchema := .obj (ep.bodySchema.getD [])
      queryParamKeys := ofStrList ep.queryParams }
  protocol := ep.protocol
  intent := ep.intent

/-- Apply a document: what is served from memory from now on. -/
def applyPatternDb (doc : PatternDB) : CachedPatterns where
  compiled := doc.client.endpoints.map compileEndpoint
  triggerMap := responsesByTrigger doc.server.responses

/-! ## Serving -/

/-- The id of the selected pattern. -/
def MatchedPattern.patternId : MatchedPattern → Str
  | .endpoint ep => ep.id
  | .row pat     => pat.patternId

/-- The id of a template. -/
def Template.id : Template → Str
  | .response resp => resp.id
  | .row tmpl      => tmpl.templateId

/-- What a request gets: the selected pattern, its score and, if it has a template, the response with the
    device state after it. -/
structure Served where
  patternId : Option Str
  score : ℚ
  response : Option (LocalResponse × DeviceStateStore)
deriving Repr, DecidableEq

/-- The selection of a match. -/
def MatchResult.selection (r : MatchResult) : Option Str × ℚ := (r.pattern.map (·.patternId), r.score)

/-- Answer a match. -/
def answer (H : Host) (r : MatchResult) (request : Json) (store : DeviceStateStore) : Build Served :=
  match r.template with
  | none   => pure ⟨r.selection.1, r.selection.2, none⟩
  | some t => do
    let response ← buildLocalResponse H t.view request store
    pure ⟨r.selection.1, r.selection.2, some response⟩

/-- Match a request and answer it. -/
def serve (H : Host) (cached : Option CachedPatterns) (db : PatternTables) (call : MatchCall) (request : Json)
    (store : DeviceStateStore) : Build Served := do
  let r ← StateT.lift (findBestMatch cached db call)
  answer H r request store

/-! ## Canonical mappings -/

/-- A mapping without what its transform does not read. -/
def canonicalMapping (fm : FieldMapping) : FieldMapping :=
  if fm.transform = str "enum" then
    { source := fm.source, target := fm.target, transform := str "enum", mapping := some (fm.mapping.getD []) }
  else if fm.transform = str "formula" then
    { source := fm.source, target := fm.target, transform := str "formula", formula := fm.formula }
  else { source := fm.source, target := fm.target }

/-- A template with canonical mappings. -/
def TemplateView.canonical (t : TemplateView) : TemplateView :=
  { t with fieldMappings := t.fieldMappings.map canonicalMapping }

section
variable {H : Host} {request : Json} {store : DeviceStateStore}

theorem canonicalMapping_source (fm : FieldMapping) : (canonicalMapping fm).source = fm.source := by
  unfold canonicalMapping
  split
  · rfl
  · split <;> rfl

theorem canonicalMapping_target (fm : FieldMapping) : (canonicalMapping fm).target = fm.target := by
  unfold canonicalMapping
  split
  · rfl
  · split <;> rfl

/-- A mapping writes what its canonical form writes. -/
theorem mappedValue_canonical (fm : FieldMapping) :
    mappedValue H (canonicalMapping fm) request store = mappedValue H fm request store := by
  unfold mappedValue
  rw [canonicalMapping_source]
  congr 1
  funext val
  have hne : str "formula" ≠ str "enum" := by decide
  have hdirect : str "direct" ≠ str "enum" ∧ str "direct" ≠ str "formula" := by decide
  by_cases henum : fm.transform = str "enum"
  · simp [canonicalMapping, henum]
  · by_cases hformula : fm.transform = str "formula"
    · simp [canonicalMapping, hformula, hne]
    · simp [canonicalMapping, henum, hformula, hdirect.1, hdirect.2]

theorem applyFieldMappings_canonical (fms : List FieldMapping) (body : Json) (store : DeviceStateStore) :
    applyFieldMappings H request (fms.map canonicalMapping) body store =
      applyFieldMappings H request fms body store := by
  induction fms generalizing body store with
  | nil => rfl
  | cons fm fms ih =>
    rw [List.map_cons, applyFieldMappings, applyFieldMappings]
    have hstep : applyFieldMapping H request (canonicalMapping fm) body store =
        applyFieldMapping H request fm body store := by
      unfold applyFieldMapping
      rw [mappedValue_canonical, canonicalMapping_target]
    rw [hstep]
    cases applyFieldMapping H request fm body store with
    | error e => exact ih body store
    | ok r => exact ih r.1 r.2

/-- Building a response only reads the canonical form of a template. -/
theorem buildLocalResponse_canonical (t : TemplateView) :
    buildLocalResponse H t.canonical request store = buildLocalResponse H t request store := by
  have happly : applyFieldMappings H request t.canonical.fieldMappings t.canonical.bodyTemplate store =
      applyFieldMappings H request t.fieldMappings t.bodyTemplate store :=
    applyFieldMappings_canonical t.fieldMappings t.bodyTemplate store
  unfold buildLocalResponse
  rw [happly]
  rfl

/-! ## Matches that answer alike -/

/-- Two templates that answer alike: the same template, with the same mappings. -/
def Template.Alike (t t' : Template) : Prop := t.id = t'.id ∧ t.view.canonical = t'.view.canonical

/-- Two matches with the same selection whose templates answer alike. -/
def MatchResult.Alike (r r' : MatchResult) : Prop :=
  r.selection = r'.selection ∧ Option.Rel Template.Alike r.template r'.template

/-- Matches that are alike are answered alike. -/
theorem answer_eq {r r' : MatchResult} (h : r.Alike r') : answer H r request store = answer H r' request store := by
  obtain ⟨hselection, htemplate⟩ := h
  unfold answer
  rw [hselection]
  generalize r.template = t at htemplate
  generalize r'.template = t' at htemplate
  cases htemplate with
  | none => rfl
  | some hview =>
    dsimp only
    rw [← buildLocalResponse_canonical, hview.2, buildLocalResponse_canonical]

end

end RideTheApi.Engine
