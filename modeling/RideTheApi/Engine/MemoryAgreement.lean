import RideTheApi.Engine.Serve
import RideTheApi.PatternDb.Export

/-!
# `Engine.MemoryAgreement` — serving from memory and from the database

What a device serves from memory is its database, exported and applied. Endpoints compile to the targets
the rows themselves have, so both ways select the same pattern with the same score, for every request
(`selection_eq`). Templates travel differently: a row carries its direct mappings inline, the document
carries every mapping row of the intent, and a trigger map binds responses to endpoints. A pattern is
answered alike both ways exactly when its response is its own and its mappings are its template's
(`alike_iff_own`).
-/

namespace RideTheApi.Engine

open Py PatternDb

/-- The tables a match reads. -/
def tablesOf (db : DeviceDb) : PatternTables := ⟨db.patterns, db.templates⟩

section
variable {deviceId : Str} {db : DeviceDb} {pat : RequestPattern} {tmpl : ResponseTemplate}
  {row : FieldMappingRow} {ep : ClientEndpoint} {doc : PatternDB}

/-- An endpoint compiles to what its pattern row is matched by. -/
theorem compileEndpoint_target (h : EndpointOf pat ep) :
    (compileEndpoint ep).target = (rowCandidate []).target pat := by
  show ({ method := ep.method, pathPattern := orStr ep.pathPattern ep.path,
          requiredHeaders := ofStrList ((Dict.get? ep.headers (str "required")).getD []),
          bodySchema := .obj (ep.bodySchema.getD []), queryParamKeys := ofStrList ep.queryParams } : PatternTarget) =
    { method := pat.method, pathPattern := pat.pathPattern,
      requiredHeaders := pat.requiredHeaders.orElse (.arr []), bodySchema := pat.bodySchema.orElse (.obj []),
      queryParamKeys := pat.queryParamKeys.orElse (.arr []) }
  rw [← h.requiredHeaders, ← h.queryParams, ← h.bodySchema, ofStrList_orElse, ofStrList_orElse, obj_orElse, h.method,
    h.pathPattern]

/-- A response that carries a template reads as the template with the mappings of the intent. -/
theorem view_of_carries {resp : ServerResponse} (h : Carries db pat tmpl resp) :
    (Template.response resp).view =
      { (Template.row tmpl).view with fieldMappings := (db.mappingsOf pat.intent).map rowMapping } := by
  show ({ statusCode := resp.statusCode, headersTemplate := ofStrDict resp.headersTemplate,
          bodyTemplate := .obj resp.bodyTemplate, fieldMappings := resp.fieldMappings } : TemplateView) =
    { statusCode := tmpl.statusCode, headersTemplate := tmpl.headersTemplate, bodyTemplate := tmpl.bodyTemplate,
      fieldMappings := (db.mappingsOf pat.intent).map rowMapping }
  rw [h.statusCode, h.headersTemplate, h.bodyTemplate, h.fieldMappings]

/-- The template served from memory for a pattern. -/
def memoryTemplate (doc : PatternDB) (pat : RequestPattern) : Option Template :=
  (responseForEndpoint (responsesByTrigger doc.server.responses) pat.patternId pat.intent).map .response

/-- The template of a pattern in the database. -/
def databaseTemplate (db : DeviceDb) (pat : RequestPattern) : Option Template :=
  (db.templateOf pat.patternId).map .row

/-- The template served from memory is the exported one of the answering pattern. -/
theorem memoryTemplate_rel (hexported : Exported db doc) (hid : pat.patternId ≠ []) (hintent : pat.intent ≠ []) :
    Option.Rel (fun q t => ∃ resp, t = Template.response resp ∧ Exports patternTriggers db q (some resp))
      (answering db pat) (memoryTemplate doc pat) := by
  obtain ⟨resps, hresps, hdoc⟩ := hexported.responses
  have hrel := responseForEndpoint_rel hresps (fun trigger _ => contains_patternTriggers trigger) hid hintent
  unfold memoryTemplate
  rw [hdoc]
  generalize answering db pat = q at hrel
  generalize responseForEndpoint _ pat.patternId pat.intent = r at hrel
  cases hrel with
  | none => exact .none
  | some hexp => exact .some ⟨_, rfl, hexp⟩

/-! ## When a pattern is answered alike -/

/-- A mapping row that only copies. -/
def DirectRow (row : FieldMappingRow) : Prop :=
  row.transform ≠ some (str "enum") ∧ row.transform ≠ some (str "formula")

instance (row : FieldMappingRow) : Decidable (DirectRow row) := inferInstanceAs (Decidable (_ ∧ _))

/-- A pattern whose response is its own: the pattern that answers it is itself, or nobody when it has no
    template, and the mapping rows of its intent are the direct mappings of its template, in order. -/
def OwnResponse (db : DeviceDb) (pat : RequestPattern) : Prop :=
  answering db pat = (if (db.templateOf pat.patternId).isSome then some pat else none) ∧
    ∀ tmpl ∈ db.templateOf pat.patternId,
      (∀ row ∈ db.mappingsOf pat.intent, DirectRow row) ∧
        tmpl.fieldMappings =
          ofStrDict ((db.mappingsOf pat.intent).map fun row => (row.requestField, row.responseField))

instance (db : DeviceDb) (pat : RequestPattern) : Decidable (OwnResponse db pat) :=
  inferInstanceAs (Decidable (_ ∧ _))

/-- A direct mapping. -/
def directMapping (st : Str × Str) : FieldMapping := { source := st.1, target := st.2 }

theorem normalizeRowMappings_ofStrDict (d : Dict Str Str) :
    normalizeRowMappings (ofStrDict d) = d.map directMapping := by
  show ((d.map fun kv => (kv.1, (JsonTree.str kv.2 : Json))).filterMap _) = _
  induction d with
  | nil => rfl
  | cons kv d ih =>
    rw [List.map_cons, List.filterMap_cons, ih]
    rfl

theorem canonicalMapping_direct (st : Str × Str) : canonicalMapping (directMapping st) = directMapping st := by
  have hdirect : str "direct" ≠ str "enum" ∧ str "direct" ≠ str "formula" := by decide
  unfold canonicalMapping directMapping
  rw [if_neg hdirect.1, if_neg hdirect.2]

theorem orStr_eq_iff {a : Option Str} {b : Str} (hne : b ≠ []) (hdirect : b ≠ str "direct") :
    orStr (a.getD []) "direct" = b ↔ a = some b := by
  cases a with
  | none =>
    have hor : orStr (Option.getD none []) (str "direct") = str "direct" := rfl
    rw [hor]
    exact ⟨fun h => absurd h.symm hdirect, fun h => by cases h⟩
  | some a =>
    cases a with
    | nil =>
      have hor : orStr (Option.getD (some []) []) (str "direct") = str "direct" := rfl
      rw [hor]
      exact ⟨fun h => absurd h.symm hdirect, fun h => absurd (Option.some.inj h).symm hne⟩
    | cons c cs => exact ⟨fun h => congrArg some h, fun h => Option.some.inj h⟩

/-- A row's mapping is direct when the row only copies, and then it is the mapping of its two fields. -/
theorem canonical_rowMapping_iff (row : FieldMappingRow) (st : Str × Str) :
    canonicalMapping (rowMapping row) = directMapping st ↔
      DirectRow row ∧ (row.requestField, row.responseField) = st := by
  have henum : (rowMapping row).transform = str "enum" ↔ row.transform = some (str "enum") :=
    orStr_eq_iff (by decide) (by decide)
  have hformula : (rowMapping row).transform = str "formula" ↔ row.transform = some (str "formula") :=
    orStr_eq_iff (by decide) (by decide)
  unfold canonicalMapping DirectRow directMapping
  by_cases he : row.transform = some (str "enum")
  · rw [if_pos (henum.mpr he)]
    refine ⟨fun h => ?_, fun h => absurd he h.1.1⟩
    have hne : str "enum" ≠ str "direct" := by decide
    exact absurd (congrArg FieldMapping.transform h) hne
  · rw [if_neg (mt henum.mp he)]
    by_cases hf : row.transform = some (str "formula")
    · rw [if_pos (hformula.mpr hf)]
      refine ⟨fun h => ?_, fun h => absurd hf h.1.2⟩
      have hne : str "formula" ≠ str "direct" := by decide
      exact absurd (congrArg FieldMapping.transform h) hne
    · rw [if_neg (mt hformula.mp hf)]
      refine ⟨fun h => ⟨⟨he, hf⟩, ?_⟩, fun h => ?_⟩
      · exact Prod.ext (congrArg FieldMapping.source h) (congrArg FieldMapping.target h)
      · rw [← h.2]
        rfl

/-- The mappings of rows are the direct mappings of a dict when the rows only copy and are its items. -/
theorem canonical_rowMappings_iff (rows : List FieldMappingRow) (d : Dict Str Str) :
    (rows.map rowMapping).map canonicalMapping = (d.map directMapping).map canonicalMapping ↔
      (∀ row ∈ rows, DirectRow row) ∧ d = rows.map fun row => (row.requestField, row.responseField) := by
  induction rows generalizing d with
  | nil => cases d <;> simp
  | cons row rows ih =>
    cases d with
    | nil => simp
    | cons st d =>
      rw [List.map_cons, List.map_cons, List.map_cons, List.map_cons, List.cons.injEq, ih, canonicalMapping_direct,
        canonical_rowMapping_iff, List.forall_mem_cons, List.map_cons, List.cons.injEq]
      constructor
      · rintro ⟨⟨hrow, hst⟩, hrows, hd⟩
        exact ⟨⟨hrow, hrows⟩, hst.symm, hd⟩
      · rintro ⟨⟨hrow, hrows⟩, hst, hd⟩
        exact ⟨⟨hrow, hst.symm⟩, hrows, hd⟩

/-- A response that carries a template has its mappings exactly when the rows of the intent are the
    template's direct mappings. -/
theorem carries_canonical_iff {resp : ServerResponse} (htmpl : tmpl.WellTyped) (h : Carries db pat tmpl resp) :
    (Template.response resp).view.canonical = (Template.row tmpl).view.canonical ↔
      (∀ row ∈ db.mappingsOf pat.intent, DirectRow row) ∧
        tmpl.fieldMappings =
          ofStrDict ((db.mappingsOf pat.intent).map fun row => (row.requestField, row.responseField)) := by
  obtain ⟨d, hd⟩ := htmpl.fieldMappings
  have hinj : ∀ d d' : Dict Str Str, ofStrDict d = ofStrDict d' ↔ d = d' := by
    intro d d'
    refine ⟨fun heq => ?_, fun heq => by rw [heq]⟩
    have hread := congrArg toStrDict heq
    rw [toStrDict_ofStrDict, toStrDict_ofStrDict] at hread
    exact Except.ok.inj hread
  have hrow : (Template.row tmpl).view.fieldMappings = d.map directMapping := by
    show normalizeRowMappings tmpl.fieldMappings = _
    rw [hd, normalizeRowMappings_ofStrDict]
  rw [view_of_carries h, hd, hinj, ← canonical_rowMappings_iff, ← hrow]
  unfold TemplateView.canonical
  constructor
  · exact fun heq => congrArg TemplateView.fieldMappings heq
  · intro heq
    dsimp only
    rw [heq]

/-- Templates are named after their pattern, so two of the same name belong to the same one. -/
theorem patternId_eq_of_templateId {tmpl' : ResponseTemplate} (h : tmpl.WellTyped) (h' : tmpl'.WellTyped)
    (heq : tmpl.templateId = tmpl'.templateId) : tmpl.patternId = tmpl'.patternId := by
  rw [h.named, h'.named] at heq
  exact List.append_cancel_left heq

/-- **A pattern is answered alike from memory and from the database exactly when its response is its
    own.** -/
theorem alike_iff_own (hwf : WellFormed deviceId db) (hexported : Exported db doc) (hpat : pat ∈ db.patterns) :
    Option.Rel Template.Alike (memoryTemplate doc pat) (databaseTemplate db pat) ↔ OwnResponse db pat := by
  have hmemory := memoryTemplate_rel hexported (hwf.patterns pat hpat).patternId (hwf.intents pat hpat)
  unfold databaseTemplate OwnResponse
  generalize memoryTemplate doc pat = t at hmemory
  cases htmpl : db.templateOf pat.patternId with
  | none =>
    simp only [Option.map_none, Option.isSome_none, Bool.false_eq_true, if_false, Option.mem_def, reduceCtorEq,
      false_implies, implies_true, and_true]
    generalize answering db pat = q at hmemory
    cases hmemory with
    | none => exact ⟨fun _ => rfl, fun _ => .none⟩
    | some hq =>
      refine ⟨fun h => ?_, fun h => by cases h⟩
      cases h
  | some tmpl =>
    have hwt := hwf.templates tmpl (mem_of_templateOf htmpl).1
    simp only [Option.map_some, Option.isSome_some, if_true, Option.mem_def, Option.some.injEq, forall_eq']
    cases hanswering : answering db pat with
    | none =>
      rw [hanswering] at hmemory
      cases hmemory
      exact ⟨fun h => (by cases h), fun h => (by cases h.1)⟩
    | some q =>
      rw [hanswering] at hmemory
      cases hmemory with
      | some hq =>
        obtain ⟨resp, rfl, hexports⟩ := hq
        obtain ⟨tmpl', htmpl', hcarries⟩ := hexports.template
        constructor
        · intro h
          cases h with
          | some halike =>
            -- the same template id means the same pattern
            have hids : tmpl'.templateId = tmpl.templateId := hcarries.id.symm.trans halike.1
            have hwt' := hwf.templates tmpl' (mem_of_templateOf htmpl').1
            have hpatterns : q.patternId = pat.patternId := by
              rw [← (mem_of_templateOf htmpl').2, ← (mem_of_templateOf htmpl).2]
              exact patternId_eq_of_templateId hwt' hwt hids
            have hsame : q = pat :=
              List.inj_on_of_nodup_map hwf.patternIds (mem_of_answering hanswering) hpat hpatterns
            subst hsame
            rw [htmpl] at htmpl'
            cases htmpl'
            exact ⟨rfl, (carries_canonical_iff hwt hcarries).mp halike.2⟩
        · rintro ⟨hq, hmappings⟩
          cases hq
          rw [htmpl] at htmpl'
          cases htmpl'
          exact .some ⟨hcarries.id, (carries_canonical_iff hwt hcarries).mpr hmappings⟩

/-! ## Matching -/

/-- A compiled endpoint and the row it comes from. -/
def SameTarget (db : DeviceDb) (item : CompiledEndpoint) (pat : RequestPattern) : Prop :=
  pat ∈ db.patterns ∧ EndpointOf pat item.endpoint ∧ item = compileEndpoint item.endpoint

/-- The shortcuts, the filter and the scores of the two walks agree. -/
theorem walks_alike (db : DeviceDb) (triggerMap : Dict Str ServerResponse) (call : MatchCall) :
    (shortcuts (compiledCandidate triggerMap) call).Alike (shortcuts (rowCandidate db.templates) call)
      (compatible (compiledCandidate triggerMap) call) (compatible (rowCandidate db.templates) call)
      (SameTarget db) where
  stop _ := rfl
  skip r item pat h := by
    obtain ⟨_, hof, hitem⟩ := h
    have hmethod : item.target.method = pat.method := by
      rw [hitem]
      exact hof.method
    show (decide (7 / 10 ≤ r) && item.target.method != call.method) = _
    rw [hmethod]
    rfl
  admits item pat h := by
    obtain ⟨_, hof, hitem⟩ := h
    have hitem' : item.protocol = pat.protocol := by
      rw [hitem]
      exact hof.protocol
    show protocolMatches call.protocol item.protocol = protocolMatches call.protocol pat.protocol
    rw [hitem']
  estimate r item pat h := by
    obtain ⟨_, hof, hitem⟩ := h
    have hsame : item.target = (rowCandidate []).target pat := by
      rw [hitem]
      exact compileEndpoint_target hof
    show calculateSimilarity item.target _ r = _
    rw [hsame]
    rfl

/-- A pattern has at most one template, the one the database selects. -/
theorem fetch_eq (h : Stored deviceId db) (patternId : Str) :
    scalarOneOrNone (db.templates.filter fun tmpl => tmpl.patternId == patternId) =
      .ok (db.templateOf patternId) := by
  have hnodup : (db.templates.map (·.patternId)).Nodup := by
    have hnames : db.templates.map (·.templateId) = (db.templates.map (·.patternId)).map templateId := by
      rw [List.map_map]
      exact List.map_congr_left fun tmpl htmpl => (h.templates tmpl htmpl).named
    exact List.Nodup.of_map templateId (hnames ▸ h.templateIds)
  unfold DeviceDb.templateOf
  by_cases hmem : patternId ∈ db.templates.map (·.patternId)
  · obtain ⟨tmpl, htmpl, rfl⟩ := List.mem_map.mp hmem
    have honly := KeyedTable.filter_key_eq hnodup htmpl
    have hfilter : (db.templates.filter fun t => t.patternId == tmpl.patternId) = [tmpl] := by
      rw [← honly]
      exact List.filter_congr fun t _ => by rw [beq_eq_decide]
    rw [hfilter]
    rfl
  · have hnone : (db.templates.filter fun t => t.patternId == patternId) = [] := by
      refine List.filter_eq_nil_iff.mpr fun t ht heq => ?_
      exact hmem (List.mem_map.mpr ⟨t, ht, by simpa using heq⟩)
    rw [hnone]
    rfl

/-- The two walks return related matches, whatever relation their templates are in. -/
theorem findBestMatch_rel {S : Option Template → Option Template → Prop} (hwf : Stored deviceId db)
    (hexported : Exported db doc)
    (hS : ∀ pat ∈ db.patterns, S (memoryTemplate doc pat) (databaseTemplate db pat)) (hnone : S none none)
    (tables : PatternTables) (call : MatchCall) :
    Except.Rel (fun r r' => r.selection = r'.selection ∧ S r.template r'.template)
      (findBestMatch (some (applyPatternDb doc)) tables call) (findBestMatch none (tablesOf db) call) := by
  have hitems : List.Forall₂ (SameTarget db) (applyPatternDb doc).compiled db.patterns := by
    show List.Forall₂ (SameTarget db) (doc.client.endpoints.map compileEndpoint) db.patterns
    rw [List.forall₂_map_left_iff]
    exact hexported.endpoints.flip.imp fun ep pat h => ⟨h.1, h.2, rfl⟩
  have hfetch : ∀ item pat, SameTarget db item pat →
      Except.Rel (fun r t => S (r.map Template.response) (t.map Template.row))
        ((compiledCandidate (applyPatternDb doc).triggerMap).fetch item)
        ((rowCandidate db.templates).fetch pat) := by
    intro item pat hsame
    obtain ⟨hpat, hof, hitem⟩ := hsame
    show Except.Rel _ (.ok (responseForEndpoint _ item.endpoint.id item.intent)) (scalarOneOrNone _)
    have hitem' : item.intent = pat.intent := by
      rw [hitem]
      exact hof.intent
    rw [fetch_eq hwf, hof.id, hitem']
    exact .ok (hS pat hpat)
  unfold findBestMatch
  refine Except.Rel.map (FirstMax.prunedScan_rel
    (T := fun _ _ r t => S (r.map Template.response) (t.map Template.row))
    (walks_alike db _ call) hfetch hitems ⟨rfl, .none⟩) fun b b' hbest => ?_
  obtain ⟨hscore, hfound⟩ := hbest
  unfold endpointResult rowResult MatchResult.selection
  rw [hscore]
  generalize b.found = f at hfound
  generalize b'.found = f' at hfound
  cases hfound with
  | none => exact ⟨rfl, hnone⟩
  | @some p p' hp =>
    obtain ⟨⟨_, hof, _⟩, htemplate⟩ := hp
    refine ⟨?_, htemplate⟩
    show (some p.1.endpoint.id, b'.score) = (some p'.1.patternId, b'.score)
    rw [hof.id]

/-- **Both ways select the same pattern with the same score**, for every request. -/
theorem selection_eq (hwf : Stored deviceId db) (hexported : Exported db doc) (tables : PatternTables)
    (call : MatchCall) :
    (findBestMatch (some (applyPatternDb doc)) tables call).map MatchResult.selection =
      (findBestMatch none (tablesOf db) call).map MatchResult.selection := by
  have hrel := findBestMatch_rel (S := fun _ _ => True) hwf hexported (fun _ _ => trivial) trivial tables call
  exact Except.Rel.eq (hrel.map fun r r' h => h.1)

/-- **Both ways give the same answer** when every response is its pattern's own. -/
theorem serve_eq (hwf : WellFormed deviceId db) (hexported : Exported db doc)
    (hown : ∀ pat ∈ db.patterns, OwnResponse db pat) (H : Host) (tables : PatternTables) (call : MatchCall)
    (request : Json) (store : DeviceStateStore) :
    serve H (some (applyPatternDb doc)) tables call request store =
      serve H none (tablesOf db) call request store := by
  have hrel : Except.Rel MatchResult.Alike (findBestMatch (some (applyPatternDb doc)) tables call)
      (findBestMatch none (tablesOf db) call) :=
    findBestMatch_rel hwf.toStored hexported (fun pat hpat => (alike_iff_own hwf hexported hpat).mpr (hown pat hpat)) .none
      tables call
  unfold serve
  generalize findBestMatch (some (applyPatternDb doc)) tables call = x at hrel
  generalize findBestMatch none (tablesOf db) call = y at hrel
  cases hrel with
  | error e => rfl
  | @ok r r' hab =>
    show (pure r >>= fun r => answer H r request store) = (pure r' >>= fun r => answer H r request store)
    rw [pure_bind, pure_bind, answer_eq hab]

end

/-- Serving from the exported document agrees with serving from the database: every request selects the
    same pattern with the same score, and every pattern is answered by the same template with the same
    mappings, transforms included. -/
structure AgreesWithDatabase (db : DeviceDb) (doc : PatternDB) : Prop where
  selects : ∀ tables call, (findBestMatch (some (applyPatternDb doc)) tables call).map MatchResult.selection =
    (findBestMatch none (tablesOf db) call).map MatchResult.selection
  answers : ∀ pat ∈ db.patterns, Option.Rel Template.Alike (memoryTemplate doc pat) (databaseTemplate db pat)

/-- **Serving from memory agrees with serving from the database exactly when every pattern's response is its
    own**, for every database that runs of imports leave; and then every request gets the same answer and
    the same state updates. -/
theorem agreesWithDatabase_iff (deviceId vendor deviceType : Str)
    (config : List StateVariable × List VirtualSensor) {db : DeviceDb}
    (h : Transition.Reaches (importStep deviceId) {} db) :
    ∃ doc, exportPatterns deviceId vendor deviceType config db = .ok doc ∧
      (AgreesWithDatabase db doc ↔ ∀ pat ∈ db.patterns, OwnResponse db pat) ∧
      ((∀ pat ∈ db.patterns, OwnResponse db pat) → ∀ H tables call request store,
        serve H (some (applyPatternDb doc)) tables call request store =
          serve H none (tablesOf db) call request store) := by
  have hwf := wellFormed_of_reaches h
  obtain ⟨doc, hdoc, hexported⟩ := exportPatterns_ok hwf.toStored vendor deviceType config
  refine ⟨doc, hdoc, ?_, fun hown H tables call request store => ?_⟩
  · constructor
    · intro hagrees pat hpat
      exact (alike_iff_own hwf hexported hpat).mp (hagrees.answers pat hpat)
    · intro hown
      exact ⟨selection_eq hwf.toStored hexported, fun pat hpat => (alike_iff_own hwf hexported hpat).mpr (hown pat hpat)⟩
  · exact serve_eq hwf hexported hown H tables call request store

/-! ## A plug -/

/-- A plug with one switch command, whose response maps the request by the given transform. -/
def plugDoc (transform : Str) : PatternDB where
  patternMeta := { patternId := str "plug-patterns", vendor := str "acme", deviceType := str "plug" }
  client := { endpoints := [{ id := str "switch", intent := str "power", method := str "POST", pathPattern := str "/on" }] }
  server :=
    { responses :=
        [{ id := str "r1"
           triggers := [str "switch"]
           bodyTemplate := [(str "power", .null)]
           fieldMappings :=
            [{ source := str "request.body.on"
               target := str "power"
               transform := transform
               mapping := some [(str "1", .str (str "ON"))] }] }] }

/-- The database of a plug after one import. -/
def plugDb (transform : Str) : DeviceDb :=
  ((importStep (str "plug") {} (plugDoc transform)).getD {})

theorem plugDb_agrees :
    ∃ doc, exportPatterns (str "plug") (str "acme") (str "plug") ([], []) (plugDb (str "direct")) = .ok doc ∧
      (AgreesWithDatabase (plugDb (str "direct")) doc ↔
        ∀ pat ∈ (plugDb (str "direct")).patterns, OwnResponse (plugDb (str "direct")) pat) ∧
      ((∀ pat ∈ (plugDb (str "direct")).patterns, OwnResponse (plugDb (str "direct")) pat) →
        ∀ H tables call request store,
        serve H (some (applyPatternDb doc)) tables call request store =
          serve H none (tablesOf (plugDb (str "direct"))) call request store) :=
  agreesWithDatabase_iff (str "plug") (str "acme") (str "plug") ([], [])
    (Transition.reaches_of_exec [plugDoc (str "direct")] (by decide +kernel))

/-- The direct plug's response is its own. -/
example : ∀ pat ∈ (plugDb (str "direct")).patterns, OwnResponse (plugDb (str "direct")) pat := by
  decide +kernel

/-- Turning the plug on. -/
def switchCall : MatchCall where
  method := str "POST"
  path := str "/on"
  headers := []
  body := .obj [(str "on", .int 1)]
  queryParams := []

def switchRequest : Json := .obj [(str "body", .obj [(str "on", .int 1)])]

/-- The body of what was served. -/
def servedBody (r : Result (Served × Nat)) : Result (Option Json) :=
  r.map fun p => p.1.response.map fun q => q.1.body

/-- The plug with an enum answers `ON` from memory and `1` from the database. -/
theorem plugDb_disagrees : ∃ doc,
    Transition.Reaches (importStep (str "plug")) {} (plugDb (str "enum")) ∧
      exportPatterns (str "plug") (str "acme") (str "plug") ([], []) (plugDb (str "enum")) = .ok doc ∧
      serve asciiHost (some (applyPatternDb doc)) (tablesOf (plugDb (str "enum"))) switchCall switchRequest {} 0 ≠
        serve asciiHost none (tablesOf (plugDb (str "enum"))) switchCall switchRequest {} 0 := by
  have hreaches : Transition.Reaches (importStep (str "plug")) {} (plugDb (str "enum")) :=
    Transition.reaches_of_exec [plugDoc (str "enum")] (by decide +kernel)
  obtain ⟨doc, hdoc, _⟩ := exportPatterns_ok (wellFormed_of_reaches hreaches).toStored (str "acme") (str "plug") ([], [])
  refine ⟨doc, hreaches, hdoc, fun hsame => ?_⟩
  have hmemory : (exportPatterns (str "plug") (str "acme") (str "plug") ([], []) (plugDb (str "enum"))).map
      (fun doc => servedBody (serve asciiHost (some (applyPatternDb doc)) (tablesOf (plugDb (str "enum"))) switchCall
        switchRequest {} 0)) = .ok (.ok (some (.obj [(str "power", .str (str "ON"))]))) := by decide +kernel
  have hdatabase : servedBody (serve asciiHost none (tablesOf (plugDb (str "enum"))) switchCall switchRequest {} 0) =
      .ok (some (.obj [(str "power", .int 1)])) := by decide +kernel
  rw [hdoc] at hmemory
  have hbody : servedBody (serve asciiHost (some (applyPatternDb doc)) (tablesOf (plugDb (str "enum"))) switchCall
      switchRequest {} 0) = .ok (some (.obj [(str "power", .str (str "ON"))])) := Except.ok.inj hmemory
  rw [hsame, hdatabase] at hbody
  have hvalues := Except.ok.inj hbody
  revert hvalues
  decide +kernel

end RideTheApi.Engine
