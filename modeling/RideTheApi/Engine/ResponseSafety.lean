import RideTheApi.Engine.Response

/-!
# `Engine.ResponseSafety` — when request data is re-read as a template

A body that remembers where its strings come from separates what `build_local_response` may expand (the
template's own strings) from what it must not (what a field mapping wrote). Erasing the origins gives the
code's body, so the code searches written strings for placeholders too, whenever the template has any
placeholder of its own. A request string is safe for every meaning of the placeholders exactly when the
template has none or the string contains none (`requestData_verbatim_iff`); and when no written string
names a further state variable, two stores that agree on the named ones give the same response
(`response_eq_of_agreeOn`).
-/

namespace RideTheApi.Engine

open Py PatternDb

/-! ## Bodies with origins -/

/-- Where a string of a response body comes from. -/
inductive Origin where
  | template
  /-- Copied from the request by a direct field mapping. -/
  | request
  /-- Written by another field mapping: from the state, a constant, an enum or a formula. -/
  | other
deriving Repr, DecidableEq

/-- A body whose strings carry their origin. -/
abbrev TaggedBody := JsonTree Str (Origin × Str)

/-- The origin of what a mapping writes. -/
def originOf (fm : FieldMapping) : Origin :=
  if fm.source.startsWith "request." ∧ fm.transform ≠ str "enum" ∧ fm.transform ≠ str "formula" then .request
  else .other

/-- `applyFieldMapping` on a body with origins. -/
def tagFieldMapping (H : Host) (request : Json) (fm : FieldMapping) (body : TaggedBody)
    (store : DeviceStateStore) : Result (TaggedBody × DeviceStateStore) := do
  match ← mappedValue H fm request store with
  | none     => .ok (body, store)
  | some val =>
    if fm.target.startsWith "state." then .ok (body, store.set (fm.target.drop 6) val)
    else (setNested H.toInterp body fm.target (val.map (Prod.mk (originOf fm)))).map fun body => (body, store)

/-- `applyFieldMappings` on a body with origins. -/
def tagFieldMappings (H : Host) (request : Json) :
    List FieldMapping → TaggedBody → DeviceStateStore → TaggedBody × DeviceStateStore
  | [],        body, store => (body, store)
  | fm :: fms, body, store =>
    match tagFieldMapping H request fm body store with
    | .ok (body', store') => tagFieldMappings H request fms body' store'
    | .error _            => tagFieldMappings H request fms body store

/-- The mapped body of a response, with origins, and the state after the mappings. -/
def taggedBody (H : Host) (t : TemplateView) (request : Json) (store : DeviceStateStore) :
    TaggedBody × DeviceStateStore :=
  tagFieldMappings H request t.fieldMappings (t.bodyTemplate.map (Prod.mk .template)) store

/-- The body the code returns, for a given meaning of the placeholders. -/
def codeBody (I : Interp) (t : TemplateView) (value : Placeholder → Build Json) (body : TaggedBody) :
    Build Json :=
  resolveTemplateVars I value (templateHasVars t.bodyTemplate) (body.map Prod.snd)

/-- The same body with every request string left as it is. -/
def verbatimBody (I : Interp) (t : TemplateView) (value : Placeholder → Build Json) (body : TaggedBody) :
    Build Json :=
  if templateHasVars t.bodyTemplate then
    body.traverse fun os => if os.1 = .request then pure (.str os.2) else expandStr I value os.2
  else pure (body.map Prod.snd)

section
variable {H : Host} {request : Json} {store store' : DeviceStateStore} {t : TemplateView}

/-- Erasing the origins gives the code's mapping step. -/
theorem tagFieldMapping_erase (fm : FieldMapping) (body : TaggedBody) :
    (tagFieldMapping H request fm body store).map (fun r => (r.1.map Prod.snd, r.2)) =
      applyFieldMapping H request fm (body.map Prod.snd) store := by
  unfold tagFieldMapping applyFieldMapping
  cases mappedValue H fm request store with
  | error e => rfl
  | ok val =>
    cases val with
    | none => rfl
    | some val =>
      simp only [Except.ok_bind]
      split
      · rfl
      · have herase : (val.map (Prod.mk (originOf fm))).map Prod.snd = val :=
          JsonTree.map_map_eq Prod.snd (Prod.mk (originOf fm)) (fun _ => rfl) val
        have hset := setNested_map H.toInterp Prod.snd body fm.target (val.map (Prod.mk (originOf fm)))
        rw [herase] at hset
        rw [hset]
        cases setNested H.toInterp body fm.target (val.map (Prod.mk (originOf fm))) <;> rfl

/-- Erasing the origins gives the code's mapped body. -/
theorem tagFieldMappings_erase (H : Host) (request : Json) (fms : List FieldMapping) (body : TaggedBody) (store : DeviceStateStore) :
    applyFieldMappings H request fms (body.map Prod.snd) store =
      ((tagFieldMappings H request fms body store).1.map Prod.snd,
        (tagFieldMappings H request fms body store).2) := by
  induction fms generalizing body store with
  | nil => rfl
  | cons fm fms ih =>
    rw [applyFieldMappings, tagFieldMappings, ← tagFieldMapping_erase]
    cases tagFieldMapping H request fm body store with
    | error e => exact ih body store
    | ok r => exact ih r.1 r.2

/-- The response in terms of the body with origins. -/
theorem buildLocalResponse_eq (H : Host) (t : TemplateView) (request : Json) (store : DeviceStateStore) :
    buildLocalResponse H t request store = (do
      let headers ← StateT.lift (withoutFramingHeaders H.toInterp t.headersTemplate)
      let body ← codeBody H.toInterp t
        (templateVarValue H (taggedBody H t request store).2 request) (taggedBody H t request store).1
      pure ({ statusCode := servableStatus t.statusCode, headers, body },
        (taggedBody H t request store).2)) := by
  have herase : (t.bodyTemplate.map (Prod.mk Origin.template)).map Prod.snd = t.bodyTemplate :=
    JsonTree.map_map_eq Prod.snd (Prod.mk Origin.template) (fun _ => rfl) t.bodyTemplate
  have happly := tagFieldMappings_erase H request t.fieldMappings
    (t.bodyTemplate.map (Prod.mk Origin.template)) store
  rw [herase] at happly
  unfold buildLocalResponse
  rw [happly]
  rfl

/-! ## Strings without placeholders -/

variable {I : Interp} {s : Str}

theorem expandPieces_chars (value : Placeholder → Build Json) (s : Str) :
    expandPieces I value (s.map .char) = pure s := by
  induction s with
  | nil => rfl
  | cons c cs ih =>
    rw [List.map_cons, expandPieces, ih]
    rfl

/-- A string without a placeholder is left alone. -/
theorem expandStr_of_plain (value : Placeholder → Build Json) (h : placeholdersOf (pieces I s) = []) :
    expandStr I value s = pure (.str s) := by
  have hchars : pieces I s = s.map .char := scanPieces_eq_chars h
  have hwhole : wholeVar I s = none := by
    unfold wholeVar
    split
    next p hp => rw [hp, placeholdersOf_var] at h; cases h
    next => rfl
  unfold expandStr
  split
  · rw [hwhole, hchars, expandPieces_chars]
    rfl
  · rfl

/-- What a string becomes when every placeholder means 0. -/
def zeroed (I : Interp) (s : Str) : Json :=
  if mayHaveVars s then
    match wholeVar I s with
    | some _ => .int 0
    | none   => .str ((pieces I s).map fun
        | .char c => c
        | .var _  => cp '0')
  else .str s

theorem expandPieces_zero (ps : List Piece) :
    expandPieces I (fun _ => pure (.int 0)) ps = pure (ps.map fun
        | .char c => c
        | .var _  => cp '0') := by
  induction ps with
  | nil => rfl
  | cons p ps ih =>
    cases p with
    | char c =>
      rw [expandPieces, ih]
      rfl
    | var p =>
      rw [expandPieces, ih]
      rfl

theorem expandStr_zero (s : Str) : expandStr I (fun _ => pure (.int 0)) s = pure (zeroed I s) := by
  unfold expandStr zeroed
  split
  · cases wholeVar I s with
    | some p => rfl
    | none =>
      show (do
        let text ← expandPieces I (fun _ => pure (.int 0)) (pieces I s)
        pure (JsonTree.str text)) = _
      rw [expandPieces_zero]
      rfl
  · rfl

/-- A string with a placeholder does not survive that. -/
theorem zeroed_ne (h : placeholdersOf (pieces I s) ≠ []) : zeroed I s ≠ .str s := by
  unfold zeroed
  rw [if_pos (mayHaveVars_of_placeholder h)]
  split
  next => simp
  next =>
    intro heq
    have hlen := congrArg List.length (JsonTree.str.inj heq)
    have hlt : (scanPieces (matchVar I) 0 s).length < s.length - 0 :=
      (scanPieces_length (fun hm => (matchVar_some hm).2) 0).2 h
    rw [List.length_map, show pieces I s = scanPieces (matchVar I) 0 s from rfl] at hlen
    omega

/-! ## Verbatim -/

/-- The code's body as a traversal of the body with origins. -/
theorem codeBody_eq_traverse (value : Placeholder → Build Json) (body : TaggedBody)
    (hvars : templateHasVars t.bodyTemplate = true) :
    codeBody I t value body = body.traverse fun os => expandStr I value os.2 := by
  unfold codeBody resolveTemplateVars
  rw [if_pos hvars, JsonTree.traverse_map]

/-- The request strings of a body contain no placeholder. -/
def RequestStringsPlain (I : Interp) (body : TaggedBody) : Prop :=
  ∀ s, (Origin.request, s) ∈ body.strings → placeholdersOf (pieces I s) = []

/-- **Request strings are verbatim for every meaning of the placeholders, exactly when** the template has
    no placeholder of its own or they contain none. -/
theorem codeBody_eq_verbatim_iff (I : Interp) (t : TemplateView) (body : TaggedBody) :
    (∀ value, codeBody I t value body = verbatimBody I t value body) ↔
      templateHasVars t.bodyTemplate = false ∨ RequestStringsPlain I body := by
  constructor
  · intro hall
    cases hvars : templateHasVars t.bodyTemplate with
    | false => exact .inl rfl
    | true =>
      refine .inr fun s hs => ?_
      by_contra hne
      -- let every placeholder mean 0: both bodies are pure, and differ at `s`
      have hzero := hall fun _ => pure (.int 0)
      have hleft : codeBody I t (fun _ => pure (.int 0)) body =
          pure (body.traverse (m := Id) fun os => zeroed I os.2) := by
        rw [codeBody_eq_traverse _ _ hvars, ← JsonTree.traverse_pure]
        simp only [expandStr_zero]
      have hright : verbatimBody I t (fun _ => pure (.int 0)) body =
          pure (body.traverse (m := Id) fun os =>
            if os.1 = .request then (.str os.2 : Json) else zeroed I os.2) := by
        unfold verbatimBody
        rw [if_pos hvars, ← JsonTree.traverse_pure]
        congr 1
        funext os
        rw [expandStr_zero]
        split <;> rfl
      rw [hleft, hright] at hzero
      have hrun := congrFun hzero 0
      have htrees := (Prod.mk.inj (Except.ok.inj hrun)).1
      have hleaf := JsonTree.eq_of_traverse_eq body htrees _ hs
      exact zeroed_ne hne (by simpa using hleaf)
  · intro hcond value
    cases hvars : templateHasVars t.bodyTemplate with
    | false => simp [codeBody, verbatimBody, resolveTemplateVars, hvars]
    | true =>
      have hplain : RequestStringsPlain I body := by
        rcases hcond with h | h
        · rw [hvars] at h
          cases h
        · exact h
      rw [codeBody_eq_traverse _ _ hvars, verbatimBody, if_pos hvars]
      refine JsonTree.traverse_congr body fun os hos => ?_
      split
      next horigin =>
        obtain ⟨o, s⟩ := os
        cases horigin
        exact expandStr_of_plain value (hplain s hos)
      next => rfl

end

/-! ## Two stores -/

/-- The state variables among placeholders. -/
def stateNames (ps : List Placeholder) : List Str :=
  ps.filterMap fun
    | .state name => some name
    | _           => none

/-- The state variable a source or a target names. -/
def referenceNames (ref : Str) : List Str := if ref.startsWith "state." then [ref.drop 6] else []

/-- The state variables a formula names. -/
def formulaNames (I : Interp) (formula : Str) : List Str :=
  (if isSingleReference formula "\x7bstate." then [(formula.drop 7).dropLast] else []) ++
    stateNames (placeholdersOf (formulaPieces I formula))

/-- The state variables a field mapping names: its source, its target and those of its formula. -/
def mappingNames (I : Interp) (fm : FieldMapping) : List Str :=
  referenceNames fm.source ++ (referenceNames fm.target ++ formulaNames I fm.formula)

/-- The state variables a text names. -/
def textNames (I : Interp) (s : Str) : List Str := stateNames (placeholdersOf (pieces I s))

/-- The state variables a template and its mappings name. -/
def templateNames (I : Interp) (t : TemplateView) : List Str :=
  t.bodyTemplate.strings.flatMap (textNames I) ++ t.fieldMappings.flatMap (mappingNames I)

/-- The strings the mappings wrote name no further state variable. -/
def WrittenNamesKnown (I : Interp) (t : TemplateView) (body : TaggedBody) : Prop :=
  ∀ os ∈ body.strings, os.1 ≠ .template → ∀ n ∈ textNames I os.2, n ∈ templateNames I t

section
variable {H : Host} {I : Interp} {request : Json} {store store' : DeviceStateStore} {t : TemplateView}
  {names : List Str}

theorem mem_stateNames {ps : List Placeholder} {n : Str} (h : .state n ∈ ps) : n ∈ stateNames ps :=
  List.mem_filterMap.mpr ⟨_, h, rfl⟩

theorem mem_referenceNames {ref : Str} (h : ref.startsWith "state." = true) :
    ref.drop 6 ∈ referenceNames ref := by
  unfold referenceNames
  rw [if_pos h]
  exact List.mem_singleton_self _

/-- A source reads the store under its own name only. -/
theorem resolveSource_congr {source : Str} (h : DeviceStateStore.AgreeOn names store store')
    (hn : ∀ n ∈ referenceNames source, n ∈ names) :
    resolveSource H source request store = resolveSource H source request store' := by
  unfold resolveSource
  by_cases hstate : source.startsWith "state." = true
  · rw [h.get (hn _ (mem_referenceNames hstate))]
  · rw [if_neg hstate, if_neg hstate]

/-- A request path does not read the store. -/
theorem resolveSource_request (path : Str) (store store' : DeviceStateStore) :
    resolveSource H (str "request." ++ path) request store =
      resolveSource H (str "request." ++ path) request store' := by
  have hstart : (str "request." ++ path).startsWith "request." = true :=
    List.isPrefixOf_iff_prefix.mpr (List.prefix_append _ _)
  unfold resolveSource
  rw [if_pos hstart, if_pos hstart]

/-- A formula's text depends on the store through the variables it names. -/
theorem formulaText_congr (h : DeviceStateStore.AgreeOn names store store') {ps : List Piece}
    (hn : ∀ n ∈ stateNames (placeholdersOf ps), n ∈ names) :
    formulaText H request store ps = formulaText H request store' ps := by
  induction ps with
  | nil => rfl
  | cons p ps ih =>
    cases p with
    | char c =>
      rw [formulaText, formulaText, ih hn]
      rfl
    | var p =>
      have htail : ∀ n ∈ stateNames (placeholdersOf ps), n ∈ names := fun n hmem =>
        hn n (by
          obtain ⟨q, hq, hqn⟩ := List.mem_filterMap.mp hmem
          exact List.mem_filterMap.mpr ⟨q, List.mem_cons_of_mem _ hq, hqn⟩)
      have hhead : formulaVarValue H request store p = formulaVarValue H request store' p := by
        cases p with
        | state n =>
          have hmem : n ∈ names := hn n (mem_stateNames (by rw [placeholdersOf_var]; exact List.mem_cons_self))
          exact congrArg Except.ok (h.get hmem _)
        | request path =>
          show (resolveSource H _ request store).map _ = (resolveSource H _ request store').map _
          rw [resolveSource_request path store store']
        | uuid => rfl
      rw [formulaText, formulaText, ih htail]
      show (do
        let s ← (formulaVarValue H request store p >>= fun val => asFormulaLiteral H.toInterp val)
        _) = _
      rw [hhead]
      rfl

/-- A formula depends on the store through the variables it names. -/
theorem evalFormula_congr (h : DeviceStateStore.AgreeOn names store store') {formula : Str}
    (hn : ∀ n ∈ formulaNames H.toInterp formula, n ∈ names) :
    evalFormula H formula request store = evalFormula H formula request store' := by
  have hraw : evalFormulaRaw H formula request store = evalFormulaRaw H formula request store' := by
    unfold evalFormulaRaw
    split
    next hsingle =>
      have hname : (formula.drop 7).dropLast ∈ formulaNames H.toInterp formula := by
        unfold formulaNames
        rw [if_pos hsingle]
        exact List.mem_append_left _ (List.mem_singleton_self _)
      rw [h.get (hn _ hname)]
    next =>
      split
      · rw [resolveSource_request _ store store']
      · rw [formulaText_congr h fun n hmem => hn n (List.mem_append_right _ hmem)]
  unfold evalFormula
  rw [hraw]

/-- What a mapping writes depends on the store through the variables it names. -/
theorem mappedValue_congr (h : DeviceStateStore.AgreeOn names store store') {fm : FieldMapping}
    (hn : ∀ n ∈ mappingNames H.toInterp fm, n ∈ names) :
    mappedValue H fm request store = mappedValue H fm request store' := by
  have hformula : evalFormula H fm.formula request store = evalFormula H fm.formula request store' :=
    evalFormula_congr h fun n hmem => hn n (List.mem_append_right _ (List.mem_append_right _ hmem))
  unfold mappedValue
  rw [resolveSource_congr h fun n hmem => hn n (List.mem_append_left _ hmem), hformula]

/-- The mappings write the same body from stores that agree on what they name, and keep them in agreement. -/
theorem tagFieldMappings_congr (fms : List FieldMapping)
    (hn : ∀ fm ∈ fms, ∀ n ∈ mappingNames H.toInterp fm, n ∈ names) (body : TaggedBody)
    (store store' : DeviceStateStore) (h : DeviceStateStore.AgreeOn names store store') :
    (tagFieldMappings H request fms body store).1 = (tagFieldMappings H request fms body store').1 ∧
      DeviceStateStore.AgreeOn names (tagFieldMappings H request fms body store).2
        (tagFieldMappings H request fms body store').2 := by
  induction fms generalizing body store store' with
  | nil => exact ⟨rfl, h⟩
  | cons fm fms ih =>
    have hrest : ∀ fm ∈ fms, ∀ n ∈ mappingNames H.toInterp fm, n ∈ names :=
      fun fm hfm => hn fm (List.mem_cons_of_mem _ hfm)
    have hmapped : mappedValue H fm request store = mappedValue H fm request store' :=
      mappedValue_congr h (hn fm List.mem_cons_self)
    rw [tagFieldMappings, tagFieldMappings, tagFieldMapping, tagFieldMapping, ← hmapped]
    cases mappedValue H fm request store with
    | error e => exact ih hrest body store store' h
    | ok val =>
      cases val with
      | none => exact ih hrest body store store' h
      | some val =>
        simp only [Except.ok_bind]
        by_cases hstate : fm.target.startsWith "state." = true
        · have htarget : fm.target.drop 6 ∈ names := hn fm List.mem_cons_self _
            (List.mem_append_right _ (List.mem_append_left _ (mem_referenceNames hstate)))
          rw [if_pos hstate, if_pos hstate]
          exact ih hrest body _ _ (h.set htarget val)
        · rw [if_neg hstate, if_neg hstate]
          cases setNested H.toInterp body fm.target (val.map (Prod.mk (originOf fm))) with
          | error e => exact ih hrest body store store' h
          | ok body' => exact ih hrest body' store store' h

/-- A template string of the mapped body is a string of the body it started from. -/
theorem tagFieldMappings_template (fms : List FieldMapping) (body : TaggedBody)
    (store : DeviceStateStore) {s : Str}
    (hs : (Origin.template, s) ∈ (tagFieldMappings H request fms body store).1.strings) :
    (Origin.template, s) ∈ body.strings := by
  induction fms generalizing body store with
  | nil => exact hs
  | cons fm fms ih =>
    rw [tagFieldMappings] at hs
    split at hs
    next body' store' hstep =>
      have hmem := ih body' store' hs
      obtain ⟨val, _, hstep⟩ := Except.bind_ok_iff.mp hstep
      cases val with
      | none =>
        cases hstep
        exact hmem
      | some val =>
        dsimp only at hstep
        split at hstep
        · cases hstep
          exact hmem
        · obtain ⟨body₁, hset, hpair⟩ := Except.map_ok_iff.mp hstep
          cases hpair
          rcases strings_setAt hset hmem with hold | hnew
          · exact hold
          · -- what a mapping writes is not the template's
            rw [JsonTree.strings_map] at hnew
            obtain ⟨s', _, hs'⟩ := List.mem_map.mp hnew
            have horigin : originOf fm = .template := (Prod.mk.inj hs').1
            unfold originOf at horigin
            split at horigin <;> cases horigin
    next => exact ih body store hs

/-- The pieces of a text are rendered alike when their placeholders mean the same. -/
theorem expandPieces_congr {value value' : Placeholder → Build Json} {ps : List Piece}
    (h : ∀ p ∈ placeholdersOf ps, value p = value' p) :
    expandPieces I value ps = expandPieces I value' ps := by
  induction ps with
  | nil => rfl
  | cons p ps ih =>
    cases p with
    | char c =>
      rw [expandPieces, expandPieces, ih h]
    | var p =>
      rw [placeholdersOf_var] at h
      rw [expandPieces, expandPieces, h p List.mem_cons_self,
        ih fun q hq => h q (List.mem_cons_of_mem _ hq)]

theorem expandStr_congr {value value' : Placeholder → Build Json} {s : Str}
    (h : ∀ p ∈ placeholdersOf (pieces I s), value p = value' p) :
    expandStr I value s = expandStr I value' s := by
  unfold expandStr
  split
  · have hpieces := expandPieces_congr (I := I) h
    cases hwhole : wholeVar I s with
    | none =>
      show (expandPieces I value _ >>= _) = (expandPieces I value' _ >>= _)
      rw [hpieces]
    | some p =>
      have hmem : p ∈ placeholdersOf (pieces I s) := by
        unfold wholeVar at hwhole
        split at hwhole
        next q hq =>
          cases hwhole
          rw [hq, placeholdersOf_var]
          exact List.mem_cons_self
        next => cases hwhole
      show (value p >>= _) = (value' p >>= _)
      rw [h p hmem]
  · rfl

/-- **Stores that agree on the named variables give the same response**, when the template has no
    placeholder of its own or the strings the mappings wrote name no further variable. -/
theorem response_eq_of_agreeOn (H : Host) (t : TemplateView) (request : Json)
    (store store' : DeviceStateStore)
    (hcond : templateHasVars t.bodyTemplate = false ∨
      WrittenNamesKnown H.toInterp t (taggedBody H t request store).1)
    (h : DeviceStateStore.AgreeOn (templateNames H.toInterp t) store store') :
    Prod.fst <$> buildLocalResponse H t request store =
      Prod.fst <$> buildLocalResponse H t request store' := by
  have hmappings : ∀ fm ∈ t.fieldMappings, ∀ n ∈ mappingNames H.toInterp fm, n ∈ templateNames H.toInterp t :=
    fun fm hfm n hn => List.mem_append_right _ (List.mem_flatMap.mpr ⟨fm, hfm, hn⟩)
  have hpair : (taggedBody H t request store).1 = (taggedBody H t request store').1 ∧
      DeviceStateStore.AgreeOn (templateNames H.toInterp t) (taggedBody H t request store).2
        (taggedBody H t request store').2 :=
    tagFieldMappings_congr t.fieldMappings hmappings (t.bodyTemplate.map (Prod.mk .template)) store store' h
  obtain ⟨hbody, hagree⟩ := hpair
  have hcode : codeBody H.toInterp t (templateVarValue H (taggedBody H t request store).2 request)
        (taggedBody H t request store).1 =
      codeBody H.toInterp t (templateVarValue H (taggedBody H t request store').2 request)
        (taggedBody H t request store').1 := by
    rw [← hbody]
    cases hvars : templateHasVars t.bodyTemplate with
    | false => simp [codeBody, resolveTemplateVars, hvars]
    | true =>
      rw [codeBody_eq_traverse _ _ hvars, codeBody_eq_traverse _ _ hvars]
      refine JsonTree.traverse_congr _ fun os hos => expandStr_congr fun p hp => ?_
      cases p with
      | state n =>
        have hname : n ∈ templateNames H.toInterp t := by
          by_cases horigin : os.1 = .template
          · have hos' : (Origin.template, os.2) ∈ (taggedBody H t request store).1.strings := by
              rw [← horigin]
              exact hos
            have hstart := tagFieldMappings_template t.fieldMappings _ store hos'
            rw [JsonTree.strings_map] at hstart
            obtain ⟨s, hs, heq⟩ := List.mem_map.mp hstart
            have hs2 : s = os.2 := (Prod.mk.inj heq).2
            exact List.mem_append_left _ (List.mem_flatMap.mpr ⟨s, hs, hs2 ▸ mem_stateNames hp⟩)
          · rcases hcond with hno | hknown
            · rw [hvars] at hno
              cases hno
            · exact hknown os hos horigin n (mem_stateNames hp)
        show pure (DeviceStateStore.get _ n _) = pure (DeviceStateStore.get _ n _)
        rw [hagree.get hname]
      | request path =>
        show StateT.lift (resolveSource H _ request _) = StateT.lift (resolveSource H _ request _)
        rw [resolveSource_request]
      | uuid => rfl
  rw [buildLocalResponse_eq, buildLocalResponse_eq, hcode]
  simp only [map_bind, map_pure]

/-! ## A store that tells -/

/-- The mappings leave a variable alone that none of them has as its target. -/
theorem tagFieldMappings_get? (fms : List FieldMapping) (body : TaggedBody) (store : DeviceStateStore)
    {n : Str} (hn : ∀ fm ∈ fms, n ∉ referenceNames fm.target) :
    (tagFieldMappings H request fms body store).2.vars.get? n = store.vars.get? n := by
  induction fms generalizing body store with
  | nil => rfl
  | cons fm fms ih =>
    have hrest : ∀ fm ∈ fms, n ∉ referenceNames fm.target := fun fm hfm => hn fm (List.mem_cons_of_mem _ hfm)
    rw [tagFieldMappings]
    split
    next body' store' hstep =>
      rw [ih body' store' hrest]
      obtain ⟨val, _, hstep⟩ := Except.bind_ok_iff.mp hstep
      cases val with
      | none =>
        cases hstep
        rfl
      | some val =>
        dsimp only at hstep
        by_cases hstate : fm.target.startsWith "state." = true
        · rw [if_pos hstate] at hstep
          cases hstep
          have hne : fm.target.drop 6 ≠ n := fun heq =>
            hn fm List.mem_cons_self (heq ▸ mem_referenceNames hstate)
          rw [DeviceStateStore.get?_vars_set, if_neg hne]
        · rw [if_neg hstate] at hstep
          obtain ⟨body₁, _, hpair⟩ := Except.map_ok_iff.mp hstep
          cases hpair
          rfl
    next => exact ih body store hrest

/-- A text that names a variable shows its value. -/
theorem expandPieces_shows {value : Placeholder → Build Json} {n long : Str}
    (hvalue : value (.state n) = pure (.str long)) {ps : List Piece} (hn : .state n ∈ placeholdersOf ps)
    {k k' : Nat} {text : Str} (h : expandPieces I value ps k = .ok (text, k')) :
    long.length ≤ text.length := by
  induction ps generalizing k k' text with
  | nil => cases hn
  | cons p ps ih =>
    cases p with
    | char c =>
      obtain ⟨⟨rest, k₁⟩, hrest, htext⟩ := Except.bind_ok_iff.mp h
      cases htext
      rw [placeholdersOf_char] at hn
      have hlen := ih hn hrest
      rw [List.length_cons]
      omega
    | var p =>
      obtain ⟨⟨val, k₁⟩, hval, h⟩ := Except.bind_ok_iff.mp h
      obtain ⟨⟨head, k₂⟩, hhead, h⟩ := Except.bind_ok_iff.mp h
      obtain ⟨⟨rest, k₃⟩, hrest, htext⟩ := Except.bind_ok_iff.mp h
      cases htext
      rw [List.length_append]
      rw [placeholdersOf_var] at hn
      rcases List.mem_cons.mp hn with hhere | hlater
      · subst hhere
        rw [hvalue] at hval
        cases hval
        cases hhead
        omega
      · have hlen := ih hlater hrest
        omega

/-- A string that names a variable becomes a value that shows the variable's. -/
theorem expandStr_shows {value : Placeholder → Build Json} {n long s : Str}
    (hvalue : value (.state n) = pure (.str long)) (hn : n ∈ textNames I s)
    {k k' : Nat} {v : Json} (h : expandStr I value s k = .ok (v, k')) :
    ∃ text ∈ v.strings, long.length ≤ text.length := by
  have hmem : .state n ∈ placeholdersOf (pieces I s) := by
    obtain ⟨p, hp, hpn⟩ := List.mem_filterMap.mp hn
    cases p <;> cases hpn
    exact hp
  unfold expandStr at h
  rw [if_pos (mayHaveVars_of_placeholder (List.ne_nil_of_mem hmem))] at h
  cases hwhole : wholeVar I s with
  | none =>
    rw [hwhole] at h
    obtain ⟨⟨text, k₁⟩, htext, hv⟩ := Except.bind_ok_iff.mp h
    cases hv
    exact ⟨text, List.mem_singleton_self _, expandPieces_shows hvalue hmem htext⟩
  | some p =>
    rw [hwhole] at h
    have hp : p = .state n := by
      unfold wholeVar at hwhole
      split at hwhole
      next q hq =>
        cases hwhole
        rw [hq, placeholdersOf_var] at hmem
        exact (List.mem_singleton.mp hmem).symm
      next => cases hwhole
    subst hp
    obtain ⟨⟨val, k₁⟩, hval, hv⟩ := Except.bind_ok_iff.mp h
    rw [hvalue] at hval
    cases hval
    cases hv
    exact ⟨long, List.mem_singleton_self _, le_refl _⟩

/-- A text longer than every string of a value. -/
def longerThan (v : Json) : Str := List.replicate ((v.strings.map List.length).sum + 1) (cp 'x')

theorem length_lt_longerThan {v : Json} {s : Str} (hs : s ∈ v.strings) : s.length < (longerThan v).length := by
  have hle : s.length ≤ (v.strings.map List.length).sum :=
    List.le_sum_of_mem (List.mem_map.mpr ⟨s, hs, rfl⟩)
  unfold longerThan
  rw [List.length_replicate]
  omega

/-- **A written string that names a further variable tells it**: the response that was served is not the
    one of every store that agrees on the named variables. -/
theorem writtenNamesKnown_of_agreeOn (H : Host) (t : TemplateView) (request : Json)
    (store : DeviceStateStore) (seed : Nat) {r : LocalResponse × DeviceStateStore} {seed' : Nat}
    (hserved : buildLocalResponse H t request store seed = .ok (r, seed'))
    (hvars : templateHasVars t.bodyTemplate = true)
    (hall : ∀ store', DeviceStateStore.AgreeOn (templateNames H.toInterp t) store store' →
      Prod.fst <$> buildLocalResponse H t request store =
        Prod.fst <$> buildLocalResponse H t request store') :
    WrittenNamesKnown H.toInterp t (taggedBody H t request store).1 := by
  intro os hos _ n hn
  by_contra hunknown
  -- the same store with a long text in the unknown variable
  obtain ⟨store', hstore'⟩ : ∃ store' : DeviceStateStore,
      store' = { store with vars := store.vars.set n (.str (longerThan r.1.body)) } := ⟨_, rfl⟩
  have hget : ∀ m, store'.vars.get? m =
      if n = m then some (.str (longerThan r.1.body)) else store.vars.get? m := by
    intro m
    rw [hstore']
    exact Dict.get?_set _ _ _ _
  have hagree : DeviceStateStore.AgreeOn (templateNames H.toInterp t) store store' := by
    intro m hm
    have hne : n ≠ m := fun heq => hunknown (heq ▸ hm)
    rw [hget m, if_neg hne, hstore']
    exact ⟨rfl, rfl⟩
  have hmappings : ∀ fm ∈ t.fieldMappings, ∀ m ∈ mappingNames H.toInterp fm, m ∈ templateNames H.toInterp t :=
    fun fm hfm m hm => List.mem_append_right _ (List.mem_flatMap.mpr ⟨fm, hfm, hm⟩)
  have hbody : (taggedBody H t request store).1 = (taggedBody H t request store').1 :=
    (tagFieldMappings_congr t.fieldMappings hmappings _ store store' hagree).1
  have hkept : (taggedBody H t request store').2.vars.get? n = some (.str (longerThan r.1.body)) := by
    have huntouched : (taggedBody H t request store').2.vars.get? n = store'.vars.get? n :=
      tagFieldMappings_get? t.fieldMappings _ store' fun fm hfm hmem =>
        hunknown (hmappings fm hfm n (List.mem_append_right _ (List.mem_append_left _ hmem)))
    rw [huntouched, hget n, if_pos rfl]
  have hvalue : templateVarValue H (taggedBody H t request store').2 request (.state n) =
      pure (.str (longerThan r.1.body)) := by
    show pure (DeviceStateStore.get _ n _) = _
    unfold DeviceStateStore.get Dict.has
    rw [hkept]
    rfl
  -- the response from that store has the same body, with the long text in it
  have hrun := congrFun (hall store' hagree) seed
  have hleft : (Prod.fst <$> buildLocalResponse H t request store) seed = .ok (r.1, seed') := by
    show (buildLocalResponse H t request store seed >>= fun p => pure (p.1.1, p.2)) = _
    rw [hserved]
    rfl
  rw [hleft, buildLocalResponse_eq] at hrun
  obtain ⟨⟨r', seed₁⟩, hbuild, hr'⟩ := Except.bind_ok_iff.mp hrun.symm
  obtain ⟨⟨headers, k₁⟩, _, hbuild⟩ := Except.bind_ok_iff.mp hbuild
  obtain ⟨⟨body, k₂⟩, hresolved, hbuild⟩ := Except.bind_ok_iff.mp hbuild
  cases hbuild
  have hsame : body = r.1.body := congrArg (fun p => p.1.body) (Except.ok.inj hr')
  rw [codeBody_eq_traverse _ _ hvars] at hresolved
  obtain ⟨k, a, k', hleaf, hsub⟩ := JsonTree.leaf_of_traverse _ hresolved os (hbody ▸ hos)
  obtain ⟨text, htext, hlong⟩ := expandStr_shows hvalue hn hleaf
  have hshort := length_lt_longerThan (v := r.1.body) (hsame ▸ hsub text htext)
  omega

/-! ## Request data -/

theorem expandPieces_append (value : Placeholder → Build Json) (ps qs : List Piece) :
    expandPieces I value (ps ++ qs) = (do
      let before ← expandPieces I value ps
      let after ← expandPieces I value qs
      pure (before ++ after)) := by
  induction ps with
  | nil =>
    rw [List.nil_append, expandPieces, pure_bind]
    simp only [List.nil_append, bind_pure]
  | cons p ps ih =>
    cases p with
    | char c => simp only [List.cons_append, expandPieces, ih, bind_assoc, pure_bind]
    | var p => simp only [List.cons_append, expandPieces, ih, bind_assoc, pure_bind, List.append_assoc]

/-- What a request placeholder means stands in the result as it is: alone, or between what comes before
    and after it. -/
def SubstitutedVerbatim (I : Interp) : Prop :=
  ∀ (value : Placeholder → Build Json) (path v s : Str), value (.request path) = pure (.str v) →
    (wholeVar I s = some (.request path) → expandStr I value s = pure (.str v)) ∧
    ∀ ps qs, wholeVar I s = none → pieces I s = ps ++ .var (.request path) :: qs →
      expandStr I value s = (do
        let before ← expandPieces I value ps
        let after ← expandPieces I value qs
        pure (.str (before ++ (v ++ after))))

theorem substitutedVerbatim (I : Interp) : SubstitutedVerbatim I := by
  intro value path v s hvalue
  constructor
  · intro hwhole
    have hvars : mayHaveVars s = true := by
      refine mayHaveVars_of_placeholder (I := I) fun hnone => ?_
      unfold wholeVar at hwhole
      split at hwhole
      next p hp =>
        rw [hp, placeholdersOf_var] at hnone
        cases hnone
      next => cases hwhole
    unfold expandStr
    rw [if_pos hvars, hwhole]
    show (value (.request path) >>= _) = _
    rw [hvalue, pure_bind]
    rfl
  · intro ps qs hwhole hpieces
    have hmem : .request path ∈ placeholdersOf (pieces I s) := by
      rw [hpieces]
      exact List.mem_filterMap.mpr ⟨_, List.mem_append_right _ List.mem_cons_self, rfl⟩
    unfold expandStr
    rw [if_pos (mayHaveVars_of_placeholder (List.ne_nil_of_mem hmem)), hwhole]
    show (expandPieces I value (pieces I s) >>= _) = _
    rw [hpieces, expandPieces_append, expandPieces, hvalue]
    simp only [bind_assoc, pure_bind]
    rfl

/-- Nothing of a request is read again as a template: what a request placeholder means stands in the
    response as it is, the strings direct mappings copied come out as they were whatever the placeholders
    mean, and stores that agree on the named variables give the same response. -/
structure RequestDataVerbatim (H : Host) (t : TemplateView) (request : Json) (store : DeviceStateStore) :
    Prop where
  substituted : SubstitutedVerbatim H.toInterp
  mapped : ∀ value, codeBody H.toInterp t value (taggedBody H t request store).1 =
    verbatimBody H.toInterp t value (taggedBody H t request store).1
  undisclosed : ∀ store', DeviceStateStore.AgreeOn (templateNames H.toInterp t) store store' →
    Prod.fst <$> buildLocalResponse H t request store = Prod.fst <$> buildLocalResponse H t request store'

end

/-- A template with a placeholder of its own and a mapping that echoes a name. -/
def echoTemplate : TemplateView where
  statusCode := 200
  headersTemplate := .obj []
  bodyTemplate := .obj [(str "id", .str (str "\x7buuid\x7d")), (str "echo", .null)]
  fieldMappings :=
    [{ source := str "request.body.name", target := str "echo", transform := str "direct", mapping := none, formula := [] }]

/-- A request whose name is `name`. -/
def nameRequest (name : Str) : Json := .obj [(str "body", .obj [(str "name", .str name)])]

end RideTheApi.Engine
