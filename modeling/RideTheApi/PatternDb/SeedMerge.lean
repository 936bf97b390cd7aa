import RideTheApi.PatternDb.Schemas

/-!
# `PatternDb.SeedMerge` — merging a seed pattern set into the learned one

The merge copies both sets and appends to the copy of the primary what the extra set has under other ids and
names. Its responses come after those of the primary, so a trigger the primary has keeps its response. A trigger
that only an added response has is new: it answers an endpoint of the primary that had no answer, and it
takes one whose id it names from the response that answered its intent.
-/

namespace RideTheApi.SeedMerge

open Py PatternDb

/-! ## The merge, on sets that are held -/

/-- The sets that are held, each at its address. -/
abbrev Heap := List PatternDB

/-- `model_copy(deep=True)`: another set with the same value. -/
def copy (heap : Heap) (address : Nat) : Option (Heap × Nat) :=
  heap[address]?.map fun doc => (heap ++ [doc], heap.length)

/-- `merged.client.endpoints += …`: the endpoints of other ids. -/
def addEndpoints (ids : List Str) (extra merged : PatternDB) : PatternDB :=
  { merged with
    client :=
      { merged.client with
        endpoints := merged.client.endpoints ++ extra.client.endpoints.filter fun ep => !ids.contains ep.id } }

/-- `merged.server.responses += …`. -/
def addResponses (ids : List Str) (extra merged : PatternDB) : PatternDB :=
  { merged with
    server :=
      { merged.server with
        responses := merged.server.responses ++ extra.server.responses.filter fun resp => !ids.contains resp.id } }

/-- `merged.server.state_variables += …`. -/
def addStateVariables (names : List Str) (extra merged : PatternDB) : PatternDB :=
  { merged with
    server :=
      { merged.server with
        stateVariables := merged.server.stateVariables ++
          extra.server.stateVariables.filter fun sv => !names.contains sv.name } }

/-- `merged.server.virtual_sensors += …`. -/
def addVirtualSensors (names : List Str) (extra merged : PatternDB) : PatternDB :=
  { merged with
    server :=
      { merged.server with
        virtualSensors := merged.server.virtualSensors ++
          extra.server.virtualSensors.filter fun vs => !names.contains vs.name } }

/-- `merge_pattern_dbs`, on two sets that are held: both are copied, and the copy of the primary is changed. -/
def mergeAt (heap : Heap) (primary extra : Nat) : Option (Heap × Nat) := do
  let (heap, merged) ← copy heap primary
  let (heap, extra) ← copy heap extra
  let primaryDoc ← heap[merged]?
  let extraDoc ← heap[extra]?
  let heap := heap.modify merged (addEndpoints (primaryDoc.client.endpoints.map (·.id)) extraDoc)
  let heap := heap.modify merged (addResponses (primaryDoc.server.responses.map (·.id)) extraDoc)
  let heap := heap.modify merged (addStateVariables (primaryDoc.server.stateVariables.map (·.name)) extraDoc)
  let heap := heap.modify merged (addVirtualSensors (primaryDoc.server.virtualSensors.map (·.name)) extraDoc)
  some (heap, merged)

section
variable {heap : Heap} {primary extra : Nat} {p e : PatternDB}

/-- The four additions are the merge of the two values. -/
theorem additions_eq (p e : PatternDB) :
    addVirtualSensors (p.server.virtualSensors.map (·.name)) e
        (addStateVariables (p.server.stateVariables.map (·.name)) e
          (addResponses (p.server.responses.map (·.id)) e
            (addEndpoints (p.client.endpoints.map (·.id)) e p))) = mergePatternDbs p e := rfl

/-- Changing the set that comes after the held ones. -/
theorem modify_length (heap more : Heap) (doc : PatternDB) (f : PatternDB → PatternDB) :
    (heap ++ doc :: more).modify heap.length f = heap ++ f doc :: more := by
  induction heap with
  | nil => rfl
  | cons held heap ih =>
    rw [List.cons_append, List.length_cons, List.modify_succ_cons, ih]
    rfl

/-- **A merge adds two sets to those that are held**: the merged one, and the copy of the extra one. -/
theorem mergeAt_eq (hp : heap[primary]? = some p) (he : heap[extra]? = some e) :
    mergeAt heap primary extra = some (heap ++ [mergePatternDbs p e, e], heap.length) := by
  have hcopied : (heap ++ [p])[extra]? = some e := by
    rw [List.getElem?_append_left (List.getElem?_eq_some_iff.mp he).1]
    exact he
  unfold mergeAt copy
  rw [hp]
  show (Option.bind ((heap ++ [p])[extra]?.map fun doc => ((heap ++ [p]) ++ [doc], (heap ++ [p]).length)) _) = _
  rw [hcopied]
  have hmerged : ((heap ++ [p]) ++ [e])[heap.length]? = some p := by simp
  have hextra : ((heap ++ [p]) ++ [e])[(heap ++ [p]).length]? = some e := by simp
  show (Option.bind (((heap ++ [p]) ++ [e])[heap.length]?) _) = _
  rw [hmerged]
  show (Option.bind (((heap ++ [p]) ++ [e])[(heap ++ [p]).length]?) _) = _
  rw [hextra]
  show some (_, heap.length) = _
  rw [List.append_assoc, List.singleton_append, modify_length, modify_length, modify_length, modify_length]
  rfl

/-! ## What a merge yields -/

/-- A set is the primary, followed by what the extra set has under other ids and names. -/
structure Extends (p e merged : PatternDB) : Prop where
  schemaUrl : merged.schemaUrl = p.schemaUrl
  patternMeta : merged.patternMeta = p.patternMeta
  protocols : merged.client.protocols = p.client.protocols
  authentication : merged.client.authentication = p.client.authentication
  endpoints : merged.client.endpoints =
    p.client.endpoints ++ e.client.endpoints.filter fun ep => ep.id ∉ p.client.endpoints.map (·.id)
  responses : merged.server.responses =
    p.server.responses ++ e.server.responses.filter fun resp => resp.id ∉ p.server.responses.map (·.id)
  stateVariables : merged.server.stateVariables =
    p.server.stateVariables ++ e.server.stateVariables.filter fun sv => sv.name ∉ p.server.stateVariables.map (·.name)
  virtualSensors : merged.server.virtualSensors =
    p.server.virtualSensors ++ e.server.virtualSensors.filter fun vs => vs.name ∉ p.server.virtualSensors.map (·.name)

/-- The filter of a merge, as a condition. -/
theorem filter_contains {α : Type} (f : α → Str) (names : List Str) (xs : List α) :
    (xs.filter fun x => !names.contains (f x)) = xs.filter fun x => f x ∉ names :=
  List.filter_congr fun x _ => by simp

theorem extends_mergePatternDbs (p e : PatternDB) : Extends p e (mergePatternDbs p e) where
  schemaUrl := rfl
  patternMeta := rfl
  protocols := rfl
  authentication := rfl
  endpoints := congrArg (p.client.endpoints ++ ·) (filter_contains ClientEndpoint.id _ _)
  responses := congrArg (p.server.responses ++ ·) (filter_contains ServerResponse.id _ _)
  stateVariables := congrArg (p.server.stateVariables ++ ·) (filter_contains StateVariable.name _ _)
  virtualSensors := congrArg (p.server.virtualSensors ++ ·) (filter_contains VirtualSensor.name _ _)

/-- What was added once is not added again. -/
theorem filter_again {α : Type} (f : α → Str) (xs ys : List α) :
    ((xs ++ ys.filter fun y => !(xs.map f).contains (f y)) ++
        ys.filter fun y => !((xs ++ ys.filter fun y => !(xs.map f).contains (f y)).map f).contains (f y)) =
      xs ++ ys.filter fun y => !(xs.map f).contains (f y) := by
  have hnone : (ys.filter fun y =>
      !((xs ++ ys.filter fun y => !(xs.map f).contains (f y)).map f).contains (f y)) = [] := by
    refine List.filter_eq_nil_iff.mpr fun y hy => ?_
    have hname : f y ∈ (xs ++ ys.filter fun y => !(xs.map f).contains (f y)).map f := by
      by_cases hmem : f y ∈ xs.map f
      · rw [List.map_append]
        exact List.mem_append_left _ hmem
      · have hadded : y ∈ ys.filter fun y => !(xs.map f).contains (f y) :=
          List.mem_filter.mpr ⟨hy, by simpa using hmem⟩
        exact List.mem_map_of_mem (List.mem_append_right _ hadded)
    rw [List.contains_iff_mem.mpr hname]
    decide
  rw [hnone, List.append_nil]

/-- **Merging the extra set again adds nothing.** -/
theorem mergePatternDbs_again (p e : PatternDB) : mergePatternDbs (mergePatternDbs p e) e = mergePatternDbs p e := by
  have hendpoints := filter_again (·.id) p.client.endpoints e.client.endpoints
  have hresponses := filter_again (·.id) p.server.responses e.server.responses
  have hvariables := filter_again (·.name) p.server.stateVariables e.server.stateVariables
  have hsensors := filter_again (·.name) p.server.virtualSensors e.server.virtualSensors
  unfold mergePatternDbs
  dsimp only
  rw [hendpoints, hresponses, hvariables, hsensors]

/-! ## The answers of the primary -/

/-- The first response that triggers on a text; nothing triggers on the empty one. -/
def named (responses : List ServerResponse) (trigger : Str) : Option ServerResponse :=
  if trigger = [] then none else responses.find? fun resp => resp.triggers.contains trigger

/-- The response that answers an endpoint: one named by its id, else one named by its intent. -/
theorem responseForEndpoint_named (responses : List ServerResponse) (id intent : Str) :
    responseForEndpoint (responsesByTrigger responses) id intent = (named responses id).or (named responses intent) := by
  unfold responseForEndpoint named Dict.has
  rw [get?_responsesByTrigger, get?_responsesByTrigger]
  by_cases hid : id = []
  · rw [if_neg (fun h => h.1 hid), if_pos hid, Option.none_or]
    by_cases hintent : intent = []
    · rw [if_neg (fun h => h hintent), if_pos hintent]
    · rw [if_pos hintent, if_neg hintent]
  · rw [if_neg hid]
    cases hfound : responses.find? fun resp => resp.triggers.contains id with
    | some resp => rw [if_pos ⟨hid, rfl⟩, Option.some_or]
    | none =>
      rw [if_neg (fun h => by cases h.2), Option.none_or]
      by_cases hintent : intent = []
      · rw [if_neg (fun h => h hintent), if_pos hintent]
      · rw [if_pos hintent, if_neg hintent]

theorem named_append (rs rs' : List ServerResponse) (trigger : Str) :
    named (rs ++ rs') trigger = (named rs trigger).or (named rs' trigger) := by
  unfold named
  by_cases h : trigger = []
  · rw [if_pos h, if_pos h, if_pos h]
    rfl
  · rw [if_neg h, if_neg h, if_neg h, List.find?_append]

theorem mem_of_named {rs : List ServerResponse} {trigger : Str} {resp : ServerResponse}
    (h : named rs trigger = some resp) : resp ∈ rs := by
  unfold named at h
  split at h
  · cases h
  · exact List.mem_of_find?_eq_some h

/-- The responses that a merge adds. -/
def added (p e : PatternDB) : List ServerResponse :=
  e.server.responses.filter fun resp => resp.id ∉ p.server.responses.map (·.id)

/-- Every endpoint of a set has the answer of the set also in another one. -/
def SameAnswers (p merged : PatternDB) : Prop :=
  ∀ ep ∈ p.client.endpoints,
    responseForEndpoint (responsesByTrigger merged.server.responses) ep.id ep.intent =
      responseForEndpoint (responsesByTrigger p.server.responses) ep.id ep.intent

/-- No added response takes an endpoint of the primary: by its id, unless a response of the primary names it,
    or by its intent, unless the primary answers it. -/
def Untaken (p e : PatternDB) : Prop :=
  ∀ ep ∈ p.client.endpoints,
    (named p.server.responses ep.id = none → named (added p e) ep.id = none) ∧
    (named p.server.responses ep.id = none → named p.server.responses ep.intent = none →
      named (added p e) ep.intent = none)

/-- An added response is none of the primary. -/
theorem ne_of_added {rs : List ServerResponse} {resp resp' : ServerResponse} (h : resp ∈ rs)
    (h' : resp'.id ∉ rs.map (·.id)) : resp' ≠ resp := by
  rintro rfl
  exact h' (List.mem_map_of_mem h)

/-- **The answers of the primary stay iff no added response takes an endpoint.** -/
theorem sameAnswers_iff (p e : PatternDB) : SameAnswers p (mergePatternDbs p e) ↔ Untaken p e := by
  have hresponses : (mergePatternDbs p e).server.responses = p.server.responses ++ added p e :=
    (extends_mergePatternDbs p e).responses
  have hfresh : ∀ trigger resp', named (added p e) trigger = some resp' →
      resp'.id ∉ p.server.responses.map (·.id) := by
    intro trigger resp' h
    simpa using (List.mem_filter.mp (mem_of_named h)).2
  refine forall₂_congr fun ep _ => ?_
  rw [hresponses, responseForEndpoint_named, responseForEndpoint_named, named_append, named_append]
  cases hid : named p.server.responses ep.id with
  | some resp => simp
  | none =>
    rw [Option.none_or, Option.none_or]
    cases hadded : named (added p e) ep.id with
    | some resp' =>
      -- the added response is not the one of the intent
      refine ⟨fun h => ?_, fun h => nomatch h.1 rfl⟩
      rw [Option.some_or] at h
      exact absurd rfl (ne_of_added (mem_of_named h.symm) (hfresh _ _ hadded))
    | none =>
      rw [Option.none_or]
      cases hintent : named p.server.responses ep.intent with
      | some resp => simp
      | none => simp

end

/-! ## A merge disturbs nothing -/

/-- A merge of two held sets yields the primary followed by what the extra set adds, changes no set that was
    held, adds nothing when it is made again, and keeps the answers of the primary. -/
def Undisturbed (heap : Heap) (primary extra : Nat) (p e : PatternDB) : Prop :=
  ∃ heap' merged, mergeAt heap primary extra = some (heap', heap.length) ∧ heap'[heap.length]? = some merged ∧
    Extends p e merged ∧ (∀ address < heap.length, heap'[address]? = heap[address]?) ∧
    (∃ heap'', mergeAt heap' heap.length extra = some (heap'', heap'.length) ∧ heap''[heap'.length]? = some merged) ∧
    SameAnswers p merged

/-- **A merge disturbs nothing iff no added response takes an endpoint of the primary**; all but the answers
    are kept by every merge. -/
theorem undisturbed_iff (heap : Heap) (primary extra : Nat) (p e : PatternDB) (hp : heap[primary]? = some p)
    (he : heap[extra]? = some e) : Undisturbed heap primary extra p e ↔ Untaken p e := by
  have hmerge := mergeAt_eq hp he
  have hmerged : (heap ++ [mergePatternDbs p e, e])[heap.length]? = some (mergePatternDbs p e) := by simp
  rw [← sameAnswers_iff]
  constructor
  · rintro ⟨heap', merged, hmerge', hmerged', _, _, _, hsame⟩
    rw [hmerge] at hmerge'
    cases hmerge'
    rw [hmerged] at hmerged'
    cases hmerged'
    exact hsame
  · intro hsame
    have hextra : (heap ++ [mergePatternDbs p e, e])[extra]? = some e := by
      rw [List.getElem?_append_left (List.getElem?_eq_some_iff.mp he).1]
      exact he
    refine ⟨_, _, hmerge, hmerged, extends_mergePatternDbs p e, fun address h => ?_, ⟨_, mergeAt_eq hmerged hextra, ?_⟩,
      hsame⟩
    · exact List.getElem?_append_left h
    · rw [mergePatternDbs_again]
      simp

/-! ## A lamp and its seeds -/

/-- A learned lamp: one endpoint, answered by a response of its intent. -/
def learnedLamp : PatternDB where
  patternMeta := { patternId := "lamp-patterns", vendor := "acme", deviceType := "light" }
  client := { endpoints := [{ id := "on", intent := "turn_on", path := "/on" }] }
  server := { responses := [{ id := "tpl_on", triggers := [str "turn_on"] }] }

/-- A seed that adds an endpoint with a response of its own. -/
def dimmerSeed : PatternDB where
  patternMeta := { patternId := "seed", vendor := "acme", deviceType := "light" }
  client := { endpoints := [{ id := "dim", intent := "set_level", path := "/dim" }] }
  server := { responses := [{ id := "r-dim", triggers := [str "dim", str "set_level"] }] }

theorem dimmerSeed_undisturbed : Undisturbed [learnedLamp, dimmerSeed] 0 1 learnedLamp dimmerSeed := by
  refine (undisturbed_iff [learnedLamp, dimmerSeed] 0 1 learnedLamp dimmerSeed rfl rfl).mpr fun ep hep => ?_
  obtain rfl := List.mem_singleton.mp hep
  decide +kernel

/-- A seed with another response for the endpoint of the lamp. -/
def switchSeed : PatternDB where
  patternMeta := { patternId := "seed", vendor := "acme", deviceType := "light" }
  client := { endpoints := [{ id := "on", intent := "turn_on", path := "/on" }] }
  server := { responses := [{ id := "r-on", triggers := [str "on"], statusCode := 204 }] }

/-- The seed's response takes the endpoint from the learned one. -/
theorem switchSeed_takes : ¬ ∀ (heap : Heap) (primary extra : Nat) (p e : PatternDB), heap[primary]? = some p →
    heap[extra]? = some e → (p.client.endpoints.map (·.id)).Nodup → (p.server.responses.map (·.id)).Nodup →
    (e.client.endpoints.map (·.id)).Nodup → (e.server.responses.map (·.id)).Nodup →
      Undisturbed heap primary extra p e := by
  intro h
  obtain ⟨heap', merged, hmerge, hmerged, _, _, _, hsame⟩ := h [learnedLamp, switchSeed] 0 1 learnedLamp switchSeed
    rfl rfl (by decide +kernel) (by decide +kernel) (by decide +kernel) (by decide +kernel)
  rw [mergeAt_eq rfl rfl] at hmerge
  cases hmerge
  cases hmerged
  exact absurd (hsame _ List.mem_cons_self) (by decide +kernel)

end RideTheApi.SeedMerge
