import RideTheApi.Engine.Match
import RideTheApi.Py.Interp

/-!
# `Engine.Spelling` — what HTTP does not tell apart

A request and a pattern set may be spelled in more than one way: header names in another case, `https` for `http`, the
query string left on the path. A match reads the path up to the query and takes both schemes for one, and looks a required
header up as it is spelled.
-/

namespace RideTheApi.Engine

open Py PatternDb FirstMax

/-! ## Other spellings -/

/-- Two header names that HTTP does not tell apart. -/
def SameName (I : Interp) (n n' : Str) : Prop := I.lowerStr n = I.lowerStr n'

/-- An item of a list of required headers, in another case. -/
def SameItem (I : Interp) (v v' : Json) : Prop := v = v' ∨ ∃ n n', v = .str n ∧ v' = .str n' ∧ SameName I n n'

/-- Required headers, in another case. -/
def SameRequired (I : Interp) (v v' : Json) : Prop :=
  v = v' ∨ ∃ xs ys, v = .arr xs ∧ v' = .arr ys ∧ List.Forall₂ (SameItem I) xs ys

/-- A target whose required headers are spelled another way. -/
structure RespelledTarget (I : Interp) (t t' : PatternTarget) : Prop where
  method : t.method = t'.method
  pathPattern : t.pathPattern = t'.pathPattern
  bodySchema : t.bodySchema = t'.bodySchema
  queryParamKeys : t.queryParamKeys = t'.queryParamKeys
  required : SameRequired I t.requiredHeaders t'.requiredHeaders

/-- An endpoint whose required headers are spelled another way. -/
structure SameCompiled (I : Interp) (item item' : CompiledEndpoint) : Prop where
  endpoint : item'.endpoint = { item.endpoint with headers := item'.endpoint.headers }
  target : RespelledTarget I item.target item'.target
  protocol : item.protocol = item'.protocol
  intent : item.intent = item'.intent

/-- A row whose required headers are spelled another way. -/
structure SameRow (I : Interp) (pat pat' : RequestPattern) : Prop where
  others : pat' = { pat with requiredHeaders := pat'.requiredHeaders }
  required : SameRequired I pat.requiredHeaders pat'.requiredHeaders

/-- A source of candidates whose required headers are spelled another way. -/
inductive SameSet (I : Interp) : Option CachedPatterns → PatternTables → Option CachedPatterns → PatternTables → Prop where
  | cached {c c' : CachedPatterns} {db db' : PatternTables} (triggers : c.triggerMap = c'.triggerMap)
      (compiled : List.Forall₂ (SameCompiled I) c.compiled c'.compiled) : SameSet I (some c) db (some c') db'
  | rows {db db' : PatternTables} (templates : db.templates = db'.templates)
      (patterns : List.Forall₂ (SameRow I) db.patterns db'.patterns) : SameSet I none db none db'

/-- `http` or `https`. -/
def IsHttp (protocol : Str) : Prop := protocol = str "http" ∨ protocol = str "https"

/-- A request that is spelled another way: its header names, its scheme, the query on its path. -/
structure SameCall (I : Interp) (call call' : MatchCall) : Prop where
  method : call.method = call'.method
  body : call.body = call'.body
  queryParams : call.queryParams = call'.queryParams
  headers : List.Forall₂ (fun kv kv' => SameName I kv.1 kv'.1 ∧ kv.2 = kv'.2) call.headers call'.headers
  path : call.path.before (cp '?') = call'.path.before (cp '?')
  protocol : call.protocol = call'.protocol ∨ IsHttp call.protocol ∧ IsHttp call'.protocol

/-- A pattern that was found, in either spelling. -/
inductive SameMatched : MatchedPattern → MatchedPattern → Prop where
  | endpoint {ep ep' : ClientEndpoint} (others : ep' = { ep with headers := ep'.headers }) :
      SameMatched (.endpoint ep) (.endpoint ep')
  | row {pat pat' : RequestPattern} (others : pat' = { pat with requiredHeaders := pat'.requiredHeaders }) :
      SameMatched (.row pat) (.row pat')

/-- The same endpoint with the same template and score. -/
structure SameResult (r r' : MatchResult) : Prop where
  pattern : Option.Rel SameMatched r.pattern r'.pattern
  template : r.template = r'.template
  score : r.score = r'.score

/-! ## The condition -/

/-- The items of a list of required headers. -/
def requiredItems (required : Json) : List Json :=
  match required.iter with
  | .ok items => items
  | .error _  => []

/-- How many required headers are spelled like one of the request. -/
def found (names : List Str) (required : Json) : Nat :=
  (requiredItems required).countP fun item => (names.map JsonTree.str).contains item

/-- The request has as many of the required headers in one spelling as in the other. -/
def FoundAlike (call call' : MatchCall) (t t' : PatternTarget) : Prop :=
  found call.headers.keys t.requiredHeaders = found call'.headers.keys t'.requiredHeaders

/-- So it is for every candidate of the request's protocol. -/
inductive AllFoundAlike (call call' : MatchCall) :
    Option CachedPatterns → PatternTables → Option CachedPatterns → PatternTables → Prop where
  | cached {c c' : CachedPatterns} {db db' : PatternTables}
      (compiled : List.Forall₂ (fun item item' => protocolMatches call.protocol item.protocol = true →
        FoundAlike call call' item.target item'.target) c.compiled c'.compiled) :
      AllFoundAlike call call' (some c) db (some c') db'
  | rows {db db' : PatternTables}
      (patterns : List.Forall₂ (fun pat pat' => protocolMatches call.protocol pat.protocol = true →
        FoundAlike call call' ((rowCandidate db.templates).target pat) ((rowCandidate db'.templates).target pat'))
          db.patterns db'.patterns) :
      AllFoundAlike call call' none db none db'

/-- There is one candidate of the request's protocol. -/
def OneCandidate (call : MatchCall) (cached : Option CachedPatterns) (db : PatternTables) : Prop :=
  match cached with
  | some c => ∃ item, c.compiled.filter (fun item => protocolMatches call.protocol item.protocol) = [item]
  | none   => ∃ pat, db.patterns.filter (fun pat => protocolMatches call.protocol pat.protocol) = [pat]

/-! ## Counting keys -/

section
variable {I : Interp} {v v' : Json} {xs ys : List Json} {names names' : List Str}

/-- A value that a set takes as a member. -/
def isHashable : Json → Bool
  | .arr _ | .obj _ => false
  | _               => true

theorem memKeys_eq (v : Json) (names : List Str) : v.memKeys names =
    if isHashable v then .ok ((names.map JsonTree.str).contains v) else .error .typeError := by
  cases v with
  | str s =>
    have hmem : (names.map JsonTree.str : List Json).contains (.str s) = names.contains s := by
      rw [Bool.eq_iff_iff, List.contains_iff_mem, List.contains_iff_mem]
      simp
    exact congrArg Except.ok hmem.symm
  | arr xs => rfl
  | obj kvs => rfl
  | null | bool _ | int _ | float _ =>
    show Except.ok false = Except.ok _
    congr 1
    simp

theorem countKeys_eq (names : List Str) (xs : List Json) : countKeys names xs =
    if xs.all isHashable then .ok (xs.countP fun item => (names.map JsonTree.str).contains item)
    else .error .typeError := by
  induction xs with
  | nil => rfl
  | cons x xs ih =>
    rw [countKeys, memKeys_eq, ih, List.all_cons]
    cases isHashable x with
    | false => rfl
    | true =>
      cases xs.all isHashable with
      | false => rfl
      | true =>
        simp only [if_true, Bool.and_self, Except.ok_bind, List.countP_cons]
        cases (names.map JsonTree.str : List Json).contains x <;> simp [Nat.add_comm]

theorem SameItem.isHashable (h : SameItem I v v') : isHashable v = isHashable v' := by
  rcases h with rfl | ⟨n, n', rfl, rfl, -⟩
  · rfl
  · rfl

theorem all_isHashable (h : List.Forall₂ (SameItem I) xs ys) : xs.all isHashable = ys.all isHashable := by
  induction h with
  | nil => rfl
  | cons hitem _ ih => rw [List.all_cons, List.all_cons, hitem.isHashable, ih]

theorem SameRequired.truthy (h : SameRequired I v v') : v.truthy = v'.truthy := by
  rcases h with rfl | ⟨xs, ys, rfl, rfl, hitems⟩
  · rfl
  · cases hitems with
    | nil => rfl
    | cons _ _ => rfl

/-- Both spellings are read item by item, or neither is. -/
theorem SameRequired.iter (h : SameRequired I v v') : v.iter = .error .typeError ∧ v'.iter = .error .typeError ∨
    ∃ xs ys, v.iter = .ok xs ∧ v'.iter = .ok ys ∧ List.Forall₂ (SameItem I) xs ys := by
  rcases h with rfl | ⟨xs, ys, rfl, rfl, hitems⟩
  · cases v with
    | null | bool _ | int _ | float _ => exact .inl ⟨rfl, rfl⟩
    | str _ | arr _ | obj _ => exact .inr ⟨_, _, rfl, rfl, List.forall₂_same.mpr fun _ _ => .inl rfl⟩
  · exact .inr ⟨xs, ys, rfl, rfl, hitems⟩

/-- **The share of the required headers depends on how many are found.** -/
theorem shareOf_alike (h : SameRequired I v v') (hfound : found names v = found names' v') :
    shareOf v names = shareOf v' names' := by
  rcases h.iter with ⟨herror, herror'⟩ | ⟨xs, ys, hxs, hys, hitems⟩
  · unfold shareOf
    rw [herror, herror']
    rfl
  · have hcount : countKeys names xs = countKeys names' ys := by
      unfold found requiredItems at hfound
      rw [hxs, hys] at hfound
      rw [countKeys_eq, countKeys_eq, all_isHashable hitems, hfound]
    unfold shareOf
    rw [hxs, hys]
    simp only [Except.ok_bind, hcount, hitems.length_eq]

/-- A share that is computed. -/
theorem shareOf_ok {s : ℚ} (h : shareOf v names = .ok s) :
    ∃ xs, v.iter = .ok xs ∧ s = (found names v : ℚ) / xs.length := by
  obtain ⟨xs, hxs, h⟩ := Except.bind_ok_iff.mp h
  obtain ⟨n, hn, h⟩ := Except.bind_ok_iff.mp h
  rw [countKeys_eq] at hn
  split at hn
  · cases hn
    cases h
    refine ⟨xs, hxs, ?_⟩
    unfold found requiredItems
    rw [hxs]
  · cases hn

theorem iter_ne_nil (htruthy : v.truthy = true) (h : v.iter = .ok xs) : xs ≠ [] := by
  rintro rfl
  cases v with
  | null | bool _ | int _ | float _ => cases h
  | str s =>
    have hnil : s = [] := List.map_eq_nil_iff.mp (Except.ok.inj h)
    rw [hnil] at htruthy
    cases htruthy
  | arr xs =>
    obtain rfl : xs = [] := Except.ok.inj h
    cases htruthy
  | obj kvs =>
    have hnil : kvs = [] := List.map_eq_nil_iff.mp (Except.ok.inj h)
    rw [hnil] at htruthy
    cases htruthy

theorem found_of_falsy (hfalsy : v.truthy = false) : found names v = 0 := by
  have hitems : requiredItems v = [] := by
    cases v with
    | null | bool _ | int _ | float _ => rfl
    | str s => cases s <;> first | rfl | cases hfalsy
    | arr xs => cases xs <;> first | rfl | cases hfalsy
    | obj kvs => cases kvs <;> first | rfl | cases hfalsy
  unfold found
  rw [hitems]
  rfl

end

/-! ## Similarities -/

section
variable {I : Interp} {call call' : MatchCall} {t t' : PatternTarget}

theorem requestInput_path (h : SameCall I call call') : (requestInput call).path = (requestInput call').path := by
  rw [requestInput_eq_pathOnly, requestInput_eq_pathOnly]
  exact h.path

theorem methodPathScore_alike (ht : RespelledTarget I t t') (hc : SameCall I call call') :
    methodPathScore t (requestInput call) = methodPathScore t' (requestInput call') := by
  unfold methodPathScore
  rw [requestInput_path hc, ht.method, ht.pathPattern, show (requestInput call).method = call.method from rfl,
    hc.method]
  rfl

theorem weight_alike (ht : RespelledTarget I t t') (hc : SameCall I call call') :
    weight t (requestInput call) = weight t' (requestInput call') := by
  unfold weight hasBody
  rw [ht.required.truthy, ht.queryParamKeys, ht.bodySchema, show (requestInput call).body = call.body from rfl, hc.body]
  rfl

/-- **A similarity depends on how many required headers are found**, and not on their spelling, nor on that of the path. -/
theorem calculateSimilarity_alike (ht : RespelledTarget I t t') (hc : SameCall I call call')
    (hfound : FoundAlike call call' t t') (best : ℚ) :
    calculateSimilarity t (requestInput call) best = calculateSimilarity t' (requestInput call') best := by
  have hshare : shareOf t.requiredHeaders (requestInput call).headers.keys =
      shareOf t'.requiredHeaders (requestInput call').headers.keys := shareOf_alike ht.required hfound
  have hadd : ∀ score, addRemaining t (requestInput call) score = addRemaining t' (requestInput call') score := by
    intro score
    unfold addRemaining
    rw [hshare, ht.required.truthy, ht.queryParamKeys, ht.bodySchema,
      show (requestInput call).queryParams = call.queryParams from rfl, hc.queryParams,
      show (requestInput call).body = call.body from rfl, hc.body]
    rfl
  unfold calculateSimilarity
  dsimp only
  rw [methodPathScore_alike ht hc, weight_alike ht hc, hadd]

/-- The parts of a score that goes through all dimensions. -/
theorem score_parts {s : ℚ} (htruthy : t.requiredHeaders.truthy = true)
    (h : calculateSimilarity t (requestInput call) 0 = .ok s) :
    ∃ share qs bs, shareOf t.requiredHeaders call.headers.keys = .ok share ∧
      (if t.queryParamKeys.truthy then (shareOf t.queryParamKeys call.queryParams.keys).map fun s => [((10 : ℚ), s)]
        else .ok []) = .ok qs ∧
      (if hasBody t (requestInput call) then
        (if t.bodySchema.truthy && call.body.truthy then bodySimilarity t.bodySchema call.body else .ok 0).map
          fun s => [((15 : ℚ), s)]
        else .ok []) = .ok bs ∧
      s = (methodPathScore t (requestInput call) +
        (15 * share + WeightedMean.gained qs + WeightedMean.gained bs)) / weight t (requestInput call) := by
  have hweight : 75 ≤ weight t (requestInput call) := by
    unfold weight
    rw [if_pos htruthy]
    split <;> split <;> norm_num
  have hscore := (methodPathScore_mem t (requestInput call)).1
  unfold calculateSimilarity at h
  dsimp only at h
  rw [if_neg] at h
  · obtain ⟨sum, hadd, rfl⟩ := Except.map_ok_iff.mp h
    obtain ⟨ds, hds⟩ := remainingDims_of_addRemaining hadd
    have hsum := (remainingDims_ok hds).2.2 (methodPathScore t (requestInput call))
    obtain rfl : _ = sum := Except.ok.inj (hsum.symm.trans hadd)
    obtain ⟨hs, hh, hds⟩ := Except.bind_ok_iff.mp hds
    obtain ⟨qs, hq, hds⟩ := Except.bind_ok_iff.mp hds
    obtain ⟨bs, hb, hds⟩ := Except.bind_ok_iff.mp hds
    cases hds
    rw [if_pos htruthy] at hh
    obtain ⟨share, hshare, rfl⟩ := Except.map_ok_iff.mp hh
    refine ⟨share, qs, bs, hshare, hq, hb, ?_⟩
    rw [WeightedMean.gained_append, WeightedMean.gained_append]
    simp
  · -- required headers are worth something, so nothing is cut short
    rw [not_le]
    apply div_pos <;> linarith

/-- **Two spellings score alike iff as many required headers are found.** -/
theorem score_eq_iff (ht : RespelledTarget I t t') (hc : SameCall I call call') {s s' : ℚ}
    (h : calculateSimilarity t (requestInput call) 0 = .ok s)
    (h' : calculateSimilarity t' (requestInput call') 0 = .ok s') : s = s' ↔ FoundAlike call call' t t' := by
  cases htruthy : t.requiredHeaders.truthy with
  | false =>
    have hfound : FoundAlike call call' t t' := by
      unfold FoundAlike
      rw [found_of_falsy htruthy, found_of_falsy (ht.required.truthy ▸ htruthy)]
    rw [calculateSimilarity_alike ht hc hfound, h'] at h
    exact iff_of_true (Except.ok.inj h).symm hfound
  | true =>
    have htruthy' : t'.requiredHeaders.truthy = true := ht.required.truthy ▸ htruthy
    obtain ⟨share, qs, bs, hshare, hq, hb, rfl⟩ := score_parts htruthy h
    obtain ⟨share', qs', bs', hshare', hq', hb', rfl⟩ := score_parts htruthy' h'
    obtain rfl : qs = qs' := by
      rw [ht.queryParamKeys, hc.queryParams, hq'] at hq
      exact (Except.ok.inj hq).symm
    obtain rfl : bs = bs' := by
      unfold hasBody at hb hb'
      rw [ht.bodySchema, show (requestInput call).body = call.body from rfl, hc.body] at hb
      rw [show (requestInput call').body = call'.body from rfl, hb] at hb'
      exact Except.ok.inj hb'
    obtain ⟨xs, hxs, rfl⟩ := shareOf_ok hshare
    obtain ⟨ys, hys, rfl⟩ := shareOf_ok hshare'
    have hlength : xs.length = ys.length := by
      rcases ht.required.iter with ⟨herror, -⟩ | ⟨_, _, hxs', hys', hitems⟩
      · rw [herror] at hxs
        cases hxs
      · rw [hxs] at hxs'
        rw [hys] at hys'
        cases hxs'
        cases hys'
        exact hitems.length_eq
    have hpos : (0 : ℚ) < ys.length := by
      have hne := iter_ne_nil htruthy' hys
      exact_mod_cast List.length_pos_of_ne_nil hne
    have hweight : 0 < weight t' (requestInput call') := lt_of_lt_of_le (by norm_num) (sixty_le_weight _ _)
    rw [methodPathScore_alike ht hc, weight_alike ht hc, hlength, div_left_inj' hweight.ne']
    unfold FoundAlike
    constructor
    · intro heq
      have hdiv : (found call.headers.keys t.requiredHeaders : ℚ) / ys.length =
          (found call'.headers.keys t'.requiredHeaders : ℚ) / ys.length := by linarith
      rw [div_left_inj' hpos.ne'] at hdiv
      exact_mod_cast hdiv
    · intro heq
      rw [heq]

theorem protocolMatches_alike (hc : SameCall I call call') (p : Str) :
    protocolMatches call.protocol p = protocolMatches call'.protocol p := by
  have hhttp : ∀ protocol, IsHttp protocol → protocolMatches protocol p =
      (p.isEmpty || (["http", "https"].map str).contains p) := by
    intro protocol hprotocol
    have hfamily : protocol.isEmpty = false ∧ (["http", "https"].map str).contains protocol = true := by
      rcases hprotocol with rfl | rfl <;> decide
    unfold protocolMatches
    rw [hfamily.1, hfamily.2, Bool.false_or, Bool.true_and]
    cases heq : protocol == p with
    | false => rw [Bool.or_false]
    | true =>
      obtain rfl := eq_of_beq heq
      rw [hfamily.2]
      simp
  rcases hc.protocol with h | ⟨h, h'⟩
  · rw [h]
  · rw [hhttp _ h, hhttp _ h']

end

/-! ## Matches -/

section
variable {α β : Type} {I : Interp} {C C' : Candidate α β} {items items' : List α} {call call' : MatchCall} {R : α → α → Prop}

/-- Candidates that differ in the spelling of their required headers. -/
structure Candidate.Alike (I : Interp) (C C' : Candidate α β) (R : α → α → Prop) : Prop where
  method : ∀ a a', R a a' → C.method a = C'.method a'
  protocol : ∀ a a', R a a' → C.protocol a = C'.protocol a'
  target : ∀ a a', R a a' → RespelledTarget I (C.target a) (C'.target a')
  fetch : ∀ a a', R a a' → C.fetch a = C'.fetch a'

theorem compatible_alike (hC : C.Alike I C' R) (hc : SameCall I call call') {a a' : α} (ha : R a a') :
    compatible C call a = compatible C' call' a' := by
  unfold compatible
  rw [hC.protocol a a' ha, protocolMatches_alike hc]

/-- The candidates of the request's protocol keep their order. -/
theorem filter_compatible (hC : C.Alike I C' R) (hc : SameCall I call call') (hitems : List.Forall₂ R items items')
    {Q : α → α → Prop} (hQ : List.Forall₂ (fun a a' => compatible C call a = true → Q a a') items items') :
    List.Forall₂ (fun a a' => R a a' ∧ Q a a') (items.filter (compatible C call)) (items'.filter (compatible C' call')) := by
  induction hitems with
  | nil => exact .nil
  | @cons a a' items items' ha hitems ih =>
    obtain ⟨hQa, hQ⟩ := List.forall₂_cons.mp hQ
    have heq := compatible_alike hC hc ha
    by_cases hcompatible : compatible C call a = true
    · rw [List.filter_cons_of_pos hcompatible, List.filter_cons_of_pos (heq ▸ hcompatible)]
      exact .cons ⟨ha, hQa hcompatible⟩ (ih hQ)
    · rw [List.filter_cons_of_neg hcompatible, List.filter_cons_of_neg (heq ▸ hcompatible)]
      exact ih hQ

/-- **Two spellings match alike** where every candidate finds as many required headers in both. -/
theorem matchLoop_alike (hC : C.Alike I C' R) (hc : SameCall I call call') (hitems : List.Forall₂ R items items')
    (hfound : List.Forall₂ (fun a a' => compatible C call a = true → FoundAlike call call' (C.target a) (C'.target a'))
      items items') :
    Except.Rel (Best.Rel R fun _ _ => Eq) (matchLoop C items call) (matchLoop C' items' call') := by
  have hshortcuts : (shortcuts C call).Alike (shortcuts C' call') (compatible C call) (compatible C' call')
      (fun a a' => R a a' ∧ FoundAlike call call' (C.target a) (C'.target a')) := by
    refine ⟨fun _ => rfl, ?_, ?_, ?_⟩
    · intro best a a' ha
      show (decide (7 / 10 ≤ best) && C.method a != call.method) = (decide (7 / 10 ≤ best) && C'.method a' != call'.method)
      rw [hC.method a a' ha.1, hc.method]
    · intro a a' ha
      exact compatible_alike hC hc ha.1
    · intro best a a' ha
      exact calculateSimilarity_alike (hC.target a a' ha.1) hc ha.2 best
  have hfetch : ∀ a a', R a a' ∧ FoundAlike call call' (C.target a) (C'.target a') →
      Except.Rel Eq (C.fetch a) (C'.fetch a') := by
    intro a a' ha
    rw [hC.fetch a a' ha.1]
    exact .refl (fun _ => rfl) _
  have hinit : Best.Rel (fun a a' => R a a' ∧ FoundAlike call call' (C.target a) (C'.target a'))
      (fun _ _ => Eq) (⟨0, none⟩ : Best ℚ α β) ⟨0, none⟩ := ⟨rfl, .none⟩
  have hscan := prunedScan_rel hshortcuts hfetch (filter_compatible hC hc hitems hfound) hinit
  rw [prunedScan_filter, prunedScan_filter] at hscan
  apply hscan.mono
  rintro ⟨score, found⟩ ⟨score', found'⟩ ⟨hscore, hbest⟩
  refine ⟨hscore, ?_⟩
  change Option.Rel _ found found' at hbest
  cases hbest with
  | none => exact .none
  | some hp => exact .some ⟨hp.1.1, hp.2⟩

/-- The only candidate that is scored decides the score. -/
theorem matchLoop_single {a : α} {b : Best ℚ α β} (hitems : items.filter (compatible C call) = [a])
    (h : matchLoop C items call = .ok b) : calculateSimilarity (C.target a) (requestInput call) 0 = .ok b.score := by
  unfold matchLoop at h
  rw [← prunedScan_filter, hitems] at h
  have hadmits : compatible C call a = true := by
    have hmem : a ∈ items.filter (compatible C call) := by
      rw [hitems]
      exact List.mem_singleton_self a
    exact (List.mem_filter.mp hmem).2
  have hstop : (shortcuts C call).stop (0 : ℚ) = false := by
    show decide ((1 : ℚ) ≤ 0) = false
    norm_num
  have hskip : (shortcuts C call).skip (0 : ℚ) a = false := by
    show (decide ((7 / 10 : ℚ) ≤ 0) && _) = false
    norm_num
  rw [prunedScan] at h
  simp only [hstop, hskip, hadmits, Bool.false_eq_true, if_false, Bool.not_true] at h
  obtain ⟨s, hs, h⟩ := Except.bind_ok_iff.mp h
  obtain ⟨b', hoffer, h⟩ := Except.bind_ok_iff.mp h
  obtain rfl : b' = b := Except.ok.inj h
  unfold Best.offer at hoffer
  split at hoffer
  · obtain ⟨p, -, rfl⟩ := Except.map_ok_iff.mp hoffer
    exact hs
  · rename_i hle
    obtain rfl := Except.ok.inj hoffer
    have hzero : s = 0 := le_antisymm (not_lt.mp hle) (calculateSimilarity_mem hs).1
    rw [hzero] at hs
    exact hs

/-- What holds of the candidates of the request's protocol. -/
theorem of_filter_compatible (hC : C.Alike I C' R) (hc : SameCall I call call') (hitems : List.Forall₂ R items items')
    {Q : α → α → Prop}
    (hQ : List.Forall₂ Q (items.filter (compatible C call)) (items'.filter (compatible C' call'))) :
    List.Forall₂ (fun a a' => compatible C call a = true → Q a a') items items' := by
  induction hitems with
  | nil => exact .nil
  | @cons a a' items items' ha hitems ih =>
    have heq := compatible_alike hC hc ha
    by_cases hcompatible : compatible C call a = true
    · rw [List.filter_cons_of_pos hcompatible, List.filter_cons_of_pos (heq ▸ hcompatible)] at hQ
      obtain ⟨hQa, hQ⟩ := List.forall₂_cons.mp hQ
      exact .cons (fun _ => hQa) (ih hQ)
    · rw [List.filter_cons_of_neg hcompatible, List.filter_cons_of_neg (heq ▸ hcompatible)] at hQ
      exact .cons (fun h => absurd h hcompatible) (ih hQ)

/-- The only candidate scores alike in both spellings iff it finds as many required headers. -/
theorem matchLoop_single_iff (hC : C.Alike I C' R) (hc : SameCall I call call') (hitems : List.Forall₂ R items items')
    (hone : ∃ a, items.filter (compatible C call) = [a]) {b b' : Best ℚ α β} (h : matchLoop C items call = .ok b)
    (h' : matchLoop C' items' call' = .ok b') : b.score = b'.score ↔
      List.Forall₂ (fun a a' => compatible C call a = true → FoundAlike call call' (C.target a) (C'.target a'))
        items items' := by
  constructor
  · intro hscore
    obtain ⟨a, ha⟩ := hone
    have hpair : List.Forall₂ (fun a a' => R a a' ∧ True) [a] (items'.filter (compatible C' call')) := by
      rw [← ha]
      apply filter_compatible hC hc hitems
      apply hitems.imp
      intro _ _ _ _
      trivial
    obtain ⟨a', rest, ⟨haa', -⟩, hrest, ha'⟩ := List.forall₂_cons_left_iff.mp hpair
    obtain rfl := List.forall₂_nil_left_iff.mp hrest
    have hs := matchLoop_single ha h
    have hs' := matchLoop_single ha' h'
    have hfound := (score_eq_iff (hC.target a a' haa') hc hs hs').mp hscore
    apply of_filter_compatible hC hc hitems
    rw [ha, ha']
    exact .cons hfound .nil
  · intro hfound
    have halike := matchLoop_alike hC hc hitems hfound
    rw [h, h'] at halike
    cases halike with
    | ok hbest => exact hbest.1

end

/-! ## Both sources -/

section
variable {I : Interp} {call call' : MatchCall} {cached cached' : Option CachedPatterns} {db db' : PatternTables}

theorem compiledCandidate_alike (I : Interp) (triggers : Dict Str ServerResponse) :
    (compiledCandidate triggers).Alike I (compiledCandidate triggers) (SameCompiled I) where
  method _ _ h := h.target.method
  protocol _ _ h := h.protocol
  target _ _ h := h.target
  fetch a a' h := by
    show Except.ok (responseForEndpoint triggers a.endpoint.id a.intent) = .ok (responseForEndpoint triggers a'.endpoint.id a'.intent)
    rw [h.endpoint, h.intent]

theorem rowCandidate_alike (I : Interp) (templates : List ResponseTemplate) :
    (rowCandidate templates).Alike I (rowCandidate templates) (SameRow I) where
  method _ _ h := by
    rw [h.others]
    rfl
  protocol _ _ h := by
    rw [h.others]
    rfl
  target pat pat' h := by
    have hrequired : SameRequired I (pat.requiredHeaders.orElse (.arr [])) (pat'.requiredHeaders.orElse (.arr [])) := by
      unfold Json.orElse
      rw [h.required.truthy]
      split
      · exact h.required
      · exact .inl rfl
    refine ⟨?_, ?_, ?_, ?_, hrequired⟩ <;> rw [h.others] <;> rfl
  fetch _ _ h := by
    rw [h.others]
    rfl

theorem endpointResult_same {b b' : Best ℚ CompiledEndpoint (Option ServerResponse)}
    (h : Best.Rel (SameCompiled I) (fun _ _ => Eq) b b') : SameResult (endpointResult b) (endpointResult b') := by
  obtain ⟨score, found⟩ := b
  obtain ⟨score', found'⟩ := b'
  obtain ⟨hscore, hfound⟩ := h
  change Option.Rel _ found found' at hfound
  cases hfound with
  | none => exact ⟨.none, rfl, hscore⟩
  | @some p p' hp =>
    refine ⟨.some (.endpoint hp.1.endpoint), ?_, hscore⟩
    show p.2.map Template.response = p'.2.map Template.response
    rw [hp.2]

theorem rowResult_same {b b' : Best ℚ RequestPattern (Option ResponseTemplate)}
    (h : Best.Rel (SameRow I) (fun _ _ => Eq) b b') : SameResult (rowResult b) (rowResult b') := by
  obtain ⟨score, found⟩ := b
  obtain ⟨score', found'⟩ := b'
  obtain ⟨hscore, hfound⟩ := h
  change Option.Rel _ found found' at hfound
  cases hfound with
  | none => exact ⟨.none, rfl, hscore⟩
  | @some p p' hp =>
    refine ⟨.some (.row hp.1.others), ?_, hscore⟩
    show p.2.map Template.row = p'.2.map Template.row
    rw [hp.2]

end

/-- A request without another spelling of its header names always finds as many. -/
theorem allFoundAlike_of_headers {call call' : MatchCall} (hheaders : call.headers = call'.headers)
    (cached : Option CachedPatterns) (db : PatternTables) :
    AllFoundAlike call call' cached db cached db := by
  have halike : ∀ t, FoundAlike call call' t t := fun t => by rw [FoundAlike, hheaders]
  cases cached with
  | some c => exact .cached (List.forall₂_same.mpr fun _ _ _ => halike _)
  | none => exact .rows (List.forall₂_same.mpr fun _ _ _ => halike _)

/-- A pattern with a required header. -/
def hostPattern : CachedPatterns where
  compiled :=
    [{ endpoint := { id := "status", intent := "read", headers := [("required", [("Host" : Str)])] }
       target := { method := "GET", pathPattern := "/status", requiredHeaders := .arr [.str "Host"] }
       protocol := "http"
       intent := "read" }]
  triggerMap := []

/-- A request for it, in one case or another. -/
def statusCall (host path protocol : String) : MatchCall where
  method := "GET"
  path := path
  headers := [(host, "hub.local")]
  body := .null
  queryParams := []
  protocol := protocol

theorem statusCall_same (host host' path path' protocol protocol' : String)
    (hhost : SameName asciiInterp host host') (hpath : (str path).before (cp '?') = (str path').before (cp '?'))
    (hprotocol : IsHttp protocol ∧ IsHttp protocol') :
    SameCall asciiInterp (statusCall host path protocol) (statusCall host' path' protocol') where
  method := rfl
  body := rfl
  queryParams := rfl
  headers := .cons ⟨hhost, rfl⟩ .nil
  path := hpath
  protocol := .inr hprotocol

theorem hostPattern_same : SameSet asciiInterp (some hostPattern) ⟨[], []⟩ (some hostPattern) ⟨[], []⟩ := by
  refine .cached rfl (.cons ⟨rfl, ⟨rfl, rfl, rfl, rfl, .inl rfl⟩, rfl, rfl⟩ .nil)

end RideTheApi.Engine
