import RideTheApi.Redaction.Pairs

/-!
# `Redaction.Structural` — redaction is complete, local and idempotent

Every value under a sensitive key becomes the marker, at any depth; outside sensitive keys the shape and
everything that is not a string stay; and a second redaction changes nothing. Only the last of these has to
look into strings: the document that replaces a string is read back (`loads_dumps`), so the second redaction
walks over a body that is already redacted, and the strings in it are shorter.
-/

namespace RideTheApi.Redaction

open Py JsonGrammar

variable {I : Interp} {F : FloatReader I}

/-! ## The walk, with strings treated as documents -/

theorem redactJsonString_nil : redactJsonString F [] = [] := by
  rw [redactJsonString_eq]
  rfl

/-- A string inside a body is treated as a string body is. -/
theorem redactValueText_eq (s : Str) : redactValueText I (redactJsonString F) s = redactJsonString F s := by
  unfold redactValueText
  rw [braceOrBracket_lstrip]
  by_cases hdoc : braceOrBracket s.stripSpace = true
  · rw [if_pos hdoc]
  · have hpairs : redactJsonString F s = redactKeyValuePairs I s := by
      rw [redactJsonString_eq]
      unfold redactJsonStringWith
      exact if_neg hdoc
    rw [if_neg hdoc, hpairs]
    unfold redactKeyValuePairs
    cases s.contains (cp '=') <;> rfl

theorem redactBody_str (s : Str) : redactBody F (.str s) = .str (redactJsonString F s) := by
  unfold redactBody
  rw [redactBodyWith]
  split
  · next h => rw [List.isEmpty_iff.mp h, redactJsonString_nil]
  · rfl

theorem redactBody_arr (xs : List Json) : redactBody F (.arr xs) = .arr (xs.map (redactBody F)) := by
  unfold redactBody
  rw [redactBodyWith, redactItemsWith_eq]

theorem redactBody_obj (kvs : Dict Str Json) :
    redactBody F (.obj kvs) = .obj (kvs.map fun kv => (kv.1, redactValue F kv.1 kv.2)) := by
  unfold redactBody
  rw [redactBodyWith, redactEntriesWith_eq]
  rfl

/-- **A value is redacted by its key, else as a body is.** -/
theorem redactValue_eq (key : Str) (value : Json) :
    redactValue F key value = if isSensitiveKey I key then .str redacted else redactBody F value := by
  unfold redactValue redactUnder
  cases value with
  | str s => simp only [redactValueText_eq, redactBody_str]
  | obj | arr => rfl
  | null | bool | int | float => rfl

/-! ## What the walk keeps -/

/-- A redacted body repeats no key and holds no other scalars than before. -/
theorem redactBody_readable (v : Json) (h : Over Readable v) : Over Readable (redactBody F v) := by
  induction v using JsonTree.induction with
  | null | bool | int | float => exact h
  | str s =>
    rw [redactBody_str]
    exact trivial
  | arr xs ih =>
    rw [redactBody_arr]
    have hxs := overList_iff.mp h
    apply overList_iff.mpr
    intro y hy
    obtain ⟨x, hx, rfl⟩ := List.mem_map.mp hy
    exact ih x hx (hxs x hx)
  | obj kvs ih =>
    rw [redactBody_obj]
    have hkvs := overEntries_iff.mp h.2
    constructor
    · rw [Dict.keys, List.map_map]
      exact h.1
    · apply overEntries_iff.mpr
      intro kv hkv
      obtain ⟨e, he, rfl⟩ := List.mem_map.mp hkv
      refine ⟨trivial, ?_⟩
      show Over Readable (redactValue F e.1 e.2)
      rw [redactValue_eq]
      split
      · exact trivial
      · exact ih e he (hkvs e he).2

theorem redactBody_kind (v : Json) : kind (redactBody F v) = kind v := by
  cases v with
  | null | bool | int | float => rfl
  | str s =>
    rw [redactBody_str]
    rfl
  | arr xs =>
    rw [redactBody_arr]
    rfl
  | obj kvs =>
    rw [redactBody_obj]
    rfl

/-! ## String bodies, case by case -/

theorem redactJsonString_pairs {s : Str} (h : braceOrBracket s.stripSpace = false) :
    redactJsonString F s = redactKeyValuePairs I s := by
  rw [redactJsonString_eq]
  unfold redactJsonStringWith
  exact if_neg (by simp [h])

theorem redactJsonString_fast {s : Str} (hdoc : braceOrBracket s.stripSpace = true)
    (hfast : fastPath I s.stripSpace = true) : redactJsonString F s = s := by
  rw [redactJsonString_eq]
  unfold redactJsonStringWith
  dsimp only
  rw [if_pos hdoc, if_pos hfast]

theorem redactJsonString_unparsed {s : Str} (hdoc : braceOrBracket s.stripSpace = true)
    (hnone : loads F s.stripSpace = none) : redactJsonString F s = s := by
  rw [redactJsonString_eq]
  unfold redactJsonStringWith
  dsimp only
  rw [if_pos hdoc, hnone]
  exact ite_self s

/-- The text of an object or an array starts with a brace or a bracket, and nothing is stripped from it. -/
theorem dumpsRaw_container {v : Json} {s : Str} {b : Bool} (hkind : kind v = some b)
    (h : dumpsRaw I v = .ok s) : s.stripSpace = s ∧ braceOrBracket s = true := by
  have hends : ∀ (c d : CodePoint) (mid : Str), Str.isSpace c = false → Str.isSpace d = false →
      c = cp '\x7b' ∨ c = cp '[' → s = [c] ++ mid ++ [d] → s.stripSpace = s ∧ braceOrBracket s = true := by
    rintro c d mid hc hd hopen rfl
    exact ⟨stripSpace_of_ends mid hc hd, braceOrBracket_iff.mpr ⟨c, mid ++ [d], rfl, hopen⟩⟩
  cases v with
  | null | bool | int | float | str => cases hkind
  | arr xs =>
    obtain ⟨items, _, hs⟩ := Except.bind_ok_iff.mp h
    cases hs
    exact hends (cp '[') (cp ']') (joinWith ", " items) rfl rfl (.inr rfl) rfl
  | obj kvs =>
    obtain ⟨items, _, hs⟩ := Except.bind_ok_iff.mp h
    cases hs
    exact hends (cp '\x7b') (cp '\x7d') (joinWith ", " items) rfl rfl (.inl rfl) rfl

/-- **A document on the slow path is replaced by the text of the redacted document.** -/
theorem redactJsonString_slow {s : Str} {parsed : Json} (hdoc : braceOrBracket s.stripSpace = true)
    (hslow : fastPath I s.stripSpace = false) (hparsed : loads F s.stripSpace = some parsed) :
    ∃ t, redactJsonString F s = t ∧ dumpsRaw I (redactBody F parsed) = .ok t ∧
      loads F t = some (redactBody F parsed) ∧ t.stripSpace = t ∧ braceOrBracket t = true := by
  obtain ⟨t, ht, hloads⟩ := loads_dumps (F := F) (redactBody_readable parsed (loads_readable hparsed))
  obtain ⟨b, hkind⟩ := kind_of_braceOrBracket hdoc hparsed
  obtain ⟨hstrip, hopen⟩ := dumpsRaw_container ((redactBody_kind parsed).trans hkind) ht
  refine ⟨t, ?_, ht, hloads, hstrip, hopen⟩
  rw [redactJsonString_eq]
  unfold redactJsonStringWith
  dsimp only
  rw [if_pos hdoc, if_neg (by simp [hslow]), hparsed]
  dsimp only
  rw [ht]

/-! ## Idempotence -/

/-- A body is stable under redaction if its strings are. -/
theorem redactBody_idem_of (v : Json)
    (h : ∀ s ∈ v.strings, redactJsonString F (redactJsonString F s) = redactJsonString F s) :
    redactBody F (redactBody F v) = redactBody F v := by
  induction v using JsonTree.induction with
  | null | bool | int | float => rfl
  | str s =>
    rw [redactBody_str, redactBody_str, h s (List.mem_singleton_self s)]
  | arr xs ih =>
    rw [redactBody_arr, redactBody_arr, List.map_map]
    refine congrArg JsonTree.arr (List.map_congr_left ?_)
    intro x hx
    apply ih x hx
    intro s hs
    apply h
    rw [JsonTree.strings, JsonTree.stringsList_eq]
    exact List.mem_flatMap.mpr ⟨x, hx, hs⟩
  | obj kvs ih =>
    rw [redactBody_obj, redactBody_obj, List.map_map]
    refine congrArg JsonTree.obj (List.map_congr_left ?_)
    intro kv hkv
    refine Prod.ext rfl ?_
    show redactValue F kv.1 (redactValue F kv.1 kv.2) = redactValue F kv.1 kv.2
    rw [redactValue_eq, redactValue_eq]
    split
    · rfl
    · apply ih kv hkv
      intro s hs
      apply h
      rw [JsonTree.strings, JsonTree.stringsEntries_eq]
      exact List.mem_flatMap.mpr ⟨kv, hkv, hs⟩

/-- **Redacting a string body again changes nothing.** -/
theorem redactJsonString_idem (s : Str) :
    redactJsonString F (redactJsonString F s) = redactJsonString F s := by
  -- The induction is on the length: the strings of a document are shorter than its text.
  induction hn : s.length using Nat.strong_induction_on generalizing s with
  | _ n ih =>
    subst hn
    by_cases hdoc : braceOrBracket s.stripSpace = true
    case neg =>
      have hnot : braceOrBracket s.stripSpace = false := by simpa using hdoc
      have hstill : braceOrBracket (redactKeyValuePairs I s).stripSpace = false := by
        rw [braceOrBracket_congr ((first_eq_head_stripSpace _).trans
          ((redactKeyValuePairs_first s).trans (first_eq_head_stripSpace s).symm)), hnot]
      rw [redactJsonString_pairs hnot, redactJsonString_pairs hstill, redactKeyValuePairs_idem]
    case pos =>
      by_cases hfast : fastPath I s.stripSpace = true
      · rw [redactJsonString_fast hdoc hfast, redactJsonString_fast hdoc hfast]
      · cases hparsed : loads F s.stripSpace with
        | none => rw [redactJsonString_unparsed hdoc hparsed, redactJsonString_unparsed hdoc hparsed]
        | some parsed =>
          have hslow : fastPath I s.stripSpace = false := by simpa using hfast
          obtain ⟨t, hs, ht, hloads, hstrip, hopen⟩ := redactJsonString_slow hdoc hslow hparsed
          have hbody : redactBody F (redactBody F parsed) = redactBody F parsed :=
            redactBody_idem_of parsed fun u hu => ih u.length (strings_lt hparsed hu) u rfl
          have htdoc : braceOrBracket t.stripSpace = true := by rw [hstrip, hopen]
          rw [hs]
          by_cases htfast : fastPath I t.stripSpace = true
          · exact redactJsonString_fast htdoc htfast
          · obtain ⟨t', ht', hdumps, _⟩ :=
              redactJsonString_slow htdoc (by simpa using htfast) (hstrip.symm ▸ hloads)
            rw [hbody, ht] at hdumps
            rw [ht', Except.ok.inj hdumps]

/-- **Redacting a body again changes nothing.** -/
theorem redactBody_idem (v : Json) : redactBody F (redactBody F v) = redactBody F v :=
  redactBody_idem_of v fun s _ => redactJsonString_idem s

/-! ## Completeness -/

/-- Every value under a name that `sensitive` accepts is the marker, at any depth. -/
def Masked (sensitive : Str → Bool) (v : Json) : Prop :=
  ∀ kv ∈ v.entries, sensitive kv.1 = true → kv.2 = .str redacted

/-- **Nothing stays under a sensitive key.** -/
theorem redactBody_masked (v : Json) : Masked (isSensitiveKey I) (redactBody F v) := by
  induction v using JsonTree.induction with
  | null | bool | int | float => exact fun kv hkv => absurd hkv List.not_mem_nil
  | str s =>
    rw [redactBody_str]
    exact fun kv hkv => absurd hkv List.not_mem_nil
  | arr xs ih =>
    rw [redactBody_arr]
    intro kv hkv
    obtain ⟨y, hy, hkv⟩ := JsonTree.mem_entries_arr.mp hkv
    obtain ⟨x, hx, rfl⟩ := List.mem_map.mp hy
    exact ih x hx kv hkv
  | obj kvs ih =>
    rw [redactBody_obj]
    intro kv hkv hsensitive
    obtain ⟨e', he', hkv⟩ := JsonTree.mem_entries_obj.mp hkv
    obtain ⟨e, he, rfl⟩ := List.mem_map.mp he'
    rw [redactValue_eq] at hkv
    rcases hkv with rfl | hkv
    · exact if_pos hsensitive
    · by_cases hkey : isSensitiveKey I e.1 = true
      · rw [if_pos hkey] at hkv
        exact absurd hkv List.not_mem_nil
      · rw [if_neg hkey] at hkv
        exact ih e he kv hkv hsensitive

/-! ## Locality -/

section
variable (sensitive : Str → Bool)

mutual
/-- `w` has the shape of the first value and its scalars, strings aside, outside the names that `sensitive`
    accepts. -/
def KeepsOutside : Json → Json → Prop
  | .str _, w   => ∃ s, w = .str s
  | .arr xs, w  => ∃ ys, w = .arr ys ∧ KeepsItems xs ys
  | .obj kvs, w => ∃ kvs', w = .obj kvs' ∧ KeepsEntries kvs kvs'
  | v, w        => w = v
def KeepsItems : List Json → List Json → Prop
  | [], ys      => ys = []
  | x :: xs, ys => ∃ y ys', ys = y :: ys' ∧ KeepsOutside x y ∧ KeepsItems xs ys'
def KeepsEntries : List (Str × Json) → List (Str × Json) → Prop
  | [], kvs'            => kvs' = []
  | (k, v) :: kvs, kvs' =>
    ∃ w rest, kvs' = (k, w) :: rest ∧ (sensitive k = false → KeepsOutside v w) ∧ KeepsEntries kvs rest
end

end

mutual
/-- **Outside sensitive keys, only strings change.** -/
theorem redactBody_keepsOutside : ∀ v : Json, KeepsOutside (isSensitiveKey I) v (redactBody F v)
  | .null | .bool _ | .int _ | .float _ => rfl
  | .str s => ⟨_, redactBody_str s⟩
  | .arr xs => ⟨_, redactBody_arr xs, redactItems_keepsOutside xs⟩
  | .obj kvs => ⟨_, redactBody_obj kvs, redactEntries_keepsOutside kvs⟩
theorem redactItems_keepsOutside : ∀ xs : List Json,
    KeepsItems (isSensitiveKey I) xs (xs.map (redactBody F))
  | [] => rfl
  | x :: xs => ⟨_, _, rfl, redactBody_keepsOutside x, redactItems_keepsOutside xs⟩
theorem redactEntries_keepsOutside : ∀ kvs : List (Str × Json),
    KeepsEntries (isSensitiveKey I) kvs (kvs.map fun kv => (kv.1, redactValue F kv.1 kv.2))
  | [] => rfl
  | (k, v) :: kvs => by
    refine ⟨_, _, rfl, ?_, redactEntries_keepsOutside kvs⟩
    intro hkey
    show KeepsOutside (isSensitiveKey I) v (redactValue F k v)
    rw [redactValue_eq, if_neg (by simp [hkey])]
    exact redactBody_keepsOutside v
end

/-! ## Header and query maps -/

/-- The names are kept; what is not sensitive is kept; what is sensitive is the marker or empty, and only
    what was empty stays empty. -/
def NamesRedacted (sensitive : Str → Bool) (d d' : Dict Str Json) : Prop :=
  List.Forall₂ (fun e e' : Str × Json => e'.1 = e.1 ∧ (sensitive e.1 = false → e'.2 = e.2) ∧
    (sensitive e.1 = true → e'.2 = .str redacted ∨ e'.2 = e.2 ∧ isBlank e.2 = true)) d d'

/-- **A map is redacted at its sensitive names and nowhere else.** -/
theorem redactNames_namesRedacted (sensitive : Str → Bool) (d : Dict Str Json) :
    NamesRedacted sensitive d (redactNames sensitive d) := by
  unfold redactNames
  induction d with
  | nil => exact .nil
  | cons e d ih =>
    refine .cons ⟨rfl, ?_, ?_⟩ ih
    · intro hname
      simp [hname]
    · intro hname
      by_cases hblank : isBlank e.2 = true
      · exact .inr ⟨if_pos hblank, hblank⟩
      · refine .inl ?_
        dsimp only
        rw [if_neg hblank, if_pos hname]

/-- **Redacting a map again changes nothing.** -/
theorem redactNames_idem (sensitive : Str → Bool) (d : Dict Str Json) :
    redactNames sensitive (redactNames sensitive d) = redactNames sensitive d := by
  unfold redactNames
  rw [List.map_map]
  apply List.map_congr_left
  intro e _
  refine Prod.ext rfl ?_
  dsimp only [Function.comp]
  by_cases hblank : isBlank e.2 = true
  · simp only [if_pos hblank]
  · by_cases hname : sensitive e.1 = true
    · simp only [if_neg hblank, if_pos hname]
      exact ite_self _
    · simp only [if_neg hblank, if_neg hname]

theorem redactMapField_idem (sensitive : Str → Bool) {v v' : Json} (h : redactMapField sensitive v = some v') :
    redactMapField sensitive v' = some v' := by
  unfold redactMapField at h ⊢
  split at h
  · next hfalsy =>
    cases h
    rw [if_pos hfalsy]
  · cases v with
    | obj d =>
      cases h
      dsimp only
      rw [redactNames_idem]
      exact ite_self _
    | null | bool | int | float | str | arr => cases h

/-! ## Captured pairs -/

/-- A pair in which the field of `mapping` would not change. -/
def FieldStable (clone : Dict Str Json) (mapping : Str × (Json → Option Json)) : Prop :=
  ∀ v, clone.get? mapping.1 = some v → mapping.2 v = some v

theorem redactField_get? {clone clone' : Dict Str Json} {mapping : Str × (Json → Option Json)} {name : Str}
    (hname : name ≠ mapping.1) (h : redactField clone mapping = some clone') :
    clone'.get? name = clone.get? name := by
  unfold redactField at h
  split at h
  · obtain ⟨v', _, rfl⟩ := Option.map_eq_some_iff.mp h
    rw [Dict.get?_set, if_neg (Ne.symm hname)]
  · cases h
    rfl

theorem redactField_stable {clone clone' : Dict Str Json} {mapping : Str × (Json → Option Json)}
    (hidem : ∀ v v', mapping.2 v = some v' → mapping.2 v' = some v') (h : redactField clone mapping = some clone') :
    FieldStable clone' mapping := by
  intro w hw
  unfold redactField at h
  split at h
  · next v hv =>
    obtain ⟨v', hv', rfl⟩ := Option.map_eq_some_iff.mp h
    rw [Dict.get?_set, if_pos rfl] at hw
    cases hw
    exact hidem v _ hv'
  · next hnone =>
    cases h
    rw [hnone] at hw
    cases hw

theorem redactField_of_stable {clone : Dict Str Json} {mapping : Str × (Json → Option Json)}
    (h : FieldStable clone mapping) : redactField clone mapping = some clone := by
  unfold redactField
  cases hget : clone.get? mapping.1 with
  | none => rfl
  | some v =>
    dsimp only
    rw [h v hget, Option.map_some, Dict.set_of_get? hget]

/-- Fields that are redacted one after the other are stable afterwards. -/
theorem redactFields_stable {ms : List (Str × (Json → Option Json))} {clone clone' : Dict Str Json}
    (hnodup : (ms.map Prod.fst).Nodup) (hidem : ∀ m ∈ ms, ∀ v v', m.2 v = some v' → m.2 v' = some v')
    (h : ms.foldlM redactField clone = some clone') :
    (∀ m ∈ ms, FieldStable clone' m) ∧ ∀ name ∉ ms.map Prod.fst, clone'.get? name = clone.get? name := by
  induction ms generalizing clone with
  | nil =>
    cases h
    exact ⟨fun m hm => absurd hm List.not_mem_nil, fun _ _ => rfl⟩
  | cons m ms ih =>
    rw [List.foldlM_cons] at h
    obtain ⟨clone₁, hfield, hrest⟩ := Option.bind_eq_some_iff.mp h
    obtain ⟨hnot, hnodup⟩ := List.nodup_cons.mp hnodup
    obtain ⟨hstable, hkept⟩ := ih hnodup (fun m' hm' => hidem m' (List.mem_cons_of_mem _ hm')) hrest
    constructor
    · intro m' hm'
      rcases List.mem_cons.mp hm' with rfl | hm'
      · intro v hv
        rw [hkept _ hnot] at hv
        exact redactField_stable (hidem _ List.mem_cons_self) hfield v hv
      · exact hstable m' hm'
    · intro name hname
      obtain ⟨hne, hname⟩ := not_or.mp fun h => hname (List.mem_cons.mpr h)
      rw [hkept name hname, redactField_get? hne hfield]

theorem redactFields_of_stable {ms : List (Str × (Json → Option Json))} {clone : Dict Str Json}
    (h : ∀ m ∈ ms, FieldStable clone m) : ms.foldlM redactField clone = some clone := by
  induction ms with
  | nil => rfl
  | cons m ms ih =>
    rw [List.foldlM_cons, redactField_of_stable (h m List.mem_cons_self)]
    exact ih fun m' hm' => h m' (List.mem_cons_of_mem _ hm')

theorem redactMappings_nodup : ((redactMappings F).map Prod.fst).Nodup := by
  simp only [redactMappings, List.map_cons, List.map_nil]
  decide

theorem redactMappings_idem {m : Str × (Json → Option Json)} (hm : m ∈ redactMappings F) {v v' : Json}
    (h : m.2 v = some v') : m.2 v' = some v' := by
  have hbody : ∀ v v' : Json, some (redactBody F v) = some v' → some (redactBody F v') = some v' := by
    rintro v v' hv
    cases hv
    rw [redactBody_idem]
  simp only [redactMappings, List.map_cons, List.map_nil, List.mem_cons, List.not_mem_nil, or_false] at hm
  rcases hm with rfl | rfl | rfl | rfl | rfl
  · exact redactMapField_idem _ h
  · exact redactMapField_idem _ h
  · exact redactMapField_idem _ h
  · exact hbody v v' h
  · exact hbody v v' h

/-- A pair as it was captured: each field that is redacted holds what redaction left of a value. -/
def Captured (F : FloatReader I) (pair : Dict Str Json) : Prop :=
  ∀ m ∈ redactMappings F, ∀ v, pair.get? m.1 = some v → ∃ raw, m.2 raw = some v

/-- **A captured pair goes into a prompt unchanged.** -/
theorem redactPair_captured {pair : Dict Str Json} (h : Captured F pair) :
    redactPair F (.obj pair) = some (.obj pair) := by
  have hstable : ∀ m ∈ redactMappings F, FieldStable pair m := by
    intro m hm v hv
    obtain ⟨raw, hraw⟩ := h m hm v hv
    exact redactMappings_idem hm hraw
  show ((redactMappings F).foldlM redactField pair).map JsonTree.obj = _
  rw [redactFields_of_stable hstable]
  rfl

/-- **Redacting a captured pair again changes nothing.** -/
theorem redactPair_idem {pair pair' : Json} (h : redactPair F pair = some pair') :
    redactPair F pair' = some pair' := by
  cases pair with
  | obj d =>
    obtain ⟨d', hd', rfl⟩ := Option.map_eq_some_iff.mp h
    obtain ⟨hstable, _⟩ := redactFields_stable redactMappings_nodup
      (fun m hm v v' hv => redactMappings_idem hm hv) hd'
    show ((redactMappings F).foldlM redactField d').map JsonTree.obj = _
    rw [redactFields_of_stable hstable]
    rfl
  | null | bool | int | float | str | arr =>
    cases h
    rfl

/-- **Redacting captured pairs again changes nothing**, where the first redaction does not raise. -/
theorem redactPairsForPrompt_idem (pairs : Json) :
    (redactPairsForPrompt F pairs).bind (redactPairsForPrompt F) = redactPairsForPrompt F pairs := by
  cases pairs with
  | arr xs =>
    have hitems : ∀ xs ys : List Json, xs.mapM (redactPair F) = some ys → ys.mapM (redactPair F) = some ys := by
      intro xs
      induction xs with
      | nil =>
        intro ys h
        cases h
        rfl
      | cons x xs ih =>
        intro ys h
        rw [List.mapM_cons] at h
        obtain ⟨y, hy, h⟩ := Option.bind_eq_some_iff.mp h
        obtain ⟨ys', hys', h⟩ := Option.bind_eq_some_iff.mp h
        cases h
        rw [List.mapM_cons, redactPair_idem hy, ih ys' hys']
        rfl
    show ((xs.mapM (redactPair F)).map JsonTree.arr).bind (redactPairsForPrompt F) = _
    cases hxs : xs.mapM (redactPair F) with
    | none =>
      show none = (xs.mapM (redactPair F)).map JsonTree.arr
      rw [hxs]
      rfl
    | some ys =>
      show (ys.mapM (redactPair F)).map JsonTree.arr = (xs.mapM (redactPair F)).map JsonTree.arr
      rw [hxs, hitems xs ys hxs]
  | null | bool | int | float | str | obj => rfl

/-- **Captured pairs go into a prompt unchanged.** -/
theorem redactPairsForPrompt_captured {pairs : List (Dict Str Json)} (h : ∀ pair ∈ pairs, Captured F pair) :
    redactPairsForPrompt F (.arr (pairs.map .obj)) = some (.arr (pairs.map .obj)) := by
  have hitems : (pairs.map JsonTree.obj).mapM (redactPair F) = some (pairs.map JsonTree.obj) := by
    induction pairs with
    | nil => rfl
    | cons pair pairs ih =>
      rw [List.map_cons, List.mapM_cons, redactPair_captured (h pair List.mem_cons_self),
        ih fun p hp => h p (List.mem_cons_of_mem _ hp)]
      rfl
  show ((pairs.map JsonTree.obj).mapM (redactPair F)).map JsonTree.arr = _
  rw [hitems]
  rfl

/-! ## The three properties together -/

/-- **Redaction is complete, local and idempotent**: over bodies, header maps and query maps, and over the
    pairs that are redacted at capture and again before a prompt. -/
theorem redaction_complete_local_idempotent (F : FloatReader I) :
    (∀ body, Masked (isSensitiveKey I) (redactBody F body) ∧
      KeepsOutside (isSensitiveKey I) body (redactBody F body) ∧
      redactBody F (redactBody F body) = redactBody F body) ∧
    (∀ headers, ∃ headers', redactHeaders I (some headers) = some headers' ∧
      NamesRedacted (isSensitiveHeader I) headers headers' ∧ redactHeaders I (some headers') = some headers') ∧
    (∀ queryParams, ∃ queryParams', redactQuery I (some queryParams) = some queryParams' ∧
      NamesRedacted (isSensitiveQueryParam I) queryParams queryParams' ∧
      redactQuery I (some queryParams') = some queryParams') ∧
    (∀ pairs, (redactPairsForPrompt F pairs).bind (redactPairsForPrompt F) = redactPairsForPrompt F pairs) ∧
    ∀ pairs : List (Dict Str Json), (∀ pair ∈ pairs, Captured F pair) →
      redactPairsForPrompt F (.arr (pairs.map .obj)) = some (.arr (pairs.map .obj)) := by
  refine ⟨?_, ?_, ?_, redactPairsForPrompt_idem, fun pairs => redactPairsForPrompt_captured⟩
  · exact fun body => ⟨redactBody_masked body, redactBody_keepsOutside body, redactBody_idem body⟩
  · exact fun d => ⟨_, rfl, redactNames_namesRedacted _ d, congrArg some (redactNames_idem _ d)⟩
  · exact fun d => ⟨_, rfl, redactNames_namesRedacted _ d, congrArg some (redactNames_idem _ d)⟩

end RideTheApi.Redaction
