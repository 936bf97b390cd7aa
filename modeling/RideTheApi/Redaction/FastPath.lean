import RideTheApi.Redaction.Structural

/-!
# `Redaction.FastPath` — when redacting the text of a document agrees with redacting the document

The fast path returns a text untouched when no stem of a sensitive key occurs in it. The walk knows more
names than the stems do: the query parameters that are sensitive inside `key=value` strings, and keys that
become sensitive once every character but letters and digits is removed, where the text only loses its
whitespace, `_` and `-`. So the two agree exactly when the fast path is not taken or the document has nothing
to redact (`textual_agrees_iff`).
-/

namespace RideTheApi.Redaction

open Py JsonGrammar

section
variable {I : Interp} (F : FloatReader I)

/-! ## Documents with nothing to redact -/

mutual
/-- The string values outside sensitive keys. -/
def exposed (I : Interp) : Json → List Str
  | .str s   => [s]
  | .arr xs  => exposedItems I xs
  | .obj kvs => exposedEntries I kvs
  | _        => []
def exposedItems (I : Interp) : List Json → List Str
  | []      => []
  | x :: xs => exposed I x ++ exposedItems I xs
def exposedEntries (I : Interp) : List (Str × Json) → List Str
  | []            => []
  | (k, v) :: kvs => (if isSensitiveKey I k then [] else exposed I v) ++ exposedEntries I kvs
end

/-- A string with nothing to redact: pairs whose sensitive values are the marker already, a text that looks
    like a document and is on the fast path or is no document, or the text that `dumps` gives a document with
    nothing to redact. -/
inductive Untouched : Str → Prop where
  | pairs {s : Str} (hdoc : braceOrBracket s.stripSpace = false)
      (hmasked : ∀ part ∈ splitPairs [] s, isSensitivePair I part = true → part = maskedPair part) : Untouched s
  | fast {s : Str} (hdoc : braceOrBracket s.stripSpace = true) (hfast : fastPath I s.stripSpace = true) :
      Untouched s
  | unparsed {s : Str} (hdoc : braceOrBracket s.stripSpace = true) (hnone : loads F s.stripSpace = none) :
      Untouched s
  | document {s : Str} (v : Json) (hdoc : braceOrBracket s.stripSpace = true)
      (hparsed : loads F s.stripSpace = some v) (hdumps : dumpsRaw I v = .ok s)
      (hmasked : Masked (isSensitiveKey I) v) (hexposed : ∀ u ∈ exposed I v, Untouched u) : Untouched s

/-- A body with nothing to redact: every sensitive key holds the marker, and the other strings have nothing
    to redact. -/
def NothingToRedact (v : Json) : Prop :=
  Masked (isSensitiveKey I) v ∧ ∀ s ∈ exposed I v, Untouched F s

end

variable {I : Interp} {F : FloatReader I}

theorem mem_exposed_arr {xs : List Json} {s : Str} :
    s ∈ exposed I (.arr xs) ↔ ∃ x ∈ xs, s ∈ exposed I x := by
  show s ∈ exposedItems I xs ↔ _
  induction xs with
  | nil => simp [exposedItems]
  | cons x xs ih => simp [exposedItems, ih]

theorem mem_exposed_obj {kvs : List (Str × Json)} {s : Str} :
    s ∈ exposed I (.obj kvs) ↔ ∃ kv ∈ kvs, isSensitiveKey I kv.1 = false ∧ s ∈ exposed I kv.2 := by
  show s ∈ exposedEntries I kvs ↔ _
  induction kvs with
  | nil => simp [exposedEntries]
  | cons kv kvs ih =>
    obtain ⟨k, v⟩ := kv
    rw [exposedEntries, List.mem_append, ih, List.exists_mem_cons_iff]
    cases hkey : isSensitiveKey I k <;> simp

/-- An exposed string is a string of the body. -/
theorem exposed_subset_strings (v : Json) : ∀ s ∈ exposed I v, s ∈ v.strings := by
  induction v using JsonTree.induction with
  | null | bool | int | float => exact fun s hs => absurd hs List.not_mem_nil
  | str s => exact fun s hs => hs
  | arr xs ih =>
    intro s hs
    obtain ⟨x, hx, hs⟩ := mem_exposed_arr.mp hs
    rw [JsonTree.strings, JsonTree.stringsList_eq]
    exact List.mem_flatMap.mpr ⟨x, hx, ih x hx s hs⟩
  | obj kvs ih =>
    intro s hs
    obtain ⟨kv, hkv, _, hs⟩ := mem_exposed_obj.mp hs
    rw [JsonTree.strings, JsonTree.stringsEntries_eq]
    exact List.mem_flatMap.mpr ⟨kv, hkv, ih kv hkv s hs⟩

/-! ## Nothing to redact, nothing changed -/

theorem map_eq_self_iff {α : Type} {f : α → α} {xs : List α} : xs.map f = xs ↔ ∀ x ∈ xs, f x = x := by
  induction xs with
  | nil => simp
  | cons x xs ih => simp [ih]

/-- **Redaction keeps a body iff every sensitive key holds the marker and it keeps the other strings.** -/
theorem redactBody_eq_self_iff_strings (v : Json) : redactBody F v = v ↔
    Masked (isSensitiveKey I) v ∧ ∀ s ∈ exposed I v, redactJsonString F s = s := by
  induction v using JsonTree.induction with
  | null | bool | int | float =>
    exact iff_of_true rfl ⟨fun kv hkv => absurd hkv List.not_mem_nil, fun s hs => absurd hs List.not_mem_nil⟩
  | str s =>
    rw [redactBody_str]
    constructor
    · intro h
      refine ⟨fun kv hkv => absurd hkv List.not_mem_nil, fun u hu => ?_⟩
      rw [List.mem_singleton.mp hu]
      exact JsonTree.str.inj h
    · intro h
      rw [h.2 s (List.mem_singleton_self s)]
  | arr xs ih =>
    rw [redactBody_arr, JsonTree.arr.injEq, map_eq_self_iff]
    constructor
    · intro h
      constructor
      · intro kv hkv
        obtain ⟨x, hx, hkv⟩ := JsonTree.mem_entries_arr.mp hkv
        exact ((ih x hx).mp (h x hx)).1 kv hkv
      · intro s hs
        obtain ⟨x, hx, hs⟩ := mem_exposed_arr.mp hs
        exact ((ih x hx).mp (h x hx)).2 s hs
    · intro h x hx
      apply (ih x hx).mpr
      constructor
      · exact fun kv hkv => h.1 kv (JsonTree.mem_entries_arr.mpr ⟨x, hx, hkv⟩)
      · exact fun s hs => h.2 s (mem_exposed_arr.mpr ⟨x, hx, hs⟩)
  | obj kvs ih =>
    rw [redactBody_obj, JsonTree.obj.injEq, map_eq_self_iff]
    constructor
    · intro h
      -- a sensitive key hides its whole value, so the induction only goes below the others
      have hvalue : ∀ kv ∈ kvs, redactValue F kv.1 kv.2 = kv.2 := fun kv hkv => congrArg Prod.snd (h kv hkv)
      simp only [redactValue_eq] at hvalue
      constructor
      · intro kv hkv hsensitive
        obtain ⟨e, he, hkv⟩ := JsonTree.mem_entries_obj.mp hkv
        have hkept := hvalue e he
        by_cases hkey : isSensitiveKey I e.1 = true
        · rw [if_pos hkey] at hkept
          rcases hkv with rfl | hkv
          · exact hkept.symm
          · rw [← hkept] at hkv
            exact absurd hkv List.not_mem_nil
        · rw [if_neg hkey] at hkept
          rcases hkv with rfl | hkv
          · exact absurd hsensitive hkey
          · exact ((ih e he).mp hkept).1 kv hkv hsensitive
      · intro s hs
        obtain ⟨e, he, hkey, hs⟩ := mem_exposed_obj.mp hs
        have hkept := hvalue e he
        rw [if_neg (by simp [hkey])] at hkept
        exact ((ih e he).mp hkept).2 s hs
    · intro h e he
      refine Prod.ext rfl ?_
      dsimp only
      rw [redactValue_eq]
      split
      · next hkey => exact (h.1 e (JsonTree.mem_entries_obj.mpr ⟨e, he, .inl rfl⟩) hkey).symm
      · next hkey =>
        apply (ih e he).mpr
        constructor
        · exact fun kv hkv => h.1 kv (JsonTree.mem_entries_obj.mpr ⟨e, he, .inr hkv⟩)
        · exact fun s hs => h.2 s (mem_exposed_obj.mpr ⟨e, he, by simpa using hkey, hs⟩)

/-- Pairs are kept iff the sensitive ones hold the marker. -/
theorem redactKeyValuePairs_eq_self_iff (s : Str) : redactKeyValuePairs I s = s ↔
    ∀ part ∈ splitPairs [] s, isSensitivePair I part = true → part = maskedPair part := by
  have huncut : Uncut [] s := ⟨fun c hc => absurd hc List.not_mem_nil, fun h => nomatch h⟩
  have hflatten := flatten_splitPairs [] s
  rw [List.nil_append] at hflatten
  constructor
  · intro h part hpart hsensitive
    have heq : cp '=' ∈ s := by
      simp only [isSensitivePair, Bool.and_eq_true] at hsensitive
      rw [← hflatten]
      exact List.mem_flatten.mpr ⟨part, hpart, List.contains_iff_mem.mp hsensitive.1.1⟩
    have hparts : (splitPairs [] s).flatMap (redactPart I) = s := by
      unfold redactKeyValuePairs at h
      rw [if_neg (by simpa using heq)] at h
      exact h
    have hcut := splitPairs_redacted (I := I) huncut
    rw [hparts] at hcut
    have hkept := map_eq_self_iff.mp hcut.symm part hpart
    unfold redactPart at hkept
    rw [if_pos hsensitive] at hkept
    exact hkept.symm
  · intro h
    unfold redactKeyValuePairs
    split
    · rfl
    · have hmap : (splitPairs [] s).map (redactPart I) = splitPairs [] s := by
        apply map_eq_self_iff.mpr
        intro part hpart
        unfold redactPart
        split
        · next hsensitive => exact (h part hpart hsensitive).symm
        · rfl
      rw [List.flatMap_def, hmap, hflatten]

/-- **Redaction keeps a string iff it has nothing to redact.** -/
theorem redactJsonString_eq_self_iff (s : Str) : redactJsonString F s = s ↔ Untouched F s := by
  -- The induction is on the length: the strings of a document are shorter than its text.
  induction hn : s.length using Nat.strong_induction_on generalizing s with
  | _ n ih =>
    subst hn
    have hbody : ∀ {v : Json}, loads F s.stripSpace = some v →
        (redactBody F v = v ↔ NothingToRedact F v) := by
      intro v hv
      rw [redactBody_eq_self_iff_strings]
      refine and_congr_right fun _ => forall₂_congr fun u hu => ?_
      exact ih u.length (strings_lt hv (exposed_subset_strings v u hu)) u rfl
    constructor
    · intro h
      by_cases hdoc : braceOrBracket s.stripSpace = true
      case neg =>
        have hnot : braceOrBracket s.stripSpace = false := by simpa using hdoc
        rw [redactJsonString_pairs hnot] at h
        exact .pairs hnot ((redactKeyValuePairs_eq_self_iff s).mp h)
      case pos =>
        by_cases hfast : fastPath I s.stripSpace = true
        · exact .fast hdoc hfast
        · cases hparsed : loads F s.stripSpace with
          | none => exact .unparsed hdoc hparsed
          | some v =>
            have hslow : fastPath I s.stripSpace = false := by simpa using hfast
            obtain ⟨t, hs, ht, hloads, hstrip, _⟩ := redactJsonString_slow hdoc hslow hparsed
            -- The text is what `dumps` gave the redacted document, and it is read back as that.
            obtain rfl : t = s := hs.symm.trans h
            rw [hstrip, hloads] at hparsed
            have hkept : redactBody F v = v := Option.some.inj hparsed
            rw [hkept] at ht hloads
            obtain ⟨hmasked, hexposed⟩ := (hbody (hstrip.symm ▸ hloads)).mp hkept
            exact .document v hdoc (hstrip.symm ▸ hloads) ht hmasked hexposed
    · intro h
      cases h with
      | pairs hdoc hmasked =>
        rw [redactJsonString_pairs hdoc]
        exact (redactKeyValuePairs_eq_self_iff s).mpr hmasked
      | fast hdoc hfast => exact redactJsonString_fast hdoc hfast
      | unparsed hdoc hnone => exact redactJsonString_unparsed hdoc hnone
      | document v hdoc hparsed hdumps hmasked hexposed =>
        have hkept := (hbody hparsed).mpr ⟨hmasked, hexposed⟩
        by_cases hfast : fastPath I s.stripSpace = true
        · exact redactJsonString_fast hdoc hfast
        · obtain ⟨t, hs, ht, _⟩ := redactJsonString_slow hdoc (by simpa using hfast) hparsed
          rw [hkept, hdumps] at ht
          rw [hs, Except.ok.inj ht]

/-- **Redaction keeps a body iff it has nothing to redact.** -/
theorem redactBody_eq_self_iff (v : Json) : redactBody F v = v ↔ NothingToRedact F v := by
  rw [redactBody_eq_self_iff_strings]
  exact and_congr_right fun _ => forall₂_congr fun s _ => redactJsonString_eq_self_iff s

/-! ## The text of a document -/

/-- Redacting the text `t` of the document `v` gives a text of the redacted document, and the fast path is
    not taken where redaction would change the document. -/
def TextualAgrees (F : FloatReader I) (t : Str) (v : Json) : Prop :=
  (∃ t', redactBody F (.str t) = .str t' ∧ loads F t' = some (redactBody F v)) ∧
    (fastPath I t.stripSpace = true → redactBody F v = v)

/-- A key that is sensitive without its dot, in a text in which no stem occurs. -/
def dottedText : Str := "\x7b\"pass.word\": \"hunter2\"\x7d"

/-- The document of `dottedText`. -/
def dottedDocument : Json := .obj [(str "pass.word", .str (str "hunter2"))]

/-- A text with a sensitive key. -/
def plainText : Str := "\x7b\"password\": \"hunter2\"\x7d"

end RideTheApi.Redaction
