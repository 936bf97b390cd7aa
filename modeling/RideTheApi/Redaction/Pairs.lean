import RideTheApi.Redaction.Redact

/-!
# `Redaction.Pairs` — redacting `key=value` pairs

A part of the text that is replaced keeps its name, so it is found in the same place and replaced by the same
part again: `redactKeyValuePairs` is idempotent (`redactKeyValuePairs_idem`), and it keeps the first
character that is not whitespace, hence whether the text looks like a document (`redactKeyValuePairs_first`).
-/

namespace RideTheApi.Redaction

open Py

variable {I : Interp}

/-! ## The first character that is not whitespace -/

/-- The first character that is not whitespace. -/
def first (s : Str) : Option CodePoint := s.find? fun c => !Str.isSpace c

theorem first_append (s s' : Str) : first (s ++ s') = (first s).or (first s') := List.find?_append

theorem first_eq_head_lstrip (s : Str) : (lstrip s).head? = first s := by
  unfold first lstrip
  rw [List.find?_eq_head?_dropWhile_not]
  simp only [Bool.not_not]

theorem head_rdropWhile {s : Str} {c : CodePoint} {rest : Str} (h : s = c :: rest) (hc : Str.isSpace c = false) :
    (s.rdropWhile Str.isSpace).head? = some c := by
  subst h
  obtain ⟨tail, htail⟩ := List.rdropWhile_prefix Str.isSpace (c :: rest)
  cases hkept : (c :: rest).rdropWhile Str.isSpace with
  | nil =>
    have hall := List.rdropWhile_eq_nil_iff.mp hkept c List.mem_cons_self
    rw [hc] at hall
    cases hall
  | cons d kept =>
    rw [hkept] at htail
    cases htail
    rfl

theorem first_eq_head_stripSpace (s : Str) : s.stripSpace.head? = first s := by
  rw [← first_eq_head_lstrip]
  unfold Str.stripSpace lstrip
  cases hkept : s.dropWhile Str.isSpace with
  | nil => rfl
  | cons c rest =>
    have hc : Str.isSpace c = false := by
      have hhead := first_eq_head_lstrip s
      unfold lstrip first at hhead
      rw [hkept] at hhead
      simpa using List.find?_some hhead.symm
    exact head_rdropWhile rfl hc

theorem braceOrBracket_congr {s s' : Str} (h : s.head? = s'.head?) : braceOrBracket s = braceOrBracket s' := by
  rw [Bool.eq_iff_iff, braceOrBracket_iff, braceOrBracket_iff]
  cases s with
  | nil =>
    cases s' with
    | nil => rfl
    | cons d rest => cases h
  | cons c rest =>
    cases s' with
    | nil => cases h
    | cons d rest' =>
      cases h
      constructor
      · rintro ⟨c', rest'', heq, hc'⟩
        cases heq
        exact ⟨c, rest', rfl, hc'⟩
      · rintro ⟨c', rest'', heq, hc'⟩
        cases heq
        exact ⟨c, rest, rfl, hc'⟩

/-- Stripping on the left or on both sides shows the same first character. -/
theorem braceOrBracket_lstrip (s : Str) : braceOrBracket (lstrip s) = braceOrBracket s.stripSpace :=
  braceOrBracket_congr ((first_eq_head_lstrip s).trans (first_eq_head_stripSpace s).symm)

/-! ## Cutting a text into parts -/

theorem splitPairs_nil (part : Str) : splitPairs part [] = [part] := rfl

theorem splitPairs_separator {c : CodePoint} (hc : c = cp '&' ∨ c = cp '\n') (part s : Str) :
    splitPairs part (c :: s) = part :: [c] :: splitPairs [] s := by
  cases s with
  | nil => rw [splitPairs_nil, splitPairs, if_pos hc]
  | cons d s => rw [splitPairs, if_pos hc]

theorem splitPairs_crlf (part s : Str) :
    splitPairs part (cp '\r' :: cp '\n' :: s) = part :: [cp '\r', cp '\n'] :: splitPairs [] s := by
  rw [splitPairs, if_neg (by decide), if_pos ⟨rfl, rfl⟩]

theorem splitPairs_cons {c : CodePoint} (hc : c ≠ cp '&' ∧ c ≠ cp '\n') {s : Str}
    (hcr : c = cp '\r' → s.head? ≠ some (cp '\n')) (part : Str) :
    splitPairs part (c :: s) = splitPairs (part ++ [c]) s := by
  cases s with
  | nil => rw [splitPairs_nil, splitPairs, if_neg (not_or.mpr hc)]
  | cons d s =>
    rw [splitPairs, if_neg (not_or.mpr hc), if_neg]
    rintro ⟨h, rfl⟩
    exact hcr h rfl

/-- The parts of a text, with the separators, are the text. -/
theorem flatten_splitPairs (part s : Str) : (splitPairs part s).flatten = part ++ s := by
  fun_induction splitPairs part s with
  | case1 part => simp
  | case2 part c hc => simp
  | case3 part c hc => simp
  | case4 part c d s hc ih => simp [ih]
  | case5 part c d s hc hcr ih => simp [ih]
  | case6 part c d s hc hcr ih => simp [ih]

/-- A text that no separator cuts, and that the next character does not turn into one. -/
def Uncut (part next : Str) : Prop :=
  (∀ c ∈ part, c ≠ cp '&' ∧ c ≠ cp '\n') ∧ (part.getLast? = some (cp '\r') → next.head? ≠ some (cp '\n'))

theorem Uncut.tail {c : CodePoint} {part next : Str} (h : Uncut (c :: part) next) : Uncut part next := by
  refine ⟨fun d hd => h.1 d (List.mem_cons_of_mem _ hd), fun hlast => h.2 ?_⟩
  cases part with
  | nil => cases hlast
  | cons d part =>
    rw [List.getLast?_cons_cons]
    exact hlast

/-- An uncut text is read as one part. -/
theorem splitPairs_uncut {part next : Str} (h : Uncut part next) (read : Str) :
    splitPairs read (part ++ next) = splitPairs (read ++ part) next := by
  induction part generalizing read with
  | nil => rw [List.nil_append, List.append_nil]
  | cons c part ih =>
    have hcr : c = cp '\r' → (part ++ next).head? ≠ some (cp '\n') := by
      intro hc
      cases part with
      | nil => exact h.2 (congrArg some hc)
      | cons d part =>
        intro hd
        exact (h.1 d (List.mem_cons_of_mem _ List.mem_cons_self)).2 (Option.some.inj hd)
    rw [List.cons_append, splitPairs_cons (h.1 c List.mem_cons_self) hcr, ih h.tail, List.append_assoc]
    rfl

/-! ## One part -/

theorem before_append {s rest : Str} (h : ∀ c ∈ s, c ≠ cp '=') :
    Str.before (cp '=') (s ++ cp '=' :: rest) = s := by
  unfold Str.before
  rw [List.takeWhile_append_of_pos fun c hc => by simpa using h c hc, List.takeWhile_cons_of_neg (by simp),
    List.append_nil]

theorem mem_before {s : Str} {c : CodePoint} (h : c ∈ Str.before (cp '=') s) : c ≠ cp '=' := by
  simpa using List.mem_takeWhile_imp h

theorem maskedPair_maskedPair (part : Str) : maskedPair (maskedPair part) = maskedPair part := by
  have hbefore : (maskedPair part).before (cp '=') = part.before (cp '=') := by
    show Str.before (cp '=') (part.before (cp '=') ++ [cp '='] ++ redacted) = _
    rw [List.append_assoc]
    exact before_append fun c hc => mem_before hc
  unfold maskedPair at hbefore ⊢
  rw [hbefore]

theorem redactPart_idem (part : Str) : redactPart I (redactPart I part) = redactPart I part := by
  unfold redactPart
  by_cases h : isSensitivePair I part = true
  · rw [if_pos h, maskedPair_maskedPair, ite_self]
  · rw [if_neg h, if_neg h]

/-- A part without `=` is kept. -/
theorem redactPart_of_notMem {part : Str} (h : cp '=' ∉ part) : redactPart I part = part := by
  unfold redactPart isSensitivePair
  rw [if_neg]
  simp [h]

/-- No empty name is sensitive. -/
theorem matchesName_nil {exact : List Str} (h : [] ∉ exact) : matchesName I exact [] = false := by
  have hcontains : exact.contains [] = false := by
    rw [Bool.eq_false_iff]
    intro hmem
    exact h (List.contains_iff_mem.mp hmem)
  unfold matchesName
  rw [hcontains]
  rfl

/-- A sensitive pair has a name, and what is kept of the pair starts as the pair does. -/
theorem first_maskedPair {part : Str} (h : isSensitivePair I part = true) :
    first (maskedPair part) = first part := by
  have hname : first (part.before (cp '=')) ≠ none := by
    intro hnone
    have hstrip : (part.before (cp '=')).stripSpace = [] := by
      rw [← List.head?_eq_none_iff, first_eq_head_stripSpace, hnone]
    have hquery : isSensitiveQueryParam I [] = false := matchesName_nil (by decide)
    have hkey : isSensitiveKey I [] = false := matchesName_nil (by decide)
    simp only [isSensitivePair, hstrip, hquery, hkey, Bool.or_self, Bool.and_false] at h
    cases h
  obtain ⟨c, hc⟩ := Option.ne_none_iff_exists'.mp hname
  have hpart : part = part.before (cp '=') ++ part.dropWhile (· != cp '=') :=
    (List.takeWhile_append_dropWhile).symm
  unfold maskedPair
  conv_rhs => rw [hpart]
  rw [first_append, first_append, first_append, hc]
  rfl

theorem first_redactPart (part : Str) : first (redactPart I part) = first part := by
  unfold redactPart
  split
  · next h => exact first_maskedPair h
  · rfl

theorem uncut_redactPart {part next : Str} (h : Uncut part next) : Uncut (redactPart I part) next := by
  unfold redactPart
  split
  · constructor
    · intro c hc
      unfold maskedPair at hc
      rcases List.mem_append.mp hc with hc | hc
      · rcases List.mem_append.mp hc with hc | hc
        · exact h.1 c ((List.takeWhile_prefix _).subset hc)
        · rw [List.mem_singleton.mp hc]
          decide
      · have hall : redacted.all (fun c => c != cp '&' && c != cp '\n') = true := rfl
        simpa using List.all_eq_true.mp hall c hc
    · -- What replaces a value ends in a bracket.
      intro hlast
      have hbracket : redacted.getLast? = some (cp ']') := rfl
      unfold maskedPair at hlast
      rw [List.getLast?_append, hbracket, Option.some_or] at hlast
      exact absurd hlast (by decide)
  · exact h

/-! ## All parts -/

/-- Cutting the redacted text finds the redacted parts. -/
theorem splitPairs_redacted {part s : Str} (h : Uncut part s) :
    splitPairs [] ((splitPairs part s).flatMap (redactPart I)) = (splitPairs part s).map (redactPart I) := by
  have hkeep : ∀ sep : Str, cp '=' ∉ sep → redactPart I sep = sep := fun _ => redactPart_of_notMem
  -- a redacted part holds no separator, so it is cut where the part was
  have hfirst : ∀ (part s rest : Str), Uncut part s → s.head? = rest.head? →
      splitPairs [] (redactPart I part ++ rest) = splitPairs (redactPart I part) rest := by
    intro part s rest hpart hhead
    have hredacted := uncut_redactPart (I := I) hpart
    rw [splitPairs_uncut ⟨hredacted.1, hhead ▸ hredacted.2⟩, List.nil_append]
  have hempty : ∀ s : Str, Uncut [] s := fun s => ⟨fun c hc => absurd hc List.not_mem_nil, fun h => nomatch h⟩
  fun_induction splitPairs part s with
  | case1 part =>
    rw [List.flatMap_singleton, ← List.append_nil (redactPart I part), hfirst part [] [] h rfl]
    simp [splitPairs_nil]
  | case2 part c hc =>
    have hsep : redactPart I [c] = [c] := hkeep [c] (by rcases hc with rfl | rfl <;> decide)
    have hnil : redactPart I [] = [] := hkeep [] List.not_mem_nil
    simp only [List.flatMap_cons, List.flatMap_nil, List.map_cons, List.map_nil, hsep, hnil, List.append_nil]
    rw [hfirst part [c] [c] h rfl, splitPairs_separator hc, splitPairs_nil]
  | case3 part c hc =>
    have hpart : Uncut (part ++ [c]) [] := by
      refine ⟨?_, fun _ h => nomatch h⟩
      intro d hd
      rcases List.mem_append.mp hd with hd | hd
      · exact h.1 d hd
      · rw [List.mem_singleton.mp hd]
        exact not_or.mp hc
    rw [List.flatMap_singleton, ← List.append_nil (redactPart I (part ++ [c])), hfirst _ [] [] hpart rfl]
    simp [splitPairs_nil]
  | case4 part c d s hc ih =>
    have hsep : redactPart I [c] = [c] := hkeep [c] (by rcases hc with rfl | rfl <;> decide)
    have hrest := hfirst part (c :: d :: s) (c :: (splitPairs [] (d :: s)).flatMap (redactPart I)) h rfl
    simp only [List.flatMap_cons, List.map_cons, hsep, List.cons_append, List.nil_append]
    rw [hrest, splitPairs_separator hc, ih (hempty _)]
  | case5 part c d s hc hcr ih =>
    obtain ⟨rfl, rfl⟩ := hcr
    have hsep : redactPart I [cp '\r', cp '\n'] = [cp '\r', cp '\n'] := hkeep _ (by decide)
    have hrest := hfirst part (cp '\r' :: cp '\n' :: s)
      (cp '\r' :: cp '\n' :: (splitPairs [] s).flatMap (redactPart I)) h rfl
    simp only [List.flatMap_cons, List.map_cons, hsep, List.cons_append, List.nil_append]
    rw [hrest, splitPairs_crlf, ih (hempty _)]
  | case6 part c d s hc hcr ih =>
    apply ih
    refine ⟨?_, ?_⟩
    · intro e he
      rcases List.mem_append.mp he with he | he
      · exact h.1 e he
      · rw [List.mem_singleton.mp he]
        exact not_or.mp hc
    · intro hlast hhead
      rw [List.getLast?_concat] at hlast
      exact hcr ⟨Option.some.inj hlast, Option.some.inj hhead⟩

/-- **Redacting pairs again changes nothing.** -/
theorem redactKeyValuePairs_idem (s : Str) :
    redactKeyValuePairs I (redactKeyValuePairs I s) = redactKeyValuePairs I s := by
  have huncut : Uncut [] s := ⟨fun c hc => absurd hc List.not_mem_nil, fun h => nomatch h⟩
  by_cases hs : s.contains (cp '=') = true
  · have htext : redactKeyValuePairs I s = (splitPairs [] s).flatMap (redactPart I) := by
      unfold redactKeyValuePairs
      rw [hs]
      rfl
    rw [htext]
    unfold redactKeyValuePairs
    split
    · rfl
    · rw [splitPairs_redacted huncut, List.flatMap_map]
      simp only [redactPart_idem]
  · have htext : redactKeyValuePairs I s = s := by
      unfold redactKeyValuePairs
      rw [if_pos (by simpa using hs)]
    rw [htext, htext]

/-- **Redacting pairs keeps the first character that is not whitespace.** -/
theorem redactKeyValuePairs_first (s : Str) : first (redactKeyValuePairs I s) = first s := by
  have hparts : ∀ parts : List Str, first (parts.flatMap (redactPart I)) = first parts.flatten := by
    intro parts
    induction parts with
    | nil => rfl
    | cons part parts ih =>
      rw [List.flatMap_cons, List.flatten_cons, first_append, first_append, ih, first_redactPart]
  unfold redactKeyValuePairs
  split
  · rfl
  · rw [hparts, flatten_splitPairs, List.nil_append]

end RideTheApi.Redaction
