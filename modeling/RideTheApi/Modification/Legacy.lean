import RideTheApi.Modification.PathAgreement
import RideTheApi.Modification.Rules

/-!
# `Modification.Legacy` — what the rules of the legacy format match

A rule with a `match_type` and a `match_value` and no native field is translated when it is loaded: a host becomes a
condition on the header, and a path a regular expression that begins with the escaped value.
-/

namespace RideTheApi.Modification

open Py

/-- A rule in the legacy format: no native field, and a value. -/
structure RuleConfig.Legacy (data : RuleConfig) : Prop where
  native : data.native = false
  value : ¬ (data.matchValue = .null ∨ data.matchValue = .str [])

/-- The rule is on, and about messages of the direction. -/
def RuleConfig.Covers (data : RuleConfig) (direction : Str) : Prop :=
  data.enabled = true ∧ (data.direction = str "both" ∨ data.direction = direction)

/-- A query or a fragment, or nothing. -/
def IsQuery (s : Str) : Prop := s = [] ∨ ∃ c rest, s = c :: rest ∧ (c = cp '?' ∨ c = cp '#')

/-- The path lies below the other one. -/
def Below (v path : Str) : Prop := v ++ str "/" <+: path ∨ v.getLast? = some (cp '/') ∧ v <+: path

/-- The path is `v` or lies below it, with or without a query. -/
def AtOrBelow (v path : Str) : Prop := ∃ base query, path = base ++ query ∧ IsQuery query ∧ (base = v ∨ Below v base)

/-- The message's Host. -/
def InterceptedMessage.host (msg : InterceptedMessage) : Option Json := msg.headers.get? (str "host")

/-- The rule is about the host. -/
def RuleConfig.aboutHost (I : Interp) (data : RuleConfig) : Prop :=
  data.legacyType I = str "hostname" ∨ data.legacyType I = str "header"

/-- What a legacy rule says of a message with this path. -/
def RuleConfig.Means (I : Interp) (data : RuleConfig) (msg : InterceptedMessage) (path : Str) : Prop :=
  ∃ value, strOf I data.matchValue = .ok value ∧
    (data.aboutHost I ∧ msg.host = some (.str value) ∨ data.legacyType I = str "path" ∧ AtOrBelow value path)

/-- The paths that a value is not translated for: those below a value with a slash at its end, and the value with a
    newline behind it. -/
def Misread (value path : Str) : Prop :=
  ∃ rest, path = value ++ rest ∧
    if value.getLast? = some (cp '/') then
      rest ≠ str "\n" ∧ ∃ c rest', rest = c :: rest' ∧ c ≠ cp '/' ∧ c ≠ cp '?' ∧ c ≠ cp '#'
    else rest = str "\n"

/-! ## The pattern of a path -/

section
variable {v path : Str}

/-- The items of the pattern. -/
def pathPrefixItems (v : Str) : Regex :=
  .atom .start :: (v.map (fun c => Item.atom (.char c)) ++ [.group [[.oneOf "/?#"], [.finish]]])

theorem parse_pathPrefixPattern (v : Str) : Regex.parse (pathPrefixPattern v) = some (pathPrefixItems v) := by
  have hstart : (str "^").foldlM Regex.Reading.step {} = some { items := [.atom .start] } := by decide +kernel
  have hend : ∀ items, (str "(?:[/?#]|$)").foldlM Regex.Reading.step { items } =
      some { items := items ++ [.group [[.oneOf "/?#"], [.finish]]] } := fun _ => rfl
  unfold Regex.parse pathPrefixPattern
  rw [List.foldlM_append, List.foldlM_append, hstart]
  simp only [Option.bind_eq_bind, Option.bind_some]
  rw [Regex.foldlM_escape, Option.bind_some, hend]
  rfl

/-- What may follow the value in a path that the pattern matches. -/
def Follows (rest : Str) : Prop :=
  rest = [] ∨ rest = str "\n" ∨ ∃ c rest', rest = c :: rest' ∧ (c = cp '/' ∨ c = cp '?' ∨ c = cp '#')

theorem ends_pathEnd (first : Bool) (rest : Str) :
    Regex.ends [.group [[.oneOf "/?#"], [.finish]]] (first, rest) ≠ [] ↔ Follows rest := by
  have hchars : str "/?#" = [cp '/', cp '?', cp '#'] := rfl
  cases rest with
  | nil => simp [Regex.ends, Item.steps, Atom.step, Follows]
  | cons c rest =>
    have hline : str "\n" = [cp '\n'] := rfl
    by_cases hc : c = cp '/' ∨ c = cp '?' ∨ c = cp '#'
    · have hmem : c ∈ str "/?#" := by simpa [hchars] using hc
      simp [Regex.ends, Item.steps, Atom.step, Follows, hmem, hc]
    · have hmem : c ∉ str "/?#" := by simpa [hchars] using hc
      by_cases hend : c :: rest = [cp '\n'] <;> simp [Regex.ends, Item.steps, Atom.step, Follows, hmem, hc, hline, hend]

/-- **What the pattern of a path matches**. -/
theorem search_pathPrefix_iff : Regex.search (pathPrefixItems v) path = true ↔ ∃ rest, path = v ++ rest ∧ Follows rest := by
  have hends : ∀ p, p ∈ Regex.ends (v.map (fun c => Item.atom (.char c)) ++ [.group [[.oneOf "/?#"], [.finish]]]) (true, path) ↔
      ∃ q ∈ Regex.ends (v.map fun c => Item.atom (.char c)) (true, path),
        p ∈ Regex.ends [.group [[.oneOf "/?#"], [.finish]]] q := by
    intro p
    rw [Regex.ends_append, List.mem_flatMap]
  unfold pathPrefixItems
  rw [Regex.search_start, Bool.not_eq_true', List.isEmpty_eq_false_iff]
  constructor
  · intro hne
    obtain ⟨p, hp⟩ := List.exists_mem_of_ne_nil _ hne
    obtain ⟨q, hq, hp⟩ := (hends p).mp hp
    obtain ⟨rest, hpath, rfl⟩ := Regex.mem_ends_chars.mp hq
    exact ⟨rest, hpath, (ends_pathEnd _ rest).mp (List.ne_nil_of_mem hp)⟩
  · rintro ⟨rest, hpath, hfollows⟩
    obtain ⟨p, hp⟩ := List.exists_mem_of_ne_nil _ ((ends_pathEnd (true && v.isEmpty) rest).mpr hfollows)
    exact List.ne_nil_of_mem ((hends p).mpr ⟨_, Regex.mem_ends_chars.mpr ⟨rest, hpath, rfl⟩, hp⟩)

theorem atOrBelow_iff : AtOrBelow v path ↔ ∃ rest, path = v ++ rest ∧
    (v.getLast? = some (cp '/') ∨ rest = [] ∨ ∃ c rest', rest = c :: rest' ∧ (c = cp '/' ∨ c = cp '?' ∨ c = cp '#')) := by
  constructor
  · rintro ⟨base, query, rfl, hquery, rfl | ⟨t, rfl⟩ | ⟨hslash, t, rfl⟩⟩
    · refine ⟨query, rfl, .inr ?_⟩
      rcases hquery with rfl | ⟨c, rest, rfl, hc⟩
      · exact .inl rfl
      · exact .inr ⟨c, rest, rfl, .inr hc⟩
    · refine ⟨str "/" ++ t ++ query, by simp, .inr (.inr ⟨cp '/', t ++ query, rfl, .inl rfl⟩)⟩
    · exact ⟨t ++ query, by simp, .inl hslash⟩
  · rintro ⟨rest, rfl, hslash | rfl | ⟨c, rest, rfl, rfl | hc⟩⟩
    · exact ⟨v ++ rest, [], by simp, .inl rfl, .inr (.inr ⟨hslash, rest, rfl⟩)⟩
    · exact ⟨v, [], rfl, .inl rfl, .inl rfl⟩
    · exact ⟨v ++ cp '/' :: rest, [], by simp, .inl rfl, .inr (.inl ⟨rest, by simp [str]⟩)⟩
    · exact ⟨v, c :: rest, rfl, .inr ⟨c, rest, rfl, hc⟩, .inl rfl⟩

/-- **When the pattern of a path is right**: for all paths but those that are misread. -/
theorem search_iff_atOrBelow_iff :
    (Regex.search (pathPrefixItems v) path = true ↔ AtOrBelow v path) ↔ ¬ Misread v path := by
  rw [search_pathPrefix_iff, atOrBelow_iff]
  by_cases hprefix : v <+: path
  · obtain ⟨rest, rfl⟩ := hprefix
    have hrest : ∀ P : Str → Prop, (∃ rest', v ++ rest = v ++ rest' ∧ P rest') ↔ P rest := by
      intro P
      constructor
      · rintro ⟨rest', heq, hP⟩
        rwa [List.append_cancel_left heq]
      · intro hP
        exact ⟨rest, rfl, hP⟩
    unfold Misread
    rw [hrest, hrest, hrest]
    unfold Follows
    have hnewline : ¬ ∃ c rest', str "\n" = c :: rest' ∧ (c = cp '/' ∨ c = cp '?' ∨ c = cp '#') := by
      rintro ⟨c, rest', heq, hc⟩
      obtain rfl : c = cp '\n' := (List.cons.inj heq).1.symm
      revert hc
      decide
    by_cases hslash : v.getLast? = some (cp '/')
    · simp only [hslash, true_or, iff_true, if_true]
      cases rest with
      | nil => simp
      | cons c rest => simp [not_and, or_iff_not_imp_left]
    · simp only [hslash, false_or, if_false]
      by_cases hline : rest = str "\n"
      · subst hline
        simp only [hnewline, or_false, or_true, true_iff, not_true_eq_false, iff_false]
        exact nofun
      · simp [hline]
  · have hnone : ∀ P : Str → Prop, ¬ ∃ rest, path = v ++ rest ∧ P rest := by
      rintro P ⟨rest, rfl, -⟩
      exact hprefix (List.prefix_append v rest)
    unfold Misread
    simp only [hnone, not_false_eq_true]

end

/-! ## Loaded rules -/

section
variable {B : Builtins} {data : RuleConfig} {rule : Rule} {h : Heap} {msg : InterceptedMessage} {direction : Str}

/-- The rules that are in use are those that were loaded. -/
theorem mem_loadRules {enabled : Bool} {rules : List RuleConfig} :
    rule ∈ loadRules B enabled rules ↔ enabled = true ∧ ∃ data ∈ rules, data.load B = .ok (some rule) := by
  unfold loadRules
  cases enabled with
  | false => simp
  | true =>
    have hload : ∀ r : Result (Option Rule), r.toOption.bind id = some rule ↔ r = .ok (some rule) := by
      intro r
      cases r <;> simp [Except.toOption]
    rw [if_pos rfl, List.mem_insertionSort, List.mem_filterMap]
    simp only [hload, true_and]

theorem admits_of_empty {want : Option Str} (hwant : want.any (!·.isEmpty) = false) (actual : Json) :
    admits want actual = true := by
  cases want with
  | none => rfl
  | some want =>
    simp only [Option.any_some, Bool.not_eq_false'] at hwant
    simp [admits, hwant]

theorem filter_of_empty {α : Type} {l : Option (List α)} (hl : l.any (!·.isEmpty) = false) :
    l.filter (!·.isEmpty) = none := by
  cases l with
  | none => rfl
  | some l => simpa using hl

theorem compilePath_of_empty {pattern : Option Str} (hpattern : pattern.any (!·.isEmpty) = false) :
    compilePath B pattern = .ok none := by
  cases pattern with
  | none => rfl
  | some pattern =>
    cases pattern with
    | nil => rfl
    | cons c pattern => simp at hpattern

/-- The native fields of a rule that has none. -/
structure NoNative (data : RuleConfig) : Prop where
  vendor : data.matchVendor.any (!·.isEmpty) = false
  deviceType : data.matchDeviceType.any (!·.isEmpty) = false
  intent : data.matchIntent.any (!·.isEmpty) = false
  fieldPath : data.matchFieldPath.any (!·.isEmpty) = false
  method : data.matchMethod.any (!·.isEmpty) = false
  pathPattern : data.matchPathPattern.any (!·.isEmpty) = false
  headers : data.matchHeaders.any (!·.isEmpty) = false

theorem noNative (hnative : data.native = false) : NoNative data := by
  unfold RuleConfig.native at hnative
  simp only [List.any_cons, List.any_nil, Bool.or_false, Bool.or_eq_false_iff] at hnative
  obtain ⟨⟨hvendor, hdevice, hintent, hfield, hmethod, hpath⟩, hheaders⟩ := hnative
  exact ⟨hvendor, hdevice, hintent, hfield, hmethod, hpath, hheaders⟩

/-- A rule without native fields looks at the path and the headers only. -/
theorem rule_matches (hnone : NoNative data) (fields : MatchFields) (params : Dict Str Json)
    (regex : Option (Str → Bool)) :
    (data.rule B fields params regex).matches B h msg direction = .ok true ↔
      data.Covers direction ∧ (data.rule B fields params regex).pathMatches msg.path = .ok true ∧
        (data.rule B fields params regex).headersMatch msg.headers = true := by
  have hfield : (data.rule B fields params regex).fieldMatches B (h.body msg.body) = .ok true := by
    have hpath := hnone.fieldPath
    have hdatum : (data.rule B fields params regex).matchFieldPath = data.matchFieldPath := rfl
    unfold Rule.fieldMatches
    rw [hdatum]
    cases hdata : data.matchFieldPath with
    | none => rfl
    | some path =>
      cases path with
      | nil => rfl
      | cons c path => simp [hdata] at hpath
  unfold Rule.matches RuleConfig.Covers
  rw [hfield]
  show (if !data.enabled then _ else if data.direction ≠ str "both" ∧ data.direction ≠ direction then _
    else if !admits data.matchVendor _ then _ else if !admits data.matchDeviceType _ then _
    else if !admits data.matchIntent _ then _ else if !admits data.matchMethod _ then _ else _) = _ ↔ _
  rw [admits_of_empty hnone.vendor, admits_of_empty hnone.deviceType, admits_of_empty hnone.intent,
    admits_of_empty hnone.method]
  cases data.enabled with
  | false => simp
  | true =>
    by_cases hdir : data.direction = str "both" ∨ data.direction = direction
    · have hnot : ¬ (data.direction ≠ str "both" ∧ data.direction ≠ direction) := by tauto
      simp only [hdir, hnot, if_false, Bool.not_true, Bool.false_eq_true, true_and]
      cases (data.rule B fields params regex).pathMatches msg.path with
      | error e => simp [bind, Except.bind]
      | ok found =>
        cases found <;> cases (data.rule B fields params regex).headersMatch msg.headers <;> simp [bind, Except.bind]
    · have hnot : data.direction ≠ str "both" ∧ data.direction ≠ direction := by tauto
      simp [hnot]

/-- What a legacy rule is translated to. -/
theorem load_legacy (hlegacy : data.Legacy) (hload : data.load B = .ok (some rule)) :
    ∃ value params, strOf B.toInterp data.matchValue = .ok value ∧
      (data.aboutHost B.toInterp ∧ rule = data.rule B ⟨some [("host", value)], data.matchPathPattern, .null⟩ params none ∨
        ¬ data.aboutHost B.toInterp ∧ data.legacyType B.toInterp = str "path" ∧
          rule = data.rule B ⟨data.matchHeaders, some (pathPrefixPattern value), .null⟩ params
            (some (Regex.search (pathPrefixItems value)))) := by
  have hnone := noNative hlegacy.native
  unfold RuleConfig.load at hload
  obtain ⟨legacy, hmatch, hload⟩ := Except.bind_ok_iff.mp hload
  cases legacy with
  | none => cases hload
  | some legacy =>
    obtain ⟨params, -, hload⟩ := Except.bind_ok_iff.mp hload
    obtain ⟨regex, hregex, hrule⟩ := Except.bind_ok_iff.mp hload
    unfold RuleConfig.legacyMatch at hmatch
    rw [hlegacy.native, if_neg Bool.false_ne_true, if_neg hlegacy.value] at hmatch
    split at hmatch
    · rename_i hhost
      obtain ⟨value, hvalue, hmatch⟩ := Except.bind_ok_iff.mp hmatch
      cases hmatch
      rw [show (data.matchFields (.headers value)).pathPattern = data.matchPathPattern from rfl,
        compilePath_of_empty hnone.pathPattern] at hregex
      cases hregex
      cases hrule
      exact ⟨value, params, hvalue, .inl ⟨hhost, rfl⟩⟩
    · rename_i hhost
      split at hmatch
      · rename_i hpath
        obtain ⟨value, hvalue, hmatch⟩ := Except.bind_ok_iff.mp hmatch
        cases hmatch
        have hcompile : compilePath B (some (pathPrefixPattern value)) =
            .ok (some (Regex.search (pathPrefixItems value))) := by
          show (B.search (pathPrefixPattern value)).map some = _
          unfold Builtins.search
          rw [parse_pathPrefixPattern]
          rfl
        rw [show (data.matchFields (.pathPattern (pathPrefixPattern value))).pathPattern =
          some (pathPrefixPattern value) from rfl, hcompile] at hregex
        cases hregex
        cases hrule
        exact ⟨value, params, hvalue, .inr ⟨hhost, hpath, rfl⟩⟩
      · cases hmatch

/-- A rule about a host compares the header. -/
theorem headersMatch_host (value : Str) (pattern : Option Str) (params : Dict Str Json) (regex : Option (Str → Bool)) :
    (data.rule B ⟨some [("host", value)], pattern, .null⟩ params regex).headersMatch msg.headers = true ↔
      msg.host = some (.str value) := by
  have hlower : lowerKeys B.toInterp [(str "host", value)] = [(str "host", value)] := rfl
  unfold Rule.headersMatch InterceptedMessage.host
  show (Option.getD (some (lowerKeys B.toInterp [(str "host", value)])) []).all _ = true ↔ _
  rw [hlower]
  simp only [Option.getD_some, List.all_cons, List.all_nil, Bool.and_true]
  cases msg.headers.get? (str "host") with
  | none => simp
  | some v => cases v <;> simp [pyEq, sameInfinity, numValue]

theorem headersMatch_none (hheaders : data.matchHeaders.any (!·.isEmpty) = false) (pattern : Option Str)
    (params : Dict Str Json) (regex : Option (Str → Bool)) (headers : Dict Str Json) :
    (data.rule B ⟨data.matchHeaders, pattern, .null⟩ params regex).headersMatch headers = true := by
  unfold Rule.headersMatch
  show (((data.matchHeaders.filter (!·.isEmpty)).map (lowerKeys B.toInterp)).getD []).all _ = true
  rw [filter_of_empty hheaders]
  rfl

theorem pathMatches_text (fields : MatchFields) (params : Dict Str Json) (search : Str → Bool) {path : Json} {text : Str}
    (hpath : path = .str text) :
    (data.rule B fields params (some search)).pathMatches path = .ok (search text) := by
  unfold Rule.pathMatches
  subst hpath
  cases text <;> rfl

/-! ## Keeping the meaning -/

/-- A message whose path no legacy path rule matches: a letter follows the value. -/
def beyond (value : Str) : InterceptedMessage where
  direction := "request"
  deviceId := []
  vendor := []
  deviceType := .null
  intent := []
  method := none
  path := .str (value ++ str "x")
  headers := []
  body := 0

theorem beyond_unmatched (value : Str) : Regex.search (pathPrefixItems value) (value ++ str "x") = false := by
  rw [Bool.eq_false_iff, Ne, search_pathPrefix_iff]
  rintro ⟨rest, heq, hfollows⟩
  obtain rfl := (List.append_cancel_left heq).symm
  rcases hfollows with h | h | ⟨c, rest', h, hc⟩
  · cases h
  · revert h
    decide
  · obtain rfl : c = cp 'x' := (List.cons.inj h).1.symm
    revert hc
    decide

/-- **What a loaded legacy rule matches.** -/
theorem loaded_matches_iff (hlegacy : data.Legacy) (hload : data.load B = .ok (some rule)) {path : Str}
    (hpath : msg.path = .str path) :
    (rule.matches B h msg direction = .ok true ↔ data.Covers direction ∧ data.Means B.toInterp msg path) ↔
      ¬ (data.Covers direction ∧ ¬ data.aboutHost B.toInterp ∧
        ∃ value, strOf B.toInterp data.matchValue = .ok value ∧ Misread value path) := by
  have hnone := noNative hlegacy.native
  obtain ⟨value, params, hvalue, ⟨hhost, rfl⟩ | ⟨hhost, htype, rfl⟩⟩ := load_legacy hlegacy hload
  · have hnotpath : data.legacyType B.toInterp ≠ str "path" := by
      intro htype
      unfold RuleConfig.aboutHost at hhost
      rw [htype] at hhost
      revert hhost
      decide
    have hmeans : data.Means B.toInterp msg path ↔ msg.host = some (.str value) := by
      unfold RuleConfig.Means
      simp [hvalue, hhost, hnotpath]
    rw [rule_matches hnone, headersMatch_host, hmeans]
    simp [Rule.pathMatches, RuleConfig.rule, hhost]
  · have hmeans : data.Means B.toInterp msg path ↔ AtOrBelow value path := by
      unfold RuleConfig.Means
      simp [hvalue, hhost, htype]
    have hmisread : (∃ value, strOf B.toInterp data.matchValue = .ok value ∧ Misread value path) ↔ Misread value path := by
      simp [hvalue]
    rw [rule_matches hnone, headersMatch_none hnone.headers, pathMatches_text _ _ _ hpath, hmeans, hmisread]
    have hsearch : (Regex.search (pathPrefixItems value) path = true ↔ AtOrBelow value path) ↔ ¬ Misread value path :=
      search_iff_atOrBelow_iff
    by_cases hcovers : data.Covers direction
    · simpa [hcovers, hhost] using hsearch
    · simp [hcovers]

/-- No loaded legacy rule matches every message. -/
theorem loaded_spares (hlegacy : data.Legacy) (hload : data.load B = .ok (some rule)) (h : Heap) (direction : Str) :
    ∃ msg, rule.matches B h msg direction ≠ .ok true := by
  have hnone := noNative hlegacy.native
  obtain ⟨value, params, hvalue, ⟨hhost, rfl⟩ | ⟨hhost, htype, rfl⟩⟩ := load_legacy hlegacy hload
  · refine ⟨beyond value, ?_⟩
    rw [Ne, rule_matches hnone, headersMatch_host]
    exact fun hmatch => nomatch hmatch.2.2
  · refine ⟨beyond value, ?_⟩
    rw [Ne, rule_matches hnone, pathMatches_text _ _ _ (show (beyond value).path = .str (value ++ str "x") from rfl),
      beyond_unmatched]
    exact fun hmatch => nomatch hmatch.2.1

/-- A legacy rule of another type is not loaded. -/
theorem load_otherType (hlegacy : data.Legacy) (hhost : ¬ data.aboutHost B.toInterp)
    (htype : data.legacyType B.toInterp ≠ str "path") : data.load B = .ok none := by
  have hmatch : data.legacyMatch B.toInterp = .ok none := by
    unfold RuleConfig.legacyMatch
    rw [hlegacy.native, if_neg Bool.false_ne_true, if_neg hlegacy.value]
    exact (if_neg hhost).trans (if_neg htype)
  unfold RuleConfig.load
  rw [hmatch]
  rfl

end

/-- **Legacy rules keep their meaning**, except on paths that are misread. -/
theorem legacy_means_iff (B : Builtins) (data : RuleConfig) (hlegacy : data.Legacy) :
    (¬ data.aboutHost B.toInterp → data.legacyType B.toInterp ≠ str "path" → data.load B = .ok none) ∧
      ∀ rule, data.load B = .ok (some rule) →
        (∀ h direction, ∃ msg, rule.matches B h msg direction ≠ .ok true) ∧
          ∀ h msg direction path, msg.path = .str path →
            ((rule.matches B h msg direction = .ok true ↔ data.Covers direction ∧ data.Means B.toInterp msg path) ↔
              ¬ (data.Covers direction ∧ ¬ data.aboutHost B.toInterp ∧
                ∃ value, strOf B.toInterp data.matchValue = .ok value ∧ Misread value path)) := by
  refine ⟨load_otherType hlegacy, fun rule hload => ⟨loaded_spares hlegacy hload, ?_⟩⟩
  intro h msg direction path hpath
  exact loaded_matches_iff hlegacy hload hpath

/-- Builtins for rules without native patterns and arithmetic. -/
def plainBuiltins : Builtins where
  toDpath := asciiDpath
  compile _ := .error .other
  add _ _ := .error .typeError
  mul _ _ := .error .typeError
  max _ _ := .error .typeError
  min _ _ := .error .typeError
  toInt _ := .error .typeError

/-- A rule that blocks what is below a path. -/
def blockBelow (value : String) : RuleConfig :=
  { name := "block", matchType := "path", matchValue := .str value, action := .block }

theorem blockBelow_legacy {value : String} (hvalue : str value ≠ []) : (blockBelow value).Legacy :=
  ⟨rfl, by simpa [blockBelow] using hvalue⟩

theorem loads_of_isSome {B : Builtins} {data : RuleConfig} (h : (data.load B).toOption.join.isSome = true) :
    ∃ rule, data.load B = .ok (some rule) := by
  cases hload : data.load B with
  | error e => rw [hload] at h; cases h
  | ok rule =>
    cases rule with
    | none => rw [hload] at h; cases h
    | some rule => exact ⟨rule, rfl⟩

/-- A device is asked to restart at once. -/
def rebootNow : InterceptedMessage := { beyond [] with path := .str "/cmd/reboot?now=1" }

/-- The rule on `/cmd/reboot` matches it. -/
theorem rebootNow_matched : ∃ rule, (blockBelow "/cmd/reboot").load plainBuiltins = .ok (some rule) ∧
    rule.matches plainBuiltins [] rebootNow "request" = .ok true := by
  have hlegacy : (blockBelow "/cmd/reboot").Legacy := blockBelow_legacy (by decide)
  have hisSome : ((blockBelow "/cmd/reboot").load plainBuiltins).toOption.join.isSome = true := by decide +kernel
  obtain ⟨rule, hload⟩ := loads_of_isSome hisSome
  have hloaded := ((legacy_means_iff plainBuiltins _ hlegacy).2 rule hload).2 [] rebootNow "request" _ rfl
  refine ⟨rule, hload, (hloaded.mpr ?_).mpr ⟨⟨rfl, .inr rfl⟩, ?_⟩⟩
  · rintro ⟨-, -, value, hvalue, rest, hpath, hrest⟩
    obtain rfl : str "/cmd/reboot" = value := Except.ok.inj hvalue
    have hrest' : rest = str "?now=1" := (List.append_cancel_left (show str "/cmd/reboot" ++ str "?now=1" = _ from hpath)).symm
    rw [if_neg (by decide), hrest'] at hrest
    exact absurd hrest (by decide)
  · refine ⟨str "/cmd/reboot", rfl, .inr ⟨by decide +kernel, str "/cmd/reboot", str "?now=1", rfl, ?_, .inl rfl⟩⟩
    exact .inr ⟨cp '?', str "now=1", rfl, .inl rfl⟩

/-- A rule on `/api/` spares what lies below. -/
theorem trailingSlash_spared : ¬ ∀ (B : Builtins) (data : RuleConfig), data.Legacy → ∀ rule, data.load B = .ok (some rule) →
    ∀ h msg direction path, msg.path = .str path →
      (rule.matches B h msg direction = .ok true ↔ data.Covers direction ∧ data.Means B.toInterp msg path) := by
  intro hall
  have hlegacy : (blockBelow "/api/").Legacy := blockBelow_legacy (by decide)
  have hisSome : ((blockBelow "/api/").load plainBuiltins).toOption.join.isSome = true := by decide +kernel
  obtain ⟨rule, hload⟩ := loads_of_isSome hisSome
  have hmisread : Misread "/api/" (str "/api/" ++ str "x") := by
    refine ⟨str "x", rfl, ?_⟩
    rw [if_pos (by decide)]
    exact ⟨by decide, cp 'x', [], rfl, by decide, by decide, by decide⟩
  have hpath : ¬ (blockBelow "/api/").aboutHost plainBuiltins.toInterp := by
    unfold RuleConfig.aboutHost
    decide +kernel
  have hmeans := hall plainBuiltins _ hlegacy rule hload [] (beyond "/api/") "request" _ rfl
  exact (loaded_matches_iff hlegacy hload rfl).mp hmeans ⟨⟨rfl, .inr rfl⟩, hpath, str "/api/", rfl, hmisread⟩

end RideTheApi.Modification
