import RideTheApi.Py.JsonRoundTrip

/-!
# `Py.JsonTrim` — what stands around and at the start of a document

`strip` removes more than the whitespace of JSON, but nothing else of what it removes can stand around a
document: a document is read from its stripped text too (`loads_stripSpace`). The first character that is
not whitespace decides whether an object or an array is read (`kind_of_braceOrBracket`), and conversely
(`braceOrBracket_of_kind`).
-/

namespace Py

open JsonGrammar

variable {I : Interp} {F : FloatReader I}

/-! ## Whitespace around a document -/

/-- Whitespace is not a character of a token. -/
theorem scalarChar_of_space {c : CodePoint} (h : Str.isSpace c = true) :
    scalarChar c = false ∧ c ≠ cp '"' ∧ c ≠ cp '\\' ∧ punctuation c = none := by
  have hne : ∀ d : CodePoint, Str.isSpace d = false → c ≠ d := by
    rintro d hd rfl
    rw [hd] at h
    cases h
  refine ⟨?_, hne _ rfl, hne _ rfl, ?_⟩
  · rw [Bool.eq_false_iff]
    intro hscalar
    simp only [scalarChar, Interp.asciiDigit, Interp.asciiUpper, Interp.asciiLower, Bool.or_eq_true,
      Bool.and_eq_true, decide_eq_true_eq, beq_iff_eq] at hscalar
    have hrange : 0x2b ≤ c.val ∧ c.val ≤ 0x7a := by
      rcases hscalar with ((((hd | hu) | hl) | rfl) | rfl) | rfl
      · omega
      · omega
      · omega
      · exact ⟨by decide, by decide⟩
      · exact ⟨by decide, by decide⟩
      · exact ⟨by decide, by decide⟩
    simp only [Str.isSpace, Bool.or_eq_true, Bool.and_eq_true, decide_eq_true_eq, List.contains_eq_mem,
      List.mem_cons, List.not_mem_nil, or_false] at h
    omega
  · unfold punctuation
    rw [if_neg (hne _ rfl), if_neg (hne _ rfl), if_neg (hne _ rfl), if_neg (hne _ rfl), if_neg (hne _ rfl),
      if_neg (hne _ rfl)]

/-- Whitespace between tokens is skipped, or not read at all. -/
theorem enter_space {toks : List Token} {c : CodePoint} {st : LexState} (hc : Str.isSpace c = true)
    (h : enter toks c = some st) : st = (toks, .between) := by
  obtain ⟨hscalar, hquote, _, hpunct⟩ := scalarChar_of_space hc
  unfold enter at h
  split_ifs at h with hspace hchar
  · exact (Option.some.inj h).symm
  · rw [hscalar] at hchar
    cases hchar
  · rw [hpunct] at h
    cases h

/-- Whitespace before a document is not missed. -/
theorem lex_dropWhile {s : Str} {toks : List Token} (h : lex F s = some toks) :
    lex F (s.dropWhile Str.isSpace) = some toks := by
  induction s with
  | nil => exact h
  | cons c s ih =>
    rw [List.dropWhile_cons]
    split
    · next hc =>
      apply ih
      unfold lex at h
      rw [lexRun_cons] at h
      obtain ⟨st', hrun, hend⟩ := Option.bind_eq_some_iff.mp h
      obtain ⟨st, hstep, hrest⟩ := Option.bind_eq_some_iff.mp hrun
      rw [enter_space hc hstep] at hrest
      unfold lex
      rw [hrest]
      exact hend
    · exact h

/-- The modes inside a string. -/
def inString : Lexing → Bool
  | .string _ _ | .escape _ _ | .hex _ _ _ => true
  | .between | .scalar _                   => false

/-- A character of a string ends it, by a quote, or leaves the reader inside. -/
theorem lexStep_inString {toks : List Token} {mode : Lexing} {c : CodePoint} {st : LexState}
    (hmode : inString mode = true) (h : lexStep F (toks, mode) c = some st) :
    (∃ text, c = cp '"' ∧ st = (toks ++ [.str text], .between)) ∨ ∃ mode', inString mode' = true ∧ st = (toks, mode') := by
  cases mode with
  | between | scalar text => cases hmode
  | string text high =>
    change lexString toks text high c = some st at h
    unfold lexString at h
    split_ifs at h with hquote <;> cases h
    · exact .inl ⟨text, hquote, rfl⟩
    · exact .inr ⟨_, rfl, rfl⟩
    · exact .inr ⟨_, rfl, rfl⟩
  | escape text high =>
    change lexEscape toks text high c = some st at h
    unfold lexEscape at h
    split at h
    · cases h
      exact .inr ⟨_, rfl, rfl⟩
    · obtain ⟨d, _, rfl⟩ := Option.map_eq_some_iff.mp h
      exact .inr ⟨_, rfl, rfl⟩
  | hex text high digits =>
    change lexHex toks text high digits c = some st at h
    obtain ⟨d, _, rfl⟩ := Option.map_eq_some_iff.mp h
    split <;> exact .inr ⟨_, rfl, rfl⟩

/-- A text may not end inside a string. -/
theorem lexEnd_inString {toks : List Token} {mode : Lexing} (hmode : inString mode = true) :
    lexEnd F (toks, mode) = none := by
  cases mode with
  | between | scalar text => cases hmode
  | string | escape | hex => rfl

/-- Whitespace after a document is not missed: it never ends a string. -/
theorem lexEnd_of_space {st st' : LexState} {c : CodePoint} {toks : List Token} (hc : Str.isSpace c = true)
    (hstep : lexStep F st c = some st') (hend : lexEnd F st' = some toks) : lexEnd F st = some toks := by
  obtain ⟨hscalar, hquote, _, _⟩ := scalarChar_of_space hc
  obtain ⟨toks₀, mode⟩ := st
  cases mode with
  | between =>
    rw [enter_space hc hstep] at hend
    exact hend
  | scalar text =>
    simp only [lexStep, hscalar, Bool.false_eq_true, if_false] at hstep
    obtain ⟨t, ht, henter⟩ := Option.bind_eq_some_iff.mp hstep
    rw [enter_space hc henter] at hend
    show (scalarToken F text).map _ = _
    rw [ht]
    exact hend
  | string | escape | hex =>
    rcases lexStep_inString rfl hstep with ⟨_, hc, _⟩ | ⟨mode', hmode, rfl⟩
    · exact absurd hc hquote
    · rw [lexEnd_inString hmode] at hend
      cases hend

theorem lex_rdropWhile {s : Str} {toks : List Token} (h : lex F s = some toks) :
    lex F (s.rdropWhile Str.isSpace) = some toks := by
  induction s using List.reverseRecOn with
  | nil => exact h
  | append_singleton s c ih =>
    rw [List.rdropWhile_concat]
    split
    · next hc =>
      apply ih
      unfold lex at h ⊢
      rw [lexRun_append] at h
      obtain ⟨st', hrun, hend⟩ := Option.bind_eq_some_iff.mp h
      obtain ⟨st, hrun, hlast⟩ := Option.bind_eq_some_iff.mp hrun
      rw [lexRun_cons] at hlast
      obtain ⟨st'', hstep, hnil⟩ := Option.bind_eq_some_iff.mp hlast
      cases hnil
      rw [hrun]
      exact lexEnd_of_space hc hstep hend
    · exact h

/-- **A document is read from its stripped text too.** -/
theorem loads_stripSpace {s : Str} {v : Json} (h : loads F s = some v) : loads F s.stripSpace = some v := by
  obtain ⟨toks, hlex, hparse⟩ := Option.bind_eq_some_iff.mp h
  unfold loads Str.stripSpace
  rw [lex_rdropWhile (lex_dropWhile hlex)]
  exact hparse

/-- A text that neither starts nor ends with whitespace is its own stripped text. -/
theorem stripSpace_of_ends {c d : CodePoint} (s : Str) (hc : Str.isSpace c = false)
    (hd : Str.isSpace d = false) : Str.stripSpace (c :: (s ++ [d])) = c :: (s ++ [d]) := by
  unfold Str.stripSpace
  rw [List.dropWhile_cons, if_neg (by simp [hc])]
  show List.rdropWhile Str.isSpace ((c :: s) ++ [d]) = _
  rw [List.rdropWhile_concat_neg _ _ _ (by simp [hd])]
  rfl

/-! ## The first token -/

/-- Reading only adds tokens. -/
theorem lexStep_extends {st st' : LexState} {c : CodePoint} (h : lexStep F st c = some st') : st.1 <+: st'.1 := by
  have henter : ∀ {toks c st'}, enter toks c = some st' → toks <+: st'.1 := by
    intro toks c st' h
    unfold enter at h
    split_ifs at h
    · cases h
      exact List.prefix_rfl
    · cases h
      exact List.prefix_rfl
    · cases h
      exact List.prefix_rfl
    · obtain ⟨t, _, rfl⟩ := Option.map_eq_some_iff.mp h
      exact List.prefix_append _ _
  obtain ⟨toks, mode⟩ := st
  cases mode with
  | between => exact henter h
  | scalar text =>
    simp only [lexStep] at h
    split at h
    · cases h
      exact List.prefix_rfl
    · obtain ⟨t, _, hrest⟩ := Option.bind_eq_some_iff.mp h
      exact (List.prefix_append _ _).trans (henter hrest)
  | string | escape | hex =>
    rcases lexStep_inString rfl h with ⟨text, _, rfl⟩ | ⟨mode', _, rfl⟩
    · exact List.prefix_append _ _
    · exact List.prefix_rfl

theorem lexRun_extends {s : Str} {st st' : LexState} (h : lexRun F st s = some st') : st.1 <+: st'.1 := by
  induction s generalizing st with
  | nil =>
    cases h
    exact List.prefix_rfl
  | cons c s ih =>
    rw [lexRun_cons] at h
    obtain ⟨st₁, hstep, hrun⟩ := Option.bind_eq_some_iff.mp h
    exact (lexStep_extends hstep).trans (ih hrun)

theorem lexEnd_extends {st : LexState} {toks : List Token} (h : lexEnd F st = some toks) : st.1 <+: toks := by
  obtain ⟨toks₀, mode⟩ := st
  cases mode with
  | between =>
    cases h
    exact List.prefix_rfl
  | scalar text =>
    obtain ⟨t, _, rfl⟩ := Option.map_eq_some_iff.mp h
    exact List.prefix_append _ _
  | string | escape | hex => cases h

/-- The tokens of a text that starts with a punctuation character. -/
theorem lex_punctuation {c : CodePoint} {s : Str} {t : Token} {toks : List Token}
    (hc : enter [] c = some ([t], .between)) (h : lex F (c :: s) = some toks) : ∃ rest, toks = t :: rest := by
  unfold lex at h
  rw [lexRun_cons] at h
  obtain ⟨st', hrun, hend⟩ := Option.bind_eq_some_iff.mp h
  obtain ⟨st, hstep, hrest⟩ := Option.bind_eq_some_iff.mp hrun
  rw [show lexStep F ([], .between) c = enter [] c from rfl, hc] at hstep
  cases hstep
  obtain ⟨rest, hextends⟩ := (lexRun_extends hrest).trans (lexEnd_extends hend)
  exact ⟨rest, hextends.symm⟩

/-- A text that starts with a brace or a bracket. -/
def braceOrBracket (s : Str) : Bool := s.startsWith "\x7b" || s.startsWith "["

theorem braceOrBracket_iff {s : Str} :
    braceOrBracket s = true ↔ ∃ c rest, s = c :: rest ∧ (c = cp '\x7b' ∨ c = cp '[') := by
  cases s with
  | nil => simp [braceOrBracket, Str.startsWith, str]
  | cons d s =>
    have hstart : ∀ w : Char, Str.startsWith (d :: s) [cp w] = true ↔ d = cp w := by
      intro w
      simp only [Str.startsWith, List.isPrefixOf_cons_cons, List.isPrefixOf_nil_left, Bool.and_true, beq_iff_eq]
      exact eq_comm
    show (Str.startsWith (d :: s) [cp '\x7b'] || Str.startsWith (d :: s) [cp '[']) = true ↔ _
    rw [Bool.or_eq_true, hstart, hstart]
    constructor
    · intro h
      exact ⟨d, s, rfl, h⟩
    · rintro ⟨c, rest, heq, hc⟩
      cases heq
      exact hc

/-- **A document that starts with a brace or a bracket is an object or an array.** -/
theorem kind_of_braceOrBracket {s : Str} {v : Json} (hs : braceOrBracket s = true) (h : loads F s = some v) :
    ∃ b, kind v = some b := by
  obtain ⟨toks, hlex, hparse⟩ := Option.bind_eq_some_iff.mp h
  obtain ⟨c, rest, rfl, hc⟩ := braceOrBracket_iff.mp hs
  rcases hc with rfl | rfl
  · obtain ⟨toks', rfl⟩ := lex_punctuation (t := .openObj) rfl hlex
    exact ⟨true, kind_of_openObj hparse⟩
  · obtain ⟨toks', rfl⟩ := lex_punctuation (t := .openArr) rfl hlex
    exact ⟨false, kind_of_openArr hparse⟩

/-- The first token is, or is going to be, neither a brace nor a bracket that opens. -/
def NotOpening : LexState → Prop
  | ([], mode)   => mode ≠ .between
  | (t :: _, _)  => t ≠ .openObj ∧ t ≠ .openArr

@[simp] theorem notOpening_nil {mode : Lexing} : NotOpening ([], mode) ↔ mode ≠ .between := Iff.rfl

@[simp] theorem notOpening_cons {t : Token} {toks : List Token} {mode : Lexing} :
    NotOpening (t :: toks, mode) ↔ t ≠ .openObj ∧ t ≠ .openArr := Iff.rfl

theorem NotOpening.of_head {t : Token} {toks : List Token} {st : LexState} (ht : t ≠ .openObj ∧ t ≠ .openArr)
    (h : t :: toks <+: st.1) : NotOpening st := by
  obtain ⟨rest, hrest⟩ := h
  obtain ⟨toks', mode⟩ := st
  cases hrest
  exact ht

/-- A number or a name is an atom, so it opens nothing. -/
theorem scalarToken_atom {text : Str} {t : Token} (h : scalarToken F text = some t) : ∃ a, t = .atom a := by
  unfold scalarToken at h
  split_ifs at h <;> exact ⟨_, (Option.some.inj h).symm⟩

/-- One character keeps it. -/
theorem lexStep_notOpening {st st' : LexState} {c : CodePoint} (hst : NotOpening st)
    (h : lexStep F st c = some st') : NotOpening st' := by
  obtain ⟨toks, mode⟩ := st
  cases toks with
  | cons t toks => exact .of_head hst (lexStep_extends h)
  | nil =>
    cases mode with
    | between => exact absurd rfl hst
    | scalar text =>
      simp only [lexStep] at h
      split at h
      · cases h
        simp
      · obtain ⟨t, ht, hrest⟩ := Option.bind_eq_some_iff.mp h
        obtain ⟨a, rfl⟩ := scalarToken_atom ht
        have hextends : ([.atom a], Lexing.between).1 <+: st'.1 := lexStep_extends (F := F) hrest
        have hatom : (.atom a : Token) ≠ .openObj ∧ (.atom a : Token) ≠ .openArr := by simp
        exact .of_head hatom hextends
    | string | escape | hex =>
      rcases lexStep_inString rfl h with ⟨text, _, rfl⟩ | ⟨mode', hmode, rfl⟩
      · simp
      · -- Inside a string the reader is not between tokens.
        rintro rfl
        cases hmode

theorem lexRun_notOpening {s : Str} {st st' : LexState} (hst : NotOpening st)
    (h : lexRun F st s = some st') : NotOpening st' := by
  induction s generalizing st with
  | nil =>
    cases h
    exact hst
  | cons c s ih =>
    rw [lexRun_cons] at h
    obtain ⟨st₁, hstep, hrun⟩ := Option.bind_eq_some_iff.mp h
    exact ih (lexStep_notOpening hst hstep) hrun

theorem lexEnd_notOpening {st : LexState} {toks : List Token} (hst : NotOpening st)
    (h : lexEnd F st = some toks) : ∀ t rest, toks = t :: rest → t ≠ .openObj ∧ t ≠ .openArr := by
  rintro t rest rfl
  obtain ⟨toks, mode⟩ := st
  cases mode with
  | between =>
    cases h
    exact hst
  | scalar text =>
    obtain ⟨t', ht', heq⟩ := Option.map_eq_some_iff.mp h
    cases toks with
    | nil =>
      obtain ⟨a, rfl⟩ := scalarToken_atom ht'
      cases heq
      simp
    | cons t₀ toks =>
      cases heq
      exact hst
  | string | escape | hex => cases h

/-- **An object or an array is read from a text that starts with a brace or a bracket.** -/
theorem braceOrBracket_of_kind {s : Str} {v : Json} {b : Bool} (h : loads F s = some v)
    (hkind : kind v = some b) : braceOrBracket s.stripSpace = true := by
  obtain ⟨toks, hlex, hparse⟩ := Option.bind_eq_some_iff.mp (loads_stripSpace h)
  cases htext : s.stripSpace with
  | nil =>
    rw [htext] at hlex
    cases hlex
    cases hparse
  | cons c rest =>
    rw [htext] at hlex
    have hspace : jsonSpace c = false := by
      rw [Bool.eq_false_iff]
      intro hc
      simp only [jsonSpace, Bool.or_eq_true, beq_iff_eq] at hc
      have := Str.stripSpace_head htext
      rcases hc with ((rfl | rfl) | rfl) | rfl <;> cases this
    by_contra hnot
    have hopen : ¬(c = cp '\x7b' ∨ c = cp '[') :=
      fun hc => hnot (braceOrBracket_iff.mpr ⟨c, rest, rfl, hc⟩)
    -- Whatever else the text starts with, its first token opens nothing.
    obtain ⟨st', hrun, hend⟩ := Option.bind_eq_some_iff.mp hlex
    rw [lexRun_cons] at hrun
    obtain ⟨st, hstep, hrest⟩ := Option.bind_eq_some_iff.mp hrun
    have hst : NotOpening st := by
      change enter [] c = some st at hstep
      unfold enter at hstep
      rw [if_neg (by simp [hspace])] at hstep
      split_ifs at hstep
      · cases hstep
        simp
      · cases hstep
        simp
      · obtain ⟨t, ht, rfl⟩ := Option.map_eq_some_iff.mp hstep
        unfold punctuation at ht
        rw [if_neg fun h => hopen (.inl h)] at ht
        split_ifs at ht
        · cases ht
          simp
        · exact absurd (.inr ‹c = cp '['›) hopen
        all_goals
          cases ht
          simp
    cases toks with
    | nil => cases hparse
    | cons t toks =>
      obtain ⟨hobj, harr⟩ := lexEnd_notOpening (lexRun_notOpening hst hrest) hend t toks rfl
      rcases open_of_kind hparse hkind with rfl | rfl
      · exact hobj rfl
      · exact harr rfl

end Py
