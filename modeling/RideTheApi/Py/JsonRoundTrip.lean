import Mathlib.Data.Nat.Digits.Lemmas
import RideTheApi.Py.JsonText

/-!
# `Py.JsonRoundTrip` — what `json.loads` returns is read back from its own text

`Readable` says which scalars `loads` can return. A tree over readable scalars whose objects repeat no key
is written by `dumps` and read back (`loads_dumps`); everything `loads` returns is such a tree, with strings
shorter than the text (`loads_over`). The proof follows the text piece by piece: `Settled` says that the
reader has taken a whole value, whatever comes next.
-/

namespace Py

open JsonGrammar

variable {I : Interp} (F : FloatReader I)

/-! ## Running the reader -/

@[simp] theorem lexRun_nil (st : LexState) : lexRun F st [] = some st := rfl

theorem lexRun_cons (st : LexState) (c : CodePoint) (s : Str) :
    lexRun F st (c :: s) = (lexStep F st c).bind fun st' => lexRun F st' s := by
  show List.foldlM (lexStep F) st (c :: s) = _
  rw [List.foldlM_cons]
  rfl

theorem lexRun_append (st : LexState) (s s' : Str) :
    lexRun F st (s ++ s') = (lexRun F st s).bind fun st' => lexRun F st' s' := by
  unfold lexRun
  rw [List.foldlM_append]
  rfl

/-- The reader has taken the tokens `toks`, whatever comes next that cannot go on with a number or a name. -/
def Settled (st : LexState) (toks : List Token) : Prop :=
  lexEnd F st = some toks ∧ ∀ c, scalarChar c = false → lexStep F st c = enter toks c

theorem settled_between (toks : List Token) : Settled F (toks, .between) toks := ⟨rfl, fun _ _ => rfl⟩

variable {F}

theorem settled_scalar {text : Str} {t : Token} (toks : List Token) (h : scalarToken F text = some t) :
    Settled F (toks, .scalar text) (toks ++ [t]) := by
  constructor
  · show (scalarToken F text).map _ = _
    rw [h]
    rfl
  · intro c hc
    show (if scalarChar c = true then _ else _) = _
    rw [if_neg (by simp [hc]), h]
    rfl

/-- A settled reader goes on as if nothing were pending. -/
theorem Settled.run {st : LexState} {toks : List Token} (h : Settled F st toks) {c : CodePoint}
    (hc : scalarChar c = false) (s : Str) : lexRun F st (c :: s) = lexRun F (toks, .between) (c :: s) := by
  rw [lexRun_cons, lexRun_cons, h.2 c hc]
  rfl

theorem Settled.lex {s : Str} {st : LexState} {toks : List Token} (hrun : lexRun F ([], .between) s = some st)
    (h : Settled F st toks) : lex F s = some toks := by
  unfold Py.lex
  rw [hrun]
  exact h.1

/-! ## Strings -/

theorem hexValue_hexChar : ∀ d < 16, hexValue (hexChar d) = some d := by decide

/-- Four digits that were written are read back. -/
theorem hexDigits_eq {n : Nat} (h : n < 0x10000) :
    [n / 0x1000 % 16, n / 0x100 % 16, n / 0x10 % 16, n % 16].foldl (fun n d => 16 * n + d) 0 = n := by
  simp only [List.foldl_cons, List.foldl_nil]
  omega

/-- The first three digits are kept. -/
theorem lexStep_hex {toks : List Token} {text : Str} {high : Bool} {digits : List Nat} {c : CodePoint} {d : Nat}
    (hd : hexValue c = some d) (hlen : digits.length < 3) :
    lexStep F (toks, .hex text high digits) c = some (toks, .hex text high (digits ++ [d])) := by
  show lexHex toks text high digits c = _
  unfold lexHex
  rw [hd, Option.map_some, if_pos hlen]

/-- The fourth digit makes the unit. -/
theorem lexStep_hex_last {toks : List Token} {text : Str} {digits : List Nat} {c : CodePoint} {d : Nat}
    (hd : hexValue c = some d) (hlen : digits.length = 3)
    (hhigh : isHigh ((digits ++ [d]).foldl (fun n d => 16 * n + d) 0) = false) :
    lexStep F (toks, .hex text false digits) c =
      some (toks, .string (text ++ [Fin.ofNat 0x110000 ((digits ++ [d]).foldl (fun n d => 16 * n + d) 0)])
        false) := by
  show lexHex toks text false digits c = _
  unfold lexHex
  rw [hd, Option.map_some, if_neg (by omega)]
  show some (toks, Lexing.string (text ++ [_]) (isHigh _)) = _
  rw [hhigh]

/-- A code unit that is no surrogate is read back from `\uXXXX`. -/
theorem lexRun_escapeU4 (toks : List Token) (text : Str) {c : CodePoint} (h : c.val < 0xd800) :
    lexRun F (toks, .string text false) (escapeU4 c.val) = some (toks, .string (text ++ [c]) false) := by
  have hdigit : ∀ n, hexValue (hexChar (n % 16)) = some (n % 16) :=
    fun n => hexValue_hexChar _ (Nat.mod_lt _ (by omega))
  have hvalue := hexDigits_eq (n := c.val) (by omega)
  have hhigh : isHigh c.val = false := by
    unfold isHigh
    simp
    omega
  have hback : lexStep F (toks, .string text false) (cp '\\') = some (toks, .escape text false) := rfl
  have hu : lexStep F (toks, .escape text false) (cp 'u') = some (toks, .hex text false []) := rfl
  have hc : Fin.ofNat 0x110000 c.val = c := Fin.ext (Nat.mod_eq_of_lt c.isLt)
  unfold escapeU4
  rw [lexRun_cons, hback, Option.bind_some, lexRun_cons, hu, Option.bind_some,
    lexRun_cons, lexStep_hex (hdigit _) (by simp), Option.bind_some,
    lexRun_cons, lexStep_hex (hdigit _) (by simp), Option.bind_some,
    lexRun_cons, lexStep_hex (hdigit _) (by simp), Option.bind_some, lexRun_cons]
  simp only [List.nil_append, List.cons_append]
  rw [lexStep_hex_last (hdigit _) rfl]
  · simp only [List.cons_append, List.nil_append, hvalue, hc]
    rfl
  · simp only [List.cons_append, List.nil_append, hvalue, hhigh]

/-- One escaped code point is read back. -/
theorem lexRun_escapeRaw (toks : List Token) (text : Str) (c : CodePoint) :
    lexRun F (toks, .string text false) (escapeRaw c) = some (toks, .string (text ++ [c]) false) := by
  have hback : lexStep F (toks, .string text false) (cp '\\') = some (toks, .escape text false) := rfl
  have hshort : ∀ {d : CodePoint}, d ≠ cp 'u' → unescape d = some c →
      lexRun F (toks, .string text false) [cp '\\', d] = some (toks, .string (text ++ [c]) false) := by
    intro d hd hunescape
    rw [lexRun_cons, hback, Option.bind_some, lexRun_cons]
    show (lexEscape toks text false d).bind _ = _
    unfold lexEscape
    rw [if_neg hd, hunescape]
    rfl
  unfold escapeRaw
  split
  case isTrue h =>
    subst h
    exact hshort (by decide) rfl
  case isFalse hquote =>
  split
  case isTrue h =>
    subst h
    exact hshort (by decide) rfl
  case isFalse hslash =>
  split
  case isTrue h => exact hshort (by decide) (congrArg some (Fin.ext h.symm))
  case isFalse =>
  split
  case isTrue h => exact hshort (by decide) (congrArg some (Fin.ext h.symm))
  case isFalse =>
  split
  case isTrue h => exact hshort (by decide) (congrArg some (Fin.ext h.symm))
  case isFalse =>
  split
  case isTrue h => exact hshort (by decide) (congrArg some (Fin.ext h.symm))
  case isFalse =>
  split
  case isTrue h => exact hshort (by decide) (congrArg some (Fin.ext h.symm))
  case isFalse =>
  split
  case isTrue h => exact lexRun_escapeU4 toks text (by omega)
  case isFalse h =>
    rw [lexRun_cons]
    show (lexString toks text false c).bind _ = _
    unfold lexString
    rw [if_neg hquote, if_neg hslash, if_neg h]
    rfl

/-- The escapes of a text are read back. -/
theorem lexRun_escapes (toks : List Token) (s text : Str) :
    lexRun F (toks, .string text false) (s.flatMap escapeRaw) = some (toks, .string (text ++ s) false) := by
  induction s generalizing text with
  | nil => rw [List.flatMap_nil, lexRun_nil, List.append_nil]
  | cons c s ih =>
    rw [List.flatMap_cons, lexRun_append, lexRun_escapeRaw, Option.bind_some, ih, List.append_assoc]
    rfl

/-- A string that was written is read back. -/
theorem lexRun_dumpsRawStr (toks : List Token) (s : Str) :
    lexRun F (toks, .between) (dumpsRawStr s) = some (toks ++ [.str s], .between) := by
  have hopen : lexStep F (toks, .between) (cp '"') = some (toks, .string [] false) := rfl
  unfold dumpsRawStr
  rw [lexRun_cons, hopen, Option.bind_some, lexRun_append, lexRun_escapes, Option.bind_some, List.nil_append]
  rfl

/-! ## Numbers and names -/

theorem not_space_of_scalarChar {c : CodePoint} (h : scalarChar c = true) :
    jsonSpace c = false ∧ c ≠ cp '"' := by
  constructor
  · rw [Bool.eq_false_iff]
    intro hspace
    simp only [jsonSpace, Bool.or_eq_true, beq_iff_eq] at hspace
    rcases hspace with ((rfl | rfl) | rfl) | rfl <;> exact absurd h (by decide)
  · rintro rfl
    exact absurd h (by decide)

/-- A number or a name is collected whole. -/
theorem lexRun_scalar {s : Str} (toks : List Token) (hne : s ≠ []) (hall : ∀ c ∈ s, scalarChar c = true) :
    lexRun F (toks, .between) s = some (toks, .scalar s) := by
  have hmore : ∀ (s text : Str), (∀ c ∈ s, scalarChar c = true) →
      lexRun F (toks, .scalar text) s = some (toks, .scalar (text ++ s)) := by
    intro s
    induction s with
    | nil =>
      intro text _
      rw [lexRun_nil, List.append_nil]
    | cons c s ih =>
      intro text hall
      rw [lexRun_cons]
      show (if scalarChar c = true then some (toks, Lexing.scalar (text ++ [c])) else _).bind _ = _
      rw [if_pos (hall c List.mem_cons_self), Option.bind_some,
        ih _ fun d hd => hall d (List.mem_cons_of_mem _ hd), List.append_assoc]
      rfl
  cases s with
  | nil => exact absurd rfl hne
  | cons c s =>
    have hc := hall c List.mem_cons_self
    obtain ⟨hspace, hquote⟩ := not_space_of_scalarChar hc
    have henter : lexStep F (toks, .between) c = some (toks, .scalar [c]) := by
      show enter toks c = _
      unfold enter
      rw [if_neg (by simp [hspace]), if_neg hquote, if_pos hc]
    rw [lexRun_cons, henter, Option.bind_some, hmore s [c] fun d hd => hall d (List.mem_cons_of_mem _ hd)]
    rfl

theorem scalarChar_of_digit {c : CodePoint} (h : Interp.asciiDigit c = true) : scalarChar c = true := by
  simp [scalarChar, h]

theorem asciiDigit_hexChar : ∀ d < 10, Interp.asciiDigit (hexChar d) = true ∧ (hexChar d).val - 0x30 = d := by
  decide

/-- The digits of a number, written most significant first. -/
theorem natOf_map_hexChar (ds : List Nat) (h : ∀ d ∈ ds, d < 10) :
    natOf (ds.reverse.map hexChar) = Nat.ofDigits 10 ds := by
  unfold natOf
  rw [List.foldl_map, List.foldl_reverse, Nat.ofDigits_eq_foldr]
  induction ds with
  | nil => rfl
  | cons d ds ih =>
    rw [List.foldr_cons, List.foldr_cons, ih fun d' hd' => h d' (List.mem_cons_of_mem _ hd'),
      (asciiDigit_hexChar d (h d List.mem_cons_self)).2]
    simp
    omega

theorem natOf_natStr (n : Nat) : natOf (natStr n) = n := by
  unfold natStr
  split
  · next h =>
    rw [h]
    rfl
  · rw [natOf_map_hexChar _ fun d hd => Nat.digits_lt_base (by omega) hd, Nat.ofDigits_digits]

theorem natStr_digits {n : Nat} {c : CodePoint} (h : c ∈ natStr n) : Interp.asciiDigit c = true := by
  unfold natStr at h
  split at h
  · rw [List.mem_singleton.mp h]
    rfl
  · obtain ⟨d, hd, rfl⟩ := List.mem_map.mp h
    exact (asciiDigit_hexChar d (Nat.digits_lt_base (by omega) (List.mem_reverse.mp hd))).1

theorem natStr_ne_nil (n : Nat) : natStr n ≠ [] := by
  unfold natStr
  split
  · simp
  · next h => simpa using Nat.digits_ne_nil_iff_ne_zero.mpr h

theorem hexChar_ne_zero : ∀ d < 10, d ≠ 0 → hexChar d ≠ cp '0' := by decide

/-- The digits of a number have no leading zero. -/
theorem isNatText_natStr (n : Nat) : isNatText (natStr n) = true := by
  have hall : (natStr n).all Interp.asciiDigit = true := List.all_eq_true.mpr fun c hc => natStr_digits hc
  have hne : (natStr n).isEmpty = false := by
    rw [List.isEmpty_eq_false_iff]
    exact natStr_ne_nil n
  unfold isNatText
  rw [hall, hne]
  simp only [Bool.not_false, Bool.and_true, Bool.true_and, Bool.or_eq_true, bne_iff_ne, beq_iff_eq]
  by_cases hn : n = 0
  · right
    rw [hn]
    rfl
  · left
    have hlast := Nat.getLast_digit_ne_zero 10 hn
    have hlt := Nat.digits_lt_base (b := 10) (by omega) (List.getLast_mem (Nat.digits_ne_nil_iff_ne_zero.mpr hn))
    unfold natStr
    rw [if_neg hn, List.head?_map, List.head?_reverse,
      List.getLast?_eq_some_getLast (Nat.digits_ne_nil_iff_ne_zero.mpr hn)]
    intro heq
    exact hexChar_ne_zero _ hlt hlast (Option.some.inj heq)

theorem unsigned_of_digit {s : Str} (h : ∀ c ∈ s, Interp.asciiDigit c = true) : unsigned s = s := by
  unfold unsigned
  rw [if_neg]
  intro hhead
  have := h _ (List.mem_of_mem_head? hhead)
  exact absurd this (by decide)

theorem unsigned_minus (s : Str) : unsigned (cp '-' :: s) = s := rfl

/-- A name is neither an integer nor a float. -/
theorem scalarToken_number {s : Str} (h : isIntText s = true ∨ isFloatText s = true) :
    scalarToken F s = if isIntText s then
      if maxStrDigits < (unsigned s).length then none else some (.atom (.int (intOf s)))
      else if isFloatText s then some (.atom (.float (F.parse s))) else none := by
  have hname : ∀ w : String, isIntText (str w) = false → isFloatText (str w) = false → s ≠ str w := by
    rintro w hint hfloat rfl
    rw [hint, hfloat] at h
    exact h.elim Bool.false_ne_true Bool.false_ne_true
  unfold scalarToken
  rw [if_neg (hname "null" (by decide) (by decide)), if_neg (hname "true" (by decide) (by decide)),
    if_neg (hname "false" (by decide) (by decide)), if_neg (hname "NaN" (by decide) (by decide)),
    if_neg (hname "Infinity" (by decide) (by decide)), if_neg (hname "-Infinity" (by decide) (by decide))]

theorem natStr_length {n : Nat} : (natStr n).length = max 1 (Nat.digits 10 n).length := by
  unfold natStr
  split
  · next h =>
    rw [h]
    rfl
  · next h =>
    have hpos := List.length_pos_iff.mpr (Nat.digits_ne_nil_iff_ne_zero.mpr h : Nat.digits 10 n ≠ [])
    rw [List.length_map, List.length_reverse]
    omega

/-- What the reader makes of an integer that was written. -/
theorem int_text {n : Int} (h : (Nat.digits 10 n.natAbs).length ≤ maxStrDigits) :
    ∃ s, intStr n = .ok s ∧ s ≠ [] ∧ (∀ c ∈ s, scalarChar c = true) ∧
      scalarToken F s = some (.atom (.int n)) := by
  have hdigits : ∀ c ∈ natStr n.natAbs, Interp.asciiDigit c = true := fun c hc => natStr_digits hc
  have hscalar : ∀ c ∈ natStr n.natAbs, scalarChar c = true := fun c hc => scalarChar_of_digit (hdigits c hc)
  have hlength : ¬maxStrDigits < (natStr n.natAbs).length := by
    rw [natStr_length]
    unfold maxStrDigits at h ⊢
    omega
  unfold intStr
  rw [if_neg (by omega)]
  by_cases hneg : n < 0
  · refine ⟨cp '-' :: natStr n.natAbs, by rw [if_pos hneg], by simp, ?_, ?_⟩
    · intro c hc
      rcases List.mem_cons.mp hc with rfl | hc
      · rfl
      · exact hscalar c hc
    · have hint : isIntText (cp '-' :: natStr n.natAbs) = true := by
        unfold isIntText
        rw [unsigned_minus]
        exact isNatText_natStr _
      have hvalue : intOf (cp '-' :: natStr n.natAbs) = n := by
        have hhead : (cp '-' :: natStr n.natAbs).head? = some (cp '-') := rfl
        unfold intOf
        rw [if_pos hhead, unsigned_minus, natOf_natStr]
        omega
      rw [scalarToken_number (.inl hint), if_pos hint, unsigned_minus, if_neg hlength, hvalue]
  · refine ⟨natStr n.natAbs, by rw [if_neg hneg], natStr_ne_nil _, hscalar, ?_⟩
    have hunsigned := unsigned_of_digit hdigits
    have hint : isIntText (natStr n.natAbs) = true := by
      unfold isIntText
      rw [hunsigned]
      exact isNatText_natStr _
    have hhead : ¬(natStr n.natAbs).head? = some (cp '-') := by
      intro hhead
      exact absurd (hdigits _ (List.mem_of_mem_head? hhead)) (by decide)
    have hvalue : intOf (natStr n.natAbs) = n := by
      unfold intOf
      rw [if_neg hhead, hunsigned, natOf_natStr]
      omega
    rw [scalarToken_number (.inl hint), if_pos hint, hunsigned, if_neg hlength, hvalue]

theorem isDigits_scalar {s : Str} (h : isDigits s = true) : ∀ c ∈ s, scalarChar c = true := by
  simp only [isDigits, Bool.and_eq_true, List.all_eq_true] at h
  exact fun c hc => scalarChar_of_digit (h.1 c hc)

theorem isExponent_scalar {s : Str} (h : isExponent s = true) : ∀ c ∈ s, scalarChar c = true := by
  cases s with
  | nil => exact absurd h Bool.false_ne_true
  | cons e s =>
    simp only [isExponent, Bool.and_eq_true, Bool.or_eq_true, beq_iff_eq] at h
    obtain ⟨he, hdigits⟩ := h
    intro c hc
    rcases List.mem_cons.mp hc with rfl | hc
    · rcases he with rfl | rfl <;> rfl
    · cases s with
      | nil => exact absurd hc List.not_mem_nil
      | cons sign s =>
        split at hdigits
        · next hsign =>
          rcases List.mem_cons.mp hc with rfl | hc
          · rcases hsign with hsign | hsign <;> cases hsign <;> rfl
          · exact isDigits_scalar hdigits c hc
        · exact isDigits_scalar hdigits c hc

theorem mem_span {p : CodePoint → Bool} {s : Str} {c : CodePoint} (h : c ∈ s) :
    p c = true ∨ c ∈ s.dropWhile p := by
  rw [← List.takeWhile_append_dropWhile (p := p) (l := s)] at h
  rcases List.mem_append.mp h with h | h
  · exact .inl (List.mem_takeWhile_imp h)
  · exact .inr h

theorem isFraction_scalar {s : Str} (h : isFraction s = true) : ∀ c ∈ s, scalarChar c = true := by
  cases s with
  | nil => exact absurd h Bool.false_ne_true
  | cons dot s =>
    rw [isFraction] at h
    split at h
    · next hdot =>
      simp only [Bool.and_eq_true, Bool.or_eq_true, List.isEmpty_iff] at h
      intro c hc
      rcases List.mem_cons.mp hc with rfl | hc
      · rw [hdot]
        rfl
      · rcases mem_span hc with hdigit | hrest
        · exact scalarChar_of_digit hdigit
        · rcases h.2 with hnil | hexp
          · exact absurd (hnil ▸ hrest) List.not_mem_nil
          · exact isExponent_scalar hexp c hrest
    · exact isExponent_scalar h

/-- The characters of a float. -/
theorem isFloatText_scalar {s : Str} (h : isFloatText s = true) : ∀ c ∈ s, scalarChar c = true := by
  simp only [isFloatText, Bool.and_eq_true] at h
  have hunsigned : ∀ c ∈ unsigned s, scalarChar c = true := by
    intro c hc
    rcases mem_span hc with hdigit | hrest
    · exact scalarChar_of_digit hdigit
    · exact isFraction_scalar h.2 c hrest
  intro c hc
  unfold unsigned at hunsigned
  split at hunsigned
  · next hhead =>
    cases s with
    | nil => cases hhead
    | cons d s =>
      cases hhead
      rcases List.mem_cons.mp hc with rfl | hc
      · rfl
      · exact hunsigned c hc
  · exact hunsigned c hc

/-- A float is not an integer: nothing would be left for its fraction. -/
theorem not_isIntText {s : Str} (h : isFloatText s = true) : isIntText s = false := by
  rw [Bool.eq_false_iff]
  intro hint
  simp only [isIntText, isNatText, Bool.and_eq_true] at hint
  have hrest : (unsigned s).dropWhile Interp.asciiDigit = [] :=
    List.dropWhile_eq_nil_iff.mpr fun c hc => List.all_eq_true.mp hint.1.1 c hc
  simp only [isFloatText, Bool.and_eq_true, hrest] at h
  exact absurd h.2 Bool.false_ne_true

/-! ## Readable scalars -/

/-- The scalars `loads` can return: integers of at most 4300 digits, and `NaN` as `NaN` is read. -/
def Readable : Token → Prop
  | .atom (.int n)   => (Nat.digits 10 n.natAbs).length ≤ maxStrDigits
  | .atom (.float x) => isNaN x = true → x = nanBits
  | _                => True

/-- What the reader makes of a float that was written. -/
theorem float_text (F : FloatReader I) {x : BitVec 64} (h : isNaN x = true → x = nanBits) :
    dumpsFloat I x ≠ [] ∧ (∀ c ∈ dumpsFloat I x, scalarChar c = true) ∧
      scalarToken F (dumpsFloat I x) = some (.atom (.float x)) := by
  have hlt := x.isLt
  unfold dumpsFloat
  split
  · next hexp =>
    split
    · next hman =>
      split
      · next hsign =>
        -- The two infinities are determined by their sign.
        have hx : x = 0x7ff0000000000000#64 := by
          apply BitVec.eq_of_toNat_eq
          show x.toNat = 0x7ff0000000000000
          omega
        subst hx
        exact ⟨by decide, List.all_eq_true.mp rfl, rfl⟩
      · next hsign =>
        have hx : x = 0xfff0000000000000#64 := by
          apply BitVec.eq_of_toNat_eq
          show x.toNat = 0xfff0000000000000
          omega
        subst hx
        exact ⟨by decide, List.all_eq_true.mp rfl, rfl⟩
    · next hman =>
      have hnan : isNaN x = true := by
        simp only [isNaN, Bool.and_eq_true, beq_iff_eq, bne_iff_ne]
        exact ⟨hexp, hman⟩
      rw [h hnan]
      exact ⟨by decide, List.all_eq_true.mp rfl, rfl⟩
  · next hexp =>
    have hfinite : isFinite x = true := by
      simp only [isFinite, bne_iff_ne]
      exact hexp
    have htext := F.text_number x hfinite
    refine ⟨?_, isFloatText_scalar htext, ?_⟩
    · intro hnil
      rw [hnil] at htext
      exact absurd htext (by decide)
    · rw [scalarToken_number (.inr htext), if_neg (by simp [not_isIntText htext]), if_pos htext,
        F.parse_text x hfinite]

/-! ## Values are read back -/

theorem joinWith_cons (sep s : Str) (ss : List Str) :
    joinWith sep (s :: ss) = s ++ ss.flatMap fun t => sep ++ t := by
  induction ss generalizing s with
  | nil => rw [joinWith, List.flatMap_nil, List.append_nil]
  | cons t ss ih =>
    rw [joinWith, ih t, List.flatMap_cons, List.append_assoc, List.append_assoc]
    simp

/-- The reader takes a comma and the blank after it. -/
theorem lexRun_comma (toks : List Token) (s : Str) :
    lexRun F (toks, .between) (str ", " ++ s) = lexRun F (toks ++ [.comma], .between) s := by
  have hsep : lexRun F (toks, .between) (str ", ") = some (toks ++ [.comma], .between) := rfl
  rw [lexRun_append, hsep]
  rfl

/-- The reader takes a key, its colon and the blank after it. -/
theorem lexRun_key (toks : List Token) (k s : Str) :
    lexRun F (toks, .between) (dumpsRawStr k ++ str ": " ++ s) =
      lexRun F (toks ++ [.str k, .colon], .between) s := by
  have hsep : ∀ toks, lexRun F (toks, .between) (str ": ") = some (toks ++ [.colon], .between) := fun _ => rfl
  rw [List.append_assoc, lexRun_append, lexRun_dumpsRawStr, Option.bind_some, lexRun_append, hsep,
    Option.bind_some, List.append_assoc]
  rfl

/-- A scalar that is written is taken whole. -/
theorem settled_of_scalar {s : Str} {t : Token} (hne : s ≠ []) (hall : ∀ c ∈ s, scalarChar c = true)
    (htoken : scalarToken F s = some t) (toks : List Token) :
    ∃ st, lexRun F (toks, .between) s = some st ∧ Settled F st (toks ++ [t]) :=
  ⟨_, lexRun_scalar toks hne hall, settled_scalar toks htoken⟩

variable (F) in
/-- A text of `v`, which the reader takes whole. -/
def TextOf (v : Json) (s : Str) : Prop :=
  ∀ toks, ∃ st, lexRun F (toks, .between) s = some st ∧ Settled F st (toks ++ tokens v)

variable (F) in
/-- Texts of the items `xs`, which the reader takes with the commas before them and the bracket after. -/
def TextsOf (more : List Token) (close : Str) (closing : Token) (ss : List Str) : Prop :=
  ∀ st toks, Settled F st toks →
    lexRun F st ((ss.flatMap fun t => str ", " ++ t) ++ close) = some (toks ++ more ++ [closing], .between)

/-- A key and the text of its value. -/
theorem textOf_entry (k : Str) {x : Json} {s : Str} (h : TextOf F x s) (toks : List Token) :
    ∃ st, lexRun F (toks, .between) (dumpsRawStr k ++ str ": " ++ s) = some st ∧
      Settled F st (toks ++ ([.str k, .colon] ++ tokens x)) := by
  obtain ⟨st, hrun, hst⟩ := h (toks ++ [.str k, .colon])
  refine ⟨st, ?_, ?_⟩
  · rw [lexRun_key]
    exact hrun
  · rw [← List.append_assoc]
    exact hst

/-- The closing bracket is taken from any settled state. -/
theorem textsOf_nil {c : CodePoint} {closing : Token} (hc : scalarChar c = false)
    (henter : ∀ toks, enter toks c = some (toks ++ [closing], .between)) :
    TextsOf F [] [c] closing [] := by
  intro st toks hst
  show lexRun F st [c] = _
  rw [hst.run hc, lexRun_cons]
  show (enter toks c).bind _ = _
  rw [henter, List.append_nil]
  rfl

/-- One more text before the others. -/
theorem textsOf_cons {pre more : List Token} {close : Str} {closing : Token} {s : Str} {ss : List Str}
    (hs : ∀ toks, ∃ st, lexRun F (toks, .between) s = some st ∧ Settled F st (toks ++ pre))
    (hss : TextsOf F more close closing ss) :
    TextsOf F (.comma :: (pre ++ more)) close closing (s :: ss) := by
  intro st toks hst
  obtain ⟨st', hrun, hst'⟩ := hs (toks ++ [.comma])
  rw [List.flatMap_cons, List.append_assoc, List.append_assoc]
  show lexRun F st (cp ',' :: (cp ' ' :: (s ++ _))) = _
  rw [hst.run rfl]
  show lexRun F (toks, .between) (str ", " ++ (s ++ _)) = _
  rw [lexRun_comma, lexRun_append, hrun, Option.bind_some, hss st' _ hst']
  simp

/-- A container of which the first text is taken, with the others. -/
theorem textOf_container {pre more : List Token} {close : Str} {closing : Token} {s : Str} {ss : List Str}
    (hs : ∀ toks, ∃ st, lexRun F (toks, .between) s = some st ∧ Settled F st (toks ++ pre))
    (hss : TextsOf F more close closing ss) (toks : List Token) :
    lexRun F (toks, .between) (joinWith ", " (s :: ss) ++ close) =
      some (toks ++ (pre ++ more) ++ [closing], .between) := by
  obtain ⟨st, hrun, hst⟩ := hs toks
  rw [joinWith_cons, List.append_assoc, lexRun_append, hrun, Option.bind_some]
  have := hss st _ hst
  rw [this]
  simp

mutual
/-- **A tree over readable scalars has a text, and the reader takes it whole.** -/
theorem dumpsRaw_text : ∀ v : Json, Over Readable v → ∃ s, dumpsRaw I v = .ok s ∧ TextOf F v s
  | .null, _ => ⟨_, rfl, settled_of_scalar (by decide) (List.all_eq_true.mp rfl) rfl⟩
  | .bool true, _ => ⟨_, rfl, settled_of_scalar (by decide) (List.all_eq_true.mp rfl) rfl⟩
  | .bool false, _ => ⟨_, rfl, settled_of_scalar (by decide) (List.all_eq_true.mp rfl) rfl⟩
  | .int n, h => by
    obtain ⟨s, hs, hne, hall, htoken⟩ := int_text (F := F) h
    exact ⟨s, hs, settled_of_scalar hne hall htoken⟩
  | .float x, h => by
    obtain ⟨hne, hall, htoken⟩ := float_text F h
    exact ⟨_, rfl, settled_of_scalar hne hall htoken⟩
  | .str u, _ => ⟨_, rfl, fun toks => ⟨_, lexRun_dumpsRawStr toks u, settled_between F _⟩⟩
  | .arr [], _ => by
    refine ⟨_, rfl, fun toks => ⟨(toks ++ [.openArr, .closeArr], .between), ?_, settled_between F _⟩⟩
    show some (toks ++ [JsonToken.openArr] ++ [JsonToken.closeArr], Lexing.between) = _
    rw [List.append_assoc]
    rfl
  | .arr (x :: xs), h => by
    obtain ⟨s, hs, htext⟩ := dumpsRaw_text x h.1
    obtain ⟨ss, hss, htexts⟩ := dumpsRawList_text xs h.2
    refine ⟨str "[" ++ joinWith ", " (s :: ss) ++ str "]", ?_, ?_⟩
    · rw [dumpsRaw, dumpsRawList, hs, hss]
      rfl
    · intro toks
      refine ⟨_, ?_, settled_between F _⟩
      have hopen : lexRun F (toks, .between) (str "[") = some (toks ++ [.openArr], .between) := rfl
      rw [List.append_assoc, lexRun_append, hopen, Option.bind_some, textOf_container htext htexts]
      simp [tokens, itemTokens]
  | .obj [], _ => by
    refine ⟨_, rfl, fun toks => ⟨(toks ++ [.openObj, .closeObj], .between), ?_, settled_between F _⟩⟩
    show some (toks ++ [JsonToken.openObj] ++ [JsonToken.closeObj], Lexing.between) = _
    rw [List.append_assoc]
    rfl
  | .obj ((k, x) :: kvs), h => by
    obtain ⟨s, hs, htext⟩ := dumpsRaw_text x h.2.2.1
    obtain ⟨ss, hss, htexts⟩ := dumpsRawEntries_text kvs h.2.2.2
    refine ⟨str "\x7b" ++ joinWith ", " ((dumpsRawStr k ++ str ": " ++ s) :: ss) ++ str "\x7d", ?_, ?_⟩
    · rw [dumpsRaw, dumpsRawEntries, hs, hss]
      rfl
    · intro toks
      refine ⟨_, ?_, settled_between F _⟩
      have hopen : lexRun F (toks, .between) (str "\x7b") = some (toks ++ [.openObj], .between) := rfl
      rw [List.append_assoc, lexRun_append, hopen, Option.bind_some,
        textOf_container (textOf_entry k htext) htexts]
      simp [tokens, entryTokens]
theorem dumpsRawList_text : ∀ xs : List Json, OverList Readable xs →
    ∃ ss, dumpsRawList I xs = .ok ss ∧ TextsOf F (moreItemTokens xs) "]" .closeArr ss
  | [], _ => ⟨[], rfl, textsOf_nil rfl fun _ => rfl⟩
  | x :: xs, h => by
    obtain ⟨s, hs, htext⟩ := dumpsRaw_text x h.1
    obtain ⟨ss, hss, htexts⟩ := dumpsRawList_text xs h.2
    refine ⟨s :: ss, ?_, textsOf_cons htext htexts⟩
    rw [dumpsRawList, hs, hss]
    rfl
theorem dumpsRawEntries_text : ∀ kvs : List (Str × Json), OverEntries Readable kvs →
    ∃ ss, dumpsRawEntries I kvs = .ok ss ∧ TextsOf F (moreEntryTokens kvs) "\x7d" .closeObj ss
  | [], _ => ⟨[], rfl, textsOf_nil rfl fun _ => rfl⟩
  | (k, x) :: kvs, h => by
    obtain ⟨s, hs, htext⟩ := dumpsRaw_text x h.2.1
    obtain ⟨ss, hss, htexts⟩ := dumpsRawEntries_text kvs h.2.2
    refine ⟨(dumpsRawStr k ++ str ": " ++ s) :: ss, ?_, textsOf_cons (textOf_entry k htext) htexts⟩
    rw [dumpsRawEntries, hs, hss]
    rfl
end

/-- **What is over readable scalars is read back from its own text.** -/
theorem loads_dumps {v : Json} (h : Over Readable v) : ∃ s, dumpsRaw I v = .ok s ∧ loads F s = some v := by
  obtain ⟨s, hs, htext⟩ := dumpsRaw_text (F := F) v h
  obtain ⟨st, hrun, hst⟩ := htext []
  refine ⟨s, hs, ?_⟩
  unfold loads
  rw [hst.lex hrun]
  exact parse_tokens h

/-! ## What is read -/

theorem natOf_append (s : Str) (c : CodePoint) : natOf (s ++ [c]) = 10 * natOf s + (c.val - 0x30) := by
  unfold natOf
  rw [List.foldl_append]
  rfl

theorem natOf_lt {s : Str} (h : ∀ c ∈ s, Interp.asciiDigit c = true) : natOf s < 10 ^ s.length := by
  induction s using List.reverseRecOn with
  | nil => simp [natOf]
  | append_singleton s c ih =>
    have hlt := ih fun d hd => h d (List.mem_append_left _ hd)
    have hc := h c (by simp)
    simp only [Interp.asciiDigit, Bool.and_eq_true, decide_eq_true_eq] at hc
    rw [natOf_append, List.length_append, List.length_singleton, Nat.pow_succ]
    omega

/-- A number or a name is read as a readable scalar. -/
theorem scalarToken_readable {s : Str} {t : Token} (h : scalarToken F s = some t) :
    Readable t ∧ ∀ u, t ≠ .str u := by
  unfold scalarToken at h
  split at h
  · cases h
    exact ⟨trivial, fun u hu => nomatch hu⟩
  split at h
  · cases h
    exact ⟨trivial, fun u hu => nomatch hu⟩
  split at h
  · cases h
    exact ⟨trivial, fun u hu => nomatch hu⟩
  split at h
  · cases h
    exact ⟨fun _ => rfl, fun u hu => nomatch hu⟩
  split at h
  · cases h
    exact ⟨fun hnan => absurd hnan (by decide), fun u hu => nomatch hu⟩
  split at h
  · cases h
    exact ⟨fun hnan => absurd hnan (by decide), fun u hu => nomatch hu⟩
  split at h
  · next hint =>
    split at h
    · cases h
    · next hlen =>
      cases h
      refine ⟨?_, fun u hu => nomatch hu⟩
      simp only [isIntText, isNatText, Bool.and_eq_true] at hint
      have hlt := natOf_lt fun c hc => List.all_eq_true.mp hint.1.1 c hc
      have habs : (intOf s).natAbs = natOf (unsigned s) := by
        unfold intOf
        split <;> omega
      show (Nat.digits 10 (intOf s).natAbs).length ≤ maxStrDigits
      rw [habs]
      exact ((Nat.digits_length_le_iff (by omega) _).mpr hlt).trans (by omega)
  split at h
  · next hfloat =>
    cases h
    refine ⟨fun hnan => ?_, fun u hu => nomatch hu⟩
    rw [F.parse_number s hfloat] at hnan
    cases hnan
  · cases h

/-- A readable token; a string is shorter than `n`. -/
def ReadWithin (n : Nat) (t : Token) : Prop := Readable t ∧ ∀ u, t = .str u → u.length < n

/-- After `n` characters: the tokens are readable, and the strings are shorter than what was read. -/
def Within (n : Nat) : LexState → Prop
  | (toks, .between) | (toks, .scalar _) => ∀ t ∈ toks, ReadWithin n t
  | (toks, .string text _) | (toks, .escape text _) | (toks, .hex text _ _) =>
    (∀ t ∈ toks, ReadWithin n t) ∧ text.length < n

theorem ReadWithin.mono {n m : Nat} {t : Token} (h : ReadWithin n t) (hle : n ≤ m) : ReadWithin m t :=
  ⟨h.1, fun u hu => (h.2 u hu).trans_le hle⟩

theorem readWithin_concat {n : Nat} {toks : List Token} {t : Token} (htoks : ∀ t ∈ toks, ReadWithin n t)
    (ht : ReadWithin n t) : ∀ t' ∈ toks ++ [t], ReadWithin n t' := by
  intro t' ht'
  rcases List.mem_append.mp ht' with ht' | ht'
  · exact htoks t' ht'
  · rw [List.mem_singleton.mp ht']
    exact ht

theorem punctuation_readable {c : CodePoint} {t : Token} (h : punctuation c = some t) (n : Nat) :
    ReadWithin n t := by
  unfold punctuation at h
  split_ifs at h <;> cases h <;> exact ⟨trivial, fun u hu => nomatch hu⟩

theorem enter_within {n : Nat} {toks : List Token} {c : CodePoint} {st : LexState}
    (htoks : ∀ t ∈ toks, ReadWithin (n + 1) t) (h : enter toks c = some st) : Within (n + 1) st := by
  unfold enter at h
  split at h
  · cases h
    exact htoks
  split at h
  · cases h
    exact ⟨htoks, Nat.succ_pos n⟩
  split at h
  · cases h
    exact htoks
  · obtain ⟨t, ht, rfl⟩ := Option.map_eq_some_iff.mp h
    exact readWithin_concat htoks (punctuation_readable ht _)

theorem addUnit_length (text : Str) (high : Bool) (n : Nat) : (addUnit text high n).length ≤ text.length + 1 := by
  unfold addUnit
  split
  · rw [List.length_append, List.length_singleton, List.length_dropLast]
    omega
  · rw [List.length_append, List.length_singleton]

/-- One character keeps the bound. -/
theorem lexStep_within {n : Nat} {st st' : LexState} {c : CodePoint} (hst : Within n st)
    (h : lexStep F st c = some st') : Within (n + 1) st' := by
  obtain ⟨toks, mode⟩ := st
  cases mode with
  | between => exact enter_within (fun t ht => (hst t ht).mono (Nat.le_succ n)) h
  | scalar text =>
    have htoks : ∀ t ∈ toks, ReadWithin (n + 1) t := fun t ht => (hst t ht).mono (Nat.le_succ n)
    simp only [lexStep] at h
    split at h
    · cases h
      exact htoks
    · obtain ⟨t, ht, henter⟩ := Option.bind_eq_some_iff.mp h
      obtain ⟨hreadable, hnot⟩ := scalarToken_readable ht
      exact enter_within (readWithin_concat htoks ⟨hreadable, fun u hu => absurd hu (hnot u)⟩) henter
  | string text high =>
    have htoks : ∀ t ∈ toks, ReadWithin (n + 1) t := fun t ht => (hst.1 t ht).mono (Nat.le_succ n)
    have hlen := hst.2
    simp only [lexStep, lexString] at h
    split at h
    · cases h
      refine readWithin_concat htoks ⟨trivial, ?_⟩
      intro u hu
      cases hu
      omega
    split at h
    · cases h
      exact ⟨htoks, by omega⟩
    split at h
    · cases h
    · cases h
      refine ⟨htoks, ?_⟩
      rw [List.length_append, List.length_singleton]
      omega
  | escape text high =>
    have htoks : ∀ t ∈ toks, ReadWithin (n + 1) t := fun t ht => (hst.1 t ht).mono (Nat.le_succ n)
    have hlen := hst.2
    simp only [lexStep, lexEscape] at h
    split at h
    · cases h
      exact ⟨htoks, by omega⟩
    · obtain ⟨d, _, rfl⟩ := Option.map_eq_some_iff.mp h
      refine ⟨htoks, ?_⟩
      rw [List.length_append, List.length_singleton]
      omega
  | hex text high digits =>
    have htoks : ∀ t ∈ toks, ReadWithin (n + 1) t := fun t ht => (hst.1 t ht).mono (Nat.le_succ n)
    have hlen := hst.2
    simp only [lexStep, lexHex] at h
    obtain ⟨d, _, rfl⟩ := Option.map_eq_some_iff.mp h
    split
    · exact ⟨htoks, by omega⟩
    · exact ⟨htoks, (addUnit_length _ _ _).trans_lt (by omega)⟩

/-- A run keeps the bound. -/
theorem lexRun_within {s : Str} {n : Nat} {st st' : LexState} (hst : Within n st)
    (h : lexRun F st s = some st') : Within (n + s.length) st' := by
  induction s generalizing n st with
  | nil =>
    cases h
    exact hst
  | cons c s ih =>
    rw [lexRun_cons] at h
    obtain ⟨st₁, hstep, hrun⟩ := Option.bind_eq_some_iff.mp h
    have := ih (lexStep_within hst hstep) hrun
    rw [List.length_cons, Nat.add_comm s.length 1, ← Nat.add_assoc]
    exact this

/-- The tokens of a text are readable, with strings shorter than the text. -/
theorem lex_within {s : Str} {toks : List Token} (h : lex F s = some toks) :
    ∀ t ∈ toks, ReadWithin s.length t := by
  obtain ⟨⟨toks', mode⟩, hrun, hend⟩ := Option.bind_eq_some_iff.mp h
  have hempty : Within 0 ([], .between) := fun t ht => absurd ht List.not_mem_nil
  have hwithin := lexRun_within hempty hrun
  rw [Nat.zero_add] at hwithin
  cases mode with
  | between =>
    cases hend
    exact hwithin
  | scalar text =>
    obtain ⟨t, ht, rfl⟩ := Option.map_eq_some_iff.mp hend
    obtain ⟨hreadable, hnot⟩ := scalarToken_readable ht
    exact readWithin_concat hwithin ⟨hreadable, fun u hu => absurd hu (hnot u)⟩
  | string | escape | hex => cases hend

/-- **What is read is over readable scalars, with strings shorter than the text.** -/
theorem loads_over {s : Str} {v : Json} (h : loads F s = some v) : Over (ReadWithin s.length) v := by
  obtain ⟨toks, hlex, hparse⟩ := Option.bind_eq_some_iff.mp h
  exact parse_over (lex_within hlex) hparse

theorem loads_readable {s : Str} {v : Json} (h : loads F s = some v) : Over Readable v :=
  over_mono (fun _ ht => ht.1) v (loads_over h)

/-! ## A reader for concrete runs -/

/-- An interpreter that knows ASCII only and writes a float as its bit pattern. -/
def bitsInterp : Interp := { asciiInterp with floatStr := fun x => natStr x.toNat ++ str ".0" }

theorem takeWhile_natStr (n : Nat) (rest : Str) (h : rest.takeWhile Interp.asciiDigit = []) :
    (natStr n ++ rest).takeWhile Interp.asciiDigit = natStr n := by
  rw [List.takeWhile_append_of_pos fun c hc => natStr_digits hc, h, List.append_nil]

theorem dropWhile_natStr (n : Nat) (rest : Str) :
    (natStr n ++ rest).dropWhile Interp.asciiDigit = rest.dropWhile Interp.asciiDigit := by
  rw [List.dropWhile_append_of_pos fun c hc => natStr_digits hc]

theorem unsigned_natStr (n : Nat) (rest : Str) : unsigned (natStr n ++ rest) = natStr n ++ rest := by
  cases htext : natStr n with
  | nil => exact absurd htext (natStr_ne_nil n)
  | cons c s =>
    have hc : Interp.asciiDigit c = true := natStr_digits (htext ▸ List.mem_cons_self)
    unfold unsigned
    rw [if_neg]
    intro hhead
    cases hhead
    exact absurd hc (by decide)

/-- It reads the bit pattern back. -/
def bitsReader : FloatReader bitsInterp where
  parse s :=
    let x := BitVec.ofNat 64 (natOf (s.takeWhile Interp.asciiDigit))
    if isNaN x then 0 else x
  parse_number s _ := by
    dsimp only
    split
    · decide
    · next h => simpa using h
  text_number x _ := by
    show isFloatText (natStr x.toNat ++ str ".0") = true
    unfold isFloatText
    rw [unsigned_natStr, takeWhile_natStr _ _ rfl, dropWhile_natStr, isNatText_natStr]
    decide
  parse_text x hx := by
    show (let y := BitVec.ofNat 64 (natOf ((natStr x.toNat ++ str ".0").takeWhile Interp.asciiDigit))
      if isNaN y then 0 else y) = x
    have hnan : isNaN x = false := by
      simp only [isFinite, bne_iff_ne] at hx
      simp only [isNaN, Bool.and_eq_false_iff, beq_eq_false_iff_ne]
      exact .inl hx
    rw [takeWhile_natStr _ _ rfl, natOf_natStr, BitVec.ofNat_toNat, BitVec.setWidth_eq]
    dsimp only
    rw [hnan]
    rfl

end Py
