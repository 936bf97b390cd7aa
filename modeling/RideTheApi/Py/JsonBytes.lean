import RideTheApi.Py.Codec
import RideTheApi.Py.JsonRoundTrip

/-!
# `Py.JsonBytes` — `json.loads` of a `bytes`

The encoding is told from where the zeros stand among the first bytes, and surrogates are let through. A text
that decodes strictly and is a document is read the same from its bytes (`loadsBytes_of_text`): a document
holds no NUL, so nothing but UTF-8 is detected.
-/

namespace Py

open JsonGrammar

/-- What `json.loads` of a `bytes` returns or raises. -/
inductive Loaded where
  | value (v : Json)
  | unicodeDecodeError
  | jsonDecodeError
  /-- An integer of too many digits. -/
  | valueError
deriving Repr, DecidableEq

/-- The encodings of a body that begins with whitespace or a bracket: it has no byte order mark, and its
    first byte is not zero. -/
inductive Encoding where
  | utf8
  | utf16le
  | utf32le
deriving Repr, DecidableEq

/-- `json.detect_encoding`, for such a body. -/
def detectEncoding : Bytes → Encoding
  | _ :: b :: c :: d :: _ => if b = 0 then if c = 0 ∧ d = 0 then .utf32le else .utf16le else .utf8
  | [_, b]                => if b = 0 then .utf16le else .utf8
  | _                     => .utf8

/-- `bs.decode(encoding, "surrogatepass")`. -/
def decodePass : Encoding → Bytes → Option Str
  | .utf8, bs    => decodeUtf8Pass bs
  | .utf16le, bs => decodeUtf16Pass bs
  | .utf32le, bs => decodeUtf32Pass bs

/-- A fraction or an exponent that makes a number a float. -/
def floatFollows : Str → Bool
  | c :: d :: s =>
    if c = cp '.' then Interp.asciiDigit d
    else (c = cp 'e' || c = cp 'E') &&
      (if d = cp '-' ∨ d = cp '+' then (s.head?.map Interp.asciiDigit).getD false else Interp.asciiDigit d)
  | _           => false

/-- A text that begins with an integer `int` refuses. -/
def overlong (s : Str) : Bool :=
  let digits := (unsigned s).takeWhile Interp.asciiDigit
  maxStrDigits < digits.length && digits.head? != some (cp '0') &&
    !floatFollows ((unsigned s).dropWhile Interp.asciiDigit)

section
variable {I : Interp} (F : FloatReader I)

/-- A text after which the reader looks for a value. -/
def valueDue (s : Str) : Bool :=
  match lexRun F ([], .between) s with
  | some (toks, .between) => ((run (.due []) toks).bind fun st => step st (.atom .null)).isSome
  | _                     => false

/-- The reader comes to an integer of too many digits before anything else is wrong. -/
def meetsOverlong (s : Str) : Bool :=
  (List.range s.length).any fun n => valueDue F (s.take n) && overlong (s.drop n)

/-- `json.loads` of a `bytes`. -/
def loadsBytes (bs : Bytes) : Loaded :=
  match decodePass (detectEncoding bs) bs with
  | none   => .unicodeDecodeError
  | some s =>
    match loads F s with
    | some v => .value v
    | none   => if meetsOverlong F s then .valueError else .jsonDecodeError

end

/-- How `json.loads` decodes any `bytes`: by its byte order mark, or by where its zeros stand. -/
def decodeJson (bs : Bytes) : Option Str :=
  let swap16 := fun bs : Bytes => (bs.toChunks 2).flatMap List.reverse
  let swap32 := fun bs : Bytes => (bs.toChunks 4).flatMap List.reverse
  match bs with
  | 0x00 :: 0x00 :: 0xfe :: 0xff :: rest => decodeUtf32Pass (swap32 rest)
  | 0xff :: 0xfe :: 0x00 :: 0x00 :: rest => decodeUtf32Pass rest
  | 0xfe :: 0xff :: rest                 => decodeUtf16Pass (swap16 rest)
  | 0xff :: 0xfe :: rest                 => decodeUtf16Pass rest
  | 0xef :: 0xbb :: 0xbf :: rest         => decodeUtf8Pass rest
  | 0x00 :: b :: _ :: _ :: _             => if b = 0 then decodeUtf32Pass (swap32 bs) else decodeUtf16Pass (swap16 bs)
  | [0x00, _]                            => decodeUtf16Pass (swap16 bs)
  | _                                    => decodePass (detectEncoding bs) bs

/-- `json.loads` of any `bytes`; `none` is a `ValueError` of some kind. -/
def loadsAny {I : Interp} (F : FloatReader I) (bs : Bytes) : Option Json := (decodeJson bs).bind (loads F)

/-- The whitespace that is skipped before the first character of a body is looked at. -/
def isSpaceByte (b : Byte) : Bool := b = 0x20 || b = 0x09 || b = 0x0d || b = 0x0a

/-- The first byte that is no whitespace opens an object or an array. -/
def opensContainer (bs : Bytes) : Bool :=
  match bs.dropWhile isSpaceByte with
  | b :: _ => b = 0x7b || b = 0x5b
  | []     => false

/-! ## Reading a document from its bytes -/

variable {I : Interp} {F : FloatReader I}

/-- No state reads a NUL. -/
theorem lexStep_nul (st : LexState) : lexStep F st 0 = none := by
  have henter : ∀ toks, enter toks 0 = none := fun _ => rfl
  obtain ⟨toks, mode⟩ := st
  cases mode with
  | between => rfl
  | scalar text =>
    show (scalarToken F text).bind _ = none
    cases scalarToken F text with
    | none => rfl
    | some t => exact henter _
  | string | escape | hex => rfl

/-- A body that opens a container begins in ASCII. -/
theorem head_of_opensContainer {b : Byte} {bs : Bytes} (h : opensContainer (b :: bs) = true) : b.val < 0x80 := by
  unfold opensContainer at h
  rw [List.dropWhile_cons] at h
  by_cases hspace : isSpaceByte b = true
  · simp only [isSpaceByte, Bool.or_eq_true, decide_eq_true_eq] at hspace
    rcases hspace with ((rfl | rfl) | rfl) | rfl <;> decide
  · rw [if_neg hspace] at h
    simp only [Bool.or_eq_true, decide_eq_true_eq] at h
    rcases h with rfl | rfl <;> decide

/-- The bytes of a document are detected as UTF-8. -/
theorem detectEncoding_of_text {bs : Bytes} {s : Str} {v : Json} (hopens : opensContainer bs = true)
    (hdecode : decodeUtf8 bs = some s) (h : loads F s = some v) : detectEncoding bs = .utf8 := by
  have hsecond : ∀ a b rest, bs = a :: b :: rest → b ≠ 0 := by
    rintro a b rest rfl rfl
    have ha := head_of_opensContainer hopens
    have hrun : utf8Run false (0, []) (a :: 0 :: rest) =
        some (Fin.ofNat 0x110000 a.val) :: some 0 :: utf8Run false (0, []) rest := by
      show (utf8Start false a).1 ++ utf8Run false (utf8Start false a).2 (0 :: rest) = _
      unfold utf8Start
      rw [if_pos ha]
      rfl
    have hs : ∃ more, s = Fin.ofNat 0x110000 a.val :: 0 :: more := by
      unfold decodeUtf8 at hdecode
      rw [hrun] at hdecode
      obtain ⟨tail, htail, rfl⟩ := Option.map_eq_some_iff.mp hdecode
      obtain ⟨more, _, rfl⟩ := Option.map_eq_some_iff.mp htail
      exact ⟨more, rfl⟩
    obtain ⟨more, rfl⟩ := hs
    obtain ⟨toks, hlex, _⟩ := Option.bind_eq_some_iff.mp h
    obtain ⟨st, hrun, _⟩ := Option.bind_eq_some_iff.mp hlex
    rw [lexRun_cons] at hrun
    obtain ⟨st₁, _, hrun⟩ := Option.bind_eq_some_iff.mp hrun
    rw [lexRun_cons, lexStep_nul] at hrun
    cases hrun
  unfold detectEncoding
  split
  · next a b c d rest => rw [if_neg (hsecond a b _ rfl)]
  · next a b => rw [if_neg (hsecond a b _ rfl)]
  · rfl

/-- **A document that decodes strictly is read the same from its bytes.** -/
theorem loadsBytes_of_text {bs : Bytes} {s : Str} {v : Json} (hopens : opensContainer bs = true)
    (hdecode : decodeUtf8 bs = some s) (h : loads F s = some v) : loadsBytes F bs = .value v := by
  unfold loadsBytes
  rw [detectEncoding_of_text hopens hdecode h]
  show (match decodeUtf8Pass bs with | none => _ | some s => _) = _
  rw [decodeUtf8Pass_of_strict hdecode]
  dsimp only
  rw [h]

end Py
