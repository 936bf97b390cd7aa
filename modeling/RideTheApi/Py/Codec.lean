import RideTheApi.Py.JsonText

/-!
# `Py.Codec` — bytes and the codecs a request goes through

UTF-8 is read one byte at a time: the state is the value so far with the ranges of the bytes it still owes.
What does not decode comes out as `none`, one for each maximal part that no sequence continues, and the
error handler decides what becomes of it: `strict` refuses, `replace` puts U+FFFD, and `surrogatepass` lets
surrogates through and refuses the rest. On top stand percent-decoding and the parsing of a query string.

What `strict` reads, `surrogatepass` reads as the same text (`decodeUtf8Pass_of_strict`).
-/

namespace Py

/-- A byte. -/
abbrev Byte := Fin 256

instance (priority := 2000) Byte.neZero : NeZero 256 := ⟨by decide⟩
instance (priority := 2000) Byte.lawfulBEq : LawfulBEq Byte := inferInstance

/-- A Python `bytes`. -/
abbrev Bytes := List Byte

/-! ## UTF-8 -/

/-- The value so far, and the ranges of the bytes that must follow. -/
abbrev Utf8State := Nat × List (Nat × Nat)

/-- Any continuation byte. -/
def utf8Tail : Nat × Nat := (0x80, 0xbf)

/-- What a first byte beyond ASCII starts. With `surrogates`, U+D800 to U+DFFF are let through. -/
def utf8Lead (surrogates : Bool) (b : Nat) : Option Utf8State :=
  if 0xc2 ≤ b && b ≤ 0xdf then some (b - 0xc0, [utf8Tail])
  else if b = 0xe0 then some (0, [(0xa0, 0xbf), utf8Tail])
  else if b = 0xed then some (0xd, [(0x80, if surrogates then 0xbf else 0x9f), utf8Tail])
  else if 0xe1 ≤ b && b ≤ 0xef then some (b - 0xe0, [utf8Tail, utf8Tail])
  else if b = 0xf0 then some (0, [(0x90, 0xbf), utf8Tail, utf8Tail])
  else if 0xf1 ≤ b && b ≤ 0xf3 then some (b - 0xf0, [utf8Tail, utf8Tail, utf8Tail])
  else if b = 0xf4 then some (4, [(0x80, 0x8f), utf8Tail, utf8Tail])
  else none

/-- Read a byte between sequences. -/
def utf8Start (surrogates : Bool) (b : Byte) : List (Option CodePoint) × Utf8State :=
  if b.val < 0x80 then ([some (Fin.ofNat 0x110000 b.val)], (0, []))
  else
    match utf8Lead surrogates b.val with
    | some st => ([], st)
    | none    => ([none], (0, []))

/-- Read a byte. One that does not continue the sequence ends it and is read afresh. -/
def utf8Step (surrogates : Bool) : Utf8State → Byte → List (Option CodePoint) × Utf8State
  | (_, []), b                        => utf8Start surrogates b
  | (value, (low, high) :: owed), b =>
    if low ≤ b.val && b.val ≤ high then
      let value' := 0x40 * value + (b.val - 0x80)
      if owed = [] then ([some (Fin.ofNat 0x110000 value')], (0, [])) else ([], (value', owed))
    else
      let next := utf8Start surrogates b
      (none :: next.1, next.2)

/-- Read bytes from a state. -/
def utf8Run (surrogates : Bool) : Utf8State → Bytes → List (Option CodePoint)
  | st, []      => if st.2 = [] then [] else [none]
  | st, b :: bs => (utf8Step surrogates st b).1 ++ utf8Run surrogates (utf8Step surrogates st b).2 bs

/-- The code points, if every part decodes. -/
def allDecoded : List (Option CodePoint) → Option Str
  | []      => some []
  | c :: cs => c.bind fun c => (allDecoded cs).map (c :: ·)

/-- `bs.decode("utf-8")`: `none` is a `UnicodeDecodeError`. -/
def decodeUtf8 (bs : Bytes) : Option Str := allDecoded (utf8Run false (0, []) bs)

/-- `bs.decode("utf-8", "surrogatepass")`. -/
def decodeUtf8Pass (bs : Bytes) : Option Str := allDecoded (utf8Run true (0, []) bs)

/-- `bs.decode("utf-8", "replace")`. -/
def decodeUtf8Replace (bs : Bytes) : Str := (utf8Run false (0, []) bs).map fun c => c.getD 0xfffd

/-! ## UTF-16 and UTF-32 -/

/-- The code units of little-endian UTF-16. -/
def units16 : Bytes → Option (List Nat)
  | []           => some []
  | a :: b :: bs => (units16 bs).map fun ns => (a.val + 0x100 * b.val) :: ns
  | [_]          => none

/-- Code points of UTF-16 code units: a high surrogate joins the low one that follows it. -/
def joinSurrogates : List Nat → Str
  | []              => []
  | [n]             => [Fin.ofNat 0x110000 n]
  | high :: n :: ns =>
    if 0xd800 ≤ high && high ≤ 0xdbff && 0xdc00 ≤ n && n ≤ 0xdfff then
      Fin.ofNat 0x110000 (0x10000 + ((high - 0xd800) * 0x400 + (n - 0xdc00))) :: joinSurrogates ns
    else Fin.ofNat 0x110000 high :: joinSurrogates (n :: ns)

/-- `bs.decode("utf-16-le", "surrogatepass")`. -/
def decodeUtf16Pass (bs : Bytes) : Option Str := (units16 bs).map joinSurrogates

/-- `bs.decode("utf-32-le", "surrogatepass")`. -/
def decodeUtf32Pass : Bytes → Option Str
  | []                     => some []
  | a :: b :: c :: d :: bs =>
    let n := a.val + 0x100 * b.val + 0x10000 * c.val + 0x1000000 * d.val
    if n < 0x110000 then (decodeUtf32Pass bs).map (Fin.ofNat 0x110000 n :: ·) else none
  | _                      => none

/-! ## base64 -/

/-- The digits of base64. -/
def base64Digit (n : Nat) : CodePoint :=
  if n < 26 then Fin.ofNat 0x110000 (0x41 + n)
  else if n < 52 then Fin.ofNat 0x110000 (0x61 + (n - 26))
  else if n < 62 then Fin.ofNat 0x110000 (0x30 + (n - 52))
  else if n = 62 then cp '+' else cp '/'

/-- `base64.b64encode(bs).decode("ascii")`. -/
def b64encode : Bytes → Str
  | []                => []
  | [a]               => [base64Digit (a.val / 4), base64Digit (a.val % 4 * 16), cp '=', cp '=']
  | [a, b]            =>
    [base64Digit (a.val / 4), base64Digit (a.val % 4 * 16 + b.val / 16), base64Digit (b.val % 16 * 4), cp '=']
  | a :: b :: c :: bs =>
    base64Digit (a.val / 4) :: base64Digit (a.val % 4 * 16 + b.val / 16) ::
      base64Digit (b.val % 16 * 4 + c.val / 64) :: base64Digit (c.val % 64) :: b64encode bs

/-! ## Percent-encoding and query strings -/

/-- `%XX` as a byte. -/
def percentByte (c high low : CodePoint) : Option Byte :=
  if c = cp '%' then
    (hexValue high).bind fun h => (hexValue low).map fun l => Fin.ofNat 256 (16 * h + l)
  else none

/-- `unquote_to_bytes` of an ASCII text. -/
def unquoteToBytes : Str → Bytes
  | c :: high :: low :: s =>
    match percentByte c high low with
    | some b => b :: unquoteToBytes s
    | none   => Fin.ofNat 256 c.val :: unquoteToBytes (high :: low :: s)
  | s                     => s.map fun c => Fin.ofNat 256 c.val

/-- An ASCII code point. -/
def isAscii (c : CodePoint) : Bool := c.val < 0x80

/-- `urllib.parse.unquote`: each run of ASCII is decoded on its own. -/
def unquote (s : Str) : Str :=
  if s.contains (cp '%') then
    (s.splitBy fun a b => isAscii a == isAscii b).flatMap fun run =>
      if run.all isAscii then decodeUtf8Replace (unquoteToBytes run) else run
  else s

/-- What stands after the first `c`, without it: `s.partition(c)[2]`. -/
def Str.after (c : CodePoint) (s : Str) : Str := (s.dropWhile (· != c)).drop 1

/-- `parse_qsl(s, keep_blank_values=True)`. -/
def parseQsl (s : Str) : List (Str × Str) :=
  ((s.split (cp '&')).filter fun piece => !piece.isEmpty).map fun piece =>
    (unquote ((piece.before (cp '=')).replace (cp '+') (cp ' ')),
      unquote ((Str.after (cp '=') piece).replace (cp '+') (cp ' ')))

/-- `dict(parse_qsl(s, keep_blank_values=True))`. -/
def queryDict (s : Str) : Dict Str Str := Dict.ofList (parseQsl s)

/-! ## What `strict` reads -/

theorem allDecoded_append {xs ys : List (Option CodePoint)} {t : Str} :
    allDecoded (xs ++ ys) = some t ↔ ∃ a b, allDecoded xs = some a ∧ allDecoded ys = some b ∧ t = a ++ b := by
  induction xs generalizing t with
  | nil =>
    constructor
    · intro h
      exact ⟨[], t, rfl, h, rfl⟩
    · rintro ⟨a, b, ha, hb, rfl⟩
      cases ha
      exact hb
  | cons x xs ih =>
    cases x with
    | none =>
      constructor
      · intro h
        cases h
      · rintro ⟨a, b, ha, _⟩
        cases ha
    | some c =>
      show (allDecoded (xs ++ ys)).map (c :: ·) = some t ↔ ∃ a b, (allDecoded xs).map (c :: ·) = some a ∧ _
      rw [Option.map_eq_some_iff]
      constructor
      · rintro ⟨t', ht', rfl⟩
        obtain ⟨a, b, ha, hb, rfl⟩ := ih.mp ht'
        exact ⟨c :: a, b, Option.map_eq_some_iff.mpr ⟨a, ha, rfl⟩, hb, rfl⟩
      · rintro ⟨a, b, ha, hb, rfl⟩
        obtain ⟨a', ha', rfl⟩ := Option.map_eq_some_iff.mp ha
        exact ⟨a' ++ b, ih.mpr ⟨a', b, ha', hb, rfl⟩, rfl⟩

/-- The second state owes at least what the first one accepts. -/
def Utf8State.Within (st st' : Utf8State) : Prop :=
  st.1 = st'.1 ∧ List.Forall₂ (fun r r' => r'.1 ≤ r.1 ∧ r.2 ≤ r'.2) st.2 st'.2

theorem Utf8State.Within.refl (st : Utf8State) : st.Within st :=
  ⟨rfl, List.forall₂_same.mpr fun _ _ => ⟨Nat.le_refl _, Nat.le_refl _⟩⟩

/-- What starts a sequence for `strict` starts it for `surrogatepass`. -/
theorem utf8Lead_within {b : Nat} {st : Utf8State} (h : utf8Lead false b = some st) :
    ∃ st', utf8Lead true b = some st' ∧ st.Within st' := by
  by_cases hb : b = 0xed
  · subst hb
    cases h
    refine ⟨_, rfl, rfl, .cons ⟨Nat.le_refl _, ?_⟩ (.cons ⟨Nat.le_refl _, Nat.le_refl _⟩ .nil)⟩
    show 0x9f ≤ 0xbf
    decide
  · refine ⟨st, ?_, .refl st⟩
    rw [← h]
    unfold utf8Lead
    rw [if_neg hb, if_neg hb]

/-- Where `strict` reads on, `surrogatepass` reads the same. -/
theorem utf8Start_within {b : Byte} {t : Str} (h : allDecoded (utf8Start false b).1 = some t) :
    (utf8Start true b).1 = (utf8Start false b).1 ∧ (utf8Start false b).2.Within (utf8Start true b).2 := by
  unfold utf8Start at h ⊢
  split
  · exact ⟨rfl, .refl _⟩
  · next hb =>
    rw [if_neg hb] at h
    cases hlead : utf8Lead false b.val with
    | none =>
      rw [hlead] at h
      cases h
    | some st =>
      obtain ⟨st', hlead', hwithin⟩ := utf8Lead_within hlead
      rw [hlead']
      exact ⟨rfl, hwithin⟩

theorem utf8Step_within {st st' : Utf8State} {b : Byte} {t : Str} (hst : st.Within st')
    (h : allDecoded (utf8Step false st b).1 = some t) :
    (utf8Step true st' b).1 = (utf8Step false st b).1 ∧ (utf8Step false st b).2.Within (utf8Step true st' b).2 := by
  obtain ⟨value, owed⟩ := st
  obtain ⟨value', owed'⟩ := st'
  obtain ⟨hvalue, howed⟩ := hst
  cases hvalue
  cases howed with
  | nil => exact utf8Start_within h
  | @cons r r' owed owed' hrange howed =>
    obtain ⟨low, high⟩ := r
    obtain ⟨low', high'⟩ := r'
    by_cases hin : low ≤ b.val ∧ b.val ≤ high
    · have hin' : low' ≤ b.val ∧ b.val ≤ high' := ⟨le_trans hrange.1 hin.1, le_trans hin.2 hrange.2⟩
      have hstep : ∀ surrogates low high owed, low ≤ b.val ∧ b.val ≤ high →
          utf8Step surrogates (value, (low, high) :: owed) b =
            if owed = [] then ([some (Fin.ofNat 0x110000 (0x40 * value + (b.val - 0x80)))], (0, []))
            else ([], (0x40 * value + (b.val - 0x80), owed)) := by
        intro surrogates low high owed hin
        exact if_pos (by simpa using hin)
      rw [hstep _ _ _ _ hin, hstep _ _ _ _ hin']
      cases howed with
      | nil => exact ⟨rfl, .refl _⟩
      | cons hrange' howed' => exact ⟨rfl, rfl, .cons hrange' howed'⟩
    · have hstep : utf8Step false (value, (low, high) :: owed) b =
          (none :: (utf8Start false b).1, (utf8Start false b).2) := if_neg (by simpa using hin)
      rw [hstep] at h
      cases h

theorem utf8Run_within {bs : Bytes} {st st' : Utf8State} {t : Str} (hst : st.Within st')
    (h : allDecoded (utf8Run false st bs) = some t) : utf8Run true st' bs = utf8Run false st bs := by
  induction bs generalizing st st' t with
  | nil =>
    obtain ⟨value, owed⟩ := st
    obtain ⟨value', owed'⟩ := st'
    cases hst.2 with
    | nil => rfl
    | cons => cases h
  | cons b bs ih =>
    obtain ⟨a, r, ha, hr, rfl⟩ := allDecoded_append.mp h
    obtain ⟨hout, hnext⟩ := utf8Step_within hst ha
    show (utf8Step true st' b).1 ++ _ = (utf8Step false st b).1 ++ _
    rw [hout, ih hnext hr]

/-- **What decodes strictly decodes to the same text with surrogates let through.** -/
theorem decodeUtf8Pass_of_strict {bs : Bytes} {t : Str} (h : decodeUtf8 bs = some t) :
    decodeUtf8Pass bs = some t := by
  have hrun := utf8Run_within (.refl (0, [])) h
  unfold decodeUtf8Pass
  rw [hrun]
  exact h

end Py
