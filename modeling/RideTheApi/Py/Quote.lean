import RideTheApi.Py.Codec
import RideTheApi.Py.Format

/-!
# `Py.Quote` — text as bytes, and percent-encoding

The encoders the readers of `Py.Codec` undo, and `urllib.parse.quote` on top of them.
-/

namespace Py

/-- `bs.decode("latin-1")`. -/
def decodeLatin1 (bs : Bytes) : Str := bs.map fun b => Fin.ofNat 0x110000 b.val

/-- `s.encode("latin-1")`: `none` is a `UnicodeEncodeError`. -/
def encodeLatin1 (s : Str) : Option Bytes := s.mapM fun c => if c.val < 0x100 then some (Fin.ofNat 256 c.val) else none

/-- `s.encode("latin-1", errors="replace")`. -/
def encodeLatin1Replace (s : Str) : Bytes := s.map fun c => if c.val < 0x100 then Fin.ofNat 256 c.val else 0x3f

theorem encodeLatin1_of_lt {s : Str} (h : ∀ c ∈ s, c.val < 0x100) : encodeLatin1 s = some (encodeLatin1Replace s) := by
  induction s with
  | nil => rfl
  | cons c s ih =>
    have hc := h c List.mem_cons_self
    have hs := ih fun c' hc' => h c' (List.mem_cons_of_mem _ hc')
    unfold encodeLatin1 encodeLatin1Replace at hs ⊢
    rw [List.mapM_cons, hs, if_pos hc, List.map_cons, if_pos hc]
    rfl

theorem encodeLatin1_eq_none {s : Str} {c : CodePoint} (hmem : c ∈ s) (hc : 0x100 ≤ c.val) : encodeLatin1 s = none := by
  induction s with
  | nil => cases hmem
  | cons c' s ih =>
    unfold encodeLatin1 at ih ⊢
    rw [List.mapM_cons]
    rcases List.mem_cons.mp hmem with rfl | hmem
    · rw [if_neg (by omega)]
      rfl
    · rw [ih hmem]
      by_cases hc' : c'.val < 0x100
      · rw [if_pos hc']
        rfl
      · rw [if_neg hc']
        rfl

theorem decodeLatin1_lt {bs : Bytes} {c : CodePoint} (h : c ∈ decodeLatin1 bs) : c.val < 0x100 := by
  obtain ⟨b, -, rfl⟩ := List.mem_map.mp h
  have hb := b.isLt
  show b.val % 0x110000 < 0x100
  omega

theorem encodeLatin1Replace_decodeLatin1 (bs : Bytes) : encodeLatin1Replace (decodeLatin1 bs) = bs := by
  unfold encodeLatin1Replace decodeLatin1
  rw [List.map_map]
  conv_rhs => rw [← List.map_id bs]
  refine List.map_congr_left fun b _ => ?_
  have hb := b.isLt
  have hval : (Fin.ofNat 0x110000 b.val).val = b.val := Nat.mod_eq_of_lt (by omega)
  show (if (Fin.ofNat 0x110000 b.val).val < 0x100 then Fin.ofNat 256 (Fin.ofNat 0x110000 b.val).val else 0x3f) = b
  rw [hval, if_pos hb]
  exact Fin.ext (Nat.mod_eq_of_lt hb)

/-- The bytes of one code point in UTF-8; a surrogate has none. -/
def encodeUtf8Char (c : CodePoint) : Option Bytes :=
  let byte : Nat → Byte := Fin.ofNat 256
  if c.val < 0x80 then some [byte c.val]
  else if c.val < 0x800 then some [byte (0xc0 + c.val / 0x40), byte (0x80 + c.val % 0x40)]
  else if isHigh c.val || isLow c.val then none
  else if c.val < 0x10000 then
    some [byte (0xe0 + c.val / 0x1000), byte (0x80 + c.val / 0x40 % 0x40), byte (0x80 + c.val % 0x40)]
  else
    some [byte (0xf0 + c.val / 0x40000), byte (0x80 + c.val / 0x1000 % 0x40), byte (0x80 + c.val / 0x40 % 0x40),
      byte (0x80 + c.val % 0x40)]

/-- `s.encode("utf-8")`: `none` is a `UnicodeEncodeError`. -/
def encodeUtf8 (s : Str) : Option Bytes := (s.mapM encodeUtf8Char).map List.flatten

theorem ofNat_byte_inj {n m : Nat} : (Fin.ofNat 256 n : Byte) = Fin.ofNat 256 m ↔ n % 256 = m % 256 := by
  rw [Fin.ext_iff]
  rfl

/-- The bytes of a code point tell it apart from any other: the first byte says how many there are, and together they
    hold all its bits. -/
theorem encodeUtf8Char_append {c c' : CodePoint} {bs bs' r r' : Bytes} (h : encodeUtf8Char c = some bs)
    (h' : encodeUtf8Char c' = some bs') (heq : bs ++ r = bs' ++ r') : c = c' ∧ r = r' := by
  have hc := c.isLt
  have hc' := c'.isLt
  unfold encodeUtf8Char at h h'
  simp only at h h'
  split_ifs at h h' <;> simp only [Option.some.injEq] at h h' <;> subst h <;> subst h' <;>
    simp only [List.cons_append, List.nil_append, List.cons.injEq, ofNat_byte_inj] at heq <;>
    first
      | omega
      | exact ⟨Fin.ext (by omega), heq.2⟩
      | exact ⟨Fin.ext (by omega), heq.2.2⟩
      | exact ⟨Fin.ext (by omega), heq.2.2.2⟩
      | exact ⟨Fin.ext (by omega), heq.2.2.2.2⟩

theorem encodeUtf8_cons {c : CodePoint} {s : Str} {bs : Bytes} (h : encodeUtf8 (c :: s) = some bs) :
    ∃ first rest, encodeUtf8Char c = some first ∧ encodeUtf8 s = some rest ∧ bs = first ++ rest := by
  unfold encodeUtf8 at h ⊢
  rw [List.mapM_cons] at h
  cases hc : encodeUtf8Char c with
  | none => simp [hc] at h
  | some first =>
    cases hs : s.mapM encodeUtf8Char with
    | none => simp [hc, hs] at h
    | some rest =>
      simp only [hc, hs, Option.bind_eq_bind, Option.bind_some, Option.pure_def, Option.map_some,
        Option.some.injEq] at h
      exact ⟨first, rest.flatten, rfl, rfl, h.symm⟩

theorem length_encodeUtf8Char {c : CodePoint} {bs : Bytes} (h : encodeUtf8Char c = some bs) :
    0 < bs.length ∧ (0x80 ≤ c.val → 1 < bs.length) := by
  unfold encodeUtf8Char at h
  simp only at h
  split_ifs at h with h1 h2 h3 h4 <;> simp only [Option.some.injEq] at h <;> subst h
  · exact ⟨Nat.one_pos, fun hc => absurd h1 (Nat.not_lt.mpr hc)⟩
  · exact ⟨Nat.two_pos, fun _ => Nat.one_lt_two⟩
  · exact ⟨Nat.succ_pos _, fun _ => Nat.succ_lt_succ (Nat.succ_pos _)⟩
  · exact ⟨Nat.succ_pos _, fun _ => Nat.succ_lt_succ (Nat.succ_pos _)⟩

/-- Two texts have the same bytes in UTF-8 only if they are one. -/
theorem encodeUtf8_inj {s t : Str} {bs : Bytes} (hs : encodeUtf8 s = some bs) (ht : encodeUtf8 t = some bs) : s = t := by
  induction s generalizing t bs with
  | nil =>
    obtain rfl : bs = [] := by simpa [encodeUtf8, eq_comm] using hs
    cases t with
    | nil => rfl
    | cons c t =>
      obtain ⟨first, rest, hfirst, -, hnil⟩ := encodeUtf8_cons ht
      have hpos := (length_encodeUtf8Char hfirst).1
      rw [(List.append_eq_nil_iff.mp hnil.symm).1] at hpos
      exact absurd hpos (Nat.lt_irrefl 0)
  | cons c s ih =>
    obtain ⟨first, rest, hfirst, hrest, rfl⟩ := encodeUtf8_cons hs
    cases t with
    | nil =>
      have hnil : first ++ rest = [] := by simpa [encodeUtf8, eq_comm] using ht
      have hpos := (length_encodeUtf8Char hfirst).1
      rw [(List.append_eq_nil_iff.mp hnil).1] at hpos
      exact absurd hpos (Nat.lt_irrefl 0)
    | cons c' t =>
      obtain ⟨first', rest', hfirst', hrest', heq⟩ := encodeUtf8_cons ht
      obtain ⟨rfl, rfl⟩ := encodeUtf8Char_append hfirst hfirst' heq
      rw [ih hrest hrest']

/-- A text is no longer than its bytes, and shorter if it goes beyond ASCII. -/
theorem length_encodeUtf8 {s : Str} {bs : Bytes} (h : encodeUtf8 s = some bs) :
    s.length ≤ bs.length ∧ ((∃ c ∈ s, 0x80 ≤ c.val) → s.length < bs.length) := by
  induction s generalizing bs with
  | nil =>
    refine ⟨Nat.zero_le _, ?_⟩
    rintro ⟨c, hc, -⟩
    cases hc
  | cons c s ih =>
    obtain ⟨first, rest, hfirst, hrest, rfl⟩ := encodeUtf8_cons h
    obtain ⟨hpos, hlong⟩ := length_encodeUtf8Char hfirst
    obtain ⟨hle, hlt⟩ := ih hrest
    rw [List.length_append, List.length_cons]
    refine ⟨by omega, ?_⟩
    rintro ⟨c', hmem, hc'⟩
    rcases List.mem_cons.mp hmem with rfl | hmem
    · have := hlong hc'
      omega
    · have := hlt ⟨c', hmem, hc'⟩
      omega

/-- The upper-case hexadecimal digit. -/
def upperHex (d : Nat) : CodePoint := Fin.ofNat 0x110000 (if d < 10 then 0x30 + d else 0x37 + d)

/-- `urllib.parse`'s `_ALWAYS_SAFE`. -/
def alwaysSafe (c : CodePoint) : Bool :=
  Interp.asciiUpper c || Interp.asciiLower c || Interp.asciiDigit c || (str "_.-~").contains c

/-- One byte of `quote`: kept if it is a safe character, `%XX` otherwise. -/
def quoteByte (safe : Str) (b : Byte) : Str :=
  let c : CodePoint := Fin.ofNat 0x110000 b.val
  if alwaysSafe c || (c.val < 0x80 && safe.contains c) then [c]
  else [cp '%', upperHex (b.val / 16), upperHex (b.val % 16)]

/-- `urllib.parse.quote(s, safe=safe)`. -/
def quote (s safe : Str) : Option Str := (encodeUtf8 s).map fun bs => bs.flatMap (quoteByte safe)

/-- `urllib.parse.quote_plus(s)`. -/
def quotePlus (s : Str) : Option Str := (quote s " ").map (Str.replace (cp ' ') (cp '+'))

/-- `urlencode(params, doseq=True)` of text values. -/
def urlencode (params : Dict Str Str) : Option Str :=
  (params.mapM fun (kv : Str × Str) => do
    let k ← quotePlus kv.1
    let v ← quotePlus kv.2
    pure (k ++ str "=" ++ v)).map (joinWith "&")

end Py
