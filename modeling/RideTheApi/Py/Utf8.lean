import RideTheApi.Py.Quote

/-!
# `Py.Utf8` — what was encoded is decoded

`encode` writes a code point as the bytes that `decode` reads it from, whatever follows them (`utf8Run_char`). So a
text that has bytes is decoded from them (`decodeUtf8_encodeUtf8`), and a text in ASCII has its own characters as
bytes (`encodeUtf8_ascii`). What is decoded holds no surrogate (`decodeUtf8_notSurrogate`).
-/

namespace Py

variable {surrogates : Bool} {b : Byte} {bs : Bytes} {owed : List (Nat × Nat)}

/-- A first byte is taken. -/
theorem utf8Run_lead {st : Utf8State} (hb : 0x80 ≤ b.val) (h : utf8Lead surrogates b.val = some st) :
    utf8Run surrogates (0, []) (b :: bs) = utf8Run surrogates st bs := by
  show (utf8Start surrogates b).1 ++ utf8Run surrogates (utf8Start surrogates b).2 bs = _
  unfold utf8Start
  rw [if_neg (by omega), h]
  rfl

/-- A byte that continues a sequence, which then owes more. -/
theorem utf8Run_more {value low high : Nat} (hlow : low ≤ b.val) (hhigh : b.val ≤ high) (howed : owed ≠ []) :
    utf8Run surrogates (value, (low, high) :: owed) (b :: bs) =
      utf8Run surrogates (0x40 * value + (b.val - 0x80), owed) bs := by
  rw [utf8Run, utf8Step]
  simp [hlow, hhigh, howed]

/-- A byte that ends a sequence. -/
theorem utf8Run_last {value low high : Nat} (hlow : low ≤ b.val) (hhigh : b.val ≤ high) :
    utf8Run surrogates (value, [(low, high)]) (b :: bs) =
      some (Fin.ofNat 0x110000 (0x40 * value + (b.val - 0x80))) :: utf8Run surrogates (0, []) bs := by
  rw [utf8Run, utf8Step, if_pos (by simp [hlow, hhigh]), if_pos rfl]
  rfl

theorem val_byte {n : Nat} (h : n < 256) : (Fin.ofNat 256 n : Byte).val = n := Nat.mod_eq_of_lt h

theorem ofNat_val (c : CodePoint) {n : Nat} (h : n = c.val) : Fin.ofNat 0x110000 n = c :=
  Fin.ext (by rw [h]; exact Nat.mod_eq_of_lt c.isLt)

/-- Two bytes. -/
theorem utf8Run_two {x y : Nat} (hx : 0xc2 ≤ x) (hx' : x ≤ 0xdf) (hy : 0x80 ≤ y) (hy' : y ≤ 0xbf) :
    utf8Run surrogates (0, []) (Fin.ofNat 256 x :: Fin.ofNat 256 y :: bs) =
      some (Fin.ofNat 0x110000 (0x40 * (x - 0xc0) + (y - 0x80))) :: utf8Run surrogates (0, []) bs := by
  have hlead : utf8Lead surrogates x = some (x - 0xc0, [utf8Tail]) := by simp [utf8Lead, hx, hx']
  have hvx := val_byte (show x < 256 by omega)
  have hvy := val_byte (show y < 256 by omega)
  rw [utf8Run_lead (by omega) (by rw [hvx]; exact hlead), utf8Tail, utf8Run_last (by omega) (by omega), hvy]

/-- Three bytes, where the second one is in the range that the first one asks for. -/
theorem utf8Run_three {x y z value low high : Nat} (hx : 0xe0 ≤ x) (hx' : x < 256)
    (hlead : utf8Lead surrogates x = some (value, [(low, high), utf8Tail])) (hlow : low ≤ y) (hhigh : y ≤ high)
    (hy : y < 256) (hz : 0x80 ≤ z) (hz' : z ≤ 0xbf) :
    utf8Run surrogates (0, []) (Fin.ofNat 256 x :: Fin.ofNat 256 y :: Fin.ofNat 256 z :: bs) =
      some (Fin.ofNat 0x110000 (0x40 * (0x40 * value + (y - 0x80)) + (z - 0x80))) ::
        utf8Run surrogates (0, []) bs := by
  have hvx := val_byte hx'
  have hvy := val_byte hy
  have hvz := val_byte (show z < 256 by omega)
  rw [utf8Run_lead (by omega) (by rw [hvx]; exact hlead), utf8Run_more (by omega) (by omega) (by simp), utf8Tail,
    utf8Run_last (by omega) (by omega), hvy, hvz]

/-- Four bytes. -/
theorem utf8Run_four {x y z w value low high : Nat} (hx : 0xf0 ≤ x) (hx' : x < 256)
    (hlead : utf8Lead surrogates x = some (value, [(low, high), utf8Tail, utf8Tail])) (hlow : low ≤ y)
    (hhigh : y ≤ high) (hy : y < 256) (hz : 0x80 ≤ z) (hz' : z ≤ 0xbf) (hw : 0x80 ≤ w) (hw' : w ≤ 0xbf) :
    utf8Run surrogates (0, []) (Fin.ofNat 256 x :: Fin.ofNat 256 y :: Fin.ofNat 256 z :: Fin.ofNat 256 w :: bs) =
      some (Fin.ofNat 0x110000 (0x40 * (0x40 * (0x40 * value + (y - 0x80)) + (z - 0x80)) + (w - 0x80))) ::
        utf8Run surrogates (0, []) bs := by
  have hvx := val_byte hx'
  have hvy := val_byte hy
  have hvz := val_byte (show z < 256 by omega)
  have hvw := val_byte (show w < 256 by omega)
  rw [utf8Run_lead (by omega) (by rw [hvx]; exact hlead), utf8Run_more (by omega) (by omega) (by simp), utf8Tail,
    utf8Run_more (by omega) (by omega) (by simp), utf8Run_last (by omega) (by omega), hvy, hvz, hvw]

/-- The range of the second byte after a first byte of three. -/
theorem utf8Lead_three {x : Nat} (hx : 0xe0 ≤ x) (hx' : x ≤ 0xef) :
    utf8Lead false x = some (x - 0xe0,
      [(if x = 0xe0 then 0xa0 else 0x80, if x = 0xed then 0x9f else 0xbf), utf8Tail]) := by
  unfold utf8Lead
  rw [if_neg (by simp; omega)]
  split
  · next h => simp [h]
  split
  · next h => simp [h]
  rw [if_pos (by simp; omega)]
  rfl

/-- The range of the second byte after a first byte of four. -/
theorem utf8Lead_four {x : Nat} (hx : 0xf0 ≤ x) (hx' : x ≤ 0xf4) :
    utf8Lead surrogates x = some (x - 0xf0,
      [(if x = 0xf0 then 0x90 else 0x80, if x = 0xf4 then 0x8f else 0xbf), utf8Tail, utf8Tail]) := by
  unfold utf8Lead
  rw [if_neg (by simp; omega), if_neg (by omega), if_neg (by omega), if_neg (by simp; omega)]
  split
  · next h => simp [h]
  split
  · next h =>
    have hne : x ≠ 0xf4 := by
      rintro rfl
      exact absurd h (by decide)
    simp [hne, utf8Tail]
  · next h =>
    have heq : x = 0xf4 := by
      simp only [Bool.and_eq_true, decide_eq_true_eq] at h
      omega
    simp [heq]

/-- **One code point is read from its own bytes.** -/
theorem utf8Run_char {c : CodePoint} {first : Bytes} (h : encodeUtf8Char c = some first) (bs : Bytes) :
    utf8Run false (0, []) (first ++ bs) = some c :: utf8Run false (0, []) bs := by
  have hlt := c.isLt
  unfold encodeUtf8Char at h
  simp only at h
  split_ifs at h with h1 h2 h3 h4 <;> simp only [Option.some.injEq] at h <;> subst h
  · have hv := val_byte (show c.val < 256 by omega)
    show (utf8Start false _).1 ++ utf8Run false (utf8Start false _).2 bs = _
    unfold utf8Start
    rw [if_pos (by omega), hv, ofNat_val c rfl]
    rfl
  · rw [List.cons_append, List.cons_append, List.nil_append,
      utf8Run_two (by omega) (by omega) (by omega) (by omega), ofNat_val c (by omega)]
  · have hsurrogate : c.val < 0xd800 ∨ 0xdfff < c.val := by
      simp only [isHigh, isLow, Bool.or_eq_true, Bool.and_eq_true, decide_eq_true_eq] at h3
      omega
    rw [List.cons_append, List.cons_append, List.cons_append, List.nil_append,
      utf8Run_three (by omega) (by omega) (utf8Lead_three (by omega) (by omega)) (by split <;> omega)
        (by split <;> omega) (by omega) (by omega) (by omega), ofNat_val c (by omega)]
  · rw [List.cons_append, List.cons_append, List.cons_append, List.cons_append, List.nil_append,
      utf8Run_four (by omega) (by omega) (utf8Lead_four (by omega) (by omega)) (by split <;> omega)
        (by split <;> omega) (by omega) (by omega) (by omega) (by omega) (by omega), ofNat_val c (by omega)]

/-- **A text is decoded from its own bytes.** -/
theorem decodeUtf8_encodeUtf8 {s : Str} {bs : Bytes} (h : encodeUtf8 s = some bs) : decodeUtf8 bs = some s := by
  induction s generalizing bs with
  | nil =>
    cases h
    rfl
  | cons c s ih =>
    obtain ⟨first, rest, hfirst, hrest, rfl⟩ := encodeUtf8_cons h
    have hdecoded : allDecoded (utf8Run false (0, []) rest) = some s := ih hrest
    unfold decodeUtf8
    rw [utf8Run_char hfirst, allDecoded, hdecoded]
    rfl

/-- **A text in ASCII has its own characters as bytes.** -/
theorem encodeUtf8_ascii {s : Str} (h : ∀ c ∈ s, c.val < 0x80) :
    encodeUtf8 s = some (s.map fun c => Fin.ofNat 256 c.val) := by
  have hmap : s.mapM encodeUtf8Char = some (s.map fun c => [Fin.ofNat 256 c.val]) := by
    induction s with
    | nil => rfl
    | cons c s ih =>
      have hc : encodeUtf8Char c = some [Fin.ofNat 256 c.val] := by
        unfold encodeUtf8Char
        rw [if_pos (h c List.mem_cons_self)]
      rw [List.mapM_cons, hc, ih fun d hd => h d (List.mem_cons_of_mem _ hd)]
      rfl
  unfold encodeUtf8
  rw [hmap, Option.map_some, ← List.flatMap_def, ← List.map_eq_flatMap]

/-! ## No surrogate is decoded -/

/-- Neither half of a surrogate pair. -/
def NotSurrogate (n : Nat) : Prop := n < 0xd800 ∨ 0xdfff < n

/-- Whatever may follow, the sequence ends in no surrogate. -/
def Utf8State.Scalar : Nat → List (Nat × Nat) → Prop
  | value, []                  => NotSurrogate (value % 0x110000)
  | value, (low, high) :: owed => ∀ b, low ≤ b → b ≤ high → Scalar (0x40 * value + (b - 0x80)) owed

theorem scalar_start : Utf8State.Scalar 0 [] := .inl (by decide)

theorem utf8Lead_scalar {b : Nat} {st : Utf8State} (h : utf8Lead false b = some st) :
    Utf8State.Scalar st.1 st.2 := by
  unfold utf8Lead at h
  split_ifs at h with h2 h0 hd h3 hf0 hf hf4 <;> simp only [Option.some.injEq] at h <;> subst h <;>
    simp only [Utf8State.Scalar, utf8Tail, NotSurrogate, Bool.and_eq_true, decide_eq_true_eq] at *
  · omega
  · omega
  · omega
  · omega
  · omega
  · intro b₁ hlow₁ hhigh₁ b₂ hlow₂ hhigh₂ b₃ hlow₃ hhigh₃
    rw [Nat.mod_eq_of_lt (by omega)]
    omega
  · omega

theorem utf8Start_scalar (b : Byte) :
    (∀ c ∈ (utf8Start false b).1, ∀ d ∈ c, NotSurrogate d.val) ∧
      Utf8State.Scalar (utf8Start false b).2.1 (utf8Start false b).2.2 := by
  unfold utf8Start
  split
  · next hb =>
    have hval : (Fin.ofNat 0x110000 b.val : CodePoint).val = b.val := Nat.mod_eq_of_lt (by omega)
    refine ⟨?_, scalar_start⟩
    intro c hc d hd
    rw [List.mem_singleton.mp hc, Option.mem_def, Option.some.injEq] at hd
    rw [← hd, hval]
    exact .inl (by omega)
  · split
    · next st hlead => exact ⟨by simp, utf8Lead_scalar hlead⟩
    · exact ⟨by simp, scalar_start⟩

/-- One byte. -/
theorem utf8Step_scalar {st : Utf8State} (hst : Utf8State.Scalar st.1 st.2) (b : Byte) :
    (∀ c ∈ (utf8Step false st b).1, ∀ d ∈ c, NotSurrogate d.val) ∧
      Utf8State.Scalar (utf8Step false st b).2.1 (utf8Step false st b).2.2 := by
  obtain ⟨value, owed⟩ := st
  cases owed with
  | nil => exact utf8Start_scalar b
  | cons range owed =>
    obtain ⟨low, high⟩ := range
    unfold utf8Step
    simp only
    split
    · next hin =>
      simp only [Bool.and_eq_true, decide_eq_true_eq] at hin
      have hnext := hst b.val hin.1 hin.2
      split
      · next howed =>
        subst howed
        refine ⟨?_, scalar_start⟩
        intro c hc d hd
        rw [List.mem_singleton.mp hc, Option.mem_def, Option.some.injEq] at hd
        rw [← hd]
        exact hnext
      · exact ⟨by simp, hnext⟩
    · refine ⟨?_, (utf8Start_scalar b).2⟩
      intro c hc
      rcases List.mem_cons.mp hc with rfl | hc
      · simp
      · exact (utf8Start_scalar b).1 c hc

theorem utf8Run_scalar {st : Utf8State} (hst : Utf8State.Scalar st.1 st.2) (bs : Bytes) :
    ∀ c ∈ utf8Run false st bs, ∀ d ∈ c, NotSurrogate d.val := by
  induction bs generalizing st with
  | nil =>
    rw [utf8Run]
    split <;> simp
  | cons b bs ih =>
    intro c hc
    rcases List.mem_append.mp hc with hc | hc
    · exact (utf8Step_scalar hst b).1 c hc
    · exact ih (utf8Step_scalar hst b).2 c hc

theorem mem_allDecoded {cs : List (Option CodePoint)} {s : Str} (h : allDecoded cs = some s) :
    ∀ c ∈ s, some c ∈ cs := by
  induction cs generalizing s with
  | nil =>
    cases h
    simp
  | cons c cs ih =>
    obtain ⟨d, rfl, h⟩ := Option.bind_eq_some_iff.mp h
    obtain ⟨t, ht, rfl⟩ := Option.map_eq_some_iff.mp h
    intro e he
    rcases List.mem_cons.mp he with rfl | he
    · exact List.mem_cons_self
    · exact List.mem_cons_of_mem _ (ih ht e he)

/-- **What is decoded holds no surrogate.** -/
theorem decodeUtf8_notSurrogate {bs : Bytes} {s : Str} (h : decodeUtf8 bs = some s) : ∀ c ∈ s, NotSurrogate c.val := by
  have hrun : ∀ c ∈ utf8Run false (0, []) bs, ∀ d ∈ c, NotSurrogate d.val := utf8Run_scalar scalar_start bs
  exact fun c hc => hrun _ (mem_allDecoded h c hc) c rfl

end Py
