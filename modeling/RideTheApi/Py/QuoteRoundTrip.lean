import Mathlib.Data.List.SplitBy
import RideTheApi.Py.JsonRoundTrip
import RideTheApi.Py.Utf8

/-!
# `Py.QuoteRoundTrip` — what was percent-encoded is decoded

`quote` writes visible ASCII, and `unquote` reads the text back from it where `%` was not let through
(`unquote_quote`). A query string that `urlencode` wrote has the parameters it was written from (`queryDict_urlencode`).
-/

namespace Py

/-- A character of ASCII that is neither a blank nor a control character. -/
def visible (c : CodePoint) : Bool := 0x21 ≤ c.val && c.val ≤ 0x7e

variable {b : Byte} {bs : Bytes} {safe s t : Str} {c : CodePoint}

/-- The character of a byte. -/
def byteChar (b : Byte) : CodePoint := Fin.ofNat 0x110000 b.val

theorem val_byteChar (b : Byte) : (byteChar b).val = b.val := Nat.mod_eq_of_lt (by have := b.isLt; omega)

theorem ofNat_byteChar (b : Byte) : (Fin.ofNat 256 (byteChar b).val : Byte) = b := by
  rw [val_byteChar]
  exact Fin.ext (Nat.mod_eq_of_lt b.isLt)

/-! ## One byte -/

theorem hexValue_upperHex : ∀ d < 16, hexValue (upperHex d) = some d := by decide

theorem alwaysSafe_upperHex : ∀ d < 16, alwaysSafe (upperHex d) = true := by decide

/-- A byte that is kept, or escaped. -/
theorem quoteByte_cases (safe : Str) (b : Byte) :
    (quoteByte safe b = [byteChar b] ∧ (alwaysSafe (byteChar b) = true ∨ b.val < 0x80 ∧ byteChar b ∈ safe)) ∨
      quoteByte safe b = [cp '%', upperHex (b.val / 16), upperHex (b.val % 16)] := by
  unfold quoteByte
  simp only
  split
  · next h =>
    have hval : (Fin.ofNat 0x110000 b.val : CodePoint).val = b.val := val_byteChar b
    rw [hval] at h
    refine .inl ⟨rfl, ?_⟩
    simpa [byteChar] using h
  · exact .inr rfl

theorem alwaysSafe_visible (h : alwaysSafe c = true) : visible c = true := by
  have hmem : ∀ d ∈ str "_.-~", visible d = true := List.all_eq_true.mp rfl
  simp only [alwaysSafe, Interp.asciiUpper, Interp.asciiLower, Interp.asciiDigit, Bool.or_eq_true, Bool.and_eq_true,
    decide_eq_true_eq, List.contains_iff_mem] at h
  simp only [visible, Bool.and_eq_true, decide_eq_true_eq] at hmem ⊢
  rcases h with ((h | h) | h) | h
  · omega
  · omega
  · omega
  · exact hmem c h

theorem ne_of_alwaysSafe {d : CodePoint} (h : alwaysSafe c = true) (hd : alwaysSafe d = false) : c ≠ d := by
  rintro rfl
  rw [h] at hd
  cases hd

/-- What is written is always safe, a percent sign, or was let through. -/
theorem mem_quoteByte (h : c ∈ quoteByte safe b) :
    alwaysSafe c = true ∨ c = cp '%' ∨ (c ∈ safe ∧ b.val < 0x80 ∧ c = byteChar b) := by
  rcases quoteByte_cases safe b with ⟨heq, hkept⟩ | heq <;> rw [heq] at h
  · rw [List.mem_singleton.mp h]
    exact hkept.imp_right fun hmem => .inr ⟨hmem.2, hmem.1, rfl⟩
  · have hhigh := alwaysSafe_upperHex (b.val / 16) (by have := b.isLt; omega)
    have hlow := alwaysSafe_upperHex (b.val % 16) (Nat.mod_lt _ (by omega))
    simp only [List.mem_cons, List.not_mem_nil, or_false] at h
    rcases h with rfl | rfl | rfl
    · exact .inr (.inl rfl)
    · exact .inl hhigh
    · exact .inl hlow

/-! ## `unquote` -/

theorem unquoteToBytes_cons (hc : c ≠ cp '%') (s : Str) :
    unquoteToBytes (c :: s) = Fin.ofNat 256 c.val :: unquoteToBytes s := by
  cases s with
  | nil => rfl
  | cons d s =>
    cases s with
    | nil => rfl
    | cons e s => rw [unquoteToBytes, percentByte, if_neg hc]

theorem unquoteToBytes_escape (b : Byte) (s : Str) :
    unquoteToBytes (cp '%' :: upperHex (b.val / 16) :: upperHex (b.val % 16) :: s) = b :: unquoteToBytes s := by
  have hb := b.isLt
  have hbyte : (Fin.ofNat 256 (16 * (b.val / 16) + b.val % 16) : Byte) = b := by
    rw [Nat.div_add_mod]
    exact Fin.ext (Nat.mod_eq_of_lt hb)
  rw [unquoteToBytes, percentByte, if_pos rfl, hexValue_upperHex _ (by omega), hexValue_upperHex _ (by omega),
    Option.bind_some, Option.map_some, hbyte]

/-- The bytes are read back, if no `%` was let through. -/
theorem unquoteToBytes_quote (h : ∀ b ∈ bs, byteChar b = cp '%' → cp '%' ∉ safe) :
    unquoteToBytes (bs.flatMap (quoteByte safe)) = bs := by
  induction bs with
  | nil => rfl
  | cons b bs ih =>
    have hrest := ih fun d hd => h d (List.mem_cons_of_mem _ hd)
    rw [List.flatMap_cons]
    rcases quoteByte_cases safe b with ⟨heq, hkept⟩ | heq <;> rw [heq]
    · have hne : byteChar b ≠ cp '%' := by
        intro hpercent
        rcases hkept with hsafe | ⟨-, hmem⟩
        · exact ne_of_alwaysSafe hsafe (by decide) hpercent
        · exact h b List.mem_cons_self hpercent (hpercent ▸ hmem)
      rw [List.singleton_append, unquoteToBytes_cons hne, ofNat_byteChar, hrest]
    · rw [List.cons_append, List.cons_append, List.singleton_append, unquoteToBytes_escape, hrest]

theorem allDecoded_eq {cs : List (Option CodePoint)} (h : allDecoded cs = some s) : cs = s.map some := by
  induction cs generalizing s with
  | nil =>
    cases h
    rfl
  | cons c cs ih =>
    obtain ⟨d, rfl, h⟩ := Option.bind_eq_some_iff.mp h
    obtain ⟨t, ht, rfl⟩ := Option.map_eq_some_iff.mp h
    rw [List.map_cons, ih ht]

theorem decodeUtf8Replace_of_strict (h : decodeUtf8 bs = some s) : decodeUtf8Replace bs = s := by
  unfold decodeUtf8Replace
  rw [allDecoded_eq h, List.map_map]
  exact List.map_id s

/-- A text in ASCII is decoded as one run. -/
theorem unquote_ascii (h : ∀ c ∈ s, c.val < 0x80) : unquote s = decodeUtf8Replace (unquoteToBytes s) := by
  unfold unquote
  split
  · next hpercent =>
    have hne : s ≠ [] := by
      rintro rfl
      exact absurd hpercent (by decide)
    have hascii : ∀ c ∈ s, isAscii c = true := fun c hc => by simpa [isAscii] using h c hc
    have hrun : (s.splitBy fun a b => isAscii a == isAscii b) = [s] := by
      refine List.splitBy_of_isChain hne (List.Pairwise.isChain (List.pairwise_of_forall_mem_list fun a ha b hb => ?_))
      rw [hascii a ha, hascii b hb]
      rfl
    rw [hrun, List.flatMap_singleton, if_pos (List.all_eq_true.mpr hascii)]
  · next hpercent =>
    have hplain : ∀ {t : Str}, cp '%' ∉ t → unquoteToBytes t = t.map fun c => Fin.ofNat 256 c.val := by
      intro t ht
      induction t with
      | nil => rfl
      | cons c t ih =>
        rw [unquoteToBytes_cons (fun heq => ht (heq ▸ List.mem_cons_self)), List.map_cons,
          ih fun hmem => ht (List.mem_cons_of_mem _ hmem)]
    rw [hplain (by simpa using hpercent), decodeUtf8Replace_of_strict (decodeUtf8_encodeUtf8 (encodeUtf8_ascii h))]

/-! ## `quote` and `urlencode` -/

/-- A byte of ASCII is a character of the text. -/
theorem mem_of_encodeUtf8 (h : encodeUtf8 s = some bs) (hb : b ∈ bs) (hlt : b.val < 0x80) : byteChar b ∈ s := by
  induction s generalizing bs with
  | nil =>
    cases h
    cases hb
  | cons c s ih =>
    obtain ⟨first, rest, hfirst, hrest, rfl⟩ := encodeUtf8_cons h
    rcases List.mem_append.mp hb with hb | hb
    · have hc := c.isLt
      unfold encodeUtf8Char at hfirst
      simp only at hfirst
      split_ifs at hfirst with h1 h2 h3 h4 <;> simp only [Option.some.injEq] at hfirst <;> subst hfirst
      · rw [List.mem_singleton.mp hb, byteChar, val_byte (show c.val < 256 by omega), ofNat_val c rfl]
        exact List.mem_cons_self
      -- Every byte of the others is beyond ASCII.
      all_goals
        simp only [List.mem_cons, List.not_mem_nil, or_false] at hb
        exfalso
      · rcases hb with rfl | rfl <;> rw [val_byte (by omega)] at hlt <;> omega
      · rcases hb with rfl | rfl | rfl <;> rw [val_byte (by omega)] at hlt <;> omega
      · rcases hb with rfl | rfl | rfl | rfl <;> rw [val_byte (by omega)] at hlt <;> omega
    · exact List.mem_cons_of_mem _ (ih hrest hb)

theorem mem_quote (h : quote s safe = some t) (hc : c ∈ t) :
    alwaysSafe c = true ∨ c = cp '%' ∨ (c ∈ safe ∧ c ∈ s) := by
  obtain ⟨bs, hbs, rfl⟩ := Option.map_eq_some_iff.mp h
  obtain ⟨b, hb, hc⟩ := List.mem_flatMap.mp hc
  refine (mem_quoteByte hc).imp_right fun h => h.imp_right fun hkept => ⟨hkept.1, ?_⟩
  rw [hkept.2.2]
  exact mem_of_encodeUtf8 hbs hb hkept.2.1

theorem visible_ascii (h : visible c = true) : c.val < 0x80 := by
  simp only [visible, Bool.and_eq_true, decide_eq_true_eq] at h
  omega

/-- **What was quoted is read back**, if a `%` in it was quoted too. -/
theorem unquote_quote (h : quote s safe = some t) (hsafe : ∀ c ∈ safe, c.val < 0x80)
    (hpercent : cp '%' ∈ safe → cp '%' ∉ s) : unquote t = s := by
  have hascii : ∀ c ∈ t, c.val < 0x80 := by
    intro c hc
    rcases mem_quote h hc with hc | rfl | hc
    · exact visible_ascii (alwaysSafe_visible hc)
    · decide
    · exact hsafe c hc.1
  obtain ⟨bs, hbs, rfl⟩ := Option.map_eq_some_iff.mp h
  have hkept : ∀ b ∈ bs, byteChar b = cp '%' → cp '%' ∉ safe := by
    intro b hb heq hmem
    have hval : b.val = 0x25 := by rw [← val_byteChar, heq]; rfl
    exact hpercent hmem (heq ▸ mem_of_encodeUtf8 hbs hb (by omega))
  rw [unquote_ascii hascii, unquoteToBytes_quote hkept, decodeUtf8Replace_of_strict (decodeUtf8_encodeUtf8 hbs)]

/-- A character of a query. -/
theorem mem_quotePlus (h : quotePlus s = some t) (hc : c ∈ t) : alwaysSafe c = true ∨ c = cp '%' ∨ c = cp '+' := by
  obtain ⟨u, hu, rfl⟩ := Option.map_eq_some_iff.mp h
  obtain ⟨d, hd, rfl⟩ := List.mem_map.mp hc
  split
  · exact .inr (.inr rfl)
  · next hne =>
    rcases mem_quote hu hd with hd | hd | hd
    · exact .inl hd
    · exact .inr (.inl hd)
    · exact absurd (List.mem_singleton.mp hd.1) hne

/-- **A key or a value of a query is read back.** -/
theorem unquote_quotePlus (h : quotePlus s = some t) : unquote (t.replace (cp '+') (cp ' ')) = s := by
  obtain ⟨u, hu, rfl⟩ := Option.map_eq_some_iff.mp h
  have hplus : cp '+' ∉ u := by
    intro hmem
    rcases mem_quote hu hmem with h | h | h
    · exact absurd h (by decide)
    · exact absurd h (by decide)
    · exact absurd h.1 (by decide)
  have hback : Str.replace (cp '+') (cp ' ') (Str.replace (cp ' ') (cp '+') u) = u := by
    unfold Str.replace
    rw [List.map_map]
    conv_rhs => rw [← List.map_id u]
    refine List.map_congr_left fun c hc => ?_
    show (if (if c = cp ' ' then cp '+' else c) = cp '+' then cp ' ' else _) = c
    by_cases hblank : c = cp ' '
    · rw [if_pos hblank, if_pos rfl, hblank]
    · have hne : c ≠ cp '+' := fun heq => hplus (heq ▸ hc)
      rw [if_neg hblank, if_neg hne]
  have hsafe : ∀ c ∈ str " ", c.val < 0x80 := by
    intro c hc
    rw [List.mem_singleton.mp hc]
    decide
  rw [hback]
  exact unquote_quote hu hsafe fun hmem => absurd (List.mem_singleton.mp hmem) (by decide)

/-- A pair of a query as `parse_qsl` reads it. -/
def readPair (piece : Str) : Str × Str :=
  (unquote ((piece.before (cp '=')).replace (cp '+') (cp ' ')),
    unquote ((Str.after (cp '=') piece).replace (cp '+') (cp ' ')))

/-- A pair that was written. -/
theorem readPair_quoted {k v : Str} (hk : quotePlus s = some k) (hv : quotePlus t = some v) :
    readPair (k ++ str "=" ++ v) = (s, t) := by
  have hne : ∀ c ∈ k, (c != cp '=') = true := by
    intro c hc
    rw [bne_iff_ne]
    rcases mem_quotePlus hk hc with hc | rfl | rfl
    · exact ne_of_alwaysSafe hc (by decide)
    · decide
    · decide
  have hpiece : k ++ str "=" ++ v = k ++ cp '=' :: v := by
    rw [List.append_assoc]
    rfl
  have hbefore : Str.before (cp '=') (k ++ cp '=' :: v) = k := by
    unfold Str.before
    rw [List.takeWhile_append_of_pos hne, List.takeWhile_cons_of_neg (by simp), List.append_nil]
  have hafter : Str.after (cp '=') (k ++ cp '=' :: v) = v := by
    unfold Str.after
    rw [List.dropWhile_append_of_pos hne, List.dropWhile_cons_of_neg (by simp)]
    rfl
  rw [readPair, hpiece, hbefore, hafter, unquote_quotePlus hk, unquote_quotePlus hv]

/-- The pairs of a query, with what they are written in. -/
theorem pairs_urlencode {params : Dict Str Str} {pieces : List Str}
    (h : (params.mapM fun (kv : Str × Str) => do
      let k ← quotePlus kv.1
      let v ← quotePlus kv.2
      pure (k ++ str "=" ++ v)) = some pieces) :
    pieces.map readPair = params ∧
      ∀ piece ∈ pieces, piece ≠ [] ∧ ∀ c ∈ piece, visible c = true ∧ c ≠ cp '&' := by
  induction params generalizing pieces with
  | nil =>
    cases h
    simp
  | cons kv params ih =>
    simp only [List.mapM_cons, Option.bind_eq_bind, Option.bind_eq_some_iff, Option.pure_def, Option.some.injEq] at h
    obtain ⟨piece, ⟨k, hk, v, hv, rfl⟩, rest, hrest, rfl⟩ := h
    obtain ⟨hpairs, hall⟩ := ih hrest
    refine ⟨by rw [List.map_cons, readPair_quoted hk hv, hpairs], ?_⟩
    have hquoted : ∀ {s t : Str}, quotePlus s = some t → ∀ c ∈ t, visible c = true ∧ c ≠ cp '&' := by
      intro s t ht c hc
      rcases mem_quotePlus ht hc with hc | rfl | rfl
      · exact ⟨alwaysSafe_visible hc, ne_of_alwaysSafe hc (by decide)⟩
      · decide
      · decide
    intro piece hpiece
    rcases List.mem_cons.mp hpiece with rfl | hpiece
    · refine ⟨by simp [str], fun c hc => ?_⟩
      rcases List.mem_append.mp hc with hc | hc
      · rcases List.mem_append.mp hc with hc | hc
        · exact hquoted hk c hc
        · rw [List.mem_singleton.mp hc]
          decide
      · exact hquoted hv c hc
    · exact hall piece hpiece

theorem joinWith_ampersand (ss : List Str) : joinWith "&" ss = [cp '&'].intercalate ss := by
  induction ss with
  | nil => rfl
  | cons s ss ih =>
    cases ss with
    | nil => simp [joinWith, List.intercalate]
    | cons s' ss =>
      rw [joinWith, ih]
      · simp [List.intercalate, str]
      · simp

/-- The characters of a query. -/
theorem visible_urlencode {params : Dict Str Str} (h : urlencode params = some t) (hc : c ∈ t) : visible c = true := by
  obtain ⟨pieces, hpieces, rfl⟩ := Option.map_eq_some_iff.mp h
  have hall := (pairs_urlencode hpieces).2
  cases pieces with
  | nil => cases hc
  | cons piece pieces =>
    rw [joinWith_cons] at hc
    rcases List.mem_append.mp hc with hc | hc
    · exact ((hall piece List.mem_cons_self).2 c hc).1
    · obtain ⟨other, hother, hc⟩ := List.mem_flatMap.mp hc
      rcases List.mem_append.mp hc with hc | hc
      · rw [List.mem_singleton.mp hc]
        rfl
      · exact ((hall other (List.mem_cons_of_mem _ hother)).2 c hc).1

/-- **A query has the parameters it was written from.** -/
theorem queryDict_urlencode {params : Dict Str Str} (hnodup : params.keys.Nodup) (h : urlencode params = some t) :
    queryDict t = params := by
  obtain ⟨pieces, hpieces, rfl⟩ := Option.map_eq_some_iff.mp h
  obtain ⟨hpairs, hall⟩ := pairs_urlencode hpieces
  have hparse : parseQsl (joinWith "&" pieces) = params := by
    cases pieces with
    | nil =>
      rw [← hpairs]
      rfl
    | cons piece pieces =>
      have hsplit : Str.split (cp '&') (joinWith "&" (piece :: pieces)) = piece :: pieces := by
        rw [joinWith_ampersand]
        exact List.splitOn_intercalate _ (fun p hp hmem => ((hall p hp).2 _ hmem).2 rfl) (List.cons_ne_nil _ _)
      have hfilter : (piece :: pieces).filter (fun p => !p.isEmpty) = piece :: pieces :=
        List.filter_eq_self.mpr fun p hp => by simpa using (hall p hp).1
      rw [parseQsl, hsplit, hfilter]
      exact hpairs
  rw [queryDict, hparse]
  exact (Dict.foldl_set_of_nodup params [] hnodup).trans (List.nil_append _)

end Py
