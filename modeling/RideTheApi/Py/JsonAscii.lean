import Mathlib.Data.List.Chain
import RideTheApi.Py.JsonBytes
import RideTheApi.Py.Utf8

/-!
# `Py.JsonAscii` — `json.dumps` as it is, and with an indent

`dumpsWith` is `json.dumps(obj, indent=...)`: everything outside printable ASCII is escaped. What it writes is ASCII
(`dumpsWith_ascii`), so its bytes are its characters, and the value is read back from it (`loads_dumpsWith`) if no
string has a high surrogate right before a low one: their escapes would be read as one character (`Unsplit`).

The text is followed in pieces: a `Break` is punctuation with the whitespace around it, which ends whatever came
before; `Begins` and `Goes` take a piece to a point where a `Break` may follow.
-/

namespace Py

open JsonGrammar

variable {I : Interp} {F : FloatReader I}

/-! ## `json.dumps` with an indent -/

/-- The start of a line at a level; nothing where there is no indent. -/
def newlineIndent (indent : Option Nat) (level : Nat) : Str :=
  match indent with
  | none   => []
  | some n => cp '\n' :: List.replicate (n * level) (cp ' ')

/-- What stands between two items. -/
def itemSeparator (indent : Option Nat) (level : Nat) : Str :=
  match indent with
  | none   => str ", "
  | some _ => str "," ++ newlineIndent indent level

/-- Brackets around items. -/
def inBrackets (left right : Str) (indent : Option Nat) (level : Nat) (items : List Str) : Str :=
  if items.isEmpty then left ++ right
  else left ++ newlineIndent indent (level + 1) ++ joinWith (itemSeparator indent (level + 1)) items ++
    newlineIndent indent level ++ right

mutual
/-- `json.dumps(obj, indent=indent)`, for a value `level` containers deep. -/
def dumpsWith (I : Interp) (indent : Option Nat) (level : Nat) : Json → Result Str
  | .null     => .ok "null"
  | .bool b   => .ok (if b then "true" else "false")
  | .int n    => intStr n
  | .float x  => .ok (dumpsFloat I x)
  | .str s    => .ok (dumpsStr s)
  | .arr xs   => do
    let items ← dumpsWithList I indent (level + 1) xs
    .ok (inBrackets "[" "]" indent level items)
  | .obj kvs  => do
    let items ← dumpsWithEntries I indent (level + 1) kvs
    .ok (inBrackets "\x7b" "\x7d" indent level items)
def dumpsWithList (I : Interp) (indent : Option Nat) (level : Nat) : List Json → Result (List Str)
  | []      => .ok []
  | x :: xs => do
    let s ← dumpsWith I indent level x
    let ss ← dumpsWithList I indent level xs
    .ok (s :: ss)
def dumpsWithEntries (I : Interp) (indent : Option Nat) (level : Nat) : List (Str × Json) → Result (List Str)
  | []            => .ok []
  | (k, v) :: kvs => do
    let s ← dumpsWith I indent level v
    let ss ← dumpsWithEntries I indent level kvs
    .ok ((dumpsStr k ++ str ": " ++ s) :: ss)
end

theorem inBrackets_none (left right : Str) (level : Nat) (items : List Str) :
    inBrackets left right none level items = left ++ joinWith ", " items ++ right := by
  unfold inBrackets
  split
  case isTrue h =>
    rw [List.isEmpty_iff.mp h, joinWith, List.append_nil]
  case isFalse => simp [newlineIndent, itemSeparator]

mutual
/-- **Without an indent it is the text on one line.** -/
theorem dumpsWith_none (I : Interp) (level : Nat) : ∀ v : Json, dumpsWith I none level v = dumps I v
  | .null | .bool _ | .int _ | .float _ | .str _ => rfl
  | .arr xs => by
    rw [dumpsWith, dumps, dumpsWithList_none I (level + 1) xs]
    simp only [inBrackets_none]
  | .obj kvs => by
    rw [dumpsWith, dumps, dumpsWithEntries_none I (level + 1) kvs]
    simp only [inBrackets_none]
theorem dumpsWithList_none (I : Interp) (level : Nat) : ∀ xs : List Json,
    dumpsWithList I none level xs = dumpsList I xs
  | [] => rfl
  | x :: xs => by rw [dumpsWithList, dumpsList, dumpsWith_none I level x, dumpsWithList_none I level xs]
theorem dumpsWithEntries_none (I : Interp) (level : Nat) : ∀ kvs : List (Str × Json),
    dumpsWithEntries I none level kvs = dumpsEntries I kvs
  | [] => rfl
  | (k, v) :: kvs => by
    rw [dumpsWithEntries, dumpsEntries, dumpsWith_none I level v, dumpsWithEntries_none I level kvs]
end

/-! ## Strings -/

/-- No high surrogate stands right before a low one. -/
def Unsplit (s : Str) : Prop := s.IsChain fun a b => ¬ (isHigh a.val = true ∧ isLow b.val = true)

instance (s : Str) : Decidable (Unsplit s) := inferInstanceAs (Decidable (List.IsChain _ s))

/-- The values whose text is read back. -/
def Encodable (t : Token) : Prop := Readable t ∧ ∀ s, t = .str s → Unsplit s

/-- An escaped code unit is read. -/
theorem lexRun_unit (toks : List Token) (text : Str) (high : Bool) {n : Nat} (hn : n < 0x10000) :
    lexRun F (toks, .string text high) (escapeU4 n) =
      some (toks, .string (addUnit text high n) (!(high && isLow n) && isHigh n)) := by
  have hdigit : ∀ m, hexValue (hexChar (m % 16)) = some (m % 16) :=
    fun m => hexValue_hexChar _ (Nat.mod_lt _ (by omega))
  have hback : lexStep F (toks, .string text high) (cp '\\') = some (toks, .escape text high) := rfl
  have hu : lexStep F (toks, .escape text high) (cp 'u') = some (toks, .hex text high []) := rfl
  have hlast : lexStep F (toks, .hex text high [n / 0x1000 % 16, n / 0x100 % 16, n / 0x10 % 16])
      (hexChar (n % 16)) = some (toks, .string (addUnit text high n) (!(high && isLow n) && isHigh n)) := by
    show lexHex toks text high _ _ = _
    unfold lexHex
    rw [hdigit, Option.map_some, if_neg (by simp)]
    simp only [List.cons_append, List.nil_append, hexDigits_eq hn]
  unfold escapeU4
  rw [lexRun_cons, hback, Option.bind_some, lexRun_cons, hu, Option.bind_some,
    lexRun_cons, lexStep_hex (hdigit _) (by simp), Option.bind_some,
    lexRun_cons, lexStep_hex (hdigit _) (by simp), Option.bind_some,
    lexRun_cons, lexStep_hex (hdigit _) (by simp), Option.bind_some, lexRun_cons]
  simp only [List.nil_append, List.cons_append]
  rw [hlast]
  rfl

theorem not_isHigh_of_lt {n : Nat} (h : n < 0xd800) : isHigh n = false := by
  simp only [isHigh, Bool.and_eq_false_iff, decide_eq_false_iff_not]
  omega

theorem not_isHigh_of_le {n : Nat} (h : 0xdc00 ≤ n) : isHigh n = false := by
  simp only [isHigh, Bool.and_eq_false_iff, decide_eq_false_iff_not]
  omega

/-- The two units of a code point beyond the basic plane are joined. -/
theorem addUnit_pair {c : CodePoint} (h : 0x10000 ≤ c.val) (text : Str) :
    addUnit (text ++ [Fin.ofNat 0x110000 (0xd800 + (c.val - 0x10000) / 0x400)]) true
      (0xdc00 + (c.val - 0x10000) % 0x400) = text ++ [c] := by
  have hlt := c.isLt
  have hlow : isLow (0xdc00 + (c.val - 0x10000) % 0x400) = true := by
    simp only [isLow, Bool.and_eq_true, decide_eq_true_eq]
    omega
  have hhigh : (Fin.ofNat 0x110000 (0xd800 + (c.val - 0x10000) / 0x400)).val = 0xd800 + (c.val - 0x10000) / 0x400 :=
    Nat.mod_eq_of_lt (by omega)
  have hsum : 0x10000 + ((0xd800 + (c.val - 0x10000) / 0x400 - 0xd800) * 0x400 +
      (0xdc00 + (c.val - 0x10000) % 0x400 - 0xdc00)) = c.val := by
    omega
  have hc : Fin.ofNat 0x110000 c.val = c := Fin.ext (Nat.mod_eq_of_lt hlt)
  unfold addUnit
  rw [hlow, Bool.and_true, if_pos rfl, List.dropLast_concat, List.getLast?_concat, Option.map_some, Option.getD_some,
    hhigh, hsum, hc]

/-- **One escaped code point is read back.** -/
theorem lexRun_escapeChar (toks : List Token) (text : Str) {high : Bool} {c : CodePoint}
    (h : ¬ (high = true ∧ isLow c.val = true)) :
    lexRun F (toks, .string text high) (escapeChar c) = some (toks, .string (text ++ [c]) (isHigh c.val)) := by
  have hback : lexStep F (toks, .string text high) (cp '\\') = some (toks, .escape text high) := rfl
  have hshort : ∀ {d : CodePoint}, c.val < 0xd800 → d ≠ cp 'u' → unescape d = some c →
      lexRun F (toks, .string text high) [cp '\\', d] = some (toks, .string (text ++ [c]) (isHigh c.val)) := by
    intro d hc hd hunescape
    rw [lexRun_cons, hback, Option.bind_some, lexRun_cons, not_isHigh_of_lt hc]
    show (lexEscape toks text high d).bind _ = _
    unfold lexEscape
    rw [if_neg hd, hunescape]
    rfl
  have hval : ∀ {d : CodePoint} (n : CodePoint), d ≠ cp 'u' → unescape d = some n → n.val < 0xd800 → c.val = n.val →
      lexRun F (toks, .string text high) [cp '\\', d] = some (toks, .string (text ++ [c]) (isHigh c.val)) := by
    intro d n hd hunescape hn hc
    obtain rfl : c = n := Fin.ext hc
    exact hshort hn hd hunescape
  unfold escapeChar
  split
  case isTrue h =>
    subst h
    exact hshort (by decide) (by decide) rfl
  case isFalse hquote =>
  split
  case isTrue h =>
    subst h
    exact hshort (by decide) (by decide) rfl
  case isFalse hslash =>
  split
  case isTrue h => exact hval 0x0a (by decide) rfl (by decide) h
  case isFalse =>
  split
  case isTrue h => exact hval 0x0d (by decide) rfl (by decide) h
  case isFalse =>
  split
  case isTrue h => exact hval 0x09 (by decide) rfl (by decide) h
  case isFalse =>
  split
  case isTrue h => exact hval 0x0c (by decide) rfl (by decide) h
  case isFalse =>
  split
  case isTrue h => exact hval 0x08 (by decide) rfl (by decide) h
  case isFalse =>
  split
  case isTrue hprint =>
    rw [lexRun_cons, not_isHigh_of_lt (by omega)]
    show (lexString toks text high c).bind _ = _
    unfold lexString
    rw [if_neg hquote, if_neg hslash, if_neg (by omega)]
    rfl
  case isFalse =>
  split
  case isTrue hbasic =>
    have hjoin : (high && isLow c.val) = false := by
      rw [Bool.eq_false_iff]
      simpa using h
    have hc : Fin.ofNat 0x110000 c.val = c := Fin.ext (Nat.mod_eq_of_lt c.isLt)
    rw [lexRun_unit toks text high hbasic, hjoin]
    simp only [addUnit, hjoin, Bool.false_eq_true, if_false, hc, Bool.not_false, Bool.true_and]
  case isFalse hbeyond =>
    have hlt := c.isLt
    have hfirst : isLow (0xd800 + (c.val - 0x10000) / 0x400) = false := by
      simp only [isLow, Bool.and_eq_false_iff, decide_eq_false_iff_not]
      omega
    have hhigh : isHigh (0xd800 + (c.val - 0x10000) / 0x400) = true := by
      simp only [isHigh, Bool.and_eq_true, decide_eq_true_eq]
      omega
    have hsecond : isHigh (0xdc00 + (c.val - 0x10000) % 0x400) = false := not_isHigh_of_le (by omega)
    have hadd : addUnit text high (0xd800 + (c.val - 0x10000) / 0x400) =
        text ++ [Fin.ofNat 0x110000 (0xd800 + (c.val - 0x10000) / 0x400)] := by
      unfold addUnit
      rw [hfirst, Bool.and_false, if_neg (by simp)]
    rw [lexRun_append, lexRun_unit toks text high (by omega), Option.bind_some, hadd, hfirst, hhigh, Bool.and_false,
      Bool.not_false, Bool.true_and, lexRun_unit toks _ true (by omega), addUnit_pair (by omega), hsecond,
      Bool.and_false, not_isHigh_of_le (by omega)]

/-- The escapes of a text are read back. -/
theorem lexRun_escapeChars (toks : List Token) {s : Str} (hs : Unsplit s) (text : Str) {high : Bool}
    (h : ∀ c ∈ s.head?, ¬ (high = true ∧ isLow c.val = true)) :
    ∃ high', lexRun F (toks, .string text high) (s.flatMap escapeChar) = some (toks, .string (text ++ s) high') := by
  induction s generalizing text high with
  | nil => exact ⟨high, by rw [List.flatMap_nil, lexRun_nil, List.append_nil]⟩
  | cons c s ih =>
    obtain ⟨high', hrun⟩ := ih hs.tail (text ++ [c]) (List.isChain_cons.mp hs).1
    refine ⟨high', ?_⟩
    rw [List.flatMap_cons, lexRun_append, lexRun_escapeChar toks text (h c rfl), Option.bind_some, hrun,
      List.append_assoc]
    rfl

/-- **A string that was written is read back.** -/
theorem lexRun_dumpsStr (toks : List Token) {s : Str} (hs : Unsplit s) :
    lexRun F (toks, .between) (dumpsStr s) = some (toks ++ [.str s], .between) := by
  have hopen : lexStep F (toks, .between) (cp '"') = some (toks, .string [] false) := rfl
  have hhead : ∀ c ∈ s.head?, ¬ (false = true ∧ isLow c.val = true) := by simp
  obtain ⟨high, hrun⟩ := lexRun_escapeChars (F := F) toks hs [] hhead
  unfold dumpsStr
  rw [lexRun_cons, hopen, Option.bind_some, lexRun_append, hrun, Option.bind_some, List.nil_append]
  rfl

/-! ## Pieces of a text -/

section
variable (F)

/-- A piece that ends whatever value came before it, and leaves the reader between tokens. -/
def Break (s : Str) (more : List Token) : Prop :=
  ∀ st toks, Settled F st toks → lexRun F st s = some (toks ++ more, .between)

/-- A piece that is taken between tokens, to a point where a `Break` may follow. -/
def Begins (s : Str) (more : List Token) : Prop :=
  ∀ toks, ∃ st, lexRun F (toks, .between) s = some st ∧ Settled F st (toks ++ more)

/-- A piece that is taken after a value, to a point where a `Break` may follow. -/
def Goes (s : Str) (more : List Token) : Prop :=
  ∀ st toks, Settled F st toks → ∃ st', lexRun F st s = some st' ∧ Settled F st' (toks ++ more)

end

variable {s s' : Str} {more more' : List Token}

theorem Break.begins (h : Break F s more) : Begins F s more :=
  fun toks => ⟨_, h _ _ (settled_between F toks), settled_between F _⟩

theorem Break.goes (h : Break F s more) : Goes F s more := fun _ _ hst => ⟨_, h _ _ hst, settled_between F _⟩

theorem goes_nil : Goes F [] [] := fun st toks hst => ⟨st, rfl, by rwa [List.append_nil]⟩

theorem Break.append (h : Break F s more) (h' : Begins F s' more') : Goes F (s ++ s') (more ++ more') := by
  intro st toks hst
  obtain ⟨st', hrun, hst'⟩ := h' (toks ++ more)
  exact ⟨st', by rw [lexRun_append, h st toks hst, Option.bind_some, hrun], by rwa [← List.append_assoc]⟩

theorem Begins.append (h : Begins F s more) (h' : Goes F s' more') : Begins F (s ++ s') (more ++ more') := by
  intro toks
  obtain ⟨st, hrun, hst⟩ := h toks
  obtain ⟨st', hrun', hst'⟩ := h' st _ hst
  exact ⟨st', by rw [lexRun_append, hrun, Option.bind_some, hrun'], by rwa [← List.append_assoc]⟩

theorem Goes.append (h : Goes F s more) (h' : Goes F s' more') : Goes F (s ++ s') (more ++ more') := by
  intro st toks hst
  obtain ⟨st₁, hrun, hst₁⟩ := h st toks hst
  obtain ⟨st₂, hrun', hst₂⟩ := h' st₁ _ hst₁
  exact ⟨st₂, by rw [lexRun_append, hrun, Option.bind_some, hrun'], by rwa [← List.append_assoc]⟩

theorem enter_jsonSpace {c : CodePoint} (h : jsonSpace c = true) (toks : List Token) :
    enter toks c = some (toks, .between) := by
  unfold enter
  rw [if_pos h]

theorem not_scalarChar_of_space {c : CodePoint} (h : jsonSpace c = true) : scalarChar c = false := by
  rw [Bool.eq_false_iff]
  intro hscalar
  rw [(not_space_of_scalarChar hscalar).1] at h
  cases h

/-- Whitespace between tokens is passed over. -/
theorem lexRun_spaces {ws : Str} (h : ∀ c ∈ ws, jsonSpace c = true) (toks : List Token) :
    lexRun F (toks, .between) ws = some (toks, .between) := by
  induction ws with
  | nil => rfl
  | cons c ws ih =>
    rw [lexRun_cons]
    show (enter toks c).bind _ = _
    rw [enter_jsonSpace (h c List.mem_cons_self), Option.bind_some, ih fun d hd => h d (List.mem_cons_of_mem _ hd)]

/-- **Punctuation with whitespace around it is a break.** -/
theorem break_punctuation (before after : Str) {c : CodePoint} {t : Token} (hbefore : ∀ d ∈ before, jsonSpace d = true)
    (hafter : ∀ d ∈ after, jsonSpace d = true) (hc : scalarChar c = false)
    (henter : ∀ toks, enter toks c = some (toks ++ [t], .between)) : Break F (before ++ c :: after) [t] := by
  have hone : ∀ toks, lexRun F (toks, .between) (c :: after) = some (toks ++ [t], .between) := by
    intro toks
    rw [lexRun_cons]
    show (enter toks c).bind _ = _
    rw [henter, Option.bind_some, lexRun_spaces hafter]
  intro st toks hst
  cases before with
  | nil => rw [List.nil_append, hst.run hc, hone]
  | cons d before =>
    have hd := not_scalarChar_of_space (hbefore d List.mem_cons_self)
    rw [List.cons_append, hst.run hd, ← List.cons_append, lexRun_append, lexRun_spaces hbefore, Option.bind_some, hone]

/-- Whitespace at the end, if there is any, is a break. -/
theorem break_spaces {c : CodePoint} {ws : Str} (h : ∀ d ∈ c :: ws, jsonSpace d = true) : Break F (c :: ws) [] := by
  intro st toks hst
  rw [hst.run (not_scalarChar_of_space (h c List.mem_cons_self)), lexRun_spaces h, List.append_nil]

theorem spaces_newlineIndent (indent : Option Nat) (level : Nat) : ∀ c ∈ newlineIndent indent level,
    jsonSpace c = true := by
  intro c hc
  cases indent with
  | none => cases hc
  | some n =>
    rcases List.mem_cons.mp hc with rfl | hc
    · rfl
    · rw [List.eq_of_mem_replicate hc]
      rfl

theorem spaces_blank : ∀ c ∈ str " ", jsonSpace c = true := by
  intro c hc
  rw [List.mem_singleton.mp hc]
  rfl

theorem break_separator (indent : Option Nat) (level : Nat) : Break F (itemSeparator indent level) [.comma] := by
  have h : itemSeparator indent level = [] ++ cp ',' :: (if indent = none then str " " else newlineIndent indent level) := by
    cases indent <;> rfl
  rw [h]
  refine break_punctuation [] _ (by simp) ?_ rfl fun _ => rfl
  split
  · exact spaces_blank
  · exact spaces_newlineIndent indent level

/-- The items after the first, each with its comma. -/
theorem goes_items {sep : Str} (hsep : Break F sep [.comma]) {texts : List Str} {tokss : List (List Token)}
    (h : List.Forall₂ (Begins F) texts tokss) :
    Goes F (texts.flatMap fun text => sep ++ text) (tokss.flatMap fun toks => .comma :: toks) := by
  induction h with
  | nil => exact goes_nil
  | cons hfirst _ ih => exact (hsep.append hfirst).append ih

/-- **Items in brackets are taken as what they are.** -/
theorem begins_inBrackets (left right : CodePoint) {opening closing : Token} (indent : Option Nat) (level : Nat)
    (hleft : ∀ toks, enter toks left = some (toks ++ [opening], .between)) (hleft' : scalarChar left = false)
    (hright : ∀ toks, enter toks right = some (toks ++ [closing], .between)) (hright' : scalarChar right = false)
    {texts : List Str} {tokss : List (List Token)} (h : List.Forall₂ (Begins F) texts tokss) :
    Begins F (inBrackets [left] [right] indent level texts)
      (opening :: (tokss.head?.getD [] ++ (tokss.tail.flatMap fun toks => .comma :: toks) ++ [closing])) := by
  cases h with
  | nil =>
    have hopen : Break F [left] [opening] := break_punctuation [] [] (by simp) (by simp) hleft' hleft
    have hclose : Break F [right] [closing] :=
      break_punctuation [] [] (by simp) (by simp) hright' hright
    exact hopen.begins.append hclose.goes
  | @cons text toks texts tokss hfirst hrest =>
    have hopen : Break F ([left] ++ newlineIndent indent (level + 1)) [opening] :=
      break_punctuation [] _ (by simp) (spaces_newlineIndent _ _) hleft' hleft
    have hclose : Break F (newlineIndent indent level ++ [right]) [closing] :=
      break_punctuation _ [] (spaces_newlineIndent _ _) (by simp) hright' hright
    have hall := (hopen.append (hfirst.append ((goes_items (break_separator indent (level + 1)) hrest).append hclose.goes)))
    intro toks'
    obtain ⟨st, hrun, hst⟩ := hall _ _ (settled_between F toks')
    refine ⟨st, ?_, ?_⟩
    · rw [← hrun]
      simp [inBrackets, joinWith_cons]
    · simpa using hst

/-! ## Values are read back -/

/-- A key and the text of its value. -/
theorem begins_entry {k : Str} (hk : Unsplit k) (h : Begins F s more) :
    Begins F (dumpsStr k ++ str ": " ++ s) (.str k :: .colon :: more) := by
  have hcolon : Break F (str ": ") [.colon] :=
    break_punctuation [] (str " ") (by simp) spaces_blank rfl fun _ => rfl
  have hkey : Begins F (dumpsStr k) [.str k] :=
    fun toks => ⟨_, lexRun_dumpsStr toks hk, settled_between F _⟩
  rw [List.append_assoc]
  exact hkey.append (hcolon.append h)

theorem flatMap_itemTokens (xs : List Json) :
    ((xs.map tokens).flatMap fun toks => JsonToken.comma :: toks) = moreItemTokens xs := by
  induction xs with
  | nil => rfl
  | cons x xs ih => rw [List.map_cons, List.flatMap_cons, ih, moreItemTokens, List.cons_append]

/-- The tokens of an entry. -/
def entryToks (kv : Str × Json) : List Token := .str kv.1 :: .colon :: tokens kv.2

theorem flatMap_entryToks (kvs : List (Str × Json)) :
    ((kvs.map entryToks).flatMap fun toks => JsonToken.comma :: toks) = moreEntryTokens kvs := by
  induction kvs with
  | nil => rfl
  | cons kv kvs ih => simp [entryToks, moreEntryTokens, ih]

mutual
/-- **An encodable tree has a text, and the reader takes it whole.** -/
theorem dumpsWith_text (indent : Option Nat) (level : Nat) : ∀ v : Json, Over Encodable v →
    ∃ s, dumpsWith I indent level v = .ok s ∧ Begins F s (tokens v)
  | .null, _ => ⟨_, rfl, settled_of_scalar (by decide) (List.all_eq_true.mp rfl) rfl⟩
  | .bool true, _ => ⟨_, rfl, settled_of_scalar (by decide) (List.all_eq_true.mp rfl) rfl⟩
  | .bool false, _ => ⟨_, rfl, settled_of_scalar (by decide) (List.all_eq_true.mp rfl) rfl⟩
  | .int n, h => by
    obtain ⟨s, hs, hne, hall, htoken⟩ := int_text (F := F) h.1
    exact ⟨s, hs, settled_of_scalar hne hall htoken⟩
  | .float x, h => by
    obtain ⟨hne, hall, htoken⟩ := float_text F h.1
    exact ⟨_, rfl, settled_of_scalar hne hall htoken⟩
  | .str u, h => ⟨_, rfl, fun toks => ⟨_, lexRun_dumpsStr toks (h.2 u rfl), settled_between F _⟩⟩
  | .arr xs, h => by
    obtain ⟨ss, hss, htexts⟩ := dumpsWithList_text indent (level + 1) xs h
    refine ⟨inBrackets "[" "]" indent level ss, ?_, ?_⟩
    · rw [dumpsWith, hss]
      rfl
    · have hall := begins_inBrackets (cp '[') (cp ']') indent level (fun _ => rfl) rfl (fun _ => rfl) rfl
        htexts
      cases xs with
      | nil => exact hall
      | cons x xs =>
        rw [List.map_cons, List.head?_cons, List.tail_cons, flatMap_itemTokens] at hall
        exact hall
  | .obj kvs, h => by
    obtain ⟨ss, hss, htexts⟩ := dumpsWithEntries_text indent (level + 1) kvs h.2
    refine ⟨inBrackets "\x7b" "\x7d" indent level ss, ?_, ?_⟩
    · rw [dumpsWith, hss]
      rfl
    · have hall := begins_inBrackets (cp '\x7b') (cp '\x7d') indent level (fun _ => rfl) rfl
        (fun _ => rfl) rfl htexts
      cases kvs with
      | nil => exact hall
      | cons kv kvs =>
        rw [List.map_cons, List.head?_cons, List.tail_cons, flatMap_entryToks] at hall
        exact hall
theorem dumpsWithList_text (indent : Option Nat) (level : Nat) : ∀ xs : List Json, OverList Encodable xs →
    ∃ ss, dumpsWithList I indent level xs = .ok ss ∧ List.Forall₂ (Begins F) ss (xs.map tokens)
  | [], _ => ⟨[], rfl, .nil⟩
  | x :: xs, h => by
    obtain ⟨s, hs, htext⟩ := dumpsWith_text indent level x h.1
    obtain ⟨ss, hss, htexts⟩ := dumpsWithList_text indent level xs h.2
    refine ⟨s :: ss, ?_, .cons htext htexts⟩
    rw [dumpsWithList, hs, hss]
    rfl
theorem dumpsWithEntries_text (indent : Option Nat) (level : Nat) : ∀ kvs : List (Str × Json),
    OverEntries Encodable kvs →
    ∃ ss, dumpsWithEntries I indent level kvs = .ok ss ∧ List.Forall₂ (Begins F) ss (kvs.map entryToks)
  | [], _ => ⟨[], rfl, .nil⟩
  | (k, x) :: kvs, h => by
    obtain ⟨s, hs, htext⟩ := dumpsWith_text indent level x h.2.1
    obtain ⟨ss, hss, htexts⟩ := dumpsWithEntries_text indent level kvs h.2.2
    refine ⟨(dumpsStr k ++ str ": " ++ s) :: ss, ?_, .cons (begins_entry (h.1.2 k rfl) htext) htexts⟩
    rw [dumpsWithEntries, hs, hss]
    rfl
end

/-- **What is written is read back**, whatever whitespace follows it. -/
theorem loads_dumpsWith {v : Json} (h : Over Encodable v) (indent : Option Nat) (level : Nat) :
    ∃ s, dumpsWith I indent level v = .ok s ∧
      ∀ ws, (∀ c ∈ ws, jsonSpace c = true) → loads F (s ++ ws) = some v := by
  obtain ⟨s, hs, htext⟩ := dumpsWith_text (F := F) indent level v h
  refine ⟨s, hs, fun ws hws => ?_⟩
  have hend : Goes F ws [] := by
    cases ws with
    | nil => exact goes_nil
    | cons c ws => exact (break_spaces hws).goes
  obtain ⟨st, hrun, hst⟩ := htext.append hend []
  unfold loads
  rw [hst.lex hrun, List.nil_append, List.append_nil]
  exact parse_tokens h

/-! ## The characters of a text -/

/-- A character of ASCII that is printed. -/
def printable (c : CodePoint) : Bool := 0x20 ≤ c.val && c.val ≤ 0x7e

/-- What a text is written in: printable ASCII, and new lines where there is an indent. -/
def Written (indent : Option Nat) (c : CodePoint) : Prop := printable c = true ∨ indent ≠ none ∧ c = cp '\n'

variable {indent : Option Nat} {c : CodePoint}

theorem Written.ascii (h : Written indent c) : c.val < 0x80 := by
  rcases h with h | ⟨-, rfl⟩
  · simp only [printable, Bool.and_eq_true, decide_eq_true_eq] at h
    omega
  · decide

theorem printable_scalar (h : scalarChar c = true) : printable c = true := by
  simp only [scalarChar, Interp.asciiDigit, Interp.asciiUpper, Interp.asciiLower, Bool.or_eq_true, Bool.and_eq_true,
    decide_eq_true_eq, beq_iff_eq] at h
  simp only [printable, Bool.and_eq_true, decide_eq_true_eq]
  rcases h with ((((h | h) | h) | rfl) | rfl) | rfl
  · omega
  · omega
  · omega
  · decide
  · decide
  · decide

theorem printable_hexChar : ∀ d < 16, printable (hexChar d) = true := by decide

theorem printable_escapeU4 (n : Nat) : ∀ c ∈ escapeU4 n, printable c = true := by
  have hdigit : ∀ m, printable (hexChar (m % 16)) = true := fun m => printable_hexChar _ (Nat.mod_lt _ (by omega))
  simp only [escapeU4, List.forall_mem_cons, hdigit, true_and]
  exact ⟨rfl, rfl, by simp⟩

/-- Every escape is printable. -/
theorem printable_escapeChar (c : CodePoint) : ∀ d ∈ escapeChar c, printable d = true := by
  have hpair : ∀ d : CodePoint, printable d = true → ∀ e ∈ [cp '\\', d], printable e = true := by
    intro d hd e he
    rcases List.mem_cons.mp he with rfl | he
    · rfl
    · rwa [List.mem_singleton.mp he]
  intro d hd
  unfold escapeChar at hd
  split at hd
  · exact hpair _ rfl d hd
  split at hd
  · exact hpair _ rfl d hd
  split at hd
  · exact hpair _ rfl d hd
  split at hd
  · exact hpair _ rfl d hd
  split at hd
  · exact hpair _ rfl d hd
  split at hd
  · exact hpair _ rfl d hd
  split at hd
  · exact hpair _ rfl d hd
  split at hd
  · next h =>
    rw [List.mem_singleton.mp hd]
    simpa [printable] using h
  split at hd
  · exact printable_escapeU4 _ d hd
  · rcases List.mem_append.mp hd with hd | hd
    · exact printable_escapeU4 _ d hd
    · exact printable_escapeU4 _ d hd

theorem printable_dumpsStr (s : Str) : ∀ c ∈ dumpsStr s, printable c = true := by
  intro c hc
  rcases List.mem_cons.mp hc with rfl | hc
  · rfl
  rcases List.mem_append.mp hc with hc | hc
  · obtain ⟨d, -, hd⟩ := List.mem_flatMap.mp hc
    exact printable_escapeChar d c hd
  · rw [List.mem_singleton.mp hc]
    rfl

theorem printable_intStr {n : Int} {s : Str} (h : intStr n = .ok s) : ∀ c ∈ s, printable c = true := by
  have hdigits : ∀ c ∈ natStr n.natAbs, printable c = true :=
    fun c hc => printable_scalar (scalarChar_of_digit (natStr_digits hc))
  unfold intStr at h
  split at h
  · cases h
  · cases h
    intro c hc
    split at hc
    · rcases List.mem_cons.mp hc with rfl | hc
      · rfl
      · exact hdigits c hc
    · exact hdigits c hc

theorem printable_dumpsFloat (F : FloatReader I) (x : BitVec 64) : ∀ c ∈ dumpsFloat I x, printable c = true := by
  unfold dumpsFloat
  split
  · split
    · split
      · exact List.all_eq_true.mp rfl
      · exact List.all_eq_true.mp rfl
    · exact List.all_eq_true.mp rfl
  · next hexp =>
    have hfinite : isFinite x = true := by
      simp only [isFinite, bne_iff_ne]
      exact hexp
    exact fun c hc => printable_scalar (isFloatText_scalar (F.text_number x hfinite) c hc)

theorem written_newlineIndent (level : Nat) : ∀ c ∈ newlineIndent indent level, Written indent c := by
  intro c hc
  cases indent with
  | none => cases hc
  | some n =>
    rcases List.mem_cons.mp hc with rfl | hc
    · exact .inr ⟨by simp, rfl⟩
    · rw [List.eq_of_mem_replicate hc]
      exact .inl rfl

theorem written_separator (level : Nat) : ∀ c ∈ itemSeparator indent level, Written indent c := by
  intro c hc
  cases indent with
  | none => exact .inl (List.all_eq_true.mp (rfl : (str ", ").all printable = true) c hc)
  | some n =>
    rcases List.mem_cons.mp hc with rfl | hc
    · exact .inl rfl
    · exact written_newlineIndent level c hc

theorem written_inBrackets {left right : CodePoint} {level : Nat} {items : List Str} (hleft : printable left = true)
    (hright : printable right = true) (h : ∀ item ∈ items, ∀ c ∈ item, Written indent c) :
    ∀ c ∈ inBrackets [left] [right] indent level items, Written indent c := by
  have hbracket : ∀ {b c : CodePoint}, printable b = true → c ∈ [b] → Written indent c :=
    fun hb hc => .inl (by rwa [List.mem_singleton.mp hc])
  intro c hc
  unfold inBrackets at hc
  cases items with
  | nil =>
    rcases List.mem_append.mp hc with hc | hc
    · exact hbracket hleft hc
    · exact hbracket hright hc
  | cons item items =>
    simp only [List.isEmpty_cons, Bool.false_eq_true, if_false, joinWith_cons, List.mem_append, List.mem_flatMap] at hc
    rcases hc with (((hc | hc) | hc | ⟨other, hother, hc | hc⟩) | hc) | hc
    · exact hbracket hleft hc
    · exact written_newlineIndent _ c hc
    · exact h item List.mem_cons_self c hc
    · exact written_separator _ c hc
    · exact h other (List.mem_cons_of_mem _ hother) c hc
    · exact written_newlineIndent _ c hc
    · exact hbracket hright hc

mutual
/-- **A text is printable ASCII**, on one line if there is no indent. -/
theorem dumpsWith_written (F : FloatReader I) (level : Nat) : ∀ (v : Json) {s : Str}, dumpsWith I indent level v = .ok s →
    ∀ c ∈ s, Written indent c
  | .null, _, h => by
    cases h
    exact fun c hc => .inl (List.all_eq_true.mp (rfl : (str "null").all printable = true) c hc)
  | .bool true, _, h => by
    cases h
    exact fun c hc => .inl (List.all_eq_true.mp (rfl : (str "true").all printable = true) c hc)
  | .bool false, _, h => by
    cases h
    exact fun c hc => .inl (List.all_eq_true.mp (rfl : (str "false").all printable = true) c hc)
  | .int n, _, h => fun c hc => .inl (printable_intStr h c hc)
  | .float x, _, h => by
    cases h
    exact fun c hc => .inl (printable_dumpsFloat F x c hc)
  | .str u, _, h => by
    cases h
    exact fun c hc => .inl (printable_dumpsStr u c hc)
  | .arr xs, _, h => by
    obtain ⟨items, hitems, hs⟩ := Except.bind_ok_iff.mp h
    cases hs
    exact written_inBrackets rfl rfl (dumpsWithList_written F (level + 1) xs hitems)
  | .obj kvs, _, h => by
    obtain ⟨items, hitems, hs⟩ := Except.bind_ok_iff.mp h
    cases hs
    exact written_inBrackets rfl rfl (dumpsWithEntries_written F (level + 1) kvs hitems)
theorem dumpsWithList_written (F : FloatReader I) (level : Nat) : ∀ (xs : List Json) {ss : List Str},
    dumpsWithList I indent level xs = .ok ss → ∀ s ∈ ss, ∀ c ∈ s, Written indent c
  | [], _, h => by
    cases h
    simp
  | x :: xs, _, h => by
    obtain ⟨s, hs, h⟩ := Except.bind_ok_iff.mp h
    obtain ⟨ss, hss, h⟩ := Except.bind_ok_iff.mp h
    cases h
    intro s' hs'
    rcases List.mem_cons.mp hs' with rfl | hs'
    · exact dumpsWith_written F level x hs
    · exact dumpsWithList_written F level xs hss s' hs'
theorem dumpsWithEntries_written (F : FloatReader I) (level : Nat) : ∀ (kvs : List (Str × Json)) {ss : List Str},
    dumpsWithEntries I indent level kvs = .ok ss → ∀ s ∈ ss, ∀ c ∈ s, Written indent c
  | [], _, h => by
    cases h
    simp
  | (k, v) :: kvs, _, h => by
    obtain ⟨s, hs, h⟩ := Except.bind_ok_iff.mp h
    obtain ⟨ss, hss, h⟩ := Except.bind_ok_iff.mp h
    cases h
    intro s' hs'
    rcases List.mem_cons.mp hs' with rfl | hs'
    · intro c hc
      rcases List.mem_append.mp hc with hc | hc
      · rcases List.mem_append.mp hc with hc | hc
        · exact .inl (printable_dumpsStr k c hc)
        · exact .inl (List.all_eq_true.mp (rfl : (str ": ").all printable = true) c hc)
      · exact dumpsWith_written F level v hs c hc
    · exact dumpsWithEntries_written F level kvs hss s' hs'
end

/-! ## What is read can be written -/

/-- The text ends in a high surrogate. -/
def endsHigh (text : Str) : Bool := text.getLast?.any fun c => isHigh c.val

/-- The strings so far are not split, and the reader knows when the one it is in could become so. -/
def Joined : LexState → Prop
  | (toks, .between) | (toks, .scalar _) => ∀ u, .str u ∈ toks → Unsplit u
  | (toks, .string text high) | (toks, .escape text high) =>
    (∀ u, .str u ∈ toks → Unsplit u) ∧ Unsplit text ∧ high = endsHigh text
  | (toks, .hex text high digits) =>
    (∀ u, .str u ∈ toks → Unsplit u) ∧ (Unsplit text ∧ high = endsHigh text) ∧ digits.length ≤ 3 ∧ ∀ d ∈ digits, d < 16

theorem endsHigh_concat (text : Str) (c : CodePoint) : endsHigh (text ++ [c]) = isHigh c.val := by
  simp [endsHigh]

/-- A character that joins no high surrogate before it. -/
theorem unsplit_concat {text : Str} (h : Unsplit text) {c : CodePoint}
    (hc : ¬ (endsHigh text = true ∧ isLow c.val = true)) : Unsplit (text ++ [c]) := by
  refine List.isChain_append.mpr ⟨h, List.isChain_singleton _, ?_⟩
  intro a ha b hb hsplit
  obtain rfl : c = b := by simpa using hb
  refine hc ⟨?_, hsplit.2⟩
  rw [endsHigh, Option.mem_def.mp ha]
  exact hsplit.1

theorem isLow_of_notSurrogate {n : Nat} (h : NotSurrogate n) : isLow n = false := by
  simp only [isLow, Bool.and_eq_false_iff, decide_eq_false_iff_not]
  rcases h with h | h <;> omega

theorem isHigh_of_notSurrogate {n : Nat} (h : NotSurrogate n) : isHigh n = false := by
  simp only [isHigh, Bool.and_eq_false_iff, decide_eq_false_iff_not]
  rcases h with h | h <;> omega

/-- A character that is no surrogate. -/
theorem joined_concat {toks : List Token} {text : Str} (htoks : ∀ u, .str u ∈ toks → Unsplit u) (h : Unsplit text)
    {c : CodePoint} (hc : NotSurrogate c.val) : Joined (toks, .string (text ++ [c]) false) := by
  refine ⟨htoks, unsplit_concat h ?_, ?_⟩
  · rw [isLow_of_notSurrogate hc]
    simp
  · rw [endsHigh_concat, isHigh_of_notSurrogate hc]

theorem unescape_notSurrogate {c d : CodePoint} (h : unescape c = some d) : NotSurrogate d.val := by
  unfold unescape at h
  split_ifs at h with hself <;> cases h
  · left
    rcases hself with rfl | rfl | rfl <;> decide
  all_goals exact .inl (by decide)

/-- **An escaped unit joins a high surrogate that was escaped.** -/
theorem joined_addUnit {toks : List Token} {text : Str} (htoks : ∀ u, .str u ∈ toks → Unsplit u) (h : Unsplit text)
    {n : Nat} (hn : n < 0x10000) :
    Joined (toks, .string (addUnit text (endsHigh text) n) (!(endsHigh text && isLow n) && isHigh n)) := by
  have hval : (Fin.ofNat 0x110000 n : CodePoint).val = n := Nat.mod_eq_of_lt (by omega)
  unfold addUnit
  split
  · next hjoin =>
    simp only [Bool.and_eq_true] at hjoin
    obtain ⟨hends, hlow⟩ := hjoin
    -- The pair is one character beyond the basic plane.
    obtain ⟨c, hc, hhigh⟩ : ∃ c, text.getLast? = some c ∧ isHigh c.val = true := by
      simpa [endsHigh, Option.any_eq_true] using hends
    obtain ⟨before, rfl⟩ := List.getLast?_eq_some_iff.mp hc
    simp only [isHigh, isLow, Bool.and_eq_true, decide_eq_true_eq] at hhigh hlow
    have hpair : (Fin.ofNat 0x110000 (0x10000 + ((c.val - 0xd800) * 0x400 + (n - 0xdc00))) : CodePoint).val =
        0x10000 + ((c.val - 0xd800) * 0x400 + (n - 0xdc00)) := Nat.mod_eq_of_lt (by omega)
    have hlow' : isLow n = true := by
      simp only [isLow, Bool.and_eq_true, decide_eq_true_eq]
      exact hlow
    rw [hends, hlow', hc, List.dropLast_concat, Option.map_some, Option.getD_some]
    refine joined_concat htoks (List.isChain_append.mp h).1 (.inr ?_)
    rw [hpair]
    omega
  · next hjoin =>
    have hjoin : (endsHigh text && isLow n) = false := Bool.eq_false_iff.mpr hjoin
    rw [hjoin, Bool.not_false, Bool.true_and]
    refine ⟨htoks, unsplit_concat h ?_, by rw [endsHigh_concat, hval]⟩
    rw [hval, ← Bool.and_eq_true, hjoin]
    exact Bool.false_ne_true

theorem unsplit_concat_toks {toks : List Token} (htoks : ∀ u, .str u ∈ toks → Unsplit u) {t : Token}
    (ht : ∀ u, t = .str u → Unsplit u) : ∀ u, .str u ∈ toks ++ [t] → Unsplit u := by
  intro u hu
  rcases List.mem_append.mp hu with hu | hu
  · exact htoks u hu
  · exact ht u (List.mem_singleton.mp hu).symm

theorem enter_joined {toks : List Token} {c : CodePoint} {st : LexState} (htoks : ∀ u, .str u ∈ toks → Unsplit u)
    (h : enter toks c = some st) : Joined st := by
  unfold enter at h
  split at h
  · cases h
    exact htoks
  split at h
  · cases h
    exact ⟨htoks, List.isChain_nil, rfl⟩
  split at h
  · cases h
    exact htoks
  · obtain ⟨t, ht, rfl⟩ := Option.map_eq_some_iff.mp h
    refine unsplit_concat_toks htoks fun u hu => ?_
    subst hu
    unfold punctuation at ht
    split_ifs at ht <;> cases ht

theorem hexValue_lt {c : CodePoint} {d : Nat} (h : hexValue c = some d) : d < 16 := by
  unfold hexValue at h
  split_ifs at h with h1 h2 h3 <;> cases h
  · simp only [Interp.asciiDigit, Bool.and_eq_true, decide_eq_true_eq] at h1
    omega
  · simp only [Bool.and_eq_true, decide_eq_true_eq] at h2
    omega
  · simp only [Bool.and_eq_true, decide_eq_true_eq] at h3
    omega

/-- Four hexadecimal digits are a code unit. -/
theorem hexUnit_lt {digits : List Nat} (hlen : digits.length ≤ 4) (h : ∀ d ∈ digits, d < 16) :
    digits.foldl (fun n d => 16 * n + d) 0 < 0x10000 := by
  have hbound : ∀ (ds : List Nat) (n : Nat), (∀ d ∈ ds, d < 16) →
      ds.foldl (fun n d => 16 * n + d) n < 16 ^ ds.length * (n + 1) := by
    intro ds
    induction ds with
    | nil => intro n _; simp
    | cons d ds ih =>
      intro n hds
      have hd := hds d List.mem_cons_self
      refine (ih _ fun e he => hds e (List.mem_cons_of_mem _ he)).trans_le ?_
      have hnext : 16 * n + d + 1 ≤ 16 * (n + 1) := by omega
      rw [List.length_cons, Nat.pow_succ, Nat.mul_assoc]
      exact Nat.mul_le_mul_left _ hnext
  refine (hbound digits 0 h).trans_le ?_
  rw [Nat.zero_add, Nat.mul_one]
  exact Nat.pow_le_pow_right (by omega) hlen

/-- **One character that is no surrogate.** -/
theorem lexStep_joined {st st' : LexState} {c : CodePoint} (hc : NotSurrogate c.val) (hst : Joined st)
    (h : lexStep F st c = some st') : Joined st' := by
  obtain ⟨toks, mode⟩ := st
  cases mode with
  | between => exact enter_joined hst h
  | scalar text =>
    simp only [lexStep] at h
    split at h
    · cases h
      exact hst
    · obtain ⟨t, ht, henter⟩ := Option.bind_eq_some_iff.mp h
      exact enter_joined (unsplit_concat_toks hst fun u hu => absurd hu ((scalarToken_readable ht).2 u)) henter
  | string text high =>
    obtain ⟨htoks, htext, hhigh⟩ := hst
    simp only [lexStep, lexString] at h
    split at h
    · cases h
      refine unsplit_concat_toks htoks fun u hu => ?_
      cases hu
      exact htext
    split at h
    · cases h
      exact ⟨htoks, htext, hhigh⟩
    split at h
    · cases h
    · cases h
      exact joined_concat htoks htext hc
  | escape text high =>
    obtain ⟨htoks, htext, hhigh⟩ := hst
    simp only [lexStep, lexEscape] at h
    split at h
    · cases h
      exact ⟨htoks, ⟨htext, hhigh⟩, by simp, by simp⟩
    · obtain ⟨d, hd, rfl⟩ := Option.map_eq_some_iff.mp h
      exact joined_concat htoks htext (unescape_notSurrogate hd)
  | hex text high digits =>
    obtain ⟨htoks, ⟨htext, rfl⟩, hlen, hdigits⟩ := hst
    simp only [lexStep, lexHex] at h
    obtain ⟨d, hd, rfl⟩ := Option.map_eq_some_iff.mp h
    have hall : ∀ e ∈ digits ++ [d], e < 16 := by
      intro e he
      rcases List.mem_append.mp he with he | he
      · exact hdigits e he
      · exact List.mem_singleton.mp he ▸ hexValue_lt hd
    split
    · next hshort => exact ⟨htoks, ⟨htext, rfl⟩, by rw [List.length_append, List.length_singleton]; omega, hall⟩
    · exact joined_addUnit htoks htext (hexUnit_lt (by rw [List.length_append, List.length_singleton]; omega) hall)

theorem lexRun_joined {s : Str} (hs : ∀ c ∈ s, NotSurrogate c.val) {st st' : LexState} (hst : Joined st)
    (h : lexRun F st s = some st') : Joined st' := by
  induction s generalizing st with
  | nil =>
    cases h
    exact hst
  | cons c s ih =>
    rw [lexRun_cons] at h
    obtain ⟨st₁, hstep, hrun⟩ := Option.bind_eq_some_iff.mp h
    exact ih (fun d hd => hs d (List.mem_cons_of_mem _ hd)) (lexStep_joined (hs c List.mem_cons_self) hst hstep) hrun

/-- **What is read from a text without surrogates can be written.** -/
theorem loads_encodable {s : Str} (hs : ∀ c ∈ s, NotSurrogate c.val) {v : Json} (h : loads F s = some v) :
    Over Encodable v := by
  obtain ⟨toks, hlex, hparse⟩ := Option.bind_eq_some_iff.mp h
  have hunsplit : ∀ u, .str u ∈ toks → Unsplit u := by
    obtain ⟨⟨toks', mode⟩, hrun, hend⟩ := Option.bind_eq_some_iff.mp hlex
    have hempty : Joined ([], .between) := fun u hu => absurd hu List.not_mem_nil
    have hjoined := lexRun_joined hs hempty hrun
    cases mode with
    | between =>
      cases hend
      exact hjoined
    | scalar text =>
      obtain ⟨t, ht, rfl⟩ := Option.map_eq_some_iff.mp hend
      exact unsplit_concat_toks hjoined fun u hu => absurd hu ((scalarToken_readable ht).2 u)
    | string | escape | hex => cases hend
  exact parse_over (fun t ht => ⟨(lex_within hlex t ht).1, fun u hu => hunsplit u (hu ▸ ht)⟩) hparse

end Py
