import Mathlib.Data.List.Infix
import RideTheApi.Py.Interp

/-!
# `Engine.Placeholder` — the placeholders of templates and formulas

`_RE_TEMPLATE_VAR` is `\{state\.(\w+)\}|\{request\.(\w+(?:\.\w+)*)\}|\{uuid\}`, and `_RE_FORMULA_VAR` the same without its last
alternative. The three alternatives start differently and a closing brace is no word character, so a match
at a position is unique and needs no backtracking. `pieces` splits a text into characters and matched
placeholders, left to right, as `re.sub` does.
-/

namespace RideTheApi.Engine

open Py

/-- A matched placeholder. -/
inductive Placeholder where
  | state (name : Str)
  | request (path : Str)
  | uuid
deriving Repr, DecidableEq

/-- A piece of a text. -/
inductive Piece where
  | char (c : CodePoint)
  | var (p : Placeholder)
deriving Repr, DecidableEq

/-- A name closed by a brace, after the opening text: `make` of the longest run of `ok` characters, when
    it is acceptable and a closing brace follows, with what follows the brace. -/
def closedName (ok : CodePoint → Bool) (acceptable : Str → Bool) (make : Str → Placeholder) (s : Str) :
    Option (Placeholder × Str) :=
  match s.span ok with
  | (name, c :: rest) => if c = cp '\x7d' ∧ acceptable name then some (make name, rest) else none
  | (_, [])           => none

/-- A match of the template regex at the start of the text, with the text after it. -/
def matchVar (I : Interp) (s : Str) : Option (Placeholder × Str) :=
  if s.startsWith "\x7bstate." then
    closedName I.isWord (fun name => !name.isEmpty) .state (s.drop 7)
  else if s.startsWith "\x7brequest." then
    closedName (fun c => I.isWord c || c == cp '.')
      (fun path => (path.split (cp '.')).all fun seg => !seg.isEmpty) .request (s.drop 9)
  else if s.startsWith "\x7buuid\x7d" then some (.uuid, s.drop 6)
  else none

/-- Split a text into characters and matches; `skip` characters still belong to the last match. -/
def scanPieces (find : Str → Option (Placeholder × Str)) : Nat → Str → List Piece
  | _,        []      => []
  | skip + 1, _ :: cs => scanPieces find skip cs
  | 0,        c :: cs =>
    match find (c :: cs) with
    | some (p, rest) => .var p :: scanPieces find (cs.length - rest.length) cs
    | none           => .char c :: scanPieces find 0 cs

/-- The pieces of a template text. -/
def pieces (I : Interp) (s : Str) : List Piece := scanPieces (matchVar I) 0 s

/-- The placeholders of a list of pieces. -/
def placeholdersOf (ps : List Piece) : List Placeholder :=
  ps.filterMap fun
    | .var p  => some p
    | .char _ => none

/-- The placeholder a text consists of, if it is exactly one (`fullmatch`). -/
def wholeVar (I : Interp) (s : Str) : Option Placeholder :=
  match pieces I s with
  | [.var p] => some p
  | _        => none

/-- The text may contain a placeholder: the test that comes before the regex. -/
def mayHaveVars (s : Str) : Bool :=
  s.includes "\x7bstate." || s.includes "\x7brequest." || s.includes "\x7buuid\x7d"

/-! ## Matches consume text -/

section
variable {I : Interp} {find : Str → Option (Placeholder × Str)} {s : Str}

theorem closedName_length {ok : CodePoint → Bool} {acceptable : Str → Bool} {make : Str → Placeholder}
    {p : Placeholder} {rest : Str} (h : closedName ok acceptable make s = some (p, rest)) :
    rest.length < s.length := by
  unfold closedName at h
  split at h
  next name c rest' hspan =>
    split at h
    next =>
      cases h
      have hs : s = name ++ c :: rest := by
        have hspan' := List.span_eq_takeWhile_dropWhile ok s
        rw [hspan] at hspan'
        rw [(Prod.mk.inj hspan').1, (Prod.mk.inj hspan').2, List.takeWhile_append_dropWhile]
      rw [hs, List.length_append, List.length_cons]
      omega
    next => cases h
  next => cases h

/-- A match starts with a marker and is longer than one character. -/
theorem matchVar_some {p : Placeholder} {rest : Str} (h : matchVar I s = some (p, rest)) :
    (s.startsWith "\x7bstate." ∨ s.startsWith "\x7brequest." ∨ s.startsWith "\x7buuid\x7d") ∧
      rest.length + 2 ≤ s.length := by
  unfold matchVar at h
  split at h
  next hstart =>
    have hlen := closedName_length h
    rw [List.length_drop] at hlen
    exact ⟨.inl hstart, by omega⟩
  next =>
    split at h
    next hstart =>
      have hlen := closedName_length h
      rw [List.length_drop] at hlen
      exact ⟨.inr (.inl hstart), by omega⟩
    next =>
      split at h
      next hstart =>
        cases h
        have hpre : (str "\x7buuid\x7d").length ≤ s.length :=
          (List.isPrefixOf_iff_prefix.mp hstart).length_le
        have h6 : (str "\x7buuid\x7d").length = 6 := by decide
        refine ⟨.inr (.inr hstart), ?_⟩
        rw [List.length_drop]
        omega
      next => cases h

theorem placeholdersOf_char (c : CodePoint) (ps : List Piece) :
    placeholdersOf (.char c :: ps) = placeholdersOf ps := rfl

theorem placeholdersOf_var (p : Placeholder) (ps : List Piece) :
    placeholdersOf (.var p :: ps) = p :: placeholdersOf ps := rfl

/-- Without a match a text is its characters. -/
theorem scanPieces_eq_chars (h : placeholdersOf (scanPieces find 0 s) = []) :
    scanPieces find 0 s = s.map .char := by
  induction s with
  | nil => rfl
  | cons c cs ih =>
    rw [scanPieces] at h ⊢
    split at h
    next => simp [placeholdersOf_var] at h
    next =>
      rw [placeholdersOf_char] at h
      rw [List.map_cons, ih h]

/-- There are at most as many pieces as characters, and fewer when something matches. -/
theorem scanPieces_length (hfind : ∀ {s p rest}, find s = some (p, rest) → rest.length + 2 ≤ s.length)
    (k : Nat) : (scanPieces find k s).length ≤ s.length - k ∧
      (placeholdersOf (scanPieces find k s) ≠ [] → (scanPieces find k s).length < s.length - k) := by
  induction s generalizing k with
  | nil => cases k <;> simp [scanPieces, placeholdersOf]
  | cons c cs ih =>
    cases k with
    | succ k =>
      rw [scanPieces]
      obtain ⟨h1, h2⟩ := ih k
      refine ⟨by simpa using h1, fun h => by simpa using h2 h⟩
    | zero =>
      rw [scanPieces]
      split
      next p rest hp =>
        have hlen := hfind hp
        obtain ⟨h1, _⟩ := ih (cs.length - rest.length)
        simp only [List.length_cons] at hlen ⊢
        exact ⟨by omega, fun _ => by omega⟩
      next =>
        obtain ⟨h1, h2⟩ := ih 0
        rw [placeholdersOf_char]
        simp only [List.length_cons]
        exact ⟨by omega, fun h => by have := h2 h; omega⟩

/-- A match is found at some tail of the text. -/
theorem exists_tail_of_placeholder {k : Nat} (h : placeholdersOf (scanPieces find k s) ≠ []) :
    ∃ t ∈ s.tails, ∃ r, find t = some r := by
  induction s generalizing k with
  | nil => cases k <;> simp [scanPieces, placeholdersOf] at h
  | cons c cs ih =>
    have hcs : ∀ {k}, placeholdersOf (scanPieces find k cs) ≠ [] →
        ∃ t ∈ (c :: cs).tails, ∃ r, find t = some r := by
      intro k hk
      obtain ⟨t, ht, hr⟩ := ih hk
      have hsuffix : t <:+ c :: cs := ((List.mem_tails _ _).mp ht).trans (List.suffix_cons c cs)
      exact ⟨t, (List.mem_tails _ _).mpr hsuffix, hr⟩
    cases k with
    | succ k => exact hcs (by simpa [scanPieces] using h)
    | zero =>
      rw [scanPieces] at h
      split at h
      next r hr => exact ⟨c :: cs, by simp, _, hr⟩
      next =>
        rw [placeholdersOf_char] at h
        exact hcs h

/-- The test before the regex lets every text with a match through. -/
theorem mayHaveVars_of_placeholder (h : placeholdersOf (pieces I s) ≠ []) : mayHaveVars s = true := by
  obtain ⟨t, ht, ⟨p, rest⟩, hmatch⟩ := exists_tail_of_placeholder h
  have hmem : ∀ {m : Str}, Str.startsWith t m = true → s.includes m = true :=
    fun hm => List.any_eq_true.mpr ⟨t, ht, hm⟩
  unfold mayHaveVars
  rcases (matchVar_some hmatch).1 with hm | hm | hm <;> simp [hmem hm]

end

end RideTheApi.Engine
