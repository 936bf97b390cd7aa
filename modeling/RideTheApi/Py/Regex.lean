import RideTheApi.Py.Interp

/-!
# `Py.Regex` — a fragment of Python's regular expressions

Patterns without flags and repetitions: characters, classes of them, `^` and `$`, and groups of alternatives that do not
nest. `parse` reads such a pattern from its text, and answers nothing for any other text; `search` is `re.search`, as to
whether there is a match.
-/

namespace Py

/-- One character of a text, or an assertion about its place. -/
inductive Atom where
  | char (c : CodePoint)
  | oneOf (cs : Str)
  | start
  | finish
deriving Repr, DecidableEq

/-- An atom, or a group of alternatives. -/
inductive Item where
  | atom (a : Atom)
  | group (alternatives : List (List Atom))
deriving Repr, DecidableEq

/-- A pattern, one item after the other. -/
abbrev Regex := List Item

/-! ## Matching -/

/-- A place in a text: whether it is the first one, and the text from there. -/
abbrev Cursor := Bool × Str

/-- Where a match of the atom ends. `$` also matches before a newline that ends the text. -/
def Atom.step : Atom → Cursor → Option Cursor
  | .char c,   (_, d :: s)  => if c = d then some (false, s) else none
  | .oneOf cs, (_, d :: s)  => if d ∈ cs then some (false, s) else none
  | .start,    (true, s)    => some (true, s)
  | .finish,   (first, s)   => if s = [] ∨ s = [cp '\n'] then some (first, s) else none
  | _,         _            => none

/-- Where matches of the item end. -/
def Item.steps : Item → Cursor → List Cursor
  | .atom a,             p => (a.step p).toList
  | .group alternatives, p => alternatives.filterMap fun as => as.foldlM (fun p a => a.step p) p

namespace Regex

/-- Where matches of the pattern end. -/
def ends : Regex → Cursor → List Cursor
  | [],        p => [p]
  | i :: rest, p => (i.steps p).flatMap (ends rest)

/-- `re.search(pattern, s) is not None`. -/
def search (r : Regex) (s : Str) : Bool :=
  (ends r (true, s)).isEmpty = false || s.tails.tail.any fun t => (ends r (false, t)).isEmpty = false

/-! ## Reading a pattern -/

/-- Where the reader is within an atom or the opening of a group. -/
inductive Mode where
  | between
  | escaped
  | inClass (cs : Str)
  | opening (seen : Str)
deriving Repr, DecidableEq

/-- The items that were read, and the open group with the alternative that is being read. -/
structure Reading where
  items : List Item := []
  group : Option (List (List Atom) × List Atom) := none
  mode : Mode := .between
deriving Repr, DecidableEq

/-- One more atom. -/
def Reading.add (r : Reading) (a : Atom) : Reading :=
  match r.group with
  | none                     => { r with items := r.items ++ [.atom a], mode := .between }
  | some (alternatives, one) => { r with group := some (alternatives, one ++ [a]), mode := .between }

/-- A character that has a meaning of its own. -/
def isMeta (c : CodePoint) : Bool := (str ".^$*+?\x7b\x7d[]\\|()").contains c

/-- An ASCII letter or digit: behind a backslash it has a meaning of its own. -/
def isAsciiAlnum (c : CodePoint) : Bool := Interp.asciiDigit c || Interp.asciiUpper c || Interp.asciiLower c

/-- A metacharacter between two atoms. -/
def Reading.meta (r : Reading) (c : CodePoint) : Option Reading :=
  if c = cp '\\' then some { r with mode := .escaped }
  else if c = cp '[' then some { r with mode := .inClass [] }
  else if c = cp '^' then some (r.add .start)
  else if c = cp '$' then some (r.add .finish)
  else match r.group with
    | none                     => if c = cp '(' then some { r with mode := .opening [] } else none
    | some (alternatives, one) =>
      if c = cp '|' then some { r with group := some (alternatives ++ [one], []) }
      else if c = cp ')' then some { r with items := r.items ++ [.group (alternatives ++ [one])], group := none }
      else none

/-- The next character of a pattern. -/
def Reading.step (r : Reading) (c : CodePoint) : Option Reading :=
  match r.mode with
  | .between      => if isMeta c then r.meta c else some (r.add (.char c))
  | .escaped      => if isAsciiAlnum c then none else some (r.add (.char c))
  | .inClass cs   =>
    if c = cp ']' then if cs = [] then none else some (r.add (.oneOf cs))
    else if (str "^-\\[").contains c then none
    else some { r with mode := .inClass (cs ++ [c]) }
  | .opening seen =>
    if seen = [] ∧ c = cp '?' then some { r with mode := .opening [c] }
    else if seen = str "?" ∧ c = cp ':' then some { r with group := some ([], []), mode := .between }
    else none

/-- The pattern a text is, if it is one of the fragment. -/
def parse (text : Str) : Option Regex :=
  match text.foldlM Reading.step {} with
  | some { items, group := none, mode := .between } => some items
  | _                                                => none

/-! ## Escaping -/

/-- The characters `re.escape` puts a backslash before. -/
def isEscaped (c : CodePoint) : Bool := (str "()[]\x7b\x7d?*+-|^$\\.&~# \t\n\r\x0b\x0c").contains c

/-- `re.escape`. -/
def escape (s : Str) : Str := s.flatMap fun c => if isEscaped c then [cp '\\', c] else [c]

theorem isEscaped_of_isMeta {c : CodePoint} (h : isMeta c = true) : isEscaped c = true := by
  have hall : (str ".^$*+?\x7b\x7d[]\\|()").all isEscaped = true := by decide +kernel
  exact List.all_eq_true.mp hall c (List.contains_iff_mem.mp h)

theorem isAsciiAlnum_of_isEscaped {c : CodePoint} (h : isEscaped c = true) : isAsciiAlnum c = false := by
  have hall : (str "()[]\x7b\x7d?*+-|^$\\.&~# \t\n\r\x0b\x0c").all (fun d => !isAsciiAlnum d) = true := by
    decide +kernel
  simpa using List.all_eq_true.mp hall c (List.contains_iff_mem.mp h)

section
variable {r : Reading}

/-- An escaped character reads as itself. -/
theorem foldlM_escapeChar (h : r.mode = .between) (c : CodePoint) :
    (if isEscaped c then [cp '\\', c] else [c]).foldlM Reading.step r = some (r.add (.char c)) := by
  have hadd : Reading.add { r with mode := .escaped } (.char c) = r.add (.char c) := by
    unfold Reading.add
    cases r.group <;> rfl
  cases hesc : isEscaped c with
  | true =>
    have hslash : r.step (cp '\\') = some { r with mode := .escaped } := by
      unfold Reading.step
      rw [h]
      rfl
    have hchar : Reading.step { r with mode := .escaped } c = some (r.add (.char c)) := by
      show (if isAsciiAlnum c then none else some (Reading.add { r with mode := .escaped } (.char c))) = _
      rw [isAsciiAlnum_of_isEscaped hesc, hadd]
      rfl
    simp [hslash, hchar]
  | false =>
    have hmeta : isMeta c = false := by
      cases hmeta : isMeta c with
      | false => rfl
      | true => rw [isEscaped_of_isMeta hmeta] at hesc; cases hesc
    have hchar : r.step c = some (r.add (.char c)) := by
      unfold Reading.step
      rw [h, hmeta]
      rfl
    simp [hchar]

/-- **An escaped text reads as its characters.** -/
theorem foldlM_escape (items : List Item) (s : Str) :
    (escape s).foldlM Reading.step { items } = some { items := items ++ s.map fun c => .atom (.char c) } := by
  induction s generalizing items with
  | nil => simp [escape]
  | cons c s ih =>
    show List.foldlM Reading.step _ ((if isEscaped c then [cp '\\', c] else [c]) ++ escape s) = _
    rw [List.foldlM_append, foldlM_escapeChar rfl]
    show List.foldlM Reading.step { items := items ++ [.atom (.char c)] } (escape s) = _
    rw [ih]
    simp

end

/-! ## Searching -/

theorem ends_append (r r' : Regex) (p : Cursor) : ends (r ++ r') p = (ends r p).flatMap (ends r') := by
  induction r generalizing p with
  | nil => simp [ends]
  | cons i r ih =>
    show (i.steps p).flatMap (ends (r ++ r')) = ((i.steps p).flatMap (ends r)).flatMap (ends r')
    rw [List.flatMap_assoc, funext ih]

/-- Literal characters match a prefix. -/
theorem mem_ends_chars {s t : Str} {first : Bool} {p : Cursor} :
    p ∈ ends (s.map fun c => .atom (.char c)) (first, t) ↔
      ∃ rest, t = s ++ rest ∧ p = (first && s.isEmpty, rest) := by
  induction s generalizing t first with
  | nil => simp [ends]
  | cons c s ih =>
    cases t with
    | nil => simp [ends, Item.steps, Atom.step]
    | cons d t =>
      by_cases hcd : c = d
      · subst hcd
        have hsteps : ends ((c :: s).map fun c => .atom (.char c)) (first, c :: t) =
            ends (s.map fun c => .atom (.char c)) (false, t) := by
          simp [ends, Item.steps, Atom.step]
        rw [hsteps, ih]
        simp
      · have hsteps : ends ((c :: s).map fun c => .atom (.char c)) (first, d :: t) = [] := by
          simp [ends, Item.steps, Atom.step, hcd]
        rw [hsteps]
        simp [Ne.symm hcd]

/-- A pattern that begins with `^` is looked for at the start only. -/
theorem search_start (r : Regex) (s : Str) : search (.atom .start :: r) s = !(ends r (true, s)).isEmpty := by
  have hlater : ∀ t : Str, ends (.atom .start :: r) (false, t) = [] := fun _ => rfl
  have hfirst : ends (.atom .start :: r) (true, s) = ends r (true, s) := by
    simp [ends, Item.steps, Atom.step]
  unfold search
  rw [hfirst]
  cases ends r (true, s) <;> simp [hlater]

end Regex
end Py
