import Mathlib.Data.List.Infix
import RideTheApi.Py.Text

/-!
# `Py.Fnmatch` — shell patterns

`fnmatch.translate`, and the match of a whole name: `*` is any text, `?` any character, `[…]` a character of a class, and
everything else itself. What is between the brackets of a class is read by the interpreter.
-/

namespace Py

/-- An item of a shell pattern. -/
inductive GlobItem where
  | any
  | one
  | oneOf (content : Str)
  | char (c : CodePoint)
deriving Repr, DecidableEq

/-- The content of a class whose bracket was read, and what follows it; a `]` right behind the bracket belongs to it. -/
def readClass (s : Str) : Option (Str × Str) :=
  let negation := if s.head? = some (cp '!') then [cp '!'] else []
  let rest := s.drop negation.length
  let bracket := if rest.head? = some (cp ']') then [cp ']'] else []
  let rest := rest.drop bracket.length
  match rest.dropWhile (· != cp ']') with
  | []         => none
  | _ :: after => some (negation ++ bracket ++ rest.takeWhile (· != cp ']'), after)

/-- The items of a pattern, at most so many. A bracket that is not closed is itself. -/
def readGlob : Nat → Str → List GlobItem
  | 0,        _      => []
  | _ + 1,    []     => []
  | fuel + 1, c :: s =>
    if c = cp '*' then .any :: readGlob fuel s
    else if c = cp '?' then .one :: readGlob fuel s
    else if c = cp '[' then
      match readClass s with
      | some (content, after) => .oneOf content :: readGlob fuel after
      | none                  => .char c :: readGlob fuel s
    else .char c :: readGlob fuel s

/-- `fnmatch.translate`. -/
def translateGlob (pattern : Str) : List GlobItem := readGlob pattern.length pattern

/-- `re.compile(translate(pattern)).match`; `inClass` reads the content of a class. -/
def globMatches (inClass : Str → CodePoint → Bool) : List GlobItem → Str → Bool
  | [],                     s      => s.isEmpty
  | .any :: items,          s      => s.tails.any (globMatches inClass items)
  | .one :: items,          _ :: s => globMatches inClass items s
  | .oneOf content :: items, c :: s => inClass content c && globMatches inClass items s
  | .char d :: items,       c :: s => c == d && globMatches inClass items s
  | _ :: _,                 []     => false

/-- A star matches everything. -/
theorem globMatches_star (inClass : Str → CodePoint → Bool) (s : Str) :
    globMatches inClass (translateGlob "*") s = true := by
  have hstar : translateGlob "*" = [.any] := rfl
  rw [hstar, globMatches, List.any_eq_true]
  exact ⟨[], List.mem_tails _ _ |>.mpr (List.nil_suffix), rfl⟩

end Py
