import Mathlib.Data.List.DropRight
import RideTheApi.Py.Value

/-!
# `Py.Text` — the string methods and dynamic operations the engine uses

Methods on `str` are list functions on code points. The dynamic operations (`len`, iteration, `in`) take
a JSON value and raise what Python raises on a value of the wrong type.
-/

namespace Py

/-- The exceptions the modelled code can meet. -/
inductive Exn where
  | typeError
  | attributeError
  | valueError
  | keyError
  | indexError
  | multipleResultsFound
  | other
deriving Repr, DecidableEq

/-- A Python computation: a value or an exception. -/
abbrev Result := Except Exn

namespace Str

/-- `s.startswith(p)`. -/
def startsWith (s p : Str) : Bool := p.isPrefixOf s

/-- `s.endswith(p)`. -/
def endsWith (s p : Str) : Bool := p.isSuffixOf s

/-- `s.strip(c)` for a single character `c`. -/
def strip (c : CodePoint) (s : Str) : Str := (s.dropWhile (· == c)).rdropWhile (· == c)

/-- `s.split(c)` for a single character `c`. -/
def split (c : CodePoint) (s : Str) : List Str := s.splitOn c

/-- `s.split(c, 1)[0]`. -/
def before (c : CodePoint) (s : Str) : Str := s.takeWhile (· != c)

/-- `s.replace(a, b)` for single characters `a` and `b`. -/
def replace (a b : CodePoint) (s : Str) : Str := s.map fun c => if c = a then b else c

/-- `p in s`. -/
def includes (s p : Str) : Bool := s.tails.any fun t => startsWith t p

/-- A whitespace character, as `strip()` sees it. -/
def isSpace (c : CodePoint) : Bool :=
  (0x09 ≤ c.val && c.val ≤ 0x0d) || (0x1c ≤ c.val && c.val ≤ 0x20) || (0x2000 ≤ c.val && c.val ≤ 0x200a) ||
    [0x85, 0xa0, 0x1680, 0x2028, 0x2029, 0x202f, 0x205f, 0x3000].contains c.val

/-- `s.strip()`. -/
def stripSpace (s : Str) : Str := (s.dropWhile isSpace).rdropWhile isSpace

/-- The first character after whitespace is not whitespace. -/
theorem stripSpace_head {s : Str} {c : CodePoint} {rest : Str} (h : s.stripSpace = c :: rest) :
    isSpace c = false := by
  obtain ⟨tail, htail⟩ := List.rdropWhile_prefix isSpace (s.dropWhile isSpace)
  have hdrop : s.dropWhile isSpace = c :: (rest ++ tail) := by
    rw [← htail]
    show s.stripSpace ++ tail = _
    rw [h]
    rfl
  have hagain := List.dropWhile_idempotent isSpace s
  rw [hdrop, List.dropWhile_cons] at hagain
  by_contra hc
  rw [if_pos (by simpa using hc)] at hagain
  have hlen := congrArg List.length hagain
  have hle := (List.dropWhile_suffix isSpace (l := rest ++ tail)).length_le
  rw [List.length_cons] at hlen
  omega

/-- Nothing is left of a text iff it is all whitespace. -/
theorem stripSpace_eq_nil_iff {s : Str} : s.stripSpace = [] ↔ ∀ c ∈ s, isSpace c = true := by
  constructor
  · intro h
    have hdrop : s.dropWhile isSpace = [] := by
      cases hdrop : s.dropWhile isSpace with
      | nil => rfl
      | cons c rest =>
        have hspace := List.rdropWhile_eq_nil_iff.mp h c (hdrop ▸ List.mem_cons_self)
        have hhead := List.head_dropWhile_not isSpace (by rw [hdrop]; exact List.cons_ne_nil _ _)
        simp only [hdrop, List.head_cons, hspace] at hhead
        cases hhead
    exact List.dropWhile_eq_nil_iff.mp hdrop
  · intro h
    unfold stripSpace
    rw [List.dropWhile_eq_nil_iff.mpr h]
    rfl

end Str

namespace Json

/-- `iter(v)`: the items of a list, the keys of a dict, the characters of a string. -/
def iter : Json → Result (List Json)
  | .arr xs  => .ok xs
  | .obj kvs => .ok (kvs.map fun kv => .str kv.1)
  | .str s   => .ok (s.map fun c => .str [c])
  | _        => .error .typeError

/-- `v in d` for a dict with string keys: an unhashable `v` raises, any other non-string is absent. -/
def memKeys (v : Json) (keys : List Str) : Result Bool :=
  match v with
  | .str s  => .ok (keys.contains s)
  | .arr _  => .error .typeError
  | .obj _  => .error .typeError
  | _       => .ok false

/-- `v.get("properties", v)`-style lookup: only a dict has `get`. -/
def getD (v : Json) (key : Str) (default : Json) : Result Json :=
  match v with
  | .obj kvs => .ok ((kvs.lookup key).getD default)
  | _        => .error .attributeError

/-- `v.get(key, [])`, read item by item. -/
def items (v : Json) (key : Str) : Result (List Json) := do
  let value ← v.getD key (.arr [])
  value.iter

/-- `text in v`. -/
def isIn (text : Str) : Json → Result Bool
  | .str s   => .ok (s.includes text)
  | .arr xs  => .ok (xs.contains (.str text))
  | .obj kvs => .ok (kvs.any fun kv => kv.1 == text)
  | _        => .error .typeError

/-- `v or default`. -/
def orElse (v default : Json) : Json := if v.truthy then v else default

end Json
end Py
