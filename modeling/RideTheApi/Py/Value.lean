import Mathlib.Algebra.GroupWithZero.Nat
import RideTheApi.Lib.JsonTree

/-!
# `Py.Value` — Python text and JSON values

Text is a list of code points, surrogates included: that is what a Python `str` holds, and what
`json.loads` can produce. A JSON value keeps Python's distinction between `int`, `float` and `bool`; a
float is carried by its IEEE-754 bit pattern, since nothing here computes with it. A `dict` is an
association list in insertion order.
-/

namespace Py

/-- A code point of a Python `str` (surrogates are code points too). -/
abbrev CodePoint := Fin 0x110000

/-- A Python `str`. -/
abbrev Str := List CodePoint

-- What numerals and comparisons of code points rest on, each found under one name in every module.
instance (priority := 2000) CodePoint.neZero : NeZero 0x110000 := ⟨by decide⟩
instance (priority := 2000) CodePoint.lawfulBEq : LawfulBEq CodePoint := inferInstance
instance (priority := 2000) Str.lawfulBEq : LawfulBEq Str := inferInstance

/-- The code point of a character. -/
def cp (c : Char) : CodePoint := Fin.ofNat 0x110000 c.toNat

/-- A Python string from a literal. -/
def str (s : String) : Str := s.toList.map cp

instance : Coe String Str := ⟨str⟩

/-- A JSON value as `json.loads` builds it. `None` is `null`. -/
abbrev Json := JsonTree Str Str

namespace Json

/-- Python truthiness of a JSON value. `+0.0` and `-0.0` are the falsy floats. -/
def truthy : Json → Bool
  | .null     => false
  | .bool b   => b
  | .int n    => n != 0
  | .float x  => x != 0 && x != 0x8000000000000000#64
  | .str s    => !s.isEmpty
  | .arr xs   => !xs.isEmpty
  | .obj kvs  => !kvs.isEmpty

end Json
end Py
