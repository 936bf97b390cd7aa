import RideTheApi.Py.Text

/-!
# `Py.Interp` — the interpreter's character tables and renderings

What the code asks of Unicode beyond ASCII, and the text Python gives floats and containers, is fixed by
the interpreter and used here through its interface. ASCII is spelled out.
-/

namespace Py

/-- The tables of a Python interpreter that depend on more than ASCII. -/
structure Interp where
  /-- A non-ASCII code point that `\w` matches. -/
  word : CodePoint → Bool
  /-- A non-ASCII code point for which `isdigit` holds. -/
  digit : CodePoint → Bool
  /-- The value of a non-ASCII decimal digit, for `int`. -/
  decimal : CodePoint → Option Nat
  /-- `lower` of a non-ASCII code point. -/
  lower : CodePoint → Str
  /-- `str` of a float. -/
  floatStr : BitVec 64 → Str
  /-- `str` of a list or a dict. -/
  containerStr : Json → Str

/-- The most digits of an integer that is converted from or to text. -/
def maxStrDigits : Nat := 4300

namespace Interp

variable (I : Interp)

/-- An ASCII decimal digit. -/
def asciiDigit (c : CodePoint) : Bool := 0x30 ≤ c.val && c.val ≤ 0x39

/-- An ASCII upper-case letter. -/
def asciiUpper (c : CodePoint) : Bool := 0x41 ≤ c.val && c.val ≤ 0x5a

/-- An ASCII lower-case letter. -/
def asciiLower (c : CodePoint) : Bool := 0x61 ≤ c.val && c.val ≤ 0x7a

/-- `\w`. -/
def isWord (c : CodePoint) : Bool :=
  if c.val < 0x80 then asciiDigit c || asciiUpper c || asciiLower c || c == cp '_' else I.word c

/-- `c.isdigit()`. -/
def isDigit (c : CodePoint) : Bool := if c.val < 0x80 then asciiDigit c else I.digit c

/-- The value of a digit in `int(s)`. -/
def digitValue (c : CodePoint) : Option Nat :=
  if c.val < 0x80 then if asciiDigit c then some (c.val - 0x30) else none else I.decimal c

/-- `s.isdigit()`. -/
def strIsDigit (s : Str) : Bool := !s.isEmpty && s.all I.isDigit

/-- `int(s)` for a string of digits; a digit without a decimal value raises, and so do too many. -/
def parseDigits (s : Str) : Result Nat :=
  if maxStrDigits < s.length then .error .valueError
  else s.foldlM (fun n c => match I.digitValue c with
    | some d => .ok (10 * n + d)
    | none   => .error .valueError) 0

/-- `s.lower()`. -/
def lowerStr (s : Str) : Str :=
  s.flatMap fun c =>
    if c.val < 0x80 then [if asciiUpper c then Fin.ofNat 0x110000 (c.val + 0x20) else c] else I.lower c

end Interp

/-- An interpreter that knows ASCII only, for concrete runs. -/
def asciiInterp : Interp where
  word _ := false
  digit _ := false
  decimal _ := none
  lower c := [c]
  floatStr _ := []
  containerStr _ := []

end Py
