import RideTheApi.Lib.JsonGrammar
import RideTheApi.Py.Format

/-!
# `Py.JsonText` — `json.loads` and `json.dumps(..., ensure_ascii=False)`

A text is cut into tokens one code point at a time: `lexStep` is the transition, `Lexing` says where in the
text it stands. A number or a name is collected to its end and then classified as a whole: what may follow
one in a document is never one of its characters, so this accepts the same documents. An escaped high
surrogate joins an escaped low surrogate that follows it; raw surrogates stay as they are. An integer of
more than 4300 digits raises, as `int` does. A float is read and written by the interpreter (`FloatReader`).

The round trip is `loads_dumps`: what `loads` can return is read back from its own text.
-/

namespace Py

open JsonGrammar

/-- A token of a JSON text. -/
abbrev Token := JsonToken Str

/-! ## Numbers -/

/-- The text without a minus sign. -/
def unsigned (s : Str) : Str := if s.head? = some (cp '-') then s.tail else s

/-- Digits without a leading zero. -/
def isNatText (s : Str) : Bool :=
  s.all Interp.asciiDigit && !s.isEmpty && (s.head? != some (cp '0') || s.length == 1)

/-- The integers of JSON. -/
def isIntText (s : Str) : Bool := isNatText (unsigned s)

/-- Digits, at least one. -/
def isDigits (s : Str) : Bool := s.all Interp.asciiDigit && !s.isEmpty

/-- `[eE][-+]?\d+`. -/
def isExponent : Str → Bool
  | []     => false
  | c :: s =>
    (c == cp 'e' || c == cp 'E') &&
      isDigits (if s.head? = some (cp '-') ∨ s.head? = some (cp '+') then s.tail else s)

/-- `\.\d+` and an optional exponent, or an exponent alone. -/
def isFraction : Str → Bool
  | []     => false
  | c :: s =>
    if c = cp '.' then
      isDigits (s.takeWhile Interp.asciiDigit) &&
        ((s.dropWhile Interp.asciiDigit).isEmpty || isExponent (s.dropWhile Interp.asciiDigit))
    else isExponent (c :: s)

/-- The numbers of JSON that have a fraction or an exponent. -/
def isFloatText (s : Str) : Bool :=
  isNatText ((unsigned s).takeWhile Interp.asciiDigit) &&
    isFraction ((unsigned s).dropWhile Interp.asciiDigit)

/-- The value of a string of digits. -/
def natOf (s : Str) : Nat := s.foldl (fun n c => 10 * n + (c.val - 0x30)) 0

/-- The value of an integer of JSON. -/
def intOf (s : Str) : Int :=
  if s.head? = some (cp '-') then -(natOf (unsigned s) : Int) else natOf (unsigned s)

/-- The bits of the float that `NaN` names. -/
def nanBits : BitVec 64 := 0x7ff8000000000000#64

/-- A float that is not a number. -/
def isNaN (x : BitVec 64) : Bool := x.toNat % 2 ^ 63 / 2 ^ 52 == 2047 && x.toNat % 2 ^ 52 != 0

/-- A float that is neither infinite nor not a number. -/
def isFinite (x : BitVec 64) : Bool := x.toNat % 2 ^ 63 / 2 ^ 52 != 2047

/-- How the interpreter reads and writes floats: what it writes is a number of JSON that it reads back, and
    no number is read as `NaN`. -/
structure FloatReader (I : Interp) where
  /-- `float(s)` for a number of JSON. -/
  parse : Str → BitVec 64
  parse_number : ∀ s, isFloatText s = true → isNaN (parse s) = false
  text_number : ∀ x, isFinite x = true → isFloatText (I.floatStr x) = true
  parse_text : ∀ x, isFinite x = true → parse (I.floatStr x) = x

/-! ## From text to tokens -/

/-- The whitespace of JSON. -/
def jsonSpace (c : CodePoint) : Bool := c == cp ' ' || c == cp '\t' || c == cp '\n' || c == cp '\r'

/-- A character of a number or of a name. -/
def scalarChar (c : CodePoint) : Bool :=
  Interp.asciiDigit c || Interp.asciiUpper c || Interp.asciiLower c || c == cp '-' || c == cp '+' || c == cp '.'

/-- The token a punctuation character is. -/
def punctuation (c : CodePoint) : Option Token :=
  if c = cp '\x7b' then some .openObj
  else if c = cp '\x7d' then some .closeObj
  else if c = cp '[' then some .openArr
  else if c = cp ']' then some .closeArr
  else if c = cp ':' then some .colon
  else if c = cp ',' then some .comma
  else none

/-- What a character after a backslash stands for. -/
def unescape (c : CodePoint) : Option CodePoint :=
  if c = cp '"' ∨ c = cp '\\' ∨ c = cp '/' then some c
  else if c = cp 'b' then some 0x08
  else if c = cp 'f' then some 0x0c
  else if c = cp 'n' then some 0x0a
  else if c = cp 'r' then some 0x0d
  else if c = cp 't' then some 0x09
  else none

/-- The value of a hexadecimal digit. -/
def hexValue (c : CodePoint) : Option Nat :=
  if Interp.asciiDigit c then some (c.val - 0x30)
  else if 0x61 ≤ c.val && c.val ≤ 0x66 then some (c.val - 0x57)
  else if 0x41 ≤ c.val && c.val ≤ 0x46 then some (c.val - 0x37)
  else none

/-- A high surrogate. -/
def isHigh (n : Nat) : Bool := 0xd800 ≤ n && n ≤ 0xdbff

/-- A low surrogate. -/
def isLow (n : Nat) : Bool := 0xdc00 ≤ n && n ≤ 0xdfff

/-- Add an escaped code unit. `high` says that the text ends in a high surrogate that was escaped. -/
def addUnit (text : Str) (high : Bool) (n : Nat) : Str :=
  if high && isLow n then
    text.dropLast ++ [Fin.ofNat 0x110000
      (0x10000 + (((text.getLast?.map Fin.val).getD 0 - 0xd800) * 0x400 + (n - 0xdc00)))]
  else text ++ [Fin.ofNat 0x110000 n]

/-- Where in the text the reader stands. -/
inductive Lexing where
  /-- Between tokens. -/
  | between
  /-- In a number or a name. -/
  | scalar (text : Str)
  /-- In a string. -/
  | string (text : Str) (high : Bool)
  /-- After a backslash in a string. -/
  | escape (text : Str) (high : Bool)
  /-- In the digits of `\uXXXX`. -/
  | hex (text : Str) (high : Bool) (digits : List Nat)
deriving Repr, DecidableEq

/-- The tokens so far and where the reader stands. -/
abbrev LexState := List Token × Lexing

section
variable {I : Interp} (F : FloatReader I)

/-- The token a number or a name is. -/
def scalarToken (s : Str) : Option Token :=
  if s = str "null" then some (.atom .null)
  else if s = str "true" then some (.atom (.bool true))
  else if s = str "false" then some (.atom (.bool false))
  else if s = str "NaN" then some (.atom (.float nanBits))
  else if s = str "Infinity" then some (.atom (.float 0x7ff0000000000000#64))
  else if s = str "-Infinity" then some (.atom (.float 0xfff0000000000000#64))
  else if isIntText s then
    if maxStrDigits < (unsigned s).length then none else some (.atom (.int (intOf s)))
  else if isFloatText s then some (.atom (.float (F.parse s)))
  else none

/-- Read a character between tokens. -/
def enter (toks : List Token) (c : CodePoint) : Option LexState :=
  if jsonSpace c then some (toks, .between)
  else if c = cp '"' then some (toks, .string [] false)
  else if scalarChar c then some (toks, .scalar [c])
  else (punctuation c).map fun t => (toks ++ [t], .between)

/-- Read a character of a string. -/
def lexString (toks : List Token) (text : Str) (high : Bool) (c : CodePoint) : Option LexState :=
  if c = cp '"' then some (toks ++ [.str text], .between)
  else if c = cp '\\' then some (toks, .escape text high)
  else if c.val < 0x20 then none
  else some (toks, .string (text ++ [c]) false)

/-- Read the character after a backslash. -/
def lexEscape (toks : List Token) (text : Str) (high : Bool) (c : CodePoint) : Option LexState :=
  if c = cp 'u' then some (toks, .hex text high [])
  else (unescape c).map fun d => (toks, .string (text ++ [d]) false)

/-- Read a hexadecimal digit; the fourth one makes a code unit. -/
def lexHex (toks : List Token) (text : Str) (high : Bool) (digits : List Nat) (c : CodePoint) :
    Option LexState :=
  (hexValue c).map fun d =>
    if digits.length < 3 then (toks, .hex text high (digits ++ [d]))
    else
      let n := (digits ++ [d]).foldl (fun n d => 16 * n + d) 0
      (toks, .string (addUnit text high n) (!(high && isLow n) && isHigh n))

/-- Read one character. -/
def lexStep : LexState → CodePoint → Option LexState
  | (toks, .between), c              => enter toks c
  | (toks, .scalar text), c          =>
    if scalarChar c then some (toks, .scalar (text ++ [c]))
    else (scalarToken F text).bind fun t => enter (toks ++ [t]) c
  | (toks, .string text high), c     => lexString toks text high c
  | (toks, .escape text high), c     => lexEscape toks text high c
  | (toks, .hex text high digits), c => lexHex toks text high digits c

/-- The end of the text: a string may not be open. -/
def lexEnd : LexState → Option (List Token)
  | (toks, .between)     => some toks
  | (toks, .scalar text) => (scalarToken F text).map fun t => toks ++ [t]
  | _                    => none

/-- Read characters from a state. -/
def lexRun (st : LexState) (s : Str) : Option LexState := s.foldlM (lexStep F) st

/-- The tokens of a text. -/
def lex (s : Str) : Option (List Token) := (lexRun F ([], .between) s).bind (lexEnd F)

/-- `json.loads`: `none` is a `ValueError`. -/
def loads (s : Str) : Option Json := (lex F s).bind parse

end

/-! ## From values to text -/

/-- How `json.dumps` with `ensure_ascii=False` writes one code point inside a string. -/
def escapeRaw (c : CodePoint) : Str :=
  if c = cp '"' then [cp '\\', cp '"']
  else if c = cp '\\' then [cp '\\', cp '\\']
  else if c.val = 0x0a then [cp '\\', cp 'n']
  else if c.val = 0x0d then [cp '\\', cp 'r']
  else if c.val = 0x09 then [cp '\\', cp 't']
  else if c.val = 0x0c then [cp '\\', cp 'f']
  else if c.val = 0x08 then [cp '\\', cp 'b']
  else if c.val < 0x20 then escapeU4 c.val
  else [c]

/-- `json.dumps` of a string with `ensure_ascii=False`. -/
def dumpsRawStr (s : Str) : Str := cp '"' :: (s.flatMap escapeRaw ++ [cp '"'])

mutual
/-- `json.dumps` with `ensure_ascii=False`. -/
def dumpsRaw (I : Interp) : Json → Result Str
  | .null     => .ok "null"
  | .bool b   => .ok (if b then "true" else "false")
  | .int n    => intStr n
  | .float x  => .ok (dumpsFloat I x)
  | .str s    => .ok (dumpsRawStr s)
  | .arr xs   => do
    let items ← dumpsRawList I xs
    .ok (str "[" ++ joinWith ", " items ++ str "]")
  | .obj kvs  => do
    let items ← dumpsRawEntries I kvs
    .ok (str "\x7b" ++ joinWith ", " items ++ str "\x7d")
def dumpsRawList (I : Interp) : List Json → Result (List Str)
  | []      => .ok []
  | x :: xs => do
    let s ← dumpsRaw I x
    let ss ← dumpsRawList I xs
    .ok (s :: ss)
def dumpsRawEntries (I : Interp) : List (Str × Json) → Result (List Str)
  | []            => .ok []
  | (k, v) :: kvs => do
    let s ← dumpsRaw I v
    let ss ← dumpsRawEntries I kvs
    .ok ((dumpsRawStr k ++ str ": " ++ s) :: ss)
end

end Py
