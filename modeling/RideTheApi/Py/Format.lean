import Mathlib.Data.Nat.Digits.Defs
import RideTheApi.Lib.Except
import RideTheApi.Py.Interp

/-!
# `Py.Format` — `str` and `json.dumps`

The text of a value. `json.dumps` escapes everything outside printable ASCII, and a code point beyond the
basic plane as a surrogate pair. Text of an integer of more than 4300 digits raises.
-/

namespace Py

/-- The character of a digit below 16, lower case. -/
def hexChar (d : Nat) : CodePoint := Fin.ofNat 0x110000 (if d < 10 then 0x30 + d else 0x57 + d)

/-- The decimal digits of a natural number. -/
def natStr (n : Nat) : Str := if n = 0 then [hexChar 0] else (Nat.digits 10 n).reverse.map hexChar

/-- `str` of an `int`. -/
def intStr (n : Int) : Result Str :=
  if maxStrDigits < (Nat.digits 10 n.natAbs).length then .error .valueError
  else .ok (if n < 0 then cp '-' :: natStr n.natAbs else natStr n.natAbs)

/-- `\uXXXX`. -/
def escapeU4 (n : Nat) : Str :=
  [cp '\\', cp 'u', hexChar (n / 0x1000 % 16), hexChar (n / 0x100 % 16), hexChar (n / 0x10 % 16),
    hexChar (n % 16)]

/-- How `json.dumps` writes one code point inside a string. -/
def escapeChar (c : CodePoint) : Str :=
  if c = cp '"' then [cp '\\', cp '"']
  else if c = cp '\\' then [cp '\\', cp '\\']
  else if c.val = 0x0a then [cp '\\', cp 'n']
  else if c.val = 0x0d then [cp '\\', cp 'r']
  else if c.val = 0x09 then [cp '\\', cp 't']
  else if c.val = 0x0c then [cp '\\', cp 'f']
  else if c.val = 0x08 then [cp '\\', cp 'b']
  else if 0x20 ≤ c.val ∧ c.val ≤ 0x7e then [c]
  else if c.val < 0x10000 then escapeU4 c.val
  else escapeU4 (0xd800 + (c.val - 0x10000) / 0x400) ++ escapeU4 (0xdc00 + (c.val - 0x10000) % 0x400)

/-- `json.dumps` of a string. -/
def dumpsStr (s : Str) : Str := cp '"' :: (s.flatMap escapeChar ++ [cp '"'])

/-- Text between the items. -/
def joinWith (sep : Str) : List Str → Str
  | []      => []
  | [s]     => s
  | s :: ss => s ++ sep ++ joinWith sep ss

/-- `json.dumps` of a float: the names of the non-finite ones differ from `str`. -/
def dumpsFloat (I : Interp) (x : BitVec 64) : Str :=
  if x.toNat % 2 ^ 63 / 2 ^ 52 = 2047 then
    if x.toNat % 2 ^ 52 = 0 then (if x.toNat < 2 ^ 63 then "Infinity" else "-Infinity") else "NaN"
  else I.floatStr x

mutual
/-- `json.dumps`. -/
def dumps (I : Interp) : Json → Result Str
  | .null     => .ok "null"
  | .bool b   => .ok (if b then "true" else "false")
  | .int n    => intStr n
  | .float x  => .ok (dumpsFloat I x)
  | .str s    => .ok (dumpsStr s)
  | .arr xs   => do
    let items ← dumpsList I xs
    .ok (str "[" ++ joinWith ", " items ++ str "]")
  | .obj kvs  => do
    let items ← dumpsEntries I kvs
    .ok (str "\x7b" ++ joinWith ", " items ++ str "\x7d")
def dumpsList (I : Interp) : List Json → Result (List Str)
  | []      => .ok []
  | x :: xs => do
    let s ← dumps I x
    let ss ← dumpsList I xs
    .ok (s :: ss)
def dumpsEntries (I : Interp) : List (Str × Json) → Result (List Str)
  | []            => .ok []
  | (k, v) :: kvs => do
    let s ← dumps I v
    let ss ← dumpsEntries I kvs
    .ok ((dumpsStr k ++ str ": " ++ s) :: ss)
end

/-- `str(value)`. -/
def strOf (I : Interp) : Json → Result Str
  | .null     => .ok "None"
  | .bool b   => .ok (if b then "True" else "False")
  | .int n    => intStr n
  | .float x  => .ok (I.floatStr x)
  | .str s    => .ok s
  | v         => .ok (I.containerStr v)

end Py
