import Mathlib.Data.Rat.Defs
import RideTheApi.Py.JsonText

/-!
# `Py.Equal` — Python's `==` on JSON values

Numbers compare by value across `bool`, `int` and `float`; dictionaries compare as mappings.
-/

namespace Py

/-- The value of a finite float. -/
def floatValue (x : BitVec 64) : Option ℚ :=
  let exponent : Nat := x.toNat % 2 ^ 63 / 2 ^ 52
  let fraction : Nat := x.toNat % 2 ^ 52
  let magnitude : ℚ :=
    if exponent = 0 then fraction / 2 ^ 1074
    else (2 ^ 52 + fraction) * (2 : ℚ) ^ exponent / 2 ^ 1075
  if exponent = 2047 then none else some (if x.toNat < 2 ^ 63 then magnitude else -magnitude)

/-- The value of a number, unless it is a non-finite float. -/
def numValue : Json → Option ℚ
  | .bool b  => some (if b then 1 else 0)
  | .int n   => some n
  | .float x => floatValue x
  | _        => none

/-- Two floats that are the same infinity. -/
def sameInfinity : Json → Json → Bool
  | .float x, .float y => x == y && x.toNat % 2 ^ 63 / 2 ^ 52 == 2047 && x.toNat % 2 ^ 52 == 0
  | _, _ => false

mutual
/-- `a == b`. -/
def pyEq : Json → Json → Bool
  | .null,     .null     => true
  | .str s,    .str t    => s == t
  | .arr xs,   .arr ys   => pyEqList xs ys
  | .obj kvs,  .obj kvs' => kvs.length == kvs'.length && pyEqEntries kvs kvs'
  | .arr _,    _         => false
  | .obj _,    _         => false
  | a,         b         =>
    sameInfinity a b || match numValue a, numValue b with
      | some x, some y => x == y
      | _, _ => false
def pyEqList : List Json → List Json → Bool
  | [],      []      => true
  | x :: xs, y :: ys => pyEq x y && pyEqList xs ys
  | _,       _       => false
def pyEqEntries : List (Str × Json) → List (Str × Json) → Bool
  | [],            _    => true
  | (k, v) :: kvs, kvs' =>
    (match kvs'.lookup k with
      | some v' => pyEq v v'
      | none    => false) && pyEqEntries kvs kvs'
end

/-- `a == b` inside a container, where every `NaN` is the one object the reader makes: identity comes first. -/
def sameFloat (x y : BitVec 64) : Bool := (isNaN x && x == y) || pyEq (.float x) (.float y)

mutual
/-- `a is b or a == b`. -/
def eqItem : Json → Json → Bool
  | .float x, .float y  => sameFloat x y
  | .arr xs,  .arr ys   => eqItems xs ys
  | .obj kvs, .obj kvs' => kvs.length == kvs'.length && eqFields kvs kvs'
  | a,        b         => pyEq a b
def eqItems : List Json → List Json → Bool
  | [],      []      => true
  | x :: xs, y :: ys => eqItem x y && eqItems xs ys
  | _,       _       => false
def eqFields : List (Str × Json) → List (Str × Json) → Bool
  | [],            _    => true
  | (k, v) :: kvs, kvs' =>
    (match kvs'.lookup k with
      | some v' => eqItem v v'
      | none    => false) && eqFields kvs kvs'
end

/-- A value that a set takes. -/
def hashable : Json → Result Json
  | .arr _ => .error .typeError
  | .obj _ => .error .typeError
  | v      => .ok v

theorem hashable_ok {v w : Json} (h : hashable v = .ok w) : w = v := by
  cases v <;> cases h <;> rfl

theorem pyEq_str {s : Str} {v : Json} : pyEq (.str s) v = true ↔ v = .str s := by
  cases v with
  | str t =>
    unfold pyEq
    rw [beq_iff_eq, JsonTree.str.injEq, eq_comm]
  | _ => simp [pyEq, sameInfinity, numValue]

/-- An id is found among texts iff it is one of them. -/
theorem any_pyEq (texts : List Str) (v : Json) :
    ((texts.map JsonTree.str : List Json).any fun known => pyEq known v) = true ↔ ∃ t ∈ texts, v = .str t := by
  rw [List.any_map, List.any_eq_true]
  exact exists_congr fun t => and_congr_right fun _ => pyEq_str

end Py
