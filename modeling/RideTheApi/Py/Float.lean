import RideTheApi.Py.JsonText

/-!
# `Py.Float` — comparing floats

A float is its 64 bits. Two floats compare as sign and magnitude, both zeros alike; nothing compares with a
NaN. `maxFloat` is SQL's `MAX` over a column.
-/

namespace Py

/-- Sign and magnitude. -/
def floatKey (x : BitVec 64) : Int :=
  if x.toNat < 2 ^ 63 then (x.toNat : Int) else -((x.toNat - 2 ^ 63 : Nat) : Int)

/-- `x <= y`. -/
def floatLe (x y : BitVec 64) : Bool := !isNaN x && !isNaN y && floatKey x ≤ floatKey y

/-- `x < y`. -/
def floatLt (x y : BitVec 64) : Bool := !isNaN x && !isNaN y && floatKey x < floatKey y

/-- `MAX` over the values of a column. -/
def maxFloat : List (BitVec 64) → Option (BitVec 64)
  | []      => none
  | x :: xs =>
    match maxFloat xs with
    | none   => some x
    | some m => if floatLe x m then some m else some x

variable {x y z : BitVec 64}

theorem floatLe_iff : floatLe x y = true ↔ isNaN x = false ∧ isNaN y = false ∧ floatKey x ≤ floatKey y := by
  simp [floatLe, and_assoc]

theorem floatLt_iff : floatLt x y = true ↔ isNaN x = false ∧ isNaN y = false ∧ floatKey x < floatKey y := by
  simp [floatLt, and_assoc]

/-- Numbers compare one way or the other. -/
theorem floatLt_eq_false_iff (hx : isNaN x = false) (hy : isNaN y = false) :
    floatLt x y = false ↔ floatLe y x = true := by
  rw [Bool.eq_false_iff, ne_eq, floatLt_iff, floatLe_iff]
  constructor
  · intro h
    exact ⟨hy, hx, not_lt.mp fun hlt => h ⟨hx, hy, hlt⟩⟩
  · rintro ⟨_, _, hle⟩ ⟨_, _, hlt⟩
    exact not_lt.mpr hle hlt

theorem floatLe_trans (hxy : floatLe x y = true) (hyz : floatLe y z = true) : floatLe x z = true := by
  rw [floatLe_iff] at hxy hyz ⊢
  exact ⟨hxy.1, hyz.2.1, le_trans hxy.2.2 hyz.2.2⟩

/-- **A bound is reached by the maximum iff some value reaches it.** -/
theorem maxFloat_reaches {xs : List (BitVec 64)} (hxs : ∀ x ∈ xs, isNaN x = false) :
    (∃ m, maxFloat xs = some m ∧ floatLe z m = true) ↔ ∃ x ∈ xs, floatLe z x = true := by
  induction xs with
  | nil => simp [maxFloat]
  | cons x xs ih =>
    have hrest := ih fun y hy => hxs y (List.mem_cons_of_mem _ hy)
    have hx := hxs x List.mem_cons_self
    rw [List.exists_mem_cons_iff, ← hrest, maxFloat]
    cases hmax : maxFloat xs with
    | none => simp
    | some m =>
      have hsome : ∀ y, (∃ m', some y = some m' ∧ floatLe z m' = true) ↔ floatLe z y = true := by
        intro y
        constructor
        · rintro ⟨m', hm', hle⟩
          cases hm'
          exact hle
        · exact fun hle => ⟨y, rfl, hle⟩
      dsimp only
      rw [hsome m]
      by_cases hle : floatLe x m = true
      · rw [if_pos hle, hsome m]
        constructor
        · exact .inr
        · rintro (hzx | hzm)
          · exact floatLe_trans hzx hle
          · exact hzm
      · rw [if_neg hle, hsome x]
        constructor
        · exact .inl
        · rintro (hzx | hzm)
          · exact hzx
          · have hm := (floatLe_iff.mp hzm).2.1
            have hmx : floatLe m x = true := by
              rw [floatLe_iff] at hle ⊢
              exact ⟨hm, hx, le_of_lt (not_le.mp fun hkey => hle ⟨hx, hm, hkey⟩)⟩
            exact floatLe_trans hzm hmx

end Py
