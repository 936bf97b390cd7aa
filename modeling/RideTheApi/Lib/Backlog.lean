import Mathlib.Algebra.BigOperators.Intervals
import Mathlib.Algebra.Order.BigOperators.Group.Finset

/-!
# `Lib.Backlog` — what waits in a queue that is served a fixed amount at each step

The backlog at a step is within a bound exactly when no stretch of steps up to it adds more than the steps of the
stretch serve and the bound leaves over.
-/

namespace Backlog

open Finset

/-- What waits when step `k` has added its own: each step before served up to `served` of what waited then. -/
def backlog (served : Nat) (added : Nat → Nat) : Nat → Nat
  | 0     => added 0
  | k + 1 => backlog served added k - served + added (k + 1)

variable {served : Nat} {added : Nat → Nat}

theorem backlog_succ (k : Nat) :
    backlog served added (k + 1) = backlog served added k - served + added (k + 1) := rfl

/-- Within a bound exactly when every stretch up to the step is. -/
theorem backlog_le_iff (k bound : Nat) :
    backlog served added k ≤ bound ↔ ∀ j ≤ k, ∑ i ∈ Icc j k, added i ≤ served * (k - j) + bound := by
  induction k generalizing bound with
  | zero =>
    constructor
    · intro h j hj
      obtain rfl : j = 0 := Nat.le_zero.mp hj
      simpa [backlog] using h
    · intro h
      simpa [backlog] using h 0 (Nat.le_refl _)
  | succ k ih =>
    rw [backlog_succ]
    constructor
    · intro h j hj
      rcases Nat.lt_or_ge k j with hlast | hj'
      · obtain rfl : j = k + 1 := by omega
        rw [Icc_self, sum_singleton, Nat.sub_self]
        omega
      · rw [sum_Icc_succ_top hj]
        have hstretch := (ih (served + (bound - added (k + 1)))).mp (by omega) j hj'
        have hserved : served * (k + 1 - j) = served * (k - j) + served := by
          rw [Nat.sub_add_comm hj', Nat.mul_succ]
        omega
    · intro h
      have hlast := h (k + 1) (Nat.le_refl _)
      rw [Icc_self, sum_singleton, Nat.sub_self] at hlast
      have hrest : backlog served added k ≤ served + (bound - added (k + 1)) := by
        rw [ih]
        intro j hj
        have hstretch := h j (by omega)
        have hserved : served * (k + 1 - j) = served * (k - j) + served := by
          rw [Nat.sub_add_comm hj, Nat.mul_succ]
        rw [sum_Icc_succ_top (by omega)] at hstretch
        omega
      omega

end Backlog
