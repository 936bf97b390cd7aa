import Mathlib.Algebra.BigOperators.Group.List.Basic
import Mathlib.Algebra.Order.BigOperators.Group.List
import Mathlib.Algebra.Order.Field.Basic
import Mathlib.Tactic.Linarith
import Mathlib.Tactic.Positivity

/-!
# `Lib.WeightedMean` — weighted means of credits in `[0, 1]`

A **dimension** is a weight with a credit. The mean of a list of dimensions is the weight gained over
the weight at stake. Once a prefix of the dimensions is scored, full credit on the rest bounds the mean
from above and no credit on the rest bounds it from below, which is what lets a scorer stop early.
-/

namespace WeightedMean

universe u

section
variable {K : Type u} [Field K]

/-- The weight at stake. -/
def total (ds : List (K × K)) : K := (ds.map Prod.fst).sum

/-- The weight gained: each weight times its credit. -/
def gained (ds : List (K × K)) : K := (ds.map fun d => d.1 * d.2).sum

/-- The weighted mean of the credits. -/
def mean (ds : List (K × K)) : K := gained ds / total ds

@[simp] theorem total_nil : total ([] : List (K × K)) = 0 := rfl
@[simp] theorem gained_nil : gained ([] : List (K × K)) = 0 := rfl

@[simp] theorem total_cons (d : K × K) (ds : List (K × K)) : total (d :: ds) = d.1 + total ds := by
  simp [total]

@[simp] theorem gained_cons (d : K × K) (ds : List (K × K)) :
    gained (d :: ds) = d.1 * d.2 + gained ds := by
  simp [gained]

@[simp] theorem total_append (xs ys : List (K × K)) : total (xs ++ ys) = total xs + total ys := by
  simp [total]

@[simp] theorem gained_append (xs ys : List (K × K)) : gained (xs ++ ys) = gained xs + gained ys := by
  simp [gained]

end

section
variable {K : Type u} [Field K] [LinearOrder K]

/-- Weights are nonnegative and credits lie in `[0, 1]`. -/
def Valid (ds : List (K × K)) : Prop := ∀ d ∈ ds, 0 ≤ d.1 ∧ 0 ≤ d.2 ∧ d.2 ≤ 1

theorem Valid.append {xs ys : List (K × K)} (hx : Valid xs) (hy : Valid ys) : Valid (xs ++ ys) := by
  intro d hd
  rcases List.mem_append.mp hd with hd | hd
  · exact hx d hd
  · exact hy d hd

variable [IsStrictOrderedRing K]

/-- No weight is negative in total. -/
theorem Valid.total_nonneg {ds : List (K × K)} (h : Valid ds) : 0 ≤ total ds := by
  refine List.sum_nonneg fun x hx => ?_
  obtain ⟨d, hd, rfl⟩ := List.mem_map.mp hx
  exact (h d hd).1

/-- What is gained is nonnegative. -/
theorem Valid.gained_nonneg {ds : List (K × K)} (h : Valid ds) : 0 ≤ gained ds := by
  refine List.sum_nonneg fun x hx => ?_
  obtain ⟨d, hd, rfl⟩ := List.mem_map.mp hx
  exact mul_nonneg (h d hd).1 (h d hd).2.1

/-- What is gained is at most what is at stake. -/
theorem Valid.gained_le_total {ds : List (K × K)} (h : Valid ds) : gained ds ≤ total ds := by
  refine List.sum_le_sum fun d hd => ?_
  obtain ⟨hw, _, hc⟩ := h d hd
  exact mul_le_of_le_one_right hw hc

/-- **The mean lies in `[0, 1]`.** -/
theorem Valid.mean_mem {ds : List (K × K)} (h : Valid ds) : 0 ≤ mean ds ∧ mean ds ≤ 1 :=
  ⟨div_nonneg h.gained_nonneg h.total_nonneg,
    div_le_one_of_le₀ h.gained_le_total h.total_nonneg⟩

/-- Full credit on the unscored dimensions bounds the mean from above. -/
theorem mean_append_le {xs ys : List (K × K)} (hx : Valid xs) (hy : Valid ys) :
    mean (xs ++ ys) ≤ (gained xs + total ys) / total (xs ++ ys) := by
  have hw := (hx.append hy).total_nonneg
  have hg := hy.gained_le_total
  refine div_le_div_of_nonneg_right ?_ hw
  rw [gained_append]
  linarith

end
end WeightedMean
