import Mathlib.Algebra.Order.Monoid.Unbundled.Basic
import Mathlib.Algebra.Order.Monoid.Defs
import Mathlib.Data.List.Chain

/-! Sums over the consecutive pairs of a list, such as the length of a path. -/

namespace Basis

variable {α : Type*} {K : Type*}

/-- The sum of the weights of all consecutive pairs. -/
def pairSum [AddZeroClass K] (weight : α → α → K) : List α → K
  | [] => 0
  | [_] => 0
  | first :: second :: rest => weight first second + pairSum weight (second :: rest)

@[simp]
theorem pairSum_nil [AddZeroClass K] (weight : α → α → K) : pairSum weight [] = 0 := rfl

@[simp]
theorem pairSum_singleton [AddZeroClass K] (weight : α → α → K) (element : α)
    : pairSum weight [element] = 0 :=
  rfl

theorem pairSum_cons_cons [AddZeroClass K] (weight : α → α → K) (first second : α)
    (rest : List α)
    : pairSum weight (first :: second :: rest)
      = weight first second + pairSum weight (second :: rest) :=
  rfl

/-- The consecutive pairs are those of the list with its own tail. -/
theorem pairSum_cons_eq_sum_zip [AddMonoid K] (weight : α → α → K) (first : α) (rest : List α)
    : pairSum weight (first :: rest)
      = (((first :: rest).zip rest).map fun pair => weight pair.1 pair.2).sum := by
  induction rest generalizing first with
  | nil => rfl
  | cons second later ih =>
      rw [pairSum_cons_cons, ih, List.zip_cons_cons, List.map_cons, List.sum_cons]

/-- A further element adds the pair it makes with the last one. -/
theorem pairSum_append_singleton [AddMonoid K] (weight : α → α → K) (elements : List α)
    (next : α)
    : pairSum weight (elements ++ [next])
      = pairSum weight elements
        + (elements.getLast?.map (fun last => weight last next)).getD 0 := by
  induction elements using pairSum.induct with
  | case1 => simp
  | case2 element => simp [pairSum_cons_cons]
  | case3 first second rest ih =>
      rw [List.cons_append, List.cons_append, pairSum_cons_cons, ← List.cons_append, ih,
        pairSum_cons_cons, add_assoc, List.getLast?_cons_cons]

section Comparison

variable [AddCommMonoid K] [PartialOrder K] [IsOrderedCancelAddMonoid K]

/-- Pointwise smaller weights have a smaller sum. -/
theorem pairSum_le_pairSum {lower upper : α → α → K}
    (below : ∀ first second, lower first second ≤ upper first second) (elements : List α)
    : pairSum lower elements ≤ pairSum upper elements := by
  induction elements using pairSum.induct with
  | case1 => exact le_rfl
  | case2 element => exact le_rfl
  | case3 first second rest ih =>
      rw [pairSum_cons_cons, pairSum_cons_cons]
      exact add_le_add (below first second) ih

/-- The sums of pointwise smaller weights agree exactly when they agree at every pair. -/
theorem pairSum_eq_iff_of_le {lower upper : α → α → K}
    (below : ∀ first second, lower first second ≤ upper first second) (elements : List α)
    : pairSum lower elements = pairSum upper elements
      ↔ elements.IsChain (fun first second => lower first second = upper first second) := by
  induction elements using pairSum.induct with
  | case1 => simp
  | case2 element => simp
  | case3 first second rest ih =>
      rw [pairSum_cons_cons, pairSum_cons_cons, List.isChain_cons_cons, ← ih]
      exact add_eq_add_iff_eq_and_eq (below first second)
        (pairSum_le_pairSum below (second :: rest))

end Comparison

end Basis
