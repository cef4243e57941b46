import Mathlib
import VolatilityDesk.Indicator
import VolatilityDesk.Proofs.Number.Exact
/-!
# Sums of exact numbers

In which order and in which lanes numbers are added makes no difference when nothing is rounded: the
sum of a list is its sum. So gains and losses are sums over the differences of a window, and means
and variances go along with the unit of the values: the mean in proportion, the variance with the
square.

* `sum_eq` — the sum in lanes and halves is the sum of the list.
-/

namespace VolatilityDesk

theorem lastItems_map {α β : Type} (count : Nat) (f : α → β) (items : List α) :
    lastItems count (items.map f) = (lastItems count items).map f := by
  simp [lastItems]

namespace Indicator

open Exact

variable {K : Type} [Field K] [LinearOrder K] [FloorRing K]

/-! ### Ways to add -/

theorem sumFrom_eq (start : K) (values : List K) : sumFrom start values = start + values.sum := by
  induction values generalizing start with
  | nil => simp [sumFrom]
  | cons x rest ih =>
    unfold sumFrom at ih ⊢
    rw [List.foldl_cons, ih, List.sum_cons, add_assoc]

theorem laneSum_eq (a b c d e f g h : K) (values : List K) :
    laneSum a b c d e f g h values = a + b + c + d + e + f + g + h + values.sum := by
  fun_induction laneSum a b c d e f g h values with
  | case1 a b c d e f g h s t u v w x y z rest ih =>
    simp only [ih, List.sum_cons]
    ring
  | case2 a b c d e f g h rest =>
    rw [sumFrom_eq]
    ring

theorem sequentialSum_eq (values : List K) : sequentialSum values = values.sum := by
  cases values with
  | nil => exact zero_literal
  | cons x rest => rw [sequentialSum, sumFrom_eq, List.sum_cons]

theorem blockSum_eq (values : List K) : blockSum values = values.sum := by
  fun_cases blockSum values with
  | case1 a b c d e f g h rest =>
    simp only [laneSum_eq, List.sum_cons]
    ring
  | case2 => rw [sequentialSum_eq]

theorem pairwiseSum_eq (values : List K) : pairwiseSum values = values.sum := by
  fun_induction pairwiseSum values with
  | case1 values short => rw [blockSum_eq]
  | case2 values long first second =>
    rw [first, second, ← List.sum_append, List.take_append_drop]

/-- In exact arithmetic the sum of a list is its sum. -/
theorem sum_eq (values : List K) : Indicator.sum values = values.sum := by
  rw [Indicator.sum, pairwiseSum_eq, zero_literal, add_zero]

end Indicator

end VolatilityDesk
