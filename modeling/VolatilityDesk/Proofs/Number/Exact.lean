import Mathlib
import VolatilityDesk.Number
/-!
# Exact numbers

The laws that doubles keep only up to their rounding errors are stated over an ordered field, such
as the rational or the real numbers, in which sums and quotients are exact. What is left to say for
such numbers is how an amount is rounded to four places: to the nearest amount, a half to the even
neighbour. That moves it by no more than half of the last place.

* `abs_round4_sub_le` — rounding to four places moves a number by half a place at most.
-/

namespace VolatilityDesk.Exact

variable {K : Type} [Field K] [LinearOrder K] [FloorRing K]

/-- The nearest whole number, a half to the even neighbour. -/
def nearestEven (x : K) : Int :=
  if 1 / 2 < Int.fract x ∨ (Int.fract x = 1 / 2 ∧ ⌊x⌋ % 2 = 1) then ⌊x⌋ + 1 else ⌊x⌋

section Rounding

variable [IsStrictOrderedRing K]

theorem abs_nearestEven_sub_le (x : K) : |(nearestEven x : K) - x| ≤ 1 / 2 := by
  have nonneg := Int.fract_nonneg x
  have below := Int.fract_lt_one x
  have parts := Int.floor_add_fract x
  rw [abs_le]
  unfold nearestEven
  split
  · rename_i up
    have half : 1 / 2 ≤ Int.fract x := up.elim le_of_lt fun tie => tie.1.ge
    push_cast
    constructor <;> linarith
  · rename_i down
    have half : Int.fract x ≤ 1 / 2 := not_lt.mp fun above => down (.inl above)
    constructor <;> linarith

end Rounding

/-- Exact numbers to compute prices with: every quantity is one, and every number has a whole
part. -/
scoped instance number : Number K where
  decideLT := inferInstance
  decideLE := inferInstance
  beq x y := decide (x = y)
  toOfScientific := inferInstance
  ofCount n := n
  ofInt? n := some n
  round4 x := nearestEven (x * 10000) / 10000
  whole x := .ok ⌊x⌋

noncomputable scoped instance root : Root ℝ := ⟨Real.sqrt⟩

/-- Exact numbers are the same when they compare as equal. -/
scoped instance lawful : @LawfulBEq K number.toBEq where
  eq_of_beq := of_decide_eq_true
  rfl := decide_eq_true rfl

theorem zero_literal : (0.0 : K) = 0 := by norm_num

/-- Rounding to four places moves an amount by at most half of the last one. -/
theorem abs_round4_sub_le [IsStrictOrderedRing K] (x : K) : |Number.round4 x - x| ≤ 0.00005 := by
  have close := abs_nearestEven_sub_le (x * 10000)
  have scaled : Number.round4 x - x = (nearestEven (x * 10000) - x * 10000) / 10000 := by
    change (nearestEven (x * 10000) : K) / 10000 - x = _
    ring
  rw [scaled, abs_div, abs_of_pos (by norm_num : (0 : K) < 10000)]
  rw [div_le_iff₀ (by norm_num)]
  calc |(nearestEven (x * 10000) : K) - x * 10000|
    _ ≤ 1 / 2 := close
    _ = 0.00005 * 10000 := by norm_num

end VolatilityDesk.Exact
