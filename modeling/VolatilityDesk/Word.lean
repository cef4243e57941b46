/-!
# Machine words

Some quantities are handed on in words of 32 or 64 bits with a sign. A word of either size holds
the numbers from the negative of its limit up to, but not including, the limit.
-/

namespace VolatilityDesk.Word

/-- Two to the power of 31. -/
abbrev limit32 : Int := 2147483648

/-- Two to the power of 63. -/
abbrev limit64 : Int := 9223372036854775808

/-- A word of 32 bits holds the number. -/
def holds32 (n : Int) : Bool := -limit32 ≤ n && n < limit32

/-- A word of 64 bits holds the number. -/
def holds64 (n : Int) : Bool := -limit64 ≤ n && n < limit64

theorem holds64_of_holds32 {n : Int} (h : holds32 n = true) : holds64 n = true := by
  simp only [holds32, holds64, limit32, limit64, Bool.and_eq_true, decide_eq_true_eq] at h ⊢
  omega

end VolatilityDesk.Word
