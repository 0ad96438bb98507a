/-!
# Rounding of whole numbers

A quotient rounded to the nearest whole number, and a number rounded to 53 significant binary
digits. In both a tie goes to the even neighbour.
-/

namespace Switchboard.Number

/-- The quotient `n / d` rounded to the nearest whole number; a half goes to the even neighbour. -/
def roundDiv (n d : Nat) : Nat :=
  let q := n / d
  let r := n % d
  if 2 * r < d then q else if d < 2 * r then q + 1 else q + q % 2

/-- The nearest whole number with at most 53 significant binary digits; a tie goes to the even
neighbour. -/
def significant (n : Nat) : Nat :=
  let unit := Nat.pow 2 (n.log2 - 52)
  roundDiv n unit * unit

theorem roundDiv_one (n : Nat) : roundDiv n 1 = n := by simp [roundDiv, Nat.mod_one]

theorem significant_of_lt {n : Nat} (h : n < Nat.pow 2 53) : significant n = n := by
  have hl : n.log2 - 52 = 0 := by
    by_cases h0 : n = 0
    · simp [h0]
    · have := (Nat.log2_lt h0).2 h
      omega
  simp [significant, hl, roundDiv_one]

end Switchboard.Number
