import Mathlib.Algebra.Group.Nat.Defs
import Mathlib.Data.Nat.Log
import Switchboard.Number.Rounding

/-!
# Rounding to the nearest

`Nearest` says which multiple of a number is nearest to another one. The rounded quotient leads to
it (`nearest_roundDiv`). A larger number never has a smaller nearest multiple (`Nearest.le`), so
rounding keeps order. `significant_mono`: rounding to 53 binary digits does too, though its unit
grows with the number.
-/

namespace Switchboard.Number

variable {n m d q p k : Nat}

/-- Between `n` and `q` times `d` lies at most half of `d`, and if it is just half, `q` is even. -/
structure Nearest (n d q : Nat) : Prop where
  near : 2 * ((n : Int) - q * d).natAbs ≤ d
  even : 2 * ((n : Int) - q * d).natAbs = d → q % 2 = 0

theorem nearest_mul (pos : 0 < d) (q : Nat) : Nearest (q * d) d q where
  near := by omega
  even := by omega

theorem nearest_roundDiv (pos : 0 < d) (n : Nat) : Nearest n d (roundDiv n d) := by
  have parts := Nat.div_add_mod' n d
  have rest := Nat.mod_lt n pos
  have next := Nat.add_one_mul (n / d) d
  unfold roundDiv
  dsimp only
  -- The remainder is less than half of `d`, more, or just half.
  split
  · constructor <;> omega
  · split
    · constructor <;> omega
    · obtain even | odd := Nat.mod_two_eq_zero_or_one (n / d)
      · rw [even, Nat.add_zero]
        constructor <;> omega
      · rw [odd]
        constructor <;> omega

theorem Nearest.le (a : Nearest n d q) (b : Nearest m d p) (pos : 0 < d) (le : n ≤ m) : q ≤ p := by
  apply Nat.le_of_not_lt
  intro less
  have apart : (p + 1) * d ≤ q * d := Nat.mul_le_mul_right d less
  have near := a.near
  have near' := b.near
  rw [Nat.add_one_mul] at apart
  -- Both stand halfway between the two multiples, which are neighbours and thus not both even.
  have even : q % 2 = 0 := a.even (by omega)
  have even' : p % 2 = 0 := b.even (by omega)
  have farther : (p + 2) * d ≤ q * d := Nat.mul_le_mul_right d (by omega)
  rw [Nat.add_mul] at farther
  omega

theorem roundDiv_mono (pos : 0 < d) (le : n ≤ m) : roundDiv n d ≤ roundDiv m d :=
  (nearest_roundDiv pos n).le (nearest_roundDiv pos m) pos le

theorem roundDiv_le (pos : 0 < d) (le : n ≤ q * d) : roundDiv n d ≤ q :=
  (nearest_roundDiv pos n).le (nearest_mul pos q) pos le

theorem le_roundDiv (pos : 0 < d) (le : q * d ≤ n) : q ≤ roundDiv n d :=
  (nearest_mul pos q).le (nearest_roundDiv pos n) pos le

/-! ### Binary digits -/

theorem significant_of_le (le : n ≤ 2 ^ 53) : significant n = n := by
  obtain less | same := Nat.lt_or_eq_of_le le
  · exact significant_of_lt less
  · rw [same]
    rfl

theorem log2_mono (le : n ≤ m) : n.log2 ≤ m.log2 := by
  rw [Nat.log2_eq_log_two, Nat.log2_eq_log_two]
  exact Nat.log_mono_right le

/-- A power of two is a whole number of units of every number with no more digits. -/
theorem two_pow_eq_mul (le : n.log2 ≤ k) :
    2 ^ k = 2 ^ (k - (n.log2 - 52)) * Nat.pow 2 (n.log2 - 52) := by
  rw [Nat.pow_eq, ← Nat.pow_add, Nat.sub_add_cancel (by omega)]

theorem significant_le_two_pow (le : n ≤ 2 ^ k) : significant n ≤ 2 ^ k := by
  have digits : n.log2 ≤ k := by
    have := log2_mono le
    rwa [Nat.log2_two_pow] at this
  rw [two_pow_eq_mul digits] at le ⊢
  exact Nat.mul_le_mul_right _ (roundDiv_le (Nat.two_pow_pos _) le)

theorem two_pow_log2_le_significant (some : n ≠ 0) : 2 ^ n.log2 ≤ significant n := by
  have le := Nat.log2_self_le some
  rw [two_pow_eq_mul (Nat.le_refl n.log2)] at le ⊢
  exact Nat.mul_le_mul_right _ (le_roundDiv (Nat.two_pow_pos _) le)

theorem significant_mono (le : n ≤ m) : significant n ≤ significant m := by
  obtain same | less := Nat.eq_or_lt_of_le (log2_mono le)
  · unfold significant
    rw [same]
    exact Nat.mul_le_mul_right _ (roundDiv_mono (Nat.two_pow_pos _) le)
  -- With more digits the unit is larger, but the power of two between them is kept by both.
  · have some : m ≠ 0 := by
      rintro rfl
      exact absurd less (Nat.not_lt_zero _)
    calc
      significant n ≤ 2 ^ (n.log2 + 1) := significant_le_two_pow (Nat.le_of_lt Nat.lt_log2_self)
      _ ≤ 2 ^ m.log2 := Nat.pow_le_pow_right (by decide) less
      _ ≤ significant m := two_pow_log2_le_significant some

end Switchboard.Number
