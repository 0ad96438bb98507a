import Mathlib.Algebra.Group.Int.Defs
import Mathlib.Algebra.Group.Nat.Defs

/-!
# Machine words

The results of whole-number operations in words of 64 bits. What a word cannot hold is nothing, such
as a difference below zero in a word without a sign.
-/

namespace Switchboard.Number

/-- A result in a word without a sign. -/
def word? (n : Int) : Option Nat := if 0 ≤ n ∧ n < 2 ^ 64 then some n.toNat else none

/-- A result in a word with a sign. -/
def signedWord? (n : Int) : Option Int :=
  if -2 ^ 63 ≤ n ∧ n < 2 ^ 63 then some n else none

theorem word?_of_eq {n : Int} {m : Nat} (exact : n = m) (fits : m < 2 ^ 64) :
    word? n = some m := by
  rw [word?, if_pos (by omega), exact, Int.toNat_natCast]

theorem signedWord?_of_eq {n : Int} {m : Nat} (exact : n = m) (fits : m < 2 ^ 63) :
    signedWord? n = some (m : Int) := by
  rw [signedWord?, if_pos (by omega), exact]

variable {α β : Type}

/-- What a step found goes to the rest without the rest being looked at. -/
theorem bind_of_eq_some {x : Option α} {a : α} (found : x = some a) (f : α → Option β) :
    (x >>= f) = f a := by
  rw [found]
  rfl

theorem word?_bind {n : Int} {m : Nat} (exact : n = m) (fits : m < 2 ^ 64)
    (f : Nat → Option α) : (word? n >>= f) = f m :=
  bind_of_eq_some (word?_of_eq exact fits) f

theorem signedWord?_bind {n : Int} {m : Nat} (exact : n = m) (fits : m < 2 ^ 63)
    (f : Int → Option α) : (signedWord? n >>= f) = f m :=
  bind_of_eq_some (signedWord?_of_eq exact fits) f

end Switchboard.Number
