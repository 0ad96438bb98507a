import Switchboard.Number.Decimal

/-!
# Digits

A number written in decimal is read back: all its characters are digits, no zero leads, and
`readDigits` finds the number again. `Numeral` relates digits to the number they write, also behind
zeros that fill a width (`numeral_zeroPadded`), and `Unpadded` where there are none. What follows
the digits does not matter (`Numeral.eq_of_append_cons`). `readNumber_eq_ok_iff` says which texts
are read as which numbers.
-/

namespace Switchboard.Number

theorem toList_decimal (n : Nat) : (decimal n).toList = Nat.toDigits 10 n := by
  simp [decimal, Nat.repr_eq_ofList_toDigits]

theorem isDigit_of_mem_decimal {n : Nat} {c : Char} (mem : c ∈ (decimal n).toList) :
    c.isDigit = true := by
  rw [toList_decimal] at mem
  exact Nat.isDigit_of_mem_toDigits (by decide) (by decide) mem

/-- No zero leads, but for that of zero itself. -/
theorem exists_decimal_eq_cons (n : Nat) :
    ∃ d ds, (decimal n).toList = d :: ds ∧ d.isDigit = true ∧ (d = '0' → ds = []) := by
  rw [toList_decimal]
  induction n using Nat.strongRecOn with
  | ind n ih =>
    rw [Nat.toDigits_eq_if (by decide)]
    split
    · rename_i small
      exact ⟨_, [], rfl, by simpa [Nat.isDigit_digitChar] using small, fun _ => rfl⟩
    · obtain ⟨d, ds, digits, digit, leads⟩ := ih (n / 10) (by omega)
      refine ⟨d, ds ++ [(n % 10).digitChar], by rw [digits]; rfl, digit, fun zero => ?_⟩
      -- The zero would be all of `n / 10`, which has a digit other than that.
      have value : Nat.ofDigitChars 10 (Nat.toDigits 10 (n / 10)) 0 = n / 10 :=
        Nat.ofDigitChars_ten_toDigits
      rw [digits, leads zero, zero, show Nat.ofDigitChars 10 ['0'] 0 = 0 from rfl] at value
      omega

theorem le_ofDigitChars (cs : List Char) (n : Nat) : n ≤ Nat.ofDigitChars 10 cs n := by
  induction cs generalizing n with
  | nil => exact Nat.le_refl n
  | cons c cs ih =>
    rw [Nat.ofDigitChars_cons]
    have := ih (10 * n + (c.toNat - '0'.toNat))
    omega

theorem readDigits_of_digits {max acc : Nat} {cs : List Char}
    (digits : ∀ c ∈ cs, c.isDigit = true) (fits : Nat.ofDigitChars 10 cs acc ≤ max) :
    readDigits max acc cs = .ok (Nat.ofDigitChars 10 cs acc) := by
  induction cs generalizing acc with
  | nil => rfl
  | cons c cs ih =>
    obtain ⟨digit, digits⟩ := List.forall_mem_cons.mp digits
    rw [Nat.ofDigitChars_cons, Nat.mul_comm] at fits ⊢
    have small := le_ofDigitChars cs (acc * 10 + digitValue c)
    have room : acc * 10 + digitValue c ≤ max := Nat.le_trans small fits
    simp only [readDigits, digit, if_true, room]
    exact ih digits fits

theorem digits_of_readDigits {max acc n : Nat} {cs : List Char}
    (read : readDigits max acc cs = .ok n) :
    (∀ c ∈ cs, c.isDigit = true) ∧ Nat.ofDigitChars 10 cs acc = n := by
  induction cs generalizing acc with
  | nil => exact ⟨fun c mem => absurd mem List.not_mem_nil, Except.ok.inj read⟩
  | cons c cs ih =>
    simp only [readDigits] at read
    split at read
    · rename_i digit
      split at read
      · obtain ⟨digits, value⟩ := ih read
        rw [Nat.ofDigitChars_cons, Nat.mul_comm]
        exact ⟨List.forall_mem_cons.mpr ⟨digit, digits⟩, value⟩
      · cases read
    · cases read

/-! ### Numerals -/

/-- Digits that write a number, zeros before it included. -/
structure Numeral (cs : List Char) (n : Nat) : Prop where
  digits : ∀ c ∈ cs, c.isDigit = true
  value : Nat.ofDigitChars 10 cs 0 = n

theorem numeral_decimal (n : Nat) : Numeral (decimal n).toList n where
  digits _ := isDigit_of_mem_decimal
  value := by rw [toList_decimal, Nat.ofDigitChars_ten_toDigits]

theorem toList_zeroPadded (width n : Nat) :
    (zeroPadded width n).toList =
      List.replicate (width - (decimal n).length) '0' ++ (decimal n).toList := by
  rw [zeroPadded, padStart, String.toList_append, String.toList_ofList]

theorem numeral_zeroPadded (width n : Nat) : Numeral (zeroPadded width n).toList n where
  digits c mem := by
    rw [toList_zeroPadded, List.mem_append] at mem
    rcases mem with zero | digit
    · rw [List.eq_of_mem_replicate zero]
      rfl
    · exact isDigit_of_mem_decimal digit
  value := by
    rw [toList_zeroPadded, Nat.ofDigitChars_append, Nat.ofDigitChars_replicate_zero, Nat.mul_zero,
      (numeral_decimal n).value]

theorem length_toList_zeroPadded (width n : Nat) :
    (zeroPadded width n).toList.length = max width (decimal n).length := by
  rw [toList_zeroPadded, List.length_append, List.length_replicate, String.length_toList]
  omega

theorem le_length_zeroPadded (width n : Nat) : width ≤ (zeroPadded width n).toList.length := by
  rw [length_toList_zeroPadded]
  exact Nat.le_max_left width _

/-- Where the digits end, the number ends, and what follows is the same. -/
theorem Numeral.eq_of_append_cons {cs ds rest rest' : List Char} {n m : Nat} {stop stop' : Char}
    (a : Numeral cs n) (b : Numeral ds m) (stops : ¬ stop.isDigit = true)
    (stops' : ¬ stop'.isDigit = true) (same : cs ++ stop :: rest = ds ++ stop' :: rest') :
    n = m ∧ stop :: rest = stop' :: rest' := by
  have digits := congrArg (List.takeWhile Char.isDigit) same
  rw [List.takeWhile_append_of_pos a.digits, List.takeWhile_cons_of_neg stops,
    List.takeWhile_append_of_pos b.digits, List.takeWhile_cons_of_neg stops', List.append_nil,
    List.append_nil] at digits
  subst digits
  exact ⟨a.value.symm.trans b.value, List.append_cancel_left same⟩

theorem Numeral.eq_of_append {cs ds rest rest' : List Char} {n m : Nat} {stop : Char}
    (a : Numeral cs n) (b : Numeral ds m) (stops : ¬ stop.isDigit = true)
    (same : cs ++ stop :: rest = ds ++ stop :: rest') : n = m ∧ rest = rest' := by
  obtain ⟨value, same⟩ := a.eq_of_append_cons b stops stops same
  exact ⟨value, List.tail_eq_of_cons_eq same⟩

/-- The digits of a number with no zero before them. -/
structure Unpadded (cs : List Char) (n : Nat) : Prop extends Numeral cs n where
  leads : ∃ d ds, cs = d :: ds ∧ (d = '0' → ds = [])

theorem unpadded_decimal (n : Nat) : Unpadded (decimal n).toList n where
  toNumeral := numeral_decimal n
  leads := by
    obtain ⟨d, ds, digits, -, leads⟩ := exists_decimal_eq_cons n
    exact ⟨d, ds, digits, leads⟩

/-! ### Numbers that are read -/

theorem readDigits_eq_ok_iff {max n : Nat} {cs : List Char} :
    readDigits max 0 cs = .ok n ↔ Numeral cs n ∧ n ≤ max := by
  constructor
  · intro read
    obtain ⟨digits, value⟩ := digits_of_readDigits read
    exact ⟨⟨digits, value⟩, readDigits_le (Nat.zero_le max) read⟩
  · rintro ⟨⟨digits, rfl⟩, fits⟩
    exact readDigits_of_digits digits fits

theorem readDigits_decimal {max n : Nat} (fits : n ≤ max) :
    readDigits max 0 (decimal n).toList = .ok n :=
  readDigits_eq_ok_iff.mpr ⟨numeral_decimal n, fits⟩

/-- A number as it may be written: at least one ASCII digit, and a plus sign may stand before. -/
inductive Written : List Char → Nat → Prop where
  | plain {cs : List Char} {n : Nat} (some : cs ≠ []) (numeral : Numeral cs n) : Written cs n
  | signed {cs : List Char} {n : Nat} (some : cs ≠ []) (numeral : Numeral cs n) :
    Written ('+' :: cs) n

theorem written_signed_iff {n : Nat} {cs : List Char} :
    Written ('+' :: cs) n ↔ cs ≠ [] ∧ Numeral cs n := by
  constructor
  · intro written
    cases written with
    | plain some numeral => exact absurd (numeral.digits '+' List.mem_cons_self) (by decide)
    | signed some numeral => exact ⟨some, numeral⟩
  · rintro ⟨some, numeral⟩
    exact .signed some numeral

theorem written_plain_iff {n : Nat} {cs : List Char} (plain : ∀ ds, cs ≠ '+' :: ds) :
    Written cs n ↔ cs ≠ [] ∧ Numeral cs n := by
  constructor
  · intro written
    cases written with
    | plain some numeral => exact ⟨some, numeral⟩
    | signed some numeral => exact absurd rfl (plain _)
  · rintro ⟨some, numeral⟩
    exact .plain some numeral

theorem readNumber_eq_ok_iff {max n : Nat} {word : String} :
    readNumber max word = .ok n ↔ Written word.toList n ∧ n ≤ max := by
  unfold readNumber
  split
  · rename_i empty
    simp [empty, written_plain_iff]
  · rename_i sign
    simp [sign, written_signed_iff]
  · rename_i some text
    rw [text, written_signed_iff, readDigits_eq_ok_iff, and_assoc, and_iff_right some]
  · rename_i some _ unsigned
    rw [written_plain_iff unsigned, readDigits_eq_ok_iff, and_assoc, and_iff_right some]

theorem written_decimal (n : Nat) : Written (decimal n).toList n := by
  obtain ⟨d, ds, digits, -⟩ := exists_decimal_eq_cons n
  exact .plain (by simp [digits]) (numeral_decimal n)

end Switchboard.Number
