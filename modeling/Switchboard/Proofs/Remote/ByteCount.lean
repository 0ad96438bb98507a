import Switchboard.Proofs.Number.Rounding
import Switchboard.Proofs.Remote.Timestamp
import Switchboard.Remote.ByteCount

/-!
# Sizes read back

`sizes_rounded_in_order`: the text of a count of bytes reads as one size. Up to 2^53 bytes it is the
nearest one with two decimals of the largest unit below the count, and no smaller count is shown as
a larger size.
-/

namespace Switchboard.Remote

open Number

/-- The units of sizes above one kilobyte. -/
inductive Scale where
  | kilobyte
  | megabyte
  | gigabyte

def Scale.bytes : Scale → Nat
  | kilobyte => 1024
  | megabyte => 1024 ^ 2
  | gigabyte => 1024 ^ 3

def Scale.symbol : Scale → String
  | kilobyte => "KB"
  | megabyte => "MB"
  | gigabyte => "GB"

structure Scale.LargestBelow (scale : Scale) (n : Nat) : Prop where
  below : scale.bytes < n
  largest : ∀ other : Scale, other.bytes < n → other.bytes ≤ scale.bytes

/-- A size as it is shown: a count of bytes, or hundredths of a larger unit. -/
inductive ShownSize where
  | whole (bytes : Nat)
  | scaled (hundredths : Nat) (scale : Scale)

/-- How much is shown, in hundredths of a byte. -/
def ShownSize.quantity : ShownSize → Nat
  | whole bytes => 100 * bytes
  | scaled hundredths scale => hundredths * scale.bytes

/-- A text reads as a size: a count with the unit behind it, or a number with two decimals. -/
inductive ShownSize.Reads : ShownSize → String → Prop where
  | whole {bytes : Nat} {text : String} (count : List Char)
      (spelled : text.toList = count ++ ' ' :: ['B']) (isCount : Unpadded count bytes) :
      Reads (.whole bytes) text
  | scaled {hundredths : Nat} {scale : Scale} {text : String} (integer decimals : List Char)
      (spelled : text.toList = integer ++ '.' :: (decimals ++ ' ' :: scale.symbol.toList))
      (isInteger : Unpadded integer (hundredths / 100))
      (areDecimals : TwoDigits decimals (hundredths % 100)) : Reads (.scaled hundredths scale) text

/-- The size that a count of bytes is rounded to: the count itself up to one kilobyte, and else the
nearest hundredth of the largest unit below it. -/
inductive ShownSize.Rounds (n : Nat) : ShownSize → Prop where
  | whole (small : n ≤ 1024) : Rounds n (.whole n)
  | scaled {hundredths : Nat} {scale : Scale} (unit : scale.LargestBelow n)
      (nearest : Nearest (100 * n) scale.bytes hundredths) : Rounds n (.scaled hundredths scale)

/-- The text of a size. -/
def ShownSize.text : ShownSize → String
  | whole bytes => decimal bytes ++ " B"
  | scaled hundredths scale => twoDecimals hundredths ++ " " ++ scale.symbol

/-- The size shown for a count of bytes. -/
def ShownSize.ofBytes (n : Nat) : ShownSize :=
  if gigabyte < n then scaled (hundredths n gigabyte) .gigabyte
  else if megabyte < n then scaled (hundredths n megabyte) .megabyte
  else if kilobyte < n then scaled (hundredths n kilobyte) .kilobyte
  else whole n

variable {m n h : Nat} {scale scale' : Scale} {size other : ShownSize} {text : String}

/-! ### Reading -/

theorem Scale.eq_of_symbol (same : scale.symbol.toList = scale'.symbol.toList) :
    scale = scale' := by
  cases scale <;> cases scale' <;> first | rfl | exact absurd same (by decide)

theorem ShownSize.Reads.whole_ne_scaled (reads : (ShownSize.whole n).Reads text) :
    ¬ (ShownSize.scaled h scale).Reads text := by
  intro other
  cases reads with
  | whole count spelled isCount =>
    cases other with
    | scaled integer decimals spelled' isInteger =>
      have same := spelled.symm.trans spelled'
      obtain ⟨-, behind⟩ :=
        isCount.eq_of_append_cons isInteger.toNumeral (by decide) (by decide) same
      exact absurd (List.head_eq_of_cons_eq behind) (by decide)

theorem ShownSize.Reads.unique (reads : size.Reads text) (reads' : other.Reads text) :
    size = other := by
  cases size with
  | whole bytes =>
    cases other with
    | whole bytes' =>
      obtain ⟨_, spelled, isCount⟩ := reads
      obtain ⟨_, spelled', isCount'⟩ := reads'
      have same := spelled.symm.trans spelled'
      rw [(isCount.eq_of_append isCount'.toNumeral (by decide) same).1]
    | scaled => exact absurd reads' reads.whole_ne_scaled
  | scaled hundredths scale =>
    cases other with
    | whole bytes' => exact absurd reads reads'.whole_ne_scaled
    | scaled hundredths' scale' =>
      obtain ⟨_⟩ | ⟨_, _, spelled, isInteger, areDecimals⟩ := reads
      obtain ⟨_⟩ | ⟨_, _, spelled', isInteger', areDecimals'⟩ := reads'
      have same := spelled.symm.trans spelled'
      obtain ⟨integers, same⟩ := isInteger.eq_of_append isInteger'.toNumeral (by decide) same
      obtain ⟨decimals, same⟩ := areDecimals.1.eq_of_append areDecimals'.1 (by decide) same
      rw [Scale.eq_of_symbol same, show hundredths = hundredths' by omega]

theorem ShownSize.reads_text (size : ShownSize) : size.Reads size.text := by
  have point : ".".toList = ['.'] := rfl
  have space : " ".toList = [' '] := rfl
  have byte : " B".toList = [' ', 'B'] := rfl
  cases size with
  | whole bytes =>
    refine .whole _ ?_ (unpadded_decimal bytes)
    rw [ShownSize.text, String.toList_append, byte]
  | scaled hundredths scale =>
    refine .scaled _ _ ?_ (unpadded_decimal _)
      (twoDigits_zeroPadded (Nat.mod_lt hundredths (by decide)))
    simp only [ShownSize.text, twoDecimals, String.toList_append, List.append_assoc, point, space,
      List.cons_append, List.nil_append]

/-! ### Units -/

theorem Scale.bytes_pos (scale : Scale) : 0 < scale.bytes := by
  cases scale <;> decide

theorem Scale.bytes_le (scale : Scale) : scale.bytes ≤ 2 ^ 53 := by
  cases scale <;> decide

theorem Scale.dvd_of_le (le : scale.bytes ≤ scale'.bytes) : scale.bytes ∣ scale'.bytes := by
  cases scale <;> cases scale' <;> first | decide | exact absurd le (by decide)

theorem Scale.exists_largestBelow (n : Nat) : n ≤ 1024 ∨ ∃ scale : Scale, scale.LargestBelow n := by
  by_cases giga : bytes .gigabyte < n
  · refine .inr ⟨.gigabyte, giga, fun other _ => ?_⟩
    cases other <;> decide
  by_cases mega : bytes .megabyte < n
  · refine .inr ⟨.megabyte, mega, fun other below => ?_⟩
    cases other with
    | kilobyte => decide
    | megabyte => exact Nat.le_refl _
    | gigabyte => exact absurd below giga
  by_cases kilo : bytes .kilobyte < n
  · refine .inr ⟨.kilobyte, kilo, fun other below => ?_⟩
    cases other with
    | kilobyte => exact Nat.le_refl _
    | megabyte => exact absurd below mega
    | gigabyte => exact absurd below giga
  · exact .inl (Nat.le_of_not_lt kilo)

theorem ShownSize.ofBytes_of_le (small : n ≤ 1024) : ofBytes n = .whole n := by
  have kilo : ¬ kilobyte < n := Nat.not_lt_of_le small
  have mega : ¬ megabyte < n := Nat.not_lt_of_le (Nat.le_trans small (by decide))
  have giga : ¬ gigabyte < n := Nat.not_lt_of_le (Nat.le_trans small (by decide))
  rw [ofBytes, if_neg giga, if_neg mega, if_neg kilo]

theorem ShownSize.ofBytes_of_largestBelow (unit : scale.LargestBelow n) :
    ofBytes n = .scaled (hundredths n scale.bytes) scale := by
  have above (other : Scale) (more : scale.bytes < other.bytes) : ¬ other.bytes < n :=
    fun below => Nat.not_lt_of_le (unit.largest other below) more
  cases scale with
  | gigabyte => exact if_pos unit.below
  | megabyte =>
    have giga : ¬ gigabyte < n := above .gigabyte (by decide)
    rw [ofBytes, if_neg giga]
    exact if_pos unit.below
  | kilobyte =>
    have giga : ¬ gigabyte < n := above .gigabyte (by decide)
    have mega : ¬ megabyte < n := above .megabyte (by decide)
    rw [ofBytes, if_neg giga, if_neg mega]
    exact if_pos unit.below

theorem ShownSize.formatSize_eq (n : Nat) : formatSize n = (ofBytes n).text := by
  unfold formatSize ofBytes
  split_ifs
  all_goals simp only [ShownSize.text, Scale.symbol, String.append_assoc]
  all_goals rfl

/-! ### Order -/

theorem hundredths_mono (le : m ≤ n) : hundredths m scale.bytes ≤ hundredths n scale.bytes :=
  roundDiv_mono scale.bytes_pos (Nat.mul_le_mul_left 100 (significant_mono le))

theorem Scale.significant_bytes (scale : Scale) : significant scale.bytes = scale.bytes :=
  significant_of_le scale.bytes_le

/-- A unit is a whole number of each smaller one and is shown exactly in it. -/
theorem hundredths_bytes {k : Nat} (multiple : scale'.bytes = k * scale.bytes) :
    hundredths scale'.bytes scale.bytes = 100 * k := by
  have pos := scale.bytes_pos
  have whole : 100 * significant scale'.bytes = 100 * k * scale.bytes := by
    rw [scale'.significant_bytes, multiple, Nat.mul_assoc]
  apply Nat.le_antisymm
  · exact roundDiv_le pos (Nat.le_of_eq whole)
  · exact le_roundDiv pos (Nat.le_of_eq whole.symm)

theorem ShownSize.quantity_le (le : n ≤ scale.bytes) :
    (ofBytes n).quantity ≤ 100 * scale.bytes := by
  obtain small | ⟨unit, fits⟩ := Scale.exists_largestBelow n
  · rw [ofBytes_of_le small]
    exact Nat.mul_le_mul_left 100 le
  · have smaller : unit.bytes ≤ scale.bytes := Nat.le_of_lt (Nat.lt_of_lt_of_le fits.below le)
    obtain ⟨k, multiple⟩ := exists_eq_mul_left_of_dvd (Scale.dvd_of_le smaller)
    rw [ofBytes_of_largestBelow fits]
    calc
      hundredths n unit.bytes * unit.bytes
        ≤ hundredths scale.bytes unit.bytes * unit.bytes :=
          Nat.mul_le_mul_right _ (hundredths_mono le)
      _ = 100 * scale.bytes := by rw [hundredths_bytes multiple, multiple, Nat.mul_assoc]

theorem ShownSize.le_quantity (unit : scale.LargestBelow n) :
    100 * scale.bytes ≤ (ofBytes n).quantity := by
  rw [ofBytes_of_largestBelow unit]
  calc
    100 * scale.bytes = hundredths scale.bytes scale.bytes * scale.bytes := by
      rw [hundredths_bytes (Nat.one_mul _).symm]
    _ ≤ hundredths n scale.bytes * scale.bytes :=
      Nat.mul_le_mul_right _ (hundredths_mono (Nat.le_of_lt unit.below))

theorem ShownSize.quantity_mono (le : m ≤ n) : (ofBytes m).quantity ≤ (ofBytes n).quantity := by
  obtain small | ⟨scale, unit⟩ := Scale.exists_largestBelow n
  · rw [ofBytes_of_le small, ofBytes_of_le (Nat.le_trans le small)]
    exact Nat.mul_le_mul_left 100 le
  · obtain many | few := Nat.lt_or_ge scale.bytes m
    · have same : scale.LargestBelow m :=
        ⟨many, fun other below => unit.largest other (Nat.lt_of_lt_of_le below le)⟩
      rw [ofBytes_of_largestBelow unit, ofBytes_of_largestBelow same]
      exact Nat.mul_le_mul_right _ (hundredths_mono le)
    -- Across units, one of the larger unit is shown exactly and stands between the two.
    · exact Nat.le_trans (quantity_le few) (le_quantity unit)

theorem ShownSize.rounds_ofBytes (fits : n ≤ 2 ^ 53) : (ofBytes n).Rounds n := by
  obtain small | ⟨scale, unit⟩ := Scale.exists_largestBelow n
  · rw [ofBytes_of_le small]
    exact .whole small
  · have exact : hundredths n scale.bytes = roundDiv (100 * n) scale.bytes := by
      rw [hundredths, significant_of_le fits]
    rw [ofBytes_of_largestBelow unit, exact]
    exact .scaled unit (nearest_roundDiv scale.bytes_pos (100 * n))

/-- The text of a count of bytes reads as one size. Up to 2^53 bytes that is the size that the count
is rounded to. No smaller count has a text that reads as a larger size, also in another unit. -/
theorem sizes_rounded_in_order (n : Nat) :
    ∃ size : ShownSize, (∀ other : ShownSize, other.Reads (formatSize n) ↔ other = size) ∧
      (n ≤ 2 ^ 53 → size.Rounds n) ∧
      ∀ m ≤ n, ∀ less : ShownSize, less.Reads (formatSize m) → less.quantity ≤ size.quantity := by
  have reads (m : Nat) : (ShownSize.ofBytes m).Reads (formatSize m) := by
    rw [ShownSize.formatSize_eq]
    exact (ShownSize.ofBytes m).reads_text
  refine ⟨.ofBytes n, fun other => ⟨fun read => read.unique (reads n), ?_⟩,
    ShownSize.rounds_ofBytes, fun m le less read => ?_⟩
  · rintro rfl
    exact reads n
  · rw [read.unique (reads m)]
    exact ShownSize.quantity_mono le

/-- Just below a megabyte, the number in kilobytes goes up to that of a whole megabyte. -/
theorem sizes_rounded_in_order_around_megabyte :
    formatSize 1048575 = "1024.00 KB" ∧ formatSize 1048577 = "1.00 MB" ∧
      1048577 ≤ 2 ^ 53 ∧ 1048575 ≤ 1048577 ∧
      (ShownSize.scaled 102400 .kilobyte).Reads "1024.00 KB" ∧
      (ShownSize.scaled 100 .megabyte).Rounds 1048577 ∧
      (ShownSize.scaled 102400 .kilobyte).quantity ≤ (ShownSize.scaled 100 .megabyte).quantity := by
  have below : formatSize 1048575 = "1024.00 KB" := by decide
  have above : formatSize 1048577 = "1.00 MB" := by decide
  have reads : (ShownSize.scaled 102400 .kilobyte).Reads "1024.00 KB" :=
    (ShownSize.scaled 102400 .kilobyte).reads_text
  have reads' : (ShownSize.scaled 100 .megabyte).Reads "1.00 MB" :=
    (ShownSize.scaled 100 .megabyte).reads_text
  obtain ⟨size, only, rounds, order⟩ := sizes_rounded_in_order 1048577
  rw [above] at only
  obtain rfl := (only _).mp reads'
  refine ⟨below, above, by decide, by decide, reads, rounds (by decide), ?_⟩
  apply order 1048575 (by decide)
  rw [below]
  exact reads

end Switchboard.Remote
