import Mathlib.Algebra.BigOperators.Intervals
import Mathlib.Tactic.IntervalCases
import Switchboard.Remote.Reckoning

/-!
# Dates in the Gregorian calendar

Years that begin in March have the leap day at their end, so that a day is found in them by division
(`yearOfEra_eq`, `monthFromMarch_bounds`). `valid_ofDays`: what is found is a date of the Gregorian
calendar, and `daysFromEpoch_ofDays`: as many days lie before it as were counted. `reckon?_eq`: the
words in which it is found hold every result.
-/

namespace Switchboard.Remote

open Number

variable {y doe doy mp days : Nat}

/-! ### The Gregorian calendar -/

/-- Every fourth year is a leap year, but of the years that end a century only every fourth. -/
def IsLeap (year : Nat) : Prop := 4 ∣ year ∧ (100 ∣ year → 400 ∣ year)

instance : DecidablePred IsLeap := fun year =>
  inferInstanceAs (Decidable (4 ∣ year ∧ (100 ∣ year → 400 ∣ year)))

def daysOfMonth (year month : Nat) : Nat :=
  if month = 2 then if IsLeap year then 29 else 28
  else if month ∈ [4, 6, 9, 11] then 30 else 31

def daysOfYear (year : Nat) : Nat := ∑ month ∈ Finset.Ico 1 13, daysOfMonth year month

/-- A date since the start of 1970. -/
structure Date.Valid (d : Date) : Prop where
  year : 1970 ≤ d.year
  month_pos : 1 ≤ d.month
  month_le : d.month ≤ 12
  day_pos : 1 ≤ d.day
  day_le : d.day ≤ daysOfMonth d.year d.month

/-- The days from the first of January 1970 to a date: those of the years between, those of the
months before in its year, and those before in its month. -/
def Date.daysFromEpoch (d : Date) : Nat :=
  ∑ year ∈ Finset.Ico 1970 d.year, daysOfYear year +
    ∑ month ∈ Finset.Ico 1 d.month, daysOfMonth d.year month + (d.day - 1)

theorem Date.valid_iff {year month day : Nat} :
    (Date.mk year month day).Valid ↔
      1970 ≤ year ∧ 1 ≤ month ∧ month ≤ 12 ∧ 1 ≤ day ∧ day ≤ daysOfMonth year month :=
  ⟨fun ⟨late, first, last, pos, le⟩ => ⟨late, first, last, pos, le⟩,
    fun ⟨late, first, last, pos, le⟩ => ⟨late, first, last, pos, le⟩⟩

theorem daysOfYear_eq (year : Nat) : daysOfYear year = if IsLeap year then 366 else 365 := by
  simp only [daysOfYear, Finset.sum_Ico_succ_top, Nat.reduceLeDiff, Finset.Ico_self,
    Finset.sum_empty]
  by_cases leap : IsLeap year <;> simp [daysOfMonth, leap]

/-! ### Years that begin in March -/

/-- The days from the first of March of year 0 to that of a year. -/
def marchDay (year : Nat) : Nat := 365 * year + year / 4 - year / 100 + year / 400

/-- The February at the end of a year that begins in March is that of the next year. -/
theorem marchDay_succ (year : Nat) :
    marchDay (year + 1) = marchDay year + daysOfYear (year + 1) := by
  have centuries : 100 ∣ year + 1 → 4 ∣ year + 1 := Nat.dvd_trans (by decide)
  have eras : 400 ∣ year + 1 → 100 ∣ year + 1 := Nat.dvd_trans (by decide)
  rw [daysOfYear_eq, marchDay, marchDay, Nat.succ_div, Nat.succ_div, Nat.succ_div]
  by_cases fourth : 4 ∣ year + 1
  · by_cases century : 100 ∣ year + 1
    · by_cases era : 400 ∣ year + 1
      · have leap : IsLeap (year + 1) := ⟨fourth, fun _ => era⟩
        rw [if_pos fourth, if_pos century, if_pos era, if_pos leap]
        omega
      · have plain : ¬ IsLeap (year + 1) := fun leap => era (leap.2 century)
        rw [if_pos fourth, if_pos century, if_neg era, if_neg plain]
        omega
    · have leap : IsLeap (year + 1) := ⟨fourth, fun late => absurd late century⟩
      rw [if_pos fourth, if_neg century, if_neg fun era => century (eras era), if_pos leap]
      omega
  · have plain : ¬ IsLeap (year + 1) := fun leap => fourth leap.1
    have within : ¬ 100 ∣ year + 1 := fun century => fourth (centuries century)
    rw [if_neg fourth, if_neg within, if_neg fun era => within (eras era), if_neg plain]
    omega

theorem marchDay_add_era (year era : Nat) :
    marchDay (year + era * 400) = marchDay year + era * daysInEra := by
  have fourths : (year + era * 400) / 4 = year / 4 + era * 100 := by omega
  have centuries : (year + era * 400) / 100 = year / 100 + era * 4 := by omega
  have eras : (year + era * 400) / 400 = year / 400 + era := by omega
  rw [marchDay, marchDay, fourths, centuries, eras, daysInEra]
  omega

/-- The calendar repeats itself every 400 years. -/
theorem daysOfYear_add_era (year era : Nat) :
    daysOfYear (year + era * 400 + 1) = daysOfYear (year + 1) := by
  have first := marchDay_succ year
  have later := marchDay_succ (year + era * 400)
  rw [Nat.add_right_comm, marchDay_add_era, marchDay_add_era] at later
  rw [Nat.add_right_comm]
  omega

theorem daysBeforeYear_eq (young : y < 400) : daysBeforeYear y = marchDay y := by
  rw [daysBeforeYear, marchDay, Nat.div_eq_of_lt young, Nat.add_zero]

theorem exists_year (bound : Nat) (inside : doe < marchDay bound) :
    ∃ year < bound, marchDay year ≤ doe ∧ doe < marchDay (year + 1) := by
  induction bound with
  | zero => exact absurd inside (Nat.not_lt_zero doe)
  | succ bound ih =>
    by_cases begun : marchDay bound ≤ doe
    · exact ⟨bound, Nat.lt_succ_self bound, begun, inside⟩
    · obtain ⟨year, before, rest⟩ := ih (Nat.lt_of_not_le begun)
      exact ⟨year, Nat.lt_succ_of_lt before, rest⟩

/-- The leap day of the era counts to its last century. -/
theorem century_of_era {century rest : Nat} (centuries : century < 4) (inside : rest ≤ 36524)
    (last : rest = 36524 → century = 3) :
    (36524 * century + rest) / 36524 - (36524 * century + rest) / 146096 = century := by
  by_cases leap : rest = 36524
  · obtain rfl := last leap
    rw [leap]
  · rw [Nat.div_eq_of_lt (show 36524 * century + rest < 146096 by omega)]
    omega

/-- The corrections take off one day for every leap day that is over, and at the latest on the leap
day itself one for that, so that 365 divides what is left. -/
theorem yearOfEra_of_cycle {century cycle year : Nat} (centuries : century < 4)
    (cycles : cycle < 25) (years : year < 4) (inside : doy ≤ 365)
    (leap : doy = 365 → year = 3 ∧ (cycle = 24 → century = 3)) :
    yearOfEra (36524 * century + (1461 * cycle + 365 * year + doy)) =
      100 * century + 4 * cycle + year := by
  have ordered (n : Nat) : n / 146096 ≤ n / 36524 := Nat.div_le_div_left (by decide) (by decide)
  have small : 1461 * cycle + 365 * year + doy ≤ 36524 := by omega
  have corrected := century_of_era centuries small (by omega)
  obtain ⟨late, leapDays, early, rest⟩ : ∃ late,
      (36524 * century + (1461 * cycle + 365 * year + doy)) / 1460 = 25 * century + cycle + late ∧
        late ≤ doy ∧ doy - late < 365 := by
    -- Four years have a day more than 1460, so they are counted as over a little before they are,
    -- but never before the last year of them.
    by_cases before : 24 * century + cycle + 365 * year + doy < 1460
    · exact ⟨0, Nat.div_eq_of_lt_le (by omega) (by omega), by omega, by omega⟩
    · exact ⟨1, Nat.div_eq_of_lt_le (by omega) (by omega), by omega, by omega⟩
  have plain : 36524 * century + (1461 * cycle + 365 * year + doy) -
      (25 * century + cycle + late) + century =
        365 * (100 * century + 4 * cycle + year) + (doy - late) := by
    omega
  rw [yearOfEra, Nat.add_sub_assoc (ordered _), corrected, leapDays, plain,
    Nat.mul_add_div (by decide), Nat.div_eq_of_lt rest, Nat.add_zero]

theorem marchDay_of_cycle {century cycle year : Nat} (centuries : century < 4) (cycles : cycle < 25)
    (years : year < 4) :
    marchDay (100 * century + 4 * cycle + year) =
      36524 * century + (1461 * cycle + 365 * year) := by
  have fourths : (100 * century + 4 * cycle + year) / 4 = 25 * century + cycle := by omega
  have hundredths : (100 * century + 4 * cycle + year) / 100 = century := by omega
  have eras : (100 * century + 4 * cycle + year) / 400 = 0 := Nat.div_eq_of_lt (by omega)
  rw [marchDay, fourths, hundredths, eras]
  omega

theorem yearOfEra_eq (young : y < 400) (inside : doy < daysOfYear (y + 1)) :
    yearOfEra (marchDay y + doy) = y := by
  obtain ⟨century, cycle, year, rfl, centuries, cycles, years⟩ : ∃ century cycle year,
      y = 100 * century + 4 * cycle + year ∧ century < 4 ∧ cycle < 25 ∧ year < 4 :=
    ⟨y / 100, y % 100 / 4, y % 4, by omega, by omega, by omega, by omega⟩
  rw [daysOfYear_eq] at inside
  rw [marchDay_of_cycle centuries cycles years, Nat.add_assoc]
  by_cases leap : IsLeap (100 * century + 4 * cycle + year + 1)
  · rw [if_pos leap] at inside
    obtain ⟨fourth, centuryEnd⟩ := leap
    have last : year = 3 := by omega
    refine yearOfEra_of_cycle centuries cycles years (by omega) fun _ => ⟨last, fun end' => ?_⟩
    have era := centuryEnd (by omega)
    omega
  · rw [if_neg leap] at inside
    exact yearOfEra_of_cycle centuries cycles years (by omega) fun long => by omega

/-! ### Months of such a year -/

theorem monthFromMarch_bounds (doy : Nat) :
    daysBeforeMonth (monthFromMarch doy) ≤ doy ∧
      doy < daysBeforeMonth (monthFromMarch doy + 1) := by
  unfold daysBeforeMonth monthFromMarch
  omega

theorem daysBeforeMonth_succ (early : mp < 10) (year : Nat) :
    daysBeforeMonth (mp + 1) = daysBeforeMonth mp + daysOfMonth year (mp + 3) := by
  interval_cases mp <;> rfl

/-- From March to December a month has the days of the months since March and 306 more after it in
its own year. -/
theorem sum_daysOfMonth (early : mp ≤ 9) (year : Nat) :
    ∑ month ∈ Finset.Ico 1 (mp + 3), daysOfMonth year month + 306 =
      daysOfYear year + daysBeforeMonth mp := by
  induction mp with
  | zero =>
    rw [daysOfYear_eq, show Finset.Ico 1 (0 + 3) = {1, 2} by decide,
      Finset.sum_pair (by decide)]
    by_cases leap : IsLeap year <;> simp [daysOfMonth, daysBeforeMonth, leap]
  | succ mp ih =>
    have next := daysBeforeMonth_succ (show mp < 10 by omega) year
    have before := ih (by omega)
    rw [show mp + 1 + 3 = mp + 3 + 1 by omega, Finset.sum_Ico_succ_top (by omega)]
    omega

theorem sum_daysOfYear (late : 1969 ≤ y) :
    ∑ year ∈ Finset.Ico 1970 (y + 1), daysOfYear year + epochDay = marchDay y + 306 := by
  induction y, late using Nat.le_induction with
  | base => decide
  | succ y late ih =>
    rw [Finset.sum_Ico_succ_top (by omega), marchDay_succ]
    omega

/-! ### Dates -/

/-- The date of a day of a year that begins in March. -/
def Date.ofMarch (year doy : Nat) : Date :=
  let mp := monthFromMarch doy
  let month := if mp < 10 then mp + 3 else mp - 9
  { year := year + (if month ≤ 2 then 1 else 0)
    month := month
    day := doy - daysBeforeMonth mp + 1 }

/-- A day of a year that begins in March, after the first of January 1970. -/
structure InYear (y doy : Nat) : Prop where
  inside : doy < daysOfYear (y + 1)
  late : epochDay ≤ marchDay y + doy

theorem InYear.day_lt (i : InYear y doy) : doy < 366 := by
  have inside := i.inside
  rw [daysOfYear_eq] at inside
  split at inside <;> omega

theorem InYear.le_year (i : InYear y doy) : 1969 ≤ y := by
  by_contra early
  have late := i.late
  have inside := i.inside
  have next := marchDay_succ y
  have before : marchDay (y + 1) ≤ 719162 := by
    unfold marchDay
    omega
  have start : epochDay = 719468 := rfl
  omega

/-- January and February belong to the next year. -/
theorem InYear.cases (i : InYear y doy) :
    (∃ mp < 10, 1970 ≤ y ∧ daysBeforeMonth mp ≤ doy ∧ doy < daysBeforeMonth (mp + 1) ∧
      Date.ofMarch y doy = ⟨y, mp + 3, doy - daysBeforeMonth mp + 1⟩) ∨
    (306 ≤ doy ∧ doy < 337 ∧ Date.ofMarch y doy = ⟨y + 1, 1, doy - 306 + 1⟩) ∨
    (337 ≤ doy ∧ Date.ofMarch y doy = ⟨y + 1, 2, doy - 337 + 1⟩) := by
  have inside := i.day_lt
  obtain ⟨begun, unfinished⟩ := monthFromMarch_bounds doy
  unfold Date.ofMarch
  by_cases early : monthFromMarch doy < 10
  · refine .inl ⟨monthFromMarch doy, early, ?_, begun, unfinished, ?_⟩
    · -- Of the year before 1970 only January and February come after the epoch.
      have year := i.le_year
      have late := i.late
      have spring : doy < 306 := by
        unfold monthFromMarch at early
        omega
      by_contra first
      obtain rfl : y = 1969 := by omega
      have start : marchDay 1969 + 306 = epochDay := by decide
      omega
    · have notNext : ¬ monthFromMarch doy + 3 ≤ 2 := by omega
      simp only [if_pos early, if_neg notNext, Nat.add_zero]
  · by_cases january : monthFromMarch doy = 10
    · rw [january] at begun unfinished ⊢
      exact .inr (.inl ⟨begun, unfinished, rfl⟩)
    · have february : monthFromMarch doy = 11 := by
        unfold monthFromMarch at early january ⊢
        omega
      rw [february] at begun ⊢
      exact .inr (.inr ⟨begun, rfl⟩)

theorem InYear.valid (i : InYear y doy) : (Date.ofMarch y doy).Valid := by
  have year := i.le_year
  rcases i.cases with ⟨mp, early, late, begun, unfinished, date⟩ | ⟨begun, unfinished, date⟩ |
    ⟨begun, date⟩
  · have month := daysBeforeMonth_succ early y
    rw [date, Date.valid_iff]
    omega
  · have month : daysOfMonth (y + 1) 1 = 31 := rfl
    rw [date, Date.valid_iff]
    omega
  · have inside := i.inside
    have month : daysOfMonth (y + 1) 2 + 337 = daysOfYear (y + 1) := by
      rw [daysOfYear_eq]
      by_cases leap : IsLeap (y + 1) <;> simp [daysOfMonth, leap]
    rw [date, Date.valid_iff]
    omega

theorem InYear.daysFromEpoch_eq (i : InYear y doy) :
    (Date.ofMarch y doy).daysFromEpoch + epochDay = marchDay y + doy := by
  have years := sum_daysOfYear i.le_year
  unfold Date.daysFromEpoch
  rcases i.cases with ⟨mp, early, late, begun, unfinished, date⟩ | ⟨begun, unfinished, date⟩ |
    ⟨begun, date⟩
  · have months := sum_daysOfMonth (Nat.le_of_lt_succ early) y
    rw [Finset.sum_Ico_succ_top late] at years
    rw [date]
    dsimp only
    omega
  · rw [date, Finset.Ico_self, Finset.sum_empty]
    dsimp only
    omega
  · have january : ∑ month ∈ Finset.Ico 1 2, daysOfMonth (y + 1) month = 31 := rfl
    rw [date]
    dsimp only
    omega

/-! ### The date of a day -/

/-- A day lies on a day of a year of an era. -/
structure InEra (days era yoe doy : Nat) : Prop extends InYear (yoe + era * 400) doy where
  young : yoe < 400
  within : marchDay yoe + doy < daysInEra
  counted : days + epochDay = era * daysInEra + (marchDay yoe + doy)

theorem exists_inEra (days : Nat) : ∃ era yoe doy, InEra days era yoe doy := by
  have within : (days + epochDay) % daysInEra < marchDay 400 := Nat.mod_lt _ (by decide)
  obtain ⟨yoe, young, begun, unfinished⟩ := exists_year 400 within
  obtain ⟨doy, split⟩ := Nat.exists_eq_add_of_le begun
  have counted := Nat.div_add_mod' (days + epochDay) daysInEra
  rw [split] at within unfinished counted
  rw [marchDay_succ, Nat.add_lt_add_iff_left] at unfinished
  have moved := marchDay_add_era yoe ((days + epochDay) / daysInEra)
  exact ⟨_, yoe, doy,
    { inside := by rwa [daysOfYear_add_era]
      late := by omega
      young := young
      within := within
      counted := counted.symm }⟩

variable {era yoe : Nat}

namespace InEra

theorem yearOfEra (i : InEra days era yoe doy) : yearOfEra (marchDay yoe + doy) = yoe :=
  yearOfEra_eq i.young (by rw [← daysOfYear_add_era yoe era]; exact i.inside)

theorem div_mod (i : InEra days era yoe doy) :
    (days + epochDay) / daysInEra = era ∧ (days + epochDay) % daysInEra = marchDay yoe + doy := by
  rw [i.counted, Nat.mul_comm, Nat.mul_add_div (by decide), Nat.div_eq_of_lt i.within,
    Nat.mul_add_mod, Nat.mod_eq_of_lt i.within]
  exact ⟨rfl, rfl⟩

theorem ofDays (i : InEra days era yoe doy) :
    Date.ofDays days = Date.ofMarch (yoe + era * 400) doy := by
  obtain ⟨era, doe⟩ := i.div_mod
  simp only [Date.ofDays, era, doe, i.yearOfEra, daysBeforeYear_eq i.young, Nat.add_sub_cancel_left]
  rfl

end InEra

theorem valid_ofDays (days : Nat) : (Date.ofDays days).Valid := by
  obtain ⟨era, yoe, doy, i⟩ := exists_inEra days
  rw [i.ofDays]
  exact i.valid

theorem daysFromEpoch_ofDays (days : Nat) : (Date.ofDays days).daysFromEpoch = days := by
  obtain ⟨era, yoe, doy, i⟩ := exists_inEra days
  have count := i.daysFromEpoch_eq
  have counted := i.counted
  rw [marchDay_add_era] at count
  rw [i.ofDays]
  omega

/-! ### Words -/

theorem yearOfEra?_eq (inside : doe < daysInEra) : yearOfEra? doe = some (yearOfEra doe) := by
  unfold daysInEra at inside
  unfold yearOfEra? yearOfEra
  generalize doe_fourths : doe / 1460 = fourths
  generalize doe_centuries : doe / 36524 = centuries
  generalize doe_eras : doe / 146096 = eras
  rw [word?_bind (m := doe - fourths) (by omega) (by omega),
    word?_bind (m := doe - fourths + centuries) (by omega) (by omega),
    word?_bind (m := doe - fourths + centuries - eras) (by omega) (by omega)]
  rfl

theorem dayOfYear?_eq (inside : doe < daysInEra) (begun : daysBeforeYear yoe ≤ doe) :
    dayOfYear? doe yoe = some (doe - daysBeforeYear yoe) := by
  unfold daysInEra at inside
  unfold daysBeforeYear at begun ⊢
  unfold dayOfYear?
  generalize yoe_leaps : yoe / 4 = leaps at begun ⊢
  generalize yoe_centuries : yoe / 100 = centuries at begun ⊢
  rw [word?_bind (m := 365 * yoe) (by omega) (by omega),
    word?_bind (m := 365 * yoe + leaps) (by omega) (by omega),
    word?_bind (m := 365 * yoe + leaps - centuries) (by omega) (by omega)]
  exact word?_of_eq (by omega) (by omega)

theorem monthFromMarch?_eq (inside : doy < 366) :
    monthFromMarch? doy = some (monthFromMarch doy) := by
  unfold monthFromMarch?
  rw [word?_bind (m := 5 * doy) (by omega) (by omega),
    word?_bind (m := 5 * doy + 2) (by omega) (by omega)]
  rfl

theorem dayOfMonth?_eq (inside : doy < 366) (begun : daysBeforeMonth mp ≤ doy) :
    dayOfMonth? doy mp = some (doy - daysBeforeMonth mp + 1) := by
  unfold daysBeforeMonth at begun ⊢
  unfold dayOfMonth?
  rw [word?_bind (m := 153 * mp) (by omega) (by omega),
    word?_bind (m := 153 * mp + 2) (by omega) (by omega),
    word?_bind (m := doy - (153 * mp + 2) / 5) (by omega) (by omega)]
  exact word?_of_eq (by omega) (by omega)

theorem month?_eq (inside : mp < 12) :
    month? mp = some (if mp < 10 then mp + 3 else mp - 9) := by
  unfold month?
  split
  · exact word?_of_eq (by omega) (by omega)
  · exact word?_of_eq (by omega) (by omega)

theorem year?_eq {era : Nat} (young : yoe < 400) (within : era < 2 ^ 48) :
    year? era yoe month = some (yoe + era * 400 + (if month ≤ 2 then 1 else 0)) := by
  have next : (if month ≤ 2 then 1 else 0 : Int) = (if month ≤ 2 then 1 else 0 : Nat) := by
    split <;> rfl
  have small : (if month ≤ 2 then 1 else 0 : Nat) ≤ 1 := by
    split <;> decide
  unfold year?
  rw [next]
  generalize (if month ≤ 2 then 1 else 0 : Nat) = late at small ⊢
  rw [signedWord?_bind (m := era * 400) (by omega) (by omega),
    signedWord?_bind (m := yoe) rfl (by omega),
    signedWord?_bind (m := yoe + era * 400) (by omega) (by omega),
    signedWord?_bind (m := yoe + era * 400 + late) (by omega) (by omega)]
  exact word?_of_eq rfl (by omega)
/-- No step of the reckoning leaves the words it is done in. -/
theorem reckon?_eq (few : days < 2 ^ 48) : Date.reckon? days = some (Date.ofDays days) := by
  obtain ⟨era, yoe, doy, i⟩ := exists_inEra days
  obtain ⟨era_eq, doe_eq⟩ := i.div_mod
  obtain ⟨begun, unfinished⟩ := monthFromMarch_bounds doy
  have past := daysBeforeYear_eq i.young
  have counted := i.counted
  have inside := i.day_lt
  have start : epochDay = 719468 := rfl
  have length : daysInEra = 146097 := rfl
  have eras : era < 2 ^ 48 := by
    rw [length] at counted
    omega
  have month : monthFromMarch doy < 12 := by
    unfold monthFromMarch
    omega
  unfold Date.reckon?
  rw [signedWord?_bind (m := days) rfl (by omega),
    signedWord?_bind (m := days + epochDay) (by omega) (by omega)]
  dsimp only
  rw [← Int.ofNat_tdiv, era_eq,
    signedWord?_bind (m := era * daysInEra) (by omega) (by omega),
    signedWord?_bind (m := marchDay yoe + doy) (by omega) (by omega),
    word?_bind (m := marchDay yoe + doy) rfl (by omega),
    bind_of_eq_some (yearOfEra?_eq i.within), i.yearOfEra,
    bind_of_eq_some (dayOfYear?_eq i.within (by omega)), past, Nat.add_sub_cancel_left,
    bind_of_eq_some (monthFromMarch?_eq inside), bind_of_eq_some (dayOfMonth?_eq inside begun),
    bind_of_eq_some (month?_eq month), bind_of_eq_some (year?_eq i.young eras), i.ofDays]
  rfl

end Switchboard.Remote
