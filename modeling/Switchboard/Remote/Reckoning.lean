import Switchboard.Number.Word
import Switchboard.Remote.Calendar

/-!
# Dates in machine words

How a date is reckoned in words of 64 bits, which have a sign for days and years and none inside an
era. Every sum, difference and product is checked, and so is every number that goes from one kind of
word into the other.
-/

namespace Switchboard.Remote

open Number

def yearOfEra? (doe : Nat) : Option Nat := do
  let years ← word? (doe - doe / 1460)
  let years ← word? (years + doe / 36524)
  let years ← word? (years - doe / 146096)
  return years / 365

def dayOfYear? (doe yoe : Nat) : Option Nat := do
  let before ← word? (365 * yoe)
  let before ← word? (before + yoe / 4)
  let before ← word? (before - yoe / 100)
  word? (doe - before)

def monthFromMarch? (doy : Nat) : Option Nat := do
  let scaled ← word? (5 * doy)
  return (← word? (scaled + 2)) / 153

def dayOfMonth? (doy mp : Nat) : Option Nat := do
  let scaled ← word? (153 * mp)
  let before ← word? (scaled + 2)
  let past ← word? (doy - before / 5)
  word? (past + 1)

def month? (mp : Nat) : Option Nat := if mp < 10 then word? (mp + 3) else word? (mp - 9)

/-- The year, which is written without a sign. -/
def year? (era : Int) (yoe month : Nat) : Option Nat := do
  let past ← signedWord? (era * 400)
  let year ← signedWord? ((← signedWord? yoe) + past)
  word? (← signedWord? (year + if month ≤ 2 then 1 else 0))

/-- The date of a day, counted from the first of January 1970. -/
def Date.reckon? (days : Nat) : Option Date := do
  let z ← signedWord? ((← signedWord? days) + epochDay)
  let era := z.tdiv daysInEra
  let past ← signedWord? (era * daysInEra)
  let doe ← word? (← signedWord? (z - past))
  let yoe ← yearOfEra? doe
  let doy ← dayOfYear? doe yoe
  let mp ← monthFromMarch? doy
  let day ← dayOfMonth? doy mp
  let month ← month? mp
  let year ← year? era yoe month
  return { year, month, day }

example : Date.reckon? 11016 = some ⟨2000, 2, 29⟩ := by decide

end Switchboard.Remote
