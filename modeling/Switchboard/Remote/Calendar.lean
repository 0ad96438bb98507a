import Switchboard.Number.Decimal

/-!
# Times for reading

A time is a number of seconds since the start of 1970, in coordinated universal time. Its date is
found in eras of 400 years, with years that begin on the first of March, so that a leap day is the
last day of its year.
-/

namespace Switchboard.Remote

structure Date where
  year : Nat
  month : Nat
  day : Nat
deriving DecidableEq, Repr

def daysInEra : Nat := 146097

/-- Days from the first of March of year 0 to the first of January 1970. -/
def epochDay : Nat := 719468

/-- The year, from 0 to 399, of a day of an era. -/
def yearOfEra (doe : Nat) : Nat := (doe - doe / 1460 + doe / 36524 - doe / 146096) / 365

def daysBeforeYear (yoe : Nat) : Nat := 365 * yoe + yoe / 4 - yoe / 100

/-- The month of a day of a year, counted from March as 0. -/
def monthFromMarch (doy : Nat) : Nat := (5 * doy + 2) / 153

/-- The days of a year before one of its months, counted from March as 0. -/
def daysBeforeMonth (mp : Nat) : Nat := (153 * mp + 2) / 5

/-- The date of a day, counted from the first of January 1970. -/
def Date.ofDays (days : Nat) : Date :=
  let z := days + epochDay
  let era := z / daysInEra
  let doe := z % daysInEra
  let yoe := yearOfEra doe
  let doy := doe - daysBeforeYear yoe
  let mp := monthFromMarch doy
  let month := if mp < 10 then mp + 3 else mp - 9
  { year := yoe + era * 400 + (if month ≤ 2 then 1 else 0)
    month := month
    day := doy - daysBeforeMonth mp + 1 }

def daySeconds : Nat := 86400

def formatTimestamp (secs : Nat) : String :=
  let date := Date.ofDays (secs / daySeconds)
  let time := secs % daySeconds
  Number.zeroPadded 4 date.year ++ "-" ++ Number.zeroPadded 2 date.month ++ "-" ++
    Number.zeroPadded 2 date.day ++ " " ++ Number.zeroPadded 2 (time / 3600) ++ ":" ++
    Number.zeroPadded 2 (time % 3600 / 60) ++ ":" ++ Number.zeroPadded 2 (time % 60)

end Switchboard.Remote
