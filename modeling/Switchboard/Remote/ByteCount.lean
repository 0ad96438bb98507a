import Switchboard.Number.Decimal
import Switchboard.Number.Rounding

/-!
# Sizes for reading

A count of bytes is shown exactly up to one kilobyte, and from there on with two decimals of the
largest unit below it. Counts above 2^53 are rounded to 53 binary digits before they are divided.
-/

namespace Switchboard.Remote

def kilobyte : Nat := 1024

def megabyte : Nat := 1024 * kilobyte

def gigabyte : Nat := 1024 * megabyte

/-- Hundredths of `unit` in `n` bytes, rounded; a half goes to the even neighbour. -/
def hundredths (n unit : Nat) : Nat := Number.roundDiv (100 * Number.significant n) unit

def twoDecimals (h : Nat) : String :=
  Number.decimal (h / 100) ++ "." ++ Number.zeroPadded 2 (h % 100)

def formatSize (n : Nat) : String :=
  if gigabyte < n then twoDecimals (hundredths n gigabyte) ++ " GB"
  else if megabyte < n then twoDecimals (hundredths n megabyte) ++ " MB"
  else if kilobyte < n then twoDecimals (hundredths n kilobyte) ++ " KB"
  else Number.decimal n ++ " B"

end Switchboard.Remote
