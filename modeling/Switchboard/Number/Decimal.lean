/-!
# Whole numbers in decimal

Writing with a least width and reading up to a largest value.
-/

namespace Switchboard.Number

def decimal (n : Nat) : String := Nat.repr n

def padStart (width : Nat) (fill : Char) (s : String) : String :=
  String.ofList (List.replicate (width - s.length) fill) ++ s

def padEnd (width : Nat) (s : String) : String :=
  s ++ String.ofList (List.replicate (width - s.length) ' ')

def zeroPadded (width n : Nat) : String := padStart width '0' (decimal n)

def digitValue (c : Char) : Nat := c.toNat - '0'.toNat

inductive NumberError where
  | empty
  | invalidDigit
  | tooLarge
deriving DecidableEq, Repr

def NumberError.message : NumberError → String
  | empty => "cannot parse integer from empty string"
  | invalidDigit => "invalid digit found in string"
  | tooLarge => "number too large to fit in target type"

/-- Reads digits from the left onto `acc`; the first character that is no digit or that takes the
value past `max` decides the error. -/
def readDigits (max : Nat) : Nat → List Char → Except NumberError Nat
  | acc, [] => .ok acc
  | acc, c :: cs =>
    if c.isDigit then
      let value := acc * 10 + digitValue c
      if value ≤ max then readDigits max value cs else .error .tooLarge
    else .error .invalidDigit

/-- Reads a whole number up to `max`: at least one ASCII digit, with an optional `+` before them. -/
def readNumber (max : Nat) (s : String) : Except NumberError Nat :=
  match s.toList with
  | [] => .error .empty
  | ['+'] => .error .invalidDigit
  | '+' :: digits => readDigits max 0 digits
  | digits => readDigits max 0 digits

theorem readDigits_le {max acc n : Nat} {cs : List Char} (h : acc ≤ max)
    (hr : readDigits max acc cs = .ok n) : n ≤ max := by
  induction cs generalizing acc with
  | nil => simp only [readDigits, Except.ok.injEq] at hr; omega
  | cons c cs ih =>
    simp only [readDigits] at hr
    split at hr
    · split at hr
      · rename_i hv; exact ih hv hr
      · simp at hr
    · simp at hr

end Switchboard.Number
