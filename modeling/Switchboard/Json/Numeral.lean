import Switchboard.Json.Value
import Switchboard.Number.Decimal
import Switchboard.Number.Rounding

/-!
# Numbers in a JSON text

A number is read as its parts. One written without fraction and exponent is kept exactly where a
machine word holds it. Of every other number only its size matters: it is refused when it is beyond
the largest double-precision number, judged as follows. As many digits as fit a 64-bit word are
taken as a whole number, the decimal point is moved behind them, and the product of the two rounded
factors must be below the point from which numbers round to infinity.
-/

namespace Switchboard.Json

def maxWord : Nat := UInt64.size - 1

def maxExponent : Nat := 0x7fffffff

/-- Takes digits onto a word for as long as the word holds them: the word, and how many were
taken. -/
def absorb (word : Nat) : List Char → Nat × Nat
  | [] => (word, 0)
  | c :: cs =>
    let next := word * 10 + Number.digitValue c
    if next ≤ maxWord then
      let (last, taken) := absorb next cs
      (last, taken + 1)
    else (word, 0)

structure ExponentPart where
  mark : List Char
  digits : List Char

structure NumeralParts where
  negative : Bool
  whole : List Char
  fraction : Option (List Char)
  exponent : Option ExponentPart

def ExponentPart.negative (e : ExponentPart) : Bool := e.mark.contains '-'

def NumeralParts.written (p : NumeralParts) : List Char :=
  (if p.negative then ['-'] else []) ++ p.whole ++ (p.fraction.elim [] ('.' :: ·)) ++
    (p.exponent.elim [] fun e => e.mark ++ e.digits)

/-- The smallest whole number that rounds to infinity. -/
def infinite : Nat := Nat.pow 2 1024 - Nat.pow 2 970

/-- Whether `word * 10 ^ exponent`, with both factors rounded first, is a double-precision
number. -/
def inRange (word : Nat) (exponent : Int) : Bool :=
  word == 0 || decide (exponent < 0) ||
    (decide (exponent ≤ 308) &&
      decide (Number.significant word * Number.significant (Nat.pow 10 exponent.toNat) < infinite))

/-- Whether a number with a fraction, an exponent or too many digits is a double-precision
number. -/
def NumeralParts.inRange (p : NumeralParts) : Bool :=
  let (high, takenWhole) := absorb 0 p.whole
  let (word, takenFraction) := absorb high (p.fraction.getD [])
  let shift : Int := (p.whole.length : Int) - takenWhole - takenFraction
  match p.exponent with
  | none => Json.inRange word shift
  | some e =>
    match Number.readDigits maxExponent 0 e.digits with
    | .ok n => Json.inRange word (if e.negative then shift - n else shift + n)
    | .error _ => word == 0 || e.negative

def spanDigits (cs : List Char) : List Char × List Char :=
  (cs.takeWhile Char.isDigit, cs.dropWhile Char.isDigit)

/-- Reads the digits of a whole part: no zero stands before another digit. -/
def readWhole? (cs : List Char) : Option (List Char × List Char) :=
  match spanDigits cs with
  | ([], _) => none
  | ('0' :: _ :: _, _) => none
  | found => some found

def readFraction? : List Char → Option (Option (List Char) × List Char)
  | '.' :: cs =>
    match spanDigits cs with
    | ([], _) => none
    | (digits, rest) => some (some digits, rest)
  | cs => some (none, cs)

def readExponentDigits? (letter : Char) (cs : List Char) : Option (ExponentPart × List Char) :=
  let (mark, cs) :=
    match cs with
    | '-' :: cs => ([letter, '-'], cs)
    | '+' :: cs => ([letter, '+'], cs)
    | cs => ([letter], cs)
  match spanDigits cs with
  | ([], _) => none
  | (digits, rest) => some ({ mark, digits }, rest)

def readExponent? : List Char → Option (Option ExponentPart × List Char)
  | c :: cs =>
    if c = 'e' ∨ c = 'E' then
      (readExponentDigits? c cs).map fun (e, rest) => (some e, rest)
    else some (none, c :: cs)
  | [] => some (none, [])

def readMinus : List Char → Bool × List Char
  | '-' :: cs => (true, cs)
  | cs => (false, cs)

def NumeralParts.read? (cs : List Char) : Option (NumeralParts × List Char) := do
  let (negative, cs) := readMinus cs
  let (whole, cs) ← readWhole? cs
  let (fraction, cs) ← readFraction? cs
  let (exponent, cs) ← readExponent? cs
  return ({ negative, whole, fraction, exponent }, cs)

def NumeralParts.numeral? (p : NumeralParts) : Option Numeral :=
  let other := if p.inRange then some (.other (String.ofList p.written)) else none
  if p.fraction.isSome || p.exponent.isSome then other
  else
    match Number.readDigits maxWord 0 p.whole, p.negative with
    | .ok n, false => some (.natural n)
    | .ok n, true => if 0 < n ∧ n ≤ Nat.pow 2 63 then some (.negative n) else other
    | .error _, _ => other

def Numeral.read? (cs : List Char) : Option (Numeral × List Char) := do
  let (parts, rest) ← NumeralParts.read? cs
  let n ← parts.numeral?
  return (n, rest)

end Switchboard.Json
