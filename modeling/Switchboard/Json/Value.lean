/-!
# JSON values

An object keeps its members in written order, repeated keys included, so that a reader can decide
what a repetition means.
-/

namespace Switchboard.Json

/-- A number, by what can be done with it: a whole number of one machine word, or one that is kept
only as it is written. -/
inductive Numeral where
  /-- A whole number below 2^64, written without sign, fraction or exponent. -/
  | natural (n : Nat)
  | negative (n : Nat)
  /-- Any other number in range, such as `1.5`, `1e0` or `-0`. -/
  | other (written : String)
deriving DecidableEq, Repr

inductive Value where
  | null
  | bool (b : Bool)
  | number (n : Numeral)
  | text (s : String)
  | array (items : List Value)
  | object (members : List (String × Value))

abbrev Members := List (String × Value)

/-- The last member with a key. -/
def Members.last? (key : String) (members : Members) : Option Value :=
  members.reverse.lookup key

def Members.occurrences (key : String) (members : Members) : Nat :=
  members.countP (·.1 == key)

def Value.get? (key : String) : Value → Option Value
  | object members => Members.last? key members
  | _ => none

def Value.text? : Value → Option String
  | text s => some s
  | _ => none

def Value.bool? : Value → Option Bool
  | bool b => some b
  | _ => none

def Value.natural? (bound : Nat) : Value → Option Nat
  | number (.natural n) => if n < bound then some n else none
  | _ => none

def Value.items? : Value → Option (List Value)
  | array items => some items
  | _ => none

end Switchboard.Json
