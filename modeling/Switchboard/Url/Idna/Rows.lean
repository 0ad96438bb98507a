import Switchboard.Url.Percent

/-!
# Tables of code points

The tables of this folder are written as rows of items in hexadecimal digits. An item is a code
point or a range of them, perhaps with a step, and perhaps with an assignment: `41-5A=61` assigns
`61` to `41` and so on up to the end of the range, `100-12E/2=101` does so with every second one,
and `DF=73.73` assigns two code points.
-/

namespace Switchboard.Url.Idna

structure Item where
  first : Nat
  last : Nat
  step : Nat
  target : List Nat
deriving DecidableEq, Repr

def readHex (cs : List Char) : Nat :=
  cs.foldl (fun acc c => acc * 16 + (hexValue? c).getD 0) 0

def cut (mark : Char) (cs : List Char) : List Char × List Char :=
  (cs.takeWhile (· != mark), (cs.dropWhile (· != mark)).drop 1)

def Item.read (cs : List Char) : Item :=
  let (place, target) := cut '=' cs
  let (range, step) := cut '/' place
  let (first, last) := cut '-' range
  { first := readHex first
    last := if last.isEmpty then readHex first else readHex last
    step := if step.isEmpty then 1 else readHex step
    target := if target.isEmpty then [] else (target.splitOn '.').map readHex }

def Item.covers (item : Item) (n : Nat) : Bool :=
  item.first ≤ n && n ≤ item.last && (n - item.first) % item.step == 0

def Item.assigned (item : Item) (n : Nat) : List Nat :=
  match item.target with
  | [t] => [t + (n - item.first)]
  | ts => ts

def readRows (rows : List String) : List Item :=
  rows.flatMap fun row => (row.toList.splitOn ' ').map Item.read

def holds (table : List Item) (n : Nat) : Bool := table.any (·.covers n)

/-- What a table assigns to a code point. -/
def assigned? (table : List Item) (n : Nat) : Option (List Nat) :=
  (table.find? (·.covers n)).map (·.assigned n)

end Switchboard.Url.Idna
