import Switchboard.Ident
import Switchboard.Table

/-!
# Resizes that wait

A user who drags a window asks for many sizes in a row. They wait until no resize has come for a
while; then each terminal gets the last size asked for, in the order in which the terminals were
first named. All terminals share one deadline.
-/

namespace Switchboard.Client

/-- The resizes that wait. Times are milliseconds. -/
structure Debounce where
  delay : Nat
  pending : Table TerminalId Size := {}
  deadline : Option Nat := none
deriving DecidableEq

namespace Debounce

/-- Takes in a resize at the time `now`; the wait starts anew. -/
def push (d : Debounce) (now : Nat) (t : TerminalId) (size : Size) : Debounce :=
  { d with pending := d.pending.put t size, deadline := some (now + d.delay) }

def isDue (d : Debounce) (now : Nat) : Bool := d.deadline.any (· ≤ now)

def take (d : Debounce) : List (TerminalId × Size) × Debounce :=
  (d.pending.entries, { delay := d.delay })

@[simp]
theorem delay_push (d : Debounce) (now : Nat) (t : TerminalId) (size : Size) :
    (d.push now t size).delay = d.delay := rfl

@[simp]
theorem deadline_push (d : Debounce) (now : Nat) (t : TerminalId) (size : Size) :
    (d.push now t size).deadline = some (now + d.delay) := rfl

@[simp]
theorem pending_push (d : Debounce) (now : Nat) (t : TerminalId) (size : Size) :
    (d.push now t size).pending = d.pending.put t size := rfl

end Debounce

end Switchboard.Client
