import Switchboard.Number.Decimal

/-!
# Hosts, terminals and slots

The server numbers hosts and terminals; the desk numbers the slots in which it shows terminals.
-/

namespace Switchboard

structure HostId where
  number : UInt32
deriving DecidableEq, Repr

structure TerminalId where
  number : UInt32
deriving DecidableEq, Repr

/-- The number of a slot. It is never given twice. -/
structure SlotId where
  number : Nat
deriving DecidableEq, Repr

def HostId.text (h : HostId) : String := Number.decimal h.number.toNat

def TerminalId.text (t : TerminalId) : String := Number.decimal t.number.toNat

structure HostInfo where
  id : HostId
  ip : String
  userName : String
  name : String
deriving DecidableEq, Repr

structure Size where
  cols : UInt16
  rows : UInt16
deriving DecidableEq, Repr

end Switchboard
