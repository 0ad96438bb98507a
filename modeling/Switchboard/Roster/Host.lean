import Switchboard.Roster.Slot

/-!
# Hosts

A host has a row of slots. Below the cap on terminals one free slot ends the row, on which a
terminal can be asked for; at the cap there is none.
-/

namespace Switchboard

/-- A connected host. -/
structure Host where
  info : HostInfo
  /-- The slots from left to right; a free slot is the last one. -/
  slots : List Slot
  /-- The slot whose terminal is shown when the host is current. -/
  selected : Option SlotId
deriving DecidableEq, Repr

namespace Host

def id (h : Host) : HostId := h.info.id

def slot? (h : Host) (id : SlotId) : Option Slot := h.slots.find? (·.id = id)

def slotOf? (h : Host) (t : TerminalId) : Option Slot := h.slots.find? (·.terminal? = some t)

def selectedSlot? (h : Host) : Option Slot := h.selected.bind h.slot?

def active? (h : Host) : Option TerminalId := h.selectedSlot?.bind Slot.terminal?

def terminals (h : Host) : List TerminalId := h.slots.filterMap Slot.terminal?

def sessionCount (h : Host) : Nat := h.terminals.length

def free? (h : Host) : Option Slot := h.slots.find? Slot.isFree

def activating? (h : Host) : Option Slot := h.slots.find? (·.state = .activating)

def isActivating (h : Host) : Bool := h.activating?.isSome

def idle? (h : Host) : Option Slot := h.slots.find? (·.state = .idle)

def setState (h : Host) (id : SlotId) (state : SlotState) : Host :=
  { h with slots := h.slots.map fun s => if s.id = id then { s with state } else s }

def insertBound (h : Host) (s : Slot) : Host :=
  { h with slots := h.slots.takeWhile (!·.isFree) ++ s :: h.slots.dropWhile (!·.isFree) }

def removeSlot (h : Host) (id : SlotId) : Host :=
  { h with slots := h.slots.filter (·.id ≠ id) }

/-- Adds the free slot that is missing below the cap, or drops the offer at the cap. `next` is the
next slot number; the second result is the one after that, if it was used. -/
def settle (h : Host) (cap next : Nat) : Host × Nat :=
  if h.sessionCount < cap then
    if h.free?.isSome then (h, next)
    else ({ h with slots := h.slots ++ [.offer ⟨next⟩] }, next + 1)
  else ({ h with slots := h.slots.filter (·.state ≠ .idle) }, next)

def lastBound? (h : Host) : Option Slot := (h.slots.filter (!·.isFree)).getLast?

@[simp]
theorem info_setState (h : Host) (id : SlotId) (state : SlotState) :
    (h.setState id state).info = h.info := rfl

@[simp]
theorem info_settle (h : Host) (cap next : Nat) : (h.settle cap next).1.info = h.info := by
  unfold settle
  repeat' split
  all_goals rfl

end Host

end Switchboard
