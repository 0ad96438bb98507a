import Switchboard.Roster.Host

/-!
# The roster

The connected hosts in order of connection, and the one that is current. Every slot gets a number
that no slot had before.
-/

namespace Switchboard

/-- The connected hosts. Slots are counted by `next`, which stands for a counter of 64 bits and is
exact below `2 ^ 64` slots. -/
structure Roster where
  hosts : List Host := []
  current : Option HostId := none
  next : Nat := 0
  cap : Nat
deriving DecidableEq, Repr

inductive AttachOutcome where
  /-- The terminal has a slot. `requested`: it answers the request that was under way.
  `selected`: its slot is now the selected one of its host. -/
  | attached (slot : SlotId) (requested selected : Bool)
  | unknownHost
  | duplicate
  | atCapacity
deriving DecidableEq, Repr

inductive SelectOutcome where
  | selected (terminal : TerminalId)
  | toggled (terminal : TerminalId) (face : Face)
  | ignored
deriving DecidableEq, Repr

structure ClosedSlot where
  terminal : TerminalId
  next : Option TerminalId
deriving DecidableEq, Repr

structure RemovedHost where
  host : Host
  wasCurrent : Bool
deriving DecidableEq, Repr

namespace Roster

/-- How many terminals a host may have unless settings say otherwise. -/
def defaultCap : Nat := 4

def host? (r : Roster) (id : HostId) : Option Host := r.hosts.find? (·.id = id)

def currentHost? (r : Roster) : Option Host := r.current.bind r.host?

def active? (r : Roster) : Option TerminalId := r.currentHost?.bind Host.active?

def locate? (r : Roster) (t : TerminalId) : Option (HostId × SlotId) :=
  r.hosts.findSome? fun h => (h.slotOf? t).map fun s => (h.id, s.id)

def put (r : Roster) (host : Host) : Roster :=
  { r with hosts := r.hosts.map fun h => if h.id = host.id then host else h }

def putSettled (r : Roster) (host : Host) : Roster :=
  { r.put (host.settle r.cap r.next).1 with next := (host.settle r.cap r.next).2 }

/-- Adds a host after the others; it becomes current if none is. A host that is connected is left
alone. -/
def addHost (r : Roster) (info : HostInfo) : Bool × Roster :=
  match r.host? info.id with
  | some _ => (false, r)
  | none =>
    let (host, next) := Host.settle { info, slots := [], selected := none } r.cap r.next
    (true,
      { r with
        hosts := r.hosts ++ [host]
        current := r.current.or (some info.id)
        next })

def removeHost (r : Roster) (id : HostId) : Option RemovedHost × Roster :=
  match r.host? id with
  | none => (none, r)
  | some host =>
    (some { host, wasCurrent := r.current = some id },
      { r with
        hosts := r.hosts.filter (·.id ≠ id)
        current := if r.current = some id then none else r.current })

def selectHost (r : Roster) (id : HostId) : Bool × Roster :=
  match r.host? id with
  | none => (false, r)
  | some _ => (true, { r with current := some id })

/-- Binds a terminal to the slot that waits for it, or to a new slot before the free one. The slot
is selected if it was asked for or if no slot of the host is; the host becomes current only if the
terminal was asked for. -/
def attach (r : Roster) (id : HostId) (t : TerminalId) : AttachOutcome × Roster :=
  match r.host? id with
  | none => (.unknownHost, r)
  | some host =>
    if (host.slotOf? t).isSome then (.duplicate, r)
    else
      match host.activating? with
      | some slot =>
        let host := { host.setState slot.id (.bound t .terminal) with selected := some slot.id }
        (.attached slot.id true true, { r.putSettled host with current := some id })
      | none =>
        if r.cap ≤ host.sessionCount then (.atCapacity, r)
        else
          let slot := Slot.ofTerminal ⟨r.next⟩ t
          let host' := { host.insertBound slot with selected := host.selected.or (some slot.id) }
          (.attached slot.id false host.selected.isNone,
            { r with next := r.next + 1 }.putSettled host')

/-- Starts a request for a terminal: the slot that waits for it. -/
def request (r : Roster) (id : HostId) : Option SlotId × Roster :=
  match r.host? id with
  | none => (none, r)
  | some host =>
    if host.isActivating then (none, r)
    else
      match host.idle? with
      | none => (none, r)
      | some slot => (some slot.id, r.put (host.setState slot.id .activating))

/-- Clicks on a bound slot: the selected slot of the current host shows its other face, any other
slot is selected and its host becomes current. -/
def selectSlot (r : Roster) (id : HostId) (slotId : SlotId) : SelectOutcome × Roster :=
  match r.host? id with
  | none => (.ignored, r)
  | some host =>
    match (host.slot? slotId).map Slot.state with
    | some (.bound t face) =>
      if r.current = some id ∧ host.selected = some slotId then
        (.toggled t face.flip, r.put (host.setState slotId (.bound t face.flip)))
      else
        (.selected t, { r.put { host with selected := some slotId } with current := some id })
    | _ => (.ignored, r)

/-- Closes a bound slot; the last bound slot that is left is selected. -/
def closeSlot (r : Roster) (id : HostId) (slotId : SlotId) : Option ClosedSlot × Roster :=
  match r.host? id with
  | none => (none, r)
  | some host =>
    match (host.slot? slotId).bind Slot.terminal? with
    | none => (none, r)
    | some t =>
      let left := host.removeSlot slotId
      let last := left.lastBound?
      (some { terminal := t, next := last.bind Slot.terminal? },
        r.putSettled { left with selected := last.map Slot.id })

def clear (r : Roster) : Roster := { r with hosts := [], current := none }

end Roster

def ClosedSlot.hostEmpty (c : ClosedSlot) : Bool := c.next.isNone

end Switchboard
