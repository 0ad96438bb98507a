import Switchboard.Proofs.Roster.WellFormed

/-!
# Outlines of rosters

What a roster comes to without its slots: for each host the terminals in order and the face of each,
whether one more is asked for, and which one is selected. An outline changes by rules of its own, in
which no free slot and no slot number occurs.
-/

namespace Switchboard

/-- A host without its slots. -/
structure HostOutline where
  info : HostInfo
  terminals : List (TerminalId × Face) := []
  /-- Whether a terminal is asked for. -/
  pending : Bool := false
  selected : Option TerminalId := none
deriving DecidableEq, Repr

/-- A roster without slots. -/
structure Outline where
  hosts : List HostOutline := []
  current : Option HostId := none
deriving DecidableEq, Repr

namespace Outline

/-- A change of an outline. A slot is named by the terminal that is bound to it, if there is one. -/
inductive Edit where
  | addHost (info : HostInfo)
  | removeHost (host : HostId)
  | selectHost (host : HostId)
  | attach (host : HostId) (terminal : TerminalId)
  | request (host : HostId)
  | selectSlot (host : HostId) (terminal : Option TerminalId)
  | closeSlot (host : HostId) (terminal : Option TerminalId)
  | clear
deriving DecidableEq, Repr

/-- What comes of a change. A slot is told by its state after the change, and `none` would be a slot
that is not there. -/
inductive Answer where
  | hostAdded (new : Bool)
  | hostRemoved (removed : Option (HostOutline × Bool))
  | hostSelected (known : Bool)
  | attached (slot : Option SlotState) (requested selected : Bool)
  | unknownHost
  | duplicate
  | atCapacity
  | requested (slot : Option SlotState)
  /-- No terminal is asked for. -/
  | refused
  | clicked (outcome : SelectOutcome)
  | closed (closed : Option ClosedSlot)
  | cleared
deriving DecidableEq, Repr

def host? (o : Outline) (id : HostId) : Option HostOutline := o.hosts.find? (·.info.id = id)

def put (o : Outline) (host : HostOutline) : Outline :=
  { o with hosts := o.hosts.map fun h => if h.info.id = host.info.id then host else h }

/-! ### The rules -/

def addHost (o : Outline) (info : HostInfo) : Answer × Outline :=
  if (o.host? info.id).isSome then (.hostAdded false, o)
  else (.hostAdded true, { hosts := o.hosts ++ [{ info }], current := o.current.or (some info.id) })

def removeHost (o : Outline) (id : HostId) : Answer × Outline :=
  match o.host? id with
  | none => (.hostRemoved none, o)
  | some h =>
    (.hostRemoved (some (h, o.current = some id)),
      { hosts := o.hosts.filter (·.info.id ≠ id)
        current := if o.current = some id then none else o.current })

def selectHost (o : Outline) (id : HostId) : Answer × Outline :=
  if (o.host? id).isSome then (.hostSelected true, { o with current := some id })
  else (.hostSelected false, o)

/-- A terminal comes last on its host. One that was asked for is selected and its host becomes
current; any other one is selected if none is. -/
def attach (o : Outline) (cap : Nat) (id : HostId) (t : TerminalId) : Answer × Outline :=
  match o.host? id with
  | none => (.unknownHost, o)
  | some h =>
    if t ∈ h.terminals.map Prod.fst then (.duplicate, o)
    else if h.pending = false ∧ cap ≤ h.terminals.length then (.atCapacity, o)
    else
      let selects : Bool := h.pending || h.selected.isNone
      (.attached (some (.bound t .terminal)) h.pending selects,
        { o.put { h with
            terminals := h.terminals ++ [(t, .terminal)]
            pending := false
            selected := if selects then some t else h.selected } with
          current := if h.pending then some id else o.current })

/-- A terminal can be asked for below the cap, one at a time. -/
def request (o : Outline) (cap : Nat) (id : HostId) : Answer × Outline :=
  match o.host? id with
  | none => (.refused, o)
  | some h =>
    if h.pending = false ∧ h.terminals.length < cap then
      (.requested (some .activating), o.put { h with pending := true })
    else (.refused, o)

/-- The selected terminal of the current host shows its other face; any other terminal is selected
and its host becomes current. -/
def selectSlot (o : Outline) (id : HostId) (terminal : Option TerminalId) : Answer × Outline :=
  match o.host? id, terminal with
  | some h, some t =>
    match h.terminals.find? (·.1 = t) with
    | none => (.clicked .ignored, o)
    | some (_, face) =>
      if o.current = some id ∧ h.selected = some t then
        (.clicked (.toggled t face.flip),
          o.put { h with
            terminals := h.terminals.map fun p => if p.1 = t then (t, face.flip) else p })
      else
        (.clicked (.selected t), { o.put { h with selected := some t } with current := some id })
  | _, _ => (.clicked .ignored, o)

/-- A terminal goes, and the last one that is left is selected. -/
def closeSlot (o : Outline) (id : HostId) (terminal : Option TerminalId) : Answer × Outline :=
  match o.host? id, terminal with
  | some h, some t =>
    if t ∈ h.terminals.map Prod.fst then
      let left := h.terminals.filter (·.1 ≠ t)
      let next := left.getLast?.map Prod.fst
      (.closed (some { terminal := t, next }), o.put { h with terminals := left, selected := next })
    else (.closed none, o)
  | _, _ => (.closed none, o)

def edit (o : Outline) (cap : Nat) : Edit → Answer × Outline
  | .addHost info => o.addHost info
  | .removeHost host => o.removeHost host
  | .selectHost host => o.selectHost host
  | .attach host t => o.attach cap host t
  | .request host => o.request cap host
  | .selectSlot host terminal => o.selectSlot host terminal
  | .closeSlot host terminal => o.closeSlot host terminal
  | .clear => (.cleared, {})

def editAll (o : Outline) (cap : Nat) : List Edit → List Answer × Outline
  | [] => ([], o)
  | e :: edits =>
    let (answer, o) := o.edit cap e
    let (answers, o) := o.editAll cap edits
    (answer :: answers, o)

end Outline

/-! ### The outline of a roster -/

def Slot.bound? (s : Slot) : Option (TerminalId × Face) :=
  match s.state with
  | .bound t face => some (t, face)
  | .idle | .activating => none

def Host.outline (h : Host) : HostOutline where
  info := h.info
  terminals := h.slots.filterMap Slot.bound?
  pending := h.isActivating
  selected := h.active?

namespace Roster

def outline (r : Roster) : Outline := { hosts := r.hosts.map Host.outline, current := r.current }

def stateAt? (r : Roster) (host : HostId) (slot : SlotId) : Option SlotState :=
  ((r.host? host).bind (·.slot? slot)).map Slot.state

def terminalAt? (r : Roster) (host : HostId) (slot : SlotId) : Option TerminalId :=
  ((r.host? host).bind (·.slot? slot)).bind Slot.terminal?

/-- A change of a roster as one of its outline. -/
def sketch (r : Roster) : Edit → Outline.Edit
  | .addHost info => .addHost info
  | .removeHost host => .removeHost host
  | .selectHost host => .selectHost host
  | .attach host t => .attach host t
  | .request host => .request host
  | .selectSlot host slot => .selectSlot host (r.terminalAt? host slot)
  | .closeSlot host slot => .closeSlot host (r.terminalAt? host slot)
  | .clear => .clear

def answer (r : Roster) : Edit → Outline.Answer
  | .addHost info => .hostAdded (r.addHost info).1
  | .removeHost host =>
    .hostRemoved <| (r.removeHost host).1.map fun removed =>
      (removed.host.outline, removed.wasCurrent)
  | .selectHost host => .hostSelected (r.selectHost host).1
  | .attach host t =>
    match r.attach host t with
    | (.attached slot requested selected, r') =>
      .attached (r'.stateAt? host slot) requested selected
    | (.unknownHost, _) => .unknownHost
    | (.duplicate, _) => .duplicate
    | (.atCapacity, _) => .atCapacity
  | .request host =>
    match r.request host with
    | (some slot, r') => .requested (r'.stateAt? host slot)
    | (none, _) => .refused
  | .selectSlot host slot => .clicked (r.selectSlot host slot).1
  | .closeSlot host slot => .closed (r.closeSlot host slot).1
  | .clear => .cleared

def sketchAll (r : Roster) : List Edit → List Outline.Edit
  | [] => []
  | e :: edits => r.sketch e :: (r.edit e).sketchAll edits

def answers (r : Roster) : List Edit → List Outline.Answer
  | [] => []
  | e :: edits => r.answer e :: (r.edit e).answers edits

end Roster

end Switchboard
