import Switchboard.Ident

/-!
# Slots

A slot of a host starts as an offer to open a terminal, waits while a request for one is under way,
and is bound once a terminal has been opened. A bound slot shows either the terminal or its files.
-/

namespace Switchboard

inductive Face where
  | terminal
  | files
deriving DecidableEq, Repr

/-- The state of a slot. -/
inductive SlotState where
  | idle
  | activating
  | bound (terminal : TerminalId) (face : Face)
deriving DecidableEq, Repr

structure Slot where
  id : SlotId
  state : SlotState
deriving DecidableEq, Repr

def Face.flip : Face → Face
  | terminal => files
  | files => terminal

def SlotState.text : SlotState → String
  | idle => "idle"
  | activating => "activating"
  | bound _ .terminal => "terminal"
  | bound _ .files => "file_list"

namespace Slot

def terminal? (s : Slot) : Option TerminalId :=
  match s.state with
  | .bound t _ => some t
  | .idle | .activating => none

def face? (s : Slot) : Option Face :=
  match s.state with
  | .bound _ face => some face
  | .idle | .activating => none

def isFree (s : Slot) : Bool := s.terminal?.isNone

def offer (id : SlotId) : Slot := ⟨id, .idle⟩

def ofTerminal (id : SlotId) (t : TerminalId) : Slot := ⟨id, .bound t .terminal⟩

end Slot

end Switchboard
