import Switchboard.Console.Command
import Switchboard.Desk.Intent
import Switchboard.Text.Quoted

/-!
# Commands on a desk

A command names slots by their places, entries by their names, and mostly the host or the terminal
that is shown. On a given desk it stands for an intent or asks for a text; it may also name
something that is not there. Resolving a command changes nothing.
-/

namespace Switchboard

inductive Resolution where
  | intent (i : Intent)
  | reply (text : String)
deriving DecidableEq, Repr

inductive ResolveError where
  | noHostSelected
  | noActiveTerminal
  | unknownHost (host : HostId)
  | noSlot (n : UInt64)
  | nothingToClose
  | nothingSelected
  | noEntry (name : String)
deriving DecidableEq, Repr

def ResolveError.message : ResolveError → String
  | noHostSelected => "no host selected"
  | noActiveTerminal => "no active terminal"
  | unknownHost host => "unknown host " ++ host.text
  | noSlot n => "no slot " ++ Number.decimal n.toNat
  | nothingToClose => "no terminal to close"
  | nothingSelected => "no terminal selected"
  | noEntry name => "no entry named " ++ Text.quoted name

def Host.nth? (h : Host) (n : UInt64) : Option Slot :=
  if n = 0 then none else h.slots[n.toNat - 1]?

namespace Desk

def currentHost (d : Desk) : Except ResolveError Host :=
  d.roster.currentHost?.elim (.error .noHostSelected) .ok

def activeTerminal (d : Desk) : Except ResolveError TerminalId :=
  d.presented.elim (.error .noActiveTerminal) .ok

/-- A slot as it is described: its number, a mark if it is selected, its state and its terminal. -/
def describeSlot (selected : Option SlotId) (index : Nat) (s : Slot) : String :=
  "  [" ++ Number.decimal (index + 1) ++ "]" ++ (if selected = some s.id then ">" else "") ++
    s.state.text ++ s.terminal?.elim "" fun t => ":" ++ t.text

/-- A host as it is described: a mark if it is current, its number, its names and its slots. -/
def describeHost (current : Option HostId) (h : Host) : String :=
  (if current = some h.id then "*" else " ") ++ " " ++ h.id.text ++ " " ++ h.info.userName ++ "@" ++
    h.info.name ++ " (" ++ h.info.ip ++ ")" ++
    String.join (h.slots.mapIdx (describeSlot h.selected)) ++ "\n"

def describeHosts (d : Desk) : String :=
  if d.roster.hosts = [] then "no hosts connected"
  else Text.trimBlankEnd (String.join (d.roster.hosts.map (describeHost d.roster.current)))

def resolve (d : Desk) : Command → Except ResolveError Resolution
  | .hosts => return .reply d.describeHosts
  | .host id =>
    match d.roster.host? id with
    | some _ => return .intent (.selectHost id)
    | none => throw (.unknownHost id)
  | .add => do return .intent (.addTerminal (← d.currentHost).id)
  | .slot n => do
    let host ← d.currentHost
    match host.nth? n with
    | none => throw (.noSlot n)
    | some s =>
      if s.isFree then return .intent (.addTerminal host.id)
      else return .intent (.selectSlot host.id s.id)
  | .close n => do
    let host ← d.currentHost
    match (n.elim host.selectedSlot? host.nth?).filter (!·.isFree) with
    | none => throw .nothingToClose
    | some s => return .intent (.closeSlot host.id s.id)
  | .files => do
    let host ← d.currentHost
    match host.selected with
    | none => throw .nothingSelected
    | some slot => return .intent (.selectSlot host.id slot)
  | .ls path => do return .intent (.listDirectory (← d.activeTerminal) path)
  | .openEntry name => do
    let t ← d.activeTerminal
    match (d.sessions.get? t).bind (·.indexOf? name) with
    | none => throw (.noEntry name)
    | some index => return .intent (.openEntry t index)
  | .resize size => do return .intent (.resize (← d.activeTerminal) size)
  | .keys text => do return .intent (.key (← d.activeTerminal) text)

/-- What a command does: the intent that it stands for, or else a text for the user. -/
def handleCommand (c : Command) : Step := fun d =>
  match d.resolve c with
  | .ok (.intent i) => handleIntent i d
  | .ok (.reply text) => tell (.notice text) d
  | .error e => tell (.notice e.message) d

end Desk

end Switchboard
