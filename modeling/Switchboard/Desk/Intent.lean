import Switchboard.Desk.Basic

/-!
# Intents of the user

What a click, a key or a change of size does to the desk. The presenter issued it, so the events it
causes do not come back to the presenter.
-/

namespace Switchboard

inductive Intent where
  | selectHost (host : HostId)
  | addTerminal (host : HostId)
  | selectSlot (host : HostId) (slot : SlotId)
  | closeSlot (host : HostId) (slot : SlotId)
  | key (terminal : TerminalId) (text : String)
  | resize (terminal : TerminalId) (size : Size)
  | openEntry (terminal : TerminalId) (index : Nat)
  | listDirectory (terminal : TerminalId) (path : String)
deriving DecidableEq, Repr

namespace Desk

open Wire

/-- Makes a host current, and opens a terminal there if it has none and settings ask for it. -/
def selectHost (host : HostId) : Step := fun d =>
  match d.roster.selectHost host with
  | (false, _) => (d, [])
  | (true, roster) =>
    let isEmpty := (roster.host? host).any (·.sessionCount = 0)
    { d with roster }.perform
      ((if d.roster.current ≠ some host then [publishHost .presenter] else []) ++
        [refreshView .presenter] ++
        (if d.settings.autoOpen ∧ isEmpty then [requestTerminal host] else []))

/-- Shows the listing of a terminal, or asks for that of the root if there is none yet. -/
def showListing (t : TerminalId) : Step := fun d =>
  match d.sessions.get? t with
  | none => (d, [])
  | some s =>
    if s.listing.isSome then (d, [.cue (.entries s)])
    else (d, [.send (.file t Remote.root true)])

def selectSlot (host : HostId) (slot : SlotId) : Step := fun d =>
  match d.roster.selectSlot host slot with
  | (.selected _, roster) =>
    { d with roster }.perform [showSlots host, publishHost .presenter, refreshView .presenter]
  | (.toggled t face, roster) =>
    { d with roster }.perform
      ([showSlots host, tell (.fileBrowser t (face = Face.files))] ++
        (if face = Face.files then [showListing t] else []))
  | (.ignored, _) => (d, [])

def key (t : TerminalId) (text : String) : Step := fun d =>
  if d.sessions.contains t then (d, [.send (.key t text)]) else (d, [])

/-- Asks for another size of a live terminal, unless it was the last one asked for. -/
def resize (t : TerminalId) (size : Size) : Step := fun d =>
  if d.sessions.contains t ∧ d.sizes.get? t ≠ some size then
    ({ d with sizes := d.sizes.put t size }, [.send (.resize t size)])
  else (d, [])

def openEntry (t : TerminalId) (index : Nat) : Step := fun d =>
  match (d.sessions.get? t).bind (·.navigate? index) with
  | some (.list path) => (d, [.send (.file t path true)])
  | some (.download path) => (d, [.cue (.download t path)])
  | none => (d, [])

/-- The directory meant by a path that is typed while a session is shown: relative paths start at
the last listing. -/
def directoryOf (s : Session) (path : String) : String :=
  match s.listing with
  | some l => if path.toList.head? = some '/' then Remote.normalize path
      else Remote.joinPath l.path path
  | none => Remote.normalize path

def listDirectory (t : TerminalId) (path : String) : Step := fun d =>
  match d.sessions.get? t with
  | some s => (d, [.send (.file t (directoryOf s path) true)])
  | none => (d, [])

def handleIntent : Intent → Step
  | .selectHost host => selectHost host
  | .addTerminal host => requestTerminal host
  | .selectSlot host slot => selectSlot host slot
  | .closeSlot host slot => closeSlot .presenter host slot
  | .key t text => key t text
  | .resize t size => resize t size
  | .openEntry t index => openEntry t index
  | .listDirectory t path => listDirectory t path

end Desk

end Switchboard
