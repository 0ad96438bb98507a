import Switchboard.Event.Bus
import Switchboard.Roster.Host
import Switchboard.Session.Basic

/-!
# Cues to the presenter

The desk draws nothing. It gives the presenter a cue for everything that changed; a cue carries the
host or the session as it is at that moment.
-/

namespace Switchboard

/-- What the presenter is told. -/
inductive Cue where
  | connected
  | disconnected
  | hostAdded (host : Host)
  | hostRemoved (host : HostId)
  | slotsChanged (host : Host)
  | event (e : Event)
  | present (session : Option Session)
  | output (terminal : TerminalId) (bs : Bytes)
  | fileBrowser (terminal : TerminalId) (visible : Bool)
  | entries (session : Session)
  | download (terminal : TerminalId) (path : String)
  | notice (text : String)

/-- A cue without what it carries besides the facts that a log keeps. -/
inductive Record where
  | connected
  | disconnected
  | hostAdded (host : HostId)
  | hostRemoved (host : HostId)
  | slotsChanged (host : HostId) (states : List SlotState)
  | event (e : Event)
  | present (terminal : Option TerminalId) (retained : Bytes)
  | output (terminal : TerminalId) (bs : Bytes)
  | fileBrowser (terminal : TerminalId) (visible : Bool)
  | entries (terminal : TerminalId) (names : List String)
  | download (terminal : TerminalId) (path : String)
  | notice (text : String)
deriving DecidableEq, Repr

def Cue.record : Cue → Record
  | connected => .connected
  | disconnected => .disconnected
  | hostAdded host => .hostAdded host.id
  | hostRemoved host => .hostRemoved host
  | slotsChanged host => .slotsChanged host.id (host.slots.map Slot.state)
  | event e => .event e
  | present none => .present none []
  | present (some s) => .present (some s.id) s.scrollback.retained
  | output t bs => .output t bs
  | fileBrowser t visible => .fileBrowser t visible
  | entries s => .entries s.id (s.listing.elim [] fun l => l.entries.map (·.name))
  | download t path => .download t path
  | notice text => .notice text

end Switchboard
