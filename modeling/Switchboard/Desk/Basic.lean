import Switchboard.Event.Bus
import Switchboard.Presenter.View
import Switchboard.Roster.Basic
import Switchboard.Table
import Switchboard.Wire.Request

/-!
# The desk

All that is known during one connection, and the steps of which every operation on it is made. A
step gives the desk after it and the effects that it had, in order.
-/

namespace Switchboard

structure Settings where
  /-- Whether a terminal is opened on the first host and on a host selected without one. -/
  autoOpen : Bool := false
  cap : Nat := Roster.defaultCap
  scrollback : Nat := Session.defaultCapacity
deriving DecidableEq, Repr

/-- What the desk does besides changing. -/
inductive Effect where
  | cue (c : Cue)
  | send (r : Wire.Request)
  | deliver (d : Delivery)

/-- The state of one connection. -/
structure Desk where
  settings : Settings
  roster : Roster
  sessions : Sessions
  view : View := {}
  bus : Bus := {}
  presenter : SubscriberId := ⟨0⟩
  sizes : Table TerminalId Size := {}

/-- On whose behalf the desk acts. Events do not reach the one who caused them. -/
inductive Origin where
  | server
  | presenter
deriving DecidableEq, Repr

def Effect.cues (es : List Effect) : List Cue :=
  es.filterMap fun | .cue c => some c | _ => none

def Effect.requests (es : List Effect) : List Wire.Request :=
  es.filterMap fun | .send r => some r | _ => none

def Effect.deliveries (es : List Effect) : List Delivery :=
  es.filterMap fun | .deliver d => some d | _ => none

namespace Desk

abbrev Step := Desk → Desk × List Effect

def perform (d : Desk) : List Step → Desk × List Effect
  | [] => (d, [])
  | step :: steps =>
    let (d, effects) := step d
    let (d, more) := d.perform steps
    (d, effects ++ more)

/-- The desk of a connection that has just come up. The presenter is the first subscriber. -/
def start (settings : Settings) : Desk × List Effect :=
  let (presenter, bus) := Bus.subscribe {} Handler.stay
  ({ settings
     roster := { cap := settings.cap }
     sessions := { capacity := settings.scrollback }
     bus
     presenter }, [.cue .connected])

/-- What the end of the connection does: the presenter is told, and the desk is gone. -/
def finish (_ : Desk) : List Effect := [.cue .disconnected]

def subscribe (d : Desk) (handler : Handler) : SubscriberId × Desk :=
  let (id, bus) := d.bus.subscribe handler
  (id, { d with bus })

def unsubscribe (d : Desk) (id : SubscriberId) : Desk := { d with bus := d.bus.unsubscribe id }

def presented (d : Desk) : Option TerminalId := d.view.current

def sender (d : Desk) : Origin → Option SubscriberId
  | .server => none
  | .presenter => some d.presenter

def tell (c : Cue) : Step := fun d => (d, [.cue c])

def tellOf (cue : Host → Cue) (host : HostId) : Step := fun d =>
  (d, ((d.roster.host? host).map fun h => Effect.cue (cue h)).toList)

def ask (r : Wire.Request) : Step := fun d => (d, [.send r])

/-- Publishes an event. The presenter hears it after the other subscribers. -/
def publish (origin : Origin) (e : Event) : Step := fun d =>
  let (deliveries, bus) := d.bus.publish (d.sender origin) e
  ({ d with bus },
    (deliveries.filter (·.1 ≠ d.presenter)).map .deliver ++
      (deliveries.filter (·.1 = d.presenter)).map fun delivery => .cue (.event delivery.2))

def publishHost (origin : Origin) : Step := fun d =>
  publish origin (.hostSelected d.roster.current) d

def showSlots (host : HostId) : Step := tellOf .slotsChanged host

/-- The session that should be presented: that of the selected terminal of the current host. -/
def wanted? (d : Desk) : Option Session := d.roster.active?.bind d.sessions.get?

def showsFiles (d : Desk) (t : TerminalId) : Bool :=
  ((d.roster.currentHost?.bind (·.slotOf? t)).bind Slot.face?) = some .files

/-- Presents the session that should be. The files of a terminal whose slot shows them are shown
again. -/
def refreshView (origin : Origin) : Step := fun d =>
  if d.view.changes d.wanted? then
    let (cues, view) := d.view.present d.wanted?
    { d with view }.perform [
      fun d => (d, cues.map .cue),
      fun d => (d, (d.presented.filter d.showsFiles).toList.map fun t =>
        .cue (.fileBrowser t true)),
      publish origin (.terminalSelected view.current)]
  else (d, [])

def forget (t : TerminalId) : Step := fun d =>
  ({ d with sessions := d.sessions.destroy t, sizes := d.sizes.erase t }, [])

/-- Asks for a terminal on a host, where one may be asked for. -/
def requestTerminal (host : HostId) : Step := fun d =>
  match d.roster.request host with
  | (none, _) => (d, [])
  | (some _, roster) => { d with roster }.perform [ask (.openTerminal host), showSlots host]

/-- Closes a slot. The view leaves its terminal before the session ends. The server is told unless
it asked for it. -/
def closeSlot (origin : Origin) (host : HostId) (slot : SlotId) : Step := fun d =>
  match d.roster.closeSlot host slot with
  | (none, _) => (d, [])
  | (some closed, roster) =>
    { d with roster }.perform
      ([refreshView origin] ++
        (if origin = Origin.presenter then [ask (.closeTerminal closed.terminal)] else []) ++
        [forget closed.terminal,
          publish origin (.terminalClosed host closed.terminal),
          showSlots host])

@[simp]
theorem perform_nil (d : Desk) : d.perform [] = (d, []) := rfl

theorem perform_cons (d : Desk) (step : Step) (steps : List Step) :
    d.perform (step :: steps) =
      (((step d).1.perform steps).1, (step d).2 ++ ((step d).1.perform steps).2) := rfl

theorem perform_append (d : Desk) (steps more : List Step) :
    d.perform (steps ++ more) =
      (((d.perform steps).1.perform more).1,
        (d.perform steps).2 ++ ((d.perform steps).1.perform more).2) := by
  induction steps generalizing d with
  | nil => rfl
  | cons step steps ih => simp [perform_cons, ih]

end Desk

end Switchboard
