import Switchboard.Client.Debounce
import Switchboard.Desk.Operation
import Switchboard.Wire.Frame
import Switchboard.Wire.Outbox

/-!
# One connection

While a web socket is open, its desk takes frames and inputs, its outbox is written to the socket,
and resizes wait for their deadline. Each of these is a turn; the turns come in any order. A
connection ends when the socket is lost, when the user side hangs up, or when it is cancelled.
-/

namespace Switchboard.Client

open Wire

inductive Input where
  | intent (i : Intent)
  | command (c : Command)
deriving DecidableEq, Repr

inductive Output where
  | cue (c : Cue)
  | frame (text : String)

def Output.cues (os : List Output) : List Cue :=
  os.filterMap fun | .cue c => some c | .frame _ => none

def Output.frames (os : List Output) : List String :=
  os.filterMap fun | .frame text => some text | .cue _ => none

structure Connection where
  desk : Desk
  outbox : Outbox := {}
  debounce : Debounce

inductive Turn where
  | read (f : Frame)
  /-- The oldest request is written to the socket, which takes it or not. -/
  | write (taken : Bool)
  | input (i : Input)
  | fire
  | hangUp
  | cancel
deriving DecidableEq, Repr

inductive Ending where
  | cancelled
  | hungUp
  | lost (fault : Fault)
deriving DecidableEq, Repr

structure Outcome where
  connection : Connection
  outputs : List Output := []
  ending : Option Ending := none

namespace Connection

def start (settings : Switchboard.Settings) (delay : Nat) : Outcome :=
  let (desk, effects) := Desk.start settings
  { connection := { desk, debounce := { delay } }
    outputs := (Effect.cues effects).map .cue }

def finish (c : Connection) : List Output := (Effect.cues c.desk.finish).map .cue

def act (c : Connection) (step : Desk.Step) : Outcome :=
  let (desk, effects) := step c.desk
  { connection := { c with desk, outbox := c.outbox.sendAll (Effect.requests effects) }
    outputs := (Effect.cues effects).map .cue }

def read (c : Connection) (f : Frame) : Outcome :=
  match f.inbound with
  | .report r => c.act (Desk.handle (.report r))
  | .skip => { connection := c }
  | .closed fault => { connection := c, ending := some (.lost fault) }

def write (c : Connection) (taken : Bool) : Outcome :=
  match c.outbox.receive with
  | (.request r, outbox) =>
    match r.transmit taken with
    | .ok text => { connection := { c with outbox }, outputs := [.frame text] }
    | .error fault =>
      { connection := { c with outbox }
        ending := if fault.code.endsConnection then some (.lost fault) else none }
  | _ => { connection := c }

/-- Takes an input; a resize from the presenter waits. -/
def input (c : Connection) (now : Nat) : Input → Outcome
  | .intent (.resize t size) => { connection := { c with debounce := c.debounce.push now t size } }
  | .intent i => c.act (Desk.handle (.intent i))
  | .command command => c.act (Desk.handle (.command command))

def fire (c : Connection) (now : Nat) : Outcome :=
  if c.debounce.isDue now then
    let (resizes, debounce) := c.debounce.take
    { c with debounce }.act fun d =>
      d.run (resizes.map fun (t, size) => .intent (.resize t size))
  else { connection := c }

def turn (c : Connection) (now : Nat) : Turn → Outcome
  | .read f => c.read f
  | .write taken => c.write taken
  | .input i => c.input now i
  | .fire => c.fire now
  | .hangUp => { connection := c, ending := some .hungUp }
  | .cancel => { connection := c, ending := some .cancelled }

/-- Takes turns, each at its time, until one ends the connection. -/
def run (c : Connection) : List (Nat × Turn) → Outcome
  | [] => { connection := c }
  | (now, t) :: turns =>
    let first := c.turn now t
    if first.ending.isSome then first
    else
      let rest := first.connection.run turns
      { rest with outputs := first.outputs ++ rest.outputs }

@[simp]
theorem run_nil (c : Connection) : c.run [] = { connection := c } := rfl

theorem run_cons_of_ending {c : Connection} {now : Nat} {t : Turn} {e : Ending}
    (turns : List (Nat × Turn)) (h : (c.turn now t).ending = some e) :
    c.run ((now, t) :: turns) = c.turn now t := by
  simp [run, h]

theorem run_cons_of_none {c : Connection} {now : Nat} {t : Turn} (turns : List (Nat × Turn))
    (h : (c.turn now t).ending = none) :
    c.run ((now, t) :: turns) =
      { (c.turn now t).connection.run turns with
        outputs := (c.turn now t).outputs ++ ((c.turn now t).connection.run turns).outputs } := by
  simp [run, h]

end Connection

end Switchboard.Client
