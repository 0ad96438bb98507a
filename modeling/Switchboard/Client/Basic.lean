import Switchboard.Client.Connection

/-!
# The client

A client keeps a connection to its server. It gives up when the first attempt fails, and when too
many attempts after a loss have failed; between attempts it waits. Every connection starts from
nothing: inputs that came while there was none are discarded.
-/

namespace Switchboard

namespace Client

structure Settings where
  socketUrl : String
  /-- How many attempts to reconnect follow a loss; 0 means that a loss ends the run. -/
  maxReconnects : Nat
  /-- Milliseconds without a resize before the last one is sent. -/
  debounce : Nat
  desk : Switchboard.Settings
deriving DecidableEq, Repr

/-- Milliseconds before the first attempt of a series would be made. -/
def firstWait : Nat := 500

def longestWait : Nat := 10000

/-- The wait in milliseconds before an attempt: it doubles from attempt to attempt up to the
longest wait. -/
def backoff (attempt : Nat) : Nat := min (firstWait * Nat.pow 2 (min attempt 20)) longestWait

inductive RunError where
  | neverConnected (cause : String)
  /-- As many attempts after a loss as settings allow have failed. -/
  | exhausted (cause : String)
  | lost (fault : Wire.Fault)
deriving DecidableEq, Repr

def RunError.message : RunError → String
  | neverConnected cause => "connection failed: " ++ cause
  | exhausted cause => "max reconnects reached: " ++ cause
  | lost fault => "disconnected: " ++ fault.text

inductive Phase where
  | connecting
  | connected (c : Connection)
  | waiting (wake : Nat)
  | over (result : Except RunError Unit)

end Client

/-- A client. Times are milliseconds. -/
structure Client where
  settings : Client.Settings
  phase : Client.Phase := .connecting
  /-- How many attempts to reconnect have begun since the connection was up. -/
  attempt : Nat := 0
  wasConnected : Bool := false
  inbox : List Client.Input := []
  hasUser : Bool := true
  now : Nat := 0

namespace Client

def isConnecting (c : Client) : Bool := c.phase matches .connecting

def isConnected (c : Client) : Bool := c.phase matches .connected _

def result? (c : Client) : Option (Except RunError Unit) :=
  match c.phase with
  | .over result => some result
  | _ => none

def stop (c : Client) (result : Except RunError Unit) : Client := { c with phase := .over result }

def retry (c : Client) : Client :=
  { c with
    attempt := c.attempt + 1
    phase := .waiting (c.now + backoff (c.attempt + 1)) }

def refused (c : Client) (cause : String) : Client :=
  if !c.isConnecting then c
  else if !c.wasConnected then c.stop (.error (.neverConnected cause))
  else if c.settings.maxReconnects ≤ c.attempt then c.stop (.error (.exhausted cause))
  else c.retry

def accepted (c : Client) : Client × List Output :=
  if !c.isConnecting then (c, [])
  else
    let outcome := Connection.start c.settings.desk c.settings.debounce
    ({ c with
       phase := .connected outcome.connection
       attempt := 0
       wasConnected := true
       inbox := [] }, outcome.outputs)

def ended (c : Client) : Ending → Client
  | .cancelled | .hungUp => c.stop (.ok ())
  | .lost fault => if c.settings.maxReconnects = 0 then c.stop (.error (.lost fault)) else c.retry

def turn (c : Client) (t : Turn) : Client × List Output :=
  match c.phase with
  | .connected connection =>
    let outcome := connection.turn c.now t
    match outcome.ending with
    | none => ({ c with phase := .connected outcome.connection }, outcome.outputs)
    | some ending => (c.ended ending, outcome.outputs ++ outcome.connection.finish)
  | _ => (c, [])

def cancel (c : Client) : Client × List Output :=
  match c.phase with
  | .connecting | .waiting _ => (c.stop (.ok ()), [])
  | .connected _ => c.turn .cancel
  | .over _ => (c, [])

def submit (c : Client) (i : Input) : Client :=
  if c.result?.isSome || !c.hasUser then c else { c with inbox := c.inbox ++ [i] }

def hangUp (c : Client) : Client := { c with hasUser := false }

def advance (c : Client) (ms : Nat) : Client :=
  let now := c.now + ms
  match c.phase with
  | .waiting wake => { c with now, phase := if wake ≤ now then .connecting else .waiting wake }
  | _ => { c with now }

end Client

end Switchboard
