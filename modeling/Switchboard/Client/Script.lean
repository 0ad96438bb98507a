import Switchboard.Client.Basic

/-!
# Scripts of a run

What happens to a client from outside, and what the client does by itself in between: it takes every
turn that is ready. Requests are written before inputs are taken, and inputs are taken before
resizes fire; the socket takes every write.
-/

namespace Switchboard.Client

def turns (c : Client) : List Turn → Client × List Output
  | [] => (c, [])
  | t :: ts =>
    let (c, out) := c.turn t
    let (c, more) := c.turns ts
    (c, out ++ more)

def queued (c : Client) : Nat :=
  match c.phase with
  | .connected connection => connection.outbox.queue.length
  | _ => 0

def drain (c : Client) : Client × List Output := c.turns (List.replicate c.queued (.write true))

def turnAndDrain (c : Client) (t : Turn) : Client × List Output :=
  let (c, out) := c.turn t
  let (c, more) := c.drain
  (c, out ++ more)

def turnsAndDrain (c : Client) : List Turn → Client × List Output
  | [] => (c, [])
  | t :: ts =>
    let (c, out) := c.turnAndDrain t
    let (c, more) := c.turnsAndDrain ts
    (c, out ++ more)

def settle (c : Client) : Client × List Output :=
  if c.isConnected then
    { c with inbox := [] }.turnsAndDrain
      (c.inbox.map Turn.input ++ (if c.hasUser then [] else [Turn.hangUp]) ++ [Turn.fire])
  else (c, [])

inductive Happening where
  | accepted
  | refused (cause : String)
  | read (f : Wire.Frame)
  | submit (i : Input)
  | hangUp
  | cancel
  | advance (ms : Nat)
deriving DecidableEq, Repr

def apply (c : Client) : Happening → Client × List Output
  | .accepted => c.accepted
  | .refused cause => (c.refused cause, [])
  | .read f => c.turnAndDrain (.read f)
  | .submit i => (c.submit i, [])
  | .hangUp => (c.hangUp, [])
  | .cancel => c.cancel
  | .advance ms => (c.advance ms, [])

def happen (c : Client) (h : Happening) : Client × List Output :=
  let (c, out) := c.apply h
  let (c, more) := c.settle
  (c, out ++ more)

def run (c : Client) : List Happening → Client × List Output
  | [] => (c, [])
  | h :: hs =>
    let (c, out) := c.happen h
    let (c, more) := c.run hs
    (c, out ++ more)

end Switchboard.Client
