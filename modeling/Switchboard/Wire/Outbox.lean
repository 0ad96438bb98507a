import Switchboard.Wire.Request

/-!
# The queue of requests

Requests wait in an outbox until the connection writes them. Once the outbox is closed it takes none
and gives none.
-/

namespace Switchboard.Wire

/-- The requests that wait, oldest first. -/
structure Outbox where
  queue : List Request := []
  isOpen : Bool := true
deriving DecidableEq, Repr

namespace Outbox

def send (o : Outbox) (r : Request) : Bool × Outbox :=
  if o.isOpen then (true, { o with queue := o.queue ++ [r] }) else (false, o)

def sendAll (o : Outbox) (rs : List Request) : Outbox :=
  if o.isOpen then { o with queue := o.queue ++ rs } else o

inductive Received where
  | request (r : Request)
  | empty
  | closed
deriving DecidableEq, Repr

def receive (o : Outbox) : Received × Outbox :=
  if o.isOpen then
    match o.queue with
    | [] => (.empty, o)
    | r :: rest => (.request r, { o with queue := rest })
  else (.closed, o)

def close (_ : Outbox) : Outbox := { queue := [], isOpen := false }

@[simp]
theorem isOpen_sendAll (o : Outbox) (rs : List Request) : (o.sendAll rs).isOpen = o.isOpen := by
  unfold sendAll
  split <;> rfl

end Outbox

end Switchboard.Wire
