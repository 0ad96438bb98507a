import Switchboard.Ident
import Switchboard.Number.Decimal

/-!
# Events

What happened on the desk, told after the state has settled, and the bus that tells it. Subscribers
receive events in the order in which they subscribed. An event passes by the subscriber that sent
it. A subscriber may drop out at any delivery; what it decides may depend on all that it received,
so a handler is a function of the events received so far.
-/

namespace Switchboard

/-- Something that happened. -/
inductive Event where
  | terminalAdded (host : HostId) (terminal : TerminalId)
  | terminalClosed (host : HostId) (terminal : TerminalId)
  | hostSelected (host : Option HostId)
  | terminalSelected (terminal : Option TerminalId)
deriving DecidableEq, Repr

/-- The number of a subscriber. It is never given twice. -/
structure SubscriberId where
  number : Nat
deriving DecidableEq, Repr

/-- Whether a subscriber stays, given the events that it received, last one first. -/
abbrev Handler := List Event → Bool

def Handler.stay : Handler := fun _ => true

def Handler.leaveAt (k : Nat) : Handler := fun received => received.length != k

structure Subscription where
  id : SubscriberId
  handler : Handler
  received : List Event := []

/-- The subscribers in order of subscription. Subscribers are counted by `next`, which stands for a
counter of 64 bits and is exact below `2 ^ 64` subscriptions. -/
structure Bus where
  next : Nat := 0
  subscriptions : List Subscription := []

abbrev Delivery := SubscriberId × Event

namespace Bus

def subscribe (b : Bus) (handler : Handler) : SubscriberId × Bus :=
  (⟨b.next⟩,
    { next := b.next + 1
      subscriptions := b.subscriptions ++ [{ id := ⟨b.next⟩, handler }] })

def contains (b : Bus) (id : SubscriberId) : Bool := b.subscriptions.any (·.id == id)

def unsubscribe (b : Bus) (id : SubscriberId) : Bus :=
  { b with subscriptions := b.subscriptions.filter (·.id ≠ id) }

def size (b : Bus) : Nat := b.subscriptions.length

/-- Whether there is one subscriber less once a subscriber has been removed. -/
def removes (b : Bus) (id : SubscriberId) : Bool := (b.unsubscribe id).size != b.size

/-- A subscriber after it has received an event, unless it drops out. -/
def deliver? (e : Event) (s : Subscription) : Option Subscription :=
  if s.handler (e :: s.received) then some { s with received := e :: s.received } else none

def audience (b : Bus) (sender : Option SubscriberId) : List Subscription :=
  b.subscriptions.filter fun s => sender ≠ some s.id

/-- Delivers an event to every subscriber but the sender. -/
def publish (b : Bus) (sender : Option SubscriberId) (e : Event) : List Delivery × Bus :=
  ((b.audience sender).map fun s => (s.id, e),
    { b with subscriptions := b.subscriptions.filterMap fun s =>
        if sender = some s.id then some s else deliver? e s })

def text (b : Bus) : String := "EventBus \x7b subscribers: " ++ Number.decimal b.size ++ " \x7d"

end Bus

end Switchboard
