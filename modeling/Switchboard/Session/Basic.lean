import Switchboard.Remote.Listing
import Switchboard.Session.Scrollback

/-!
# Sessions

The live terminals, each with its output and the last listing of a directory. What arrives for a
terminal that is not live is dropped.
-/

namespace Switchboard

structure Session where
  id : TerminalId
  host : HostId
  scrollback : Session.Scrollback
  listing : Option Remote.Listing

/-- The live terminals. `capacity` is how many bytes of output are kept of each. -/
structure Sessions where
  live : List Session := []
  capacity : Nat

namespace Session

/-- How many bytes of output are kept of a terminal unless settings say otherwise. -/
def defaultCapacity : Nat := 64 * 1024

def start (id : TerminalId) (host : HostId) (capacity : Nat) : Session where
  id := id
  host := host
  scrollback := .empty capacity
  listing := none

def append (s : Session) (output : Bytes) : Session :=
  { s with scrollback := s.scrollback.push output }

def list (s : Session) (path : String) (files : List Wire.ListedFile) : Session :=
  { s with listing := some (.ofFiles path files) }

def indexOf? (s : Session) (name : String) : Option Nat := s.listing.bind (·.find? name)

def navigate? (s : Session) (index : Nat) : Option Remote.Navigation :=
  s.listing.bind (·.navigate? index)

@[simp]
theorem id_append (s : Session) (output : Bytes) : (s.append output).id = s.id := rfl

@[simp]
theorem id_list (s : Session) (path : String) (files : List Wire.ListedFile) :
    (s.list path files).id = s.id := rfl

end Session

namespace Sessions

def get? (ss : Sessions) (t : TerminalId) : Option Session := ss.live.find? (·.id = t)

def contains (ss : Sessions) (t : TerminalId) : Bool := (ss.get? t).isSome

def ids (ss : Sessions) : List TerminalId := ss.live.map (·.id)

/-- Starts a session; a terminal that is live keeps the one it has. -/
def create (ss : Sessions) (t : TerminalId) (host : HostId) : Sessions :=
  if ss.contains t then ss else { ss with live := ss.live ++ [.start t host ss.capacity] }

def destroy (ss : Sessions) (t : TerminalId) : Sessions :=
  { ss with live := ss.live.filter (·.id ≠ t) }

def update (ss : Sessions) (t : TerminalId) (change : Session → Session) : Sessions :=
  { ss with live := ss.live.map fun s => if s.id = t then change s else s }

def append (ss : Sessions) (t : TerminalId) (output : Bytes) : Sessions :=
  ss.update t (·.append output)

def list (ss : Sessions) (t : TerminalId) (path : String) (files : List Wire.ListedFile) :
    Sessions :=
  ss.update t (·.list path files)

def clear (ss : Sessions) : Sessions := { ss with live := [] }

theorem get?_create_self (ss : Sessions) (t : TerminalId) (host : HostId)
    (h : ss.contains t = false) :
    (ss.create t host).get? t = some (.start t host ss.capacity) := by
  have hn : ss.live.find? (·.id = t) = none := by simpa [contains, get?] using h
  simp [create, h, get?, List.find?_append, hn, Session.start]

theorem get?_create_of_ne (ss : Sessions) {t t' : TerminalId} (host : HostId) (h : t ≠ t') :
    (ss.create t' host).get? t = ss.get? t := by
  unfold create
  split
  · rfl
  · simp [get?, List.find?_append, Session.start, Ne.symm h]

@[simp]
theorem get?_destroy_self (ss : Sessions) (t : TerminalId) : (ss.destroy t).get? t = none := by
  simp [get?, destroy]

theorem get?_destroy_of_ne (ss : Sessions) {t t' : TerminalId} (h : t ≠ t') :
    (ss.destroy t').get? t = ss.get? t := by
  simp only [get?, destroy]
  induction ss.live with
  | nil => rfl
  | cons s ss ih =>
    by_cases hs : s.id = t'
    · have hne : s.id ≠ t := fun e => h (e.symm.trans hs)
      simpa [hs, hne, Ne.symm h] using ih
    · by_cases ht : s.id = t
      · simp [ht, h]
      · simpa [hs, ht] using ih

end Sessions

end Switchboard
