import Switchboard.Event.Bus
import Switchboard.Session.Basic
import Switchboard.Table
import Switchboard.Proofs.Session.Owners

/-!
# A mirror of the desk

What a subscriber knows who has heard events. `Consistent`: every event fits what was known before
it, and the selected terminal is live at any time. `Tells`: events are consistent and end with a
mirror of given sessions, terminal and host.
-/

namespace Switchboard

/-- What a subscriber knows: which terminals are live and on which hosts, and what is selected. -/
structure Mirror where
  live : Table TerminalId HostId := {}
  terminal : Option TerminalId := none
  host : Option HostId := none
deriving DecidableEq

namespace Mirror

variable {m : Mirror} {e : Event} {es more : List Event} {ss ss' : Sessions}
  {t u : TerminalId} {shown shown' : Option TerminalId} {current current' : Option HostId}

def hear (m : Mirror) : Event → Mirror
  | .terminalAdded host t => { m with live := m.live.put t host }
  | .terminalClosed _ t => { m with live := m.live.erase t }
  | .hostSelected host => { m with host }
  | .terminalSelected terminal => { m with terminal }

def hearAll (m : Mirror) (es : List Event) : Mirror := es.foldl hear m

/-- An event fits what is known: no terminal is added that is live, none is closed but on the host
on which it is live, and none is selected that is selected already. -/
def Admits (m : Mirror) : Event → Prop
  | .terminalAdded _ t => m.live.get? t = none
  | .terminalClosed host t => m.live.get? t = some host
  | .terminalSelected terminal => terminal ≠ m.terminal
  | .hostSelected _ => True

def Sound (m : Mirror) : Prop := ∀ t, m.terminal = some t → (m.live.get? t).isSome

/-- Every event fits what is known before it, and what is known is sound at any time. -/
def Consistent (m : Mirror) : List Event → Prop
  | [] => m.Sound
  | e :: es => m.Sound ∧ m.Admits e ∧ (m.hear e).Consistent es

theorem Consistent.sound (c : m.Consistent es) : m.Sound := by
  cases es with
  | nil => exact c
  | cons e es => exact c.1

theorem Consistent.append (c : m.Consistent es) (rest : (m.hearAll es).Consistent more) :
    m.Consistent (es ++ more) := by
  induction es generalizing m with
  | nil => exact rest
  | cons e es ih => exact ⟨c.1, c.2.1, ih c.2.2 rest⟩

theorem Consistent.left (c : m.Consistent (es ++ more)) : m.Consistent es := by
  induction es generalizing m with
  | nil => exact c.sound
  | cons e es ih => exact ⟨c.1, c.2.1, ih c.2.2⟩

theorem Consistent.right (c : m.Consistent (es ++ more)) : (m.hearAll es).Consistent more := by
  induction es generalizing m with
  | nil => exact c
  | cons e es ih => exact ih c.2.2

theorem Consistent.sound_of_prefix (c : m.Consistent more) (early : es <+: more) :
    (m.hearAll es).Sound := by
  obtain ⟨late, rfl⟩ := early
  exact c.right.sound

theorem Consistent.admits (c : m.Consistent (es ++ e :: more)) : (m.hearAll es).Admits e :=
  c.right.2.1

/-! ### What the mirror shows -/

/-- The mirror shows sessions, the presented terminal, which is live, and the current host. -/
structure Shows (m : Mirror) (ss : Sessions) (shown : Option TerminalId) (current : Option HostId) :
    Prop where
  live : ∀ t, m.live.get? t = ss.owner? t
  terminal : m.terminal = shown
  host : m.host = current
  sound : ∀ t, shown = some t → ss.contains t

theorem Shows.isSound (s : m.Shows ss shown current) : m.Sound := by
  intro t selected
  rw [s.live, ← Sessions.contains_eq]
  exact s.sound t (s.terminal.symm.trans selected)

theorem Shows.congr (s : m.Shows ss shown current) (owners : ∀ t, ss'.owner? t = ss.owner? t) :
    m.Shows ss' shown current where
  live t := (s.live t).trans (owners t).symm
  terminal := s.terminal
  host := s.host
  sound t selected := by
    rw [Sessions.contains_eq, owners, ← Sessions.contains_eq]
    exact s.sound t selected

/-- Events are consistent, and after them the mirror shows what is given. -/
structure Tells (m : Mirror) (es : List Event) (ss : Sessions) (shown : Option TerminalId)
    (current : Option HostId) : Prop where
  consistent : m.Consistent es
  shows : (m.hearAll es).Shows ss shown current

theorem Shows.nothing (s : m.Shows ss shown current) : m.Tells [] ss shown current :=
  ⟨s.isSound, s⟩

theorem Shows.one (s : m.Shows ss shown current) (fits : m.Admits e)
    (s' : (m.hear e).Shows ss' shown' current') : m.Tells [e] ss' shown' current' :=
  ⟨⟨s.isSound, fits, s'.isSound⟩, s'⟩

theorem Tells.append (first : m.Tells es ss shown current)
    (rest : (m.hearAll es).Shows ss shown current →
      (m.hearAll es).Tells more ss' shown' current') :
    m.Tells (es ++ more) ss' shown' current' := by
  obtain ⟨consistent, shows⟩ := rest first.shows
  refine ⟨first.consistent.append consistent, ?_⟩
  rw [hearAll, List.foldl_append]
  exact shows

theorem Shows.hostSelected (s : m.Shows ss shown current) (current' : Option HostId) :
    m.Tells [.hostSelected current'] ss shown current' :=
  s.one trivial ⟨s.live, s.terminal, rfl, s.sound⟩

theorem Shows.terminalSelected (s : m.Shows ss shown current) (other : shown' ≠ shown)
    (live : ∀ t, shown' = some t → ss.contains t) :
    m.Tells [.terminalSelected shown'] ss shown' current :=
  s.one (fun same => other (same.trans s.terminal)) ⟨s.live, rfl, s.host, live⟩

theorem Shows.terminalAdded (s : m.Shows ss shown current) (fresh : ss.contains t = false)
    (id : HostId) : m.Tells [.terminalAdded id t] (ss.create t id) shown current := by
  have unowned : ss.owner? t = none := by simpa [Sessions.contains_eq] using fresh
  refine s.one ((s.live t).trans unowned) ⟨fun u => ?_, s.terminal, s.host, fun u selected => ?_⟩
  · rw [Sessions.owner?_create fresh]
    by_cases same : u = t
    · simp [hear, same]
    · simp [hear, Table.get?_put_of_ne _ _ same, same, s.live u]
  · have live := s.sound u selected
    rw [Sessions.contains_eq] at live ⊢
    rw [Sessions.owner?_create fresh]
    by_cases same : u = t <;> simp [same, live]

theorem Shows.terminalClosed {id : HostId} (s : m.Shows ss shown current)
    (owner : ss.owner? t = some id) (left : shown ≠ some t) :
    m.Tells [.terminalClosed id t] (ss.destroy t) shown current := by
  refine s.one ((s.live t).trans owner) ⟨fun u => ?_, s.terminal, s.host, fun u selected => ?_⟩
  · rw [Sessions.owner?_destroy]
    by_cases same : u = t
    · simp [hear, same]
    · simp [hear, Table.get?_erase_of_ne _ same, same, s.live u]
  · have other : u ≠ t := by
      rintro rfl
      exact left selected
    rw [Sessions.contains_eq, Sessions.owner?_destroy, if_neg other, ← Sessions.contains_eq]
    exact s.sound u selected

theorem Shows.terminalsClosed {id : HostId} {ts : List TerminalId} (s : m.Shows ss shown current)
    (distinct : ts.Nodup) (owners : ∀ t ∈ ts, ss.owner? t = some id)
    (left : ∀ t ∈ ts, shown ≠ some t) :
    m.Tells (ts.map (.terminalClosed id)) (ts.foldl Sessions.destroy ss) shown current := by
  induction ts generalizing m ss with
  | nil => exact s.nothing
  | cons t ts ih =>
    obtain ⟨absent, distinct⟩ := List.nodup_cons.mp distinct
    have first := s.terminalClosed (owners t List.mem_cons_self) (left t List.mem_cons_self)
    refine first.append fun s' => ih s' distinct (fun u mem => ?_)
      fun u mem => left u (List.mem_cons_of_mem t mem)
    have other : u ≠ t := ne_of_mem_of_not_mem mem absent
    rw [Sessions.owner?_destroy, if_neg other]
    exact owners u (List.mem_cons_of_mem t mem)

end Mirror

end Switchboard
