import Switchboard.Proofs.Roster.Lookup
import Switchboard.Proofs.Roster.Row

/-!
# What a change of the roster can be

For every change of a roster, the cases that there are and the roster after each.
-/

namespace Switchboard.Roster

variable {r : Roster} {id : HostId} {t : TerminalId}

theorem addHost_cases (r : Roster) (info : HostInfo) :
    (r.host? info.id).isSome ∧ r.addHost info = (false, r) ∨
      r.host? info.id = none ∧ (r.addHost info).1 = true := by
  cases found : r.host? info.id with
  | none => exact Or.inr ⟨rfl, by rw [addHost_of_fresh found]⟩
  | some h => exact Or.inl ⟨rfl, addHost_of_known found⟩

theorem removeHost_cases (r : Roster) (id : HostId) :
    r.host? id = none ∧ r.removeHost id = (none, r) ∨
      ∃ h, r.host? id = some h ∧
        (r.removeHost id).1 = some { host := h, wasCurrent := r.current = some id } := by
  cases found : r.host? id with
  | none => exact Or.inl ⟨rfl, removeHost_of_unknown found⟩
  | some h => exact Or.inr ⟨h, rfl, by rw [removeHost_of_known found]⟩

theorem host?_of_removeHost {removed : RemovedHost} {r' : Roster}
    (outcome : r.removeHost id = (some removed, r')) : r.host? id = some removed.host := by
  rcases r.removeHost_cases id with ⟨_, same⟩ | ⟨h, found, same⟩
  · simp [same] at outcome
  · rw [outcome] at same
    obtain rfl := Option.some.inj same
    exact found

theorem selectHost_cases (r : Roster) (id : HostId) :
    r.host? id = none ∧ r.selectHost id = (false, r) ∨
      (r.host? id).isSome ∧ r.selectHost id = (true, { r with current := some id }) := by
  cases found : r.host? id with
  | none => exact Or.inl ⟨rfl, selectHost_of_unknown found⟩
  | some h => exact Or.inr ⟨rfl, selectHost_of_known found⟩

/-- A host after the terminal that was asked for has been bound to its slot. -/
def answered (h : Host) (s : Slot) (t : TerminalId) : Host :=
  { h.setState s.id (.bound t .terminal) with selected := some s.id }

/-- A host after a terminal that was not asked for has got a slot. -/
def joined (h : Host) (slot : SlotId) (t : TerminalId) : Host :=
  { h.insertBound (.ofTerminal slot t) with selected := h.selected.or (some slot) }

/-- A host after a slot has been removed. -/
def bereft (h : Host) (slot : SlotId) : Host :=
  { h.removeSlot slot with selected := (h.removeSlot slot).lastBound?.map Slot.id }

/-- What can come of a terminal that the server adds. -/
inductive Attached (r : Roster) (id : HostId) (t : TerminalId) : AttachOutcome × Roster → Prop where
  | unknownHost (unknown : r.host? id = none) : Attached r id t (.unknownHost, r)
  | duplicate (h : Host) (found : r.host? id = some h) (mem : t ∈ h.terminals) :
      Attached r id t (.duplicate, r)
  | atCapacity (h : Host) (found : r.host? id = some h) (fresh : t ∉ h.terminals)
      (quiet : h.isActivating = false) (full : r.cap ≤ h.sessionCount) :
      Attached r id t (.atCapacity, r)
  | answer (h : Host) (s : Slot) (found : r.host? id = some h) (fresh : t ∉ h.terminals)
      (mem : s ∈ h.slots) (waits : s.state = .activating) :
      Attached r id t
        (.attached s.id true true, { r.putSettled (answered h s t) with current := some id })
  | join (h : Host) (found : r.host? id = some h) (fresh : t ∉ h.terminals)
      (quiet : h.isActivating = false) (room : h.sessionCount < r.cap) :
      Attached r id t
        (.attached ⟨r.next⟩ false h.selected.isNone,
          { r with next := r.next + 1 }.putSettled (joined h ⟨r.next⟩ t))

theorem attach_cases (r : Roster) (id : HostId) (t : TerminalId) :
    Attached r id t (r.attach id t) := by
  cases found : r.host? id with
  | none =>
    simp only [attach, found]
    exact .unknownHost found
  | some h =>
    simp only [attach, found]
    cases slot : h.slotOf? t with
    | some s =>
      obtain ⟨mem, bound⟩ := Host.slotOf?_eq_some slot
      exact .duplicate h found (Host.mem_terminals.mpr ⟨s, mem, bound⟩)
    | none =>
      have fresh := Host.slotOf?_eq_none_iff.mp slot
      simp only [Option.isSome_none, Bool.false_eq_true, if_false]
      cases waiting : h.activating? with
      | some s =>
        obtain ⟨mem, waits⟩ := Host.activating?_eq_some waiting
        exact .answer h s found fresh mem waits
      | none =>
        have quiet : h.isActivating = false := by simp [Host.isActivating, waiting]
        by_cases full : r.cap ≤ h.sessionCount
        · simp only [full, if_true]
          exact .atCapacity h found fresh quiet full
        · simp only [full, if_false]
          exact .join h found fresh quiet (Nat.lt_of_not_le full)

inductive Requested (r : Roster) (id : HostId) : Option SlotId × Roster → Prop where
  | unknownHost (unknown : r.host? id = none) : Requested r id (none, r)
  | refused (h : Host) (found : r.host? id = some h)
      (why : h.isActivating = true ∨ ∀ s ∈ h.slots, s.state ≠ .idle) : Requested r id (none, r)
  | accepted (h : Host) (s : Slot) (found : r.host? id = some h) (quiet : h.isActivating = false)
      (mem : s ∈ h.slots) (idle : s.state = .idle) :
      Requested r id (some s.id, r.put (h.setState s.id .activating))

theorem request_cases (r : Roster) (id : HostId) : Requested r id (r.request id) := by
  cases found : r.host? id with
  | none =>
    simp only [request, found]
    exact .unknownHost found
  | some h =>
    simp only [request, found]
    cases activating : h.isActivating with
    | true => exact .refused h found (Or.inl activating)
    | false =>
      simp only [Bool.false_eq_true, if_false]
      cases offered : h.idle? with
      | none => exact .refused h found (Or.inr (by simpa [Host.idle?] using offered))
      | some s =>
        obtain ⟨mem, idle⟩ := Host.idle?_eq_some offered
        exact .accepted h s found activating mem idle

inductive Clicked (r : Roster) (id : HostId) (slot : SlotId) : SelectOutcome × Roster → Prop where
  | unknownHost (unknown : r.host? id = none) : Clicked r id slot (.ignored, r)
  | unbound (h : Host) (found : r.host? id = some h)
      (unbound : (h.slot? slot).bind Slot.terminal? = none) : Clicked r id slot (.ignored, r)
  | toggled (h : Host) (s : Slot) (t : TerminalId) (face : Face) (found : r.host? id = some h)
      (mem : s ∈ h.slots) (same : s.id = slot) (bound : s.state = .bound t face)
      (current : r.current = some id) (selected : h.selected = some slot) :
      Clicked r id slot
        (.toggled t face.flip, r.put (h.setState s.id (.bound t face.flip)))
  | selected (h : Host) (s : Slot) (t : TerminalId) (found : r.host? id = some h)
      (mem : s ∈ h.slots) (same : s.id = slot) (bound : s.terminal? = some t)
      (other : ¬ (r.current = some id ∧ h.selected = some slot)) :
      Clicked r id slot
        (.selected t, { r.put { h with selected := some s.id } with current := some id })

theorem selectSlot_cases (r : Roster) (id : HostId) (slot : SlotId) :
    Clicked r id slot (r.selectSlot id slot) := by
  cases found : r.host? id with
  | none =>
    simp only [selectSlot, found]
    exact .unknownHost found
  | some h =>
    simp only [selectSlot, found]
    cases there : h.slot? slot with
    | none => exact .unbound h found (by simp [there])
    | some s =>
      obtain ⟨mem, rfl⟩ := Host.slot?_eq_some there
      simp only [Option.map_some]
      cases state : s.state with
      | idle => exact .unbound h found (by simp [there, Slot.terminal?, state])
      | activating => exact .unbound h found (by simp [there, Slot.terminal?, state])
      | bound t face =>
        by_cases again : r.current = some id ∧ h.selected = some s.id
        · simp only [again, and_self, if_true]
          exact .toggled h s t face found mem rfl state again.1 again.2
        · simp only [again, if_false]
          exact .selected h s t found mem rfl (by simp [Slot.terminal?, state]) again

inductive Closed (r : Roster) (id : HostId) (slot : SlotId) :
    Option ClosedSlot × Roster → Prop where
  | unknownHost (unknown : r.host? id = none) : Closed r id slot (none, r)
  | unbound (h : Host) (found : r.host? id = some h)
      (unbound : (h.slot? slot).bind Slot.terminal? = none) : Closed r id slot (none, r)
  | closed (h : Host) (s : Slot) (t : TerminalId) (found : r.host? id = some h)
      (mem : s ∈ h.slots) (same : s.id = slot) (bound : s.terminal? = some t) :
      Closed r id slot
        (some { terminal := t, next := (h.removeSlot s.id).lastBound?.bind Slot.terminal? },
          r.putSettled (bereft h s.id))

theorem closeSlot_cases (r : Roster) (id : HostId) (slot : SlotId) :
    Closed r id slot (r.closeSlot id slot) := by
  cases found : r.host? id with
  | none =>
    simp only [closeSlot, found]
    exact .unknownHost found
  | some h =>
    simp only [closeSlot, found]
    cases there : h.slot? slot with
    | none => exact .unbound h found (by simp [there])
    | some s =>
      obtain ⟨mem, rfl⟩ := Host.slot?_eq_some there
      simp only [Option.bind_some]
      cases bound : s.terminal? with
      | none => exact .unbound h found (by simp [there, bound])
      | some t => exact .closed h s t found mem rfl bound

end Switchboard.Roster
