import Switchboard.Proofs.Roster.Refinement

/-!
# Terminals bound to slots

Which terminal a slot holds, how a terminal that is added gets a slot, and when there is no room for
it.
-/

namespace Switchboard

variable {id : HostId} {t : TerminalId} {slot : SlotId} {h : Host}

def Host.boundSlots (h : Host) : List Slot := h.slots.filter (!·.isFree)

namespace Roster

variable {r r' : Roster}

/-! ### The terminal of a slot -/

theorem terminalAt?_of_locate? (wf : r.WellFormed) (located : r.locate? t = some (id, slot)) :
    r.terminalAt? id slot = some t := by
  obtain ⟨h, mem, found⟩ := List.exists_of_findSome?_eq_some located
  obtain ⟨s, there, pair⟩ := Option.map_eq_some_iff.mp found
  obtain ⟨rfl, rfl⟩ := Prod.mk.inj pair
  obtain ⟨inside, bound⟩ := Host.slotOf?_eq_some there
  rw [terminalAt?_of_mem (host?_of_mem wf.distinct mem) (wf.tidy h mem).numbered inside, bound]

theorem terminalAt?_of_closeSlot {closed : ClosedSlot} (wf : r.WellFormed)
    (outcome : r.closeSlot id slot = (some closed, r')) :
    r.terminalAt? id slot = some closed.terminal := by
  have case := r.closeSlot_cases id slot
  rw [outcome] at case
  cases case with
  | closed h s t found mem same bound =>
    rw [← same, terminalAt?_of_mem found (wf.tidy_of_host? found).numbered mem, bound]

theorem slot_of_terminalAt? (bound : r.terminalAt? id slot = some t) :
    ∃ h s, r.host? id = some h ∧ s ∈ h.slots ∧ s.id = slot ∧ s.terminal? = some t := by
  obtain ⟨s, there, bound⟩ := Option.bind_eq_some_iff.mp bound
  obtain ⟨h, found, there⟩ := Option.bind_eq_some_iff.mp there
  obtain ⟨mem, same⟩ := Host.slot?_eq_some there
  exact ⟨h, s, found, mem, same, bound⟩

theorem holds_of_terminalAt? (bound : r.terminalAt? id slot = some t) : r.Holds id t := by
  obtain ⟨h, s, found, mem, _, bound⟩ := slot_of_terminalAt? bound
  exact ⟨h, found, Host.mem_terminals.mpr ⟨s, mem, bound⟩⟩

/-- A terminal is in one slot of a host. -/
theorem WellFormed.slot_unique {slot' : SlotId} (wf : r.WellFormed)
    (bound : r.terminalAt? id slot = some t) (bound' : r.terminalAt? id slot' = some t) :
    slot = slot' := by
  obtain ⟨h, s, found, mem, rfl, there⟩ := slot_of_terminalAt? bound
  obtain ⟨h', s', found', mem', rfl, there'⟩ := slot_of_terminalAt? bound'
  obtain rfl := Option.some.inj (found.symm.trans found')
  rw [(wf.tidy_of_host? found).eq_of_terminal? mem mem' there there']

theorem closeSlot_of_terminalAt? (wf : r.WellFormed) (bound : r.terminalAt? id slot = some t) :
    ∃ closed r', r.closeSlot id slot = (some closed, r') ∧ closed.terminal = t := by
  have case := r.closeSlot_cases id slot
  generalize outcome : r.closeSlot id slot = result at case
  cases case with
  | unknownHost unknown => simp [terminalAt?, unknown] at bound
  | unbound h found unbound => simp [terminalAt?, found, unbound] at bound
  | closed h s u found mem same there =>
    have there' := terminalAt?_of_closeSlot wf outcome
    exact ⟨_, _, rfl, Option.some.inj (there'.symm.trans bound)⟩

theorem WellFormed.terminalAt?_eq_none_iff (wf : r.WellFormed) :
    r.terminalAt? id slot = none ↔
      ∀ h ∈ r.hosts, h.id = id → ∀ s ∈ h.slots, s.id = slot → s.isFree = true := by
  constructor
  · rintro unbound h host rfl s mem rfl
    have found := host?_of_mem wf.distinct host
    rw [terminalAt?_of_mem found (wf.tidy h host).numbered mem] at unbound
    simpa [Slot.isFree] using unbound
  · intro unbound
    rw [Option.eq_none_iff_forall_ne_some]
    intro t bound
    obtain ⟨h, s, found, mem, same, there⟩ := slot_of_terminalAt? bound
    have free := unbound h (mem_of_host? found) (id_of_host? found) s mem same
    simp [Slot.isFree, there] at free

theorem WellFormed.terminalAt?_of_holds (wf : r.WellFormed) (held : r.Holds id t) :
    ∃ slot, r.terminalAt? id slot = some t := by
  obtain ⟨h, found, inside⟩ := held
  obtain ⟨s, mem, bound⟩ := Host.mem_terminals.mp inside
  exact ⟨s.id, (terminalAt?_of_mem found (wf.tidy_of_host? found).numbered mem).trans bound⟩

/-! ### What is refused -/

theorem selectSlot_of_unbound (wf : r.WellFormed) (unbound : r.terminalAt? id slot = none) :
    r.selectSlot id slot = (.ignored, r) := by
  have outcome := r.selectSlot_cases id slot
  generalize r.selectSlot id slot = result at outcome ⊢
  cases outcome with
  | unknownHost | unbound => rfl
  | toggled h s t face found mem same bound =>
    rw [← same, terminalAt?_of_mem found (wf.tidy_of_host? found).numbered mem] at unbound
    simp [Slot.terminal?, bound] at unbound
  | selected h s t found mem same bound =>
    rw [← same, terminalAt?_of_mem found (wf.tidy_of_host? found).numbered mem, bound] at unbound
    cases unbound

theorem closeSlot_of_unbound (wf : r.WellFormed) (unbound : r.terminalAt? id slot = none) :
    r.closeSlot id slot = (none, r) := by
  have outcome := r.closeSlot_cases id slot
  generalize r.closeSlot id slot = result at outcome ⊢
  cases outcome with
  | unknownHost | unbound => rfl
  | closed h s t found mem same bound =>
    rw [← same, terminalAt?_of_mem found (wf.tidy_of_host? found).numbered mem, bound] at unbound
    cases unbound

/-- A host that waits for a terminal is not asked for another one, nor is one at the cap. -/
theorem request_of_busy (wf : r.WellFormed) (found : r.host? id = some h)
    (busy : h.isActivating = true ∨ r.cap ≤ h.sessionCount) : r.request id = (none, r) := by
  have outcome := r.request_cases id
  generalize r.request id = result at outcome ⊢
  cases outcome with
  | unknownHost | refused => rfl
  | accepted x s there quiet mem idle =>
    obtain rfl := Option.some.inj (there.symm.trans found)
    have room := (wf.tidy_of_host? found).lt_of_free mem (Slot.isFree_of_state (Or.inl idle))
    rcases busy with waits | full
    · simp [quiet] at waits
    · omega

/-! ### Room for a terminal -/

theorem full_of_attach (outcome : r.attach id t = (.atCapacity, r')) :
    ∃ h, r.host? id = some h ∧ r.cap ≤ h.sessionCount := by
  have case := r.attach_cases id t
  rw [outcome] at case
  cases case with
  | atCapacity h found fresh quiet full => exact ⟨h, found, full⟩

theorem attach_of_full (wf : r.WellFormed) (found : r.host? id = some h) (fresh : t ∉ h.terminals)
    (full : r.cap ≤ h.sessionCount) : r.attach id t = (.atCapacity, r) := by
  have outcome := r.attach_cases id t
  generalize r.attach id t = result at outcome ⊢
  cases outcome with
  | unknownHost unknown => simp [unknown] at found
  | duplicate x there mem =>
    obtain rfl := Option.some.inj (there.symm.trans found)
    exact absurd mem fresh
  | atCapacity => rfl
  | answer x s there _ mem waits =>
    obtain rfl := Option.some.inj (there.symm.trans found)
    have room := (wf.tidy_of_host? found).lt_of_free mem (Slot.isFree_of_state (Or.inr waits))
    omega
  | join x there _ _ room =>
    obtain rfl := Option.some.inj (there.symm.trans found)
    omega

theorem attach_of_room (found : r.host? id = some h) (fresh : t ∉ h.terminals)
    (room : h.sessionCount < r.cap) :
    ∃ slot requested selected r', r.attach id t = (.attached slot requested selected, r') := by
  have outcome := r.attach_cases id t
  generalize r.attach id t = result at outcome ⊢
  cases outcome with
  | unknownHost unknown => simp [unknown] at found
  | duplicate x there mem =>
    obtain rfl := Option.some.inj (there.symm.trans found)
    exact absurd mem fresh
  | atCapacity x there _ _ full =>
    obtain rfl := Option.some.inj (there.symm.trans found)
    omega
  | answer | join => exact ⟨_, _, _, _, rfl⟩

/-! ### Adding a terminal -/

/-- A roster after a host has got a terminal: one more bound slot, behind the others. -/
structure Gained (r r' : Roster) (id : HostId) (slot : SlotId) (t : TerminalId) : Prop where
  ids : r'.hosts.map Host.id = r.hosts.map Host.id
  others : ∀ i, i ≠ id → r'.host? i = r.host? i
  host : ∃ h h', r.host? id = some h ∧ r'.host? id = some h' ∧ h'.info = h.info ∧
    h'.boundSlots = h.boundSlots ++ [.ofTerminal slot t]

theorem gained_putSettled {current : Option HostId} {next : Nat} {h' : Host} {fs : List Slot}
    (found : r.host? id = some h) (info : h'.info = h.info)
    (a : h'.Arranged (h.boundSlots ++ [.ofTerminal slot t]) fs) :
    Gained r { { r with next }.putSettled h' with current } id slot t := by
  have number : (h'.settle r.cap next).1.id = id := by
    rw [Host.id_settle, ← id_of_host? found]
    exact congrArg HostInfo.id info
  refine ⟨map_id_put r _, fun i ne => host?_put_of_ne r (number ▸ ne), h, _, found,
    host?_put_self found number, ?_, (a.settle r.cap next).filter_bound⟩
  rw [Host.info_settle, info]

theorem gained_of_attach {requested selected : Bool} (wf : r.WellFormed)
    (outcome : r.attach id t = (.attached slot requested selected, r')) :
    Gained r r' id slot t := by
  have case := r.attach_cases id t
  rw [outcome] at case
  cases case with
  | answer h s found fresh mem waits =>
    have tidy := wf.tidy_of_host? found
    obtain ⟨bs, a⟩ := tidy.arranged_of_free mem (Slot.isFree_of_state (Or.inr waits))
    have answered := (a.setState_bind tidy.numbered (.bound t .terminal) rfl).select (some s.id)
    rw [← a.filter_bound] at answered
    exact gained_putSettled found rfl answered
  | join h found =>
    obtain ⟨bs, fs, a, _⟩ := (wf.tidy_of_host? found).arranged
    have inserted := a.insertBound (s := .ofTerminal ⟨r.next⟩ t) rfl
    rw [← a.filter_bound] at inserted
    exact gained_putSettled found rfl (inserted.select _)

theorem Gained.terminalAt? (g : r.Gained r' id slot t) (wf : r'.WellFormed) :
    r'.terminalAt? id slot = some t := by
  obtain ⟨_, h, _, found, _, bound⟩ := g.host
  have mem : .ofTerminal slot t ∈ h.slots := by
    have inside : .ofTerminal slot t ∈ h.boundSlots := by simp [bound]
    exact (List.mem_filter.mp inside).1
  exact terminalAt?_of_mem found (wf.tidy_of_host? found).numbered mem

end Roster

end Switchboard
