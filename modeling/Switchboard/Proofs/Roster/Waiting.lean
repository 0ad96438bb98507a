import Switchboard.Proofs.Roster.Binding

/-!
# Waiting for a terminal

The slot in which a host waits for a terminal. Only a request makes a host wait, and only a terminal
that is added there, or the end of the host, ends the wait.
-/

namespace Switchboard

variable {r r' : Roster} {id i : HostId} {h h' : Host} {t : TerminalId} {slot : SlotId}

namespace Roster

/-- The slot of a host that waits for a terminal. -/
def pending? (r : Roster) (id : HostId) : Option SlotId :=
  ((r.host? id).bind Host.activating?).map Slot.id

/-- A host waits for a terminal in its last slot, and in no other one. -/
def Waits (r : Roster) (id : HostId) (slot : SlotId) : Prop :=
  ∃ h, r.host? id = some h ∧ h.slots.getLast? = some ⟨slot, .activating⟩ ∧
    h.slots.filter (·.state = .activating) = [⟨slot, .activating⟩]

theorem pending?_eq (found : r.host? id = some h) :
    r.pending? id = h.activating?.map Slot.id := by
  simp [pending?, found]

theorem pending?_of_unknown (unknown : r.host? id = none) : r.pending? id = none := by
  simp [pending?, unknown]

theorem waits_of_pending? (wf : r.WellFormed) (pending : r.pending? id = some slot) :
    r.Waits id slot := by
  obtain ⟨s, waiting, rfl⟩ := Option.map_eq_some_iff.mp pending
  obtain ⟨h, found, waiting⟩ := Option.bind_eq_some_iff.mp waiting
  obtain ⟨mem, waits⟩ := Host.activating?_eq_some waiting
  have tidy := wf.tidy_of_host? found
  have free := Slot.isFree_of_state (Or.inr waits)
  have shape : (⟨s.id, .activating⟩ : Slot) = s := by rw [← waits]
  refine ⟨h, found, ?_, ?_⟩ <;> rw [shape]
  · exact tidy.getLast?_of_free mem free
  · exact Host.eq_singleton tidy.waiting_le (List.mem_filter.mpr ⟨mem, by simpa using waits⟩)

/-! ### What changes of the roster do to a wait -/

theorem pending?_congr (same : r'.host? i = r.host? i) : r'.pending? i = r.pending? i := by
  simp [pending?, same]

theorem pending?_put (found : r.host? id = some h) (same : h'.id = h.id)
    (activating : h'.activating? = h.activating?) : (r.put h').pending? i = r.pending? i := by
  by_cases this : i = id
  · subst this
    rw [pending?_eq (host?_put_self found (same.trans (id_of_host? found))), pending?_eq found,
      activating]
  · have apart : i ≠ h'.id := fun e => this (e.trans (same.trans (id_of_host? found)))
    exact pending?_congr (host?_put_of_ne r apart)

theorem pending?_addHost (r : Roster) (info : HostInfo) (i : HostId) :
    (r.addHost info).2.pending? i = r.pending? i := by
  rcases r.addHost_cases info with ⟨_, same⟩ | ⟨fresh, _⟩
  · rw [same]
  · have found := host?_addHost fresh i
    by_cases this : i = info.id
    · subst this
      simp only [if_true] at found
      rw [pending?_eq found, pending?_of_unknown fresh, newcomer, Host.activating?_settle]
      rfl
    · exact pending?_congr (by simpa [this] using found)

theorem pending?_removeHost (r : Roster) (ne : i ≠ id) :
    (r.removeHost id).2.pending? i = r.pending? i := pending?_congr (host?_removeHost_of_ne r ne)

theorem pending?_selectHost (r : Roster) (id i : HostId) :
    (r.selectHost id).2.pending? i = r.pending? i := by
  rcases r.selectHost_cases id with ⟨_, same⟩ | ⟨_, same⟩
  · rw [same]
  · rw [same]
    rfl

theorem pending?_selectSlot (wf : r.WellFormed) (id : HostId) (slot : SlotId) (i : HostId) :
    (r.selectSlot id slot).2.pending? i = r.pending? i := by
  have outcome := r.selectSlot_cases id slot
  generalize r.selectSlot id slot = result at outcome ⊢
  cases outcome with
  | unknownHost | unbound => rfl
  | toggled h s t face found mem same bound =>
    have there : s.terminal? = some t := by simp [Slot.terminal?, bound]
    exact pending?_put found rfl ((wf.tidy_of_host? found).activating?_flip mem there face.flip)
  | selected h s t found => exact pending?_put found rfl rfl

theorem pending?_closeSlot (wf : r.WellFormed) (id : HostId) (slot : SlotId) (i : HostId) :
    (r.closeSlot id slot).2.pending? i = r.pending? i := by
  have outcome := r.closeSlot_cases id slot
  generalize r.closeSlot id slot = result at outcome ⊢
  cases outcome with
  | unknownHost | unbound => rfl
  | closed h s t found mem same bound =>
    refine pending?_put found (Host.id_settle _ _ _) ?_
    rw [Host.activating?_settle]
    exact (wf.tidy_of_host? found).activating?_bereft mem bound

theorem pending?_request (wf : r.WellFormed) (outcome : r.request id = (some slot, r')) :
    r.pending? id = none ∧ r'.pending? id = some slot ∧
      ∀ i, i ≠ id → r'.pending? i = r.pending? i := by
  have case := r.request_cases id
  rw [outcome] at case
  cases case with
  | accepted h s found quiet mem idle =>
    have there : (r.put (h.setState s.id .activating)).host? id = some _ :=
      host?_put_self found (id_of_host? (h := h) found)
    refine ⟨?_, ?_, fun i ne => ?_⟩
    · simpa [pending?_eq found, Host.isActivating] using quiet
    · rw [pending?_eq there, (wf.tidy_of_host? found).activating?_activated mem idle]
      rfl
    · exact pending?_congr (host?_put_of_ne r fun e => ne (e.trans (id_of_host? (h := h) found)))

/-! ### A terminal for a host that waits, and for one that does not -/

/-- The terminal that was asked for takes the slot that waits, and it becomes the active one. -/
theorem attach_of_pending {slot' : SlotId} {requested selected : Bool} (wf : r.WellFormed)
    (pending : r.pending? id = some slot)
    (outcome : r.attach id t = (.attached slot' requested selected, r')) :
    slot' = slot ∧ r'.pending? id = none ∧ r'.current = some id ∧ r'.active? = some t := by
  have case := r.attach_cases id t
  have after := wf.attach id t
  rw [outcome] at case after
  cases case with
  | answer h s found fresh mem waits =>
    have tidy := wf.tidy_of_host? found
    rw [pending?_eq found, tidy.activating?_of_mem mem waits] at pending
    let h' := ((answered h s t).settle r.cap r.next).1
    have there : (r.put h').host? id = some h' :=
      host?_put_self found ((Host.id_settle _ _ _).trans (id_of_host? (h := h) found))
    have bound : ⟨s.id, .bound t .terminal⟩ ∈ h'.slots :=
      Host.mem_settle_of_bound (List.mem_map.mpr ⟨s, mem, by simp⟩) rfl
    refine ⟨Option.some.inj pending, ?_, rfl, ?_⟩
    · show (r.put h').pending? id = none
      rw [pending?_eq there, Host.activating?_settle, tidy.activating?_answered mem waits]
      rfl
    · show ((r.put h').host? id).bind Host.active? = some t
      rw [there, Option.bind_some]
      refine Host.active?_of_mem (after.tidy_of_host? there).numbered bound ?_
      exact Host.selected_settle _ _ _
  | join h found fresh quiet room =>
    simp only [Host.isActivating, Option.isSome_eq_false_iff, Option.isNone_iff_eq_none] at quiet
    simp [pending?_eq found, quiet] at pending

/-- A terminal that was not asked for does not change which host is current, and it is selected only
where there was none. -/
theorem attach_of_not_pending {requested selected : Bool} (wf : r.WellFormed)
    (quiet : r.pending? id = none)
    (outcome : r.attach id t = (.attached slot requested selected, r')) :
    r'.pending? id = none ∧ r'.current = r.current ∧
      ∃ h h', r.host? id = some h ∧ r'.host? id = some h' ∧
        (h'.selected = h.selected ∨ h.terminals = []) := by
  have case := r.attach_cases id t
  rw [outcome] at case
  cases case with
  | answer h s found fresh mem waits =>
    rw [pending?_eq found, (wf.tidy_of_host? found).activating?_of_mem mem waits] at quiet
    cases quiet
  | join h found fresh idle room =>
    have tidy := wf.tidy_of_host? found
    have same : ((joined h ⟨r.next⟩ t).settle r.cap (r.next + 1)).1.id = h.id :=
      Host.id_settle _ _ _
    refine ⟨?_, rfl, h, _, found, host?_put_self found (same.trans (id_of_host? found)), ?_⟩
    · refine (pending?_put (r := { r with next := r.next + 1 }) found same ?_).trans quiet
      rw [Host.activating?_settle, tidy.activating?_joined]
    · rw [Host.selected_settle]
      cases selected : h.selected with
      | none => exact Or.inr (tidy.selected_eq_none.mp selected)
      | some id => exact Or.inl (by simp [joined, selected])

end Roster

end Switchboard
