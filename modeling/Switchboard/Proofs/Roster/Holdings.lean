import Switchboard.Proofs.Roster.WellFormed

/-!
# Holdings

Which host holds which terminal and which terminal is active, after each change of a well-formed
roster. A change after which the view is not refreshed leaves the active terminal as it was, and only
a request and its answer concern the slot that waits.
-/

namespace Switchboard

variable {r r' : Roster} {id i : HostId} {h h' : Host} {t u : TerminalId} {slot : SlotId}

namespace Host

variable {s : Slot}

theorem active?_setState {state : SlotState} (numbered : (h.slots.map Slot.id).Nodup)
    (mem : s ∈ h.slots) (kept : Slot.terminal? ⟨s.id, state⟩ = s.terminal?) :
    (h.setState s.id state).active? = h.active? := by
  have numbers : ∀ x : Slot, (if x.id = s.id then { x with state } else x).id = x.id := by
    intro x
    split <;> rfl
  have moved : ∀ id, (h.setState s.id state).slot? id =
      (h.slot? id).map fun x => if x.id = s.id then { x with state } else x :=
    fun _ => find?_key_map numbers
  cases selected : h.selected with
  | none => rw [active?_eq_none selected, active?_eq_none (by exact selected)]
  | some id =>
    have same : (h.setState s.id state).selected = some id := selected
    simp only [active?, selectedSlot?, same, selected, Option.bind_some, moved]
    cases found : h.slot? id with
    | none => rfl
    | some x =>
      simp only [Option.map_some, Option.bind_some]
      split
      · rename_i same
        rw [List.inj_on_of_nodup_map numbered (slot?_eq_some found).1 mem same]
        exact kept
      · rfl

theorem active?_of_mem_of_mem (o : h.Ordered) (some : h.selected.isSome)
    (numbered : (h'.slots.map Slot.id).Nodup) (same : h'.selected = h.selected)
    (kept : ∀ s ∈ h.slots, s.isFree = false → s ∈ h'.slots) : h'.active? = h.active? := by
  obtain ⟨id, selected⟩ := Option.isSome_iff_exists.mp some
  obtain ⟨s, mem, rfl, bound⟩ := o.selected_bound id selected
  rw [active?_of_mem o.numbered mem selected,
    active?_of_mem numbered (kept s mem bound) (same.trans selected)]

theorem mem_settle_of_bound {cap next : Nat} (mem : s ∈ h.slots) (bound : s.isFree = false) :
    s ∈ (h.settle cap next).1.slots := by
  have busy : s.state ≠ .idle := by
    intro idle
    simp [Slot.isFree_of_state (Or.inl idle)] at bound
  unfold settle
  repeat' split
  · exact mem
  · exact List.mem_append_left _ mem
  · exact List.mem_filter.mpr ⟨mem, by simpa using busy⟩

theorem mem_joined (mem : s ∈ h.slots) : s ∈ (Roster.joined h slot t).slots := by
  rw [← List.takeWhile_append_dropWhile (p := (!·.isFree)) (l := h.slots)] at mem
  simp only [Roster.joined, insertBound, List.mem_append, List.mem_cons]
  rcases List.mem_append.mp mem with before | after
  · exact Or.inl before
  · exact Or.inr (Or.inr after)

/-! ### The slot that waits -/

theorem Ordered.activating?_of_mem (o : h.Ordered) (mem : s ∈ h.slots)
    (waits : s.state = .activating) : h.activating? = some s := by
  obtain ⟨bs, a⟩ := o.arranged_of_free mem (Slot.isFree_of_state (Or.inr waits))
  simp [a.activating?_eq, waits]

theorem Ordered.activating?_flip (o : h.Ordered) (mem : s ∈ h.slots) (bound : s.terminal? = some t)
    (face : Face) : (h.setState s.id (.bound t face)).activating? = h.activating? := by
  obtain ⟨bs, fs, a, _, inside⟩ := o.arranged_of_bound mem bound
  rw [a.activating?_eq, (a.setState_bound o.numbered inside (.bound t face) rfl).activating?_eq]

theorem Ordered.activating?_bereft (o : h.Ordered) (mem : s ∈ h.slots)
    (bound : s.terminal? = some t) : (Roster.bereft h s.id).activating? = h.activating? := by
  obtain ⟨bs, fs, a, _, inside⟩ := o.arranged_of_bound mem bound
  rw [a.activating?_eq]
  exact (a.removeSlot o.numbered inside).activating?_eq

theorem Ordered.activating?_joined (o : h.Ordered) (slot : SlotId) (t : TerminalId) :
    (Roster.joined h slot t).activating? = h.activating? := by
  obtain ⟨bs, fs, a, _⟩ := o.arranged
  rw [a.activating?_eq]
  exact (a.insertBound (s := .ofTerminal slot t) rfl).activating?_eq

theorem Ordered.activating?_answered (o : h.Ordered) (mem : s ∈ h.slots)
    (waits : s.state = .activating) (t : TerminalId) :
    (Roster.answered h s t).activating? = none := by
  obtain ⟨bs, a⟩ := o.arranged_of_free mem (Slot.isFree_of_state (Or.inr waits))
  exact (a.setState_bind o.numbered (.bound t .terminal) rfl).activating?_eq

theorem Ordered.activating?_activated (o : h.Ordered) (mem : s ∈ h.slots) (idle : s.state = .idle) :
    (h.setState s.id .activating).activating? = some ⟨s.id, .activating⟩ := by
  obtain ⟨bs, a⟩ := o.arranged_of_free mem (Slot.isFree_of_state (Or.inl idle))
  simp [(a.setState_free o.numbered .activating rfl).activating?_eq]

end Host

namespace Roster

/-- A terminal is bound to a slot of a host. -/
def Holds (r : Roster) (id : HostId) (t : TerminalId) : Prop :=
  ∃ h, r.host? id = some h ∧ t ∈ h.terminals

theorem holds_iff (found : r.host? id = some h) : r.Holds id t ↔ t ∈ h.terminals := by
  simp [Holds, found]

theorem not_holds (unknown : r.host? id = none) : ¬ r.Holds id t := by
  simp [Holds, unknown]

theorem holds_congr (same : r'.host? i = r.host? i) : r'.Holds i u ↔ r.Holds i u := by
  simp [Holds, same]

theorem holds_put (found : r.host? id = some h) (same : h'.id = h.id) :
    (r.put h').Holds i u ↔ if i = id then u ∈ h'.terminals else r.Holds i u :=
  exists_host_put found same i

theorem holds_put_same (found : r.host? id = some h) (same : h'.id = h.id)
    (terminals : h'.terminals = h.terminals) : (r.put h').Holds i u ↔ r.Holds i u := by
  rw [holds_put found same, terminals]
  split
  · rename_i this
    rw [this, holds_iff found]
  · rfl

theorem holds_put_more (found : r.host? id = some h) (same : h'.id = h.id)
    (terminals : h'.terminals = h.terminals ++ [t]) :
    (r.put h').Holds i u ↔ r.Holds i u ∨ i = id ∧ u = t := by
  rw [holds_put found same, terminals]
  by_cases this : i = id
  · simp [this, holds_iff found]
  · simp [this]

theorem holds_put_less (found : r.host? id = some h) (same : h'.id = h.id)
    (terminals : h'.terminals = h.terminals.filter (· ≠ t)) :
    (r.put h').Holds i u ↔ r.Holds i u ∧ ¬ (i = id ∧ u = t) := by
  rw [holds_put found same, terminals]
  by_cases this : i = id
  · simp [this, holds_iff found]
  · simp [this]

/-! ### What is held after each change -/

theorem terminals_newcomer (r : Roster) (info : HostInfo) : (r.newcomer info).1.terminals = [] :=
  Host.terminals_settle _ _ _

theorem holds_addHost (r : Roster) (info : HostInfo) :
    (r.addHost info).2.Holds i u ↔ r.Holds i u := by
  rcases r.addHost_cases info with ⟨_, same⟩ | ⟨fresh, _⟩
  · rw [same]
  · have found := host?_addHost fresh i
    by_cases this : i = info.id
    · subst this
      simp only [if_true] at found
      simp [holds_iff found, terminals_newcomer, not_holds fresh]
    · exact holds_congr (by simpa [this] using found)

theorem holds_removeHost (r : Roster) (id : HostId) :
    (r.removeHost id).2.Holds i u ↔ r.Holds i u ∧ i ≠ id := by
  by_cases this : i = id
  · subst this
    simp [not_holds (host?_removeHost_self r i)]
  · simp [holds_congr (host?_removeHost_of_ne r this), this]

theorem holds_selectHost (r : Roster) (id : HostId) :
    (r.selectHost id).2.Holds i u ↔ r.Holds i u := by
  rcases r.selectHost_cases id with ⟨_, same⟩ | ⟨_, same⟩
  · rw [same]
  · rw [same]
    rfl

theorem holds_attach {requested selected : Bool} (wf : r.WellFormed)
    (outcome : r.attach id t = (.attached slot requested selected, r')) :
    r'.Holds i u ↔ r.Holds i u ∨ i = id ∧ u = t := by
  have case := r.attach_cases id t
  rw [outcome] at case
  cases case with
  | answer h s found fresh mem waits =>
    have free := Slot.isFree_of_state (Or.inr waits)
    refine holds_put_more found ?_ ?_
    · exact Host.id_settle _ _ _
    · rw [Host.terminals_settle]
      exact (wf.tidy_of_host? found).terminals_bind mem free t .terminal
  | join h found =>
    refine holds_put_more found ?_ ?_
    · exact Host.id_settle _ _ _
    · rw [Host.terminals_settle]
      exact (wf.tidy_of_host? found).terminals_insertBound ⟨r.next⟩ t

theorem holds_request (wf : r.WellFormed) (id : HostId) :
    (r.request id).2.Holds i u ↔ r.Holds i u := by
  have outcome := r.request_cases id
  generalize r.request id = result at outcome ⊢
  cases outcome with
  | unknownHost | refused => rfl
  | accepted h s found quiet mem idle =>
    refine holds_put_same found rfl ?_
    exact Host.terminals_setState (wf.tidy_of_host? found).numbered mem
      (by simp [Slot.terminal?, idle])

theorem holds_selectSlot (wf : r.WellFormed) (id : HostId) (slot : SlotId) :
    (r.selectSlot id slot).2.Holds i u ↔ r.Holds i u := by
  have outcome := r.selectSlot_cases id slot
  generalize r.selectSlot id slot = result at outcome ⊢
  cases outcome with
  | unknownHost | unbound => rfl
  | toggled h s t face found mem same bound =>
    refine holds_put_same found rfl ?_
    exact Host.terminals_setState (wf.tidy_of_host? found).numbered mem
      (by simp [Slot.terminal?, bound])
  | selected h s t found =>
    refine holds_put_same found ?_ ?_ <;> rfl

theorem holds_closeSlot {closed : ClosedSlot} (wf : r.WellFormed)
    (outcome : r.closeSlot id slot = (some closed, r')) :
    r.Holds id closed.terminal ∧
      ∀ i u, r'.Holds i u ↔ r.Holds i u ∧ ¬ (i = id ∧ u = closed.terminal) := by
  have case := r.closeSlot_cases id slot
  rw [outcome] at case
  cases case with
  | closed h s t found mem same bound =>
    refine ⟨(holds_iff found).mpr (Host.mem_terminals.mpr ⟨s, mem, bound⟩), fun i u => ?_⟩
    refine holds_put_less found ?_ ?_
    · exact Host.id_settle _ _ _
    · rw [Host.terminals_settle]
      exact (wf.tidy_of_host? found).terminals_removeSlot mem bound

theorem not_holds_of_locate? (located : r.locate? t = none) : ¬ r.Holds id t := by
  rintro ⟨h, found, mem⟩
  have none := List.findSome?_eq_none_iff.mp located h (mem_of_host? found)
  exact Host.slotOf?_eq_none_iff.mp (Option.map_eq_none_iff.mp none) mem

/-! ### The active terminal -/

theorem holds_of_active? (active : r.active? = some t) :
    ∃ id, r.current = some id ∧ r.Holds id t := by
  obtain ⟨h, found, shown⟩ := Option.bind_eq_some_iff.mp active
  obtain ⟨id, current, found⟩ := Option.bind_eq_some_iff.mp found
  exact ⟨id, current, h, found, Host.mem_terminals_of_active? shown⟩

theorem active?_congr (current : r'.current = r.current)
    (same : ∀ id, r.current = some id →
      (r'.host? id).bind Host.active? = (r.host? id).bind Host.active?) :
    r'.active? = r.active? := by
  simp only [active?, currentHost?, current]
  cases now : r.current with
  | none => rfl
  | some id => exact same id now

theorem active?_put (found : r.host? id = some h) (same : h'.id = h.id)
    (active : h'.active? = h.active?) : (r.put h').active? = r.active? := by
  refine active?_congr rfl fun i _ => ?_
  rw [host?_put, same, id_of_host? found]
  split
  · rename_i this
    simp [this, found, active]
  · rfl

theorem active?_addHost (wf : r.WellFormed) (info : HostInfo) :
    (r.addHost info).2.active? = r.active? := by
  rcases r.addHost_cases info with ⟨_, same⟩ | ⟨fresh, _⟩
  · rw [same]
  cases now : r.current with
  | none =>
    have before : r.active? = none := by simp [active?, currentHost?, now]
    have current : (r.addHost info).2.current = some info.id := by
      simp [addHost_of_fresh fresh, now]
    rw [before, active?, currentHost?, current, Option.bind_some, host?_addHost fresh]
    simp only [if_true, Option.bind_some]
    exact Host.active?_eq_none (Host.selected_settle _ _ _)
  | some id =>
    refine active?_congr (by simp [addHost_of_fresh fresh, now]) fun i current => ?_
    have there := wf.current i current
    have ne : i ≠ info.id := by
      rintro rfl
      simp [fresh] at there
    rw [host?_addHost fresh, if_neg ne]

theorem active?_request (wf : r.WellFormed) (id : HostId) :
    (r.request id).2.active? = r.active? := by
  have outcome := r.request_cases id
  generalize r.request id = result at outcome ⊢
  cases outcome with
  | unknownHost | refused => rfl
  | accepted h s found quiet mem idle =>
    refine active?_put found rfl ?_
    exact Host.active?_setState (wf.tidy_of_host? found).numbered mem
      (by simp [Slot.terminal?, idle])

theorem active?_toggle {face : Face} (wf : r.WellFormed)
    (outcome : r.selectSlot id slot = (.toggled t face, r')) : r'.active? = r.active? := by
  have case := r.selectSlot_cases id slot
  rw [outcome] at case
  cases case with
  | toggled h s t face found mem same bound =>
    refine active?_put found rfl ?_
    exact Host.active?_setState (wf.tidy_of_host? found).numbered mem
      (by simp [Slot.terminal?, bound])

/-- A terminal that is not selected on arrival changes nothing about the active one. -/
theorem active?_attach {requested : Bool} (wf : r.WellFormed)
    (outcome : r.attach id t = (.attached slot requested false, r')) : r'.active? = r.active? := by
  have case := r.attach_cases id t
  generalize result : (AttachOutcome.attached slot requested false, r') = out at outcome
  rw [outcome] at case
  cases case with
  | unknownHost | duplicate | atCapacity | answer => cases result
  | join h found fresh quiet room =>
    obtain ⟨shape, rfl⟩ := Prod.mk.inj result
    have some : h.selected.isSome := by
      cases selected : h.selected with
      | none => simp [selected] at shape
      | some s => rfl
    refine active?_put (r := { r with next := r.next + 1 }) found (Host.id_settle _ _ _) ?_
    have tidy := wf.tidy_of_host? found
    have mem := mem_of_host? found
    refine Host.active?_of_mem_of_mem tidy.toOrdered some (Host.numbered_settle ?_ ?_) ?_
      fun s hs bound => Host.mem_settle_of_bound (Host.mem_joined hs) bound
    · exact (tidy.insert quiet room fresh (wf.fresh mem)).numbered
    · intro s hs
      rcases id_mem_joined hs with old | new
      · obtain ⟨x, hx, number⟩ := List.mem_map.mp old
        rw [← number]
        exact Nat.lt_succ_of_lt (wf.below h mem x hx)
      · simp [new]
    · rw [Host.selected_settle, joined, Option.or_of_isSome some]

/-! ### The current host -/

theorem current_removeHost {removed : RemovedHost}
    (outcome : r.removeHost id = (some removed, r')) :
    r'.current = if removed.wasCurrent then none else r.current := by
  rcases r.removeHost_cases id with ⟨_, same⟩ | ⟨h, found, _⟩
  · simp [same] at outcome
  · rw [removeHost_of_known found] at outcome
    obtain ⟨shape, rfl⟩ := Prod.mk.inj outcome
    obtain rfl := Option.some.inj shape
    simp

theorem current_request (r : Roster) (id : HostId) : (r.request id).2.current = r.current := by
  have outcome := r.request_cases id
  generalize r.request id = result at outcome ⊢
  cases outcome <;> rfl

theorem current_closeSlot (r : Roster) (id : HostId) (slot : SlotId) :
    (r.closeSlot id slot).2.current = r.current := by
  have outcome := r.closeSlot_cases id slot
  generalize r.closeSlot id slot = result at outcome ⊢
  cases outcome <;> rfl

theorem current_toggle {face : Face} (outcome : r.selectSlot id slot = (.toggled t face, r')) :
    r'.current = r.current := by
  have case := r.selectSlot_cases id slot
  rw [outcome] at case
  cases case
  rfl

end Roster

end Switchboard
