import Switchboard.Proofs.Roster.Binding

/-!
# Slots over time

A slot stays with its host as long as it is there, and once it is bound it stays bound to the same
terminal. Numbers of slots that are gone do not come back. `leads_edit`: every change of a roster
leads to such a later one, and `leads_editAll`: so does every run of changes.
-/

namespace Switchboard

variable {r r₁ r' : Roster} {id i : HostId} {h h' : Host} {t : TerminalId} {s s₁ s' : Slot}
  {slot : SlotId}

/-- What a slot may become: it keeps its number and, if it is bound, its terminal. -/
structure Slot.Leads (s s' : Slot) : Prop where
  id : s'.id = s.id
  terminal : ∀ t, s.terminal? = some t → s'.terminal? = some t

theorem Slot.Leads.refl (s : Slot) : s.Leads s := ⟨rfl, fun _ bound => bound⟩

theorem Slot.Leads.trans (first : s.Leads s₁) (rest : s₁.Leads s') : s.Leads s' :=
  ⟨rest.id.trans first.id, fun t bound => rest.terminal t (first.terminal t bound)⟩

theorem Host.leads_setState {state : SlotState} (numbered : (h.slots.map Slot.id).Nodup)
    (mem : s ∈ h.slots) (leads : s.Leads ⟨s.id, state⟩) (mem' : s' ∈ (h.setState s.id state).slots) :
    ∃ x ∈ h.slots, x.Leads s' := by
  obtain ⟨x, hx, rfl⟩ := List.mem_map.mp mem'
  by_cases same : x.id = s.id
  · rw [List.inj_on_of_nodup_map numbered hx mem same]
    exact ⟨s, mem, by simpa using leads⟩
  · exact ⟨x, hx, by simpa [same] using Slot.Leads.refl x⟩

namespace Roster

/-- A host has a slot. -/
def Has (r : Roster) (id : HostId) (s : Slot) : Prop := ∃ h, r.host? id = some h ∧ s ∈ h.slots

/-- No host has a slot of a number. -/
def Lacks (r : Roster) (slot : SlotId) : Prop := ∀ h ∈ r.hosts, slot ∉ h.slots.map Slot.id

/-- What a roster may become: each slot is an old one of the same host or has a new number. -/
structure Leads (r r' : Roster) : Prop where
  next : r.next ≤ r'.next
  slots : ∀ i s', r'.Has i s' → r.next ≤ s'.id.number ∨ ∃ s, r.Has i s ∧ s.Leads s'

theorem Leads.refl (r : Roster) : r.Leads r :=
  ⟨Nat.le_refl _, fun _ s' has => Or.inr ⟨s', has, .refl s'⟩⟩

theorem Leads.trans (first : r.Leads r₁) (rest : r₁.Leads r') : r.Leads r' where
  next := Nat.le_trans first.next rest.next
  slots i s' has := by
    rcases rest.slots i s' has with new | ⟨s₁, has₁, leads₁⟩
    · exact Or.inl (Nat.le_trans first.next new)
    · rcases first.slots i s₁ has₁ with new | ⟨s, has, leads⟩
      · exact Or.inl (leads₁.id ▸ new)
      · exact Or.inr ⟨s, has, leads.trans leads₁⟩

/-! ### Every change leads to a later roster -/

/-- A host is replaced by one whose slots are what its slots may become, or have new numbers. -/
theorem leads_put {next : Nat} {current : Option HostId} (found : r.host? id = some h)
    (same : h'.id = h.id) (le : r.next ≤ next)
    (kept : ∀ s' ∈ h'.slots, r.next ≤ s'.id.number ∨ ∃ s ∈ h.slots, s.Leads s') :
    r.Leads { r.put h' with next, current } where
  next := le
  slots i s' has := by
    have here := (exists_host_put found same i).mp has
    split at here
    · rename_i this
      subst this
      rcases kept s' here with new | ⟨s, mem, leads⟩
      · exact Or.inl new
      · exact Or.inr ⟨s, ⟨h, found, mem⟩, leads⟩
    · exact Or.inr ⟨s', here, .refl s'⟩

theorem leads_putSettled {next : Nat} {current : Option HostId} (h' : Host)
    (found : r.host? id = some h) (same : h'.id = h.id) (le : r.next ≤ next)
    (kept : ∀ s' ∈ h'.slots, r.next ≤ s'.id.number ∨ ∃ s ∈ h.slots, s.Leads s') :
    r.Leads { ({ r with next } : Roster).putSettled h' with current } := by
  refine leads_put found ((Host.id_settle _ _ _).trans same)
    (Nat.le_trans le (Host.le_settle h' r.cap next)) fun s' mem => ?_
  rcases Host.mem_settle mem with old | ⟨new, _⟩
  · exact kept s' old
  · exact Or.inl (new ▸ le)

theorem leads_addHost (r : Roster) (info : HostInfo) : r.Leads (r.addHost info).2 := by
  rcases r.addHost_cases info with ⟨_, same⟩ | ⟨fresh, _⟩
  · rw [same]
    exact .refl r
  have found := host?_addHost fresh
  rw [addHost_of_fresh fresh] at found ⊢
  refine ⟨Host.le_settle _ _ _, fun i s' ⟨h, there, mem⟩ => ?_⟩
  rw [found] at there
  split at there
  · obtain rfl := Option.some.inj there
    rcases Host.mem_settle mem with old | ⟨new, _⟩
    · cases old
    · exact Or.inl (Nat.le_of_eq new.symm)
  · exact Or.inr ⟨s', ⟨h, there, mem⟩, .refl s'⟩

theorem leads_removeHost (r : Roster) (id : HostId) : r.Leads (r.removeHost id).2 where
  next := by
    rcases r.removeHost_cases id with ⟨_, same⟩ | ⟨h, found, _⟩
    · simp [same]
    · simp [removeHost_of_known found]
  slots i s' has := by
    obtain ⟨h, there, mem⟩ := has
    by_cases this : i = id
    · subst this
      simp [host?_removeHost_self] at there
    · rw [host?_removeHost_of_ne r this] at there
      exact Or.inr ⟨s', ⟨h, there, mem⟩, .refl s'⟩

theorem leads_selectHost (r : Roster) (id : HostId) : r.Leads (r.selectHost id).2 := by
  rcases r.selectHost_cases id with ⟨_, same⟩ | ⟨_, same⟩
  · rw [same]
    exact .refl r
  · rw [same]
    exact ⟨Nat.le_refl _, fun _ s' has => Or.inr ⟨s', has, .refl s'⟩⟩

theorem leads_attach (wf : r.WellFormed) (id : HostId) (t : TerminalId) :
    r.Leads (r.attach id t).2 := by
  have outcome := r.attach_cases id t
  generalize r.attach id t = result at outcome ⊢
  cases outcome with
  | unknownHost | duplicate | atCapacity => exact .refl r
  | answer h s found fresh mem waits =>
    have numbered := (wf.tidy_of_host? found).numbered
    have unbound : s.Leads ⟨s.id, .bound t .terminal⟩ :=
      ⟨rfl, fun u bound => by simp [Slot.terminal?, waits] at bound⟩
    exact leads_putSettled (answered h s t) found rfl (Nat.le_refl _)
      fun _ mem' => Or.inr (Host.leads_setState numbered mem unbound mem')
  | join h found fresh quiet room =>
    refine leads_putSettled (joined h ⟨r.next⟩ t) found rfl (Nat.le_succ _) fun s' mem' => ?_
    simp only [joined, Host.insertBound, List.mem_append, List.mem_cons] at mem'
    rcases mem' with before | rfl | after
    · exact Or.inr ⟨s', List.takeWhile_sublist _ |>.subset before, .refl s'⟩
    · exact Or.inl (Nat.le_refl _)
    · exact Or.inr ⟨s', List.dropWhile_sublist _ |>.subset after, .refl s'⟩

theorem leads_request (wf : r.WellFormed) (id : HostId) : r.Leads (r.request id).2 := by
  have outcome := r.request_cases id
  generalize r.request id = result at outcome ⊢
  cases outcome with
  | unknownHost | refused => exact .refl r
  | accepted h s found quiet mem idle =>
    have numbered := (wf.tidy_of_host? found).numbered
    have unbound : s.Leads ⟨s.id, .activating⟩ :=
      ⟨rfl, fun u bound => by simp [Slot.terminal?, idle] at bound⟩
    exact leads_put found rfl (Nat.le_refl _)
      fun _ mem' => Or.inr (Host.leads_setState numbered mem unbound mem')

theorem leads_selectSlot (wf : r.WellFormed) (id : HostId) (slot : SlotId) :
    r.Leads (r.selectSlot id slot).2 := by
  have outcome := r.selectSlot_cases id slot
  generalize r.selectSlot id slot = result at outcome ⊢
  cases outcome with
  | unknownHost | unbound => exact .refl r
  | toggled h s t face found mem same bound =>
    have numbered := (wf.tidy_of_host? found).numbered
    have flipped : s.Leads ⟨s.id, .bound t face.flip⟩ :=
      ⟨rfl, fun u there => by simpa [Slot.terminal?, bound] using there⟩
    exact leads_put found rfl (Nat.le_refl _)
      fun _ mem' => Or.inr (Host.leads_setState numbered mem flipped mem')
  | selected h s t found =>
    exact leads_put found rfl (Nat.le_refl _) fun s' mem' => Or.inr ⟨s', mem', .refl s'⟩

theorem leads_closeSlot (r : Roster) (id : HostId) (slot : SlotId) :
    r.Leads (r.closeSlot id slot).2 := by
  have outcome := r.closeSlot_cases id slot
  generalize r.closeSlot id slot = result at outcome ⊢
  cases outcome with
  | unknownHost | unbound => exact .refl r
  | closed h s t found =>
    exact leads_putSettled (bereft h s.id) found rfl (Nat.le_refl _)
      fun s' mem' => Or.inr ⟨s', (List.mem_filter.mp mem').1, .refl s'⟩

theorem leads_clear (r : Roster) : r.Leads r.clear :=
  ⟨Nat.le_refl _, fun _ _ ⟨_, there, _⟩ => by simp [clear, host?] at there⟩

theorem leads_edit (wf : r.WellFormed) (e : Edit) : r.Leads (r.edit e) := by
  cases e with
  | addHost info => exact r.leads_addHost info
  | removeHost host => exact r.leads_removeHost host
  | selectHost host => exact r.leads_selectHost host
  | attach host t => exact leads_attach wf host t
  | request host => exact leads_request wf host
  | selectSlot host slot => exact leads_selectSlot wf host slot
  | closeSlot host slot => exact r.leads_closeSlot host slot
  | clear => exact r.leads_clear

theorem leads_editAll (wf : r.WellFormed) (edits : List Edit) : r.Leads (r.editAll edits) := by
  induction edits generalizing r with
  | nil => exact .refl r
  | cons e edits ih => exact (leads_edit wf e).trans (ih (wellFormed_edit wf e))

/-! ### What becomes of a slot -/

theorem WellFormed.has_of_not_lacks (wf : r.WellFormed) (there : ¬ r.Lacks slot) :
    ∃ i s, r.Has i s ∧ s.id = slot := by
  simp only [Lacks, not_forall, not_not] at there
  obtain ⟨h, mem, inside⟩ := there
  obtain ⟨s, inside, same⟩ := List.mem_map.mp inside
  exact ⟨h.id, s, ⟨h, host?_of_mem wf.distinct mem, inside⟩, same⟩

/-- A slot is on one host, once. -/
theorem WellFormed.has_unique (wf : r.WellFormed) (has : r.Has i s) (has' : r.Has id s')
    (same : s.id = s'.id) : i = id ∧ s = s' := by
  obtain ⟨h, found, mem⟩ := has
  obtain ⟨h', found', mem'⟩ := has'
  obtain rfl := wf.apart h (mem_of_host? found) h' (mem_of_host? found') s mem s' mem' same
  refine ⟨(id_of_host? found).symm.trans (id_of_host? found'), ?_⟩
  exact List.inj_on_of_nodup_map (wf.tidy_of_host? found).numbered mem mem' same

theorem WellFormed.terminalAt?_of_has (wf : r.WellFormed) (has : r.Has id s) :
    r.terminalAt? id s.id = s.terminal? := by
  obtain ⟨h, found, mem⟩ := has
  exact terminalAt?_of_mem found (wf.tidy_of_host? found).numbered mem

theorem WellFormed.given_of_terminalAt? (wf : r.WellFormed)
    (bound : r.terminalAt? id slot = some t) : slot.number < r.next := by
  obtain ⟨h, s, found, mem, rfl, _⟩ := slot_of_terminalAt? bound
  exact wf.number_lt found (List.mem_map_of_mem mem)

/-- A slot that is gone does not come back. -/
theorem Leads.lacks (leads : r.Leads r') (wf' : r'.WellFormed) (given : slot.number < r.next)
    (gone : r.Lacks slot) : r'.Lacks slot := by
  by_contra there
  obtain ⟨i, s', has, rfl⟩ := wf'.has_of_not_lacks there
  rcases leads.slots i s' has with new | ⟨s, ⟨h, found, mem⟩, leads⟩
  · omega
  · exact gone h (mem_of_host? found) (List.mem_map.mpr ⟨s, mem, leads.id.symm⟩)

/-- A slot that is bound stays with its host and its terminal as long as it is there. -/
theorem Leads.terminalAt? (leads : r.Leads r') (wf : r.WellFormed) (wf' : r'.WellFormed)
    (bound : r.terminalAt? id slot = some t) :
    r'.terminalAt? id slot = some t ∨ r'.Lacks slot := by
  have given := wf.given_of_terminalAt? bound
  obtain ⟨h, s, found, mem, rfl, held⟩ := slot_of_terminalAt? bound
  have has : r.Has id s := ⟨h, found, mem⟩
  refine or_iff_not_imp_right.mpr fun there => ?_
  obtain ⟨i, s', has', same⟩ := wf'.has_of_not_lacks there
  rcases leads.slots i s' has' with new | ⟨s₁, has₁, leads₁⟩
  · rw [same] at new
    omega
  · obtain ⟨rfl, rfl⟩ := wf.has_unique has₁ has (leads₁.id.symm.trans same)
    rw [← same, wf'.terminalAt?_of_has has']
    exact leads₁.terminal t held

theorem not_lacks_of_terminalAt? (bound : r.terminalAt? id slot = some t) : ¬ r.Lacks slot := by
  obtain ⟨h, s, found, mem, rfl, _⟩ := slot_of_terminalAt? bound
  exact fun gone => gone h (mem_of_host? found) (List.mem_map_of_mem mem)

/-- Over any run of changes a bound slot keeps its host and its terminal until it is gone, and then
it is gone for good. -/
theorem WellFormed.fate_of_slot (wf : r.WellFormed) (bound : r.terminalAt? id slot = some t)
    (later : List Edit) :
    let r' := r.editAll later
    (r'.terminalAt? id slot = some t ∨ r'.Lacks slot) ∧
      (r'.Lacks slot → ∀ more, (r'.editAll more).Lacks slot) := by
  intro r'
  have wf' : r'.WellFormed := wellFormed_editAll wf later
  have leads : r.Leads r' := leads_editAll wf later
  have given := Nat.lt_of_lt_of_le (wf.given_of_terminalAt? bound) leads.next
  exact ⟨leads.terminalAt? wf wf' bound,
    fun gone more => (leads_editAll wf' more).lacks (wellFormed_editAll wf' more) given gone⟩

theorem Lacks.terminalAt? (gone : r.Lacks slot) (id : HostId) : r.terminalAt? id slot = none := by
  rw [Option.eq_none_iff_forall_ne_some]
  exact fun t bound => not_lacks_of_terminalAt? bound gone

theorem lacks_closeSlot {closed : ClosedSlot} (wf : r.WellFormed)
    (outcome : r.closeSlot id slot = (some closed, r')) : r'.Lacks slot := by
  have case := r.closeSlot_cases id slot
  rw [outcome] at case
  cases case with
  | closed h s t found mem same =>
    subst same
    have host := mem_of_host? found
    intro x hx inside
    obtain ⟨y, hy, number⟩ := List.mem_map.mp inside
    rcases mem_put hx with rfl | ⟨hx, other⟩
    · rcases Host.mem_settle hy with old | ⟨new, _⟩
      · have left : y.id ≠ s.id := by simpa using (List.mem_filter.mp old).2
        exact left number
      · have small := wf.below h host s mem
        rw [← number] at small
        omega
    · have this : x = h := wf.apart x hx h host y hy s mem number
      exact other ((congrArg Host.id this).trans (Host.id_settle (bereft h s.id) r.cap r.next).symm)

/-! ### A click and a close concern one slot -/

/-- The bound slots but one are as they were. -/
def Spares (r r' : Roster) (slot : SlotId) : Prop :=
  ∀ i s, s.id ≠ slot → s.isFree = false → r.Has i s → r'.Has i s

theorem spares_put {next : Nat} {current : Option HostId} (found : r.host? id = some h)
    (same : h'.id = h.id) (kept : ∀ s ∈ h.slots, s.id ≠ slot → s.isFree = false → s ∈ h'.slots) :
    r.Spares { r.put h' with next, current } slot := by
  intro i s other busy has
  refine (exists_host_put found same i).mpr ?_
  split
  · rename_i this
    subst this
    obtain ⟨x, there, mem⟩ := has
    obtain rfl := Option.some.inj (there.symm.trans found)
    exact kept s mem other busy
  · exact has

theorem spares_selectSlot (r : Roster) (id : HostId) (slot : SlotId) :
    r.Spares (r.selectSlot id slot).2 slot := by
  have outcome := r.selectSlot_cases id slot
  generalize r.selectSlot id slot = result at outcome ⊢
  cases outcome with
  | unknownHost | unbound => exact fun _ _ _ _ has => has
  | toggled h s t face found mem same =>
    refine spares_put found rfl fun x inside other _ => List.mem_map.mpr ⟨x, inside, ?_⟩
    simp [same, other]
  | selected h s t found => exact spares_put found rfl fun _ inside _ _ => inside

theorem spares_closeSlot (r : Roster) (id : HostId) (slot : SlotId) :
    r.Spares (r.closeSlot id slot).2 slot := by
  have outcome := r.closeSlot_cases id slot
  generalize r.closeSlot id slot = result at outcome ⊢
  cases outcome with
  | unknownHost | unbound => exact fun _ _ _ _ has => has
  | closed h s t found mem same =>
    refine spares_put found (Host.id_settle _ _ _) fun x inside other busy => ?_
    exact Host.mem_settle_of_bound (List.mem_filter.mpr ⟨inside, by simpa [same] using other⟩) busy

theorem selectSlot_of_terminalAt? (wf : r.WellFormed) (bound : r.terminalAt? id slot = some t) :
    (∃ r', r.selectSlot id slot = (.selected t, r')) ∨
      ∃ face r', r.selectSlot id slot = (.toggled t face, r') := by
  have outcome := r.selectSlot_cases id slot
  generalize r.selectSlot id slot = result at outcome ⊢
  cases outcome with
  | unknownHost unknown => simp [terminalAt?, unknown] at bound
  | unbound h found unbound => simp [terminalAt?, found, unbound] at bound
  | toggled h s u face found mem same there =>
    rw [← same, terminalAt?_of_mem found (wf.tidy_of_host? found).numbered mem] at bound
    have this : u = t := by simpa [Slot.terminal?, there] using bound
    exact Or.inr ⟨_, _, by rw [this]⟩
  | selected h s u found mem same there =>
    rw [← same, terminalAt?_of_mem found (wf.tidy_of_host? found).numbered mem, there] at bound
    exact Or.inl ⟨_, by rw [Option.some.inj bound]⟩

theorem active?_of_current (current : r.current = some id) (found : r.host? id = some h) :
    r.active? = h.active? := by
  simp [active?, currentHost?, current, found]

/-- The terminal of a slot that was clicked is the active one. -/
theorem active?_selectSlot (wf : r.WellFormed) (bound : r.terminalAt? id slot = some t) :
    (r.selectSlot id slot).2.active? = some t := by
  have outcome := r.selectSlot_cases id slot
  generalize r.selectSlot id slot = result at outcome ⊢
  cases outcome with
  | unknownHost unknown => simp [terminalAt?, unknown] at bound
  | unbound h found unbound => simp [terminalAt?, found, unbound] at bound
  | toggled h s u face found mem same there current selected =>
    have number := id_of_host? found
    have numbered := (wf.tidy_of_host? found).numbered
    rw [← same, terminalAt?_of_mem found numbered mem] at bound
    have kept : Slot.terminal? ⟨s.id, .bound u face.flip⟩ = s.terminal? := by
      simp [Slot.terminal?, there]
    let h' := h.setState s.id (.bound u face.flip)
    have found' : (r.put h').host? id = some h' := host?_put_self found number
    have active := Host.active?_of_mem numbered mem (same ▸ selected)
    exact (active?_of_current (r := r.put h') current found').trans
      ((Host.active?_setState numbered mem kept).trans (active.trans bound))
  | selected h s u found mem same =>
    have number := id_of_host? found
    have numbered := (wf.tidy_of_host? found).numbered
    rw [← same, terminalAt?_of_mem found numbered mem] at bound
    let h' : Host := { h with selected := some s.id }
    have found' : (r.put h').host? id = some h' := host?_put_self found number
    have active := Host.active?_of_mem (h := h') numbered mem rfl
    let moved : Roster := { r.put h' with current := some id }
    exact (active?_of_current (r := moved) rfl found').trans (active.trans bound)

end Roster

end Switchboard
