import Switchboard.Proofs.Roster.WellFormed

/-!
# Hosts that a change does not concern

A change of a roster concerns one host at most. The others stay as they are, and the hosts that
remain stand in the order in which they stood.
-/

namespace Switchboard.Roster

variable {r r' r'' : Roster} {id : HostId} {h h' : Host} {touched : Option HostId}

/-- From `r` to `r'` at most one host changes, comes or goes. -/
structure Confined (touched : Option HostId) (r r' : Roster) : Prop where
  others : r'.hosts.filter (touched ≠ some ·.id) = r.hosts.filter (touched ≠ some ·.id)
  /-- The numbers of the hosts in order: a host that comes is the last one. -/
  order : r'.hosts.map Host.id = r.hosts.map Host.id ∨
    ∃ id, touched = some id ∧
      (r'.hosts.map Host.id = r.hosts.map Host.id ++ [id] ∨
        r'.hosts.map Host.id = (r.hosts.map Host.id).filter (· ≠ id))
  next : r.next ≤ r'.next

namespace Confined

theorem refl (touched : Option HostId) (r : Roster) : Confined touched r r :=
  ⟨rfl, Or.inl rfl, Nat.le_refl _⟩

/-- After a change, another one of the same host by which none comes or goes. -/
theorem trans (c : Confined touched r r') (c' : Confined touched r' r'')
    (same : r''.hosts.map Host.id = r'.hosts.map Host.id) : Confined touched r r'' :=
  ⟨c'.others.trans c.others, same ▸ c.order, Nat.le_trans c.next c'.next⟩

end Confined

/-! ### Every change is confined to the host that it names -/

theorem filter_put (r : Roster) (same : h'.id = id) :
    (r.put h').hosts.filter (some id ≠ some ·.id) = r.hosts.filter (some id ≠ some ·.id) := by
  simp only [put]
  induction r.hosts with
  | nil => rfl
  | cons x l ih =>
    rw [List.map_cons, List.filter_cons, List.filter_cons, ih]
    by_cases this : x.id = id
    · simp [this, same]
    · simp [this, same]

theorem confined_put {next : Nat} {current : Option HostId} (found : r.host? id = some h)
    (same : h'.id = h.id) (le : r.next ≤ next) :
    Confined (some id) r { r.put h' with next, current } where
  others := filter_put r (same.trans (id_of_host? found))
  order := Or.inl (map_id_put r h')
  next := le

theorem confined_putSettled {next : Nat} {current : Option HostId} (found : r.host? id = some h)
    (same : h'.id = h.id) (le : r.next ≤ next) :
    Confined (some id) r { ({ r with next } : Roster).putSettled h' with current } :=
  confined_put found ((Host.id_settle h' r.cap next).trans same)
    (Nat.le_trans le (Host.le_settle h' r.cap next))

theorem confined_addHost (r : Roster) (info : HostInfo) :
    Confined (some info.id) r (r.addHost info).2 := by
  rcases r.addHost_cases info with ⟨_, same⟩ | ⟨fresh, _⟩
  · rw [same]
    exact .refl _ r
  · rw [addHost_of_fresh fresh]
    exact {
      others := by simp
      order := Or.inr ⟨info.id, rfl, Or.inl (by simp)⟩
      next := Host.le_settle _ _ _ }

theorem confined_removeHost (r : Roster) (id : HostId) :
    Confined (some id) r (r.removeHost id).2 := by
  rcases r.removeHost_cases id with ⟨_, same⟩ | ⟨h, found, _⟩
  · rw [same]
    exact .refl _ r
  · rw [removeHost_of_known found]
    refine ⟨?_, Or.inr ⟨id, rfl, Or.inr ?_⟩, Nat.le_refl _⟩
    · rw [List.filter_filter]
      apply List.filter_congr
      intro x _
      simp [eq_comm]
    · rw [List.filter_map]
      rfl

theorem confined_selectHost (r : Roster) (id : HostId) :
    Confined (some id) r (r.selectHost id).2 := by
  rcases r.selectHost_cases id with ⟨_, same⟩ | ⟨_, same⟩ <;> rw [same]
  · exact .refl _ r
  · exact ⟨rfl, Or.inl rfl, Nat.le_refl _⟩

theorem confined_attach (r : Roster) (id : HostId) (t : TerminalId) :
    Confined (some id) r (r.attach id t).2 := by
  have outcome := r.attach_cases id t
  generalize r.attach id t = result at outcome ⊢
  cases outcome with
  | unknownHost | duplicate | atCapacity => exact .refl _ r
  | answer h s found => exact confined_putSettled found rfl (Nat.le_refl _)
  | join h found => exact confined_putSettled found rfl (Nat.le_succ _)

theorem confined_request (r : Roster) (id : HostId) : Confined (some id) r (r.request id).2 := by
  have outcome := r.request_cases id
  generalize r.request id = result at outcome ⊢
  cases outcome with
  | unknownHost | refused => exact .refl _ r
  | accepted h s found => exact confined_put found rfl (Nat.le_refl _)

theorem confined_selectSlot (r : Roster) (id : HostId) (slot : SlotId) :
    Confined (some id) r (r.selectSlot id slot).2 := by
  have outcome := r.selectSlot_cases id slot
  generalize r.selectSlot id slot = result at outcome ⊢
  cases outcome with
  | unknownHost | unbound => exact .refl _ r
  | toggled h s t face found => exact confined_put found rfl (Nat.le_refl _)
  | selected h s t found => exact confined_put found rfl (Nat.le_refl _)

theorem confined_closeSlot (r : Roster) (id : HostId) (slot : SlotId) :
    Confined (some id) r (r.closeSlot id slot).2 := by
  have outcome := r.closeSlot_cases id slot
  generalize r.closeSlot id slot = result at outcome ⊢
  cases outcome with
  | unknownHost | unbound => exact .refl _ r
  | closed h s t found => exact confined_putSettled found rfl (Nat.le_refl _)

theorem map_id_request (r : Roster) (id : HostId) :
    (r.request id).2.hosts.map Host.id = r.hosts.map Host.id := by
  have outcome := r.request_cases id
  generalize r.request id = result at outcome ⊢
  cases outcome with
  | unknownHost | refused => rfl
  | accepted h s => exact map_id_put r _

end Switchboard.Roster
