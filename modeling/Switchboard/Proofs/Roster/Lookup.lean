import Switchboard.Proofs.Keyed
import Switchboard.Roster.Basic

/-!
# Looking up hosts

Which host is found under a number after each change of a roster. `host?_put` covers every change of
one host.
-/

namespace Switchboard.Roster

variable {r : Roster} {id id' : HostId} {h h' : Host}

theorem id_of_host? (found : r.host? id = some h) : h.id = id := key_of_find? found

theorem mem_of_host? (found : r.host? id = some h) : h ∈ r.hosts := List.mem_of_find?_eq_some found

theorem host?_eq_none_iff : r.host? id = none ↔ ∀ h ∈ r.hosts, h.id ≠ id := by
  simp [host?, List.find?_eq_none]

theorem host?_of_mem (distinct : (r.hosts.map Host.id).Nodup) (mem : h ∈ r.hosts) :
    r.host? h.id = some h := find?_key_of_mem distinct mem

/-! ### Replacing a host -/

theorem map_id_put (r : Roster) (h : Host) : (r.put h).hosts.map Host.id = r.hosts.map Host.id := by
  simp only [put, List.map_map, List.map_inj_left, Function.comp_apply]
  intro x _
  split <;> simp [*]

theorem mem_put {x : Host} (mem : x ∈ (r.put h).hosts) : x = h ∨ x ∈ r.hosts ∧ x.id ≠ h.id := by
  obtain ⟨y, hy, rfl⟩ := List.mem_map.mp mem
  by_cases same : y.id = h.id
  · simp [same]
  · simp [same, hy]

theorem host?_put (r : Roster) (h : Host) (id : HostId) :
    (r.put h).host? id = if id = h.id then (r.host? id).map fun _ => h else r.host? id := by
  have numbers : ∀ x : Host, (if x.id = h.id then h else x).id = x.id := by
    intro x
    split <;> simp [*]
  have moved : (r.put h).host? id = (r.host? id).map fun x => if x.id = h.id then h else x :=
    find?_key_map numbers
  rw [moved]
  cases found : r.host? id with
  | none => simp
  | some x =>
    obtain rfl := id_of_host? found
    by_cases same : x.id = h.id <;> simp [same]

theorem host?_put_self (found : r.host? id = some h) (same : h'.id = id) :
    (r.put h').host? id = some h' := by
  simp [host?_put, same, found]

theorem host?_put_of_ne (r : Roster) (ne : id ≠ h.id) : (r.put h).host? id = r.host? id := by
  simp [host?_put, ne]

/-- What holds of a host under a number after one host has been replaced. -/
theorem exists_host_put {p : Host → Prop} (found : r.host? id = some h) (same : h'.id = h.id)
    (i : HostId) :
    (∃ x, (r.put h').host? i = some x ∧ p x) ↔
      if i = id then p h' else ∃ x, r.host? i = some x ∧ p x := by
  have number := same.trans (id_of_host? found)
  by_cases this : i = id
  · subst this
    simp [host?_put_self found number]
  · have ne : i ≠ h'.id := fun e => this (e.trans number)
    simp [host?_put_of_ne r ne, this]

/-! ### Adding and removing a host -/

/-- A host without terminals, as it is added. -/
def newcomer (r : Roster) (info : HostInfo) : Host × Nat :=
  Host.settle { info, slots := [], selected := none } r.cap r.next

@[simp]
theorem id_newcomer (r : Roster) (info : HostInfo) : (r.newcomer info).1.id = info.id := by
  simp [newcomer, Host.id]

theorem addHost_of_known {info : HostInfo} (known : r.host? info.id = some h) :
    r.addHost info = (false, r) := by
  simp [addHost, known]

theorem addHost_of_fresh {info : HostInfo} (fresh : r.host? info.id = none) :
    r.addHost info = (true,
      { r with
        hosts := r.hosts ++ [(r.newcomer info).1]
        current := r.current.or (some info.id)
        next := (r.newcomer info).2 }) := by
  simp [addHost, fresh, newcomer]

theorem host?_addHost {info : HostInfo} (fresh : r.host? info.id = none) (id : HostId) :
    (r.addHost info).2.host? id =
      if id = info.id then some (r.newcomer info).1 else r.host? id := by
  rw [addHost_of_fresh fresh]
  by_cases same : id = info.id
  · subst same
    have absent : r.hosts.find? (·.id = info.id) = none := fresh
    simp [host?, List.find?_append, absent]
  · have ne : info.id ≠ id := fun e => same e.symm
    simp [host?, List.find?_append, same, ne]

theorem removeHost_of_unknown (unknown : r.host? id = none) : r.removeHost id = (none, r) := by
  simp [removeHost, unknown]

theorem removeHost_of_known (known : r.host? id = some h) :
    r.removeHost id =
      (some { host := h, wasCurrent := r.current = some id },
        { r with
          hosts := r.hosts.filter (·.id ≠ id)
          current := if r.current = some id then none else r.current }) := by
  simp [removeHost, known]

theorem host?_removeHost_self (r : Roster) (id : HostId) : (r.removeHost id).2.host? id = none := by
  cases found : r.host? id with
  | none => rwa [removeHost_of_unknown found]
  | some h => simp [removeHost_of_known found, host?]

theorem host?_removeHost_of_ne (r : Roster) (ne : id' ≠ id) :
    (r.removeHost id).2.host? id' = r.host? id' := by
  cases found : r.host? id with
  | none => rw [removeHost_of_unknown found]
  | some h =>
    simp only [removeHost_of_known found, host?, List.find?_filter]
    congr 1
    funext x
    by_cases same : x.id = id' <;> simp [same, ne]

/-! ### Selecting and clearing -/

theorem selectHost_of_known (known : r.host? id = some h) :
    r.selectHost id = (true, { r with current := some id }) := by
  simp [selectHost, known]

theorem selectHost_of_unknown (unknown : r.host? id = none) : r.selectHost id = (false, r) := by
  simp [selectHost, unknown]

end Switchboard.Roster
