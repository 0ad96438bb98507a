import Switchboard.Proofs.Roster.Cases
import Switchboard.Proofs.Roster.Tidy

/-!
# Well-formed rosters

A well-formed roster has tidy rows, and no number stands for two hosts or two slots.
`wellFormed_edit`: every change of a roster keeps it well-formed, and `wellFormed_editAll`: so does
every run of changes.
-/

namespace Switchboard.Roster

variable {r : Roster} {id : HostId} {h h' : Host} {t : TerminalId} {s : Slot}

inductive Edit where
  | addHost (info : HostInfo)
  | removeHost (host : HostId)
  | selectHost (host : HostId)
  | attach (host : HostId) (terminal : TerminalId)
  | request (host : HostId)
  | selectSlot (host : HostId) (slot : SlotId)
  | closeSlot (host : HostId) (slot : SlotId)
  | clear
deriving DecidableEq, Repr

def edit (r : Roster) : Edit → Roster
  | .addHost info => (r.addHost info).2
  | .removeHost host => (r.removeHost host).2
  | .selectHost host => (r.selectHost host).2
  | .attach host t => (r.attach host t).2
  | .request host => (r.request host).2
  | .selectSlot host slot => (r.selectSlot host slot).2
  | .closeSlot host slot => (r.closeSlot host slot).2
  | .clear => r.clear

def editAll (r : Roster) (edits : List Edit) : Roster := edits.foldl edit r

/-- The rows are tidy, no two hosts share a number, no two slots do, and the current host is
there. -/
structure WellFormed (r : Roster) : Prop where
  tidy : ∀ h ∈ r.hosts, h.Tidy r.cap
  distinct : (r.hosts.map Host.id).Nodup
  apart : ∀ h ∈ r.hosts, ∀ h' ∈ r.hosts, ∀ s ∈ h.slots, ∀ s' ∈ h'.slots, s.id = s'.id → h = h'
  below : ∀ h ∈ r.hosts, ∀ s ∈ h.slots, s.id.number < r.next
  current : ∀ id, r.current = some id → (r.host? id).isSome

theorem WellFormed.tidy_of_host? (wf : r.WellFormed) (found : r.host? id = some h) :
    h.Tidy r.cap := wf.tidy h (mem_of_host? found)

theorem WellFormed.fresh (wf : r.WellFormed) (mem : h ∈ r.hosts) :
    (⟨r.next⟩ : SlotId) ∉ h.slots.map Slot.id := by
  intro inside
  obtain ⟨s, hs, same⟩ := List.mem_map.mp inside
  have small := wf.below h mem s hs
  simp [same] at small

theorem wellFormed_start (cap : Nat) : ({ cap } : Roster).WellFormed :=
  ⟨by simp, by simp, by simp, by simp, by simp⟩

/-- A host is replaced by a tidy one whose slots are old ones of the host or have new numbers. -/
theorem WellFormed.replace {next : Nat} {current : Option HostId} (wf : r.WellFormed)
    (found : r.host? id = some h) (same : h'.id = h.id) (tidy : h'.Tidy r.cap) (le : r.next ≤ next)
    (known : ∀ s ∈ h'.slots,
      s.id ∈ h.slots.map Slot.id ∨ r.next ≤ s.id.number ∧ s.id.number < next)
    (there : ∀ i, current = some i → (r.host? i).isSome) :
    ({ r.put h' with next, current } : Roster).WellFormed := by
  have old := mem_of_host? found
  -- The new row shares no number with another host: its numbers are old ones or not given yet.
  have cross : ∀ x ∈ r.hosts, x.id ≠ h'.id → ∀ s ∈ h'.slots, ∀ s' ∈ x.slots, s.id ≠ s'.id := by
    intro x hx ne s hs s' hs' equal
    rcases known s hs with mem | ⟨large, _⟩
    · obtain ⟨y, hy, id⟩ := List.mem_map.mp mem
      have host := wf.apart h old x hx y hy s' hs' (id.trans equal)
      exact ne (host ▸ same.symm)
    · have small := wf.below x hx s' hs'
      rw [← equal] at small
      omega
  refine ⟨?_, ?_, ?_, ?_, ?_⟩
  · intro x hx
    rcases mem_put hx with rfl | ⟨hx, _⟩
    · exact tidy
    · exact wf.tidy x hx
  · show ((r.put h').hosts.map Host.id).Nodup
    rw [map_id_put]
    exact wf.distinct
  · intro x hx y hy s hs s' hs' equal
    rcases mem_put hx with newx | ⟨oldx, nx⟩ <;> rcases mem_put hy with newy | ⟨oldy, ny⟩
    · rw [newx, newy]
    · exact absurd equal (cross y oldy ny s (newx ▸ hs) s' hs')
    · exact absurd equal.symm (cross x oldx nx s' (newy ▸ hs') s hs)
    · exact wf.apart x oldx y oldy s hs s' hs' equal
  · intro x hx s hs
    show s.id.number < next
    rcases mem_put hx with rfl | ⟨hx, _⟩
    · rcases known s hs with mem | ⟨_, small⟩
      · obtain ⟨y, hy, equal⟩ := List.mem_map.mp mem
        have small := wf.below h old y hy
        rw [← equal]
        omega
      · exact small
    · exact Nat.lt_of_lt_of_le (wf.below x hx s hs) le
  · intro i hi
    show ((r.put h').host? i).isSome
    have isSome := there i hi
    rw [host?_put]
    split <;> simp [isSome]

theorem WellFormed.replaceSettled {next : Nat} {current : Option HostId} (wf : r.WellFormed)
    (found : r.host? id = some h) (same : h'.id = h.id) (unsettled : h'.Unsettled r.cap)
    (le : r.next ≤ next)
    (known : ∀ s ∈ h'.slots,
      s.id ∈ h.slots.map Slot.id ∨ r.next ≤ s.id.number ∧ s.id.number < next)
    (there : ∀ i, current = some i → (r.host? i).isSome) :
    ({ ({ r with next } : Roster).putSettled h' with current } : Roster).WellFormed := by
  have below : ∀ s ∈ h'.slots, s.id.number < next := by
    intro s hs
    rcases known s hs with mem | ⟨_, small⟩
    · obtain ⟨y, hy, equal⟩ := List.mem_map.mp mem
      have small := wf.below h (mem_of_host? found) y hy
      rw [← equal]
      omega
    · exact small
  have grown := Host.le_settle h' r.cap next
  refine wf.replace found (by simpa using same) (unsettled.tidy_settle below)
    (Nat.le_trans le grown) ?_ there
  intro s hs
  have settled : s ∈ (h'.settle r.cap next).1.slots := hs
  show _ ∨ r.next ≤ s.id.number ∧ s.id.number < (h'.settle r.cap next).2
  rcases Host.mem_settle settled with old | ⟨equal, small⟩
  · rcases known s old with mem | ⟨large, small⟩
    · exact Or.inl mem
    · exact Or.inr ⟨large, by omega⟩
  · exact Or.inr ⟨by omega, by omega⟩

/-! ### Every change keeps a roster well-formed -/

theorem WellFormed.addHost (wf : r.WellFormed) (info : HostInfo) :
    (r.addHost info).2.WellFormed := by
  rcases r.addHost_cases info with ⟨_, same⟩ | ⟨fresh, _⟩
  · rwa [same]
  have found := host?_addHost fresh
  rw [addHost_of_fresh fresh] at found ⊢
  have numbers : ∀ s ∈ (r.newcomer info).1.slots,
      s.id.number = r.next ∧ r.next < (r.newcomer info).2 := by
    intro s hs
    rcases Host.mem_settle hs with old | new
    · cases old
    · exact new
  have grown : r.next ≤ (r.newcomer info).2 := Host.le_settle _ _ _
  refine ⟨?_, ?_, ?_, ?_, ?_⟩
  · intro x hx
    rcases List.mem_append.mp hx with old | new
    · exact wf.tidy x old
    · rw [List.mem_singleton.mp new]
      exact Host.tidy_newcomer info r.cap r.next
  · rw [List.map_append, List.nodup_append]
    refine ⟨wf.distinct, by simp, ?_⟩
    intro i hi j hj
    obtain ⟨x, hx, rfl⟩ := List.mem_map.mp hi
    have new : j = info.id := by simpa using hj
    rw [new]
    exact host?_eq_none_iff.mp fresh x hx
  · intro x hx y hy s hs s' hs' equal
    rcases List.mem_append.mp hx with ox | nx <;> rcases List.mem_append.mp hy with oy | ny
    · exact wf.apart x ox y oy s hs s' hs' equal
    · rw [List.mem_singleton.mp ny] at hs'
      have small := wf.below x ox s hs
      rw [equal, (numbers s' hs').1] at small
      omega
    · rw [List.mem_singleton.mp nx] at hs
      have small := wf.below y oy s' hs'
      rw [← equal, (numbers s hs).1] at small
      omega
    · rw [List.mem_singleton.mp nx, List.mem_singleton.mp ny]
  · intro x hx s hs
    show s.id.number < (r.newcomer info).2
    rcases List.mem_append.mp hx with old | new
    · exact Nat.lt_of_lt_of_le (wf.below x old s hs) grown
    · rw [List.mem_singleton.mp new] at hs
      have new := numbers s hs
      omega
  · intro i hi
    rw [found]
    by_cases same : i = info.id
    · simp [same]
    · cases before : r.current with
      | none => simp [before, Ne.symm same] at hi
      | some j =>
        have equal : j = i := by simpa [before] using hi
        simpa [same] using wf.current i (equal ▸ before)

theorem WellFormed.removeHost (wf : r.WellFormed) (id : HostId) :
    (r.removeHost id).2.WellFormed := by
  rcases r.removeHost_cases id with ⟨_, same⟩ | ⟨h, found, _⟩
  · rwa [same]
  have others := fun i (ne : i ≠ id) => host?_removeHost_of_ne r ne
  rw [removeHost_of_known found] at others ⊢
  have old : ∀ x ∈ r.hosts.filter (·.id ≠ id), x ∈ r.hosts := fun x hx => (List.mem_filter.mp hx).1
  refine ⟨fun x hx => wf.tidy x (old x hx), ?_,
    fun x hx y hy => wf.apart x (old x hx) y (old y hy), fun x hx => wf.below x (old x hx), ?_⟩
  · exact wf.distinct.sublist (List.filter_sublist.map Host.id)
  · intro i hi
    by_cases gone : r.current = some id
    · simp [gone] at hi
    · have current : r.current = some i := by simpa [gone] using hi
      rw [others i (fun same => gone (same ▸ current))]
      exact wf.current i current

theorem WellFormed.selectHost (wf : r.WellFormed) (id : HostId) :
    (r.selectHost id).2.WellFormed := by
  rcases r.selectHost_cases id with ⟨_, same⟩ | ⟨there, same⟩
  · rwa [same]
  · rw [same]
    refine ⟨wf.tidy, wf.distinct, wf.apart, wf.below, ?_⟩
    intro i hi
    obtain rfl : id = i := by simpa using hi
    exact there

theorem id_mem_answered {x : Slot} (mem : x ∈ (answered h s t).slots) :
    x.id ∈ h.slots.map Slot.id := by
  rw [← Host.map_id_setState h s.id (.bound t .terminal)]
  exact List.mem_map_of_mem mem

theorem id_mem_joined {x : Slot} {slot : SlotId} (mem : x ∈ (joined h slot t).slots) :
    x.id ∈ h.slots.map Slot.id ∨ x.id = slot := by
  simp only [joined, Host.insertBound, List.mem_append, List.mem_cons] at mem
  rcases mem with before | rfl | after
  · exact Or.inl (List.mem_map_of_mem (List.takeWhile_sublist _ |>.subset before))
  · exact Or.inr rfl
  · exact Or.inl (List.mem_map_of_mem (List.dropWhile_sublist _ |>.subset after))

theorem WellFormed.attach (wf : r.WellFormed) (id : HostId) (t : TerminalId) :
    (r.attach id t).2.WellFormed := by
  have outcome := r.attach_cases id t
  generalize r.attach id t = result at outcome ⊢
  cases outcome with
  | unknownHost | duplicate | atCapacity => exact wf
  | answer h s found fresh mem waits =>
    have unsettled := (wf.tidy_of_host? found).answer mem waits fresh
    refine wf.replaceSettled found rfl unsettled (Nat.le_refl _)
      (fun x hx => Or.inl (id_mem_answered hx)) ?_
    intro i hi
    obtain rfl : id = i := by simpa using hi
    simp [found]
  | join h found fresh quiet room =>
    have unsettled := (wf.tidy_of_host? found).insert quiet room fresh
      (wf.fresh (mem_of_host? found))
    refine wf.replaceSettled found rfl unsettled (Nat.le_succ _) ?_ wf.current
    intro x hx
    rcases id_mem_joined hx with old | new
    · exact Or.inl old
    · exact Or.inr (by simp [new])

theorem WellFormed.request (wf : r.WellFormed) (id : HostId) : (r.request id).2.WellFormed := by
  have outcome := r.request_cases id
  generalize r.request id = result at outcome ⊢
  cases outcome with
  | unknownHost | refused => exact wf
  | accepted h s found quiet mem idle =>
    refine wf.replace found rfl ((wf.tidy_of_host? found).activate mem idle)
      (Nat.le_refl _) (fun x hx => Or.inl ?_) wf.current
    rw [← Host.map_id_setState h s.id .activating]
    exact List.mem_map_of_mem hx

theorem WellFormed.selectSlot (wf : r.WellFormed) (id : HostId) (slot : SlotId) :
    (r.selectSlot id slot).2.WellFormed := by
  have outcome := r.selectSlot_cases id slot
  generalize r.selectSlot id slot = result at outcome ⊢
  cases outcome with
  | unknownHost | unbound => exact wf
  | toggled h s t face found mem same bound =>
    have terminal : s.terminal? = some t := by simp [Slot.terminal?, bound]
    refine wf.replace found rfl
      ((wf.tidy_of_host? found).face mem terminal face.flip) (Nat.le_refl _)
      (fun x hx => Or.inl ?_) wf.current
    rw [← Host.map_id_setState h s.id (.bound t face.flip)]
    exact List.mem_map_of_mem hx
  | selected h s t found mem same bound =>
    refine wf.replace found rfl ((wf.tidy_of_host? found).select mem bound)
      (Nat.le_refl _) (fun x hx => Or.inl (List.mem_map_of_mem hx)) ?_
    intro i hi
    obtain rfl : id = i := by simpa using hi
    simp [found]

theorem WellFormed.closeSlot (wf : r.WellFormed) (id : HostId) (slot : SlotId) :
    (r.closeSlot id slot).2.WellFormed := by
  have outcome := r.closeSlot_cases id slot
  generalize r.closeSlot id slot = result at outcome ⊢
  cases outcome with
  | unknownHost | unbound => exact wf
  | closed h s t found mem same bound =>
    refine wf.replaceSettled found rfl
      ((wf.tidy_of_host? found).remove mem bound) (Nat.le_refl _) (fun x hx => Or.inl ?_) wf.current
    exact List.mem_map_of_mem (List.mem_filter.mp hx).1

theorem WellFormed.clear (_ : r.WellFormed) : r.clear.WellFormed := by
  simp only [Roster.clear]
  exact ⟨by simp, by simp, by simp, by simp, by simp⟩

theorem wellFormed_edit (wf : r.WellFormed) (e : Edit) : (r.edit e).WellFormed := by
  cases e with
  | addHost info => exact wf.addHost info
  | removeHost host => exact wf.removeHost host
  | selectHost host => exact wf.selectHost host
  | attach host t => exact wf.attach host t
  | request host => exact wf.request host
  | selectSlot host slot => exact wf.selectSlot host slot
  | closeSlot host slot => exact wf.closeSlot host slot
  | clear => exact wf.clear

theorem wellFormed_editAll (wf : r.WellFormed) (edits : List Edit) :
    (r.editAll edits).WellFormed := by
  induction edits generalizing r with
  | nil => exact wf
  | cons e edits ih => exact ih (wellFormed_edit wf e)

/-! ### What well-formed rosters look like -/

theorem cap_edit (r : Roster) (e : Edit) : (r.edit e).cap = r.cap := by
  cases e
  case attach host t =>
    have outcome := r.attach_cases host t
    simp only [edit]
    generalize r.attach host t = result at outcome ⊢
    cases outcome <;> rfl
  case selectSlot host slot =>
    have outcome := r.selectSlot_cases host slot
    simp only [edit]
    generalize r.selectSlot host slot = result at outcome ⊢
    cases outcome <;> rfl
  all_goals
    simp only [edit, addHost, removeHost, selectHost, request, closeSlot, clear]
    repeat' split
    all_goals rfl

theorem cap_editAll (r : Roster) (edits : List Edit) : (r.editAll edits).cap = r.cap := by
  induction edits generalizing r with
  | nil => rfl
  | cons e edits ih => exact (ih (r.edit e)).trans (r.cap_edit e)

theorem WellFormed.nodup_slots (wf : r.WellFormed) :
    (r.hosts.flatMap fun h => h.slots.map Slot.id).Nodup := by
  rw [List.nodup_flatMap]
  refine ⟨fun h mem => (wf.tidy h mem).numbered, ?_⟩
  apply List.Pairwise.imp_of_mem _ (List.pairwise_map.mp wf.distinct)
  intro h h' mem mem' differ id hid hid'
  obtain ⟨s, hs, rfl⟩ := List.mem_map.mp hid
  obtain ⟨s', hs', same⟩ := List.mem_map.mp hid'
  exact differ (congrArg Host.id (wf.apart h mem h' mem' s hs s' hs' same.symm))

/-- After every run of changes, whatever they name: a host has no more terminals than the cap, below
it one free slot at the end of its row and at it none; at most one slot waits; no terminal is there
twice; a bound slot is selected if there is one. No two slots share a number, nor do two hosts. -/
theorem editAll_representation (cap : Nat) (edits : List Edit) :
    let r := ({ cap } : Roster).editAll edits
    (∀ h ∈ r.hosts,
      h.sessionCount ≤ cap ∧
      (h.slots.filter Slot.isFree).length = (if h.sessionCount < cap then 1 else 0) ∧
      (∀ s ∈ h.slots, s.isFree = true → h.slots.getLast? = some s) ∧
      (h.slots.filter (·.state = .activating)).length ≤ 1 ∧
      h.terminals.Nodup ∧
      (h.selected = none ↔ ∀ s ∈ h.slots, s.isFree = true) ∧
      (∀ id, h.selected = some id → ∃ s ∈ h.slots, s.id = id ∧ s.isFree = false) ∧
      r.host? h.id = some h) ∧
    (r.hosts.map Host.id).Nodup ∧
    (r.hosts.flatMap fun h => h.slots.map Slot.id).Nodup ∧
    (∀ h ∈ r.hosts, ∀ s ∈ h.slots, s.id.number < r.next) ∧
    (∀ id, r.current = some id → ∃ h ∈ r.hosts, h.id = id) := by
  intro r
  have wf : r.WellFormed := wellFormed_editAll (wellFormed_start cap) edits
  have same : r.cap = cap := cap_editAll { cap } edits
  refine ⟨?_, wf.distinct, wf.nodup_slots, wf.below, ?_⟩
  · intro h mem
    have tidy := same ▸ wf.tidy h mem
    exact ⟨tidy.count_le, tidy.free_count, fun s hs => tidy.getLast?_of_free hs,
      tidy.waiting_le, tidy.distinct, tidy.selected_eq_none_iff, tidy.selected_bound,
      host?_of_mem wf.distinct mem⟩
  · intro id current
    obtain ⟨h, found⟩ := Option.isSome_iff_exists.mp (wf.current id current)
    exact ⟨h, mem_of_host? found, id_of_host? found⟩

end Switchboard.Roster
