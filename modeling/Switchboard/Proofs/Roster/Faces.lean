import Switchboard.Proofs.Roster.Refinement

/-!
# Faces of slots

Which terminals show their files. Only a click on the selected slot turns its face; every other
change leaves the face of each terminal that it leaves on a host.
-/

namespace Switchboard

variable {r r' : Roster} {id i : HostId} {h h' : Host} {t u : TerminalId} {slot : SlotId}
  {face : Face}

theorem Slot.face?_eq_some_iff {s : Slot} (bound : s.terminal? = some t) :
    s.face? = some face ↔ s.state = .bound t face := by
  cases state : s.state with
  | bound u f =>
    obtain rfl : u = t := by simpa [Slot.terminal?, state] using bound
    simp [Slot.face?, state]
  | idle | activating => simp [Slot.terminal?, state] at bound

theorem Host.mem_outline : (t, face) ∈ h.outline.terminals ↔
    ∃ s ∈ h.slots, s.state = .bound t face := by
  have each : ∀ s : Slot, s.bound? = some (t, face) ↔ s.state = .bound t face := by
    intro s
    cases state : s.state <;> simp [Slot.bound?, state]
  simp [Host.outline, each]

namespace Roster

/-- A host has a terminal whose slot shows its files. -/
def ShowsFiles (r : Roster) (id : HostId) (t : TerminalId) : Prop :=
  ∃ h, r.host? id = some h ∧ (t, .files) ∈ h.outline.terminals

theorem showsFiles_iff (found : r.host? id = some h) :
    r.ShowsFiles id t ↔ (t, .files) ∈ h.outline.terminals := by
  simp [ShowsFiles, found]

theorem ShowsFiles.holds (shows : r.ShowsFiles id t) : r.Holds id t := by
  obtain ⟨h, found, mem⟩ := shows
  exact ⟨h, found, h.map_fst_outline ▸ List.mem_map_of_mem mem⟩

theorem exists_showsFiles_iff (wf : r.WellFormed) : (∃ id, r.ShowsFiles id t) ↔
    ∃ h ∈ r.hosts, ∃ s ∈ h.slots, s.state = .bound t .files := by
  constructor
  · rintro ⟨id, h, found, mem⟩
    exact ⟨h, mem_of_host? found, Host.mem_outline.mp mem⟩
  · rintro ⟨h, mem, bound⟩
    exact ⟨h.id, h, host?_of_mem wf.distinct mem, Host.mem_outline.mpr bound⟩

/-- Of the terminals that are there after a change, the same ones show their files as before. -/
def KeepsFiles (r r' : Roster) : Prop :=
  ∀ i u, r'.Holds i u → (r'.ShowsFiles i u ↔ r.ShowsFiles i u)

theorem KeepsFiles.refl (r : Roster) : r.KeepsFiles r := fun _ _ _ => Iff.rfl

theorem keepsFiles_put {next : Nat} {current : Option HostId} (found : r.host? id = some h)
    (same : h'.id = h.id)
    (kept : ∀ u ∈ h'.terminals,
      (u, .files) ∈ h'.outline.terminals ↔ (u, .files) ∈ h.outline.terminals) :
    r.KeepsFiles { r.put h' with next, current } := by
  intro i u held
  have held := (exists_host_put found same i).mp held
  refine (exists_host_put found same i).trans ?_
  split
  · rename_i this
    subst this
    rw [if_pos rfl] at held
    rw [showsFiles_iff found]
    exact kept u held
  · rfl

theorem keepsFiles_putSettled {next : Nat} {current : Option HostId} (h' : Host)
    (found : r.host? id = some h) (same : h'.id = h.id)
    (kept : ∀ u ∈ h'.terminals,
      (u, .files) ∈ h'.outline.terminals ↔ (u, .files) ∈ h.outline.terminals) :
    r.KeepsFiles { ({ r with next } : Roster).putSettled h' with current } := by
  refine keepsFiles_put found ((Host.id_settle _ _ _).trans same) fun u mem => ?_
  rw [Host.outline_terminals_settle]
  rw [Host.terminals_settle] at mem
  exact kept u mem

/-! ### Changes that keep faces -/

theorem keepsFiles_addHost (r : Roster) (info : HostInfo) : r.KeepsFiles (r.addHost info).2 := by
  rcases r.addHost_cases info with ⟨_, same⟩ | ⟨fresh, _⟩
  · rw [same]
    exact .refl r
  intro i u held
  have found := host?_addHost fresh i
  by_cases this : i = info.id
  · rw [if_pos this] at found
    rw [holds_iff found, terminals_newcomer] at held
    cases held
  · rw [if_neg this] at found
    simp [ShowsFiles, found]

theorem keepsFiles_removeHost (r : Roster) (id : HostId) : r.KeepsFiles (r.removeHost id).2 := by
  intro i u held
  have other := ((r.holds_removeHost id).mp held).2
  simp [ShowsFiles, host?_removeHost_of_ne r other]

theorem keepsFiles_selectHost (r : Roster) (id : HostId) : r.KeepsFiles (r.selectHost id).2 := by
  rcases r.selectHost_cases id with ⟨_, same⟩ | ⟨_, same⟩
  · rw [same]
    exact .refl r
  · rw [same]
    exact fun _ _ _ => Iff.rfl

theorem keepsFiles_attach (wf : r.WellFormed) (id : HostId) (t : TerminalId) :
    r.KeepsFiles (r.attach id t).2 := by
  have outcome := r.attach_cases id t
  generalize r.attach id t = result at outcome ⊢
  cases outcome with
  | unknownHost | duplicate | atCapacity => exact .refl r
  | answer h s found fresh mem waits =>
    refine keepsFiles_putSettled (answered h s t) found rfl fun u _ => ?_
    simp [(wf.tidy_of_host? found).outline_answered mem waits]
  | join h found fresh quiet room =>
    have unused := wf.fresh (mem_of_host? found)
    refine keepsFiles_putSettled (joined h ⟨r.next⟩ t) found rfl fun u _ => ?_
    simp [(wf.tidy_of_host? found).outline_joined quiet room fresh unused]

theorem keepsFiles_request (wf : r.WellFormed) (id : HostId) :
    r.KeepsFiles (r.request id).2 := by
  have outcome := r.request_cases id
  generalize r.request id = result at outcome ⊢
  cases outcome with
  | unknownHost | refused => exact .refl r
  | accepted h s found quiet mem idle =>
    refine keepsFiles_put found rfl fun u _ => ?_
    rw [(wf.tidy_of_host? found).outline_activated mem idle]

theorem keepsFiles_select (outcome : r.selectSlot id slot = (.selected t, r')) :
    r.KeepsFiles r' := by
  have case := r.selectSlot_cases id slot
  rw [outcome] at case
  cases case with
  | selected h s t found => exact keepsFiles_put found rfl fun _ _ => Iff.rfl

theorem keepsFiles_closeSlot (wf : r.WellFormed) (id : HostId) (slot : SlotId) :
    r.KeepsFiles (r.closeSlot id slot).2 := by
  have outcome := r.closeSlot_cases id slot
  generalize r.closeSlot id slot = result at outcome ⊢
  cases outcome with
  | unknownHost | unbound => exact .refl r
  | closed h s t found mem same bound =>
    have tidy := wf.tidy_of_host? found
    refine keepsFiles_putSettled (bereft h s.id) found rfl fun u inside => ?_
    have left : u ≠ t := by
      have inside : u ∈ (h.removeSlot s.id).terminals := inside
      rw [tidy.terminals_removeSlot mem bound] at inside
      simpa using (List.mem_filter.mp inside).2
    simp [tidy.outline_bereft mem bound, left]

/-! ### The change that turns a face -/

theorem mem_map_turn {l : List (TerminalId × Face)} {f : Face} (mem : (t, f) ∈ l) :
    (u, Face.files) ∈ l.map (fun p => if p.1 = t then (t, face) else p) ↔
      if u = t then face = .files else (u, .files) ∈ l := by
  rw [List.mem_map]
  constructor
  · rintro ⟨p, inside, turned⟩
    split at turned
    · obtain ⟨rfl, rfl⟩ := Prod.mk.inj turned
      simp
    · rename_i other
      rw [turned] at other inside
      rwa [if_neg other]
  · intro shows
    by_cases same : u = t
    · rw [if_pos same] at shows
      exact ⟨(t, f), mem, by simp [same, shows]⟩
    · rw [if_neg same] at shows
      exact ⟨(u, .files), shows, by simp [same]⟩

theorem showsFiles_toggle (wf : r.WellFormed)
    (outcome : r.selectSlot id slot = (.toggled t face, r')) :
    r.Holds id t ∧ ∀ i u, r'.ShowsFiles i u ↔
      if i = id ∧ u = t then face = .files else r.ShowsFiles i u := by
  have case := r.selectSlot_cases id slot
  rw [outcome] at case
  cases case with
  | toggled h s t face found mem same bound =>
    have inside : (t, face) ∈ h.outline.terminals := Host.mem_outline.mpr ⟨s, mem, bound⟩
    have held := (holds_iff found).mpr (h.map_fst_outline ▸ List.mem_map_of_mem inside)
    have number : (h.setState s.id (.bound t face.flip)).id = h.id := rfl
    refine ⟨held, fun i u => (exists_host_put found number i).trans ?_⟩
    rw [(wf.tidy_of_host? found).outline_flipped mem bound]
    by_cases this : i = id
    · simp [this, mem_map_turn inside, showsFiles_iff found]
    · simp [this, ShowsFiles]

end Roster

end Switchboard
