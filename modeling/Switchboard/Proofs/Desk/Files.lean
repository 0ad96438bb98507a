import Switchboard.Proofs.Desk.Ending
import Switchboard.Proofs.Desk.Record
import Switchboard.Proofs.Roster.Faces

/-!
# Files in step

Whether the files of a terminal are shown is kept in its slot, the listing in its session, and what
is visible with the presenter. `InStep` says that they agree. `InStep.move`: every move keeps them
so.
-/

namespace Switchboard

open Wire

/-- What a record says about whether the files of a terminal are visible. Those of a terminal that
comes to be presented are not until a record says so. -/
def Record.visible? (t : TerminalId) : Record → Option Bool
  | .present .. => some false
  | .fileBrowser u visible => if u = t then some visible else none
  | _ => none

/-- The names that a record lists for a terminal. -/
def Record.names? (t : TerminalId) : Record → Option (List String)
  | .entries u names => if u = t then some names else none
  | _ => none

/-- Whether the files of a terminal are visible after a log, if it is presented. -/
def filesVisible (t : TerminalId) (log : List Record) : Bool :=
  (log.filterMap (Record.visible? t)).getLast?.getD false

/-- The names that were listed last for a terminal. -/
def namesListed? (t : TerminalId) (log : List Record) : Option (List String) :=
  (log.filterMap (Record.names? t)).getLast?

def Remote.Listing.names (l : Remote.Listing) : List String := l.entries.map (·.name)

theorem filesVisible_append (t : TerminalId) (log more : List Record) :
    filesVisible t (log ++ more) =
      ((more.filterMap (Record.visible? t)).getLast?.getD (filesVisible t log)) := by
  rw [filesVisible, List.filterMap_append, List.getLast?_append, filesVisible]
  cases (more.filterMap (Record.visible? t)).getLast? <;> rfl

theorem namesListed?_append (t : TerminalId) (log more : List Record) :
    namesListed? t (log ++ more) = (namesListed? t more).or (namesListed? t log) := by
  rw [namesListed?, List.filterMap_append, List.getLast?_append, namesListed?, namesListed?]

theorem Session.Continues.host {s s' : Session} (continues : s.Continues s') :
    s'.host = s.host := by
  cases continues <;> rfl

namespace Sessions

variable {ss : Sessions} {t u : TerminalId}

/-- The listing of the files of a live terminal, once there is one. -/
def listing? (ss : Sessions) (t : TerminalId) : Option Remote.Listing :=
  (ss.get? t).bind (·.listing)

theorem listing?_congr {ss' : Sessions} (same : ss'.get? t = ss.get? t) :
    ss'.listing? t = ss.listing? t := by
  rw [listing?, same, listing?]

/-- Where sessions have only ended, those that are left have the listings that they had. -/
theorem listing?_of_left {ss' : Sessions} {ts : List TerminalId}
    (left : ss'.get? t = if t ∈ ts then none else ss.get? t) (live : ss'.contains t = true) :
    ss'.listing? t = ss.listing? t := by
  by_cases gone : t ∈ ts
  · simp [contains, left, gone] at live
  · exact listing?_congr (by rw [left, if_neg gone])

theorem get?_destroy (ss : Sessions) (u t : TerminalId) :
    (ss.destroy u).get? t = if t ∈ [u] then none else ss.get? t := by
  by_cases same : t = u
  · simp [same]
  · simp [same, get?_destroy_of_ne ss same]

theorem listing?_create (fresh : ss.contains u = false) (host : HostId) :
    (ss.create u host).listing? t = ss.listing? t := by
  by_cases same : t = u
  · subst same
    have none : ss.get? t = none := by simpa [contains] using fresh
    simp [listing?, get?_create_self ss t host fresh, none, Session.start]
  · exact listing?_congr (get?_create_of_ne ss host same)

theorem listing?_append (ss : Sessions) (t u : TerminalId) (output : Bytes) :
    (ss.append t output).listing? u = ss.listing? u := by
  rw [listing?, get?_append, listing?, Option.bind_map]
  congr 1
  funext s
  simp only [Function.comp_apply]
  split <;> rfl

end Sessions

namespace Desk

variable {d d' d₁ : Desk} {op : Operation} {acts : List Act} {t u : TerminalId} {host : HostId}
  {log since : List Record} {sent : List Request} {r' : Roster} {face : Face} {slot : SlotId}

def ShowsFiles (d : Desk) (t : TerminalId) : Prop := ∃ id, d.roster.ShowsFiles id t

/-- What has come of the present session of a terminal: nothing if it has none. -/
def ofSession {α : Type} (d : Desk) (t : TerminalId) (l : List α) : List α :=
  if d.sessions.contains t then l else []

/-- The files of a terminal are visible, if it is presented, as its slot shows them; its listing was
listed last since its session started; and a listing was asked for if its files are shown and there
is none. -/
structure InStep (t : TerminalId) (d : Desk) (log since : List Record) (sent : List Request) :
    Prop where
  visible : d.presented = some t → (filesVisible t log = true ↔ d.ShowsFiles t)
  listed : ∀ l, d.sessions.listing? t = some l → namesListed? t since = some l.names
  asked : d.ShowsFiles t →
    (d.sessions.listing? t).isSome ∨ .file t Remote.root true ∈ sent

/-! ### Whether files are shown -/

theorem Settled.showsFiles_iff (s : d.Settled) (owner : d.sessions.owner? t = some host) :
    d.ShowsFiles t ↔ d.roster.ShowsFiles host t := by
  refine ⟨fun ⟨id, shows⟩ => ?_, fun shows => ⟨host, shows⟩⟩
  rwa [← s.exclusive shows.holds ((s.owners t host).mp owner)]

theorem Settled.contains_of_showsFiles (s : d.Settled) (shows : d.ShowsFiles t) :
    d.sessions.contains t = true := by
  obtain ⟨id, shows⟩ := shows
  exact s.contains_iff_holds.mpr ⟨id, shows.holds⟩

/-- A session that lives on stays on its host. -/
theorem Coherent.owner?_of_move (c : d.Coherent) (m : Move op d d' acts)
    (live : d.sessions.contains t = true) (live' : d'.sessions.contains t = true) :
    d'.sessions.owner? t = d.sessions.owner? t := by
  obtain ⟨s, found⟩ := Option.isSome_iff_exists.mp live
  rcases c.fate m found with ⟨⟨s', found', continues⟩, _⟩ | ⟨ended, _⟩
  · simp [Sessions.owner?, found, found', continues.host]
  · simp [ended] at live'

theorem Coherent.showsFiles_of_keeps (c : d.Coherent) (m : Move op d d' acts)
    (keeps : d.roster.KeepsFiles d'.roster) (live' : d'.sessions.contains t = true) :
    d'.ShowsFiles t ↔ d.ShowsFiles t := by
  have c' := c.move m
  rw [Sessions.contains_eq, Option.isSome_iff_exists] at live'
  obtain ⟨host, owner'⟩ := live'
  have kept := keeps host t ((c'.owners t host).mp owner')
  rw [c'.showsFiles_iff owner', kept]
  refine ⟨fun shows => ⟨host, shows⟩, fun shows => ?_⟩
  have live := c.contains_of_showsFiles shows
  have same := c.owner?_of_move m live (by simp [Sessions.contains_eq, owner'])
  exact (c.showsFiles_iff (same.symm.trans owner')).mp shows

theorem Settled.showsFiles_toggled (s : d.Settled)
    (outcome : d.roster.selectSlot host slot = (.toggled u face, r')) (t : TerminalId) :
    ({ d with roster := r' } : Desk).ShowsFiles t ↔
      if t = u then face = .files else d.ShowsFiles t := by
  obtain ⟨held, faces⟩ := Roster.showsFiles_toggle s.wellFormed outcome
  by_cases same : t = u
  · subst same
    rw [if_pos rfl]
    refine ⟨fun ⟨id, shows⟩ => ?_, fun files => ⟨host, (faces host t).mpr (by simp [files])⟩⟩
    have turned := (faces id t).mp shows
    by_cases this : id = host
    · simpa [this] using turned
    · rw [if_neg (by simp [this])] at turned
      exact absurd (s.exclusive turned.holds held) this
  · rw [if_neg same]
    exact exists_congr fun id => (faces id t).trans (by simp [same])

theorem Settled.showsFiles_of_active (s : d.Settled) (active : d.roster.active? = some t) :
    d.showsFiles t = true ↔ d.ShowsFiles t := by
  obtain ⟨h, shown, active⟩ := Option.bind_eq_some_iff.mp active
  obtain ⟨id, current, found⟩ := Option.bind_eq_some_iff.mp shown
  have inside := Host.mem_terminals_of_active? active
  have owner := (s.owners t id).mpr ⟨h, found, inside⟩
  rw [s.showsFiles_iff owner, Roster.showsFiles_iff found, Host.mem_outline]
  cases there : h.slotOf? t with
  | none => exact absurd inside (Host.slotOf?_eq_none_iff.mp there)
  | some x =>
    obtain ⟨mem, bound⟩ := Host.slotOf?_eq_some there
    have face : d.showsFiles t = true ↔ x.face? = some .files := by
      simp [Desk.showsFiles, shown, there]
    rw [face, Slot.face?_eq_some_iff bound]
    refine ⟨fun state => ⟨x, mem, state⟩, fun ⟨y, hy, state⟩ => ?_⟩
    have tidy := s.wellFormed.tidy_of_host? found
    obtain rfl := tidy.eq_of_terminal? hy mem (by simp [Slot.terminal?, state]) bound
    exact state

/-! ### What acts say of the files of the presented terminal -/

/-- Acts leave a terminal presented and say nothing of its files, or the last that they say is
whether its slot shows them. -/
def Seen (t : TerminalId) (d d' : Desk) (acts : List Act) : Prop :=
  d'.presented = some t →
    d.presented = some t ∧ (Act.records acts).filterMap (Record.visible? t) = [] ∨
      ∃ b, ((Act.records acts).filterMap (Record.visible? t)).getLast? = some b ∧
        (b = true ↔ d'.ShowsFiles t)

theorem Seen.of_quiet (view : d'.view = d.view)
    (quiet : (Act.records acts).filterMap (Record.visible? t) = []) : Seen t d d' acts :=
  fun presented => Or.inl ⟨(congrArg View.current view).symm.trans presented, quiet⟩

/-- The view has been refreshed on the way, on `d₁`. -/
theorem Coherent.seen_refresh (c : d'.Coherent) (d₁ : Desk) (origin : Origin)
    (roster : d'.roster = d₁.roster) (view : d'.view = d₁.refreshed.view)
    (before : d₁.view = d.view) (same : (Act.records acts).filterMap (Record.visible? t) =
      (Act.records (d₁.refreshActs origin)).filterMap (Record.visible? t)) :
    Seen t d d' acts := by
  intro presented
  have shows : d₁.showsFiles t = true ↔ d'.ShowsFiles t := by
    rw [← c.showsFiles_of_active (c.view.symm.trans presented), Desk.showsFiles, Desk.showsFiles,
      roster]
  rw [same, records_refreshActs]
  split
  · have wanted : d₁.wanted?.map (·.id) = some t := by
      rw [← presented, Desk.presented, view]
      rfl
    obtain ⟨retained, present⟩ := Cue.record_present d₁.wanted?
    refine Or.inr ⟨d₁.showsFiles t, ?_, shows⟩
    simp only [refreshCues, List.map_cons, present, wanted]
    cases files : d₁.showsFiles t <;>
      simp [Option.filter_some, files, Record.visible?, Cue.record]
  · rename_i still
    refine Or.inl ⟨?_, rfl⟩
    rw [← presented, Desk.presented, Desk.presented, view,
      refreshed_of_same (by simpa using still), before]

@[simp]
theorem visible_slots (d : Desk) (host : HostId) (t : TerminalId) :
    (Act.records (d.hostActs .slotsChanged host)).filterMap (Record.visible? t) = [] :=
  filterMap_records_hostActs (fun _ => rfl) d host

@[simp]
theorem visible_added (d : Desk) (host : HostId) (t : TerminalId) :
    (Act.records (d.hostActs .hostAdded host)).filterMap (Record.visible? t) = [] :=
  filterMap_records_hostActs (fun _ => rfl) d host

@[simp]
theorem names_slots (d : Desk) (host : HostId) (t : TerminalId) :
    (Act.records (d.hostActs .slotsChanged host)).filterMap (Record.names? t) = [] :=
  filterMap_records_hostActs (fun _ => rfl) d host

@[simp]
theorem names_added (d : Desk) (host : HostId) (t : TerminalId) :
    (Act.records (d.hostActs .hostAdded host)).filterMap (Record.names? t) = [] :=
  filterMap_records_hostActs (fun _ => rfl) d host

@[simp]
theorem names_refreshActs (d : Desk) (origin : Origin) (t : TerminalId) :
    (Act.records (d.refreshActs origin)).filterMap (Record.names? t) = [] := by
  rw [records_refreshActs]
  split
  · obtain ⟨retained, present⟩ := Cue.record_present d.wanted?
    simp only [refreshCues, List.map_cons, present]
    cases (d.wanted?.map (·.id)).filter d.showsFiles <;> simp [Record.names?, Cue.record]
  · rfl

@[simp]
theorem visible_listingActs (d : Desk) (t u : TerminalId) :
    (Act.records (d.listingActs u)).filterMap (Record.visible? t) = [] := by
  unfold listingActs
  repeat' split
  all_goals rfl

theorem names_listingActs (d : Desk) (t : TerminalId) :
    namesListed? t (Act.records (d.listingActs t)) =
      (d.sessions.listing? t).map Remote.Listing.names := by
  cases found : d.sessions.get? t with
  | none => simp [listingActs, Sessions.listing?, found, namesListed?]
  | some s =>
    have number := Sessions.id_of_get? found
    cases listed : s.listing <;>
      simp [listingActs, Sessions.listing?, found, listed, namesListed?, Cue.record, Record.names?,
        number, Remote.Listing.names]

theorem names_listingActs_of_ne (d : Desk) (other : u ≠ t) :
    (Act.records (d.listingActs u)).filterMap (Record.names? t) = [] := by
  cases found : d.sessions.get? u with
  | none => simp [listingActs, found]
  | some s =>
    have number := Sessions.id_of_get? found
    cases listed : s.listing <;>
      simp [listingActs, found, listed, Cue.record, Record.names?, number, other]

theorem mem_listingActs (live : d.sessions.contains t = true) :
    (d.sessions.listing? t).isSome ∨
      .file t Remote.root true ∈ Act.requests (d.listingActs t) := by
  obtain ⟨s, found⟩ := Option.isSome_iff_exists.mp live
  cases listed : s.listing <;> simp [listingActs, Sessions.listing?, found, listed]

/-- What a click that turns the face of a slot makes a desk do. -/
def toggleActs (d : Desk) (host : HostId) (t : TerminalId) (face : Face) : List Act :=
  d.hostActs .slotsChanged host ++ [.cue (.fileBrowser t (face = Face.files))] ++
    if face = Face.files then d.listingActs t else []

theorem visible_toggleActs (d : Desk) (host : HostId) (t u : TerminalId) (face : Face) :
    (Act.records (d.toggleActs host u face)).filterMap (Record.visible? t) =
      if u = t then [decide (face = Face.files)] else [] := by
  have after : (Act.records (if face = Face.files then d.listingActs u else [])).filterMap
      (Record.visible? t) = [] := by
    split
    · exact visible_listingActs _ _ _
    · rfl
  simp only [toggleActs, Act.records_append, List.filterMap_append, visible_slots, after]
  by_cases this : u = t <;> simp [this, Cue.record, Record.visible?]

theorem names_toggleActs (d : Desk) (host : HostId) (t u : TerminalId) (face : Face) :
    (Act.records (d.toggleActs host u face)).filterMap (Record.names? t) =
      if face = Face.files then (Act.records (d.listingActs u)).filterMap (Record.names? t)
      else [] := by
  simp only [toggleActs, Act.records_append, List.filterMap_append, names_slots]
  split <;> simp [Cue.record, Record.names?]

/-! ### Moves that leave the files alone -/

theorem InStep.of_unlive (c : d.Coherent) (unlive : d.sessions.contains t = false)
    (log since : List Record) (sent : List Request) : InStep t d log since sent where
  visible presented := by
    simp [c.contains_of_active? (c.view.symm.trans presented)] at unlive
  listed l listed := by
    obtain ⟨s, found, _⟩ := Option.bind_eq_some_iff.mp listed
    simp [Sessions.contains, found] at unlive
  asked shows := by simp [c.contains_of_showsFiles shows] at unlive

/-- The files of a terminal are shown and listed as before. -/
theorem InStep.still (i : InStep t d log since sent) (c : d.Coherent) (c' : d'.Coherent)
    (shows : d'.sessions.contains t = true → (d'.ShowsFiles t ↔ d.ShowsFiles t))
    (listing : d'.sessions.contains t = true →
      d'.sessions.listing? t = d.sessions.listing? t)
    (seen : Seen t d d' acts) (names : (Act.records acts).filterMap (Record.names? t) = []) :
    InStep t d' (log ++ Act.records acts) (d.ofSession t since ++ Act.records acts)
      (d.ofSession t sent ++ Act.requests acts) := by
  cases live' : d'.sessions.contains t with
  | false => exact .of_unlive c' live' _ _ _
  | true =>
    rw [live', imp_iff_right rfl] at shows listing
    refine ⟨fun presented => ?_, fun l listed => ?_, fun shown => ?_⟩
    · rw [filesVisible_append]
      rcases seen presented with ⟨before, quiet⟩ | ⟨b, last, face⟩
      · rw [quiet, shows]
        exact i.visible before
      · rw [last]
        exact face
    · rw [listing] at listed
      obtain ⟨s, found, _⟩ := Option.bind_eq_some_iff.mp listed
      have live : d.sessions.contains t = true := by simp [Sessions.contains, found]
      rw [namesListed?_append, namesListed?, names, ofSession, if_pos live]
      exact i.listed l listed
    · rw [shows] at shown
      rw [listing, ofSession, if_pos (c.contains_of_showsFiles shown)]
      exact (i.asked shown).imp_right fun mem => List.mem_append_left _ mem

/-- A move of the roster that turns no face, or of the sessions that lists nothing. -/
theorem InStep.steady (i : InStep t d log since sent) (c : d.Coherent) (m : Move op d d' acts)
    (keeps : d.roster.KeepsFiles d'.roster)
    (listing : d'.sessions.contains t = true →
      d'.sessions.listing? t = d.sessions.listing? t)
    (seen : Seen t d d' acts) (names : (Act.records acts).filterMap (Record.names? t) = []) :
    InStep t d' (log ++ Act.records acts) (d.ofSession t since ++ Act.records acts)
      (d.ofSession t sent ++ Act.requests acts) :=
  i.still c (c.move m) (c.showsFiles_of_keeps m keeps) listing seen names

/-! ### Moves of the files -/

theorem InStep.listing {sessions : Sessions} {path : String} {files : List ListedFile}
    (i : InStep t d log since sent) (c : d.Coherent) (m : Move op d { d with sessions } acts)
    (listed : sessions = d.sessions.list u path files)
    (told : acts = ((sessions.get? u).map fun s => Act.cue (.entries s)).toList) :
    InStep t { d with sessions } (log ++ Act.records acts)
      (d.ofSession t since ++ Act.records acts) (d.ofSession t sent ++ Act.requests acts) := by
  have found := Sessions.get?_list d.sessions u t path files
  rw [← listed] at found
  have quiet : (Act.records acts).filterMap (Record.visible? t) = [] := by
    rw [told]
    cases sessions.get? u <;> rfl
  by_cases same : t = u
  · subst same
    cases live : d.sessions.get? t with
    | none =>
      rw [live] at found
      exact .of_unlive (c.move m) (by simp [Sessions.contains, found]) _ _ _
    | some s =>
      simp only [live, Option.map_some, if_true] at found
      have number := Sessions.id_of_get? live
      refine ⟨fun presented => ?_, fun l now => ?_, fun _ => Or.inl ?_⟩
      · rw [filesVisible_append, quiet]
        exact i.visible presented
      · obtain rfl : .ofFiles path files = l := by
          simpa [Sessions.listing?, found, Session.list] using now
        rw [namesListed?_append, told, found]
        simp [namesListed?, Cue.record, Record.names?, number, Session.list, Remote.Listing.names]
      · simp [Sessions.listing?, found, Session.list]
  · simp only [same, if_false, Option.map_id'] at found
    refine i.steady c m (.refl _) (fun _ => Sessions.listing?_congr found) (.of_quiet rfl quiet) ?_
    rw [told]
    cases there : sessions.get? u with
    | none => rfl
    | some s =>
      have number := Sessions.id_of_get? there
      simp [Cue.record, Record.names?, number, Ne.symm same]

theorem InStep.toggled (i : InStep t d log since sent) (c : d.Coherent) (m : Move op d d₁ acts)
    (outcome : d.roster.selectSlot host slot = (.toggled u face, r'))
    (flipped : d₁ = { d with roster := r' }) (told : acts = d₁.toggleActs host u face) :
    InStep t d₁ (log ++ Act.records acts) (d.ofSession t since ++ Act.records acts)
      (d.ofSession t sent ++ Act.requests acts) := by
  have shows := c.showsFiles_toggled outcome t
  have visible := d₁.visible_toggleActs host t u face
  have names := d₁.names_toggleActs host t u face
  rw [← told] at visible names
  subst flipped
  by_cases same : t = u
  · subst same
    have held := (Roster.showsFiles_toggle c.wellFormed outcome).1
    have live := c.contains_iff_holds.mpr ⟨host, held⟩
    rw [if_pos rfl] at shows visible
    refine ⟨fun _ => ?_, fun l listed => ?_, fun files => ?_⟩
    · rw [filesVisible_append, visible, shows]
      simp
    · -- Where the acts list the files, they list what is listed already.
      rw [namesListed?_append, ofSession, if_pos live, i.listed l listed, namesListed?, names]
      split
      · have listed : d.sessions.listing? t = some l := listed
        rw [← namesListed?, names_listingActs, listed]
        rfl
      · rfl
    · rw [told, toggleActs, if_pos (shows.mp files)]
      refine (mem_listingActs live).imp_right fun mem => ?_
      simp only [Act.requests_append]
      exact List.mem_append_right _ (List.mem_append_right _ mem)
  · rw [if_neg same] at shows
    rw [if_neg (Ne.symm same)] at visible
    refine i.still c (c.move m) (fun _ => shows) (fun _ => rfl) (.of_quiet rfl visible) ?_
    rw [names, names_listingActs_of_ne _ (Ne.symm same), ite_self]

/-! ### Moves -/

/-- Whatever a move does, a terminal that was in step before it is in step after it. -/
theorem InStep.move (i : InStep t d log since sent) (c : d.Coherent) (m : Move op d d' acts) :
    InStep t d' (log ++ Act.records acts) (d.ofSession t since ++ Act.records acts)
      (d.ofSession t sent ++ Act.requests acts) := by
  have c' := c.move m
  have wf := c.wellFormed
  have whole := m
  cases m with
  | @hostConnected _ _ info roster outcome grown =>
    have keeps := congrArg Prod.snd outcome ▸ d.roster.keepsFiles_addHost info
    subst grown
    exact i.steady c whole keeps (fun _ => rfl) (.of_quiet rfl (by simp)) (by simp)
  | @hostDisconnected _ _ host removed roster outcome left =>
    have keeps := congrArg Prod.snd outcome ▸ d.roster.keepsFiles_removeHost host
    subst left
    rw [foldl_forgotten] at c' whole ⊢
    exact i.steady c whole keeps (Sessions.listing?_of_left (get?_foldl_destroy _ _ _))
      (c'.seen_refresh { d with roster } .server rfl rfl rfl
        (by simp [Record.visible?, Cue.record]))
      (by simp [Record.names?, Cue.record])
  | @terminalAdded _ _ host u _ _ selected roster fresh outcome grown =>
    have keeps := congrArg Prod.snd outcome ▸ Roster.keepsFiles_attach wf host u
    subst grown
    cases selected with
    | true =>
      exact i.steady c whole keeps (fun _ => Sessions.listing?_create fresh host)
        (c'.seen_refresh { d with roster, sessions := d.sessions.create u host } .server
          rfl rfl rfl (by simp)) (by simp)
    | false =>
      exact i.steady c whole keeps (fun _ => Sessions.listing?_create fresh host)
        (.of_quiet rfl (by simp)) (by simp)
  | @terminalClosed _ _ _ origin host slot closed roster why outcome left =>
    have keeps := congrArg Prod.snd outcome ▸ Roster.keepsFiles_closeSlot wf host slot
    subst left
    exact i.steady c whole keeps (Sessions.listing?_of_left (Sessions.get?_destroy _ _ _))
      (c'.seen_refresh { d with roster } origin rfl rfl rfl (by simp)) (by simp)
  | directoryListing listed => exact i.listing c whole listed rfl
  | @hostSelected _ _ host roster outcome moved =>
    have keeps := congrArg Prod.snd outcome ▸ d.roster.keepsFiles_selectHost host
    subst moved
    exact i.steady c whole keeps (fun _ => rfl)
      (c'.seen_refresh { d with roster } .presenter rfl rfl rfl (by simp)) (by simp)
  | @terminalRequested _ _ host slot roster outcome asked =>
    have keeps := congrArg Prod.snd outcome ▸ Roster.keepsFiles_request wf host
    subst asked
    exact i.steady c whole keeps (fun _ => rfl) (.of_quiet rfl (by simp)) (by simp)
  | @slotSelected _ _ host slot u roster outcome moved =>
    have keeps := Roster.keepsFiles_select outcome
    subst moved
    exact i.steady c whole keeps (fun _ => rfl)
      (c'.seen_refresh { d with roster } .presenter rfl rfl rfl (by simp)) (by simp)
  | slotToggled outcome flipped => exact i.toggled c whole outcome flipped rfl
  | @terminalOutput _ u output live =>
    exact i.steady c whole (.refl _) (fun _ => Sessions.listing?_append _ _ _ _)
      (.of_quiet rfl (by split <;> rfl)) (by split <;> rfl)
  | @unheldClosed _ named u unheld =>
    exact i.steady c whole (.refl _) (Sessions.listing?_of_left (Sessions.get?_destroy _ _ _))
      (.of_quiet rfl rfl) rfl
  | _ => exact i.steady c whole (.refl _) (fun _ => rfl) (.of_quiet rfl rfl) rfl

/-! ### Runs -/

theorem InStep.asks {greeted : Option (HostId × Roster)}
    (i : InStep t d log since sent) (c : d.Coherent) (a : Asks greeted d d' acts) :
    InStep t d' (log ++ Act.records acts) (since ++ Act.records acts)
      (sent ++ Act.requests acts) := by
  cases a with
  | nothing => simpa using i
  | terminal m =>
    cases live : d.sessions.contains t with
    | false =>
      have unlive : d'.sessions.contains t = false := sessions_asks (.terminal m rfl) ▸ live
      exact .of_unlive (c.move m) unlive _ _ _
    | true => simpa [ofSession, live] using i.move c m

theorem InStep.withBus (i : InStep t d log since sent) (bus : Bus) :
    InStep t { d with bus } log since sent := ⟨i.visible, i.listed, i.asked⟩

theorem InStep.of_records {log' since' : List Record} (i : InStep t d log since sent)
    (logs : log.filter (!·.isEvent) = log'.filter (!·.isEvent))
    (sinces : since.filter (!·.isEvent) = since'.filter (!·.isEvent)) :
    InStep t d log' since' sent where
  visible presented := by
    rw [filesVisible, ← filterMap_eq_of_plain (fun _ => rfl) logs]
    exact i.visible presented
  listed l listed := by
    rw [namesListed?, ← filterMap_eq_of_plain (fun _ => rfl) sinces]
    exact i.listed l listed
  asked := i.asked

/-- The effects of turns since the present session of a terminal was created, those of its creation
among them. Effects that came of the session before are given. -/
def sinceCreated (d : Desk) (t : TerminalId) (before : List Effect) : List Turn → List Effect
  | [] => before
  | .operation op :: turns =>
    (handle op d).1.sinceCreated t (d.ofSession t before ++ (handle op d).2) turns
  | .enrolment e :: turns => (d.enrol e).sinceCreated t before turns

theorem sinceCreated_append (d : Desk) (t : TerminalId) (before : List Effect)
    (turns more : List Turn) :
    d.sinceCreated t before (turns ++ more) =
      (d.takeAll turns).1.sinceCreated t (d.sinceCreated t before turns) more := by
  induction turns generalizing d before with
  | nil => rfl
  | cons turn turns ih =>
    cases turn with
    | operation op => exact ih _ _
    | enrolment e => exact ih _ _

theorem sinceCreated_of_live {turns : List Turn}
    (live : ∀ x ∈ d.done turns, x.1.sessions.contains t = true) (before : List Effect) :
    d.sinceCreated t before turns = before ++ (d.takeAll turns).2 := by
  induction turns generalizing d before with
  | nil => exact (List.append_nil before).symm
  | cons turn turns ih =>
    cases turn with
    | operation op =>
      obtain ⟨now, later⟩ := List.forall_mem_cons.mp live
      rw [sinceCreated, ih later, ofSession, if_pos now, List.append_assoc]
      rfl
    | enrolment e => exact ih live before

/-- Where a terminal is not live and then is on all later desks, its session has been the same from
then on, and just the effects from then on have come since. -/
theorem sinceCreated_of_created {turns later : List Turn}
    (unlive : (d.takeAll turns).1.sessions.contains t = false)
    (live : ∀ x ∈ (handle op (d.takeAll turns).1).1.done later, x.1.sessions.contains t = true)
    (before : List Effect) :
    d.sinceCreated t before (turns ++ .operation op :: later) =
      ((d.takeAll turns).1.takeAll (.operation op :: later)).2 := by
  rw [sinceCreated_append, sinceCreated, sinceCreated_of_live live, ofSession, unlive]
  rfl

theorem InStep.handle {es : List Effect}
    (i : InStep t d log (Effect.records es) (Effect.requests es)) (c : d.Coherent)
    (op : Operation) :
    let es' := d.ofSession t es ++ (handle op d).2
    InStep t (handle op d).1 (log ++ Effect.records (handle op d).2) (Effect.records es')
      (Effect.requests es') := by
  intro es'
  obtain ⟨d₁, acts, d₂, more, m, asks, e⟩ := handle_moves op d
  have moved := (i.move c m).asks (c.move m) asks
  have records : Effect.records (d.ofSession t es) = d.ofSession t (Effect.records es) :=
    apply_ite Effect.records _ _ _
  have requests : Effect.requests (d.ofSession t es) = d.ofSession t (Effect.requests es) :=
    apply_ite Effect.requests _ _ _
  rw [List.append_assoc, List.append_assoc, List.append_assoc, ← Act.records_append,
    ← Act.requests_append] at moved
  rw [Effect.records_append, Effect.requests_append, records, requests, e.requests]
  rw [show (Desk.handle op d).1 = { d₂ with bus := _ } from congrArg Prod.fst e.eq]
  apply (moved.withBus _).of_records <;> rw [List.filter_append, List.filter_append, e.records]

theorem InStep.history {es : List Effect}
    (i : InStep t d log (Effect.records es) (Effect.requests es)) (c : d.Coherent)
    (turns : List Turn) :
    let es' := d.sinceCreated t es turns
    InStep t (d.takeAll turns).1 (log ++ Effect.records (d.takeAll turns).2) (Effect.records es')
      (Effect.requests es') := by
  induction turns generalizing d log es with
  | nil =>
    show InStep t d (log ++ []) _ _
    rwa [List.append_nil]
  | cons turn turns ih =>
    cases turn with
    | operation op =>
      rw [takeAll_operation, Effect.records_append, ← List.append_assoc]
      exact ih (i.handle c op) (c.handle op)
    | enrolment e =>
      rw [takeAll_enrolment]
      refine ih ?_ (c.enrol e)
      cases e <;> exact i.withBus _

theorem inStep_start (settings : Settings) (t : TerminalId) :
    InStep t (start settings).1 (Effect.records (start settings).2) [] [] :=
  .of_unlive (coherent_start settings) rfl _ _ _

/-- The files of a terminal are in step wherever they are kept, whatever happened. After each
operation the files of the presented terminal are visible just if its slot shows them; what was
listed last for a live terminal since its session was created is the names of the listing that the
session has; and a terminal whose slot shows its files has a session with a listing, or the server
was asked for one since the session was created. -/
theorem files_in_step (settings : Settings) (turns : List Turn) :
    let run := (start settings).1.takeAll turns
    let d := run.1
    let log := Effect.records ((start settings).2 ++ run.2)
    let since := fun t => (start settings).1.sinceCreated t [] turns
    (∀ t, d.presented = some t → (filesVisible t log = true ↔
      ∃ h ∈ d.roster.hosts, ∃ s ∈ h.slots, s.state = .bound t .files)) ∧
    (∀ t s l, d.sessions.get? t = some s → s.listing = some l →
      namesListed? t (Effect.records (since t)) = some (l.entries.map (·.name))) ∧
    (∀ h ∈ d.roster.hosts, ∀ x ∈ h.slots, ∀ t, x.state = .bound t .files →
      ∃ s, d.sessions.get? t = some s ∧
        (s.listing.isSome ∨ .file t Remote.root true ∈ Effect.requests (since t))) := by
  intro run d log since
  have c : d.Coherent := ((coherent_start settings).history turns).1
  have inStep : ∀ t, InStep t d log (Effect.records (since t)) (Effect.requests (since t)) := by
    intro t
    rw [show log = _ from Effect.records_append _ _]
    have begun : InStep t _ _ (Effect.records []) (Effect.requests []) := inStep_start settings t
    exact begun.history (coherent_start settings) turns
  refine ⟨fun t presented => ?_, fun t s l live listed => ?_, fun h mem x inside t files => ?_⟩
  · rw [(inStep t).visible presented]
    exact Roster.exists_showsFiles_iff c.wellFormed
  · exact (inStep t).listed l (by simp [Sessions.listing?, live, listed])
  · have shows : d.ShowsFiles t :=
      (Roster.exists_showsFiles_iff c.wellFormed).mpr ⟨h, mem, x, inside, files⟩
    obtain ⟨s, live⟩ := Option.isSome_iff_exists.mp (c.contains_of_showsFiles shows)
    refine ⟨s, live, ?_⟩
    simpa [Sessions.listing?, live] using (inStep t).asked shows

theorem files_in_step_first_listing :
    let asked : List Turn :=
      [.operation (.report (.hostConnected ⟨⟨1⟩, "", "", ""⟩)),
        .operation (.report (.terminalAdded ⟨1⟩ ⟨7⟩)),
        .operation (.intent (.selectSlot ⟨1⟩ ⟨1⟩))]
    let turns : List Turn :=
      asked ++ [.operation (.report (.directoryListing ⟨7⟩ "/" [⟨"notes", false, 3, 0⟩]))]
    let d := ((start {}).1.takeAll asked).1
    let d' := ((start {}).1.takeAll turns).1
    let log := Effect.records ((start {}).2 ++ ((start {}).1.takeAll asked).2)
    (d.presented = some ⟨7⟩ ∧ ∃ h ∈ d.roster.hosts, ∃ x ∈ h.slots, x.state = .bound ⟨7⟩ .files) ∧
    filesVisible ⟨7⟩ log = true ∧
    .file ⟨7⟩ Remote.root true ∈ Effect.requests ((start {}).1.sinceCreated ⟨7⟩ [] asked) ∧
    ∃ s l, d'.sessions.get? ⟨7⟩ = some s ∧ s.listing = some l ∧
      namesListed? ⟨7⟩ (Effect.records ((start {}).1.sinceCreated ⟨7⟩ [] turns)) =
        some (l.entries.map (·.name)) := by
  intro asked turns d d' log
  have presented : d.presented = some ⟨7⟩ := by decide +kernel
  have files : ∃ h ∈ d.roster.hosts, ∃ x ∈ h.slots, x.state = .bound ⟨7⟩ .files := by
    decide +kernel
  have unlisted : (d.sessions.get? ⟨7⟩).bind (·.listing) = none := by decide +kernel
  have listed : ((d'.sessions.get? ⟨7⟩).bind (·.listing)).isSome = true := by decide +kernel
  obtain ⟨shown, _, held⟩ := files_in_step {} asked
  refine ⟨⟨presented, files⟩, (shown ⟨7⟩ presented).mpr files, ?_, ?_⟩
  · obtain ⟨h, mem, x, inside, state⟩ := files
    obtain ⟨s, live, kept⟩ := held h mem x inside ⟨7⟩ state
    refine kept.resolve_left ?_
    rw [show d.sessions.get? ⟨7⟩ = some s from live, Option.bind_some] at unlisted
    simp [unlisted]
  · obtain ⟨l, listed⟩ := Option.isSome_iff_exists.mp listed
    obtain ⟨s, live, listed⟩ := Option.bind_eq_some_iff.mp listed
    exact ⟨s, l, live, listed, (files_in_step {} turns).2.1 ⟨7⟩ s l live listed⟩

end Desk

end Switchboard
