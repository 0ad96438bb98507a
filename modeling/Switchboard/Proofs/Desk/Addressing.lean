import Switchboard.Proofs.Desk.Files
import Switchboard.Proofs.Desk.Record
import Switchboard.Proofs.Desk.Sessions
import Switchboard.Proofs.Remote.Path

/-!
# What requests name

A terminal is asked for on an idle slot of a connected host, keys, sizes and listings are for live
terminals, and what is closed is gone. Paths are canonical, since those of every listing that is kept
are (`canonical_history`).
-/

namespace Switchboard

open Wire Remote

namespace Roster

variable {r r' : Roster} {id : HostId} {slot : SlotId}

/-- The slot for which a terminal is asked was idle. -/
theorem states_of_request (wf : r.WellFormed) (outcome : r.request id = (some slot, r')) :
    r.stateAt? id slot = some .idle ∧ r'.stateAt? id slot = some .activating := by
  have case := r.request_cases id
  have after := wf.request id
  rw [outcome] at case after
  cases case with
  | accepted h s found quiet mem idle =>
    rw [stateAt?_of_mem found (wf.tidy_of_host? found).numbered mem, idle]
    exact ⟨rfl, after.stateAt?_activated found mem⟩

end Roster

/-! ### The listings that are kept -/

namespace Sessions

variable {ss : Sessions} {t : TerminalId}

def Canonical (ss : Sessions) : Prop := ∀ s ∈ ss.live, ∀ l, s.listing = some l → l.Canonical

theorem stable_canonical : Session.Stable fun s => ∀ l, s.listing = some l → l.Canonical where
  start t host capacity l listed := nomatch listed
  continues s s' continues canonical := by
    cases continues with
    | same | appended => exact canonical
    | listed path files =>
      intro l listed
      obtain rfl := Option.some.inj listed
      exact Listing.canonical_ofFiles path files

theorem Canonical.navigate {index : Nat} {n : Navigation} (c : ss.Canonical)
    (leads : (ss.get? t).bind (·.navigate? index) = some n) : Remote.Canonical n.path := by
  obtain ⟨s, found, there⟩ := Option.bind_eq_some_iff.mp leads
  obtain ⟨l, listed, there⟩ := Option.bind_eq_some_iff.mp there
  exact (c s (mem_of_get? found) l listed).navigate there

end Sessions

namespace Desk

variable {d d' d₁ d₂ : Desk} {op : Operation} {acts : List Act} {host : HostId} {t : TerminalId}

theorem canonical_move (c : d.sessions.Canonical) (m : Move op d d' acts) :
    d'.sessions.Canonical := every_move Sessions.stable_canonical c m

theorem canonical_history (settings : Settings) (turns : List Turn) :
    ∀ x ∈ (start settings).1.done turns, x.1.sessions.Canonical :=
  (every_history Sessions.stable_canonical settings turns).2

/-! ### Requests and downloads -/

/-- The roster on which an operation may ask for a terminal: the one that it finds, with the host
that it takes in or selects. -/
def asking (d : Desk) (op : Operation) : Roster := ((d.greeting? op).map Prod.snd).getD d.roster

/-- What a request names that is sent for an operation on `d` that leaves `d'`. -/
def Addressed (d : Desk) (op : Operation) (d' : Desk) : Request → Prop
  | .openTerminal host => ∃ slot, (d.asking op).stateAt? host slot = some .idle ∧
      d'.roster.stateAt? host slot = some .activating
  | .key t _ | .resize t _ => d.sessions.contains t = true ∧ d'.sessions.contains t = true
  | .file t path list => (d.sessions.contains t = true ∧ d'.sessions.contains t = true) ∧
      list = true ∧ Remote.Canonical path
  | .closeTerminal t => d'.sessions.contains t = false

theorem Addressed.withBus {r : Request} (a : d.Addressed op d' r) (bus : Bus) :
    d.Addressed op { d' with bus } r := by
  cases r <;> exact a

theorem canonical_directoryOf (s : Session) (path : String) :
    Remote.Canonical (directoryOf s path) := by
  unfold directoryOf
  split
  · split
    · exact canonical_normalize path
    · exact canonical_joinPath _ path
  · exact canonical_normalize path

theorem requests_listingActs {r : Request} (sent : r ∈ Act.requests (d.listingActs t)) :
    d.sessions.contains t = true ∧ r = .file t root true := by
  unfold listingActs at sent
  cases found : d.sessions.get? t with
  | none => simp [found] at sent
  | some s =>
    refine ⟨by simp [Sessions.contains, found], ?_⟩
    cases listed : s.listing with
    | none => simpa [found, listed] using sent
    | some l => simp [found, listed] at sent

theorem Coherent.addressed (c : d.Coherent) (k : d.sessions.Canonical)
    (m : Move op d d' acts) : ∀ r ∈ Act.requests acts, d.Addressed op d' r := by
  intro r sent
  cases m with
  | ignored | fileOpened | noticed | unheldClosed => simp at sent
  | hostConnected | hostSelected => split at sent <;> simp at sent
  | terminalOutput => split at sent <;> simp at sent
  | slotSelected => simp at sent
  | @directoryListing _ u _ _ sessions => cases found : sessions.get? u <;> simp [found] at sent
  | @hostDisconnected _ _ host removed roster outcome left =>
    obtain ⟨t, mem, rfl⟩ : ∃ t ∈ removed.host.terminals, .closeTerminal t = r := by
      simpa using sent
    rw [foldl_forgotten]
    show ((removed.host.terminals.foldl Sessions.destroy _).get? t).isSome = false
    rw [get?_foldl_destroy, if_pos mem, Option.isSome_none]
  | terminalRefused fresh full =>
    obtain rfl : r = .closeTerminal _ := by simpa using sent
    exact fresh
  | @terminalAdded _ _ _ _ _ requested selected =>
    cases selected <;> split at sent <;> simp at sent
  | @terminalClosed _ _ _ origin _ _ closed _ why outcome left =>
    obtain ⟨rfl, rfl⟩ : origin = .presenter ∧ r = .closeTerminal closed.terminal := by
      simpa using sent
    show ((Sessions.destroy _ closed.terminal).get? closed.terminal).isSome = false
    rw [Sessions.get?_destroy_self, Option.isSome_none]
  | @terminalRequested _ _ host slot roster outcome asked =>
    obtain rfl : r = .openTerminal host := by simpa using sent
    subst asked
    exact ⟨slot, Roster.states_of_request c.wellFormed outcome⟩
  | @slotToggled _ _ _ _ t face _ outcome flipped =>
    have listing : r ∈ Act.requests (d'.listingActs t) := by
      cases face with
      | terminal => simp at sent
      | files => simpa using sent
    obtain ⟨live, rfl⟩ := requests_listingActs listing
    subst flipped
    exact ⟨⟨live, live⟩, rfl, canonical_root⟩
  | typed live | resized live other =>
    obtain rfl : r = _ := by simpa using sent
    exact ⟨live, live⟩
  | @directoryOpened _ t index path leads =>
    obtain rfl : r = .file t path true := by simpa using sent
    obtain ⟨s, found, _⟩ := Option.bind_eq_some_iff.mp leads
    have live : d.sessions.contains t = true := by simp [Sessions.contains, found]
    have canonical := k.navigate leads
    exact ⟨⟨live, live⟩, rfl, canonical⟩
  | @directoryAsked _ t s path found =>
    obtain rfl : r = .file t (directoryOf s path) true := by simpa using sent
    have live : d.sessions.contains t = true := by simp [Sessions.contains, found]
    exact ⟨⟨live, live⟩, rfl, canonical_directoryOf s path⟩

/-- Who takes in or selects a host sends nothing before it may ask for a terminal. -/
theorem requests_of_greeting {x : HostId × Roster} (m : Move op d d' acts)
    (greeted : d.greeting? op = some x) : Act.requests acts = [] := by
  unfold greeting? at greeted
  split at greeted
  · cases m with
    | ignored => rfl
    | hostConnected => split <;> simp
    | terminalClosed why => exact why.elim
  · cases m with
    | ignored => rfl
    | hostSelected => split <;> simp
    | terminalClosed why => exact why.elim
  · cases greeted

theorem Coherent.addressed_handle (c : d.Coherent) (k : d.sessions.Canonical) (op : Operation) :
    ∀ r ∈ Effect.requests (Desk.handle op d).2,
      d.Addressed (d.meaning op) (Desk.handle op d).1 r := by
  obtain ⟨d₁, acts, d₂, more, m, asks, e⟩ := handle_moves op d
  have first := c.addressed k m
  rw [e.requests, e.eq, Act.requests_append]
  intro r sent
  refine Addressed.withBus ?_ _
  cases asks with
  | nothing => exact first r (by simpa using sent)
  | @terminal _ _ host m' there =>
    rw [requests_of_greeting m there, List.nil_append] at sent
    have asked := (c.move m).addressed (canonical_move k m) m' r sent
    cases m' with
    | ignored => simp at sent
    | terminalClosed why => exact why.elim
    | terminalRequested outcome moved =>
      obtain rfl : r = .openTerminal host := by simpa using sent
      have same : d.asking (d.meaning op) = d₁.roster := by simp [asking, there]
      obtain ⟨slot, idle, activating⟩ := asked
      exact ⟨slot, same ▸ idle, activating⟩

/-- A file is downloaded because an entry of a listing that is kept was opened. -/
theorem download_handle {path : String} (op : Operation)
    (told : .download t path ∈ Effect.cues (handle op d).2) :
    ∃ index, (d.sessions.get? t).bind (·.navigate? index) = some (.download path) := by
  obtain ⟨d₁, acts, d₂, more, m, asks, e⟩ := handle_moves op d
  rw [e.eq] at told
  have plain : .download t path ∈ ((acts ++ more).filterMap Act.cue?).filter (·.event?.isNone) := by
    rw [← plain_cues_relayAll d.presenter d.bus]
    exact List.mem_filter.mpr ⟨told, rfl⟩
  have record : .download t path ∈ Act.records (acts ++ more) :=
    List.mem_map.mpr ⟨_, (List.mem_filter.mp plain).1, rfl⟩
  have noted : .download t path ∈ (Act.records acts).filter Record.isNote := by
    rw [← List.append_nil (List.filter _ _), ← asks.notes, ← List.filter_append,
      ← Act.records_append]
    exact List.mem_filter.mpr ⟨record, rfl⟩
  rcases m.notes with pictures | ⟨u, index, name, -, leads, rfl⟩
  · rw [pictures] at noted
    cases noted
  · obtain ⟨rfl, rfl⟩ : t = u ∧ path = name := by simpa [Cue.record, Record.isNote] using noted
    exact ⟨index, leads⟩

theorem requests_listDirectory {s : Session} {path : String}
    (same : d.meaning op = .intent (.listDirectory t path)) (live : d.sessions.get? t = some s) :
    Effect.requests (handle op d).2 = [.file t (directoryOf s path) true] := by
  rw [handle_of_meaning same]
  show Effect.requests (listDirectory t path d).2 = _
  simp only [listDirectory, live]
  rfl

/-- Whatever happened before and whoever is subscribed, every request names what is there. A
terminal is asked for on a connected host, one of whose slots stops being idle and waits for it.
Keys, sizes and listings go to live terminals, and what is closed is not live any more. Paths are
canonical, those of files to download too. A path that is typed leads from the last listing of its
terminal, unless it starts with a slash or there is none. -/
theorem requests_addressed (settings : Settings) (turns : List Turn) :
    let d₀ := (start settings).1
    (d₀.takeAll turns).2 = ((d₀.done turns).flatMap fun x => (handle x.2 x.1).2) ∧
    ∀ d op, (d, op) ∈ d₀.done turns →
      let d' := (handle op d).1
      let effects := (handle op d).2
      (∀ r ∈ Effect.requests effects, d.Addressed (d.meaning op) d' r) ∧
      (∀ t path, .download t path ∈ Effect.cues effects → Remote.Canonical path) ∧
      ∀ t path s, d.meaning op = .intent (.listDirectory t path) → d.sessions.get? t = some s →
        (path.toList.head? = some '/' ∨ s.listing = none →
          Effect.requests effects = [.file t (normalize path) true]) ∧
        ∀ l, path.toList.head? ≠ some '/' → s.listing = some l →
          Effect.requests effects = [.file t (normalize (l.path ++ "/" ++ path)) true] := by
  intro d₀
  refine ⟨effects_takeAll d₀ turns, fun d op mem => ?_⟩
  have c : d.Coherent := ((coherent_start settings).history turns).2 (d, op) mem
  have k : d.sessions.Canonical := canonical_history settings turns (d, op) mem
  refine ⟨c.addressed_handle k op, fun t path told => ?_, fun t path s same live => ?_⟩
  · obtain ⟨index, leads⟩ := download_handle op told
    have canonical := k.navigate leads
    exact canonical
  · rw [requests_listDirectory same live]
    constructor
    · rintro (slash | unlisted)
      · unfold directoryOf
        cases s.listing <;> simp [slash]
      · simp [directoryOf, unlisted]
    · intro l relative listed
      simp [directoryOf, listed, relative, joinPath]

theorem requests_addressed_relative_path :
    let turns : List Turn :=
      [.operation (.report (.hostConnected ⟨⟨1⟩, "", "", ""⟩)),
        .operation (.report (.terminalAdded ⟨1⟩ ⟨7⟩)),
        .operation (.report (.directoryListing ⟨7⟩ "/a/../b/" []))]
    let d₀ := (start {}).1
    let d := (d₀.takeAll turns).1
    let ask : Operation := .intent (.listDirectory ⟨7⟩ "../c")
    (d, ask) ∈ d₀.done (turns ++ [.operation ask]) ∧
      (d.sessions.listing? ⟨7⟩).map (·.path) = some "/b" ∧
      Effect.requests (handle ask d).2 = [.file ⟨7⟩ (normalize ("/b" ++ "/" ++ "../c")) true] ∧
      normalize ("/b" ++ "/" ++ "../c") = "/c" := by
  intro turns d₀ d ask
  have done : (d, ask) ∈ d₀.done (turns ++ [.operation ask]) := by
    rw [done_append]
    exact List.mem_append_right _ List.mem_cons_self
  have base : (d.sessions.listing? ⟨7⟩).map (·.path) = some "/b" := by decide +kernel
  obtain ⟨l, there, path⟩ := Option.map_eq_some_iff.mp base
  obtain ⟨s, live, listed⟩ := Option.bind_eq_some_iff.mp there
  obtain ⟨-, -, asked⟩ :=
    (requests_addressed {} (turns ++ [.operation ask])).2 d ask done
  have relative : "../c".toList.head? ≠ some '/' := by decide
  have sent := (asked ⟨7⟩ "../c" s rfl live).2 l relative listed
  exact ⟨done, base, path ▸ sent, by decide +kernel⟩

end Desk

end Switchboard
