import Switchboard.Proofs.Desk.History
import Switchboard.Proofs.Roster.Binding

/-!
# How sessions end

A terminal that a host has room for gets one session and one slot; one beyond the cap is closed at
the server at once. A session ends for one of three causes, and the server is asked to close its
terminal unless the server closed it.
-/

namespace Switchboard

variable {id : HostId} {t : TerminalId} {slot : SlotId} {h : Host}

/-- What ends the session of a terminal. -/
inductive Ending where
  | byUser
  | withHost
  | byServer
deriving DecidableEq, Repr

/-- How often the server is asked to close a terminal whose session ends. -/
def Ending.requests : Ending → Nat
  | byUser | withHost => 1
  | byServer => 0

/-- What an operation may make of a session that lives on. -/
inductive Session.Continues (s : Session) : Session → Prop where
  | same : s.Continues s
  | appended (output : Bytes) : s.Continues (s.append output)
  | listed (path : String) (files : List Wire.ListedFile) : s.Continues (s.list path files)

namespace Desk

open Wire

variable {d d' : Desk} {op : Operation} {acts : List Act} {s : Session} {cap : Nat}

/-! ### How an operation ends sessions -/

/-- What would end the session of a terminal if an operation does. -/
def cause? (d : Desk) (t : TerminalId) : Operation → Option Ending
  | .intent (.closeSlot host slot) =>
    if d.roster.terminalAt? host slot = some t then some .byUser else none
  | .report (.hostDisconnected host) =>
    if d.sessions.owner? t = some host then some .withHost else none
  | .report (.terminalClosed _ u) => if u = t then some .byServer else none
  | _ => none

/-- What ends the session of a terminal, if an operation ends it. -/
def ending? (d : Desk) (t : TerminalId) (op : Operation) : Option Ending :=
  if d.sessions.contains t ∧ ¬ (handle op d).1.sessions.contains t then d.cause? t (d.meaning op)
  else none

/-- Whether an operation adds a terminal for which its host has no room. -/
def refuses (d : Desk) (cap : Nat) (t : TerminalId) : Operation → Bool
  | .report (.terminalAdded host u) =>
    u = t && !d.sessions.contains t && (d.roster.host? host).any (cap ≤ ·.sessionCount)
  | _ => false

theorem Settled.fresh (s : d.Settled) (unlive : d.sessions.contains t = false)
    (found : d.roster.host? id = some h) : t ∉ h.terminals :=
  fun mem => s.not_holds unlive id ⟨h, found, mem⟩

theorem handle_refused (c : d.Coherent) (unlive : d.sessions.contains t = false)
    (found : d.roster.host? id = some h) (full : d.roster.cap ≤ h.sessionCount) :
    handle (.report (.terminalAdded id t)) d = (d, [.send (.closeTerminal t)]) := by
  have outcome := Roster.attach_of_full c.wellFormed found (c.fresh unlive found) full
  exact (enacts_terminalRefused unlive outcome).eq

/-- A desk after a host has got a terminal. -/
structure Gained (d d' : Desk) (host : HostId) (t : TerminalId) : Prop where
  session : d'.sessions.live = d.sessions.live ++ [.start t host d.sessions.capacity]
  roster : ∃ slot, d.roster.Gained d'.roster host slot t

theorem handle_gained (c : d.Coherent) (unlive : d.sessions.contains t = false)
    (found : d.roster.host? id = some h) (room : h.sessionCount < d.roster.cap) :
    d.Gained (handle (.report (.terminalAdded id t)) d).1 id t ∧
      Effect.requests (handle (.report (.terminalAdded id t)) d).2 = [] := by
  obtain ⟨slot, requested, selected, r', outcome⟩ :=
    Roster.attach_of_room found (c.fresh unlive found) room
  have e := enacts_terminalAdded unlive outcome rfl
  constructor
  · have gained := Roster.gained_of_attach c.wellFormed outcome
    show d.Gained (terminalAdded id t d).1 id t
    rw [e.eq]
    cases selected <;> exact ⟨by simp [refreshed, Sessions.create, unlive], slot, gained⟩
  · show Effect.requests (terminalAdded id t d).2 = []
    rw [e.requests]
    cases selected <;> simp

/-! ### What a move makes of a session -/

theorem closeTerminal_notMem_asks {greeted : Option (HostId × Roster)}
    (a : Asks greeted d d' acts) (t : TerminalId) :
    .closeTerminal t ∉ Act.requests acts := by
  rcases asks_cases a with ⟨-, rfl⟩ | ⟨host, slot, roster, -, -, rfl⟩ <;> simp

theorem sessions_asks {greeted : Option (HostId × Roster)} (a : Asks greeted d d' acts) :
    d'.sessions = d.sessions := by
  rcases asks_cases a with ⟨rfl, -⟩ | ⟨host, slot, roster, -, rfl, -⟩ <;> rfl

/-- What ends the session whose slot is closed. -/
def ofOrigin : Origin → Ending
  | .server => .byServer
  | .presenter => .byUser

theorem Closes.cause? {origin : Origin} (why : d.Closes id slot op origin)
    (wf : d.roster.WellFormed) (bound : d.roster.terminalAt? id slot = some t) :
    d.cause? t op = some (ofOrigin origin) := by
  unfold Closes at why
  split at why
  · have there := Roster.terminalAt?_of_locate? wf why
    obtain rfl := Option.some.inj (bound.symm.trans there)
    simp [Desk.cause?, ofOrigin]
  · obtain ⟨rfl, rfl⟩ := why
    simp [Desk.cause?, ofOrigin, bound]
  · exact why.elim

/-- A session lives on through a move and its terminal stays open at the server, or the move ends it
for a cause and the server is told as the cause requires. -/
theorem Coherent.fate (c : d.Coherent) (m : Move op d d' acts) (live : d.sessions.get? t = some s) :
    ((∃ s', d'.sessions.get? t = some s' ∧ s.Continues s') ∧
      .closeTerminal t ∉ Act.requests acts) ∨
    d'.sessions.contains t = false ∧ ∃ ending, d.cause? t op = some ending ∧
      (Act.requests acts).count (.closeTerminal t) = ending.requests := by
  have contains : d.sessions.contains t = true := by simp [Sessions.contains, live]
  have lives : ∃ s', d.sessions.get? t = some s' ∧ s.Continues s' := ⟨s, live, .same⟩
  cases m with
  | hostConnected outcome grown =>
    subst grown
    exact Or.inl ⟨lives, by simp⟩
  | @hostDisconnected _ _ host removed roster outcome left =>
    have found := Roster.host?_of_removeHost outcome
    rw [foldl_forgotten]
    subst left
    by_cases gone : t ∈ removed.host.terminals
    · have owner := (c.owners t host).mpr ((Roster.holds_iff found).mpr gone)
      have apart : Function.Injective Request.closeTerminal := fun _ _ => by simp
      have distinct := (c.wellFormed.tidy_of_host? found).distinct.map apart
      refine Or.inr ⟨?_, .withHost, by simp [cause?, owner], ?_⟩
      · simp [Sessions.contains, get?_foldl_destroy, gone]
      · simp [List.count_eq_one_of_mem distinct (List.mem_map_of_mem gone), Ending.requests]
    · refine Or.inl ⟨⟨s, ?_, .same⟩, by simp [gone]⟩
      simp [get?_foldl_destroy, gone, live, refreshed]
  | @terminalRefused _ _ u _ fresh full =>
    have other : u ≠ t := by
      rintro rfl
      simp [contains] at fresh
    exact Or.inl ⟨lives, by simp [other.symm]⟩
  | @terminalAdded _ _ host u _ _ selected _ fresh outcome grown =>
    have other : t ≠ u := by
      rintro rfl
      simp [contains] at fresh
    have kept : d.sessions.get? t = (d.sessions.create u host).get? t :=
      (Sessions.get?_create_of_ne _ host other).symm
    subst grown
    refine Or.inl ⟨⟨s, ?_, .same⟩, ?_⟩
    · cases selected <;> exact kept ▸ live
    · cases selected <;> simp
  | @terminalOutput _ u output =>
    refine Or.inl ⟨?_, ?_⟩
    · refine ⟨_, by rw [Sessions.get?_append, live]; rfl, ?_⟩
      split
      · exact .appended _
      · exact .same
    · split <;> simp
  | @terminalClosed _ _ _ origin host slot closed roster why outcome left =>
    have bound := Roster.terminalAt?_of_closeSlot c.wellFormed outcome
    subst left
    by_cases gone : t = closed.terminal
    · subst gone
      refine Or.inr ⟨?_, _, why.cause? c.wellFormed bound, ?_⟩
      · simp [Sessions.contains, forgotten]
      · cases origin <;> simp [ofOrigin, Ending.requests]
    · refine Or.inl ⟨⟨s, ?_, .same⟩, ?_⟩
      · simp [forgotten, refreshed, Sessions.get?_destroy_of_ne _ gone, live]
      · cases origin <;> simp [gone]
  | @unheldClosed _ _ u unheld =>
    have other : t ≠ u := by
      rintro rfl
      obtain ⟨host, held⟩ := c.contains_iff_holds.mp contains
      exact Roster.not_holds_of_locate? unheld held
    refine Or.inl ⟨⟨s, ?_, .same⟩, by simp⟩
    simp [forgotten, Sessions.get?_destroy_of_ne _ other, live]
  | @directoryListing _ u path files sessions listed =>
    subst listed
    refine Or.inl ⟨?_, ?_⟩
    · refine ⟨_, by rw [Sessions.get?_list, live]; rfl, ?_⟩
      split
      · exact .listed _ _
      · exact .same
    · cases (d.sessions.list u path files).get? u <;> simp
  | hostSelected outcome moved | slotSelected outcome moved =>
    subst moved
    exact Or.inl ⟨lives, by simp⟩
  | terminalRequested outcome asked =>
    subst asked
    exact Or.inl ⟨lives, by simp⟩
  | slotToggled outcome flipped =>
    subst flipped
    refine Or.inl ⟨lives, ?_⟩
    split <;> simp [notMem_listingActs]
  | _ => exact Or.inl ⟨lives, by simp⟩

/-- A move closes no terminal that is not live, unless it refuses it. -/
theorem Coherent.closeTerminal_notMem (c : d.Coherent) (m : Move op d d' acts)
    (unlive : d.sessions.contains t = false) (admitted : d.refuses d.roster.cap t op = false) :
    .closeTerminal t ∉ Act.requests acts := by
  have unheld := c.not_holds unlive
  cases m with
  | hostConnected outcome grown =>
    subst grown
    simp
  | @hostDisconnected _ _ host removed _ outcome left =>
    have found := Roster.host?_of_removeHost outcome
    have other : t ∉ removed.host.terminals := fun mem => unheld host ⟨_, found, mem⟩
    subst left
    simp [other]
  | @terminalRefused _ host u _ fresh full =>
    have other : t ≠ u := by
      rintro rfl
      obtain ⟨h, found, full⟩ := Roster.full_of_attach full
      simp [refuses, unlive, found, full] at admitted
    simp [other]
  | @terminalAdded _ _ host u _ _ selected _ fresh outcome grown =>
    subst grown
    cases selected <;> simp
  | terminalOutput => split <;> simp
  | @terminalClosed _ _ _ origin host slot closed roster why outcome left =>
    subst left
    have other : t ≠ closed.terminal := by
      rintro rfl
      exact unheld host (Roster.holds_closeSlot c.wellFormed outcome).1
    cases origin <;> simp [other]
  | @directoryListing _ u path files sessions listed =>
    cases sessions.get? u <;> simp
  | hostSelected outcome moved | slotSelected outcome moved =>
    subst moved
    simp
  | terminalRequested outcome asked =>
    subst asked
    simp
  | slotToggled outcome flipped =>
    subst flipped
    split <;> simp [notMem_listingActs]
  | _ => simp

/-! ### How often the server is asked to close a terminal -/

theorem refuses_iff : d.refuses cap t op = true ↔
    ∃ host h, op = .report (.terminalAdded host t) ∧ d.sessions.contains t = false ∧
      d.roster.host? host = some h ∧ cap ≤ h.sessionCount := by
  constructor
  · intro refused
    unfold refuses at refused
    split at refused
    · rename_i host u
      simp only [Bool.and_eq_true, decide_eq_true_eq, Bool.not_eq_true', Option.any_eq_true]
        at refused
      obtain ⟨⟨rfl, unlive⟩, h, found, full⟩ := refused
      exact ⟨host, h, rfl, unlive, found, full⟩
    · cases refused
  · rintro ⟨host, h, rfl, unlive, found, full⟩
    simp [refuses, unlive, found, full]

theorem refuses_meaning (d : Desk) (cap : Nat) (t : TerminalId) (op : Operation) :
    d.refuses cap t (d.meaning op) = d.refuses cap t op := by
  cases op with
  | command c =>
    simp only [meaning]
    split <;> rfl
  | _ => rfl

/-- By an operation a session lives on and the server is not asked to close its terminal, or the
session ends and the server is told as the cause requires. -/
theorem fate_handle (c : d.Coherent) (op : Operation) (live : d.sessions.get? t = some s) :
    ((∃ s', (handle op d).1.sessions.get? t = some s' ∧ s.Continues s') ∧
      d.ending? t op = none ∧ .closeTerminal t ∉ Effect.requests (handle op d).2) ∨
    ∃ ending, d.ending? t op = some ending ∧
      (Effect.requests (handle op d).2).count (.closeTerminal t) = ending.requests := by
  have contains : d.sessions.contains t = true := by simp [Sessions.contains, live]
  obtain ⟨d₁, acts, d₂, more, m, asks, e⟩ := handle_moves op d
  have sessions : (handle op d).1.sessions = d₁.sessions := by
    rw [e.eq]
    show d₂.sessions = d₁.sessions
    exact sessions_asks asks
  have asked := closeTerminal_notMem_asks asks t
  rw [e.requests, Act.requests_append, sessions]
  rcases c.fate m live with ⟨⟨s', live', continues⟩, silent⟩ | ⟨ended, ending, cause, count⟩
  · refine Or.inl ⟨⟨s', live', continues⟩, ?_, ?_⟩
    · simp [ending?, sessions, Sessions.contains, live']
    · simp [silent, asked]
  · refine Or.inr ⟨ending, ?_, ?_⟩
    · simpa [ending?, contains, sessions, ended] using cause
    · rw [List.count_append, count, List.count_eq_zero_of_not_mem asked, Nat.add_zero]

/-- By one operation the server is asked to close a terminal once if it is refused or if its session
ends and not by the server, and otherwise not at all. -/
theorem count_closeTerminal_handle (c : d.Coherent) (op : Operation) (t : TerminalId) :
    (Effect.requests (handle op d).2).count (.closeTerminal t) =
      (if d.refuses d.roster.cap t op then 1 else 0) +
        (if d.ending? t op = some .byUser then 1 else 0) +
        (if d.ending? t op = some .withHost then 1 else 0) := by
  cases refused : d.refuses d.roster.cap t op with
  | true =>
    obtain ⟨host, h, rfl, unlive, found, full⟩ := refuses_iff.mp refused
    have still : d.ending? t (.report (.terminalAdded host t)) = none := by simp [ending?, unlive]
    rw [handle_refused c unlive found full, still]
    simp [Effect.requests]
  | false =>
    cases live : d.sessions.get? t with
    | some s =>
      rcases fate_handle c op live with ⟨_, still, silent⟩ | ⟨ending, ended, count⟩
      · simp [still, List.count_eq_zero_of_not_mem silent]
      · rw [ended, count]
        cases ending <;> rfl
    | none =>
      have unlive : d.sessions.contains t = false := by simp [Sessions.contains, live]
      have still : d.ending? t op = none := by simp [ending?, unlive]
      obtain ⟨d₁, acts, d₂, more, m, asks, e⟩ := handle_moves op d
      have silent := c.closeTerminal_notMem m unlive (by rwa [refuses_meaning])
      have asked := closeTerminal_notMem_asks asks t
      rw [e.requests, Act.requests_append, still, List.count_eq_zero_of_not_mem]
      · simp
      · simp [silent, asked]

theorem count_flatMap_eq {α β : Type} [BEq β] {f : α → List β} {b : β} {p q r : α → Bool}
    (l : List α) (each : ∀ x ∈ l, (f x).count b = (if p x then 1 else 0) + (if q x then 1 else 0) +
      (if r x then 1 else 0)) :
    (l.flatMap f).count b = l.countP p + l.countP q + l.countP r := by
  induction l with
  | nil => rfl
  | cons x l ih =>
    obtain ⟨first, rest⟩ := List.forall_mem_cons.mp each
    simp only [List.flatMap_cons, List.count_append, List.countP_cons, ih rest, first]
    omega

/-- No terminal is lost, doubled or leaked, whatever happened before. A terminal that is not live
and is added on a connected host gets a session and a slot there if the host has room, and nothing
is sent; beyond the cap nothing changes and the server is asked to close it. Over a run the server
is asked to close a terminal as often as the terminal was refused, plus as often as its session was
ended by the user or with its host. A session that does not live on was ended by the user, with its
host or by the server. -/
theorem terminals_accounted (settings : Settings) (turns : List Turn) :
    let run := (start settings).1.takeAll turns
    let history := (start settings).1.done turns
    (∀ host t h, run.1.sessions.contains t = false → run.1.roster.host? host = some h →
      let added := handle (.report (.terminalAdded host t)) run.1
      (h.sessionCount < settings.cap →
        run.1.Gained added.1 host t ∧ Effect.requests added.2 = []) ∧
      (settings.cap ≤ h.sessionCount → added = (run.1, [.send (.closeTerminal t)]))) ∧
    (∀ t, (Effect.requests run.2).count (.closeTerminal t) =
      history.countP (fun x => x.1.refuses settings.cap t x.2) +
        history.countP (fun x => x.1.ending? t x.2 = some .byUser) +
        history.countP (fun x => x.1.ending? t x.2 = some .withHost)) ∧
    (∀ d op, (d, op) ∈ history → ∀ t s, d.sessions.get? t = some s →
      (∃ s', (handle op d).1.sessions.get? t = some s' ∧ s.Continues s') ∨
        (d.ending? t op).isSome) := by
  intro run history
  obtain ⟨last, coherent⟩ := (coherent_start settings).history turns
  obtain ⟨cap, capped⟩ := cap_history settings turns
  refine ⟨?_, ?_, ?_⟩
  · intro host t h unlive found added
    exact ⟨fun room => handle_gained last unlive found (cap ▸ room),
      fun full => handle_refused last unlive found (cap ▸ full)⟩
  · intro t
    rw [requests_takeAll]
    refine count_flatMap_eq history fun x mem => ?_
    rw [count_closeTerminal_handle (coherent x mem), capped x mem]
    simp
  · intro d op mem t s live
    rcases fate_handle (coherent _ mem) op live with ⟨lives, _⟩ | ⟨ending, ended, _⟩
    · exact Or.inl lives
    · exact Or.inr (by simp [ended])

theorem terminals_accounted_at_cap_one :
    let settings : Settings := { cap := 1 }
    let turns : List Turn :=
      [.operation (.report (.hostConnected ⟨⟨1⟩, "", "", ""⟩)),
        .operation (.report (.terminalAdded ⟨1⟩ ⟨7⟩)),
        .operation (.report (.terminalAdded ⟨1⟩ ⟨8⟩))]
    let closing : Operation := .intent (.closeSlot ⟨1⟩ ⟨1⟩)
    let full := ((start settings).1.takeAll turns).1
    let empty := ((start settings).1.takeAll (turns ++ [.operation closing])).1
    let effects := ((start settings).1.takeAll (turns ++ [.operation closing])).2
    handle (.report (.terminalAdded ⟨1⟩ ⟨9⟩)) full = (full, [.send (.closeTerminal ⟨9⟩)]) ∧
      empty.Gained (handle (.report (.terminalAdded ⟨1⟩ ⟨9⟩)) empty).1 ⟨1⟩ ⟨9⟩ ∧
      (Effect.requests effects).count (.closeTerminal ⟨7⟩) = 1 ∧
      (full.ending? ⟨7⟩ closing).isSome := by
  intro settings turns closing full empty effects
  have account := terminals_accounted settings (turns ++ [.operation closing])
  have unlive : full.sessions.contains ⟨9⟩ = false := by decide +kernel
  have unlive' : empty.sessions.contains ⟨9⟩ = false := by decide +kernel
  have noRoom : (full.roster.host? ⟨1⟩).any (1 ≤ ·.sessionCount) = true := by decide +kernel
  have room : (empty.roster.host? ⟨1⟩).any (·.sessionCount < 1) = true := by decide +kernel
  have live : (full.sessions.get? ⟨7⟩).isSome = true := by decide +kernel
  have ended : ((handle closing full).1.sessions.get? ⟨7⟩).isSome = false := by decide +kernel
  have inside : (full, closing) ∈ (start settings).1.done (turns ++ [.operation closing]) := by
    rw [done_append]
    exact List.mem_append_right _ (List.mem_singleton_self _)
  obtain ⟨h, found, count⟩ := (Option.any_eq_true _ _).mp noRoom
  obtain ⟨h', found', count'⟩ := (Option.any_eq_true _ _).mp room
  obtain ⟨s, session⟩ := Option.isSome_iff_exists.mp live
  refine ⟨?_, ?_, (account.2.1 ⟨7⟩).trans (by decide +kernel), ?_⟩
  · exact ((terminals_accounted settings turns).1 ⟨1⟩ ⟨9⟩ h unlive found).2
      (of_decide_eq_true count)
  · exact ((account.1 ⟨1⟩ ⟨9⟩ h' unlive' found').1 (of_decide_eq_true count')).1
  · refine (account.2.2 full closing inside ⟨7⟩ s session).resolve_left ?_
    rintro ⟨s', session', _⟩
    simp only [session'] at ended
    cases ended

end Desk

end Switchboard
