import Switchboard.Presenter.Screen
import Switchboard.Proofs.Desk.Audience
import Switchboard.Proofs.Desk.Sessions
import Switchboard.Proofs.Number.Digits
import Switchboard.Proofs.Session.Scrollback

/-!
# The screen agrees with the view

A screen keeps its own note of the presented terminal and leaves out the output of all others.
`Coherent.presents`: an operation presents nothing, or it presents once what the view then shows, so
the note is always right and no output is left out that should be seen.
-/

namespace Switchboard

variable {screen : Screen} {cue : Cue} {cues : List Cue} {acts : List Act} {P Q : Cue → Prop}

/-! ### Cues that present nothing -/

/-- A cue that leaves the presented terminal as it is. -/
def Cue.Steady (cue : Cue) : Prop :=
  ∀ presented, Screen.presentedAfter presented cue = presented

/-- A steady cue with which nothing is written. -/
def Cue.Silent (cue : Cue) : Prop := cue.Steady ∧ ∀ presented, Screen.written presented cue = []

/-- A silent cue, or one that tells that a terminal was closed. -/
def Cue.Quiet (cue : Cue) : Prop :=
  cue.Silent ∨ ∃ host t, cue = .event (.terminalClosed host t)

theorem Cue.Quiet.steady (quiet : cue.Quiet) : cue.Steady := by
  obtain silent | ⟨host, t, rfl⟩ := quiet
  · exact silent.1
  · exact fun _ => rfl

namespace Screen

theorem takeAll_append (screen : Screen) (cues more : List Cue) :
    screen.takeAll (cues ++ more) =
      ((screen.takeAll cues).1 ++ ((screen.takeAll cues).2.takeAll more).1,
        ((screen.takeAll cues).2.takeAll more).2) := by
  induction cues generalizing screen with
  | nil => rfl
  | cons cue cues ih => simp only [List.cons_append, takeAll, ih, List.append_assoc]

theorem writable_takeAll (screen : Screen) (cues : List Cue) :
    (screen.takeAll cues).2.writable = screen.writable := by
  induction cues generalizing screen with
  | nil => rfl
  | cons cue cues ih => exact ih (screen.take cue).2

theorem takeAll_of_steady (steady : ∀ cue ∈ cues, cue.Steady) :
    (screen.takeAll cues).2 = screen := by
  induction cues generalizing screen with
  | nil => rfl
  | cons cue cues ih =>
    obtain ⟨first, rest⟩ := List.forall_mem_cons.mp steady
    have same : (screen.take cue).2 = screen := by
      rw [take, first]
    exact (ih rest).trans same

theorem takeAll_of_silent (silent : ∀ cue ∈ cues, cue.Silent) :
    screen.takeAll cues = ([], screen) := by
  induction cues generalizing screen with
  | nil => rfl
  | cons cue cues ih =>
    obtain ⟨first, rest⟩ := List.forall_mem_cons.mp silent
    have same : screen.take cue = ([], screen) := by
      rw [take, first.1, first.2, ite_self]
    simp only [takeAll, same, ih rest, List.append_nil]

theorem written_of_steady (steady : ∀ cue ∈ cues, cue.Steady) (writable : screen.writable = true) :
    (screen.takeAll cues).1 = cues.flatMap (written screen.presented) := by
  induction cues generalizing screen with
  | nil => rfl
  | cons cue cues ih =>
    obtain ⟨first, rest⟩ := List.forall_mem_cons.mp steady
    have same : (screen.take cue).2 = screen := by
      rw [take, first]
    have bytes : (screen.take cue).1 = written screen.presented cue := if_pos writable
    simp only [takeAll, same, bytes, ih rest writable, List.flatMap_cons]

/-! ### The line above what is replayed -/

theorem not_mem_decimal (n : Nat) : '\n' ∉ (Number.decimal n).toList := by
  intro mem
  nomatch Number.isDigit_of_mem_decimal mem

theorem heading_one_line (s : Session) : '\n' ∉ (heading s).toList := by
  have terminal : '\n' ∉ s.id.text.toList := not_mem_decimal _
  have host : '\n' ∉ s.host.text.toList := not_mem_decimal _
  have dropped := not_mem_decimal s.scrollback.dropped
  have total := not_mem_decimal s.scrollback.total
  unfold heading
  split
  all_goals
    simp only [String.toList_append, List.mem_append, not_or, terminal, host, dropped, total]
    decide

/-- The counts that a heading names if bytes were dropped. -/
theorem heading_counts (s : Session) :
    let title := "-- terminal " ++ s.id.text ++ " on host " ++ s.host.text
    let counts := " (" ++ Number.decimal s.scrollback.dropped ++ " of " ++
      Number.decimal s.scrollback.total ++ " bytes dropped)"
    (heading s = title ++ " --" ↔ s.scrollback.dropped = 0) ∧
    (heading s = title ++ counts ++ " --" ↔ s.scrollback.dropped ≠ 0) := by
  intro title counts
  have named : title ++ counts ++ " --" ≠ title ++ " --" := by
    intro same
    rw [String.append_assoc, String.append_right_inj] at same
    have lengths := congrArg String.length same
    simp only [counts, String.length_append] at lengths
    have opening : " (".length = 2 := rfl
    omega
  have read : heading s =
      title ++ (if s.scrollback.dropped = 0 then "" else counts) ++ " --" := rfl
  by_cases complete : s.scrollback.dropped = 0
  · rw [if_pos complete, String.append_empty] at read
    rw [read]
    exact ⟨iff_of_true rfl complete,
      iff_of_false (fun both => named both.symm) (not_not_intro complete)⟩
  · rw [if_neg complete] at read
    rw [read]
    exact ⟨iff_of_false named complete, iff_of_true rfl complete⟩

end Screen

/-! ### What acts give -/

/-- Every cue that an act may give has a property. -/
def Act.Gives (P : Cue → Prop) : Act → Prop
  | .cue c => P c
  | .send _ => True
  | .publish _ e => P (.event e)

theorem Act.Gives.mono {act : Act} (weaker : ∀ cue, P cue → Q cue) (gives : act.Gives P) :
    act.Gives Q := by
  cases act with
  | cue c => exact weaker c gives
  | send => trivial
  | publish origin e => exact weaker _ gives

theorem gives_relayAll (presenter : SubscriberId) (b : Bus) (gives : ∀ act ∈ acts, act.Gives P) :
    ∀ cue ∈ Effect.cues (b.relayAll presenter acts).2, P cue := by
  induction acts generalizing b with
  | nil => exact List.forall_mem_nil _
  | cons act acts ih =>
    obtain ⟨first, rest⟩ := List.forall_mem_cons.mp gives
    simp only [Bus.relayAll, Effect.cues_append]
    rw [List.forall_mem_append]
    refine ⟨?_, ih _ rest⟩
    cases act with
    | cue c => exact List.forall_mem_singleton.mpr first
    | send => exact List.forall_mem_nil _
    | publish origin e =>
      rw [cues_publish, List.forall_mem_map]
      intro e' mem
      obtain ⟨delivery, delivered, received⟩ := List.mem_filterMap.mp mem
      obtain ⟨s, -, rfl⟩ := List.mem_map.mp delivered
      split at received
      · exact Option.some.inj received ▸ first
      · cases received

namespace Desk

variable {d d' d₁ d₂ : Desk} {op : Operation} {more before after : List Act} {t : TerminalId}

theorem gives_hostActs {cue : Host → Cue} (gives : ∀ h, P (cue h)) (d : Desk) (host : HostId) :
    ∀ act ∈ d.hostActs cue host, act.Gives P := by
  intro act mem
  obtain ⟨h, -, rfl⟩ := Option.map_eq_some_iff.mp (Option.mem_toList.mp mem)
  exact gives h

theorem gives_if {p : Prop} [Decidable p] (gives : ∀ act ∈ acts, act.Gives P) :
    ∀ act ∈ (if p then acts else []), act.Gives P := by
  split
  · exact gives
  · exact List.forall_mem_nil _

theorem gives_single {act : Act} (gives : act.Gives P) : ∀ act' ∈ [act], act'.Gives P :=
  List.forall_mem_singleton.mpr gives

theorem gives_append (first : ∀ act ∈ acts, act.Gives P) (rest : ∀ act ∈ more, act.Gives P) :
    ∀ act ∈ acts ++ more, act.Gives P := List.forall_mem_append.mpr ⟨first, rest⟩

theorem steady_of_silent (silent : ∀ act ∈ acts, act.Gives Cue.Silent) :
    ∀ act ∈ acts, act.Gives Cue.Steady := fun act mem => (silent act mem).mono fun _ => And.left

theorem quiet_of_silent (silent : ∀ act ∈ acts, act.Gives Cue.Silent) :
    ∀ act ∈ acts, act.Gives Cue.Quiet := fun act mem => (silent act mem).mono fun _ => Or.inl

theorem steady_of_quiet (quiet : ∀ act ∈ acts, act.Gives Cue.Quiet) :
    ∀ act ∈ acts, act.Gives Cue.Steady :=
  fun act mem => (quiet act mem).mono fun _ => Cue.Quiet.steady

theorem silent_slots (d : Desk) (host : HostId) :
    ∀ act ∈ d.hostActs .slotsChanged host, act.Gives Cue.Silent :=
  gives_hostActs (fun _ => ⟨fun _ => rfl, fun _ => rfl⟩) d host

theorem silent_publishHost (origin : Origin) (host : Option HostId) (p : Prop) [Decidable p] :
    ∀ act ∈ (if p then [Act.publish origin (.hostSelected host)] else []),
      act.Gives Cue.Silent := by
  have event : (Cue.event (.hostSelected host)).Silent := ⟨fun _ => rfl, fun _ => rfl⟩
  exact gives_if (gives_single event)

theorem steady_listingActs (d : Desk) (t : TerminalId) :
    ∀ act ∈ d.listingActs t, act.Gives Cue.Steady := by
  unfold listingActs
  repeat' split
  · exact List.forall_mem_nil _
  · exact gives_single fun _ => rfl
  · exact gives_single trivial

theorem quiet_closed (origin : Origin) (host : HostId) (t : TerminalId) :
    (Act.publish origin (.terminalClosed host t)).Gives Cue.Quiet := .inr ⟨host, t, rfl⟩

theorem quiet_endActs (host : HostId) (ts : List TerminalId) :
    ∀ act ∈ ts.flatMap (endActs host), act.Gives Cue.Quiet := by
  rw [List.forall_mem_flatMap]
  intro t _
  exact List.forall_mem_cons.mpr ⟨trivial, gives_single (quiet_closed .server host t)⟩

theorem quiet_closeActs (d : Desk) (origin : Origin) (host : HostId) (t : TerminalId) :
    ∀ act ∈ d.closeActs origin host t, act.Gives Cue.Quiet := by
  have told := gives_single (quiet_closed origin host t)
  have slots := quiet_of_silent (d.silent_slots host)
  exact gives_append (gives_append (gives_if (gives_single trivial)) told) slots

/-! ### What a move presents -/

/-- Acts that present nothing while the view stays, or that present once what the view then shows.
Nothing is written before it, and only that terminals were closed after it. -/
inductive PresentsOnce (d d' : Desk) : List Act → Prop where
  | same {acts : List Act} (steady : ∀ act ∈ acts, act.Gives Cue.Steady)
      (kept : d'.presented = d.presented) : PresentsOnce d d' acts
  | other {before after : List Act} {wanted : Option Session}
      (silent : ∀ act ∈ before, act.Gives Cue.Silent)
      (quiet : ∀ act ∈ after, act.Gives Cue.Quiet)
      (changed : d'.presented ≠ d.presented) (shown : wanted.map (·.id) = d'.presented)
      (live : ∀ s, wanted = some s → d'.sessions.get? s.id = some s) :
      PresentsOnce d d' (before ++ .cue (.present wanted) :: after)

/-- The view is refreshed. What becomes active is live, though other sessions may end with it. -/
theorem Coherent.presents_refresh (c : d'.Coherent) (d₁ : Desk) (origin : Origin)
    (silent : ∀ act ∈ before, act.Gives Cue.Silent) (quiet : ∀ act ∈ after, act.Gives Cue.Quiet)
    (here : d₁.view = d.view) (there : d'.view = d₁.refreshed.view)
    (fewer : ∀ t s, d'.sessions.get? t = some s → d₁.sessions.get? t = some s) :
    PresentsOnce d d' (before ++ d₁.refreshActs origin ++ after) := by
  have shown : d₁.wanted?.map (·.id) = d'.presented := (congrArg View.current there).symm
  unfold refreshActs
  split
  · rename_i changes
    have files : ∀ act ∈ (d₁.refreshCues.tail.map Act.cue), act.Gives Cue.Silent := by
      rw [refreshCues, List.tail_cons, List.map_map, List.forall_mem_map]
      exact fun t _ => ⟨fun _ => rfl, fun _ => rfl⟩
    have selected : (Act.publish origin (.terminalSelected (d₁.wanted?.map (·.id)))).Gives
        Cue.Silent := ⟨fun _ => rfl, fun _ => rfl⟩
    have later := gives_append
      (quiet_of_silent (gives_append files (gives_single selected))) quiet
    have split : before ++ (d₁.refreshCues.map .cue ++
        [.publish origin (.terminalSelected (d₁.wanted?.map (·.id)))]) ++ after =
        before ++ .cue (.present d₁.wanted?) :: (d₁.refreshCues.tail.map .cue ++
          [.publish origin (.terminalSelected (d₁.wanted?.map (·.id)))] ++ after) := by
      rw [refreshCues, List.append_assoc]
      rfl
    rw [split]
    refine .other silent later ?_ shown ?_
    · rw [← shown]
      rw [View.changes, here, bne_iff_ne] at changes
      exact changes
    · intro s wanted
      have presented : d'.view.current = some s.id := by
        rw [← presented, ← shown, wanted]
        rfl
      obtain ⟨s', found⟩ := Option.isSome_iff_exists.mp (c.contains_of_presented presented)
      rw [found, ← wanted?_live wanted, fewer _ _ found]
  · rename_i same
    rw [List.append_nil]
    refine .same (gives_append (steady_of_silent silent) (steady_of_quiet quiet)) ?_
    rw [presented, there, refreshed_of_same (by simpa using same), here, presented]

theorem Coherent.presents_move (c : d.Coherent) (m : Move op d d' acts) :
    PresentsOnce d d' acts := by
  have c' := c.move m
  cases m with
  | ignored => exact .same (List.forall_mem_nil _) rfl
  | unheldClosed => exact .same (List.forall_mem_nil _) rfl
  | terminalRefused | typed | resized | directoryOpened | directoryAsked =>
    exact .same (gives_single trivial) rfl
  | fileOpened | noticed => exact .same (gives_single fun _ => rfl) rfl
  | @hostConnected _ _ info roster outcome grown =>
    subst grown
    have added : ∀ act ∈ ({ d with roster } : Desk).hostActs .hostAdded info.id,
        act.Gives Cue.Steady := gives_hostActs (fun _ _ => rfl) _ _
    exact .same (gives_append added (steady_of_silent (silent_publishHost _ _ _))) rfl
  | @hostDisconnected _ d₁ host removed roster outcome left =>
    have gone : (Act.cue (.hostRemoved host)).Gives Cue.Quiet := .inl ⟨fun _ => rfl, fun _ => rfl⟩
    have later := gives_append
      (gives_append (quiet_endActs host removed.host.terminals) (gives_single gone))
      (quiet_of_silent (silent_publishHost .server roster.current removed.wasCurrent))
    have here : d₁.view = d.view := by rw [left]
    have presents := c'.presents_refresh d₁ .server (List.forall_mem_nil _) later
      here (by rw [foldl_forgotten]) fun t s found => by
        rw [foldl_forgotten] at found
        exact (Option.ite_none_left_eq_some.mp ((get?_foldl_destroy _ _ _).symm.trans found)).2
    simpa only [List.nil_append, List.append_assoc] using presents
  | @terminalAdded _ d₁ host t _ requested selected roster fresh outcome grown =>
    have added : (Act.publish .server (.terminalAdded host t)).Gives Cue.Silent :=
      ⟨fun _ => rfl, fun _ => rfl⟩
    have first := gives_append (gives_append (gives_single added) (d₁.silent_slots host))
      (silent_publishHost .server roster.current
        (requested ∨ roster.current ≠ d.roster.current))
    cases selected with
    | true =>
      have here : d₁.view = d.view := by rw [grown]
      have presents := c'.presents_refresh d₁ .server first (List.forall_mem_nil _)
        here rfl fun _ _ found => found
      simpa only [if_true, List.append_nil] using presents
    | false =>
      exact .same (gives_append (steady_of_silent first) (List.forall_mem_nil _)) (grown ▸ rfl)
  | terminalOutput => exact .same (gives_if (gives_single fun _ => rfl)) rfl
  | @terminalClosed _ d₁ _ origin host _ closed _ why outcome left =>
    have here : d₁.view = d.view := by rw [left]
    have presents := c'.presents_refresh d₁ origin (List.forall_mem_nil _)
      (d₁.quiet_closeActs origin host closed.terminal) here rfl fun t s found =>
        (Option.ite_none_left_eq_some.mp
          ((get?_foldl_destroy [closed.terminal] _ _).symm.trans found)).2
    simpa only [List.nil_append] using presents
  | @directoryListing _ _ _ _ sessions listed =>
    refine .same (fun act mem => ?_) rfl
    obtain ⟨s, -, rfl⟩ := Option.map_eq_some_iff.mp (Option.mem_toList.mp mem)
    exact fun _ => rfl
  | @hostSelected _ d₁ host roster outcome moved =>
    have here : d₁.view = d.view := by rw [moved]
    have presents := c'.presents_refresh d₁ .presenter
      (silent_publishHost .presenter roster.current (d.roster.current ≠ some host))
      (List.forall_mem_nil _) here rfl fun _ _ found => found
    simpa only [List.append_nil] using presents
  | @terminalRequested _ _ host _ roster outcome asked =>
    subst asked
    have slots := steady_of_silent (silent_slots { d with roster } host)
    exact .same (List.forall_mem_cons.mpr ⟨trivial, slots⟩) rfl
  | @slotSelected _ d₁ host _ _ roster outcome moved =>
    have selected : (Act.publish .presenter (.hostSelected roster.current)).Gives Cue.Silent :=
      ⟨fun _ => rfl, fun _ => rfl⟩
    have here : d₁.view = d.view := by rw [moved]
    have presents := c'.presents_refresh d₁ .presenter
      (gives_append (d₁.silent_slots host) (gives_single selected)) (List.forall_mem_nil _)
      here rfl fun _ _ found => found
    simpa only [List.append_nil] using presents
  | @slotToggled _ d₁ host _ t face roster outcome flipped =>
    have slots := steady_of_silent (d'.silent_slots host)
    have files : (Act.cue (.fileBrowser t (face = Face.files))).Gives Cue.Steady := fun _ => rfl
    exact .same (gives_append (gives_append slots (gives_single files))
      (gives_if (d'.steady_listingActs t))) (flipped ▸ rfl)

theorem PresentsOnce.asks {greeted : Option (HostId × Roster)} (presents : PresentsOnce d d₁ acts)
    (asks : Asks greeted d₁ d₂ more) : PresentsOnce d d₂ (acts ++ more) := by
  obtain ⟨rfl, rfl⟩ | ⟨host, slot, roster, -, rfl, rfl⟩ := asks_cases asks
  · rwa [List.append_nil]
  · have slots : ∀ act ∈ .send (.openTerminal host) ::
        ({ d₁ with roster } : Desk).hostActs .slotsChanged host, act.Gives Cue.Silent :=
      List.forall_mem_cons.mpr ⟨trivial, silent_slots _ host⟩
    cases presents with
    | same steady kept => exact .same (gives_append steady (steady_of_silent slots)) kept
    | other silent quiet changed shown live =>
      rw [List.append_assoc, List.cons_append]
      exact .other silent (gives_append quiet (quiet_of_silent slots)) changed shown live

/-- The cues of an operation present nothing while the view stays, or present once what the view
then shows. -/
theorem Coherent.presents (c : d.Coherent) (op : Operation) :
    let d' := (Desk.handle op d).1
    let cues := Effect.cues (Desk.handle op d).2
    ((∀ cue ∈ cues, cue.Steady) ∧ d'.presented = d.presented) ∨
    ∃ front wanted back, cues = front ++ .present wanted :: back ∧
      (∀ cue ∈ front, cue.Silent) ∧ (∀ cue ∈ back, cue.Quiet) ∧
      d'.presented ≠ d.presented ∧ wanted.map (·.id) = d'.presented ∧
      ∀ s, wanted = some s → d'.sessions.get? s.id = some s := by
  obtain ⟨d₁, acts, d₂, more, m, asks, e⟩ := handle_moves op d
  have presents := (c.presents_move m).asks asks
  intro d' cues
  have effects : cues = Effect.cues (d.bus.relayAll d.presenter (acts ++ more)).2 := by
    rw [show cues = Effect.cues (Desk.handle op d).2 from rfl, e.eq]
  have presented : d'.presented = d₂.presented := by
    rw [show d' = (Desk.handle op d).1 from rfl, e.eq]
    rfl
  have sessions : d'.sessions = d₂.sessions := by
    rw [show d' = (Desk.handle op d).1 from rfl, e.eq]
  rw [effects, presented, sessions]
  generalize acts ++ more = all at presents
  cases presents with
  | same steady kept => exact .inl ⟨gives_relayAll _ _ steady, kept⟩
  | @other before after wanted silent quiet changed shown live =>
    let bus := (d.bus.relayAll d.presenter before).1
    have split : Effect.cues (d.bus.relayAll d.presenter
          (before ++ .cue (.present wanted) :: after)).2 =
        Effect.cues (d.bus.relayAll d.presenter before).2 ++
          .present wanted :: Effect.cues (bus.relayAll d.presenter after).2 := by
      rw [Bus.relayAll_append, Effect.cues_append]
      rfl
    exact .inr ⟨_, wanted, _, split, gives_relayAll _ _ silent, gives_relayAll _ _ quiet, changed,
      shown, live⟩

/-! ### The screen of a desk -/

/-- An operation leaves the screen and the view agreed. -/
theorem Coherent.agrees_handle (c : d.Coherent) (agrees : screen.presented = d.presented)
    (op : Operation) :
    (screen.takeAll (Effect.cues (Desk.handle op d).2)).2.presented =
      (Desk.handle op d).1.presented := by
  obtain ⟨steady, kept⟩ | ⟨front, wanted, back, split, silent, quiet, -, shown, -⟩ :=
    c.presents op
  · rw [Screen.takeAll_of_steady steady, agrees, kept]
  · rw [split, Screen.takeAll_append, Screen.takeAll_of_silent silent, Screen.takeAll,
      Screen.takeAll_of_steady fun cue mem => (quiet cue mem).steady]
    exact shown

theorem Coherent.agrees_takeAll (c : d.Coherent) (agrees : screen.presented = d.presented)
    (turns : List Turn) :
    (screen.takeAll (Effect.cues (d.takeAll turns).2)).2.presented =
      (d.takeAll turns).1.presented := by
  induction turns generalizing d screen with
  | nil => exact agrees
  | cons turn turns ih =>
    cases turn with
    | operation op =>
      rw [takeAll_operation, Effect.cues_append, Screen.takeAll_append]
      exact ih (c.handle op) (c.agrees_handle agrees op)
    | enrolment e =>
      rw [takeAll_enrolment]
      refine ih (c.enrol e) (agrees.trans ?_)
      cases e <;> rfl

/-- The cues of a connection from its start to its end. -/
def sitting (settings : Settings) (turns : List Turn) : List Cue :=
  let run := (start settings).1.takeAll turns
  Effect.cues ((start settings).2 ++ run.2) ++ Effect.cues run.1.finish

theorem agrees_start (dark : screen.presented = none) (settings : Settings) (turns : List Turn) :
    let run := (start settings).1.takeAll turns
    (screen.takeAll (Effect.cues ((start settings).2 ++ run.2))).2.presented = run.1.presented := by
  intro run
  rw [Effect.cues_append, Screen.takeAll_append]
  exact (coherent_start settings).agrees_takeAll dark turns

/-- However a connection went, nothing is presented once it has ended. -/
theorem dark_sittings (dark : screen.presented = none) (past : List (Settings × List Turn)) :
    (screen.takeAll (past.flatMap fun x => sitting x.1 x.2)).2.presented = none := by
  induction past generalizing screen with
  | nil => exact dark
  | cons x past ih =>
    rw [List.flatMap_cons, Screen.takeAll_append]
    refine ih ?_
    rw [sitting, Screen.takeAll_append]
    rfl

theorem stable_counted : Session.Stable fun s => s.scrollback.Counted where
  start _ _ capacity := Session.Scrollback.counted_empty capacity
  continues s s' continues counted := by
    cases continues with
    | same | listed => exact counted
    | appended output => exact counted.push output

theorem Coherent.written_output (c : d.Coherent) (agrees : screen.presented = d.presented)
    (writable : screen.writable = true) (t : TerminalId) (output : Wire.Payload) :
    (screen.takeAll (Effect.cues (Desk.handle (.report (.terminalOutput t output)) d).2)).1 =
      if d.presented = some t then output.bytes else [] := by
  show (screen.takeAll (Effect.cues (terminalOutput t output.bytes d).2)).1 = _
  unfold terminalOutput
  by_cases presented : d.presented = some t
  · have live : d.sessions.contains t = true := c.contains_of_presented presented
    have cue : Effect.cues [.cue (.output t output.bytes)] = [.output t output.bytes] := rfl
    rw [if_pos live, if_pos presented, if_pos presented, cue]
    simp only [Screen.takeAll, Screen.take, Screen.written, writable, agrees, presented, if_true,
      List.append_nil]
  · rw [if_neg presented]
    split <;> rfl

/-- What is written when a terminal is presented that was not: its heading, then all that is kept of
its output. At most it is told after that which terminals were closed. -/
theorem Coherent.written_presented (c : d.Coherent) (writable : screen.writable = true)
    (op : Operation) (presented : (Desk.handle op d).1.presented = some t)
    (other : d.presented ≠ some t) :
    ∃ s front back, (Desk.handle op d).1.sessions.get? t = some s ∧
      Effect.cues (Desk.handle op d).2 = front ++ .present (some s) :: back ∧
      (screen.takeAll (Effect.cues (Desk.handle op d).2)).1 =
        (screen.take (.present (some s))).1 ++ back.flatMap (Screen.written (some t)) ∧
      ∀ cue ∈ back, Screen.written (some t) cue = [] ∨
        ∃ host u, cue = .event (.terminalClosed host u) := by
  obtain ⟨-, kept⟩ | ⟨front, wanted, back, split, silent, quiet, -, shown, live⟩ := c.presents op
  · exact absurd (kept.symm.trans presented) other
  · obtain ⟨s, rfl, rfl⟩ := Option.map_eq_some_iff.mp (shown.trans presented)
    refine ⟨s, front, back, live s rfl, split, ?_, fun cue mem => ?_⟩
    · rw [split, Screen.takeAll_append, Screen.takeAll_of_silent silent, Screen.takeAll,
        List.nil_append]
      refine congrArg (_ ++ ·) ?_
      exact Screen.written_of_steady (fun cue mem => (quiet cue mem).steady) writable
    · obtain silent | closed := quiet cue mem
      · exact .inl (silent.2 _)
      · exact .inr closed

/-- Ten bytes come while another terminal is presented, and four are kept. -/
example :
    let turns : List Turn :=
      [.operation (.report (.hostConnected ⟨⟨1⟩, "", "", ""⟩)),
        .operation (.report (.terminalAdded ⟨1⟩ ⟨1⟩)),
        .operation (.report (.terminalAdded ⟨1⟩ ⟨2⟩)),
        .operation (.report (.terminalOutput ⟨2⟩ (.text "0123456789"))),
        .operation (.command (.slot 2))]
    (({} : Screen).takeAll (sitting { scrollback := 4 } turns)).1 =
      Screen.line "-- terminal 1 on host 1 --" ++
        Screen.line "-- terminal 2 on host 1 (6 of 10 bytes dropped) --" ++ Text.bytes "6789" := by
  decide +kernel

end Desk

end Switchboard
