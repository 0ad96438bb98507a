import Switchboard.Proofs.Desk.Coherence
import Switchboard.Proofs.Session.Scrollback

/-!
# Accounting for output

What the presenter is shown of a terminal: what was kept when it was presented, then what has come
since. `Accounted.move`: every move keeps the account, and `Accounted.run`: so does every run, with
no byte lost on the way from a report to the screen and none shown twice.
-/

namespace Switchboard

def Record.onScreen : Record → Bool
  | .present .. | .output .. => true
  | _ => false

def Record.isPresent : Record → Bool
  | .present .. => true
  | _ => false

def Record.bytes : Record → Bytes
  | .output _ bs => bs
  | _ => []

def Act.shown? : Act → Option Record
  | .cue c => if c.record.onScreen then some c.record else none
  | _ => none

/-- Events do not get on the screen: what does is the same whoever is subscribed. -/
theorem shown_relayAll (presenter : SubscriberId) (b : Bus) (acts : List Act) :
    ((Effect.cues (b.relayAll presenter acts).2).map Cue.record).filter Record.onScreen =
      acts.filterMap Act.shown? := by
  induction acts generalizing b with
  | nil => rfl
  | cons act acts ih =>
    simp only [Bus.relayAll, Effect.cues_append, List.map_append, List.filter_append, ih]
    rw [List.filterMap_cons]
    cases act with
    | cue c => by_cases on : c.record.onScreen <;> simp [Bus.relay, Effect.cues, Act.shown?, on]
    | send r => simp [Bus.relay, Effect.cues, Act.shown?]
    | publish origin e =>
      have others : ∀ ds : List Delivery, Effect.cues (ds.map .deliver) = [] := by
        intro ds
        simp [Effect.cues, List.filterMap_map]
      simp only [Bus.relay, Effect.cues_append, others, List.nil_append, Act.shown?]
      rw [List.append_left_eq_self, List.filter_eq_nil_iff]
      intro record mem
      obtain ⟨c, inside, rfl⟩ := List.mem_map.mp mem
      simp only [Effect.cues, List.filterMap_map, List.mem_filterMap] at inside
      obtain ⟨delivery, _, same⟩ := inside
      obtain rfl := Option.some.inj same
      simp [Cue.record, Record.onScreen]

namespace Desk

/-! ### What the acts of moves show -/

theorem shown_listingActs (d : Desk) (t : TerminalId) :
    (d.listingActs t).filterMap Act.shown? = [] := by
  unfold listingActs
  repeat' split
  all_goals rfl

theorem shown_endActs (host : HostId) (ts : List TerminalId) :
    (ts.flatMap (endActs host)).filterMap Act.shown? = [] := by
  induction ts with
  | nil => rfl
  | cons t ts ih =>
    rw [List.flatMap_cons, List.filterMap_append, ih]
    rfl

theorem shown_closeActs (d : Desk) (origin : Origin) (host : HostId) (t : TerminalId) :
    (d.closeActs origin host t).filterMap Act.shown? = [] := by
  have slots : (d.hostActs .slotsChanged host).filterMap Act.shown? = [] :=
    filterMap_hostActs (fun _ => rfl) d host
  simp only [closeActs, List.filterMap_append, slots]
  split <;> rfl

theorem shown_publish_if (p : Prop) [Decidable p] (origin : Origin) (e : Event) :
    (if p then [Act.publish origin e] else []).filterMap Act.shown? = [] := by
  split <;> rfl

theorem shown_refreshActs (d : Desk) (origin : Origin) :
    (d.refreshActs origin).filterMap Act.shown? =
      if d.view.changes d.wanted? then [(Cue.present d.wanted?).record] else [] := by
  have files : ∀ ts : List TerminalId,
      ((ts.map (Cue.fileBrowser · true)).map Act.cue).filterMap Act.shown? = [] := by
    intro ts
    simp [List.filterMap_map, Function.comp_def, Act.shown?, Cue.record, Record.onScreen]
  have present : Act.shown? (.cue (.present d.wanted?)) = some (Cue.present d.wanted?).record := by
    cases d.wanted? <;> rfl
  unfold refreshActs
  split
  · simp only [refreshCues, List.map_cons, List.cons_append, List.filterMap_cons, present,
      List.filterMap_append, files]
    rfl
  · rfl

/-! ### The account of the presented terminal -/

def heard (d : Desk) (op : Operation) (reported : TerminalId → Bytes) : TerminalId → Bytes :=
  fun t => if d.sessions.contains t then reported t ++ op.outputOf t else []

/-- The output reported of each terminal since its session started, after more operations. -/
def heardAll (d : Desk) (reported : TerminalId → Bytes) : List Operation → TerminalId → Bytes
  | [] => reported
  | op :: ops => (handle op d).1.heardAll (d.heard op reported) ops

/-- Of every live terminal the newest bytes reported are kept. -/
structure Kept (cap : Nat) (ss : Sessions) (reported : TerminalId → Bytes) : Prop where
  capacity : max 1 ss.capacity = cap
  newest : ∀ t s, ss.get? t = some s →
    s.scrollback.capacity = cap ∧ s.scrollback.retained = Session.newest cap (reported t)

/-- The last records show of a terminal what was kept of it and then what has come since. -/
def Showing (cap : Nat) (t : TerminalId) (reported : Bytes) (shown : List Record) : Prop :=
  ∃ (before : List Record) (dropped retained : Bytes) (outputs : List Bytes),
    shown = before ++ .present (some t) retained :: outputs.map (.output t) ∧
      reported = dropped ++ retained ++ outputs.flatten ∧
        retained.length = min cap (reported.length - outputs.flatten.length)

/-- The last record shows that nothing is presented, if there is one. -/
def Dark (shown : List Record) : Prop :=
  shown = [] ∨ ∃ before retained, shown = before ++ [.present none retained]

/-- The records account for the presented terminal. -/
structure Screened (cap : Nat) (presented : Option TerminalId) (reported : TerminalId → Bytes)
    (shown : List Record) : Prop where
  dark : presented = none → Dark shown
  showing : ∀ t, presented = some t → Showing cap t (reported t) shown

/-- What is kept and what has been shown account for all that was reported. -/
structure Accounted (cap : Nat) (d : Desk) (reported : TerminalId → Bytes)
    (shown : List Record) : Prop where
  kept : Kept cap d.sessions reported
  screened : Screened cap d.view.current reported shown

variable {cap : Nat} {d d' d₁ : Desk} {op : Operation} {acts : List Act} {t : TerminalId}
  {reported reported' : TerminalId → Bytes} {shown : List Record} {ss ss' : Sessions}
  {presented : Option TerminalId}

theorem Kept.mono (k : Kept cap ss reported) (same : ss'.capacity = ss.capacity)
    (old : ∀ t s, ss'.get? t = some s → ∃ s', ss.get? t = some s' ∧ s.scrollback = s'.scrollback)
    (equal : ∀ t, ss.contains t → reported' t = reported t) : Kept cap ss' reported' where
  capacity := same ▸ k.capacity
  newest t s found := by
    obtain ⟨s', found', scrollback⟩ := old t s found
    rw [scrollback, equal t (by simp [Sessions.contains, found'])]
    exact k.newest t s' found'

theorem Screened.congr (s : Screened cap presented reported shown)
    (equal : ∀ t, presented = some t → reported' t = reported t) :
    Screened cap presented reported' shown where
  dark := s.dark
  showing t here := by
    rw [equal t here]
    exact s.showing t here

theorem Kept.present (k : Kept cap ss reported) (shown : List Record) {wanted : Option Session}
    (live : ∀ s, wanted = some s → ss.get? s.id = some s) :
    Screened cap (wanted.map (·.id)) reported (shown ++ [(Cue.present wanted).record]) where
  dark none := by
    obtain rfl := Option.map_eq_none_iff.mp none
    exact Or.inr ⟨shown, [], rfl⟩
  showing t here := by
    obtain ⟨s, rfl, rfl⟩ := Option.map_eq_some_iff.mp here
    have retained := (k.newest s.id s (live s rfl)).2
    refine ⟨shown, (reported s.id).take ((reported s.id).length - cap), s.scrollback.retained, [],
      rfl, ?_, ?_⟩
    · rw [retained, Session.newest, List.take_append_drop, List.flatten_nil, List.append_nil]
    · rw [retained, Session.length_newest]
      simp

theorem Screened.refresh (s : Screened cap d.view.current reported shown)
    (k : Kept cap d.sessions reported) (origin : Origin) :
    Screened cap d.refreshed.view.current reported
      (shown ++ (d.refreshActs origin).filterMap Act.shown?) := by
  rw [shown_refreshActs]
  split
  · exact k.present shown fun _ => wanted?_live
  · rename_i same
    rw [refreshed_of_same (by simpa using same), List.append_nil]
    exact s

theorem Showing.output {reported : Bytes} (s : Showing cap t reported shown) (bs : Bytes) :
    Showing cap t (reported ++ bs) (shown ++ [.output t bs]) := by
  obtain ⟨before, dropped, retained, outputs, rfl, rfl, length⟩ := s
  refine ⟨before, dropped, retained, outputs ++ [bs], by simp, by simp, ?_⟩
  rw [length]
  congr 1
  simp only [List.length_append, List.flatten_append, List.flatten_cons, List.flatten_nil,
    List.append_nil]
  omega

/-! ### Every move keeps the account -/

theorem heard_of_live (quiet : ∀ t, d.sessions.contains t → op.outputOf t = [])
    (live : d.sessions.contains t) : d.heard op reported t = reported t := by
  simp [heard, live, quiet t live]

theorem Accounted.silent (a : Accounted cap d reported shown) (c : d.Coherent)
    (quiet : ∀ t, d.sessions.contains t → op.outputOf t = []) :
    Accounted cap d (d.heard op reported) shown where
  kept := a.kept.mono rfl (fun _ s found => ⟨s, found, rfl⟩) fun _ => heard_of_live quiet
  screened := a.screened.congr fun _ here => heard_of_live quiet (c.contains_of_presented here)

theorem Accounted.unseen (a : Accounted cap d reported shown) (view : d'.view = d.view)
    (kept : Kept cap d'.sessions reported) (unseen : acts.filterMap Act.shown? = []) :
    Accounted cap d' reported (shown ++ acts.filterMap Act.shown?) where
  kept := kept
  screened := by simpa only [view, unseen, List.append_nil] using a.screened

theorem Accounted.seen (a : Accounted cap d₁ reported shown) (origin : Origin)
    (view : d'.view = d₁.refreshed.view) (kept : Kept cap d'.sessions reported)
    (seen : acts.filterMap Act.shown? = (d₁.refreshActs origin).filterMap Act.shown?) :
    Accounted cap d' reported (shown ++ acts.filterMap Act.shown?) where
  kept := kept
  screened := by
    rw [seen, view]
    exact a.screened.refresh a.kept origin

theorem Accounted.withRoster {roster : Roster} (a : Accounted cap d reported shown)
    (moved : d₁ = { d with roster }) : Accounted cap d₁ reported shown := by
  subst moved
  exact ⟨a.kept, a.screened⟩

theorem Kept.foldl_destroy (k : Kept cap ss reported) (ts : List TerminalId) :
    Kept cap (ts.foldl Sessions.destroy ss) reported := by
  refine k.mono (capacity_foldl_destroy ts ss) ?_ fun _ _ => rfl
  intro t s found
  rw [get?_foldl_destroy] at found
  split at found
  · cases found
  · exact ⟨s, found, rfl⟩

theorem Kept.create (k : Kept cap ss reported) (fresh : ss.contains t = false)
    (unheard : reported t = []) (host : HostId) : Kept cap (ss.create t host) reported where
  capacity := by
    rw [← k.capacity, Sessions.create]
    split <;> rfl
  newest u s found := by
    by_cases same : u = t
    · subst same
      rw [Sessions.get?_create_self ss u host fresh] at found
      obtain rfl := Option.some.inj found
      refine ⟨k.capacity, ?_⟩
      rw [unheard, Session.newest_of_length_le (Nat.zero_le _)]
      rfl
    · rw [Sessions.get?_create_of_ne ss host same] at found
      exact k.newest u s found

theorem Kept.list (k : Kept cap ss reported) (t : TerminalId) (path : String)
    (files : List Wire.ListedFile) : Kept cap (ss.list t path files) reported := by
  refine k.mono rfl ?_ fun _ _ => rfl
  intro u s found
  rw [Sessions.get?_list] at found
  obtain ⟨s', found', rfl⟩ := Option.map_eq_some_iff.mp found
  refine ⟨s', found', ?_⟩
  split <;> rfl

theorem Kept.append (k : Kept cap ss reported) (t : TerminalId) (output : Bytes)
    (here : reported' t = reported t ++ output)
    (there : ∀ u, u ≠ t → ss.contains u → reported' u = reported u) :
    Kept cap (ss.append t output) reported' where
  capacity := k.capacity
  newest u s found := by
    rw [Sessions.get?_append] at found
    obtain ⟨s', found', rfl⟩ := Option.map_eq_some_iff.mp found
    obtain ⟨capacity, newest⟩ := k.newest u s' found'
    by_cases same : u = t
    · subst same
      simp only [if_true, Session.append, here]
      refine ⟨capacity, ?_⟩
      rw [Session.Scrollback.retained_push, capacity, newest, Session.newest_newest_append]
    · simp only [same, if_false, there u same (by simp [Sessions.contains, found'])]
      exact ⟨capacity, newest⟩

theorem Accounted.output {output : Wire.Payload} (a : Accounted cap d reported shown)
    (c : d.Coherent) (live : d.sessions.contains t) :
    let op : Operation := .report (.terminalOutput t output)
    let acts : List Act := if d.presented = some t then [.cue (.output t output.bytes)] else []
    Accounted cap { d with sessions := d.sessions.append t output.bytes } (d.heard op reported)
      (shown ++ acts.filterMap Act.shown?) := by
  intro op acts
  have here : d.heard op reported t = reported t ++ output.bytes := by
    simp [heard, live, op, Operation.outputOf]
  have there : ∀ u, u ≠ t → d.sessions.contains u → d.heard op reported u = reported u := by
    intro u other live
    simp [heard, live, op, Operation.outputOf, other.symm]
  refine ⟨a.kept.append t output.bytes here there, ?_⟩
  by_cases presented : d.view.current = some t
  · have seen : acts.filterMap Act.shown? = [.output t output.bytes] := by
      simp only [acts, Desk.presented, presented, if_true]
      rfl
    refine ⟨fun none => ?_, fun u same => ?_⟩
    · exact absurd (presented.symm.trans none) (Option.some_ne_none t)
    · obtain rfl : t = u := Option.some.inj (presented.symm.trans same)
      rw [here, seen]
      exact (a.screened.showing t presented).output output.bytes
  · have unseen : acts = [] := by simp [acts, Desk.presented, presented]
    rw [unseen, List.filterMap_nil, List.append_nil]
    refine a.screened.congr fun u same => there u ?_ (c.contains_of_presented same)
    rintro rfl
    exact presented same

theorem Accounted.grown {host : HostId} {roster : Roster} {selected : Bool} {p : Prop} [Decidable p]
    (a : Accounted cap d reported shown) (fresh : d.sessions.contains t = false)
    (unheard : reported t = [])
    (grown : d₁ = { d with roster, sessions := d.sessions.create t host }) :
    Accounted cap (if selected then d₁.refreshed else d₁) reported
      (shown ++ ([Act.publish .server (.terminalAdded host t)] ++
        d₁.hostActs .slotsChanged host ++
        (if p then [Act.publish .server (.hostSelected roster.current)] else []) ++
        (if selected then d₁.refreshActs .server else [])).filterMap Act.shown?) := by
  have a₁ : Accounted cap d₁ reported shown := by
    subst grown
    exact ⟨a.kept.create fresh unheard host, a.screened⟩
  have slots : (d₁.hostActs .slotsChanged host).filterMap Act.shown? = [] :=
    filterMap_hostActs (fun _ => rfl) d₁ host
  cases selected with
  | true =>
    refine a₁.seen .server rfl a₁.kept ?_
    simp only [List.filterMap_append, slots, shown_publish_if, if_true]
    rfl
  | false =>
    refine a₁.unseen rfl a₁.kept ?_
    simp only [List.filterMap_append, slots, shown_publish_if]
    rfl

theorem Accounted.move (a : Accounted cap d reported shown) (c : d.Coherent)
    (m : Move op d d' acts) :
    Accounted cap d' (d.heard op reported) (shown ++ acts.filterMap Act.shown?) := by
  have silent : (∀ t, op.outputOf t = []) → Accounted cap d (d.heard op reported) shown :=
    fun quiet => a.silent c fun t _ => quiet t
  cases m with
  | ignored quiet =>
    have a' := a.silent c quiet
    exact a'.unseen rfl a'.kept rfl
  | hostConnected outcome grown =>
    have a₁ := (silent fun _ => rfl).withRoster grown
    refine a₁.unseen rfl a₁.kept ?_
    rw [List.filterMap_append, filterMap_hostActs fun _ => rfl, shown_publish_if, List.append_nil]
  | hostDisconnected outcome left =>
    have a₁ := (silent fun _ => rfl).withRoster left
    refine a₁.seen .server (by rw [foldl_forgotten]) ?_ ?_
    · rw [foldl_forgotten]
      exact a₁.kept.foldl_destroy _
    · simp only [List.filterMap_append, shown_endActs, shown_publish_if, List.append_nil]
      exact List.append_nil _
  | terminalRefused | typed | directoryOpened | fileOpened | directoryAsked | noticed =>
    have a' := silent fun _ => rfl
    exact a'.unseen rfl a'.kept rfl
  | terminalAdded fresh outcome grown =>
    exact (silent fun _ => rfl).grown fresh (by simp [heard, fresh]) grown
  | terminalOutput live => exact a.output c live
  | @terminalClosed _ _ _ origin _ _ _ _ why outcome left =>
    have a₁ := (silent fun _ => why.outputOf).withRoster left
    refine a₁.seen origin rfl (a₁.kept.foldl_destroy [_]) ?_
    rw [List.filterMap_append, shown_closeActs, List.append_nil]
  | unheldClosed unheld =>
    have a' := silent fun _ => rfl
    exact a'.unseen rfl (a'.kept.foldl_destroy [_]) rfl
  | directoryListing listed =>
    have a' := silent fun _ => rfl
    subst listed
    refine a'.unseen rfl (a'.kept.list _ _ _) ?_
    rw [List.filterMap_eq_nil_iff]
    intro act mem
    obtain ⟨s, _, rfl⟩ := Option.map_eq_some_iff.mp (Option.mem_toList.mp mem)
    rfl
  | hostSelected outcome moved =>
    have a₁ := (silent fun _ => rfl).withRoster moved
    refine a₁.seen .presenter rfl a₁.kept ?_
    rw [List.filterMap_append, shown_publish_if, List.nil_append]
  | terminalRequested outcome asked =>
    have a₁ := (silent fun _ => rfl).withRoster asked
    exact a₁.unseen rfl a₁.kept (filterMap_hostActs (fun _ => rfl) _ _)
  | slotSelected outcome moved =>
    have a₁ := (silent fun _ => rfl).withRoster moved
    refine a₁.seen .presenter rfl a₁.kept ?_
    rw [List.filterMap_append, List.filterMap_append, filterMap_hostActs fun _ => rfl]
    rfl
  | slotToggled outcome flipped =>
    have a₁ := (silent fun _ => rfl).withRoster flipped
    refine a₁.unseen rfl a₁.kept ?_
    rw [List.filterMap_append, List.filterMap_append, filterMap_hostActs fun _ => rfl]
    split
    · exact shown_listingActs _ _
    · rfl
  | resized live other =>
    have a' := silent fun _ => rfl
    exact a'.unseen rfl a'.kept rfl

/-! ### Every run keeps the account -/

theorem Accounted.asks {more : List Act} (a : Accounted cap d reported shown)
    {greeted : Option (HostId × Roster)} (asked : Asks greeted d d' more) :
    Accounted cap d' reported (shown ++ more.filterMap Act.shown?) := by
  rcases asks_cases asked with ⟨rfl, rfl⟩ | ⟨host, slot, roster, -, moved, rfl⟩
  · exact a.unseen rfl a.kept rfl
  · have a₁ := a.withRoster moved
    exact a₁.unseen rfl a₁.kept (filterMap_hostActs (fun _ => rfl) _ _)

theorem heard_meaning (d : Desk) (op : Operation) (reported : TerminalId → Bytes) :
    d.heard (d.meaning op) reported = d.heard op reported := by
  cases op with
  | report | intent => rfl
  | command c =>
    simp only [meaning]
    split <;> rfl

def onScreen (es : List Effect) : List Record :=
  ((Effect.cues es).map Cue.record).filter Record.onScreen

theorem onScreen_append (es more : List Effect) :
    onScreen (es ++ more) = onScreen es ++ onScreen more := by
  simp [onScreen, Effect.cues_append]

theorem Accounted.handle (a : Accounted cap d reported shown) (c : d.Coherent) (op : Operation) :
    Accounted cap (handle op d).1 (d.heard op reported) (shown ++ onScreen (handle op d).2) := by
  obtain ⟨d₁, acts, d₂, more, m, asks, e⟩ := handle_moves op d
  rw [e.eq, onScreen, shown_relayAll, List.filterMap_append, ← List.append_assoc,
    ← heard_meaning]
  have a' := (a.move c m).asks asks
  exact ⟨a'.kept, a'.screened⟩

theorem Accounted.run (a : Accounted cap d reported shown) (c : d.Coherent)
    (ops : List Operation) :
    Accounted cap (d.after ops) (d.heardAll reported ops) (shown ++ onScreen (d.run ops).2) := by
  induction ops generalizing d reported shown with
  | nil =>
    rw [run_nil, show onScreen [] = [] from rfl, List.append_nil]
    exact a
  | cons op ops ih =>
    rw [run_cons, onScreen_append, ← List.append_assoc]
    exact ih (a.handle c op) (c.handle op)

theorem accounted_start (settings : Settings) :
    Accounted (max 1 settings.scrollback) (start settings).1 (fun _ => []) [] where
  kept := ⟨rfl, fun t s found => by simp [start, Sessions.get?] at found⟩
  screened := ⟨fun _ => Or.inl rfl, fun t here => by simp [start] at here⟩

/-- While a terminal stays live, what is reported of it adds up. -/
theorem heardAll_of_live (d : Desk) (reported : TerminalId → Bytes) (ops : List Operation)
    (live : ∀ before op after, ops = before ++ op :: after →
      (d.after before).sessions.contains t) :
    d.heardAll reported ops t = reported t ++ ops.flatMap (Operation.outputOf t) := by
  induction ops generalizing d reported with
  | nil => simp [heardAll]
  | cons op ops ih =>
    have first : d.sessions.contains t := live [] op ops rfl
    rw [heardAll, ih, List.flatMap_cons, ← List.append_assoc]
    · simp [heard, first]
    · rintro before op' after rfl
      exact live (op :: before) op' after rfl

/-! ### What the log shows -/

theorem bytes_filter_onScreen (log : List Record) :
    (log.filter Record.onScreen).flatMap Record.bytes = log.flatMap Record.bytes := by
  induction log with
  | nil => rfl
  | cons record log ih =>
    cases record <;> simp [List.filter_cons, Record.onScreen, Record.bytes, ih]

theorem exists_of_filter_eq {p : Record → Bool} {log before after : List Record} {record : Record}
    (split : log.filter p = before ++ record :: after) :
    ∃ front back, log = front ++ record :: back ∧ back.filter p = after := by
  obtain ⟨front, rest, rfl, _, tail⟩ := List.filter_eq_append_iff.mp split
  obtain ⟨more, back, rfl, _, _, same⟩ := List.filter_eq_cons_iff.mp tail
  exact ⟨front ++ more, back, by simp, same⟩

theorem Dark.quiet {log after : List Record} {u : TerminalId} {bs : Bytes}
    (dark : Dark (log.filter Record.onScreen)) (suffix : after <:+ log)
    (quiet : ∀ record ∈ after, record.isPresent = false) : .output u bs ∉ after := by
  intro mem
  rcases dark with nothing | ⟨before, retained, split⟩
  · have off := List.filter_eq_nil_iff.mp nothing _ (suffix.subset mem)
    simp [Record.onScreen] at off
  · obtain ⟨front, back, rfl, nothing⟩ := exists_of_filter_eq split
    have inside : Record.present none retained ∉ after := by
      intro here
      cases quiet _ here
    rcases List.suffix_or_suffix_of_suffix suffix (List.suffix_append front _) with short | long
    · rcases List.suffix_cons_iff.mp short with rfl | short
      · exact inside List.mem_cons_self
      · have off := List.filter_eq_nil_iff.mp nothing _ (short.subset mem)
        simp [Record.onScreen] at off
    · exact inside (long.subset List.mem_cons_self)

def log (settings : Settings) (ops : List Operation) : List Record :=
  (Effect.cues ((start settings).2 ++ ((start settings).1.run ops).2)).map Cue.record

def reportedOutput (settings : Settings) (ops : List Operation) : TerminalId → Bytes :=
  (start settings).1.heardAll (fun _ => []) ops

end Desk

end Switchboard
