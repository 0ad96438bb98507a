import Switchboard.Proofs.Desk.Record

/-!
# Drawing the hosts from the log

A presenter that keeps a row of slots for each host can draw them from its log alone: every record
of a host fits what was drawn before, and after each operation the rows are those of the roster.
-/

namespace Switchboard

/-- What a presenter draws: a row for each host, and which terminal is presented. -/
structure Canvas where
  rows : List (HostId × List SlotState) := []
  presented : Option TerminalId := none
deriving DecidableEq, Repr

namespace Canvas

variable {cap : Nat} {c c' : Canvas} {log more : List Record}

def hosts (c : Canvas) : List HostId := c.rows.map Prod.fst

/-- Draws a record. A row can be added for a host that has none, and changed or removed for a host
that has one. -/
def draw? (cap : Nat) (c : Canvas) : Record → Option Canvas
  | .hostAdded host =>
    if host ∈ c.hosts then none
    else some { c with rows := c.rows ++ [(host, if cap = 0 then [] else [.idle])] }
  | .slotsChanged host states =>
    if host ∈ c.hosts then
      some { c with rows := c.rows.map fun row => if row.1 = host then (host, states) else row }
    else none
  | .hostRemoved host =>
    if host ∈ c.hosts then some { c with rows := c.rows.filter (·.1 ≠ host) } else none
  | .present t _ => some { c with presented := t }
  | _ => some c

def replay? (cap : Nat) (c : Canvas) (log : List Record) : Option Canvas := log.foldlM (draw? cap) c

@[simp]
theorem replay?_nil (c : Canvas) : c.replay? cap [] = some c := rfl

@[simp]
theorem replay?_cons (c : Canvas) (r : Record) (log : List Record) :
    c.replay? cap (r :: log) = (c.draw? cap r).bind (·.replay? cap log) := rfl

theorem replay?_append (c : Canvas) (log more : List Record) :
    c.replay? cap (log ++ more) = (c.replay? cap log).bind (·.replay? cap more) :=
  List.foldlM_append

theorem replay?_filter (c : Canvas) (log : List Record) :
    c.replay? cap (log.filter (!·.isEvent)) = c.replay? cap log := by
  induction log generalizing c with
  | nil => rfl
  | cons r log ih =>
    cases event : r.isEvent with
    | true =>
      obtain ⟨e, rfl⟩ := Record.isEvent_iff.mp event
      simpa [event, draw?] using ih c
    | false => simp [event, ih]

end Canvas

namespace Roster

variable {r r' : Roster} {id : HostId} {h h' : Host} {t : TerminalId} {slot : SlotId}

def rows (r : Roster) : List (HostId × List SlotState) :=
  r.hosts.map fun h => (h.id, h.slots.map Slot.state)

/-- No row but that of one connected host has changed. -/
def Redraws (r r' : Roster) (id : HostId) : Prop :=
  ∃ h h', r.host? id = some h ∧ h'.id = id ∧ r'.hosts = (r.put h').hosts

theorem Redraws.of_put {next : Nat} {current : Option HostId} (found : r.host? id = some h)
    (same : h'.id = h.id) : r.Redraws { r.put h' with next, current } id :=
  ⟨h, h', found, same.trans (id_of_host? found), rfl⟩

theorem redraws_attach {requested selected : Bool}
    (outcome : r.attach id t = (.attached slot requested selected, r')) : r.Redraws r' id := by
  have case := r.attach_cases id t
  rw [outcome] at case
  cases case with
  | answer h s found => exact .of_put found (Host.id_settle _ _ _)
  | join h found => exact .of_put found (Host.id_settle _ _ _)

theorem redraws_request (outcome : r.request id = (some slot, r')) : r.Redraws r' id := by
  have case := r.request_cases id
  rw [outcome] at case
  cases case with
  | accepted h s found => exact .of_put found rfl

theorem redraws_selectSlot {what : SelectOutcome} (acted : what ≠ .ignored)
    (outcome : r.selectSlot id slot = (what, r')) : r.Redraws r' id := by
  have case := r.selectSlot_cases id slot
  rw [outcome] at case
  cases case with
  | unknownHost | unbound => exact absurd rfl acted
  | toggled h s t face found => exact .of_put found rfl
  | selected h s t found => exact .of_put found rfl

theorem redraws_closeSlot {closed : ClosedSlot}
    (outcome : r.closeSlot id slot = (some closed, r')) : r.Redraws r' id := by
  have case := r.closeSlot_cases id slot
  rw [outcome] at case
  cases case with
  | closed h s t found => exact .of_put found (Host.id_settle _ _ _)

theorem host?_congr (same : r'.hosts = r.hosts) (id : HostId) : r'.host? id = r.host? id := by
  rw [host?, same, host?]

theorem mem_rows_iff : id ∈ r.rows.map Prod.fst ↔ (r.host? id).isSome := by
  simp [rows, host?]

/-- The new row is that of the host as it is found after the change. -/
theorem Redraws.rows (redraws : r.Redraws r' id) :
    ∃ h, r'.host? id = some h ∧ h.id = id ∧ r'.rows = r.rows.map fun row =>
      if row.1 = id then (id, h.slots.map Slot.state) else row := by
  obtain ⟨h, h', found, same, hosts⟩ := redraws
  refine ⟨h', (host?_congr hosts id).trans (host?_put_self found same), same, ?_⟩
  simp only [Roster.rows, hosts, put, List.map_map, List.map_inj_left, Function.comp_apply, same]
  intro x _
  split <;> simp [*]

theorem rows_addHost {info : HostInfo} (fresh : r.host? info.id = none) :
    (r.addHost info).2.rows = r.rows ++ [(info.id, if r.cap = 0 then [] else [.idle])] := by
  have states : (r.newcomer info).1.slots.map Slot.state =
      if r.cap = 0 then [] else [.idle] := by
    by_cases none : r.cap = 0
    · simp [newcomer, Host.settle, none]
    · have room : 0 < r.cap := Nat.pos_of_ne_zero none
      simp [newcomer, Host.settle, Host.sessionCount, Host.terminals, Host.free?, Slot.offer, none,
        room]
  simp [rows, addHost_of_fresh fresh, states]

theorem rows_removeHost {removed : RemovedHost} (outcome : r.removeHost id = (some removed, r')) :
    r'.rows = r.rows.filter (·.1 ≠ id) := by
  rw [removeHost_of_known (host?_of_removeHost outcome)] at outcome
  obtain rfl := congrArg Prod.snd outcome
  simp [rows, List.filter_map, Function.comp_def]

end Roster

namespace Desk

variable {cap : Nat} {d d' d₁ : Desk} {op : Operation} {acts more : List Act} {host : HostId}
  {c c₁ c' : Canvas}

/-- The canvas that shows a desk. -/
def canvas (d : Desk) : Canvas := { rows := d.roster.rows, presented := d.presented }

/-- The records of acts turn one canvas into another. -/
def Draws (cap : Nat) (c : Canvas) (acts : List Act) (c' : Canvas) : Prop :=
  c.replay? cap (Act.records acts) = some c'

theorem Draws.append (first : Draws cap c acts c₁) (rest : Draws cap c₁ more c') :
    Draws cap c (acts ++ more) c' := by
  rw [Draws, Act.records_append, Canvas.replay?_append, first]
  exact rest

theorem draws_nothing (c : Canvas) (silent : Act.records acts = []) : Draws cap c acts c := by
  rw [Draws, silent, Canvas.replay?_nil]

theorem draws_publish_if (c : Canvas) (p : Prop) [Decidable p] (origin : Origin) (e : Event) :
    Draws cap c (if p then [.publish origin e] else []) c := draws_nothing c (by simp)

/-! ### What each part of a move draws -/

theorem draws_refresh (d : Desk) (origin : Origin) (view : c.presented = d.presented) :
    Draws cap c (d.refreshActs origin) { c with presented := d.refreshed.presented } := by
  rw [Draws, records_refreshActs]
  split
  · obtain ⟨retained, present⟩ := Cue.record_present d.wanted?
    simp only [refreshCues, List.map_cons, present, Canvas.replay?_cons]
    cases (d.wanted?.map (·.id)).filter d.showsFiles <;> rfl
  · rename_i same
    rw [refreshed_of_same (by simpa using same), Canvas.replay?_nil, ← view]

theorem draws_added {info : HostInfo} {r : Roster} (same : r.cap = cap)
    (outcome : r.addHost info = (true, d.roster)) (rows : c.rows = r.rows) :
    Draws cap c (d.hostActs .hostAdded info.id) { c with rows := d.roster.rows } := by
  obtain ⟨_, refused⟩ | ⟨fresh, _⟩ := r.addHost_cases info
  · simp [refused] at outcome
  have grown := Roster.rows_addHost fresh
  have found := Roster.host?_addHost fresh info.id
  rw [outcome, if_pos rfl] at found
  rw [outcome, same, ← rows] at grown
  have absent : info.id ∉ c.hosts := by simp [Canvas.hosts, rows, Roster.mem_rows_iff, fresh]
  rw [Draws, records_hostActs found]
  simp [Cue.record, Canvas.draw?, absent, grown]

theorem draws_removed {r r' : Roster} {removed : RemovedHost}
    (outcome : r.removeHost host = (some removed, r')) (rows : c.rows = r.rows) :
    Draws cap c [.cue (.hostRemoved host)] { c with rows := r'.rows } := by
  have left := Roster.rows_removeHost outcome
  have drawn : host ∈ c.hosts := by
    simp [Canvas.hosts, rows, Roster.mem_rows_iff, Roster.host?_of_removeHost outcome]
  simp [Draws, Cue.record, Canvas.draw?, drawn, rows, left]

theorem draws_slots {r : Roster} (redraws : r.Redraws d.roster host) (rows : c.rows = r.rows) :
    Draws cap c (d.hostActs .slotsChanged host) { c with rows := d.roster.rows } := by
  obtain ⟨h, found, same, changed⟩ := redraws.rows
  obtain ⟨x, _, there, _⟩ := redraws
  have drawn : host ∈ c.hosts := by simp [Canvas.hosts, rows, Roster.mem_rows_iff, there]
  rw [Draws, records_hostActs found]
  simp [Cue.record, Canvas.draw?, drawn, same, rows, changed]

theorem draws_listing (d : Desk) (t : TerminalId) (c : Canvas) :
    Draws cap c (d.listingActs t) c := by
  unfold listingActs
  repeat' split
  all_goals rfl

/-- Every move draws the desk after it over the one before. -/
theorem Move.draws (m : Move op d d' acts) (same : d.roster.cap = cap) :
    Draws cap d.canvas acts d'.canvas := by
  cases m with
  | @hostConnected _ _ info roster outcome grown =>
    subst grown
    exact Draws.append (draws_added same outcome rfl) (draws_publish_if _ _ _ _)
  | @hostDisconnected _ _ host removed roster outcome left =>
    rw [foldl_forgotten]
    subst left
    exact Draws.append (Draws.append (Draws.append (draws_refresh _ _ rfl)
      (draws_nothing _ (by simp))) (draws_removed outcome rfl)) (draws_publish_if _ _ _ _)
  | @terminalAdded _ _ host t _ _ selected roster fresh outcome grown =>
    have redraws := Roster.redraws_attach outcome
    subst grown
    refine Draws.append (Draws.append (Draws.append (draws_nothing _ rfl)
      (draws_slots redraws rfl)) (draws_publish_if _ _ _ _)) ?_
    cases selected with
    | true => exact draws_refresh _ _ rfl
    | false => rfl
  | @terminalClosed _ _ _ origin host slot closed roster why outcome left =>
    have redraws := Roster.redraws_closeSlot outcome
    subst left
    refine Draws.append (draws_refresh _ _ rfl) ?_
    rw [Draws, records_closeActs]
    exact draws_slots redraws rfl
  | @directoryListing _ t path files sessions listed =>
    cases sessions.get? t <;> rfl
  | @hostSelected _ _ host roster outcome moved =>
    obtain ⟨_, same⟩ | ⟨_, same⟩ := d.roster.selectHost_cases host
    · simp [same] at outcome
    obtain rfl := congrArg Prod.snd (same.symm.trans outcome)
    subst moved
    exact Draws.append (draws_publish_if _ _ _ _) (draws_refresh _ _ rfl)
  | @terminalRequested _ _ host slot roster outcome asked =>
    have redraws := Roster.redraws_request outcome
    subst asked
    rw [Draws, Act.records_send]
    exact draws_slots redraws rfl
  | @slotSelected _ _ host slot t roster outcome moved =>
    have redraws := Roster.redraws_selectSlot (by simp) outcome
    subst moved
    exact Draws.append (Draws.append (draws_slots redraws rfl) (draws_nothing _ rfl))
      (draws_refresh _ _ rfl)
  | @slotToggled _ _ host slot t face roster outcome flipped =>
    have redraws := Roster.redraws_selectSlot (by simp) outcome
    subst flipped
    have slots : Draws cap d.canvas (({ d with roster } : Desk).hostActs .slotsChanged host)
      ⟨roster.rows, d.presented⟩ := draws_slots redraws rfl
    refine Draws.append (slots.append (by exact rfl)) ?_
    split
    · exact draws_listing _ _ _
    · rfl
  | terminalOutput => split <;> rfl
  | _ => rfl

/-! ### What a run draws -/

theorem Asks.draws {greeted : Option (HostId × Roster)} (a : Asks greeted d d' acts)
    (same : d.roster.cap = cap) :
    Draws cap d.canvas acts d'.canvas := by
  cases a with
  | nothing => exact draws_nothing _ rfl
  | terminal m => exact m.draws same

theorem handle_draws (op : Operation) (d : Desk) (same : d.roster.cap = cap) :
    d.canvas.replay? cap (Effect.records (handle op d).2) = some (handle op d).1.canvas := by
  obtain ⟨d₁, acts, d₂, more, m, asks, e⟩ := handle_moves op d
  have drawn := (m.draws same).append (asks.draws (m.cap.trans same))
  have canvas : (handle op d).1.canvas = d₂.canvas := by
    rw [e.eq]
    rfl
  rw [← Canvas.replay?_filter, e.records, Canvas.replay?_filter, canvas]
  exact drawn

theorem takeAll_draws (d : Desk) (turns : List Turn) (same : d.roster.cap = cap) :
    d.canvas.replay? cap (Effect.records (d.takeAll turns).2) =
      some (d.takeAll turns).1.canvas := by
  induction turns generalizing d with
  | nil => rfl
  | cons turn turns ih =>
    cases turn with
    | operation op =>
      rw [takeAll_operation, Effect.records_append, Canvas.replay?_append, handle_draws op d same,
        Option.bind_some]
      exact ih _ ((cap_handle op d).trans same)
    | enrolment e =>
      have canvas : (d.enrol e).canvas = d.canvas := by cases e <;> rfl
      rw [takeAll_enrolment, ← canvas]
      exact ih _ (by rwa [roster_enrol])

/-- The log of a presenter draws what is on the desk. Whatever happens and whoever else is
subscribed, no record adds a row for a host that has one, or changes or removes a row that is not
there; and after each operation the rows are those of the connected hosts in order of connection,
each with the states of its slots, and the terminal that is presented is the active one. -/
theorem log_draws_desk (settings : Settings) (turns : List Turn) :
    let run := (start settings).1.takeAll turns
    let log := Effect.records ((start settings).2 ++ run.2)
    Canvas.replay? settings.cap {} log = some {
      rows := run.1.roster.hosts.map fun h => (h.id, h.slots.map Slot.state)
      presented := run.1.presented } ∧
    run.1.presented = run.1.roster.active? := by
  intro run log
  have drawn : Canvas.replay? settings.cap _ _ = _ := takeAll_draws (start settings).1 turns rfl
  have c : run.1.Coherent := ((coherent_start settings).history turns).1
  refine ⟨?_, c.view⟩
  rw [show log = _ from Effect.records_append _ _, Canvas.replay?_append]
  exact drawn

end Desk

end Switchboard
