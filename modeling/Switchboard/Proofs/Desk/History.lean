import Switchboard.Proofs.Desk.Announcement

/-!
# The history of a run

The operations of a run, each with the desk that it met, and the requests that are sent meanwhile.
What is sent does not depend on who is subscribed.
-/

namespace Switchboard

namespace Act

def request? : Act → Option Wire.Request
  | .send r => some r
  | _ => none

def requests (acts : List Act) : List Wire.Request := acts.filterMap request?

@[simp]
theorem requests_nil : requests [] = [] := rfl

@[simp]
theorem requests_append (acts more : List Act) :
    requests (acts ++ more) = requests acts ++ requests more := List.filterMap_append

@[simp]
theorem requests_send (r : Wire.Request) (acts : List Act) :
    requests (.send r :: acts) = r :: requests acts := rfl

@[simp]
theorem requests_cue (c : Cue) (acts : List Act) : requests (.cue c :: acts) = requests acts := rfl

@[simp]
theorem requests_publish (origin : Origin) (e : Event) (acts : List Act) :
    requests (.publish origin e :: acts) = requests acts := rfl

@[simp]
theorem requests_cues (cs : List Cue) : requests (cs.map .cue) = [] := by
  induction cs with
  | nil => rfl
  | cons c cs ih => simpa using ih

@[simp]
theorem requests_ite (p : Prop) [Decidable p] (acts more : List Act) :
    requests (if p then acts else more) = if p then requests acts else requests more :=
  apply_ite requests p acts more

end Act

theorem requests_relayAll (presenter : SubscriberId) (b : Bus) (acts : List Act) :
    Effect.requests (b.relayAll presenter acts).2 = Act.requests acts := by
  induction acts generalizing b with
  | nil => rfl
  | cons act acts ih =>
    simp only [Bus.relayAll, Effect.requests_append, ih]
    cases act with
    | cue c => rfl
    | send r => rfl
    | publish origin e =>
      rw [Act.requests_publish]
      simp [Bus.relay, Effect.requests, List.filterMap_map]

namespace Desk

variable {d d' d₁ : Desk} {op : Operation} {acts : List Act} {turns : List Turn} {host : HostId}
  {t : TerminalId}

/-! ### What acts send -/

@[simp]
theorem requests_hostActs (d : Desk) (cue : Host → Cue) (host : HostId) :
    Act.requests (d.hostActs cue host) = [] := filterMap_hostActs (fun _ => rfl) d host

@[simp]
theorem requests_refreshActs (d : Desk) (origin : Origin) :
    Act.requests (d.refreshActs origin) = [] := by
  unfold refreshActs
  split <;> simp

@[simp]
theorem requests_endActs (host : HostId) (ts : List TerminalId) :
    Act.requests (ts.flatMap (endActs host)) = ts.map .closeTerminal := by
  induction ts with
  | nil => rfl
  | cons t ts ih => simp [endActs, ih]

@[simp]
theorem requests_closeActs (d : Desk) (origin : Origin) (host : HostId) (t : TerminalId) :
    Act.requests (d.closeActs origin host t) =
      if origin = .presenter then [.closeTerminal t] else [] := by
  cases origin <;> simp [closeActs]

theorem notMem_listingActs {r : Wire.Request} (other : r ≠ .file t Remote.root true) :
    r ∉ Act.requests (d.listingActs t) := by
  unfold listingActs
  repeat' split
  all_goals simp [other]

theorem Enacts.requests {step : Step} (e : Enacts step d d₁ acts) :
    Effect.requests (step d).2 = Act.requests acts := by
  rw [e.eq, requests_relayAll]

/-! ### Runs -/

/-- The operations of a run, each with the desk on which it is done. -/
def done (d : Desk) : List Turn → List (Desk × Operation)
  | [] => []
  | .operation op :: turns => (d, op) :: (handle op d).1.done turns
  | .enrolment e :: turns => (d.enrol e).done turns

theorem takeAll_operation (d : Desk) (op : Operation) (turns : List Turn) :
    d.takeAll (.operation op :: turns) =
      (((handle op d).1.takeAll turns).1, (handle op d).2 ++ ((handle op d).1.takeAll turns).2) :=
  rfl

theorem takeAll_enrolment (d : Desk) (e : Enrolment) (turns : List Turn) :
    d.takeAll (.enrolment e :: turns) = (d.enrol e).takeAll turns := rfl

theorem takeAll_append (d : Desk) (turns more : List Turn) :
    d.takeAll (turns ++ more) =
      (((d.takeAll turns).1.takeAll more).1,
        (d.takeAll turns).2 ++ ((d.takeAll turns).1.takeAll more).2) := by
  simp only [takeAll, List.map_append, perform_append]

theorem done_append (d : Desk) (turns more : List Turn) :
    d.done (turns ++ more) = d.done turns ++ (d.takeAll turns).1.done more := by
  induction turns generalizing d with
  | nil => rfl
  | cons turn turns ih =>
    cases turn with
    | operation op => exact congrArg ((d, op) :: ·) (ih _)
    | enrolment e => exact ih _

theorem operation_mem_of_mem_done {x : Desk × Operation} (mem : x ∈ d.done turns) :
    .operation x.2 ∈ turns := by
  induction turns generalizing d with
  | nil => cases mem
  | cons turn turns ih =>
    cases turn with
    | operation op =>
      rcases List.mem_cons.mp mem with rfl | later
      · exact List.mem_cons_self
      · exact List.mem_cons_of_mem _ (ih later)
    | enrolment e => exact List.mem_cons_of_mem _ (ih mem)

/-- What every operation and every change of subscribers keeps holds all along a run. -/
theorem takeAll_induction {P : Desk → Prop} (operation : ∀ d op, P d → P (handle op d).1)
    (enrolment : ∀ d e, P d → P (d.enrol e)) (first : P d) (turns : List Turn) :
    P (d.takeAll turns).1 ∧ ∀ x ∈ d.done turns, P x.1 := by
  induction turns generalizing d with
  | nil => exact ⟨first, fun x mem => by cases mem⟩
  | cons turn turns ih =>
    cases turn with
    | operation op =>
      obtain ⟨last, all⟩ := ih (operation d op first)
      exact ⟨last, List.forall_mem_cons.mpr ⟨first, all⟩⟩
    | enrolment e => exact ih (enrolment d e first)

/-- The effects of a run are those of its operations. -/
theorem effects_takeAll (d : Desk) (turns : List Turn) :
    (d.takeAll turns).2 = (d.done turns).flatMap fun x => (handle x.2 x.1).2 := by
  induction turns generalizing d with
  | nil => rfl
  | cons turn turns ih =>
    cases turn with
    | operation op => rw [takeAll_operation, ih, done, List.flatMap_cons]
    | enrolment e => rw [takeAll_enrolment, ih, done]

theorem requests_takeAll (d : Desk) (turns : List Turn) :
    Effect.requests (d.takeAll turns).2 =
      (d.done turns).flatMap fun x => Effect.requests (handle x.2 x.1).2 := by
  rw [effects_takeAll, Effect.requests, List.filterMap_flatMap]
  rfl

/-- Who is subscribed is no matter of the roster. -/
theorem roster_enrol (d : Desk) (e : Enrolment) : (d.enrol e).roster = d.roster := by
  cases e <;> rfl

theorem presenter_handle (op : Operation) (d : Desk) :
    (handle op d).1.presenter = d.presenter := by
  obtain ⟨d₁, acts, d₂, more, _, _, e⟩ := handle_moves op d
  rw [e.eq]
  exact e.presenter

theorem Coherent.enrol (c : d.Coherent) (e : Enrolment) : (d.enrol e).Coherent := by
  cases e <;> exact c.withBus _

theorem Coherent.history (c : d.Coherent) (turns : List Turn) :
    (d.takeAll turns).1.Coherent ∧ ∀ x ∈ d.done turns, x.1.Coherent :=
  takeAll_induction (fun _ op c => c.handle op) (fun _ e c => c.enrol e) c turns

/-! ### The roster and its cap -/

/-- A move makes one change of the roster or none. -/
theorem Move.roster (m : Move op d d' acts) :
    d'.roster = d.roster ∨ ∃ e, d'.roster = d.roster.edit e := by
  cases m with
  | hostConnected outcome grown =>
    subst grown
    exact Or.inr ⟨.addHost _, (congrArg Prod.snd outcome).symm⟩
  | hostDisconnected outcome left =>
    rw [foldl_forgotten]
    subst left
    exact Or.inr ⟨.removeHost _, (congrArg Prod.snd outcome).symm⟩
  | @terminalAdded _ _ _ _ _ _ selected _ _ outcome grown =>
    subst grown
    cases selected <;> exact Or.inr ⟨.attach _ _, (congrArg Prod.snd outcome).symm⟩
  | terminalClosed why outcome left =>
    subst left
    exact Or.inr ⟨.closeSlot _ _, (congrArg Prod.snd outcome).symm⟩
  | hostSelected outcome moved =>
    subst moved
    exact Or.inr ⟨.selectHost _, (congrArg Prod.snd outcome).symm⟩
  | terminalRequested outcome asked =>
    subst asked
    exact Or.inr ⟨.request _, (congrArg Prod.snd outcome).symm⟩
  | slotSelected outcome moved | slotToggled outcome moved =>
    subst moved
    exact Or.inr ⟨.selectSlot _ _, (congrArg Prod.snd outcome).symm⟩
  | _ => exact Or.inl rfl

theorem Move.cap (m : Move op d d' acts) : d'.roster.cap = d.roster.cap := by
  rcases m.roster with same | ⟨e, same⟩
  · rw [same]
  · rw [same, d.roster.cap_edit e]

theorem cap_handle (op : Operation) (d : Desk) : (handle op d).1.roster.cap = d.roster.cap := by
  obtain ⟨d₁, acts, d₂, more, m, asks, e⟩ := handle_moves op d
  rw [e.eq]
  cases asks with
  | nothing => exact m.cap
  | terminal m' => exact m'.cap.trans m.cap

theorem cap_history (settings : Settings) (turns : List Turn) :
    ((start settings).1.takeAll turns).1.roster.cap = settings.cap ∧
      ∀ x ∈ (start settings).1.done turns, x.1.roster.cap = settings.cap := by
  refine takeAll_induction (P := fun d => d.roster.cap = settings.cap)
    (fun d op same => (cap_handle op d).trans same) (fun d e same => ?_) rfl turns
  rwa [roster_enrol]

/-! ### Which terminals are held after an operation -/

/-- No move but its addition makes a host hold a terminal. -/
theorem Coherent.holds_of_move (c : d.Coherent) (m : Move op d d' acts)
    (other : op ≠ .report (.terminalAdded host t)) (held : d'.roster.Holds host t) :
    d.roster.Holds host t := by
  have owner := ((c.move m).owners t host).mpr held
  refine (c.owners t host).mp ?_
  cases m with
  | @hostDisconnected _ _ id removed _ outcome left =>
    rw [foldl_forgotten] at owner
    subst left
    have left := (owner?_foldl_destroy removed.host.terminals d.sessions t).symm.trans owner
    exact (Option.ite_none_left_eq_some.mp left).2
  | @terminalAdded _ _ id u _ _ selected _ fresh outcome grown =>
    subst grown
    have grown : (d.sessions.create u id).owner? t = some host := by
      cases selected <;> exact owner
    rw [Sessions.owner?_create fresh] at grown
    split at grown
    · rename_i same
      exact absurd (by rw [same, Option.some.inj grown]) other
    · exact grown
  | terminalOutput => exact Sessions.owner?_append d.sessions _ t _ ▸ owner
  | terminalClosed why outcome left =>
    subst left
    exact (Option.ite_none_left_eq_some.mp ((Sessions.owner?_destroy _ _ t).symm.trans owner)).2
  | unheldClosed =>
    exact (Option.ite_none_left_eq_some.mp ((Sessions.owner?_destroy _ _ t).symm.trans owner)).2
  | @directoryListing _ u path files sessions listed =>
    subst listed
    exact Sessions.owner?_list d.sessions _ t _ _ ▸ owner
  | hostConnected outcome moved | hostSelected outcome moved | slotSelected outcome moved
  | slotToggled outcome moved | terminalRequested outcome moved =>
    subst moved
    exact owner
  | _ => exact owner

theorem report_of_meaning {report : Wire.Report} (same : d.meaning op = .report report) :
    op = .report report := by
  cases op with
  | command c =>
    simp only [meaning] at same
    split at same <;> cases same
  | _ => exact same

theorem handle_of_meaning {i : Intent} (same : d.meaning op = .intent i) :
    handle op d = handleIntent i d := by
  cases op with
  | report r => cases same
  | intent j =>
    obtain rfl : j = i := by simpa [meaning] using same
    rfl
  | command c =>
    simp only [meaning] at same
    split at same
    · rename_i j stands
      obtain rfl : j = i := by simpa using same
      show handleCommand c d = _
      simp only [handleCommand, stands]
    · cases same

theorem holds_of_handle (c : d.Coherent) (other : op ≠ .report (.terminalAdded host t))
    (held : (handle op d).1.roster.Holds host t) : d.roster.Holds host t := by
  obtain ⟨d₁, acts, d₂, more, m, asks, e⟩ := handle_moves op d
  rw [e.eq] at held
  refine c.holds_of_move m (fun same => other (report_of_meaning same)) ?_
  cases asks with
  | nothing => exact held
  | terminal m' => exact (c.move m).holds_of_move m' (by simp) held

end Desk

end Switchboard
