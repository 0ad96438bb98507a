import Mathlib.Data.List.Destutter
import Switchboard.Proofs.Desk.Ending

/-!
# Sizes asked for and sent

Which operations ask for a size of a terminal, and which sizes the server is told. The size that was
asked for last is remembered for as long as the session lasts. `resizes_collapsed`: the sizes sent
in a session are those that were asked for in it, each run of equal ones sent once.
-/

namespace Switchboard.Desk

open Wire

variable {d d' : Desk} {op : Operation} {acts : List Act} {t : TerminalId} {size : Size}
  {turns : List Turn}

/-! ### Which operations ask for a size -/

theorem Move.resize_mem (m : Move op d d' acts) (sent : .resize t size ∈ Act.requests acts) :
    op = .intent (.resize t size) ∧ d.sessions.contains t = true := by
  cases m with
  | resized live other =>
    simp only [Act.requests_send, Act.requests_nil, List.mem_singleton, Request.resize.injEq]
      at sent
    obtain ⟨rfl, rfl⟩ := sent
    exact ⟨rfl, live⟩
  | @terminalAdded _ _ _ _ _ _ selected => cases selected <;> simp at sent
  | terminalOutput => split at sent <;> simp at sent
  | @terminalClosed _ _ _ origin => cases origin <;> simp at sent
  | @directoryListing _ u _ _ sessions => cases found : sessions.get? u <;> simp [found] at sent
  | slotToggled =>
    split at sent
    · simp [notMem_listingActs] at sent
    · simp at sent
  | _ => simp at sent

theorem Asks.resize_notMem {greeted : Option (HostId × Roster)} (asks : Asks greeted d d' acts)
    (t : TerminalId) (size : Size) : .resize t size ∉ Act.requests acts := by
  rcases asks_cases asks with ⟨-, rfl⟩ | ⟨host, slot, roster, -, -, rfl⟩ <;> simp

theorem resize_of_resolve {c : Command} (stands : d.resolve c = .ok (.intent (.resize t size))) :
    c = .resize size ∧ d.presented = some t := by
  cases c with
  | resize size' =>
    cases active : d.presented with
    | none => simp [resolve, activeTerminal, active, bind, Except.bind] at stands
    | some u =>
      simp [resolve, activeTerminal, active, bind, Except.bind, pure, Except.pure] at stands
      obtain ⟨rfl, rfl⟩ := stands
      exact ⟨rfl, rfl⟩
  | _ =>
    simp only [resolve, bind, Except.bind, pure, Except.pure, throw, throwThe,
      MonadExceptOf.throw] at stands
    repeat' split at stands
    all_goals cases stands

theorem resize_of_meaning (same : d.meaning op = .intent (.resize t size)) :
    op = .intent (.resize t size) ∨
      op = .command (.resize size) ∧ d.presented = some t := by
  cases op with
  | report r => cases same
  | intent i => exact Or.inl same
  | command c =>
    simp only [meaning] at same
    split at same
    · rename_i i stands
      obtain rfl := Operation.intent.inj same
      obtain ⟨rfl, presented⟩ := resize_of_resolve stands
      exact Or.inr ⟨rfl, presented⟩
    · cases same

/-- The server is told a size of a live terminal, at the request of an intent or of a command while
the terminal is presented. -/
theorem resize_mem_handle (sent : .resize t size ∈ Effect.requests (handle op d).2) :
    (op = .intent (.resize t size) ∨ op = .command (.resize size) ∧ d.presented = some t) ∧
      d.sessions.contains t = true := by
  obtain ⟨d₁, acts, d₂, more, m, asks, e⟩ := handle_moves op d
  rw [e.requests, Act.requests_append, List.mem_append] at sent
  obtain ⟨meant, live⟩ := m.resize_mem (sent.resolve_right (asks.resize_notMem t size))
  exact ⟨resize_of_meaning meant, live⟩

/-- The size that an operation asks for of a terminal. A command means the terminal that is
presented. -/
def sizeAsked? (d : Desk) (t : TerminalId) : Operation → Option Size
  | .intent (.resize u size) => if u = t then some size else none
  | .command (.resize size) => if d.presented = some t then some size else none
  | _ => none

theorem meaning_of_sizeAsked? (asked : d.sizeAsked? t op = some size) :
    d.meaning op = .intent (.resize t size) := by
  unfold sizeAsked? at asked
  split at asked
  · obtain ⟨rfl, same⟩ := Option.ite_none_right_eq_some.mp asked
    obtain rfl := Option.some.inj same
    rfl
  · obtain ⟨presented, same⟩ := Option.ite_none_right_eq_some.mp asked
    obtain rfl := Option.some.inj same
    simp [meaning, resolve, activeTerminal, presented, bind, Except.bind, pure, Except.pure]
  · cases asked

theorem sizeAsked?_of_meaning (same : d.meaning op = .intent (.resize t size)) :
    d.sizeAsked? t op = some size := by
  rcases resize_of_meaning same with rfl | ⟨rfl, presented⟩
  · exact if_pos rfl
  · exact if_pos presented

/-! ### What is sent, and what is remembered -/

/-- The sizes of a terminal that the server is told. -/
def sizesTold (t : TerminalId) (es : List Effect) : List Size :=
  (Effect.requests es).filterMap fun
    | .resize u size => if u = t then some size else none
    | _ => none

theorem sizesTold_append (t : TerminalId) (es more : List Effect) :
    sizesTold t (es ++ more) = sizesTold t es ++ sizesTold t more := by
  rw [sizesTold, Effect.requests_append, List.filterMap_append, sizesTold, sizesTold]

/-- No size is told where none is asked for. -/
theorem sizesTold_of_silent (silent : d.sizeAsked? t op = none) :
    sizesTold t (handle op d).2 = [] := by
  rw [sizesTold, List.filterMap_eq_nil_iff]
  intro r mem
  split
  · rename_i u size
    rw [ite_eq_right_iff]
    rintro rfl
    obtain ⟨d₁, acts, d₂, more, m, asks, e⟩ := handle_moves op d
    rw [e.requests, Act.requests_append, List.mem_append] at mem
    obtain ⟨meant, -⟩ := m.resize_mem (mem.resolve_right (asks.resize_notMem u size))
    rw [sizeAsked?_of_meaning meant] at silent
    cases silent
  · rfl

/-- A move that asks for no size of a terminal leaves the size that is remembered of it, while the
terminal is live. -/
theorem Move.sizes (m : Move op d d' acts) (other : ∀ size, op ≠ .intent (.resize t size))
    (live : d'.sessions.contains t = true) : d'.sizes.get? t = d.sizes.get? t := by
  cases m with
  | hostConnected outcome moved | hostSelected outcome moved | slotSelected outcome moved
  | slotToggled outcome moved | terminalRequested outcome moved =>
    subst moved
    rfl
  | @hostDisconnected _ _ _ removed _ outcome left =>
    rw [foldl_forgotten] at live ⊢
    subst left
    have stays : t ∉ removed.host.terminals := by
      intro gone
      simp [Sessions.contains, get?_foldl_destroy, gone] at live
    exact (get?_foldl_erase _ _ t).trans (if_neg stays)
  | @terminalAdded _ _ _ _ _ _ selected _ fresh outcome grown =>
    subst grown
    cases selected <;> rfl
  | terminalClosed why outcome left =>
    subst left
    refine Table.get?_erase_of_ne _ ?_
    rintro rfl
    simp [Sessions.contains, forgotten] at live
  | unheldClosed =>
    refine Table.get?_erase_of_ne _ ?_
    rintro rfl
    simp [Sessions.contains, forgotten] at live
  | resized =>
    refine Table.get?_put_of_ne _ _ ?_
    rintro rfl
    exact other _ rfl
  | _ => rfl

theorem sizes_of_silent (silent : d.sizeAsked? t op = none)
    (live : (handle op d).1.sessions.contains t = true) :
    (handle op d).1.sizes.get? t = d.sizes.get? t := by
  obtain ⟨d₁, acts, d₂, more, m, asks, e⟩ := handle_moves op d
  have other : ∀ size, d.meaning op ≠ .intent (.resize t size) := by
    intro size meant
    rw [sizeAsked?_of_meaning meant] at silent
    cases silent
  rw [e.eq] at live ⊢
  replace live : d₂.sessions.contains t = true := live
  show d₂.sizes.get? t = d.sizes.get? t
  rcases asks_cases asks with ⟨rfl, -⟩ | ⟨host, slot, roster, -, rfl, -⟩ <;>
    exact m.sizes other live

/-- A size that is asked for of a live terminal is sent unless it is the one remembered, and is
remembered. -/
theorem handle_of_asked (asked : d.sizeAsked? t op = some size)
    (live : d.sessions.contains t = true) :
    sizesTold t (handle op d).2 = (if d.sizes.get? t = some size then [] else [size]) ∧
      (handle op d).1.sizes.get? t = some size := by
  rw [handle_of_meaning (meaning_of_sizeAsked? asked)]
  by_cases same : d.sizes.get? t = some size
  · simp [handleIntent, resize, same, sizesTold, Effect.requests]
  · simp [handleIntent, resize, live, same, sizesTold, Effect.requests]

theorem Settled.unsized (s : d.Settled) (unlive : d.sessions.contains t = false) :
    d.sizes.get? t = none := by
  rw [Option.eq_none_iff_forall_ne_some]
  intro size kept
  simp [s.sizes t (by simp [kept])] at unlive

/-- Nothing is remembered of a terminal when its session begins. -/
theorem unsized_of_unlive (c : d.Coherent) (unlive : d.sessions.contains t = false)
    (op : Operation) : (handle op d).1.sizes.get? t = none := by
  cases live : (handle op d).1.sessions.contains t with
  | false => exact (c.handle op).unsized live
  | true =>
    cases asked : d.sizeAsked? t op with
    | none => rw [sizes_of_silent asked live, c.unsized unlive]
    | some size =>
      rw [handle_of_meaning (meaning_of_sizeAsked? asked)]
      simpa [handleIntent, resize, unlive] using c.unsized unlive

/-! ### Sessions -/

/-- The sizes that operations ask for of a terminal, each on the desk that it meets. -/
def sizesAsked (t : TerminalId) (history : List (Desk × Operation)) : List Size :=
  history.filterMap fun x => x.1.sizeAsked? t x.2

/-- Where a terminal is live at every operation, none follows the end of its session. -/
theorem done_eq_nil_of_unlive (live : ∀ x ∈ d.done turns, x.1.sessions.contains t = true)
    (ended : d.sessions.contains t = false) : d.done turns = [] := by
  induction turns generalizing d with
  | nil => rfl
  | cons turn turns ih =>
    cases turn with
    | operation op =>
      have now := live _ List.mem_cons_self
      simp [ended] at now
    | enrolment e =>
      refine ih live ?_
      cases e <;> exact ended

theorem sizesAsked_operation (d : Desk) (t : TerminalId) (op : Operation) (turns : List Turn) :
    sizesAsked t (d.done (.operation op :: turns)) =
      (d.sizeAsked? t op).toList ++ sizesAsked t ((handle op d).1.done turns) := by
  rw [done, sizesAsked, List.filterMap_cons]
  cases d.sizeAsked? t op <;> rfl

theorem toList_collapsed (t : TerminalId) (last : Option Size) :
    last.toList ++ sizesTold t [] = (last.toList ++ sizesAsked t []).destutter (· ≠ ·) := by
  cases last <;> rfl

/-- A size is sent behind the one sent last unless it is the same. -/
theorem collapsed_cons {told asked : List Size}
    (rest : size :: told = (size :: asked).destutter (· ≠ ·)) (last : Option Size) :
    last.toList ++ ((if last = some size then [] else [size]) ++ told) =
      (last.toList ++ size :: asked).destutter (· ≠ ·) := by
  cases last with
  | none => exact rest
  | some size' =>
    by_cases same : size' = size
    · subst same
      simpa [List.destutter_cons_cons, List.destutter_cons'] using rest
    · have other : some size' ≠ some size := fun e => same (Option.some.inj e)
      rw [if_neg other]
      simpa [List.destutter_cons_cons, List.destutter_cons', same] using rest

/-- What is sent in the rest of a session, behind the size that is remembered. -/
theorem sizesTold_takeAll (live : ∀ x ∈ d.done turns, x.1.sessions.contains t = true) :
    (d.sizes.get? t).toList ++ sizesTold t (d.takeAll turns).2 =
      ((d.sizes.get? t).toList ++ sizesAsked t (d.done turns)).destutter (· ≠ ·) := by
  induction turns generalizing d with
  | nil => exact toList_collapsed t _
  | cons turn turns ih =>
    cases turn with
    | enrolment e =>
      have same : (d.enrol e).sizes = d.sizes := by cases e <;> rfl
      rw [takeAll_enrolment, ← same]
      exact ih live
    | operation op =>
      obtain ⟨now, later⟩ := List.forall_mem_cons.mp live
      have rest := ih later
      rw [takeAll_operation, sizesTold_append, sizesAsked_operation]
      cases asked : d.sizeAsked? t op with
      | some size =>
        obtain ⟨told, remembered⟩ := handle_of_asked asked now
        rw [remembered] at rest
        rw [told]
        exact collapsed_cons rest _
      | none =>
        rw [sizesTold_of_silent asked, List.nil_append, Option.toList_none, List.nil_append]
        cases stays : (handle op d).1.sessions.contains t with
        | true =>
          rw [sizes_of_silent asked stays] at rest
          exact rest
        | false =>
          -- The operation ended the session, so it is the last one.
          have last : (handle op d).1.done turns = [] := done_eq_nil_of_unlive later stays
          have silent : ((handle op d).1.takeAll turns).2 = [] := by rw [effects_takeAll, last]; rfl
          rw [silent, last]
          exact toList_collapsed t _

theorem head?_collapsed (sizes : List Size) :
    (sizes.destutter (· ≠ ·)).head? = sizes.head? := by
  cases sizes with
  | nil => rfl
  | cons size sizes =>
    rw [List.destutter_cons', List.head?_cons]
    induction sizes with
    | nil => rfl
    | cons next sizes ih =>
      rw [List.destutter'_cons]
      split
      · rfl
      · exact ih

theorem getLast?_collapsed (sizes : List Size) :
    (sizes.destutter (· ≠ ·)).getLast? = sizes.getLast? := by
  cases sizes with
  | nil => rfl
  | cons size sizes =>
    rw [List.destutter_cons']
    induction sizes generalizing size with
    | nil => rfl
    | cons next sizes ih =>
      rw [List.destutter'_cons, List.getLast?_cons_cons]
      split
      · rw [List.getLast?_cons, ih, List.getLast?_cons, Option.getD_some]
      · rename_i same
        rw [ih, not_not.mp same]

/-- From the operation that creates a session of a terminal on, as long as the session lasts, the
server is told the sizes that are asked for of the terminal, where a size that is asked for several
times in a row is told once. So the first size asked for in a session is told whatever was told in
earlier ones, and the last size told is the last one asked for. -/
theorem resizes_collapsed (settings : Settings) {before session : List Turn} {creation : Operation}
    (unlive : ((start settings).1.takeAll before).1.sessions.contains t = false)
    (live : ∀ x ∈ (handle creation ((start settings).1.takeAll before).1).1.done session,
      x.1.sessions.contains t = true) :
    let d := (handle creation ((start settings).1.takeAll before).1).1
    let told := sizesTold t (d.takeAll session).2
    let asked := sizesAsked t (d.done session)
    told = asked.destutter (· ≠ ·) ∧ told.head? = asked.head? ∧
      told.getLast? = asked.getLast? := by
  intro d told asked
  have coherent := ((coherent_start settings).history before).1
  have collapsed : told = asked.destutter (· ≠ ·) := by
    have behind := sizesTold_takeAll live
    rwa [unsized_of_unlive coherent unlive] at behind
  rw [collapsed]
  exact ⟨rfl, head?_collapsed asked, getLast?_collapsed asked⟩

/-- The first size asked for of a terminal that came back is told, though it was the last one told
before. -/
theorem resizes_collapsed_after_return :
    let host : HostId := ⟨1⟩
    let resize := fun (t : TerminalId) (cols rows : UInt16) =>
      Turn.operation (.intent (.resize t ⟨cols, rows⟩))
    let creation : Operation := .report (.terminalAdded host ⟨5⟩)
    let before : List Turn :=
      [.operation (.report (.hostConnected ⟨host, "", "", ""⟩)), .operation creation,
        .operation (.report (.terminalAdded host ⟨6⟩)), resize ⟨5⟩ 80 24,
        .operation (.report (.terminalClosed none ⟨5⟩))]
    let session : List Turn :=
      [resize ⟨5⟩ 80 24, resize ⟨6⟩ 100 40, resize ⟨5⟩ 80 24, resize ⟨5⟩ 100 40,
        .operation (.report (.hostDisconnected host))]
    let d := (handle creation ((start {}).1.takeAll before).1).1
    (∀ x ∈ d.done session, x.1.sessions.contains ⟨5⟩ = true) ∧
      sizesTold ⟨5⟩ (d.takeAll session).2 = [⟨80, 24⟩, ⟨100, 40⟩] := by
  intro host resize creation before session d
  have unlive : ((start {}).1.takeAll before).1.sessions.contains ⟨5⟩ = false := by decide +kernel
  have live : ∀ x ∈ d.done session, x.1.sessions.contains ⟨5⟩ = true := by decide +kernel
  have asked : sizesAsked ⟨5⟩ (d.done session) = [⟨80, 24⟩, ⟨80, 24⟩, ⟨100, 40⟩] := by
    decide +kernel
  refine ⟨live, (resizes_collapsed {} unlive live).1.trans ?_⟩
  rw [asked]
  decide

end Switchboard.Desk
