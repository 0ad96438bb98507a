import Switchboard.Proofs.Desk.Ending

/-!
# What holds of every session

A property that sessions start with, and that neither output nor a listing takes from them, holds of
every live session all along a run.
-/

namespace Switchboard

variable {P : Session → Prop}

/-- Sessions start with a property and keep it while they live. -/
structure Session.Stable (P : Session → Prop) : Prop where
  start : ∀ t host capacity, P (.start t host capacity)
  continues : ∀ s s', Session.Continues s s' → P s → P s'

namespace Sessions

variable {ss ss' : Sessions}

def Every (P : Session → Prop) (ss : Sessions) : Prop := ∀ s ∈ ss.live, P s

theorem Every.sublist (every : ss.Every P) (fewer : ss'.live.Sublist ss.live) : ss'.Every P :=
  fun s mem => every s (fewer.subset mem)

theorem Every.foldl_destroy (every : ss.Every P) (ts : List TerminalId) :
    (ts.foldl Sessions.destroy ss).Every P := by
  induction ts generalizing ss with
  | nil => exact every
  | cons t ts ih =>
    have left : (ss.destroy t).live.Sublist ss.live := List.filter_sublist
    exact ih (every.sublist left)

theorem Every.create (every : ss.Every P) (stable : Session.Stable P) (t : TerminalId)
    (host : HostId) : (ss.create t host).Every P := by
  unfold Sessions.create
  split
  · exact every
  · intro s mem
    rcases List.mem_append.mp mem with old | new
    · exact every s old
    · rw [List.mem_singleton.mp new]
      exact stable.start t host ss.capacity

theorem Every.update {change : Session → Session} (every : ss.Every P) (stable : Session.Stable P)
    (continues : ∀ s, Session.Continues s (change s)) (t : TerminalId) :
    (ss.update t change).Every P := by
  intro s' mem
  obtain ⟨s, inside, rfl⟩ := List.mem_map.mp mem
  split
  · exact stable.continues s _ (continues s) (every s inside)
  · exact every s inside

end Sessions

namespace Desk

variable {d d' : Desk} {op : Operation} {acts : List Act}

theorem every_move (stable : Session.Stable P) (every : d.sessions.Every P)
    (m : Move op d d' acts) : d'.sessions.Every P := by
  cases m with
  | hostConnected outcome moved | hostSelected outcome moved | slotSelected outcome moved
  | slotToggled outcome moved | terminalRequested outcome moved =>
    subst moved
    exact every
  | hostDisconnected outcome left =>
    rw [foldl_forgotten]
    subst left
    exact every.foldl_destroy _
  | @terminalAdded _ _ host t _ _ selected _ fresh outcome grown =>
    subst grown
    cases selected <;> exact every.create stable t host
  | terminalOutput => exact every.update stable (fun _ => .appended _) _
  | terminalClosed why outcome left =>
    subst left
    exact every.sublist List.filter_sublist
  | unheldClosed => exact every.sublist List.filter_sublist
  | directoryListing listed =>
    subst listed
    exact every.update stable (fun _ => .listed _ _) _
  | _ => exact every

theorem every_handle (stable : Session.Stable P) (every : d.sessions.Every P) (op : Operation) :
    (handle op d).1.sessions.Every P := by
  obtain ⟨d₁, acts, d₂, more, m, asks, e⟩ := handle_moves op d
  rw [e.eq]
  show d₂.sessions.Every P
  rw [sessions_asks asks]
  exact every_move stable every m

theorem every_history (stable : Session.Stable P) (settings : Settings) (turns : List Turn) :
    ((start settings).1.takeAll turns).1.sessions.Every P ∧
      ∀ x ∈ (start settings).1.done turns, x.1.sessions.Every P := by
  refine takeAll_induction (P := fun d => d.sessions.Every P)
    (fun _ op every => every_handle stable every op) (fun d e every => ?_) (fun s mem => ?_) turns
  · cases e <;> exact every
  · nomatch mem

end Desk

end Switchboard
