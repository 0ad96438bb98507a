import Switchboard.Presenter.Cue

/-!
# The view

The one terminal that is presented. The presenter gets a cue only when it changes.
-/

namespace Switchboard

structure View where
  current : Option TerminalId := none
deriving DecidableEq, Repr

namespace View

def changes (v : View) (s : Option Session) : Bool := s.map (·.id) != v.current

def present (v : View) (s : Option Session) : List Cue × View :=
  if v.changes s then ([.present s], ⟨s.map (·.id)⟩) else ([], v)

end View

end Switchboard
