import Switchboard.Number.Decimal
import Switchboard.Presenter.Cue
import Switchboard.Text.Blank

/-!
# A plain-text screen

A presenter that writes bytes: the output of the presented terminal as it is, and lines of text
about what happens. A screen whose stream takes no writes writes nothing and is otherwise the same.
-/

namespace Switchboard

/-- A presenter that writes bytes. -/
structure Screen where
  presented : Option TerminalId := none
  writable : Bool := true
deriving DecidableEq, Repr

namespace Screen

def line (text : String) : Bytes := Text.bytes (text ++ "\n")

def heading (s : Session) : String :=
  "-- terminal " ++ s.id.text ++ " on host " ++ s.host.text ++
    (if s.scrollback.dropped = 0 then ""
     else " (" ++ Number.decimal s.scrollback.dropped ++ " of " ++
       Number.decimal s.scrollback.total ++ " bytes dropped)") ++
    " --"

def row (index : Nat) (e : Remote.Entry) : String :=
  Text.trimBlankEnd (Number.padStart 3 ' ' (Number.decimal index) ++ "  " ++
    Number.padEnd 40 (e.name ++ (if e.isDirectory then "/" else "")) ++ " " ++
    Number.padStart 10 ' ' (e.shownSize?.getD "") ++ "  " ++ e.shownTime?.getD "")

def listing (s : Session) : Bytes :=
  let path := s.listing.elim Remote.root (·.path)
  let entries := s.listing.elim [] (·.entries)
  line ("-- " ++ path ++ " (terminal " ++ s.id.text ++ ") --") ++
    (entries.mapIdx row).flatMap line

def written (presented : Option TerminalId) : Cue → Bytes
  | .event (.terminalClosed host t) =>
    line ("-- terminal " ++ t.text ++ " on host " ++ host.text ++ " closed --")
  | .present none => line "-- no terminal --"
  | .present (some s) => line (heading s) ++ s.scrollback.retained
  | .output t bs => if presented = some t then bs else []
  | .entries s => listing s
  | .notice text => line text
  | _ => []

def presentedAfter (presented : Option TerminalId) : Cue → Option TerminalId
  | .present s => s.map (·.id)
  | .disconnected => none
  | _ => presented

def take (screen : Screen) (cue : Cue) : Bytes × Screen :=
  (if screen.writable then written screen.presented cue else [],
    { screen with presented := presentedAfter screen.presented cue })

def takeAll (screen : Screen) : List Cue → Bytes × Screen
  | [] => ([], screen)
  | cue :: cues =>
    let (bs, screen) := screen.take cue
    let (more, screen) := screen.takeAll cues
    (bs ++ more, screen)

end Screen

end Switchboard
