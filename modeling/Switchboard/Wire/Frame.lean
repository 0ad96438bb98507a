import Switchboard.Wire.Report

/-!
# Frames of the web socket

What the next item read from the socket means to the connection. Text that is no report is skipped
and never ends the connection.
-/

namespace Switchboard.Wire

inductive Frame where
  | text (s : String)
  | binary (bs : Bytes)
  | ping (bs : Bytes)
  | pong (bs : Bytes)
  | close (reason : Option String)
  | failure (message : String)
  | finished
deriving DecidableEq, Repr

inductive Inbound where
  | report (r : Report)
  | skip
  | closed (fault : Fault)
deriving DecidableEq, Repr

def Frame.inbound : Frame → Inbound
  | text s =>
    match Report.decode s with
    | .ok r => .report r
    | .error _ => .skip
  | binary _ | ping _ | pong _ => .skip
  | close reason => .closed ⟨.disconnected, "closed by server " ++ reason.getD ""⟩
  | failure message => .closed ⟨.disconnected, message⟩
  | finished => .closed ⟨.disconnected, "connection closed"⟩

end Switchboard.Wire
