import Switchboard.Text.Trim

/-!
# End points of a server

A server is named by one base URL. Its web socket and its HTTP origin differ from the base in the
scheme and in the slashes at the end.
-/

namespace Switchboard.Wire

def withoutEndSlashes (base : String) : String := Text.trimEnd (· == '/') base

/-- The URL of the server's web socket. A base with another scheme counts as a host name. -/
def socketUrl (base : String) : String :=
  let base := withoutEndSlashes base
  match Text.after? "https://" base with
  | some rest => "wss://" ++ rest ++ "/"
  | none =>
    match Text.after? "http://" base with
    | some rest => "ws://" ++ rest ++ "/"
    | none =>
      if (Text.after? "ws://" base).isSome || (Text.after? "wss://" base).isSome then base ++ "/"
      else "ws://" ++ base ++ "/"

def httpOrigin (base : String) : String :=
  let base := withoutEndSlashes base
  match Text.after? "wss://" base with
  | some rest => "https://" ++ rest
  | none =>
    match Text.after? "ws://" base with
    | some rest => "http://" ++ rest
    | none => base

end Switchboard.Wire
