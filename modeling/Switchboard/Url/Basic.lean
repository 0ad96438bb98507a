import Switchboard.Url.Host
import Switchboard.Url.Path

/-!
# URLs

An absolute URL as its parts, and its text. Schemes that are special have a default port, and their
URLs always have a host and a path.
-/

namespace Switchboard

/-- An absolute URL, without its fragment. -/
structure Url where
  scheme : String
  userName : String := ""
  password : String := ""
  host : Option Url.Host := none
  port : Option Nat := none
  path : Option Url.Path := none
  query : Option String := none
deriving DecidableEq, Repr

namespace Url

def specialSchemes : List (String × Option Nat) :=
  [("http", some 80), ("https", some 443), ("ws", some 80), ("wss", some 443), ("ftp", some 21),
    ("file", none)]

def isSpecial (scheme : String) : Bool := (specialSchemes.lookup scheme).isSome

def defaultPort? (scheme : String) : Option Nat := (specialSchemes.lookup scheme).join

def credentials (u : Url) : String :=
  if u.userName = "" ∧ u.password = "" then ""
  else u.userName ++ (if u.password = "" then "" else ":" ++ u.password) ++ "@"

/-- What stands between the scheme and the path. Without a host, a path that begins with an empty
segment is kept apart from the place of a host. -/
def authority (u : Url) : String :=
  match u.host with
  | some host =>
    "//" ++ u.credentials ++ host.text ++ u.port.elim "" fun p => ":" ++ Number.decimal p
  | none =>
    match u.path with
    | some ([] :: _ :: _) => "/."
    | _ => ""

def text (u : Url) : String :=
  u.scheme ++ ":" ++ u.authority ++ (u.path.elim "" Path.text) ++ u.query.elim "" ("?" ++ ·)

/-- A URL with a query; tabs and line ends are left out of it. -/
def withQuery (u : Url) (query : String) : Url :=
  let set := if isSpecial u.scheme then EncodeSet.specialQuery else EncodeSet.query
  { u with query := some (String.ofList (encode set (withoutIgnored query.toList))) }

end Url

end Switchboard
