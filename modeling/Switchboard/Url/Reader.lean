import Switchboard.Text.Trim
import Switchboard.Url.Basic

/-!
# Reading URLs

A text is read as a scheme, an authority with user, host and port, and a path. Its query and its
fragment are not kept. Tabs and line ends are left out, blanks and control characters around the
text too. With a special scheme a backslash counts as a slash.
-/

namespace Switchboard.Url

def withoutMargins (s : String) : List Char :=
  let outer := fun (c : Char) => decide (c.toNat ≤ 0x20)
  Text.dropEndWhile outer (s.toList.dropWhile outer)

def isSchemeChar (c : Char) : Bool := c.isAlphanum || c == '+' || c == '-' || c == '.'

def readScheme? (cs : List Char) : Option (String × List Char) :=
  match cs.span isSchemeChar with
  | (c :: scheme, ':' :: rest) =>
    if c.isAlpha then some (String.ofList ((c :: scheme).map Char.toLower), rest) else none
  | _ => none

def isSlash (special : Bool) (c : Char) : Bool := c == '/' || (special && c == '\\')

def endsAuthority (special : Bool) (c : Char) : Bool := isSlash special c || c == '?' || c == '#'

def splitUser (cs : List Char) : Option (List Char) × List Char :=
  match cs.splitOn '@' with
  | [] | [_] => (none, cs)
  | parts => (some (['@'].intercalate parts.dropLast), parts.getLast?.getD [])

/-- The host part of a text: what stands before the first colon outside brackets. -/
def splitHost (inBrackets : Bool) : List Char → List Char × List Char
  | [] => ([], [])
  | c :: cs =>
    if c = ':' ∧ inBrackets = false then ([], c :: cs)
    else
      let inside := if c = '[' then true else if c = ']' then false else inBrackets
      let (host, rest) := splitHost inside cs
      (c :: host, rest)

/-- Reads a port from its digits; the default port of the scheme is not kept. -/
def readPort (scheme : String) (digits : List Char) : Except ReadError (Option Nat) :=
  if digits.isEmpty then .ok none
  else
    match Number.readDigits 65535 0 digits with
    | .ok port => .ok (if defaultPort? scheme = some port then none else some port)
    | .error _ => .error .badPort

structure Authority where
  userName : List Char
  password : List Char
  host : Host
  port : Option Nat
  excess : List Char

def Authority.hasUser (a : Authority) : Bool := !a.userName.isEmpty || !a.password.isEmpty

/-- Reads an authority. `followed` says whether the text goes on behind it. -/
def readAuthority (scheme : String) (followed : Bool) (cs : List Char) :
    Except ReadError Authority := do
  let special := isSpecial scheme
  let (user, server) := splitUser cs
  if user = some [] ∧ server.isEmpty ∧ followed then throw .emptyHost
  let (name, secret) := (user.getD []).span (· != ':')
  let (hostPart, portPart) := splitHost false server
  if hostPart.isEmpty ∧ (special ∨ portPart ≠ []) then throw .emptyHost
  let host ← if special then Host.readSpecial hostPart else Host.readPlain hostPart
  let (digits, excess) := (portPart.drop 1).span Char.isDigit
  let port ← readPort scheme digits
  if excess ≠ [] ∧ excess.head? ≠ some '\\' then throw .badPort
  let authority : Authority := {
    userName := encode .userinfo name
    password := encode .userinfo (secret.drop 1)
    host, port, excess }
  if hostPart.isEmpty ∧ authority.hasUser then throw .emptyHost
  return authority

/-- The segments of a text that stands at the place of a path; one slash before them does not
count. -/
def segmentsOf (special : Bool) (cs : List Char) : List (List Char) :=
  let cs := encode .path (cs.takeWhile fun c => c != '?' && c != '#')
  let segs := cs.splitOnP (isSlash special)
  match segs with
  | [] :: first :: rest => first :: rest
  | segs => segs

def readPath (special : Bool) (cs : List Char) : Path :=
  if !special && (cs.head?.all fun c => c == '?' || c == '#') then []
  else Path.pushAll [] (segmentsOf special cs)

def readFilePath (cs : List Char) : FilePath :=
  let segs := (cs.takeWhile fun c => c != '?' && c != '#').splitOnP (isSlash true)
  let read := FilePath.pushAll {} segs
  { read with path := read.path.withoutEmptyFront }

def localFile (cs : List Char) : Url where
  scheme := "file"
  host := some Host.empty
  path := some (readFilePath cs).path

/-- The first character of a text that is not ignored, if it separates segments, and what follows
it. -/
def afterSlash? (cs : List Char) : Option (List Char) :=
  match cs.dropWhile isIgnored with
  | c :: rest => if isSlash true c then some rest else none
  | [] => none

/-- Reads the URL of a file, after its scheme and two slashes. A drive letter at the place of the
host begins the path. A host gives way to a drive letter at the front of the path, and the local
host is none; without a host, a slash at the place where a host would end belongs to the path. -/
def readFileHost (cs : List Char) : Except ReadError Url := do
  let (front, rest) := cs.span (!endsAuthority true ·)
  let hostPart := withoutIgnored front
  if Path.isDrive hostPart then return localFile cs
  if hostPart.isEmpty then return localFile rest
  let host ← Host.readSpecial hostPart
  if host = .name "localhost" then return localFile rest
  let read := readFilePath ((afterSlash? rest).getD rest)
  return {
    scheme := "file"
    host := some (if read.hasDrive then Host.empty else host)
    path := some read.path }

/-- Reads the URL of a file, after its scheme. One slash before the path does not count. -/
def readFile (cs : List Char) : Except ReadError Url :=
  match afterSlash? cs with
  | none => .ok (localFile cs)
  | some cs =>
    match afterSlash? cs with
    | none => .ok (localFile cs)
    | some cs => readFileHost cs

def readHierarchy (scheme : String) (cs : List Char) : Except ReadError Url := do
  let special := isSpecial scheme
  let (front, rest) := cs.span (!endsAuthority special ·)
  let a ← readAuthority scheme (!rest.isEmpty) front
  return {
    scheme
    userName := String.ofList a.userName
    password := String.ofList a.password
    host := some a.host
    port := a.port
    path := some (readPath special (a.excess ++ rest)) }

def read (s : String) : Except ReadError Url :=
  let raw := withoutMargins s
  match readScheme? (withoutIgnored raw) with
  | none => .error .relative
  | some (scheme, cs) =>
    if scheme = "file" then readFile ((raw.dropWhile (· != ':')).drop 1)
    else if isSpecial scheme then readHierarchy scheme (cs.dropWhile (isSlash true))
    else
      match cs with
      | '/' :: '/' :: rest => readHierarchy scheme rest
      | '/' :: rest =>
        .ok { scheme, path := some (Path.pushAll [] (segmentsOf false ('/' :: rest))) }
      | _ => .ok { scheme }

def sibling (u : Url) (name : String) : Except ReadError Url :=
  match u.path with
  | none => .error .flatBase
  | some path =>
    .ok { u with path := some (path.beside (u.scheme == "file") name.toList), query := none }

end Switchboard.Url
