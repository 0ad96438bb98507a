import Switchboard.Remote.Path
import Switchboard.Ident
import Switchboard.Url.Reader
import Switchboard.Wire.Fault
import Switchboard.Wire.Endpoint

/-!
# Downloads

A remote file is fetched with one HTTP request, beside the web socket, and written into the download
directory under its own name. The request is planned from the base URL of the server, the terminal
and the path; what the exchange brings decides the outcome.
-/

namespace Switchboard.Remote

open Wire

def downloadFault (message : String) : Fault := ⟨.downloadFailed, message⟩

def directoryBase (base : String) : String := withoutEndSlashes base ++ "/"

def downloadQuery (t : TerminalId) (path : String) : String := t.text ++ "&" ++ path

def downloadUrl (base : String) (t : TerminalId) (path : String) : Except Fault Url :=
  match Url.read (directoryBase base) >>= fun u => u.sibling "download" with
  | .ok u => .ok (u.withQuery (downloadQuery t path))
  | .error e => .error (downloadFault (directoryBase base ++ ": " ++ e.message))

/-- What is asked of the server, and the name under which the answer is kept. -/
structure Errand where
  fileName : String
  url : Url
deriving DecidableEq, Repr

inductive Exchange where
  | failed
  | answered (status : Nat) (body : Bytes)
deriving DecidableEq, Repr

structure LocalFile where
  name : String
  content : Bytes
deriving DecidableEq, Repr

/-- Plans a download. A path without a file name is refused before anything is asked. -/
def planDownload (base : String) (t : TerminalId) (path : String) : Except Fault Errand :=
  match fileName? path with
  | none => .error (downloadFault ("not a file path: " ++ path))
  | some fileName => do return { fileName, url := ← downloadUrl base t path }

def decoded? (s : String) : Option String := Text.text? (Url.decode (Text.bytes s))

/-- Whether the user that a URL names can be taken out of it and sent apart: the user name can be
read, and there is a user name or a password that can be read. -/
def hasReadableUser (u : Url) : Bool :=
  match decoded? u.userName with
  | none => false
  | some name => name != "" || (u.password != "" && (decoded? u.password).isSome)

/-- A URL as it is asked for: a user that can be read is sent apart. -/
def askedUrl (u : Url) : Url :=
  if hasReadableUser u then { u with userName := "", password := "" } else u

def isHttp (u : Url) : Bool := u.scheme == "http" || u.scheme == "https"

def longestUrl : Nat := 65534

def isAskable (c : Char) : Bool := c ∉ ['"', '`', '\x7b', '\x7d']

def isSendable (u : Url) : Bool :=
  u.text.length ≤ longestUrl && u.host.all fun host => host.text.toList.all isAskable

def isErrorStatus (status : Nat) : Bool := 400 ≤ status && status < 600

/-- The file that a download brings. Nothing is asked for with a URL that no request can carry. -/
def Errand.finish (e : Errand) (exchange : Exchange) : Except Fault LocalFile :=
  let url := askedUrl e.url
  let fault := fun what => downloadFault (what ++ " for url (" ++ url.text ++ ")")
  if !isHttp url || !isSendable url then .error (fault "builder error")
  else
    match exchange with
    | .failed => .error (fault "error sending request")
    | .answered status body =>
      if isErrorStatus status then .error (fault ("HTTP status " ++ Number.decimal status))
      else .ok { name := e.fileName, content := body }

def download (base : String) (t : TerminalId) (path : String) (exchange : Url → Exchange) :
    Except Fault LocalFile := do
  let errand ← planDownload base t path
  errand.finish (exchange errand.url)

end Switchboard.Remote
