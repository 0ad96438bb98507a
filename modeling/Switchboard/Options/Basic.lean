import Switchboard.Client.Basic
import Switchboard.Text.Trim
import Switchboard.Wire.Endpoint

/-!
# Options

What a user may choose for a run, what is checked before the run, and the settings that follow.
-/

namespace Switchboard

structure Options where
  url : String := "http://127.0.0.1:8080"
  maxReconnects : Nat := 10
  autoOpen : Bool := false
  maxTerminals : Nat := Roster.defaultCap
  scrollback : Nat := Session.defaultCapacity
  resizeDebounce : Nat := 250
  downloadDir : String := "."
  logFormat : String := "text"
  logLevel : String := "info"
deriving DecidableEq, Repr

inductive OptionsError where
  | unsupportedScheme (url : String)
  | noTerminals
  | noScrollback
  | badLogFormat (format : String)
deriving DecidableEq, Repr

def OptionsError.message : OptionsError → String
  | unsupportedScheme url =>
    "unsupported URL scheme: " ++ url ++ " (expected http, https, ws or wss)"
  | noTerminals => "--max-terminals must be at least 1"
  | noScrollback => "--scrollback must be greater than 0"
  | badLogFormat format => "invalid log format: " ++ format

namespace Options

def schemes : List String := ["http://", "https://", "ws://", "wss://"]

def logFormats : List String := ["json", "text"]

/-- Options for a short run against one server: it does not reconnect, keeps little output, waits
little and logs much. -/
def forShortRun (url : String) : Options where
  url := url
  maxReconnects := 0
  scrollback := 4096
  resizeDebounce := 10
  logLevel := "debug"

def validate (o : Options) : Except OptionsError Unit :=
  if !schemes.any fun scheme => (Text.after? scheme o.url).isSome then
    .error (.unsupportedScheme o.url)
  else if o.maxTerminals = 0 then .error .noTerminals
  else if o.scrollback = 0 then .error .noScrollback
  else if o.logFormat ∉ logFormats then .error (.badLogFormat o.logFormat)
  else .ok ()

def socketUrl (o : Options) : String := Wire.socketUrl o.url

def httpOrigin (o : Options) : String := Wire.httpOrigin o.url

def deskSettings (o : Options) : Settings where
  autoOpen := o.autoOpen
  cap := o.maxTerminals
  scrollback := o.scrollback

def clientSettings (o : Options) : Client.Settings where
  socketUrl := o.socketUrl
  maxReconnects := o.maxReconnects
  debounce := o.resizeDebounce
  desk := o.deskSettings

end Options

end Switchboard
