import Switchboard.Number.Decimal
import Switchboard.Options.Basic

/-!
# Reading options

Options come from the arguments of the command line, read from left to right, and from variables of
the environment, which count only for options that no argument gives. The first failure stops the
reading.

The value of an option may follow in the next argument. It is checked when the argument after it is
understood, or at the end; so an argument that is not understood is reported before a bad value in
front of it.
-/

namespace Switchboard.Options

inductive Key where
  | url
  | maxReconnects
  | autoOpen
  | maxTerminals
  | scrollback
  | resizeDebounce
  | downloadDir
  | logFormat
  | logLevel
deriving DecidableEq, Repr

inductive Stop where
  | badNumber
  /-- A value is missing, is empty where it must not be, or is none of those allowed. -/
  | badValue
  | unknownArgument
  | repeated
  | unexpectedValue
  | help
  | version
deriving DecidableEq, Repr

/-- The options, in the order in which the environment is consulted. -/
def Key.all : List Key :=
  [.url, .maxReconnects, .autoOpen, .maxTerminals, .scrollback, .resizeDebounce, .downloadDir,
    .logFormat, .logLevel]

def Key.argumentName? : Key → Option String
  | url => none
  | maxReconnects => some "max-reconnects"
  | autoOpen => some "auto-open"
  | maxTerminals => some "max-terminals"
  | scrollback => some "scrollback"
  | resizeDebounce => some "resize-debounce-ms"
  | downloadDir => some "download-dir"
  | logFormat => some "log-format"
  | logLevel => some "log-level"

def Key.variableName : Key → String
  | url => "HOSTTERM_URL"
  | maxReconnects => "HOSTTERM_MAX_RECONNECTS"
  | autoOpen => "HOSTTERM_AUTO_OPEN"
  | maxTerminals => "HOSTTERM_MAX_TERMINALS"
  | scrollback => "HOSTTERM_SCROLLBACK"
  | resizeDebounce => "HOSTTERM_RESIZE_DEBOUNCE_MS"
  | downloadDir => "HOSTTERM_DOWNLOAD_DIR"
  | logFormat => "HOSTTERM_LOG_FORMAT"
  | logLevel => "HOSTTERM_LOG_LEVEL"

def readNumber (max : Nat) (value : String) : Except Stop Nat :=
  (Number.readNumber max value).mapError fun _ => .badNumber

/-- Reads a number up to `max` that may be written as minus zero. -/
def readSignedNumber (max : Nat) (value : String) : Except Stop Nat :=
  match Text.after? "-" value with
  | none => readNumber max value
  | some digits =>
    if (Text.after? "+" digits).isSome then .error .badNumber else readNumber 0 digits

def readTruth : String → Except Stop Bool
  | "true" => .ok true
  | "false" => .ok false
  | _ => .error .badValue

def set (o : Options) (key : Key) (value : String) : Except Stop Options :=
  match key with
  | .url => return { o with url := value }
  | .maxReconnects => do
    return { o with maxReconnects := ← readSignedNumber (UInt32.size - 1) value }
  | .autoOpen => do return { o with autoOpen := ← readTruth value }
  | .maxTerminals => do return { o with maxTerminals := ← readNumber (UInt64.size - 1) value }
  | .scrollback => do return { o with scrollback := ← readNumber (UInt64.size - 1) value }
  | .resizeDebounce => do return { o with resizeDebounce := ← readNumber (UInt64.size - 1) value }
  | .downloadDir =>
    if value = "" then throw .badValue else return { o with downloadDir := value }
  | .logFormat => return { o with logFormat := value }
  | .logLevel => return { o with logLevel := value }

inductive Argument where
  | endOfOptions
  | helpFlag
  | versionFlag
  | autoOpenFlag
  | valued (key : Key) (attached : Option String)
  | overfull
  | unknown
  | plain (value : String)
deriving DecidableEq, Repr

def splitAssignment (cs : List Char) : List Char × Option (List Char) :=
  let rest := cs.dropWhile (· != '=')
  (cs.takeWhile (· != '='), rest.tail?)

def Argument.ofLong (cs : List Char) : Argument :=
  let (name, value) := splitAssignment cs
  let name := String.ofList name
  let flag := fun (a : Argument) => if value.isSome then overfull else a
  if name = "help" then flag helpFlag
  else if name = "version" then flag versionFlag
  else if name = "auto-open" then flag autoOpenFlag
  else
    match Key.all.find? (·.argumentName? = some name) with
    | some key => valued key (value.map String.ofList)
    | none => unknown

/-- What an argument is, as long as options are read. A single dash is a plain value, and of
several letters after a dash the first one decides. -/
def Argument.ofText (s : String) : Argument :=
  match s.toList with
  | ['-', '-'] => endOfOptions
  | '-' :: '-' :: cs => ofLong cs
  | '-' :: 'h' :: _ => helpFlag
  | '-' :: 'V' :: _ => versionFlag
  | '-' :: _ :: _ => unknown
  | _ => plain s

/-- How far the command line has been read. -/
structure Reading where
  options : Options := {}
  given : List Key := []
  /-- The option that came last, while its value has not been checked; the value may be missing
  still. -/
  pending : Option (Key × Option String) := none
  hasUrl : Bool := false

namespace Reading

def accept (r : Reading) (key : Key) (value : String) : Except Stop Reading :=
  if key ∈ r.given then .error .repeated
  else do return { r with options := ← r.options.set key value, given := key :: r.given }

def settle (r : Reading) : Except Stop Reading :=
  match r.pending with
  | none => .ok r
  | some (_, none) => .error .badValue
  | some (key, some value) => { r with pending := none }.accept key value

def takePlain (r : Reading) (value : String) : Except Stop Reading :=
  if r.hasUrl then .error .unknownArgument
  else do return { ← r.settle with pending := some (.url, some value), hasUrl := true }

def takeAllPlain (r : Reading) : List String → Except Stop Reading
  | [] => .ok r
  | value :: rest => do (← r.takePlain value).takeAllPlain rest

def take (r : Reading) : List String → Except Stop Reading
  | [] => .ok r
  | s :: rest =>
    match Argument.ofText s, r.pending with
    | .endOfOptions, _ => r.takeAllPlain rest
    | .helpFlag, _ => do
      let _ ← r.settle
      throw .help
    | .versionFlag, _ => do
      let _ ← r.settle
      throw .version
    | .autoOpenFlag, _ => do (← (← r.settle).accept .autoOpen "true").take rest
    | .valued key none, _ => do
      let r ← r.settle
      { r with pending := some (key, none) }.take rest
    | .valued key (some value), _ => do (← (← r.settle).accept key value).take rest
    | .overfull, _ => .error .unexpectedValue
    | .unknown, _ => .error .unknownArgument
    | .plain value, some (key, none) => { r with pending := some (key, some value) }.take rest
    | .plain value, _ => do (← r.takePlain value).take rest

/-- Gives an option the value of its variable, unless an argument has given it one. -/
def takeVariable (environment : List (String × String)) (r : Reading) (key : Key) :
    Except Stop Reading :=
  if key ∈ r.given then .ok r
  else
    match environment.lookup key.variableName with
    | none => .ok r
    | some value => r.accept key value

end Reading

def read (arguments : List String) (environment : List (String × String)) :
    Except Stop Options := do
  let r ← (← ({} : Reading).take arguments).settle
  return (← Key.all.foldlM (Reading.takeVariable environment) r).options

end Switchboard.Options
