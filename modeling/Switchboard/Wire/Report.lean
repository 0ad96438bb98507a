import Switchboard.Json.Reader
import Switchboard.Json.Writer
import Switchboard.Wire.Fault
import Switchboard.Wire.Fields

/-!
# Reports from the server

A report arrives as one text frame that holds a JSON object. Its `type` decides which other members
count; of repeated members the last one does. A text that is no report is told apart from a report
of a type that is not known.
-/

namespace Switchboard.Wire

open Json

structure ListedFile where
  name : String
  isDirectory : Bool
  size : UInt64
  /-- Seconds since the start of 1970, or 0 when unknown. -/
  modified : UInt64
deriving DecidableEq, Repr

/-- Terminal output, in one of the forms in which the server sends it. -/
inductive Payload where
  | text (s : String)
  /-- An object whose member `bytes` is an array of bytes. -/
  | wrapped (bs : Bytes)
  | raw (bs : Bytes)
deriving DecidableEq, Repr

def Payload.bytes : Payload → Bytes
  | text s => Text.bytes s
  | wrapped bs | raw bs => bs

inductive Report where
  | hostConnected (info : HostInfo)
  | hostDisconnected (host : HostId)
  | terminalAdded (host : HostId) (terminal : TerminalId)
  | terminalOutput (terminal : TerminalId) (output : Payload)
  | terminalClosed (host : Option HostId) (terminal : TerminalId)
  | directoryListing (terminal : TerminalId) (path : String) (files : List ListedFile)
deriving DecidableEq, Repr

def ListedFile.value (f : ListedFile) : Value :=
  .object [("name", .text f.name), ("is_dir", .bool f.isDirectory),
    ("size", natural f.size.toNat), ("last_mod", natural f.modified.toNat)]

def Payload.value : Payload → Value
  | text s => .text s
  | wrapped bs => .object [("bytes", bytesValue bs)]
  | raw bs => bytesValue bs

def ListedFile.fieldNames : List String := ["name", "is_dir", "size", "last_mod"]

def ListedFile.ofFields? : Fields → Option ListedFile
  | [name, isDirectory, size, modified] => return {
      name := ← required Value.text? name
      isDirectory := ← defaulted false Value.bool? isDirectory
      size := ← defaulted 0 readWord64? size
      modified := ← defaulted 0 readWord64? modified }
  | _ => none

/-- The listed file that a value writes: an object, or an array of the fields. -/
def ListedFile.ofValue? : Value → Option ListedFile
  | .object members => ofFields? (Fields.lastNamed fieldNames members)
  | .array values => (Fields.positional? fieldNames values).bind ofFields?
  | _ => none

def Payload.ofValue? : Value → Option Payload
  | .text s => some (.text s)
  | .object members => ((Members.last? "bytes" members).bind readBytes?).map .wrapped
  | .array items => (readBytes? (.array items)).map .raw
  | _ => none

def readFiles? : Value → Option (List ListedFile)
  | .array items => items.mapM ListedFile.ofValue?
  | _ => none

/-- Reads a host number that may be left out with `null`. -/
def readHostIdOrNull? : Value → Option (Option HostId)
  | .null => some none
  | v => (readHostId? v).map some

namespace Report

def kind : Report → String
  | hostConnected .. => "host_connected"
  | hostDisconnected .. => "host_disconnected"
  | terminalAdded .. => "terminal_added"
  | terminalOutput .. => "terminal_output"
  | terminalClosed .. => "terminal_closed"
  | directoryListing .. => "directory_listing_received"

def kinds : List String :=
  ["host_connected", "host_disconnected", "terminal_added", "terminal_output", "terminal_closed",
    "directory_listing_received"]

def fields : Report → Members
  | hostConnected info =>
    [("host_id", HostId.value info.id), ("host_ip", .text info.ip),
      ("host_user_name", .text info.userName), ("host_name", .text info.name)]
  | hostDisconnected host => [("host_id", HostId.value host)]
  | terminalAdded host terminal =>
    [("host_id", HostId.value host), ("terminal_id", TerminalId.value terminal)]
  | terminalOutput terminal output =>
    [("terminal_id", TerminalId.value terminal), ("output", output.value)]
  | terminalClosed none terminal => [("terminal_id", TerminalId.value terminal)]
  | terminalClosed (some host) terminal =>
    [("host_id", HostId.value host), ("terminal_id", TerminalId.value terminal)]
  | directoryListing terminal path files =>
    [("terminal_id", TerminalId.value terminal), ("req_path", .text path),
      ("files", .array (files.map ListedFile.value))]

def value (r : Report) : Value := .object (("type", .text r.kind) :: r.fields)

def ofMembers? (kind : String) (members : Members) : Option Report :=
  let field := fun name => members.last? name
  match kind with
  | "host_connected" => return hostConnected {
      id := ← required readHostId? (field "host_id")
      ip := ← defaulted "" Value.text? (field "host_ip")
      userName := ← defaulted "" Value.text? (field "host_user_name")
      name := ← defaulted "" Value.text? (field "host_name") }
  | "host_disconnected" => return hostDisconnected (← required readHostId? (field "host_id"))
  | "terminal_added" =>
    return terminalAdded (← required readHostId? (field "host_id"))
      (← required readTerminalId? (field "terminal_id"))
  | "terminal_output" =>
    return terminalOutput (← required readTerminalId? (field "terminal_id"))
      (← required Payload.ofValue? (field "output"))
  | "terminal_closed" =>
    return terminalClosed (← defaulted none readHostIdOrNull? (field "host_id"))
      (← required readTerminalId? (field "terminal_id"))
  | "directory_listing_received" =>
    return directoryListing (← required readTerminalId? (field "terminal_id"))
      (← required Value.text? (field "req_path")) (← defaulted [] readFiles? (field "files"))
  | _ => none

inductive DecodeError where
  | notJson
  | missingType
  | unknownType (kind : String)
  | badMembers (kind : String)
deriving DecidableEq, Repr

def DecodeError.fault : DecodeError → Fault
  | notJson => ⟨.malformed, "not a JSON value"⟩
  | missingType => ⟨.malformed, "missing type"⟩
  | unknownType kind => ⟨.unknownType, kind⟩
  | badMembers kind => ⟨.malformed, "members do not fit type " ++ kind⟩

def ofValue (v : Value) : Except DecodeError Report :=
  match v, (v.get? "type").bind Value.text? with
  | .object members, some kind =>
    if kind ∈ kinds then
      match ofMembers? kind members with
      | some report => .ok report
      | none => .error (.badMembers kind)
    else .error (.unknownType kind)
  | _, _ => .error .missingType

def decode (text : String) : Except DecodeError Report :=
  match Value.read? text with
  | some v => ofValue v
  | none => .error .notJson

end Report

end Switchboard.Wire
