import Switchboard.Json.Reader
import Switchboard.Json.Writer
import Switchboard.Wire.Fault
import Switchboard.Wire.Fields

/-!
# Requests to the server

A request is sent as one text frame that holds a JSON object, its `type` first and then its fields
in order. It is read from an object, in which nothing known may be repeated, or from an array of the
type and the fields.
-/

namespace Switchboard.Wire

open Json

inductive Request where
  | openTerminal (host : HostId)
  | resize (terminal : TerminalId) (size : Size)
  | key (terminal : TerminalId) (text : String)
  | closeTerminal (terminal : TerminalId)
  | file (terminal : TerminalId) (path : String) (list : Bool)
deriving DecidableEq, Repr

namespace Request

def kind : Request → String
  | openTerminal .. => "terminal_req"
  | resize .. => "terminal_resize"
  | key .. => "terminal_key"
  | closeTerminal .. => "terminal_del"
  | file .. => "file_req"

def fields : Request → Members
  | openTerminal host => [("remote_host_id", HostId.value host)]
  | resize terminal size =>
    [("terminal_id", TerminalId.value terminal), ("width", natural size.cols.toNat),
      ("height", natural size.rows.toNat)]
  | key terminal text => [("terminal_id", TerminalId.value terminal), ("key", .text text)]
  | closeTerminal terminal => [("terminal_id", TerminalId.value terminal)]
  | file terminal path list =>
    [("terminal_id", TerminalId.value terminal), ("path", .text path), ("list", .bool list)]

def value (r : Request) : Value := .object (("type", .text r.kind) :: r.fields)

def encode (r : Request) : String := r.value.render

def fieldNames? : String → Option (List String)
  | "terminal_req" => some ["remote_host_id"]
  | "terminal_resize" => some ["terminal_id", "width", "height"]
  | "terminal_key" => some ["terminal_id", "key"]
  | "terminal_del" => some ["terminal_id"]
  | "file_req" => some ["terminal_id", "path", "list"]
  | _ => none

def ofFields? (kind : String) (fields : Fields) : Option Request :=
  match kind, fields with
  | "terminal_req", [host] => return openTerminal (← required readHostId? host)
  | "terminal_resize", [terminal, width, height] =>
    return resize (← required readTerminalId? terminal)
      ⟨← required readWord16? width, ← required readWord16? height⟩
  | "terminal_key", [terminal, text] =>
    return key (← required readTerminalId? terminal) (← required Value.text? text)
  | "terminal_del", [terminal] => return closeTerminal (← required readTerminalId? terminal)
  | "file_req", [terminal, path, list] =>
    return file (← required readTerminalId? terminal) (← required Value.text? path)
      (← defaulted false Value.bool? list)
  | _, _ => none

def ofValue? : Value → Option Request
  | .object members => do
    if Members.occurrences "type" members = 1 then
      let kind ← (Members.last? "type" members).bind Value.text?
      let names ← fieldNames? kind
      ofFields? kind (← Fields.onceNamed? names members)
    else none
  | .array (.text kind :: values) => do
    let names ← fieldNames? kind
    ofFields? kind (← Fields.positional? names values)
  | _ => none

def decode? (text : String) : Option Request := (Value.read? text).bind ofValue?

/-- Writes a request to a socket: the text frame, or the fault of a socket that takes no more. -/
def transmit (socketOpen : Bool) (r : Request) : Except Fault String :=
  if socketOpen then .ok r.encode
  else .error { code := .sendFailed, message := r.kind ++ " not sent" }

end Request

end Switchboard.Wire
