import Switchboard.Ident
import Switchboard.Number.Decimal
import Switchboard.Text.Blank

/-!
# Console lines

A line that begins with a colon is a command, given by its words; any other line is typed into the
presented terminal, followed by a carriage return.
-/

namespace Switchboard

inductive Command where
  | hosts
  | host (id : HostId)
  | add
  | slot (n : UInt64)
  | close (n : Option UInt64)
  | files
  | ls (path : String)
  | openEntry (name : String)
  | resize (size : Size)
  | keys (text : String)
deriving DecidableEq, Repr

inductive CommandError where
  | number (e : Number.NumberError)
  | slotZero
  | unknown (line : String)
deriving DecidableEq, Repr

def CommandError.message : CommandError → String
  | number e => e.message
  | slotZero => "slots are numbered from 1"
  | unknown line => "unknown command: " ++ line

namespace Command

def readNumber (max : Nat) (word : String) : Except CommandError Nat :=
  (Number.readNumber max word).mapError .number

def readHost (word : String) : Except CommandError HostId := do
  return ⟨UInt32.ofNat (← readNumber (UInt32.size - 1) word)⟩

def readSlot (word : String) : Except CommandError UInt64 := do
  let n ← readNumber (UInt64.size - 1) word
  if n = 0 then throw .slotZero else return UInt64.ofNat n

def readExtent (word : String) : Except CommandError UInt16 := do
  return UInt16.ofNat (← readNumber (UInt16.size - 1) word)

/-- The command with these words; `line` is what is reported if there is none. -/
def ofWords (line : String) : List String → Except CommandError Command
  | ["hosts"] => return hosts
  | ["host", id] => return host (← readHost id)
  | ["add"] => return add
  | ["slot", n] => return slot (← readSlot n)
  | ["close"] => return close none
  | ["close", n] => return close (some (← readSlot n))
  | ["files"] => return files
  | ["ls"] => return ls "/"
  | ["ls", path] => return ls path
  | "open" :: name :: more => return openEntry (" ".intercalate (name :: more))
  | ["resize", cols, rows] => return resize ⟨← readExtent cols, ← readExtent rows⟩
  | _ => throw (.unknown line)

def withoutLineEnds (line : String) : String :=
  Text.trimEnd (fun c => c == '\r' || c == '\n') line

def parse (line : String) : Except CommandError Command :=
  let line := withoutLineEnds line
  match Text.after? ":" line with
  | none => return keys (line ++ "\r")
  | some command => ofWords line (Text.words command)

end Command

end Switchboard
