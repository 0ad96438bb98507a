import Switchboard.Ident
import Switchboard.Json.Value
import Switchboard.Text.Utf8

/-!
# Fields of a message

A message has a fixed list of fields. Their values are found by name, or by position in an array,
and then read one by one. A field may be missing where it has a default.
-/

namespace Switchboard.Wire

open Json

abbrev Fields := List (Option Value)

/-- Finds fields by name. The last of several members with one name counts. -/
def Fields.lastNamed (names : List String) (members : Members) : Fields :=
  names.map fun name => members.last? name

/-- Finds fields by name. No name of a field may occur twice. -/
def Fields.onceNamed? (names : List String) (members : Members) : Option Fields :=
  if names.all fun name => members.occurrences name ≤ 1 then some (lastNamed names members)
  else none

/-- Finds fields by position. There may be fewer values than fields, but not more. -/
def Fields.positional? (names : List String) (values : List Value) : Option Fields :=
  if values.length ≤ names.length then
    some (values.map some ++ List.replicate (names.length - values.length) none)
  else none

def required {α : Type} (read : Value → Option α) (field : Option Value) : Option α :=
  field.bind read

def defaulted {α : Type} (default : α) (read : Value → Option α) : Option Value → Option α
  | none => some default
  | some v => read v

def readWord8? : Value → Option UInt8
  | .number (.natural n) => if h : n < UInt8.size then some (UInt8.ofNatLT n h) else none
  | _ => none

def readWord16? : Value → Option UInt16
  | .number (.natural n) => if h : n < UInt16.size then some (UInt16.ofNatLT n h) else none
  | _ => none

def readWord32? : Value → Option UInt32
  | .number (.natural n) => if h : n < UInt32.size then some (UInt32.ofNatLT n h) else none
  | _ => none

def readWord64? : Value → Option UInt64
  | .number (.natural n) => if h : n < UInt64.size then some (UInt64.ofNatLT n h) else none
  | _ => none

def readHostId? (v : Value) : Option HostId := (readWord32? v).map HostId.mk

def readTerminalId? (v : Value) : Option TerminalId := (readWord32? v).map TerminalId.mk

def readBytes? : Value → Option Bytes
  | .array items => items.mapM readWord8?
  | _ => none

def natural (n : Nat) : Value := .number (.natural n)

def HostId.value (h : HostId) : Value := natural h.number.toNat

def TerminalId.value (t : TerminalId) : Value := natural t.number.toNat

def bytesValue (bs : Bytes) : Value := .array (bs.map fun b => natural b.toNat)

@[simp]
theorem readWord8?_natural (w : UInt8) : readWord8? (natural w.toNat) = some w := by
  simp [readWord8?, natural, w.toNat_lt_size]

@[simp]
theorem readWord16?_natural (w : UInt16) : readWord16? (natural w.toNat) = some w := by
  simp [readWord16?, natural, w.toNat_lt_size]

@[simp]
theorem readWord32?_natural (w : UInt32) : readWord32? (natural w.toNat) = some w := by
  simp [readWord32?, natural, w.toNat_lt_size]

@[simp]
theorem readWord64?_natural (w : UInt64) : readWord64? (natural w.toNat) = some w := by
  simp [readWord64?, natural, w.toNat_lt_size]

@[simp]
theorem readHostId?_value (h : HostId) : readHostId? (HostId.value h) = some h := by
  simp [readHostId?, HostId.value]

@[simp]
theorem readTerminalId?_value (t : TerminalId) :
    readTerminalId? (TerminalId.value t) = some t := by
  simp [readTerminalId?, TerminalId.value]

/-- Items that are read back one by one are read back together. -/
theorem mapM_map_of_read {α β : Type} {read : β → Option α} {write : α → β}
    (back : ∀ a, read (write a) = some a) (as : List α) : (as.map write).mapM read = some as := by
  induction as with
  | nil => rfl
  | cons a as ih => simp [back, ih]

@[simp]
theorem readBytes?_bytesValue (bs : Bytes) : readBytes? (bytesValue bs) = some bs :=
  mapM_map_of_read readWord8?_natural bs

end Switchboard.Wire
