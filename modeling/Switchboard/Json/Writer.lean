import Switchboard.Json.Value
import Switchboard.Number.Decimal

/-!
# Writing JSON

Values are written without spaces. In a text only the quote, the backslash and the control
characters below U+0020 are escaped.
-/

namespace Switchboard.Json

def hexDigit (n : Nat) : Char := if n < 10 then Char.ofNat (48 + n) else Char.ofNat (87 + n)

def escapeChar (c : Char) : List Char :=
  if c = '"' then ['\\', '"']
  else if c = '\\' then ['\\', '\\']
  else if c = '\x08' then ['\\', 'b']
  else if c = '\x0c' then ['\\', 'f']
  else if c = '\n' then ['\\', 'n']
  else if c = '\r' then ['\\', 'r']
  else if c = '\t' then ['\\', 't']
  else if c.toNat < 0x20 then
    ['\\', 'u', '0', '0', hexDigit (c.toNat / 16), hexDigit (c.toNat % 16)]
  else [c]

def quote (s : String) : List Char := '"' :: s.toList.flatMap escapeChar ++ ['"']

def Numeral.write : Numeral → List Char
  | natural n => (Number.decimal n).toList
  | negative n => '-' :: (Number.decimal n).toList
  | other written => written.toList

mutual

def Value.write : Value → List Char
  | .null => "null".toList
  | .bool true => "true".toList
  | .bool false => "false".toList
  | .number n => n.write
  | .text s => quote s
  | .array [] => ['[', ']']
  | .array (v :: vs) => '[' :: Value.write v ++ writeItems vs
  | .object [] => ['{', '}']
  | .object ((key, v) :: ms) => '{' :: quote key ++ ':' :: Value.write v ++ writeMembers ms

def writeItems : List Value → List Char
  | [] => [']']
  | v :: vs => ',' :: Value.write v ++ writeItems vs

def writeMembers : List (String × Value) → List Char
  | [] => ['}']
  | (key, v) :: ms => ',' :: quote key ++ ':' :: Value.write v ++ writeMembers ms

end

def Value.render (v : Value) : String := String.ofList v.write

end Switchboard.Json
