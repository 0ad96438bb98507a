import Switchboard.Text.Hidden

/-!
# Quoted texts

A text between double quotes in which every character can be seen: quotes and backslashes are
escaped by a backslash, the common controls by a letter, and any other character that is not seen by
itself by its code point.
-/

namespace Switchboard.Text

def hexadecimal (n : Nat) : List Char := Nat.toDigits 16 n

def escapeLetter? : Char → Option Char
  | '\x00' => some '0'
  | '\t' => some 't'
  | '\r' => some 'r'
  | '\n' => some 'n'
  | '\\' => some '\\'
  | '"' => some '"'
  | _ => none

def quoteChar (c : Char) : List Char :=
  match escapeLetter? c with
  | some letter => ['\\', letter]
  | none =>
    if isHidden c then ['\\', 'u', '\x7b'] ++ hexadecimal c.toNat ++ ['\x7d'] else [c]

def quoted (s : String) : String :=
  String.ofList (['"'] ++ s.toList.flatMap quoteChar ++ ['"'])

end Switchboard.Text
