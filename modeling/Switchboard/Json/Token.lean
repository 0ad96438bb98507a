import Switchboard.Json.Numeral

/-!
# Tokens of a JSON text

`Token.scan?` cuts a text into tokens. Texts hold no raw control characters, and their escapes of
surrogates come in pairs.
-/

namespace Switchboard.Json

inductive Token where
  | openBrace
  | closeBrace
  | openBracket
  | closeBracket
  | colon
  | comma
  | null
  | bool (b : Bool)
  | number (n : Numeral)
  | text (s : String)
deriving DecidableEq, Repr

def hexValue? (c : Char) : Option Nat :=
  if c.isDigit then some (c.toNat - '0'.toNat)
  else if 'a' ≤ c ∧ c ≤ 'f' then some (c.toNat - 'a'.toNat + 10)
  else if 'A' ≤ c ∧ c ≤ 'F' then some (c.toNat - 'A'.toNat + 10)
  else none

def hexUnit? (a b c d : Char) : Option Nat := do
  let a ← hexValue? a
  let b ← hexValue? b
  let c ← hexValue? c
  let d ← hexValue? d
  return ((a * 16 + b) * 16 + c) * 16 + d

def isHighSurrogate (n : Nat) : Bool := 0xD800 ≤ n && n < 0xDC00

def isLowSurrogate (n : Nat) : Bool := 0xDC00 ≤ n && n < 0xE000

def ofSurrogates (high low : Nat) : Char :=
  Char.ofNat (0x10000 + (high - 0xD800) * 0x400 + (low - 0xDC00))

def simpleEscape? : Char → Option Char
  | '"' => some '"'
  | '\\' => some '\\'
  | '/' => some '/'
  | 'b' => some '\x08'
  | 'f' => some '\x0c'
  | 'n' => some '\n'
  | 'r' => some '\r'
  | 't' => some '\t'
  | _ => none

/-- Reads the characters of a text up to its closing quote, and the rest. -/
def readText? : List Char → Option (List Char × List Char)
  | [] => none
  | '"' :: rest => some ([], rest)
  | '\\' :: 'u' :: a :: b :: c :: d :: rest =>
    match hexUnit? a b c d with
    | none => none
    | some n =>
      if isHighSurrogate n then
        match rest with
        | '\\' :: 'u' :: e :: f :: g :: h :: rest =>
          match hexUnit? e f g h with
          | none => none
          | some m =>
            if isLowSurrogate m then
              (readText? rest).map fun (cs, r) => (ofSurrogates n m :: cs, r)
            else none
        | _ => none
      else if isLowSurrogate n then none
      else (readText? rest).map fun (cs, r) => (Char.ofNat n :: cs, r)
  | '\\' :: e :: rest =>
    match simpleEscape? e with
    | none => none
    | some c => (readText? rest).map fun (cs, r) => (c :: cs, r)
  | c :: rest =>
    if c = '\\' ∨ c.toNat < 0x20 then none
    else (readText? rest).map fun (cs, r) => (c :: cs, r)

def isSpace (c : Char) : Bool := c == ' ' || c == '\t' || c == '\n' || c == '\r'

def punctuation? : Char → Option Token
  | '{' => some .openBrace
  | '}' => some .closeBrace
  | '[' => some .openBracket
  | ']' => some .closeBracket
  | ':' => some .colon
  | ',' => some .comma
  | _ => none

/-- Reads the token at the front of a text that does not begin with a space, and the rest. -/
def Token.read? : List Char → Option (Token × List Char)
  | '"' :: cs => (readText? cs).map fun (s, rest) => (.text (String.ofList s), rest)
  | 'n' :: 'u' :: 'l' :: 'l' :: cs => some (.null, cs)
  | 't' :: 'r' :: 'u' :: 'e' :: cs => some (.bool true, cs)
  | 'f' :: 'a' :: 'l' :: 's' :: 'e' :: cs => some (.bool false, cs)
  | c :: cs =>
    match punctuation? c with
    | some t => some (t, cs)
    | none => (Numeral.read? (c :: cs)).map fun (n, rest) => (.number n, rest)
  | [] => none

/-- The tokens of a text. The count bounds how many are looked for. -/
def Token.scanUpTo? : Nat → List Char → Option (List Token)
  | 0, cs => if cs.all isSpace then some [] else none
  | limit + 1, cs =>
    match cs.dropWhile isSpace with
    | [] => some []
    | c :: cs =>
      match Token.read? (c :: cs) with
      | none => none
      | some (t, rest) => (Token.scanUpTo? limit rest).map (t :: ·)

/-- The tokens of a text; none is empty, so there are at most as many as characters. -/
def Token.scan? (cs : List Char) : Option (List Token) := Token.scanUpTo? cs.length cs

end Switchboard.Json
