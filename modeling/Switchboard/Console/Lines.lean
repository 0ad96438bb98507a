import Switchboard.Console.Command
import Switchboard.Text.Utf8

/-!
# Console input

Bytes of console input are read line by line. A line that is no command is skipped; a line that is
no text ends the input.
-/

namespace Switchboard.Console

def lineFeed : UInt8 := 10

def carriageReturn : UInt8 := 13

def withoutReturn (line : Bytes) : Bytes :=
  if line.getLast? = some carriageReturn then line.dropLast else line

/-- The lines of an input. What follows the last line end is a line only if it is not empty, and
keeps a carriage return at its end. -/
def lines (input : Bytes) : List Bytes :=
  let pieces := input.splitOn lineFeed
  pieces.dropLast.map withoutReturn ++ (pieces.getLast?.filter (· ≠ [])).toList

inductive InputEnd where
  /-- The input was read to its end, or nobody takes commands any more. -/
  | finished
  | badLine
deriving DecidableEq, Repr

def readLines (live : Bool) : List Bytes → List Command × InputEnd
  | [] => ([], .finished)
  | line :: rest =>
    match Text.text? line with
    | none => ([], .badLine)
    | some text =>
      match Command.parse text with
      | .error _ => readLines live rest
      | .ok command =>
        if live then
          let (commands, ended) := readLines live rest
          (command :: commands, ended)
        else ([], .finished)

def readCommands (live : Bool) (input : Bytes) : List Command × InputEnd :=
  readLines live (lines input)

end Switchboard.Console
