import Switchboard.Url.Percent

/-!
# Paths of URLs

A path is a list of segments. Reading one carries out its dot segments: `.` is dropped, and `..`
removes the segment before it, unless that one begins like a drive letter. A dot may be
percent-encoded.

In the path of a file a drive letter at the very front is written with a colon.
-/

namespace Switchboard.Url

def isIgnored (c : Char) : Bool := c == '\t' || c == '\n' || c == '\r'

def withoutIgnored (cs : List Char) : List Char := cs.filter (!isIgnored ·)

abbrev Path := List (List Char)

namespace Path

def dots : List (List Char) := [['.'], ['%', '2', 'e'], ['%', '2', 'E']]

def isSingleDot (seg : List Char) : Bool := seg ∈ dots

def isDoubleDot (seg : List Char) : Bool := seg ∈ dots.flatMap fun a => dots.map (a ++ ·)

/-- Whether a segment begins like a drive letter: nothing but a backslash may follow at once. -/
def beginsLikeDrive : List Char → Bool
  | letter :: mark :: rest =>
    letter.isAlpha && (mark == ':' || mark == '|') && rest.head?.all (· == '\\')
  | _ => false

def isDrive (seg : List Char) : Bool := seg.length == 2 && beginsLikeDrive seg

def isWrittenDrive (seg : List Char) : Bool := isDrive seg && seg.getLast? == some ':'

def writeDrive (seg : List Char) : List Char := seg.take 1 ++ [':']

/-- A path without its last segment; what begins like a drive letter stays. -/
def shorten (p : Path) : Path := if p.getLast?.any beginsLikeDrive then p else p.dropLast

/-- A path without the empty segments at its front, as far as others follow. -/
def withoutEmptyFront : Path → Path
  | [] :: next :: rest => withoutEmptyFront (next :: rest)
  | p => p

/-- Carries out a segment. `isLast` says whether no segment follows; after a dot segment the path
then ends with an empty segment. -/
def push (p : Path) (seg : List Char) (isLast : Bool) : Path :=
  if isDoubleDot seg then if isLast then p.shorten ++ [[]] else p.shorten
  else if isSingleDot seg then if isLast then p ++ [[]] else p
  else p ++ [seg]

def pushAll (p : Path) : List (List Char) → Path
  | [] => p
  | [seg] => p.push seg true
  | seg :: segs => (p.push seg false).pushAll segs

/-- The path of `name` beside the last segment of a path. A drive letter at the end of the path of a
file is never replaced: alone it is the directory of `name`, behind other segments `name` is written
after it. -/
def beside (isFile : Bool) (p : Path) (name : List Char) : Path :=
  match p.getLast? with
  | some last =>
    if isFile && isWrittenDrive last then
      if p.length = 1 then p ++ [name] else p.dropLast ++ [last ++ name]
    else p.dropLast ++ [name]
  | none => [name]

def text (p : Path) : String := String.ofList (p.flatMap ('/' :: ·))

end Path

structure FilePath where
  path : Path := []
  hasDrive : Bool := false
deriving DecidableEq, Repr

namespace FilePath

/-- A drive letter and the rest of its segment, if an ignored character stands between them. -/
def splitDrive? (raw : List Char) : Option (List Char × List Char) :=
  match raw.dropWhile isIgnored with
  | letter :: cs =>
    match cs.dropWhile isIgnored with
    | ':' :: c :: cs =>
      let rest := withoutIgnored cs
      if letter.isAlpha && isIgnored c && !rest.isEmpty then some ([letter, ':'], rest) else none
    | _ => none
  | [] => none

/-- Carries out a segment, given with its ignored characters. Where they set a drive letter at the
front off from the rest of its segment, the rest becomes a segment of its own as it stands. -/
def push (p : FilePath) (raw : List Char) (isLast : Bool) : FilePath :=
  let seg := encode .path (withoutIgnored raw)
  match p.path, splitDrive? raw with
  | [], some (drive, rest) => { p with path := [drive, encode .path rest] }
  | [], none =>
    if Path.isDrive seg then { path := [Path.writeDrive seg], hasDrive := true }
    else { p with path := Path.push [] seg isLast }
  | path, _ => { p with path := path.push seg isLast }

def pushAll (p : FilePath) : List (List Char) → FilePath
  | [] => p
  | [raw] => p.push raw true
  | raw :: raws => (p.push raw false).pushAll raws

end FilePath

end Switchboard.Url
