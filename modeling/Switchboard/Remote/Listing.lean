import Switchboard.Remote.ByteCount
import Switchboard.Remote.Calendar
import Switchboard.Remote.Path
import Switchboard.Wire.Report

/-!
# Directory listings

What is shown of a remote directory, and where opening an entry leads. Below the root the first
entry leads to the directory above.
-/

namespace Switchboard.Remote

inductive EntryKind where
  | parent
  | directory
  | file
deriving DecidableEq, Repr

structure Entry where
  name : String
  path : String
  kind : EntryKind
  size : UInt64
  /-- Seconds since the start of 1970, or 0 when unknown. -/
  modified : UInt64
deriving DecidableEq, Repr

def Entry.isDirectory (e : Entry) : Bool := e.kind != .file

def Entry.shownSize? (e : Entry) : Option String :=
  if e.isDirectory then none else some (formatSize e.size.toNat)

def Entry.shownTime? (e : Entry) : Option String :=
  if e.modified = 0 then none else some (formatTimestamp e.modified.toNat)

structure Listing where
  path : String
  entries : List Entry
deriving DecidableEq, Repr

inductive Navigation where
  | list (path : String)
  | download (path : String)
deriving DecidableEq, Repr

def parentName : String := ".."

def Entry.parentOf (path : String) : Entry where
  name := parentName
  path := parentPath path
  kind := .parent
  size := 0
  modified := 0

def Entry.ofListed (path : String) (f : Wire.ListedFile) : Entry where
  name := f.name
  path := joinPath path f.name
  kind := if f.isDirectory then .directory else .file
  size := f.size
  modified := f.modified

def Listing.ofFiles (path : String) (files : List Wire.ListedFile) : Listing :=
  let path := normalize path
  { path := path
    entries := (if path = root then [] else [Entry.parentOf path]) ++
      files.map (Entry.ofListed path) }

def Listing.find? (l : Listing) (name : String) : Option Nat :=
  l.entries.findIdx? (·.name == name)

def Entry.navigation (e : Entry) : Navigation :=
  if e.isDirectory then .list e.path else .download e.path

def Listing.navigate? (l : Listing) (index : Nat) : Option Navigation :=
  l.entries[index]?.map Entry.navigation

end Switchboard.Remote
