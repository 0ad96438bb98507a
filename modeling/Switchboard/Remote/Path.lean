/-!
# Absolute paths on a remote host

A path is read as its segments between slashes. `normalize` writes the absolute path that is left
when empty and `.` segments are dropped and each `..` has removed the segment before it; at the root
`..` removes nothing.
-/

namespace Switchboard.Remote

abbrev Segment := List Char

def here : Segment := ['.']

def up : Segment := ['.', '.']

def Segment.isPlain (seg : Segment) : Bool := seg != [] && seg != here && seg != up

/-- The segments of a path as they are written, empty ones included. -/
def segments (path : String) : List Segment := path.toList.splitOn '/'

/-- One segment further, from the directory whose segments are `trail`, innermost first. -/
def descend (trail : List Segment) (seg : Segment) : List Segment :=
  if seg = [] ∨ seg = here then trail
  else if seg = up then trail.tail
  else seg :: trail

def resolve (segs : List Segment) : List Segment := (segs.foldl descend []).reverse

def absolute (segs : List Segment) : List Char :=
  if segs = [] then ['/'] else segs.flatMap ('/' :: ·)

def root : String := "/"

def normalize (path : String) : String := String.ofList (absolute (resolve (segments path)))

def parentPath (path : String) : String :=
  String.ofList (absolute (resolve (segments path)).dropLast)

def joinPath (dir name : String) : String := normalize (dir ++ "/" ++ name)

/-- The last segment of a path that is not empty, if it can name a local file. -/
def fileName? (path : String) : Option String :=
  (((segments path).filter (· ≠ [])).getLast?.filter Segment.isPlain).map String.ofList

theorem isPlain_iff {seg : Segment} :
    seg.isPlain = true ↔ seg ≠ [] ∧ seg ≠ here ∧ seg ≠ up := by
  simp [Segment.isPlain, and_assoc]

@[simp]
theorem descend_empty (trail : List Segment) : descend trail [] = trail := by simp [descend]

@[simp]
theorem descend_here (trail : List Segment) : descend trail here = trail := by simp [descend]

@[simp]
theorem descend_up (trail : List Segment) : descend trail up = trail.tail := by
  simp [descend, up, here]

theorem descend_of_isPlain (trail : List Segment) {seg : Segment} (h : seg.isPlain = true) :
    descend trail seg = seg :: trail := by
  obtain ⟨h₁, h₂, h₃⟩ := isPlain_iff.1 h
  simp [descend, h₁, h₂, h₃]

end Switchboard.Remote
