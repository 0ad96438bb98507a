import Switchboard.Text.Trim

/-!
# White space

The characters with the Unicode property White_Space, the words between them, and a text without
those at its end.
-/

namespace Switchboard.Text

def isBlank (c : Char) : Bool :=
  let n := c.toNat
  (9 ≤ n && n ≤ 13) || n == 0x20 || n == 0x85 || n == 0xA0 || n == 0x1680 ||
    (0x2000 ≤ n && n ≤ 0x200A) || n == 0x2028 || n == 0x2029 || n == 0x202F || n == 0x205F ||
    n == 0x3000

/-- The longest runs of characters that are not white space, in order. -/
def wordsOf (cs : List Char) : List (List Char) :=
  (cs.splitOnP isBlank).filter (fun word => !word.isEmpty)

def words (s : String) : List String := (wordsOf s.toList).map String.ofList

def trimBlankEnd (s : String) : String := trimEnd isBlank s

end Switchboard.Text
