import Switchboard.Url.Idna.MappingRows

/-!
# The mapping of domains

Before a domain is compared or resolved, each of its characters is replaced: letters by small
letters, variants by the plain character, full stops of other scripts by a point. Some characters
vanish and some are refused.
-/

namespace Switchboard.Url.Idna

def mapping : List Item := readRows mappingRows

def disallowed : List Item := readRows disallowedRows

/-- What a character is replaced by, or nothing if no domain may hold it. -/
def map? (n : Nat) : Option (List Nat) :=
  if n < 0x80 then some [if 0x41 ≤ n ∧ n ≤ 0x5A then n + 0x20 else n]
  else
    match assigned? mapping n with
    | some ns => some ns
    | none => if holds disallowed n then none else some [n]

def isStable (n : Nat) : Bool := map? n == some [n]

def mapAll? (ns : List Nat) : Option (List Nat) := (ns.mapM map?).map List.flatten

end Switchboard.Url.Idna
