import Switchboard.Json.Token

/-!
# Reading JSON

`Reader.step` takes one token; the containers that are still open are kept as a stack. At most 127
containers may be open at a time. `Value.read?` reads a text that is one value.
-/

namespace Switchboard.Json

/-- A container whose items are still being read, with the items so far, last one first. -/
inductive OpenContainer where
  | array (done : List Value)
  | object (done : Members) (key : String)

/-- What has been read so far. `outer` are the open containers, innermost first. -/
inductive Reader where
  | value (outer : List OpenContainer)
  | firstItem (outer : List OpenContainer)
  | firstKey (outer : List OpenContainer)
  | nextKey (done : Members) (outer : List OpenContainer)
  | colon (done : Members) (key : String) (outer : List OpenContainer)
  | complete (v : Value) (outer : List OpenContainer)

def maxDepth : Nat := 127

def Reader.beginValue (outer : List OpenContainer) : Token → Option Reader
  | .null => some (.complete .null outer)
  | .bool b => some (.complete (.bool b) outer)
  | .number n => some (.complete (.number n) outer)
  | .text s => some (.complete (.text s) outer)
  | .openBracket => if outer.length < maxDepth then some (.firstItem outer) else none
  | .openBrace => if outer.length < maxDepth then some (.firstKey outer) else none
  | .closeBracket | .closeBrace | .colon | .comma => none

def Reader.afterValue (v : Value) : List OpenContainer → Token → Option Reader
  | .array done :: outer, .comma => some (.value (.array (v :: done) :: outer))
  | .array done :: outer, .closeBracket =>
    some (.complete (.array (v :: done).reverse) outer)
  | .object done key :: outer, .comma => some (.nextKey ((key, v) :: done) outer)
  | .object done key :: outer, .closeBrace =>
    some (.complete (.object ((key, v) :: done).reverse) outer)
  | _, _ => none

def Reader.step : Reader → Token → Option Reader
  | .value outer, t => beginValue outer t
  | .firstItem outer, .closeBracket => some (.complete (.array []) outer)
  | .firstItem outer, t => beginValue (.array [] :: outer) t
  | .firstKey outer, .closeBrace => some (.complete (.object []) outer)
  | .firstKey outer, .text key => some (.colon [] key outer)
  | .nextKey done outer, .text key => some (.colon done key outer)
  | .colon done key outer, .colon => some (.value (.object done key :: outer))
  | .complete v outer, t => afterValue v outer t
  | _, _ => none

def Reader.result? : Reader → Option Value
  | .complete v [] => some v
  | _ => none

def Value.ofTokens? (ts : List Token) : Option Value :=
  (ts.foldlM Reader.step (.value [])).bind Reader.result?

def Value.read? (s : String) : Option Value := (Token.scan? s.toList).bind Value.ofTokens?

end Switchboard.Json
