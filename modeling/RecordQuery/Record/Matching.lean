import RecordQuery.Condition
import RecordQuery.Record.Basic
import RecordQuery.Text.Lowercase
import RecordQuery.Text.Occurrence

/-!
# Matching

When a record satisfies a condition, and when it contains a search term.  A condition on a field
that the record lacks is false for every operator, `ne` included, and so is one that orders values
of different types.  `Condition.holds` is the engine's `matches_condition`.

Texts are compared in lower case, and only strings have a text to look into: the text operators
never match a number by its digits.  The literal of a text operator is taken by its text whatever
its type.
-/

namespace RecordQuery

namespace Value

/-- The order of a value and a literal is one that the operator asks for (the engine's
`ordering_holds`). -/
def ordered (operator : Operator) : Ordering → Bool
  | .lt => operator = .lt || operator = .le
  | .eq => operator = .ge || operator = .le
  | .gt => operator = .gt || operator = .ge

/-- The text stands in the other one, at the place that the operator asks for. -/
def textMatches (operator : Operator) (needle haystack : List Char) : Bool :=
  match operator with
  | .contains => Text.occursIn needle haystack
  | .startsWith => needle.isPrefixOf haystack
  | .endsWith => needle.isSuffixOf haystack
  | _ => false

/-- The string of a value matches the text of a literal in lower case (the engine's
`text_match`). -/
def matchesText (operator : Operator) (v : Value) (literal : Literal) : Bool :=
  match v.string?, literal.text? with
  | some haystack, some needle =>
    textMatches operator (Text.lowercase needle.toList) (Text.lowercase haystack.toList)
  | _, _ => false

def isAmong : Value → Literal → Bool
  | string s, .strings items => items.contains s
  | _, _ => false

def satisfies (v : Value) (operator : Operator) (literal : Literal) : Bool :=
  match operator with
  | .eq => v.equalsLiteral literal
  | .ne => !v.equalsLiteral literal
  | .isIn => v.isAmong literal
  | .gt | .ge | .lt | .le => (v.compareLiteral? literal).any (ordered operator)
  | .contains | .startsWith | .endsWith => v.matchesText operator literal

end Value

namespace Condition

def holds (c : Condition) (r : Record) : Bool :=
  match r.get? c.field with
  | none => false
  | some v => v.satisfies c.operator c.value

def allHold (conditions : List Condition) (r : Record) : Bool := conditions.all (·.holds r)

end Condition

namespace Record

/-- Some string of the record contains the term, in lower case (the engine's
`SearchFilter::matches`). -/
def containsTerm (term : String) (r : Record) : Bool :=
  let needle := Text.lowercase term.toList
  r.entries.any fun (_, v) => v.string?.any fun s => Text.occursIn needle (Text.lowercase s.toList)

end Record

end RecordQuery
