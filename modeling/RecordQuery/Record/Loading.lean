import RecordQuery.Log.Logger
import RecordQuery.Record.Basic

/-!
# Loading records

A JSON array is loaded element by element.  An element that is not an object is skipped, and so is a
member of an object that is itself an array or an object, since a record is flat.  Whatever is
skipped is listed, in the order of the document, with the place of its element in the array.
-/

namespace RecordQuery

/-- A part of a document that has no place in a record. -/
inductive Skip where
  /-- A nested member of the element at the position. -/
  | field (name : String) (position : Nat)
  /-- The element at the position, which is not an object. -/
  | element (position : Nat)
deriving DecidableEq

/-- The records of a document, and what was skipped. -/
structure Loading where
  records : List Record
  skipped : List Skip

namespace Loading

/-- The parts of the element at a position that have no place in a record. -/
def skips (position : Nat) : Json → List Skip
  | .object members =>
    (members.filter fun (_, value) => !value.isScalar).map fun (name, _) => .field name position
  | _ => [.element position]

/-- The skips of the elements from a position on. -/
def skipsFrom : (position : Nat) → List Json → List Skip
  | _, [] => []
  | position, item :: items => skips position item ++ skipsFrom (position + 1) items

/-- The loading of a document, which has to be an array. -/
def ofJson? (detectDates : Bool) : Json → Option Loading
  | .array items => some ⟨items.filterMap (Record.ofJson? detectDates), skipsFrom 0 items⟩
  | _ => none

end Loading

/-- Logs what was skipped, with its position. -/
def Skip.logTo (l : Logger) : Skip → Logged Unit
  | field name position =>
    l.event .recordFieldSkipped .warn [("field", name), ("record", countText position)]
  | element position =>
    l.event .recordFieldSkipped .warn
      [("reason", "not an object"), ("record", countText position)]

end RecordQuery
