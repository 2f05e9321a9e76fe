import RecordQuery.Json.Basic

/-!
# Diagnostics

What the reader of a query puts up with.  A lenient reading goes on after each of these and lists
them; a strict reading fails with the first one, and then `Diagnostic.message` is its error text.
-/

namespace RecordQuery

/-- A problem that a lenient reading absorbs. -/
inductive Diagnostic where
  /-- A segment of the filter is not `field operator value` and was dropped. -/
  | droppedSegment (segment : String)
  /-- The connective `or` was read as if it were `and`. -/
  | orIgnored
  /-- A page parameter is not a natural number and counts as absent. -/
  | invalidNumber (param value : String)
deriving DecidableEq

namespace Diagnostic

/-- The error text of a strict reading. -/
def message : Diagnostic → String
  | droppedSegment segment => "Invalid filter segment: '" ++ segment ++ "'"
  | orIgnored => "Unsupported connective 'or' in $filter; conditions are combined with AND"
  | invalidNumber param value =>
    "Invalid " ++ param ++ ": '" ++ value ++ "' is not a nonnegative integer"

/-- The JSON form: the kind, then what it is about. -/
def toJson : Diagnostic → Json
  | droppedSegment segment =>
    .object [("kind", .string "dropped_filter_segment"), ("segment", .string segment)]
  | orIgnored => .object [("kind", .string "or_connective_ignored")]
  | invalidNumber param value =>
    .object [("kind", .string "invalid_number"), ("param", .string param), ("value", .string value)]

end Diagnostic

end RecordQuery
