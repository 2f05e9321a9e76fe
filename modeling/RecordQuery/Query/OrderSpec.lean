import RecordQuery.FieldMap
import RecordQuery.Json.Basic
import RecordQuery.Text.Words

/-!
# Orders

An order assigns directions to fields.  The place of a field is its priority, so an order is an
insertion-ordered map: naming a field again changes its direction and not its priority.

An order clause lists its keys between commas.  The last word of a key, if there are several, is its
direction, and only the word `desc` means descending (`OrderSpec.ofText`, the engine's
`parse_order_by`).
-/

namespace RecordQuery

/-- The direction of a sort key. -/
inductive Direction where
  | ascending
  | descending
deriving DecidableEq

namespace Direction

def name : Direction → String
  | ascending => "asc"
  | descending => "desc"

def ofName? (name : String) : Option Direction :=
  if name = "asc" then some ascending else if name = "desc" then some descending else none

/-- The direction that a token stands for: `desc` in any case of letters, with blanks around it or
not, is descending, and everything else is ascending. -/
def ofToken (token : List Char) : Direction :=
  if Text.sameLetters (Text.trim token) "desc".toList then descending else ascending

end Direction

/-- An order of records: fields in priority order, each with a direction. -/
abbrev OrderSpec := FieldMap Direction

namespace OrderSpec

/-- The field and the direction that a trimmed segment spells. -/
def keyOf (segment : List Char) : String × Direction :=
  match Text.cutAtLastBlank segment with
  | some (field, token) => (String.ofList (Text.trimEnd field), .ofToken token)
  | none => (String.ofList segment, .ascending)

def keysOf (clause : List Char) : List (String × Direction) :=
  (((clause.splitOn ',').map Text.trim).filter (· ≠ [])).map keyOf

def ofText (clause : List Char) : OrderSpec := FieldMap.ofList (keysOf clause)

def toJson (spec : OrderSpec) : Json :=
  .array (spec.entries.map fun (field, direction) =>
    .object [("field", .string field), ("direction", .string direction.name)])

end OrderSpec

end RecordQuery
