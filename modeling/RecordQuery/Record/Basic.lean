import RecordQuery.FieldMap
import RecordQuery.Json.Printer
import RecordQuery.Record.Value

/-!
# Records

A record is an insertion-ordered map from field names to values.  There is no schema: any record may
lack any field, and a field may hold values of different types in different records.
-/

namespace RecordQuery

abbrev Record := FieldMap Value

namespace Record

/-- The record with the given fields only, in the given order.  Fields that the record lacks are
left out. -/
def project (r : Record) (fields : List String) : Record :=
  .ofList (fields.filterMap fun field => (r.get? field).map fun value => (field, value))

/-- The two lists hold the same fields in the same order with equal values. -/
def equalEntries : List (String × Value) → List (String × Value) → Bool
  | [], [] => true
  | (n, v) :: rest, (m, w) :: rest' => n == m && v.equals w && equalEntries rest rest'
  | _, _ => false

/-- The two records have the same fields in the same order with equal values. -/
def equals (r s : Record) : Bool := equalEntries r.entries s.entries

/-! ### JSON -/

/-- The record of the scalar members of an object, the engine's `from_json_map`. -/
def ofMembers (detectDates : Bool) (members : List (String × Json)) : Record :=
  .ofList (members.filterMap fun (name, value) =>
    (Value.ofJson? detectDates value).map fun v => (name, v))

def ofJson? (detectDates : Bool) : Json → Option Record
  | .object members => some (ofMembers detectDates members)
  | _ => none

/-- The JSON form: an object with the fields as members. -/
def toJson (r : Record) : Json :=
  .object (r.entries.foldl (fun members (name, v) => FieldMap.insertEntry name v.toJson members) [])

def fieldChars : List (String × Value) → List Char
  | [] => []
  | [(name, v)] => Json.quoted name ++ ':' :: v.toJson.toChars
  | (name, v) :: rest => Json.quoted name ++ ':' :: v.toJson.toChars ++ ',' :: fieldChars rest

/-- The compact JSON text of a record, written field by field. -/
def write (r : Record) : List Char := '\x7b' :: fieldChars r.entries ++ ['\x7d']

end Record

end RecordQuery
