import RecordQuery.Record.Basic

/-!
# Results

What a query yields: the records of the page, and the number of matching records if it was asked
for.  There are two ways to the JSON text of a result, through a JSON value (`Result.toJson`) and
straight to characters (`Result.write`).
-/

namespace RecordQuery

/-- The outcome of a query. -/
structure Result where
  data : List Record
  count : Option Nat
deriving DecidableEq

namespace Result

def empty : Result := ⟨[], none⟩

def toJson (r : Result) : Json :=
  .object (("data", .array (r.data.map Record.toJson)) ::
    (r.count.map fun n => ("count", Json.integer n)).toList)

def recordChars : List Record → List Char
  | [] => []
  | [r] => r.write
  | r :: rest => r.write ++ ',' :: recordChars rest

/-- The compact JSON text of a result, written record by record. -/
def write (r : Result) : List Char :=
  "\x7b\"data\":[".toList ++ recordChars r.data ++ "]".toList ++
    (match r.count with
      | some n => ",\"count\":".toList ++ Decimal.text n
      | none => []) ++ "\x7d".toList

end Result

end RecordQuery
