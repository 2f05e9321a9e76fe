import RecordQuery.Json.Printer
import RecordQuery.Log.Severity

/-!
# Log lines

A log line is one JSON object: the event, the severity, and then the fields of the event in
ascending order of their keys.  Of a repeated key the last value counts.  Every text goes through
JSON quoting, so a line never holds a line break, whatever the fields say.  `Entry.line` is the
engine's `Logger::render`.
-/

namespace RecordQuery

/-- Something to be logged. -/
structure Entry where
  severity : Severity
  event : String
  fields : List (String × String)
deriving DecidableEq

namespace Entry

/-- The fields with the value under the key, at its place in ascending order. -/
def insertSorted (key value : String) : List (String × String) → List (String × String)
  | [] => [(key, value)]
  | (k, v) :: rest =>
    match compare key k with
    | .lt => (key, value) :: (k, v) :: rest
    | .eq => (key, value) :: rest
    | .gt => (k, v) :: insertSorted key value rest

/-- The fields in ascending order of their keys, each key once. -/
def sortedFields (fields : List (String × String)) : List (String × String) :=
  fields.foldl (fun sorted (key, value) => insertSorted key value sorted) []

def chars (e : Entry) : List Char :=
  "\x7b\"event\":".toList ++ Json.quoted e.event ++ ",\"severity\":".toList ++
    Json.quoted e.severity.label ++
    (sortedFields e.fields).flatMap (fun (key, value) =>
      ',' :: Json.quoted key ++ ':' :: Json.quoted value) ++
    ['\x7d']

def line (e : Entry) : String := String.ofList e.chars

end Entry

end RecordQuery
