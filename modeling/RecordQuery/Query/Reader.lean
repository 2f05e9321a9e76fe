import RecordQuery.Log.Logger
import RecordQuery.Query.Basic
import RecordQuery.Query.Filter
import RecordQuery.Query.Parameters

/-!
# Reading queries

Reading never fails: what cannot be used is left out and listed among the diagnostics, in a fixed
order (the filter, then `$top`, then `$skip`), whatever the order of the parameters.  A strict
reading is a lenient one in which the first diagnostic counts as an error.

A value that is blank counts as absent, with two exceptions: `$count` is present with any value, and
a search term is kept with the blanks around it.

A reading is logged when it is complete: a warning for each diagnostic, and a summary of the query
whose fields are made up only for a logger that would write it.
-/

namespace RecordQuery

/-- A query that was read, and what was absorbed on the way. -/
structure Reading where
  query : Query
  diagnostics : List Diagnostic

namespace Reading

/-- The first natural number that is too large for a page parameter. -/
def pageLimit : Nat := 0x10000000000000000

/-- The natural number that a page parameter spells, digits after an optional plus (the engine's
`parse_nonnegative`). -/
def pageNumber? (text : List Char) : Option Nat :=
  let digits :=
    match text with
    | '+' :: cs => cs
    | cs => cs
  (Decimal.natural? digits).filter (· < pageLimit)

/-- The trimmed value of a parameter, unless it is blank (the engine's `non_empty`). -/
def text? (raw : RawParameters) (p : Parameter) : Option (List Char) :=
  ((raw.slot p).map fun value => Text.trim value.toList).filter (· ≠ [])

def pageDiagnostics (raw : RawParameters) (p : Parameter) : List Diagnostic :=
  match text? raw p with
  | none => []
  | some text =>
    if pageNumber? text = none then [.invalidNumber p.name (String.ofList text)] else []

def selection (text : List Char) : List String :=
  (((text.splitOn ',').map Text.trim).filter (· ≠ [])).map String.ofList

/-- What the filter says, nothing if there is none. -/
def filter (raw : RawParameters) : Filter := ((text? raw .filter).map Filter.ofText).getD ⟨[], []⟩

def capped (maxTop : Option Nat) (n : Nat) : Nat :=
  match maxTop with
  | some greatest => min n greatest
  | none => n

def queryOf (maxTop : Option Nat) (raw : RawParameters) : Query where
  conditions := some (filter raw).conditions |>.filter (· ≠ [])
  orderBy := ((text? raw .orderBy).map OrderSpec.ofText).filter fun spec => !spec.isEmpty
  limit := ((text? raw .top).bind pageNumber?).map (capped maxTop)
  offset := (text? raw .skip).bind pageNumber?
  select := ((text? raw .select).map selection).filter (· ≠ [])
  count := raw.count.map fun value => Text.sameLetters (Text.trim value.toList) "true".toList
  search := raw.search.filter fun term => !Text.isBlankText term

/-- The reading of the seven slots, the engine's `parse_raw`. -/
def ofRaw (maxTop : Option Nat) (raw : RawParameters) : Reading where
  query := queryOf maxTop raw
  diagnostics := (filter raw).diagnostics ++ pageDiagnostics raw .top ++ pageDiagnostics raw .skip

def ofParameters (maxTop : Option Nat) (ps : Parameters) : Reading := ofRaw maxTop ps.raw

def ofText (maxTop : Option Nat) (text : String) : Reading :=
  ofParameters maxTop (Parameters.ofText text)

/-- The query, unless something had to be absorbed; then the first diagnostic. -/
def strictly (r : Reading) : Except Diagnostic Query :=
  match r.diagnostics with
  | [] => .ok r.query
  | d :: _ => .error d

/-- The JSON form: the query, then the diagnostics. -/
def toJson (r : Reading) : Json :=
  .object [("query", r.query.toJson), ("diagnostics", .array (r.diagnostics.map Diagnostic.toJson))]

end Reading

/-! ### Logging -/

def Diagnostic.logTo (l : Logger) : Diagnostic → Logged Unit
  | droppedSegment segment => l.event .filterSegmentDropped .warn [("segment", segment)]
  | orIgnored => l.event .filterOrIgnored .warn []
  | invalidNumber param value =>
    l.event .paginationInvalid .warn [("param", param), ("value", value)]

/-- Logs the diagnostics of a reading and then its query, as `log_parse` does. -/
def Reading.logTo (l : Logger) (r : Reading) : Logged Unit := do
  r.diagnostics.forM (Diagnostic.logTo l)
  if l.enabled .trace then
    l.event .queryParsed .trace
      [("conditions", countText ((r.query.conditions.map List.length).getD 0)),
        ("sort_keys", countText ((r.query.orderBy.map FieldMap.size).getD 0))]

end RecordQuery
