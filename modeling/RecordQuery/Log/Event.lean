import RecordQuery.Log.Line

/-!
# Events

The events that reading, loading and executing give rise to.  Each has a name of its own on the
lines of the log, and the events that report absorbed problems are logged as warnings at least.
-/

namespace RecordQuery

/-- An event. -/
inductive Event where
  | configLoaded
  | queryParsed
  | filterSegmentDropped
  | filterOrIgnored
  | paginationInvalid
  | recordFieldSkipped
  | stageApplied
  | queryExecuted
deriving DecidableEq

namespace Event

def name : Event → String
  | configLoaded => "CONFIG_LOADED"
  | queryParsed => "QUERY_PARSED"
  | filterSegmentDropped => "FILTER_SEGMENT_DROPPED"
  | filterOrIgnored => "FILTER_OR_IGNORED"
  | paginationInvalid => "PAGINATION_INVALID"
  | recordFieldSkipped => "RECORD_FIELD_SKIPPED"
  | stageApplied => "STAGE_APPLIED"
  | queryExecuted => "QUERY_EXECUTED"

def all : List Event :=
  [configLoaded, queryParsed, filterSegmentDropped, filterOrIgnored, paginationInvalid,
    recordFieldSkipped, stageApplied, queryExecuted]

def ofName? (name : String) : Option Event := all.find? fun e => e.name = name

def isDegradation : Event → Bool
  | filterSegmentDropped | filterOrIgnored | paginationInvalid | recordFieldSkipped => true
  | configLoaded | queryParsed | stageApplied | queryExecuted => false

/-- What is to be logged for an event of a severity. -/
def entry (e : Event) (severity : Severity) (fields : List (String × String)) : Entry where
  severity := if e.isDegradation then severity.max .warn else severity
  event := e.name
  fields

end Event

/-- A number as the value of a field. -/
def countText (n : Nat) : String := String.ofList (Decimal.text n)

end RecordQuery
