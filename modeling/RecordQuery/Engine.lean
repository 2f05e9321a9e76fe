import RecordQuery.Config
import RecordQuery.Execution
import RecordQuery.Query.Reader
import RecordQuery.Record.Loading

/-!
# The query engine

Reading, loading and executing under a configuration.  The configuration sets the bound on page
sizes, whether malformed queries are refused, whether dates are detected, and what is logged.  A
query is read from a list of parameters as the engine's `parse_params` reads it.
-/

namespace RecordQuery.Engine

def readParameters (c : Config) (ps : Parameters) : Logged Reading := do
  let r := Reading.ofParameters c.maxTop ps
  r.logTo c.logger
  return r

/-- A lenient reading, the engine's `parse_with_diagnostics`. -/
def read (c : Config) (text : String) : Logged Reading := readParameters c (Parameters.ofText text)

/-- The engine's `parse_strict`. -/
def readStrictly (c : Config) (text : String) : Logged (Except Diagnostic Query) :=
  (read c text).map Reading.strictly

/-- The query of a query string, which the configuration may require to have nothing wrong (the
engine's `parse_checked`). -/
def readChecked (c : Config) (text : String) : Logged (Except Diagnostic Query) :=
  if c.strict then readStrictly c text else (read c text).map fun r => .ok r.query

/-- The records of a JSON array; there are none for another value (the engine's
`records_from_json`). -/
def load (c : Config) (document : Json) : Logged (Option (List Record)) :=
  match Loading.ofJson? c.detectDates document with
  | some l => do
    l.skipped.forM (Skip.logTo c.logger)
    return some l.records
  | none => return none

def execute (c : Config) (q : Query) (records : List Record) : Logged Result :=
  q.executing c.logger records

/-! ### Values -/

theorem value_load (c : Config) (document : Json) :
    (load c document).value = (Loading.ofJson? c.detectDates document).map Loading.records := by
  rw [load]
  cases Loading.ofJson? c.detectDates document <;> rfl

/-- The logger has no part in the result. -/
theorem value_execute (c : Config) (q : Query) (records : List Record) :
    (execute c q records).value = q.execute records := by
  rw [execute, Query.execute, Query.value_executing, Query.value_executing]

end RecordQuery.Engine
