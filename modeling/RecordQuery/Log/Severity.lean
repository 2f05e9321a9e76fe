import RecordQuery.Json.Basic
import RecordQuery.Text.Words

/-!
# Severities

How grave an event is, and from which severity on events are written.  `off` is a threshold only: a
line at this severity is never written.
-/

namespace RecordQuery

/-- The severity of an event, or a threshold for severities. -/
inductive Severity where
  | trace
  | info
  | warn
  | error
  | off
deriving DecidableEq

namespace Severity

def rank : Severity → Nat
  | trace => 0
  | info => 1
  | warn => 2
  | error => 3
  | off => 4

def max (a b : Severity) : Severity := if a.rank ≤ b.rank then b else a

def passes (threshold s : Severity) : Bool := s ≠ off && threshold.rank ≤ s.rank

def label : Severity → String
  | trace => "TRACE"
  | info => "INFO"
  | warn => "WARN"
  | error => "ERROR"
  | off => "OFF"

def name : Severity → String
  | trace => "trace"
  | info => "info"
  | warn => "warn"
  | error => "error"
  | off => "off"

def all : List Severity := [trace, info, warn, error, off]

/-- The severity with the given configuration name, spelled exactly. -/
def ofName? (name : String) : Option Severity := all.find? fun s => s.name = name

/-- The severity that a word stands for, in any case of letters and with two more words. -/
def ofWord? (word : String) : Option Severity :=
  let word := Text.lowerLetters word
  if word = "warning" then some warn else if word = "none" then some off else ofName? word

def ofJson? (j : Json) : Option Severity := j.choice?.bind ofName?

/-- A severity is read back from its name. -/
theorem ofName?_name (s : Severity) : ofName? s.name = some s := by
  cases s <;> decide

end Severity

/-- A word was given that stands for no severity. -/
structure UnknownSeverity where
  word : String

namespace UnknownSeverity

def message (e : UnknownSeverity) : String :=
  "unknown log level '" ++ Text.lowerLetters e.word ++ "'"

end UnknownSeverity

end RecordQuery
