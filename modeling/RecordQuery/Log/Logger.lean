import RecordQuery.Log.Event
import RecordQuery.Log.Logged

/-!
# Loggers

A logger is no more than its threshold: it writes what is at least as grave.  It is asked in two
places.  Whoever has something to log may ask first (`Logger.enabled`) and otherwise not even make
up the fields; and the logger asks once more before it writes (`Logger.log`).  The three functions of
a logger are those of the engine's `Logger`, and each event is logged where the engine logs it.

An entry that is logged leaves its line if it passes the threshold, and asking first makes no
difference to that if it is asked for the same severity (`Logger.guarded_eq`).
-/

namespace RecordQuery

/-- A logger, which is a threshold. -/
structure Logger where
  minSeverity : Severity

/-- The lines that entries leave under a threshold. -/
def Severity.lines (threshold : Severity) (entries : List Entry) : List String :=
  (entries.filter fun e => threshold.passes e.severity).map Entry.line

namespace Logger

/-- The logger that never writes, the engine's `Logger::disabled`. -/
def disabled : Logger := ⟨.off⟩

/-- Something of the severity would be written. -/
def enabled (l : Logger) (s : Severity) : Bool := l.minSeverity.passes s

def log (l : Logger) (e : Entry) : Logged Unit :=
  if l.enabled e.severity then ⟨(), [e.line]⟩ else .silent ()

/-- Logs an event, as a warning at least if it reports an absorbed problem. -/
def event (l : Logger) (e : Event) (s : Severity) (fields : List (String × String)) : Logged Unit :=
  l.log (e.entry s fields)

end Logger

/-! ### Lines -/

namespace Severity

theorem lines_append (threshold : Severity) (entries later : List Entry) :
    threshold.lines (entries ++ later) = threshold.lines entries ++ threshold.lines later := by
  rw [lines, List.filter_append, List.map_append, lines, lines]

theorem lines_map {α : Type} (threshold : Severity) (entry : α → Entry) (items : List α) :
    threshold.lines (items.map entry) = items.flatMap fun a => threshold.lines [entry a] := by
  induction items with
  | nil => rfl
  | cons a items ih => rw [List.flatMap_cons, ← ih, ← lines_append, List.map_cons]; rfl

end Severity

namespace Logger

theorem log_log (l : Logger) (e : Entry) : (l.log e).log = l.minSeverity.lines [e] := by
  rw [log, enabled, Severity.lines, List.filter_cons, List.filter_nil]
  split <;> rfl

/-- Items that each log one entry. -/
theorem log_forM {α : Type} (l : Logger) {act : α → Logged Unit} {entry : α → Entry}
    (h : ∀ a, act a = l.log (entry a)) (items : List α) :
    (items.forM act).log = l.minSeverity.lines (items.map entry) := by
  rw [Logged.log_forM, Severity.lines_map]
  simp only [h, log_log]

/-- To ask first, for the severity that is logged, makes no difference. -/
theorem guarded_eq (l : Logger) (e : Entry) :
    (if l.enabled e.severity then l.log e else pure ()) = l.log e := by
  unfold log
  split <;> rfl

end Logger

end RecordQuery
