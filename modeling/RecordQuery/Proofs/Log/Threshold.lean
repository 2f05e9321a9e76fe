import RecordQuery.Command.Run
import RecordQuery.Proofs.Log.LineText
import Mathlib.Data.List.Forall2

/-!
# The threshold of the log

Two runs of one activity are compared, of which one writes everything and the other writes from a
threshold on.  They have the same value, and the log of the second is the log of the first without
the lines below the threshold (`Logged.IsCut`).  The comparison is made on the lines as they are
written: a line is JSON and states its severity (`Severity.statedIn?`), whatever else it says.

The two runs are compared step by step.  To log one entry is cut (`Logger.isCut_log`), and so it is
after the logger was asked, if it was asked for the severity that is logged
(`Logger.isCut_guarded`).  What is made up of cut steps is cut (`Logged.IsCut.bind`,
`Logged.isCut_forM`, `Logged.IsCut.andThen`), and so reading, loading and executing are, and all that
a command does with them (`Engine.log_isCut`).
-/

namespace RecordQuery

/-! ### Lines and their severity -/

namespace Severity

def ofLabel? (label : String) : Option Severity := all.find? fun s => s.label = label

/-- The severity that a line of the log states. -/
def statedIn? (line : String) : Option Severity := do
  let line ← Json.read? line
  let label ← line.member? "severity"
  ofLabel? (← label.string?)

/-- A line of the log states a severity from the threshold on. -/
def isReachedBy (threshold : Severity) (line : String) : Bool :=
  (statedIn? line).any fun s => threshold.rank ≤ s.rank

theorem ofLabel?_label (s : Severity) : ofLabel? s.label = some s := by
  cases s <;> decide

theorem statedIn?_line {e : Entry} (h : e.IsPlain) : statedIn? e.line = some e.severity := by
  have hmember : (Json.object (Json.ofStrings e.members)).member? "severity" =
      some (.string e.severity.label) := by
    have hne : ("severity" == "event") = false := by decide
    simp [Json.member?, Json.ofStrings, Entry.members, List.lookup_cons, hne]
  simp only [statedIn?, Entry.read?_line h, Option.bind_eq_bind, Option.bind_some, hmember,
    Json.string?, ofLabel?_label]

theorem passes_eq (threshold s : Severity) :
    threshold.passes s = (decide (threshold.rank ≤ s.rank) && trace.passes s) := by
  have htrace : trace.rank ≤ s.rank := Nat.zero_le _
  rw [passes, passes, decide_eq_true htrace, Bool.and_true, Bool.and_comm]

theorem passes_off (s : Severity) : off.passes s = false := by
  cases s <;> rfl

theorem lines_eq_filter (threshold : Severity) {entries : List Entry}
    (h : ∀ e ∈ entries, e.IsPlain) :
    threshold.lines entries = (trace.lines entries).filter threshold.isReachedBy := by
  -- what the threshold asks of an entry can be asked of its line
  have hpasses : entries.filter (fun e => threshold.passes e.severity) =
      entries.filter fun e => threshold.isReachedBy e.line && trace.passes e.severity := by
    refine List.filter_congr fun e he => ?_
    rw [isReachedBy, statedIn?_line (h e he), Option.any_some, passes_eq]
  rw [lines, lines, hpasses, List.filter_map, List.filter_filter]
  simp only [Function.comp_apply]

theorem lines_off (entries : List Entry) : off.lines entries = [] := by
  simp [lines, passes_off]

theorem lines_of_passes {threshold : Severity} {entries : List Entry}
    (h : ∀ e ∈ entries, threshold.passes e.severity = true) :
    threshold.lines entries = entries.map Entry.line := by
  rw [lines, List.filter_eq_self.2 h]

theorem lines_of_not_passes {threshold : Severity} {entries : List Entry}
    (h : ∀ e ∈ entries, threshold.passes e.severity = false) : threshold.lines entries = [] := by
  rw [lines, List.filter_eq_nil_iff.2 fun e he => by simp [h e he], List.map_nil]

theorem lines_trace {entries : List Entry} (h : ∀ e ∈ entries, e.severity ≠ off) :
    trace.lines entries = entries.map Entry.line := by
  apply lines_of_passes
  intro e he
  simp [passes, rank, h e he]

end Severity

/-! ### Cut logs -/

namespace Logged

variable {α β ε δ : Type} {level : Severity}

/-- The second of two results is the first with its log cut at a severity. -/
structure IsCut (level : Severity) (full cut : Logged α) : Prop where
  value : cut.value = full.value
  log : cut.log = full.log.filter level.isReachedBy
  silent : level = .off → cut.log = []

theorem isCut_silent (a : α) : IsCut level (silent a) (silent a) where
  value := rfl
  log := rfl
  silent _ := rfl

theorem log_map (l : Logged α) (f : α → β) : (l.map f).log = l.log := rfl

theorem IsCut.map {full cut : Logged α} (h : IsCut level full cut) (f : α → β) :
    IsCut level (full.map f) (cut.map f) where
  value := congrArg f h.value
  log := h.log
  silent := h.silent

theorem IsCut.mapError {full cut : Logged (Except ε α)} (h : IsCut level full cut) (f : ε → δ) :
    IsCut level (full.mapError f) (cut.mapError f) where
  value := congrArg (Except.mapError f) h.value
  log := h.log
  silent := h.silent

/-- The values agree, so both runs go on in the same way. -/
theorem IsCut.bind {full cut : Logged α} {next cutNext : α → Logged β} (h : IsCut level full cut)
    (hnext : ∀ a, IsCut level (next a) (cutNext a)) :
    IsCut level (full >>= next) (cut >>= cutNext) where
  value := by rw [value_bind, value_bind, h.value, (hnext full.value).value]
  log := by
    rw [log_bind, log_bind, List.filter_append, h.log, h.value, (hnext full.value).log]
  silent hoff := by
    rw [log_bind, h.silent hoff, (hnext cut.value).silent hoff, List.append_nil]

theorem isCut_forM {act cutAct : α → Logged Unit} (h : ∀ a, IsCut level (act a) (cutAct a))
    (items : List α) : IsCut level (items.forM act) (items.forM cutAct) := by
  induction items with
  | nil => exact isCut_silent ()
  | cons a items ih => exact (h a).bind fun _ => ih

/-- The values agree, so both runs stop here or both go on. -/
theorem IsCut.andThen {full cut : Logged (Except ε α)} {next cutNext : α → Logged (Except ε β)}
    (h : IsCut level full cut) (hnext : ∀ a, IsCut level (next a) (cutNext a)) :
    IsCut level (full.andThen next) (cut.andThen cutNext) := by
  rw [andThen_eq_bind, andThen_eq_bind]
  refine h.bind fun outcome => ?_
  cases outcome with
  | error e => exact isCut_silent (Except.error e)
  | ok a => exact hnext a

end Logged

namespace Logger

variable {level : Severity} {e : Entry}

theorem isCut_log (h : e.IsPlain) :
    Logged.IsCut level (log ⟨.trace⟩ e) (log ⟨level⟩ e) where
  value := rfl
  log := by rw [log_log, log_log, Severity.lines_eq_filter level (List.forall_mem_singleton.2 h)]
  silent := by
    rintro rfl
    rw [log_log, Severity.lines_off]

/-- The logger is asked first, and for the severity that is logged. -/
theorem isCut_guarded (h : e.IsPlain) :
    Logged.IsCut level (if enabled ⟨.trace⟩ e.severity then log ⟨.trace⟩ e else pure ())
      (if enabled ⟨level⟩ e.severity then log ⟨level⟩ e else pure ()) := by
  rw [guarded_eq, guarded_eq]
  exact isCut_log h

end Logger

/-! ### Entries -/

namespace Entry

theorem isPlain_of_keys {e : Entry} (keys : List String) (hkeys : e.fields.map Prod.fst = keys)
    (h : ∀ key ∈ keys, key ∉ ["event", "severity"]) : e.IsPlain := by
  intro field hfield
  exact h field.1 (hkeys ▸ List.mem_map_of_mem hfield)

theorem isSorted_of_keys {fields : List (String × String)} (keys : List String)
    (hkeys : fields.map Prod.fst = keys)
    (h : keys.Pairwise fun key later => compare key later = .lt) : IsSorted fields := by
  subst hkeys
  exact List.pairwise_map.1 h

theorem isSorted_pair {key later : String} (h : compare key later = .lt) (value second : String) :
    IsSorted [(key, value), (later, second)] :=
  List.pairwise_cons.2 ⟨by simpa using h, List.pairwise_singleton _ _⟩

end Entry

/-- What is logged for a diagnostic. -/
def Diagnostic.entry : Diagnostic → Entry
  | droppedSegment segment => Event.filterSegmentDropped.entry .warn [("segment", segment)]
  | orIgnored => Event.filterOrIgnored.entry .warn []
  | invalidNumber param value =>
    Event.paginationInvalid.entry .warn [("param", param), ("value", value)]

theorem Diagnostic.logTo_eq (l : Logger) (d : Diagnostic) : d.logTo l = l.log d.entry := by
  cases d <;> rfl

theorem Diagnostic.isPlain_entry (d : Diagnostic) : d.entry.IsPlain := by
  cases d with
  | droppedSegment segment => exact Entry.isPlain_of_keys ["segment"] rfl (by decide)
  | orIgnored => exact Entry.isPlain_of_keys [] rfl (by decide)
  | invalidNumber param value => exact Entry.isPlain_of_keys ["param", "value"] rfl (by decide)

/-- What is logged for a part that is skipped. -/
def Skip.entry : Skip → Entry
  | field name position =>
    Event.recordFieldSkipped.entry .warn [("field", name), ("record", countText position)]
  | element position =>
    Event.recordFieldSkipped.entry .warn
      [("reason", "not an object"), ("record", countText position)]

theorem Skip.logTo_eq (l : Logger) (s : Skip) : s.logTo l = l.log s.entry := by
  cases s <;> rfl

theorem Skip.isPlain_entry (s : Skip) : s.entry.IsPlain := by
  cases s with
  | field name position => exact Entry.isPlain_of_keys ["field", "record"] rfl (by decide)
  | element position => exact Entry.isPlain_of_keys ["reason", "record"] rfl (by decide)

/-- What is logged for a query that was read. -/
def Query.entry (q : Query) : Entry :=
  Event.queryParsed.entry .trace
    [("conditions", countText ((q.conditions.map List.length).getD 0)),
      ("sort_keys", countText ((q.orderBy.map FieldMap.size).getD 0))]

theorem Query.isPlain_entry (q : Query) : q.entry.IsPlain :=
  Entry.isPlain_of_keys ["conditions", "sort_keys"] rfl (by decide)

/-- What is logged after a stage. -/
def Stage.entry (stage : Stage) (remaining : Nat) : Entry :=
  Event.stageApplied.entry .trace
    [("remaining", countText remaining), ("stage", stage.name)]

theorem Stage.isPlain_entry (stage : Stage) (remaining : Nat) :
    (stage.entry remaining).IsPlain :=
  Entry.isPlain_of_keys ["remaining", "stage"] rfl (by decide)

/-! ### Steps -/

section

variable (level : Severity)

theorem Diagnostic.isCut_logTo (d : Diagnostic) :
    Logged.IsCut level (d.logTo ⟨.trace⟩) (d.logTo ⟨level⟩) := by
  rw [d.logTo_eq, d.logTo_eq]
  exact Logger.isCut_log d.isPlain_entry

theorem Reading.isCut_logTo (r : Reading) :
    Logged.IsCut level (r.logTo ⟨.trace⟩) (r.logTo ⟨level⟩) :=
  (Logged.isCut_forM (Diagnostic.isCut_logTo level) r.diagnostics).bind fun _ =>
    Logger.isCut_guarded r.query.isPlain_entry

theorem Skip.isCut_logTo (s : Skip) :
    Logged.IsCut level (s.logTo ⟨.trace⟩) (s.logTo ⟨level⟩) := by
  rw [s.logTo_eq, s.logTo_eq]
  exact Logger.isCut_log s.isPlain_entry

namespace Logger

theorem isCut_stage (stage : Stage) (remaining : Nat) :
    Logged.IsCut level (Logger.stage ⟨.trace⟩ stage remaining)
      (Logger.stage ⟨level⟩ stage remaining) :=
  isCut_guarded (stage.isPlain_entry remaining)

theorem isCut_leaving (stage : Stage) (records : List Record) :
    Logged.IsCut level (leaving ⟨.trace⟩ stage records) (leaving ⟨level⟩ stage records) :=
  (isCut_stage level stage records.length).bind fun _ => Logged.isCut_silent records

theorem isCut_applying {α : Type} (stage : Stage) (part : Option α) (records : List Record)
    (leave : α → List Record) :
    Logged.IsCut level (applying ⟨.trace⟩ stage part records leave)
      (applying ⟨level⟩ stage part records leave) := by
  cases part with
  | none => exact Logged.isCut_silent records
  | some a => exact isCut_leaving level stage (leave a)

theorem isCut_executed (input matched returned : Nat) :
    Logged.IsCut level (executed ⟨.trace⟩ input matched returned)
      (executed ⟨level⟩ input matched returned) := by
  have hplain : (Event.queryExecuted.entry .trace
      [("input", countText input), ("matched", countText matched),
        ("returned", countText returned)]).IsPlain :=
    Entry.isPlain_of_keys ["input", "matched", "returned"] rfl (by decide)
  exact isCut_guarded hplain

end Logger

namespace Query

variable (q : Query) (records : List Record)

theorem isCut_searching :
    Logged.IsCut level (q.searching ⟨.trace⟩ records) (q.searching ⟨level⟩ records) :=
  Logger.isCut_applying level .search _ records _

theorem isCut_filtering :
    Logged.IsCut level (q.filtering ⟨.trace⟩ records) (q.filtering ⟨level⟩ records) :=
  Logger.isCut_applying level .filter _ records _

theorem isCut_sorting :
    Logged.IsCut level (q.sorting ⟨.trace⟩ records) (q.sorting ⟨level⟩ records) :=
  Logger.isCut_applying level .sort _ records _

theorem isCut_paging :
    Logged.IsCut level (q.paging ⟨.trace⟩ records) (q.paging ⟨level⟩ records) := by
  unfold paging
  cases q.offset.isSome || q.limit.isSome with
  | false => exact Logged.isCut_silent _
  | true => exact Logger.isCut_leaving level .paginate _

theorem isCut_selecting :
    Logged.IsCut level (q.selecting ⟨.trace⟩ records) (q.selecting ⟨level⟩ records) := by
  unfold selecting
  cases q.select.filter (· ≠ []) with
  | none => exact Logged.isCut_silent records
  | some fields =>
    exact (Logger.isCut_stage level .select records.length).bind fun _ => Logged.isCut_silent _

theorem isCut_executing :
    Logged.IsCut level (q.executing ⟨.trace⟩ records) (q.executing ⟨level⟩ records) :=
  (q.isCut_searching level records).bind fun found =>
    (q.isCut_filtering level found).bind fun matching =>
      (q.isCut_sorting level matching).bind fun sorted =>
        (q.isCut_paging level sorted).bind fun page =>
          (q.isCut_selecting level page).bind fun data =>
            (Logger.isCut_executed level records.length matching.length data.length).bind fun _ =>
              Logged.isCut_silent _

end Query

end

/-! ### The full log of a reading -/

/-- What the line for a diagnostic says. -/
def Diagnostic.warning : Diagnostic → List (String × String)
  | droppedSegment segment =>
    [("event", "FILTER_SEGMENT_DROPPED"), ("severity", "WARN"), ("segment", segment)]
  | orIgnored => [("event", "FILTER_OR_IGNORED"), ("severity", "WARN")]
  | invalidNumber param value =>
    [("event", "PAGINATION_INVALID"), ("severity", "WARN"), ("param", param), ("value", value)]

/-- What the line for the query says. -/
def Query.summary (q : Query) : List (String × String) :=
  [("event", "QUERY_PARSED"), ("severity", "TRACE"),
    ("conditions", countText ((q.conditions.map List.length).getD 0)),
    ("sort_keys", countText ((q.orderBy.map FieldMap.size).getD 0))]

/-- The lines are one warning for each diagnostic, in their order, and then one for the query. -/
def Reading.IsFullLog (r : Reading) (log : List String) : Prop :=
  ∃ warnings summary, log = warnings ++ [summary] ∧
    List.Forall₂ (fun d line => Json.read? line = some (.object (Json.ofStrings d.warning)))
      r.diagnostics warnings ∧
    Json.read? summary = some (.object (Json.ofStrings r.query.summary))

theorem Diagnostic.read?_line_entry (d : Diagnostic) :
    Json.read? d.entry.line = some (.object (Json.ofStrings d.warning)) := by
  have hsorted : Entry.IsSorted d.entry.fields := by
    cases d with
    | droppedSegment segment => exact List.pairwise_singleton _ _
    | orIgnored => exact List.Pairwise.nil
    | invalidNumber param value => exact Entry.isSorted_pair (by decide) param value
  rw [Entry.read?_line_of_isSorted d.isPlain_entry hsorted]
  cases d <;> rfl

theorem Diagnostic.severity_entry (d : Diagnostic) : d.entry.severity = .warn := by
  cases d <;> rfl

theorem Reading.isFullLog_logTo (r : Reading) : r.IsFullLog (r.logTo ⟨.trace⟩).log := by
  have hwarnings : (r.diagnostics.forM (Diagnostic.logTo ⟨.trace⟩)).log =
      r.diagnostics.map fun d => d.entry.line := by
    rw [Logger.log_forM _ (Diagnostic.logTo_eq ⟨.trace⟩), Severity.lines_trace, List.map_map]
    · rfl
    · intro e he
      obtain ⟨d, -, rfl⟩ := List.mem_map.1 he
      rw [d.severity_entry]
      decide
  have hsummary : (r.logTo ⟨.trace⟩).log =
      (r.diagnostics.map fun d => d.entry.line) ++ [r.query.entry.line] := by
    rw [← hwarnings]
    rfl
  refine ⟨_, _, hsummary, ?_, ?_⟩
  · exact List.forall₂_map_right_iff.2 (List.forall₂_same.2 fun d _ => d.read?_line_entry)
  · exact Entry.read?_line_of_isSorted r.query.isPlain_entry (Entry.isSorted_pair (by decide) _ _)

/-! ### Activities -/

def Config.atLevel (c : Config) (level : Severity) : Config := { c with logLevel := level }

namespace Engine

variable (c : Config) (level : Severity)

theorem isCut_readParameters (ps : Parameters) :
    Logged.IsCut level (readParameters (c.atLevel .trace) ps)
      (readParameters (c.atLevel level) ps) :=
  ((Reading.ofParameters c.maxTop ps).isCut_logTo level).bind fun _ => Logged.isCut_silent _

theorem isCut_read (text : String) :
    Logged.IsCut level (read (c.atLevel .trace) text) (read (c.atLevel level) text) :=
  isCut_readParameters c level (Parameters.ofText text)

theorem isCut_readStrictly (text : String) :
    Logged.IsCut level (readStrictly (c.atLevel .trace) text)
      (readStrictly (c.atLevel level) text) :=
  (isCut_read c level text).map Reading.strictly

theorem isCut_readChecked (text : String) :
    Logged.IsCut level (readChecked (c.atLevel .trace) text)
      (readChecked (c.atLevel level) text) := by
  unfold readChecked
  by_cases hstrict : c.strict
  · simp only [Config.atLevel, hstrict, if_true]
    exact isCut_readStrictly c level text
  · simp only [Config.atLevel, hstrict, Bool.false_eq_true, if_false]
    exact (isCut_read c level text).map _

theorem isCut_load (document : Json) :
    Logged.IsCut level (load (c.atLevel .trace) document) (load (c.atLevel level) document) := by
  unfold load
  simp only [Config.atLevel]
  cases Loading.ofJson? c.detectDates document with
  | none => exact Logged.isCut_silent none
  | some l =>
    exact (Logged.isCut_forM (Skip.isCut_logTo level) l.skipped).bind fun _ =>
      Logged.isCut_silent (some l.records)

theorem isCut_execute (q : Query) (records : List Record) :
    Logged.IsCut level (execute (c.atLevel .trace) q records)
      (execute (c.atLevel level) q records) :=
  q.isCut_executing level records

theorem log_readStrictly (text : String) : (readStrictly c text).log = (read c text).log := by
  rw [readStrictly, Logged.log_map]

theorem log_readChecked (text : String) : (readChecked c text).log = (read c text).log := by
  unfold readChecked
  split
  · exact log_readStrictly c text
  · exact Logged.log_map _ _

theorem isFullLog_read (text : String) :
    (read (c.atLevel .trace) text).value.IsFullLog (read (c.atLevel .trace) text).log := by
  have hlog : (read (c.atLevel .trace) text).log =
      ((Reading.ofText c.maxTop text).logTo ⟨.trace⟩).log := List.append_nil _
  rw [hlog]
  exact (Reading.ofText c.maxTop text).isFullLog_logTo

end Engine

theorem Config.isCut_logLoaded (c : Config) (level : Severity) (path : String) :
    Logged.IsCut level ((c.atLevel .trace).logLoaded path) ((c.atLevel level).logLoaded path) := by
  have hplain : (Event.configLoaded.entry .info [("path", path)]).IsPlain :=
    Entry.isPlain_of_keys ["path"] rfl (by decide)
  exact Logger.isCut_log hplain

namespace Command

variable [RefusalWording] (files : Files) (path : String) (c : Config) (level : Severity)

theorem isCut_readRecords :
    Logged.IsCut level (readRecords files path (c.atLevel .trace))
      (readRecords files path (c.atLevel level)) := by
  unfold readRecords
  cases files.read path with
  | error why => exact Logged.isCut_silent _
  | ok text =>
    dsimp only
    cases Json.read? text with
    | none => exact Logged.isCut_silent _
    | some document => exact (Engine.isCut_load c level document).map _

theorem isCut_queryFile (text : String) :
    Logged.IsCut level (queryFile files path text (c.atLevel .trace))
      (queryFile files path text (c.atLevel level)) := by
  have hread := (Engine.isCut_readChecked c level text).mapError Failure.rejected
  refine hread.andThen fun q => (isCut_readRecords files path c level).andThen fun records => ?_
  exact (Engine.isCut_execute c level q records).map Except.ok

end Command

/-- The engine answers the same under every threshold and cuts its log exactly there, and so does
all that a command does with it, from its configuration to its result.  The full log of a query text,
strictly read or not, consists of the warnings and the summary of its reading. -/
theorem Engine.log_isCut [RefusalWording] (c : Config) (level : Severity) (text : String)
    (document : Json) (q : Query) (records : List Record) (files : Files) (path : String) :
    Logged.IsCut level (read (c.atLevel .trace) text) (read (c.atLevel level) text) ∧
    Logged.IsCut level (readStrictly (c.atLevel .trace) text)
      (readStrictly (c.atLevel level) text) ∧
    Logged.IsCut level (readChecked (c.atLevel .trace) text)
      (readChecked (c.atLevel level) text) ∧
    Logged.IsCut level (load (c.atLevel .trace) document) (load (c.atLevel level) document) ∧
    Logged.IsCut level (execute (c.atLevel .trace) q records)
      (execute (c.atLevel level) q records) ∧
    Logged.IsCut level ((c.atLevel .trace).logLoaded path) ((c.atLevel level).logLoaded path) ∧
    Logged.IsCut level (Command.queryFile files path text (c.atLevel .trace))
      (Command.queryFile files path text (c.atLevel level)) ∧
    ∀ log ∈ [(read (c.atLevel .trace) text).log, (readStrictly (c.atLevel .trace) text).log,
        (readChecked (c.atLevel .trace) text).log],
      (read (c.atLevel .trace) text).value.IsFullLog log := by
  refine ⟨isCut_read c level text, isCut_readStrictly c level text, isCut_readChecked c level text,
    isCut_load c level document, isCut_execute c level q records,
    c.isCut_logLoaded level path, Command.isCut_queryFile files path c level text, ?_⟩
  have hfull := isFullLog_read c text
  intro log hlog
  rw [log_readStrictly, log_readChecked] at hlog
  simp only [List.mem_cons, List.not_mem_nil, or_false, or_self] at hlog
  rw [hlog]
  exact hfull

end RecordQuery
