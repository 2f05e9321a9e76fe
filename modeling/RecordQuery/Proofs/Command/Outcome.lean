import RecordQuery.Proofs.Command.Course
import RecordQuery.Proofs.Json.OneLine

/-!
# What a run shows

Every run of a command prints one line: what the command is to show or, if it fails, a report on the
failure, which stands at the end of the log as well.  The exit code tells which of the two it is,
and so does the line itself, since no result and no report on a query is a report on a failure
(`Command.run_outcome`).

The two commands agree on their query.  Under the same configuration both refuse it for the same
reason or neither does, and then the query that the one reports is the one that the other executes.
-/

namespace RecordQuery

/-! ### Reports -/

/-- The run ends in the failure of the code and the message, and shows it on both channels: as an
object on the one line that it prints, and as the last text that it writes to the log. -/
structure Outcome.Reports (outcome : Outcome) (code message : String) : Prop where
  exit : outcome.exit = 1
  stdout : ∃ line, outcome.stdout = [line] ∧ Json.read? line = some (.object
    [("status", .string "error"), ("code", .string code), ("message", .string message)])
  stderr : outcome.stderr.getLast? = some (code ++ ": " ++ message)

/-- A run reports one failure at most. -/
theorem Outcome.Reports.unique {outcome : Outcome} {code message code' message' : String}
    (h : outcome.Reports code message) (h' : outcome.Reports code' message') :
    code = code' ∧ message = message' := by
  obtain ⟨line, hline, hread⟩ := h.stdout
  obtain ⟨line', hline', hread'⟩ := h'.stdout
  obtain rfl : line = line' := List.cons.inj (hline.symm.trans hline') |>.1
  simpa using hread.symm.trans hread'

/-! ### Lines -/

section

variable [RefusalWording]

/-- What a command is to show is no report on a failure. -/
theorem Command.Shows.ne_text_toJson {files : Files} {k : Command} {line : String}
    (h : Shows files k line) (f : Failure) : line ≠ f.toJson.text := by
  cases h with
  | result hreads hrecords =>
    rw [Result.toJson_eq]
    exact Json.text_object_ne (by decide) _ _ _ _
  | report hreads => exact Json.text_object_ne (by decide) _ _ _ _

theorem Command.Shows.isOneLine {files : Files} {k : Command} {line : String}
    (h : Shows files k line) : Text.IsOneLine line.toList := by
  cases h with
  | result hreads hrecords => exact Json.isOneLine_text _
  | report hreads => exact Json.isOneLine_text _

/-! ### Runs -/

namespace Command

variable {files : Files} {k : Command}

theorem run_of_shows {line : String} (h : Shows files k line) :
    k.run files = ⟨0, [line], (k.answer files).log⟩ := by
  simp only [run, answer_eq_ok_iff.2 h]

theorem run_of_fails {f : Failure} (h : Fails files k f) :
    k.run files = ⟨1, [f.toJson.text], (k.answer files).log ++ [f.text]⟩ := by
  simp only [run, answer_eq_error_iff.2 h]

theorem reports_of_fails {f : Failure} (h : Fails files k f) :
    (k.run files).Reports f.code f.message := by
  rw [run_of_fails h]
  exact ⟨rfl, ⟨_, rfl, f.read?_text_toJson⟩, List.getLast?_concat⟩

theorem shows_or_fails (files : Files) (k : Command) :
    (∃ line, Shows files k line) ∨ ∃ f, Fails files k f := by
  cases h : (k.answer files).value with
  | ok line => exact Or.inl ⟨line, answer_eq_ok_iff.1 h⟩
  | error f => exact Or.inr ⟨f, answer_eq_error_iff.1 h⟩

/-- Whether a query is refused, and why, is the same for both commands. -/
theorem reports_rejected_iff {c : Config} (hc : (configOf files k.options).value = .ok c)
    {message : String} : (k.run files).Reports "CLI_QUERY_REJECTED" message ↔
      ∃ d, (Engine.readChecked c k.options.query).value = .error d ∧ d.message = message := by
  constructor
  · intro hreports
    rcases shows_or_fails files k with ⟨line, hshows⟩ | ⟨f, hfails⟩
    · have hexit := hreports.exit
      rw [run_of_shows hshows] at hexit
      exact absurd hexit Nat.zero_ne_one
    · obtain ⟨hcode, hmessage⟩ := (reports_of_fails hfails).unique hreports
      obtain ⟨d, rfl⟩ := Failure.code_eq_rejected_iff.1 hcode
      cases hfails with
      | @rejected _ c' _ hconfig hrejected =>
        obtain rfl : c' = c := Except.ok.inj (hconfig.symm.trans hc)
        exact ⟨d, hrejected, hmessage⟩
      | records hreads hf => cases hf
  · rintro ⟨d, hd, rfl⟩
    exact reports_of_fails (.rejected hc hd)

/-- A run prints one line, which is what the command is to show or a report on a failure, as the
exit code says. -/
theorem exists_stdout_run (files : Files) (k : Command) :
    ∃ line, (k.run files).stdout = [line] ∧ Text.IsOneLine line.toList ∧
      ((k.run files).exit = 0 ↔ Shows files k line) ∧
      ((k.run files).exit = 1 ↔ ∃ f : Failure, line = f.toJson.text) ∧
      ((k.run files).exit = 0 ∨ ∃ f, Fails files k f) := by
  rcases shows_or_fails files k with ⟨line, hshows⟩ | ⟨f, hfails⟩
  · have hline : ¬ ∃ f : Failure, line = f.toJson.text :=
      fun ⟨f, hf⟩ => hshows.ne_text_toJson f hf
    have hrun := run_of_shows hshows
    refine ⟨line, ?_, hshows.isOneLine, ?_, ?_, ?_⟩
    · rw [hrun]
    · simp [hrun, hshows]
    · simp [hrun, hline]
    · simp [hrun]
  · have hline : ¬ Shows files k f.toJson.text := fun hshows => hshows.ne_text_toJson f rfl
    have hrun := run_of_fails hfails
    refine ⟨f.toJson.text, ?_, Json.isOneLine_text _, ?_, ?_, Or.inr ⟨f, hfails⟩⟩
    · rw [hrun]
    · simp [hrun, hline]
    · simp only [hrun, true_iff]
      exact ⟨f, rfl⟩

/-- A query that is not refused is reported by the one command and executed by the other. -/
theorem reported_and_executed {files files' : Files} {path : String} {o o' : Options} {c : Config}
    {q : Query} (h : Reads files o c q) (h' : Reads files' o' c q) :
    ∃ r, (report o.query c).value = .ok r ∧
      ((parse o).run files).exit = 0 ∧ ((parse o).run files).stdout = [r.toJson.text] ∧
        ∀ records, (readRecords files' path c).value = .ok records →
          ((query path o').run files').exit = 0 ∧
            ((query path o').run files').stdout = [(r.query.execute records).toJson.text] := by
  have hreport := run_of_shows (.report h)
  refine ⟨⟨q, (Engine.read c o.query).value.diagnostics⟩,
    value_report_eq_ok_iff.2 ⟨h.query, rfl⟩, ?_, ?_, fun records hrecords => ?_⟩
  · exact congrArg Outcome.exit hreport
  · exact congrArg Outcome.stdout hreport
  · have hresult := run_of_shows (.result h' hrecords)
    exact ⟨congrArg Outcome.exit hresult, congrArg Outcome.stdout hresult⟩

/-- Every run prints one line.  It exits with 0 if that is what the command is to show and otherwise
with 1, and then the line and the last text of the log report the failure that comes first.  Under
the same configuration both commands refuse a query for the same reason or neither does, and then
the query that the one reports is the one that the other executes. -/
theorem run_outcome (files : Files) :
    (∀ k : Command, (∃ line, (k.run files).stdout = [line] ∧ Text.IsOneLine line.toList ∧
        ((k.run files).exit = 0 ↔ Shows files k line) ∧
        ((k.run files).exit = 1 ↔ ∃ f : Failure, line = f.toJson.text) ∧
        ((k.run files).exit = 0 ∨ ∃ f, Fails files k f)) ∧
      ∀ f, Fails files k f → (k.run files).Reports f.code f.message) ∧
    ∀ (files' : Files) (path : String) (o o' : Options) (c : Config),
      (configOf files o).value = .ok c → (configOf files' o').value = .ok c →
      o'.query = o.query →
      let parsed := (parse o).run files
      let queried := (query path o').run files'
      (∀ message, parsed.Reports "CLI_QUERY_REJECTED" message ↔
        queried.Reports "CLI_QUERY_REJECTED" message) ∧
      ((∀ message, ¬ parsed.Reports "CLI_QUERY_REJECTED" message) →
        ∃ r, (report o.query c).value = .ok r ∧ parsed.exit = 0 ∧ parsed.stdout = [r.toJson.text] ∧
          ∀ records, (readRecords files' path c).value = .ok records →
            queried.exit = 0 ∧ queried.stdout = [(r.query.execute records).toJson.text]) := by
  refine ⟨fun k => ⟨exists_stdout_run files k, fun f => reports_of_fails⟩, ?_⟩
  intro files' path o o' c hc hc' hquery parsed queried
  have hparsed := fun message => @reports_rejected_iff _ files (parse o) c hc message
  have hqueried := fun message => @reports_rejected_iff _ files' (query path o') c hc' message
  simp only [options, hquery] at hparsed hqueried
  refine ⟨fun message => (hparsed message).trans (hqueried message).symm, fun hnot => ?_⟩
  cases hread : (Engine.readChecked c o.query).value with
  | error d => exact absurd ((hparsed d.message).2 ⟨d, hread, rfl⟩) (hnot d.message)
  | ok q => exact reported_and_executed ⟨hc, hread⟩ ⟨hc', by rw [hquery, hread]⟩

end Command

end

namespace Command

/-- A configuration file and a flag make both commands strict, and both refuse the query before a
missing file of records matters. -/
theorem run_outcome_refused :
    let files : Files := ⟨[("strict.json", .file "\x7b\"strict\":true\x7d".toUTF8)]⟩
    let o : Options := { query := "$skip=1&$top=x", config := some "strict.json" }
    let o' : Options := { query := "$skip=1&$top=x", strict := true, logLevel := some .off }
    let message := "Invalid $top: 'x' is not a nonnegative integer"
    (configOf files o).value = .ok { strict := true } ∧
      (configOf ⟨[]⟩ o').value = .ok { strict := true } ∧ o'.query = o.query ∧
      ((parse o).run files).Reports "CLI_QUERY_REJECTED" message ∧
      ((query "none.json" o').run ⟨[]⟩).Reports "CLI_QUERY_REJECTED" message := by
  intro files o o' message
  have hfile : (configOf files o).value = .ok { strict := true } := by decide +kernel
  have hflag : (configOf ⟨[]⟩ o').value = .ok { strict := true } := by decide +kernel
  have hrejected : (Engine.readChecked { strict := true } o.query).value =
      .error (.invalidNumber "$top" "x") := by decide +kernel
  have hfails : Fails files (parse o) (.rejected (.invalidNumber "$top" "x")) :=
    .rejected hfile hrejected
  obtain ⟨hruns, hagree⟩ := run_outcome files
  have hparsed : ((parse o).run files).Reports "CLI_QUERY_REJECTED" message :=
    (hruns (parse o)).2 _ hfails
  exact ⟨hfile, hflag, rfl, hparsed,
    ((hagree ⟨[]⟩ "none.json" o o' _ hfile hflag rfl).1 message).1 hparsed⟩

end Command

end RecordQuery
