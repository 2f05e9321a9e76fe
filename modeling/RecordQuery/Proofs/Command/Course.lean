import RecordQuery.Command.Run
import RecordQuery.Proofs.Json.ReadBack
import RecordQuery.Proofs.Query.Strictness
import RecordQuery.Proofs.Record.ResultText

/-!
# The course of a command

A command goes through its configuration, its query and its records, in this order, and the first of
them that fails decides.  `Command.Fails` says which failure that is, by what the files hold, and
`Command.Shows` says what is shown if there is none.  These are the two ways in which a command can
be answered (`Command.answer_eq_ok_iff`, `Command.answer_eq_error_iff`).

Both commands read their query in one way: the report on a query is about the query that
`Engine.readChecked` finds, and it is refused for the reason that is found there.
-/

namespace RecordQuery

/-! ### Activities that may fail -/

namespace Logged

variable {α β ε δ : Type} {l : Logged (Except ε α)}

theorem value_andThen_eq_ok_iff {next : α → Logged (Except ε β)} {b : β} :
    (l.andThen next).value = .ok b ↔ ∃ a, l.value = .ok a ∧ (next a).value = .ok b := by
  rw [andThen]
  cases l.value <;> simp

/-- An activity fails with its first part or, after that, with its second one. -/
theorem value_andThen_eq_error_iff {next : α → Logged (Except ε β)} {e : ε} :
    (l.andThen next).value = .error e ↔
      l.value = .error e ∨ ∃ a, l.value = .ok a ∧ (next a).value = .error e := by
  rw [andThen]
  cases l.value <;> simp

theorem value_map_eq_ok_iff {f : α → β} {b : β} :
    (l.map fun outcome => outcome.map f).value = .ok b ↔ ∃ a, l.value = .ok a ∧ f a = b := by
  rw [map]
  cases l.value <;> simp [Except.map]

theorem value_map_eq_error_iff {f : α → β} {e : ε} :
    (l.map fun outcome => outcome.map f).value = .error e ↔ l.value = .error e := by
  rw [map]
  cases l.value <;> simp [Except.map]

theorem value_mapError_eq_ok_iff {f : ε → δ} {a : α} :
    (l.mapError f).value = .ok a ↔ l.value = .ok a := by
  rw [mapError]
  cases l.value <;> simp [Except.mapError]

theorem value_mapError_eq_error_iff {f : ε → δ} {d : δ} :
    (l.mapError f).value = .error d ↔ ∃ e, l.value = .error e ∧ f e = d := by
  rw [mapError]
  cases l.value <;> simp [Except.mapError]

end Logged

/-! ### Reports -/

namespace Failure

theorem code_eq_rejected_iff {f : Failure} :
    f.code = "CLI_QUERY_REJECTED" ↔ ∃ d, f = .rejected d := by
  cases f <;> simp [code]

theorem toJson_eq_ofStrings (f : Failure) :
    f.toJson = .object (Json.ofStrings
      [("status", "error"), ("code", f.code), ("message", f.message)]) :=
  rfl

theorem read?_text_toJson (f : Failure) : Json.read? f.toJson.text = some f.toJson := by
  rw [toJson_eq_ofStrings]
  exact Json.read?_text_ofStrings (by simp)

end Failure

namespace Command

variable {c : Config}

/-- A report is what a lenient reading finds, unless the configuration refuses the query. -/
theorem value_report_eq_ok_iff {text : String} {r : Reading} :
    (report text c).value = .ok r ↔
      (Engine.readChecked c text).value = .ok r.query ∧
        r.diagnostics = (Engine.read c text).value.diagnostics := by
  unfold report Engine.readChecked
  split
  · have hstrictly : (Engine.readStrictly c text).value = (Engine.read c text).value.strictly := rfl
    rw [Logged.value_map_eq_ok_iff, hstrictly]
    simp only [Logged.value_mapError_eq_ok_iff, hstrictly, Reading.strictly_eq_ok_iff]
    constructor
    · rintro ⟨q, ⟨hnil, rfl⟩, rfl⟩
      exact ⟨⟨hnil, rfl⟩, hnil.symm⟩
    · rintro ⟨⟨hnil, hquery⟩, hdiagnostics⟩
      refine ⟨r.query, ⟨hnil, hquery⟩, ?_⟩
      rw [← hnil, ← hdiagnostics]
  · simp only [Logged.map, Except.ok.injEq]
    constructor
    · rintro rfl
      exact ⟨rfl, rfl⟩
    · rintro ⟨hquery, hdiagnostics⟩
      cases r
      exact congrArg₂ Reading.mk hquery hdiagnostics.symm

theorem value_report_eq_error_iff {text : String} {f : Failure} :
    (report text c).value = .error f ↔
      ∃ d, (Engine.readChecked c text).value = .error d ∧ .rejected d = f := by
  unfold report Engine.readChecked
  split
  · rw [Logged.value_map_eq_error_iff, Logged.value_mapError_eq_error_iff]
  · simp [Logged.map]

end Command

/-! ### Failures -/

variable [RefusalWording]

/-- What is wrong with a configuration file, by what the path leads to. -/
inductive ConfigFailure.Arises (files : Files) (path : String) : ConfigFailure → Prop
  | unreadable {why : ReadFailure} (hread : files.read path = .error why) :
      Arises files path (.unreadable path why)
  | malformed {text : String} (hread : files.read path = .ok text)
      (hnone : Config.ofText? text = none) :
      Arises files path (.malformed ⟨path, RefusalWording.config text⟩)
  | invalid {text : String} {c : Config} {setting : InvalidSetting}
      (hread : files.read path = .ok text) (hc : Config.ofText? text = some c)
      (hinvalid : c.validate = .error setting) : Arises files path (.invalid setting)

/-- What is wrong with a file of records, by what the path leads to. -/
inductive Failure.ArisesFromRecords (files : Files) (path : String) : Failure → Prop
  | unreadable {why : ReadFailure} (hread : files.read path = .error why) :
      ArisesFromRecords files path (.unreadable path why)
  | malformed {text : String} (hread : files.read path = .ok text)
      (hnone : Json.read? text = none) :
      ArisesFromRecords files path (.malformed (RefusalWording.json text))
  | notAnArray {text : String} {document : Json} (hread : files.read path = .ok text)
      (hdocument : Json.read? text = some document) (hnot : ∀ items, document ≠ .array items) :
      ArisesFromRecords files path (.notAnArray path)

namespace Command

variable {files : Files} {k : Command} {path : String} {o : Options} {c : Config} {q : Query}

def options : Command → Options
  | query _ o => o
  | parse o => o

/-- The options lead to a configuration, and under it their query string is read as the query. -/
structure Reads (files : Files) (o : Options) (c : Config) (q : Query) : Prop where
  config : (configOf files o).value = .ok c
  query : (Engine.readChecked c o.query).value = .ok q

/-- The failure that a command ends in.  What comes later in the run makes no difference to it. -/
inductive Fails (files : Files) : Command → Failure → Prop
  | config {k : Command} {path : String} {cause : ConfigFailure}
      (hpath : k.options.config = some path) (hcause : cause.Arises files path) :
      Fails files k (.config cause)
  | rejected {k : Command} {c : Config} {d : Diagnostic}
      (hconfig : (configOf files k.options).value = .ok c)
      (hrejected : (Engine.readChecked c k.options.query).value = .error d) :
      Fails files k (.rejected d)
  | records {path : String} {o : Options} {c : Config} {q : Query} {f : Failure}
      (hreads : Reads files o c q) (hf : f.ArisesFromRecords files path) :
      Fails files (.query path o) f

/-- What a command is to show: the result of its query, or the report on it. -/
inductive Shows (files : Files) : Command → String → Prop
  | result {path : String} {o : Options} {c : Config} {q : Query} {records : List Record}
      (hreads : Reads files o c q) (hrecords : (readRecords files path c).value = .ok records) :
      Shows files (.query path o) (q.execute records).toJson.text
  | report {o : Options} {c : Config} {q : Query} (hreads : Reads files o c q) :
      Shows files (.parse o) (Reading.mk q (Engine.read c o.query).value.diagnostics).toJson.text

/-! ### The steps of a run -/

theorem value_readConfig_eq_error_iff {cause : ConfigFailure} :
    (readConfig files path).value = .error cause ↔ cause.Arises files path := by
  constructor
  · intro h
    unfold readConfig at h
    split at h
    · next why hread =>
      cases h
      exact .unreadable hread
    · next text hread =>
      split at h
      · next hnone =>
        cases h
        exact .malformed hread hnone
      · next c hc =>
        split at h
        · next setting hinvalid =>
          cases h
          exact .invalid hread hc hinvalid
        · cases h
  · intro h
    cases h with
    | unreadable hread => simp only [readConfig, hread, Logged.silent]
    | malformed hread hnone => simp only [readConfig, hread, hnone, Logged.silent]
    | invalid hread hc hinvalid => simp only [readConfig, hread, hc, hinvalid, Logged.silent]

theorem value_configOf_eq_error_iff {f : Failure} :
    (configOf files o).value = .error f ↔
      ∃ path cause, o.config = some path ∧ cause.Arises files path ∧ .config cause = f := by
  rw [configOf, Logged.value_mapError_eq_error_iff]
  unfold config
  simp only [Logged.value_map_eq_error_iff]
  cases o.config with
  | none => simp [Logged.silent]
  | some path => simp [value_readConfig_eq_error_iff]

theorem value_readRecords_eq_error_iff {f : Failure} :
    (readRecords files path c).value = .error f ↔ f.ArisesFromRecords files path := by
  constructor
  · intro h
    unfold readRecords at h
    split at h
    · next why hread =>
      cases h
      exact .unreadable hread
    · next text hread =>
      split at h
      · next hnone =>
        cases h
        exact .malformed hread hnone
      · next document hdocument =>
        cases document with
        | array items => cases h
        | _ =>
          cases h
          exact .notAnArray hread hdocument (by simp)
  · intro h
    cases h with
    | unreadable hread => simp only [readRecords, hread, Logged.silent]
    | malformed hread hnone => simp only [readRecords, hread, hnone, Logged.silent]
    | notAnArray hread hdocument hnot =>
      simp only [readRecords, hread, hdocument]
      cases ‹Json› with
      | array items => exact absurd rfl (hnot items)
      | _ => rfl

theorem value_queryFile_eq_ok_iff {text : String} {r : Result} :
    (queryFile files path text c).value = .ok r ↔
      ∃ q records, (Engine.readChecked c text).value = .ok q ∧
        (readRecords files path c).value = .ok records ∧ q.execute records = r := by
  simp only [queryFile, Logged.value_andThen_eq_ok_iff, Logged.value_mapError_eq_ok_iff]
  constructor
  · rintro ⟨q, hq, records, hrecords, hr⟩
    rw [Logged.map, Engine.value_execute] at hr
    exact ⟨q, records, hq, hrecords, Except.ok.inj hr⟩
  · rintro ⟨q, records, hq, hrecords, rfl⟩
    exact ⟨q, hq, records, hrecords, congrArg Except.ok (Engine.value_execute c q records)⟩

theorem value_queryFile_eq_error_iff {text : String} {f : Failure} :
    (queryFile files path text c).value = .error f ↔
      (∃ d, (Engine.readChecked c text).value = .error d ∧ .rejected d = f) ∨
        ∃ q, (Engine.readChecked c text).value = .ok q ∧ f.ArisesFromRecords files path := by
  simp only [queryFile, Logged.value_andThen_eq_error_iff, Logged.value_mapError_eq_ok_iff,
    Logged.value_mapError_eq_error_iff, value_readRecords_eq_error_iff]
  -- executing a query cannot fail
  refine or_congr_right (exists_congr fun q => and_congr_right fun _ => ?_)
  constructor
  · rintro (hf | ⟨records, -, hexecute⟩)
    · exact hf
    · cases hexecute
  · exact Or.inl

theorem answer_eq_ok_iff {line : String} :
    (k.answer files).value = .ok line ↔ Shows files k line := by
  cases k with
  | query path o =>
    simp only [answer, Logged.value_andThen_eq_ok_iff, Logged.value_map_eq_ok_iff,
      value_queryFile_eq_ok_iff]
    constructor
    · rintro ⟨c, hc, _, ⟨q, records, hq, hrecords, rfl⟩, rfl⟩
      rw [(Result.write_eq_text_toJson _).1]
      exact .result ⟨hc, hq⟩ hrecords
    · intro h
      cases h with
      | result hreads hrecords =>
        refine ⟨_, hreads.config, _, ⟨_, _, hreads.query, hrecords, rfl⟩, ?_⟩
        exact (Result.write_eq_text_toJson _).1
  | parse o =>
    simp only [answer, Logged.value_andThen_eq_ok_iff, Logged.value_map_eq_ok_iff,
      value_report_eq_ok_iff]
    constructor
    · rintro ⟨c, hc, r, ⟨hq, hdiagnostics⟩, rfl⟩
      obtain ⟨q, diagnostics⟩ := r
      obtain rfl : diagnostics = _ := hdiagnostics
      exact .report ⟨hc, hq⟩
    · intro h
      cases h with
      | @report _ c q hreads =>
        exact ⟨c, hreads.config, ⟨q, (Engine.read c o.query).value.diagnostics⟩,
          ⟨hreads.query, rfl⟩, rfl⟩

theorem answer_eq_error_iff {f : Failure} :
    (k.answer files).value = .error f ↔ Fails files k f := by
  cases k with
  | query path o =>
    simp only [answer, Logged.value_andThen_eq_error_iff, Logged.value_map_eq_error_iff,
      value_queryFile_eq_error_iff, value_configOf_eq_error_iff]
    constructor
    · rintro (⟨path, cause, hpath, hcause, rfl⟩ | ⟨c, hc, ⟨d, hd, rfl⟩ | ⟨q, hq, hf⟩⟩)
      · exact .config hpath hcause
      · exact .rejected hc hd
      · exact .records ⟨hc, hq⟩ hf
    · intro h
      cases h with
      | config hpath hcause => exact Or.inl ⟨_, _, hpath, hcause, rfl⟩
      | rejected hconfig hrejected => exact Or.inr ⟨_, hconfig, Or.inl ⟨_, hrejected, rfl⟩⟩
      | records hreads hf => exact Or.inr ⟨_, hreads.config, Or.inr ⟨_, hreads.query, hf⟩⟩
  | parse o =>
    simp only [answer, Logged.value_andThen_eq_error_iff, Logged.value_map_eq_error_iff,
      value_report_eq_error_iff, value_configOf_eq_error_iff]
    constructor
    · rintro (⟨path, cause, hpath, hcause, rfl⟩ | ⟨c, hc, d, hd, rfl⟩)
      · exact .config hpath hcause
      · exact .rejected hc hd
    · intro h
      cases h with
      | config hpath hcause => exact Or.inl ⟨_, _, hpath, hcause, rfl⟩
      | rejected hconfig hrejected => exact Or.inr ⟨_, hconfig, _, hrejected, rfl⟩

end Command

end RecordQuery
