import RecordQuery.Proofs.Execution.Skipping
import RecordQuery.Proofs.Execution.Stages
import RecordQuery.Proofs.Log.Threshold

/-!
# The trace of an execution

Under the lowest threshold an execution writes one line for each stage that it went through and a
summary at the end.  This module proves that the lines are true: they name the stages that the query
asks for, in the order in which stages are executed, and every number in them is the number of
records that is left at that point.

One step of the argument is a stage (`Query.passing`).  No stage adds a record, sorting loses none,
and a stage that the query does not ask for changes nothing and writes nothing, so its missing line
leaves no gap between the numbers before and after it (`Declines.filter`).  The run is the sequence of
the five (`Query.accountFrom`), and the log is its account (`Engine.log_execute_account`).

A search is asked for by any search term.  The empty term is one, too: it is found in every string,
so it leaves out the records that have none, and that has its line (`Engine.log_execute_emptyTerm`).
-/

namespace RecordQuery

/-! ### Numbers that go down -/

/-- The numbers after the steps of an account never go up, and at some stages they do not go down
either. -/
inductive Declines (keeps : Stage → Prop) : Nat → List (Stage × Nat) → Prop
  | nil (start : Nat) : Declines keeps start []
  | cons {start remaining : Nat} {stage : Stage} {steps : List (Stage × Nat)}
      (hle : remaining ≤ start) (hkeeps : keeps stage → remaining = start)
      (hsteps : Declines keeps remaining steps) :
      Declines keeps start ((stage, remaining) :: steps)

/-- Steps that keep the number can be left out. -/
theorem Declines.filter {keeps : Stage → Prop} {start : Nat} {steps : List (Stage × Nat)}
    (h : Declines keeps start steps) (shown : Stage → Bool)
    (hhidden : ∀ stage, shown stage = false → keeps stage) :
    Declines keeps start (steps.filter fun step => shown step.1) := by
  induction h with
  | nil start => exact .nil start
  | @cons start remaining stage steps hle hkeeps hsteps ih =>
    cases hshown : shown stage with
    | true =>
      rw [List.filter_cons_of_pos (by simpa using hshown)]
      exact .cons hle hkeeps ih
    | false =>
      obtain rfl := hkeeps (hhidden stage hshown)
      rwa [List.filter_cons_of_neg (by simp [hshown])]

theorem Declines.mono {keeps fewer : Stage → Prop} {start : Nat} {steps : List (Stage × Nat)}
    (h : Declines keeps start steps) (hfewer : ∀ stage, fewer stage → keeps stage) :
    Declines fewer start steps := by
  induction h with
  | nil start => exact .nil start
  | cons hle hkeeps hsteps ih => exact .cons hle (fun hstage => hkeeps (hfewer _ hstage)) ih

/-- The outcome and the account of an execution. -/
structure Execution where
  result : Result
  /-- The stages that ran, each with the number of records left after it. -/
  stages : List (Stage × Nat)
  /-- The number of records given. -/
  input : Nat
  /-- The number of records that search and filter let through. -/
  matched : Nat

/-! ### Stages -/

namespace Stage

/-- The stages in the order in which they are executed. -/
def all : List Stage := [search, filter, sort, paginate, select]

/-- The query has the part that a stage is about: a search term, conditions or sort keys or fields,
of which there is one at least, and an offset or a limit. -/
def IsAskedBy (q : Query) : Stage → Prop
  | search => ∃ term, q.search = some term
  | filter => ∃ conditions, q.conditions = some conditions ∧ conditions ≠ []
  | sort => ∃ spec, q.orderBy = some spec ∧ spec.entries ≠ []
  | paginate => (∃ n, q.offset = some n) ∨ ∃ n, q.limit = some n
  | select => ∃ fields, q.select = some fields ∧ fields ≠ []

/-- The stage finds its part of the query. -/
def runs (q : Query) : Stage → Bool
  | search => q.search.isSome
  | filter => (q.conditions.filter (· ≠ [])).isSome
  | sort => (q.orderBy.filter fun spec => !spec.isEmpty).isSome
  | paginate => q.offset.isSome || q.limit.isSome
  | select => (q.select.filter (· ≠ [])).isSome

theorem runs_iff {q : Query} {stage : Stage} : stage.runs q = true ↔ stage.IsAskedBy q := by
  cases stage with
  | search => exact Option.isSome_iff_exists
  | filter => simp [runs, IsAskedBy, Option.any_eq_true]
  | sort => simp [runs, IsAskedBy, Option.any_eq_true, FieldMap.isEmpty]
  | paginate => simp only [runs, IsAskedBy, Bool.or_eq_true, Option.isSome_iff_exists]
  | select => simp [runs, IsAskedBy, Option.any_eq_true]

end Stage

theorem Logger.log_applying {α : Type} (stage : Stage) (part : Option α) (records : List Record)
    (leave : α → List Record) :
    (applying ⟨.trace⟩ stage part records leave).log =
      if part.isSome then [(stage.entry ((part.map leave).getD records).length).line] else [] := by
  cases part <;> rfl

namespace Query

/-- The step of an execution that a stage is. -/
def passing (l : Logger) (q : Query) : Stage → List Record → Logged (List Record)
  | .search => q.searching l
  | .filter => q.filtering l
  | .sort => q.sorting l
  | .paginate => q.paging l
  | .select => q.selecting l

/-- The records that one stage leaves of those that are given to it. -/
def through (q : Query) : Stage → List Record → List Record
  | .search => q.searched
  | .filter => q.filtered
  | .sort => q.sorted
  | .paginate => q.page
  | .select => q.selected

/-- The parts of a query up to a stage. -/
def upTo (q : Query) : Stage → Query
  | .search => { search := q.search }
  | .filter => { search := q.search, conditions := q.conditions }
  | .sort => { search := q.search, conditions := q.conditions, orderBy := q.orderBy }
  | .paginate => { q with select := none, count := none }
  | .select => { q with count := none }

/-- The records that are left after a stage. -/
def after (q : Query) (records : List Record) : Stage → List Record
  | .search => q.searched records
  | .filter => q.filtered (q.searched records)
  | .sort => q.sorted (q.filtered (q.searched records))
  | .paginate => q.page (q.sorted (q.filtered (q.searched records)))
  | .select => q.selected (q.page (q.sorted (q.filtered (q.searched records))))

/-- The stages one after the other, each with the number of records that it leaves. -/
def accountFrom (q : Query) : List Record → List Stage → List (Stage × Nat)
  | _, [] => []
  | records, stage :: stages =>
    (stage, (q.through stage records).length) :: q.accountFrom (q.through stage records) stages

theorem value_passing (l : Logger) (q : Query) (stage : Stage) (records : List Record) :
    (q.passing l stage records).value = q.through stage records := by
  cases stage with
  | search => exact q.value_searching l records
  | filter => exact q.value_filtering l records
  | sort => exact q.value_sorting l records
  | paginate => exact q.value_paging l records
  | select => exact q.value_selecting l records

/-- The line of a stage gives the number of records that it leaves. -/
theorem log_passing (q : Query) (stage : Stage) (records : List Record) :
    (q.passing ⟨.trace⟩ stage records).log =
      if stage.runs q then [(stage.entry (q.through stage records).length).line] else [] := by
  cases stage with
  | search =>
    rw [through, searched_eq]
    exact Logger.log_applying .search _ records _
  | filter =>
    rw [through, filtered_eq]
    exact Logger.log_applying .filter _ records _
  | sort =>
    rw [through, sorted_eq]
    exact Logger.log_applying .sort _ records _
  | paginate =>
    unfold passing through paging Stage.runs
    cases q.offset.isSome || q.limit.isSome <;> rfl
  | select =>
    rw [through, length_selected]
    unfold passing selecting Stage.runs
    cases q.select.filter (· ≠ []) <;> rfl

theorem length_searched_le (q : Query) (records : List Record) :
    (q.searched records).length ≤ records.length := by
  rw [searched_eq]
  cases q.search with
  | none => exact Nat.le_refl _
  | some term => exact List.length_filter_le _ _

theorem length_filtered_le (q : Query) (records : List Record) :
    (q.filtered records).length ≤ records.length := by
  rw [filtered_eq]
  cases q.conditions.filter (· ≠ []) with
  | none => exact Nat.le_refl _
  | some conditions => exact List.length_filter_le _ _

theorem length_page_le (q : Query) (records : List Record) :
    (q.page records).length ≤ records.length := by
  rw [page, limited, skipped, List.length_take, List.length_drop]
  omega

/-- No stage adds a record. -/
theorem length_through_le (q : Query) (stage : Stage) (records : List Record) :
    (q.through stage records).length ≤ records.length := by
  cases stage with
  | search => exact q.length_searched_le records
  | filter => exact q.length_filtered_le records
  | sort => exact (q.length_sorted records).le
  | paginate => exact q.length_page_le records
  | select => exact (q.length_selected records).le

/-- A stage that does not run changes nothing. -/
theorem through_of_runs_eq_false {q : Query} {stage : Stage} (h : stage.runs q = false)
    (records : List Record) : q.through stage records = records := by
  cases stage with
  | search =>
    have hnone := Option.isNone_iff_eq_none.1 (Option.isSome_eq_false_iff.1 h)
    rw [through, searched_eq, hnone]
    rfl
  | filter =>
    have hnone := Option.isNone_iff_eq_none.1 (Option.isSome_eq_false_iff.1 h)
    rw [through, filtered_eq, hnone]
    rfl
  | sort =>
    have hnone := Option.isNone_iff_eq_none.1 (Option.isSome_eq_false_iff.1 h)
    rw [through, sorted_eq, hnone]
    rfl
  | paginate =>
    obtain ⟨hoffset, hlimit⟩ : q.offset = none ∧ q.limit = none := by
      simpa [Stage.runs] using h
    rw [through, page, skipped_of_none records hoffset, limited_of_none records hlimit]
  | select =>
    have hnone := Option.isNone_iff_eq_none.1 (Option.isSome_eq_false_iff.1 h)
    rw [through, selected_eq, hnone]

/-! ### The account of an execution -/

variable (q : Query) (records : List Record)

def account : Execution where
  result := q.execute records
  stages := (q.accountFrom records Stage.all).filter fun step => step.1.runs q
  input := records.length
  matched := (q.filtered (q.searched records)).length

theorem map_fst_accountFrom (stages : List Stage) :
    (q.accountFrom records stages).map Prod.fst = stages := by
  induction stages generalizing records with
  | nil => rfl
  | cons stage stages ih => rw [accountFrom, List.map_cons, ih]

/-- Each stage takes the records of the one before. -/
theorem declines_accountFrom (stages : List Stage) :
    Declines (fun stage => stage = .sort ∨ stage.runs q = false) records.length
      (q.accountFrom records stages) := by
  induction stages generalizing records with
  | nil => exact .nil _
  | cons stage stages ih =>
    refine .cons (q.length_through_le stage records) ?_ (ih _)
    rintro (rfl | hidle)
    · exact q.length_sorted records
    · rw [through_of_runs_eq_false hidle]

theorem declines_stages_account :
    Declines (· = .sort) records.length (q.account records).stages := by
  have hshown := (q.declines_accountFrom records Stage.all).filter (fun stage => stage.runs q)
    fun _ hidle => .inr hidle
  exact hshown.mono fun _ hsort => .inl hsort

theorem map_fst_stages_account :
    (q.account records).stages.map Prod.fst = Stage.all.filter (·.runs q) := by
  rw [← q.map_fst_accountFrom records Stage.all, List.filter_map]
  rfl

theorem data_execute_upTo (stage : Stage) :
    ((q.upTo stage).execute records).data = q.after records stage := by
  rw [data_execute]
  cases stage with
  | search =>
    rw [filtered_of_none _ rfl, sorted_of_none _ rfl, skipped_of_none _ rfl, limited_of_none _ rfl,
      selected_of_none _ rfl]
    rfl
  | filter =>
    rw [sorted_of_none _ rfl, skipped_of_none _ rfl, limited_of_none _ rfl, selected_of_none _ rfl]
    rfl
  | sort =>
    rw [skipped_of_none _ rfl, limited_of_none _ rfl, selected_of_none _ rfl]
    rfl
  | paginate =>
    rw [selected_of_none _ rfl]
    rfl
  | select => rfl

theorem snd_of_mem_stages_account {step : Stage × Nat} (h : step ∈ (q.account records).stages) :
    step.2 = ((q.upTo step.1).execute records).data.length := by
  have hmem : step ∈ q.accountFrom records Stage.all := (List.mem_filter.1 h).1
  rw [data_execute_upTo]
  simp only [Stage.all, accountFrom, List.mem_cons, List.not_mem_nil, or_false] at hmem
  rcases hmem with rfl | rfl | rfl | rfl | rfl <;> rfl

theorem matched_account_le : (q.account records).matched ≤ records.length :=
  (q.length_filtered_le (q.searched records)).trans (q.length_searched_le records)

theorem length_data_execute_le :
    (q.execute records).data.length ≤ (q.filtered (q.searched records)).length := by
  rw [data_execute, length_selected, ← page]
  exact (q.length_page_le _).trans (q.length_sorted _).le

/-- The stages that run write their lines, one after the other. -/
theorem log_foldlM_passing (stages : List Stage) :
    (stages.foldlM (fun remaining stage => q.passing ⟨.trace⟩ stage remaining) records).log =
      ((q.accountFrom records stages).filter fun step => step.1.runs q).map fun step =>
        (step.1.entry step.2).line := by
  induction stages generalizing records with
  | nil => rfl
  | cons stage stages ih =>
    rw [List.foldlM_cons, Logged.log_bind, value_passing, ih, log_passing, accountFrom]
    cases hruns : stage.runs q with
    | true => rw [List.filter_cons_of_pos (by simpa using hruns)]; rfl
    | false => rw [List.filter_cons_of_neg (by simp [hruns])]; rfl

/-- An execution is the sequence of its stages, and the summary comes last. -/
theorem log_executing (l : Logger) :
    (q.executing l records).log =
      (Stage.all.foldlM (fun remaining stage => q.passing l stage remaining) records).log ++
        (l.executed records.length (q.filtered (q.searched records)).length
          (q.execute records).data.length).log := by
  rw [executing]
  simp only [Stage.all, List.foldlM_cons, List.foldlM_nil, passing, Logged.log_bind,
    Logged.log_pure, List.append_nil, List.append_assoc, value_searching, value_filtering,
    value_sorting, value_paging, value_selecting, data_execute, page]

end Query

/-! ### The log -/

/-- What the line for a stage says. -/
def Stage.report (stage : Stage) (remaining : Nat) : List (String × String) :=
  [("event", "STAGE_APPLIED"), ("severity", "TRACE"), ("remaining", countText remaining),
    ("stage", stage.name)]

theorem Stage.read?_line (stage : Stage) (remaining : Nat) :
    Json.read? (stage.entry remaining).line =
      some (.object (Json.ofStrings (stage.report remaining))) :=
  Entry.read?_line_of_isSorted (stage.isPlain_entry remaining)
    (Entry.isSorted_pair (by decide) _ _)

namespace Execution

/-- What the last line says. -/
def summary (x : Execution) : List (String × String) :=
  [("event", "QUERY_EXECUTED"), ("severity", "TRACE"), ("input", countText x.input),
    ("matched", countText x.matched), ("returned", countText x.result.data.length)]

/-- The lines are one for each stage in the account, in their order, and then the summary. -/
def IsFullLog (x : Execution) (log : List String) : Prop :=
  ∃ steps summary, log = steps ++ [summary] ∧
    List.Forall₂
      (fun step line =>
        Json.read? line = some (.object (Json.ofStrings (step.1.report step.2))))
      x.stages steps ∧
    Json.read? summary = some (.object (Json.ofStrings x.summary))

/-- What an account says is true of the execution of a query. -/
structure IsTrueOf (x : Execution) (q : Query) (records : List Record) : Prop where
  /-- The stages stand in the order in which they are executed. -/
  ordered : (x.stages.map Prod.fst).Sublist Stage.all
  asked : ∀ stage, stage ∈ x.stages.map Prod.fst ↔ stage.IsAskedBy q
  declines : Declines (· = .sort) records.length x.stages
  /-- A number is that of the records that a query without the later stages yields. -/
  remaining : ∀ step ∈ x.stages, step.2 = ((q.upTo step.1).execute records).data.length
  input : x.input = records.length
  matched : x.matched = ((q.upTo .filter).execute records).data.length
  matched_le : x.matched ≤ x.input
  returned_le : x.result.data.length ≤ x.matched
  count : x.result.count = if q.count = some true then some x.matched else none

theorem isTrueOf_account (q : Query) (records : List Record) :
    (q.account records).IsTrueOf q records where
  ordered := by
    rw [q.map_fst_stages_account]
    exact List.filter_sublist
  asked stage := by
    have hall : stage ∈ Stage.all := by cases stage <;> decide
    rw [q.map_fst_stages_account, List.mem_filter, Stage.runs_iff]
    exact and_iff_right hall
  declines := q.declines_stages_account records
  remaining _ hstep := q.snd_of_mem_stages_account records hstep
  input := rfl
  matched := by
    rw [q.data_execute_upTo]
    rfl
  matched_le := q.matched_account_le records
  returned_le := q.length_data_execute_le records
  count := by
    have hcount := q.count_execute records
    simp only [Query.wantsCount, decide_eq_true_eq] at hcount
    exact hcount

theorem isFullLog_executing (q : Query) (records : List Record) :
    (q.account records).IsFullLog (q.executing ⟨.trace⟩ records).log := by
  have hlog := q.log_executing records ⟨.trace⟩
  rw [q.log_foldlM_passing] at hlog
  refine ⟨_, _, hlog, ?_, ?_⟩
  · exact List.forall₂_map_right_iff.2
      (List.forall₂_same.2 fun step _ => step.1.read?_line step.2)
  · exact Entry.read?_line_of_isSorted
      (Entry.isPlain_of_keys ["input", "matched", "returned"] rfl (by decide))
      (Entry.isSorted_of_keys ["input", "matched", "returned"] rfl (by decide))

end Execution

namespace Engine

/-- The full log of an execution is an account of it, and everything in it is true. -/
theorem log_execute_account (c : Config) (q : Query) (records : List Record) :
    ∃ x : Execution,
      x.IsFullLog (execute (c.atLevel .trace) q records).log ∧
      x.result = (execute (c.atLevel .trace) q records).value ∧
      x.IsTrueOf q records :=
  ⟨q.account records, Execution.isFullLog_executing q records,
    (value_execute (c.atLevel .trace) q records).symm, Execution.isTrueOf_account q records⟩

/-- A search for the empty term has a line, although there is nothing in the term. -/
theorem log_execute_emptyTerm :
    let q : Query := { search := some "" }
    let records : List Record := [.ofList [("a", .string "x")], .ofList [("a", .null)]]
    ¬ ((∃ line ∈ (execute (Config.atLevel {} .trace) q records).log,
          Json.read? line = some (.object (Json.ofStrings (Stage.search.report 1)))) ↔
        ∃ term, q.search = some term ∧ term ≠ "") := by
  intro q records hiff
  have hleft : (q.searched records).length = 1 := by decide +kernel
  obtain ⟨term, hterm, hne⟩ :=
    hiff.1 ⟨_, List.mem_cons_self, hleft ▸ Stage.search.read?_line (q.searched records).length⟩
  exact hne (Option.some.inj hterm).symm

end Engine

end RecordQuery
