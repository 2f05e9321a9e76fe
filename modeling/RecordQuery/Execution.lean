import RecordQuery.Log.Logger
import RecordQuery.Query.Basic
import RecordQuery.Record.Matching
import RecordQuery.Record.Result
import RecordQuery.Record.Sorting

/-!
# Execution

A query runs in stages whose order is fixed: search, filter, sort, paginate, select.  Each stage
takes the records that the one before has left.  It does nothing when its part of the query is absent
or empty, and otherwise it reports how many records it leaves; skipping and limiting together make
up one stage.  The number of matching records is taken after the filter.

At the end there is one more report, with the numbers of the whole execution.  The fields of a report
are made up only for a logger that would write it.  What a stage leaves does not depend on the
logger, and `Query.searched` to `Query.selected` are the stages without one.
-/

namespace RecordQuery

/-- A stage of an execution. -/
inductive Stage where
  | search
  | filter
  | sort
  | paginate
  | select
deriving DecidableEq

def Stage.name : Stage → String
  | search => "search"
  | filter => "filter"
  | sort => "sort"
  | paginate => "paginate"
  | select => "select"

namespace Logger

/-- The report of a stage that leaves this many records, the engine's `QueryExecutor::stage`. -/
def stage (l : Logger) (stage : Stage) (remaining : Nat) : Logged Unit := do
  if l.enabled .trace then
    l.event .stageApplied .trace [("remaining", countText remaining), ("stage", stage.name)]

/-- The records that a stage leaves, with its report. -/
def leaving (l : Logger) (stage : Stage) (records : List Record) : Logged (List Record) := do
  l.stage stage records.length
  return records

/-- A stage whose part of the query is there leaves records and reports on them; without its part it
does nothing. -/
def applying {α : Type} (l : Logger) (stage : Stage) (part : Option α) (records : List Record)
    (leave : α → List Record) : Logged (List Record) :=
  match part with
  | some a => l.leaving stage (leave a)
  | none => return records

/-- The report of an execution. -/
def executed (l : Logger) (input matched returned : Nat) : Logged Unit := do
  if l.enabled .trace then
    l.event .queryExecuted .trace
      [("input", countText input), ("matched", countText matched),
        ("returned", countText returned)]

end Logger

namespace Query

/-! ### Pages -/

/-- The position of the first record of the page; an offset beyond the end stops at the end. -/
def pageStart (q : Query) (length : Nat) : Nat := min (q.offset.getD 0) length

/-- The number of records on the page, of `length` records from its start on; a limit of zero sets
none. -/
def pageLength (q : Query) (length : Nat) : Nat :=
  match q.limit with
  | some n => if n = 0 then length else min n length
  | none => length

def skipped (q : Query) (records : List Record) : List Record :=
  records.drop (q.pageStart records.length)

def limited (q : Query) (records : List Record) : List Record :=
  records.take (q.pageLength records.length)

def page (q : Query) (records : List Record) : List Record := q.limited (q.skipped records)

/-! ### Stages -/

def searching (l : Logger) (q : Query) (records : List Record) : Logged (List Record) :=
  l.applying .search q.search records fun term => records.filter (Record.containsTerm term)

def filtering (l : Logger) (q : Query) (records : List Record) : Logged (List Record) :=
  l.applying .filter (q.conditions.filter (· ≠ [])) records fun conditions =>
    records.filter (Condition.allHold conditions)

def sorting (l : Logger) (q : Query) (records : List Record) : Logged (List Record) :=
  l.applying .sort (q.orderBy.filter fun spec => !spec.isEmpty) records fun spec =>
    spec.sort records

def paging (l : Logger) (q : Query) (records : List Record) : Logged (List Record) :=
  if q.offset.isSome || q.limit.isSome then l.leaving .paginate (q.page records)
  else return q.page records

/-- The number in the report is that of the page and not of what is made of it. -/
def selecting (l : Logger) (q : Query) (page : List Record) : Logged (List Record) :=
  match q.select.filter (· ≠ []) with
  | some fields => do
    let projected := page.map (·.project fields)
    l.stage .select page.length
    return projected
  | none => return page

/-- One stage after the other, as `QueryExecutor::execute` runs them. -/
def executing (l : Logger) (q : Query) (records : List Record) : Logged Result := do
  let found ← q.searching l records
  let matching ← q.filtering l found
  let sorted ← q.sorting l matching
  let page ← q.paging l sorted
  let data ← q.selecting l page
  l.executed records.length matching.length data.length
  return ⟨data, if q.wantsCount then some matching.length else none⟩

/-! ### Without a log -/

def searched (q : Query) (records : List Record) : List Record :=
  (q.searching .disabled records).value

def filtered (q : Query) (records : List Record) : List Record :=
  (q.filtering .disabled records).value

def sorted (q : Query) (records : List Record) : List Record := (q.sorting .disabled records).value

def selected (q : Query) (records : List Record) : List Record :=
  (q.selecting .disabled records).value

def execute (q : Query) (records : List Record) : Result := (q.executing .disabled records).value

end Query

/-! ### The logger makes no difference -/

theorem Logger.value_applying {α : Type} (l : Logger) (stage : Stage) (part : Option α)
    (records : List Record) (leave : α → List Record) :
    (l.applying stage part records leave).value = (part.map leave).getD records := by
  cases part <;> rfl

namespace Query

theorem searched_eq (q : Query) (records : List Record) :
    q.searched records =
      (q.search.map fun term => records.filter (Record.containsTerm term)).getD records :=
  Logger.value_applying ..

theorem filtered_eq (q : Query) (records : List Record) :
    q.filtered records =
      ((q.conditions.filter (· ≠ [])).map fun conditions =>
        records.filter (Condition.allHold conditions)).getD records :=
  Logger.value_applying ..

theorem sorted_eq (q : Query) (records : List Record) :
    q.sorted records =
      ((q.orderBy.filter fun spec => !spec.isEmpty).map fun spec => spec.sort records).getD
        records :=
  Logger.value_applying ..

theorem selected_eq (q : Query) (records : List Record) :
    q.selected records =
      match q.select.filter (· ≠ []) with
      | some fields => records.map (·.project fields)
      | none => records := by
  unfold selected selecting
  split <;> rfl

theorem value_searching (l : Logger) (q : Query) (records : List Record) :
    (q.searching l records).value = q.searched records := by
  rw [searched_eq, searching, Logger.value_applying]

theorem value_filtering (l : Logger) (q : Query) (records : List Record) :
    (q.filtering l records).value = q.filtered records := by
  rw [filtered_eq, filtering, Logger.value_applying]

theorem value_sorting (l : Logger) (q : Query) (records : List Record) :
    (q.sorting l records).value = q.sorted records := by
  rw [sorted_eq, sorting, Logger.value_applying]

theorem value_paging (l : Logger) (q : Query) (records : List Record) :
    (q.paging l records).value = q.page records := by
  unfold paging
  split <;> rfl

theorem value_selecting (l : Logger) (q : Query) (records : List Record) :
    (q.selecting l records).value = q.selected records := by
  unfold selected selecting
  split <;> rfl

theorem value_executing (l : Logger) (q : Query) (records : List Record) :
    (q.executing l records).value =
      ⟨q.selected (q.page (q.sorted (q.filtered (q.searched records)))),
        if q.wantsCount then some (q.filtered (q.searched records)).length else none⟩ := by
  rw [executing]
  simp only [Logged.value_bind, Logged.value_pure, value_searching, value_filtering, value_sorting,
    value_paging, value_selecting]

theorem data_execute (q : Query) (records : List Record) :
    (q.execute records).data =
      q.selected (q.limited (q.skipped (q.sorted (q.filtered (q.searched records))))) := by
  rw [execute, value_executing, page]

theorem count_execute (q : Query) (records : List Record) :
    (q.execute records).count =
      if q.wantsCount then some (q.filtered (q.searched records)).length else none := by
  rw [execute, value_executing]

/-! ### Positions of a page -/

theorem pageStart_le (q : Query) (length : Nat) : q.pageStart length ≤ length :=
  Nat.min_le_right _ _

theorem pageLength_le (q : Query) (length : Nat) : q.pageLength length ≤ length := by
  unfold pageLength
  split
  · split
    · exact Nat.le_refl _
    · exact Nat.min_le_right _ _
  · exact Nat.le_refl _

theorem skipped_eq_drop (q : Query) (records : List Record) :
    q.skipped records = records.drop (q.offset.getD 0) :=
  List.drop_eq_drop_min.symm

theorem limited_eq_take {q : Query} {n : Nat} (h : q.limit = some n) (hn : n ≠ 0)
    (records : List Record) : q.limited records = records.take n := by
  rw [limited, pageLength, h]
  simp only [hn, if_false]
  exact List.take_eq_take_min.symm

/-- Without a limit, or with a limit of zero, the page goes to the end. -/
theorem limited_eq_self {q : Query} (h : ∀ n, q.limit = some n → n = 0) (records : List Record) :
    q.limited records = records := by
  have hlength : q.pageLength records.length = records.length := by
    unfold pageLength
    split
    · next n hn => simp [h n hn]
    · rfl
  rw [limited, hlength, List.take_length]

end Query

end RecordQuery
