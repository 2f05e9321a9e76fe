import RecordQuery.Execution

/-!
# One stage at a time

A query can be taken apart into queries that hold one part each.  This module proves that executing
those one after the other, each on the records that the one before left, ends with the records that
the whole query yields, and that the count is the number of records after the first two of them.

Each stage looks at its own part of the query only, so a query with a single part runs that stage
and passes everything else through.
-/

namespace RecordQuery.Query

/-- The queries that hold one part each, in the order of the stages. -/
def parts (q : Query) : List Query :=
  [{ search := q.search }, { conditions := q.conditions }, { orderBy := q.orderBy },
    { offset := q.offset }, { limit := q.limit }, { select := q.select }]

/-- The records that queries leave when each is executed on the data of the one before. -/
def executeInTurn (queries : List Query) (records : List Record) : List Record :=
  queries.foldl (fun remaining q => (q.execute remaining).data) records

/-! ### Stages without their part -/

section

variable {q : Query} (records : List Record)

@[simp] theorem searched_of_none (h : q.search = none) : q.searched records = records := by
  rw [searched_eq, h]
  rfl

@[simp] theorem filtered_of_none (h : q.conditions = none) : q.filtered records = records := by
  rw [filtered_eq, h]
  rfl

@[simp] theorem sorted_of_none (h : q.orderBy = none) : q.sorted records = records := by
  rw [sorted_eq, h]
  rfl

@[simp] theorem skipped_of_none (h : q.offset = none) : q.skipped records = records := by
  rw [skipped_eq_drop, h]
  rfl

@[simp] theorem limited_of_none (h : q.limit = none) : q.limited records = records :=
  limited_eq_self (by simp [h]) records

@[simp] theorem selected_of_none (h : q.select = none) : q.selected records = records := by
  rw [selected_eq, h]
  rfl

end

theorem length_selected (q : Query) (records : List Record) :
    (q.selected records).length = records.length := by
  rw [selected_eq]
  split
  · exact List.length_map _
  · rfl

/-! ### Parts in turn -/

/-- Queries in turn, the first ones first. -/
theorem executeInTurn_append (first second : List Query) (records : List Record) :
    executeInTurn (first ++ second) records =
      executeInTurn second (executeInTurn first records) :=
  List.foldl_append

/-- Search and conditions leave the records that are counted. -/
theorem executeInTurn_matching (q : Query) (records : List Record) :
    executeInTurn [{ search := q.search }, { conditions := q.conditions }] records =
      q.filtered (q.searched records) := by
  have hsearch : ∀ remaining, (({ search := q.search } : Query).execute remaining).data =
      q.searched remaining := by
    intro remaining
    simp only [data_execute, filtered_of_none, sorted_of_none, skipped_of_none, limited_of_none,
      selected_of_none]
    rfl
  have hconditions : ∀ remaining, (({ conditions := q.conditions } : Query).execute remaining).data =
      q.filtered remaining := by
    intro remaining
    simp only [data_execute, searched_of_none, sorted_of_none, skipped_of_none, limited_of_none,
      selected_of_none]
    rfl
  simp only [executeInTurn, List.foldl_cons, List.foldl_nil, hsearch, hconditions]

/-- The other four parts make the page out of those. -/
theorem executeInTurn_page (q : Query) (records : List Record) :
    executeInTurn
        [{ orderBy := q.orderBy }, { offset := q.offset }, { limit := q.limit },
          { select := q.select }] records =
      q.selected (q.limited (q.skipped (q.sorted records))) := by
  simp only [executeInTurn, List.foldl_cons, List.foldl_nil, data_execute, searched_of_none,
    filtered_of_none, sorted_of_none, skipped_of_none, limited_of_none, selected_of_none]
  rfl

/-- A query is the sequence of its parts, and its count is taken after the conditions. -/
theorem execute_eq_executeInTurn_parts (q : Query) (records : List Record) :
    (q.execute records).data = executeInTurn q.parts records ∧
      (q.execute records).count =
        if q.count = some true then some (executeInTurn (q.parts.take 2) records).length
        else none := by
  constructor
  · have hparts : executeInTurn q.parts records = _ :=
      executeInTurn_append [{ search := q.search }, { conditions := q.conditions }] _ records
    rw [hparts, executeInTurn_matching, executeInTurn_page, data_execute]
  · have htwo : executeInTurn (q.parts.take 2) records = q.filtered (q.searched records) :=
      executeInTurn_matching q records
    rw [count_execute, htwo]
    simp only [wantsCount, decide_eq_true_eq]

end RecordQuery.Query
