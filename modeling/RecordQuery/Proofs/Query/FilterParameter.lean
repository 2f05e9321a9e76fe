import RecordQuery.Engine
import RecordQuery.Proofs.Query.Parameters
import RecordQuery.Proofs.Query.Segments

/-!
# A filter as a parameter

A filter clause can be read on its own or as the value of a parameter.  A parameter is trimmed
before anything else is done with it, and a connective needs blanks on both sides, so a connective
at an end of the clause is one only where the clause is read on its own: in the parameter it loses
its outer blank and becomes part of a segment.  Nothing else tells the two readings apart
(`Engine.conditions_read_filter`).
-/

namespace RecordQuery

open Text

/-- A query string that is nothing but a filter. -/
theorem Parameters.ofText_filter {clause : String} (h : '&' ∉ clause.toList) :
    ofText ("$filter=" ++ clause) = [(Parameter.filter.name, clause)] := by
  have hname : '&' ∉ Parameter.filter.name.toList ∧ '=' ∉ Parameter.filter.name.toList := by decide
  have hhead : Parameter.filter.name.toList.head? = some '$' := by decide
  have htext : ("$filter=" ++ clause).toList = partSpelling (Parameter.filter.name, clause) := by
    have hfront : "$filter=".toList = Parameter.filter.name.toList ++ ['='] := by decide
    rw [String.toList_append, hfront, List.append_assoc]
    rfl
  apply ofText_of_intercalate (List.forall_mem_singleton.2 ⟨hname.1, hname.2, h⟩)
  rw [htext, List.map_singleton, List.intercalate_singleton]
  exact withoutMark_eq_self (by simp [partSpelling, List.head?_append, hhead])

namespace Reading

/-- A blank clause needs no case of its own: it has no segment, so it says nothing. -/
theorem filter_of_value? {ps : Parameters} {clause : String}
    (h : ps.value? Parameter.filter.name = some clause) :
    filter ps.raw = Filter.ofText (trim clause.toList) := by
  by_cases hblank : trim clause.toList = []
  · have hnone : text? ps.raw .filter = none := by simp [text?, ps.slot_raw, h, hblank]
    rw [filter, hnone, hblank]
    rfl
  · rw [filter, text?_eq_some h hblank]
    rfl

/-- The list of conditions is absent exactly if it is empty. -/
theorem getD_conditions_queryOf (maxTop : Option Nat) (ps : Parameters) :
    (queryOf maxTop ps.raw).conditions.getD [] = (filter ps.raw).conditions := by
  have hconditions : (queryOf maxTop ps.raw).conditions =
      (some (filter ps.raw).conditions).filter (· ≠ []) := rfl
  rw [hconditions]
  cases (filter ps.raw).conditions <;> rfl

end Reading

namespace Engine

/-- The conditions of a query string that is nothing but a filter are those of the trimmed clause,
and those of the clause itself if no connective stands at an end of it. -/
theorem conditions_read_filter (c : Config) (clause : String) (h : '&' ∉ clause.toList) :
    let conditions := (read c ("$filter=" ++ clause)).value.query.conditions.getD []
    conditions = (Filter.ofText (trim clause.toList)).conditions ∧
      ((Clause.cut clause.toList).HasOuterSegments →
        conditions = (Filter.ofText clause.toList).conditions) := by
  intro conditions
  have hvalue : (Parameters.ofText ("$filter=" ++ clause)).value? Parameter.filter.name =
      some clause := by
    rw [Parameters.ofText_filter h]
    exact List.lookup_cons_self
  have htrimmed : conditions = (Filter.ofText (trim clause.toList)).conditions :=
    calc
      conditions = (Reading.filter (Parameters.ofText ("$filter=" ++ clause)).raw).conditions :=
        Reading.getD_conditions_queryOf c.maxTop _
      _ = (Filter.ofText (trim clause.toList)).conditions := by
        rw [Reading.filter_of_value? hvalue]
  refine ⟨htrimmed, ?_⟩
  intro houter
  rw [htrimmed, Filter.ofText_trim houter]

/-- Blanks at both ends, and a field that is called like the connective before it. -/
theorem conditions_read_filter_blanks :
    let c : Config := {}
    let clause := "\t a eq 1 and and eq 2 "
    '&' ∉ clause.toList ∧ (Clause.cut clause.toList).HasOuterSegments ∧
      (Filter.ofText clause.toList).conditions.length = 2 ∧
      (read c ("$filter=" ++ clause)).value.query.conditions.getD [] =
        (Filter.ofText clause.toList).conditions := by
  intro c clause
  have hampersand : '&' ∉ clause.toList := by decide +kernel
  have houter : (Clause.cut clause.toList).HasOuterSegments := by decide +kernel
  exact ⟨hampersand, houter, by decide +kernel,
    (conditions_read_filter c clause hampersand).2 houter⟩

/-- Behind the last segment or before the first one, a connective becomes part of that segment: the
number `1` is read as the string `1 and`, and a condition is lost to a field called `and`. -/
theorem conditions_read_filter_ne :
    let conditions := fun clause : String =>
      (read {} ("$filter=" ++ clause)).value.query.conditions.getD []
    ('&' ∉ "a eq 1 and ".toList ∧
        conditions "a eq 1 and " ≠ (Filter.ofText "a eq 1 and ".toList).conditions) ∧
      ('&' ∉ " and a eq 1".toList ∧
        conditions " and a eq 1" ≠ (Filter.ofText " and a eq 1".toList).conditions) := by
  decide +kernel

end Engine

end RecordQuery
