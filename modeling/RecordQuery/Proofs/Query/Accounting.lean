import RecordQuery.Proofs.Query.Strictness

/-!
# Accounting for a clause

Nothing in a filter clause vanishes without a report.  The segments and connectives of the clause
make up its text, and every segment in which there is anything leaves one trace: a condition if it
spells one, and otherwise a report that carries its text (`Filter.Accounts`).  Conditions and
reports come in the order of their segments, and behind the one report on `or`, if there is one
(`Filter.ofText_accounts`).

Blank segments leave no trace.  They stand at the ends of a clause only, so in a clause without
blanks at its ends there are as many traces as segments, one more than connectives.
-/

namespace RecordQuery

open Text

namespace Filter

/-- What becomes of segments, in their order: blank ones are passed over, and each of the others
gives a condition or is dropped. -/
inductive Accounts : List (List Char) → List Condition → List String → Prop
  | nil : Accounts [] [] []
  | blank {segment : List Char} {segments : List (List Char)} {conditions : List Condition}
      {dropped : List String} (hblank : trim segment = [])
      (hrest : Accounts segments conditions dropped) :
      Accounts (segment :: segments) conditions dropped
  | condition {segment : List Char} {segments : List (List Char)} {c : Condition}
      {conditions : List Condition} {dropped : List String}
      (hspelled : Condition.IsSpelledBy (trim segment))
      (hc : Condition.ofSegment? (trim segment) = some c)
      (hrest : Accounts segments conditions dropped) :
      Accounts (segment :: segments) (c :: conditions) dropped
  | dropped {segment : List Char} {segments : List (List Char)} {conditions : List Condition}
      {dropped : List String} (hne : trim segment ≠ [])
      (hnot : ¬ Condition.IsSpelledBy (trim segment))
      (hrest : Accounts segments conditions dropped) :
      Accounts (segment :: segments) conditions (String.ofList (trim segment) :: dropped)

theorem exists_accounts (texts : List (List Char)) :
    ∃ dropped,
      Accounts texts (((texts.map trim).filter (· ≠ [])).filterMap Condition.ofSegment?) dropped ∧
        ((texts.map trim).filter (· ≠ [])).filterMap dropped? =
          dropped.map Diagnostic.droppedSegment := by
  induction texts with
  | nil => exact ⟨[], .nil, rfl⟩
  | cons segment texts ih =>
    obtain ⟨dropped, hrest, hreports⟩ := ih
    rw [List.map_cons]
    by_cases hblank : trim segment = []
    · rw [List.filter_cons_of_neg (by simp [hblank])]
      exact ⟨dropped, .blank hblank hrest, hreports⟩
    · rw [List.filter_cons_of_pos (by simp [hblank])]
      have htrimmed := isTrimmed_trim hblank
      cases hsegment : Condition.ofSegment? (trim segment) with
      | some c =>
        have hreport : dropped? (trim segment) = none := by
          rw [dropped?, if_neg (by simp [hsegment])]
        rw [List.filterMap_cons_some hsegment, List.filterMap_cons_none hreport]
        exact ⟨dropped, .condition ((dropped?_eq_none_iff htrimmed).1 hreport) hsegment hrest,
          hreports⟩
      | none =>
        have hreport : dropped? (trim segment) =
            some (.droppedSegment (String.ofList (trim segment))) := by
          rw [dropped?, if_pos hsegment]
        have hnot := ((dropped?_eq_some_iff htrimmed).1 hreport).1
        rw [List.filterMap_cons_none hsegment, List.filterMap_cons_some hreport, hreports]
        exact ⟨String.ofList (trim segment) :: dropped, .dropped hblank hnot hrest, rfl⟩

/-- A clause is the text of its segments and connectives, and each segment that is not blank gives a
condition or a report.  A report on `or` comes first, and it is there exactly if some connective is
one.  A clause without blanks at its ends has one condition or report more than connectives. -/
theorem ofText_accounts (cs : List Char) :
    (Clause.cut cs).IsCutOf cs ∧ (Clause.cut cs).chars = cs ∧
      ∃ dropped : List String,
        Accounts (Clause.cut cs).segments (ofText cs).conditions dropped ∧
        (ofText cs).diagnostics =
          (if (Clause.cut cs).connectives.any Connective.isOr then [.orIgnored] else []) ++
            dropped.map Diagnostic.droppedSegment ∧
        (IsTrimmed cs → (∀ segment ∈ (Clause.cut cs).segments, trim segment ≠ []) ∧
          (ofText cs).conditions.length + dropped.length =
            (Clause.cut cs).connectives.length + 1) := by
  obtain ⟨dropped, haccounts, hreports⟩ := exists_accounts (Clause.cut cs).segments
  refine ⟨Clause.isCutOf_cut cs, Clause.chars_cut cs, dropped, haccounts,
    congrArg (_ ++ ·) hreports, ?_⟩
  intro h
  refine ⟨Clause.trim_segment_ne_nil h, ?_⟩
  have hcount := length_conditions_add_length_dropped (Clause.cut cs)
  have hlength := congrArg List.length hreports
  rw [List.length_map] at hlength
  rw [length_segments h] at hcount
  rw [← hlength]
  exact hcount

/-- Without blanks at its ends, a clause of one connective has two conditions and reports. -/
theorem ofText_accounts_trimmed :
    let cs := "a eq 1 or b".toList
    IsTrimmed cs ∧ Accounts (Clause.cut cs).segments (ofText cs).conditions ["b"] ∧
      (ofText cs).diagnostics = [.orIgnored, .droppedSegment "b"] ∧
      (ofText cs).conditions.length + 1 = (Clause.cut cs).connectives.length + 1 := by
  intro cs
  have htrimmed : IsTrimmed cs := by decide +kernel
  have hdiagnostics : (ofText cs).diagnostics = [.orIgnored, .droppedSegment "b"] := by
    decide +kernel
  have hor : (Clause.cut cs).connectives.any Connective.isOr = true := by decide +kernel
  obtain ⟨-, -, dropped, haccounts, hreports, hcount⟩ := ofText_accounts cs
  obtain rfl : dropped = ["b"] := by
    rw [hdiagnostics, if_pos hor] at hreports
    cases dropped with
    | nil => cases hreports
    | cons text texts => simpa [eq_comm] using hreports
  exact ⟨htrimmed, haccounts, hdiagnostics, (hcount htrimmed).2⟩

/-- The blank segments at both ends of this clause leave no trace. -/
example :
    (Clause.cut " and a eq 1 or ".toList).connectives.length = 2 ∧
      (ofText " and a eq 1 or ".toList).conditions.length = 1 ∧
      (ofText " and a eq 1 or ".toList).diagnostics = [.orIgnored] := by
  decide +kernel

end Filter

end RecordQuery
