import RecordQuery.Proofs.Query.FilterClause
import RecordQuery.Proofs.Query.Segments

/-!
# Quoted text in a filter

A string in single quotes is taken as it is: no text in it is a number, a date, an operator or a
truth value, and blanks at its ends are kept.  The one thing that quotes do not hide is a connective
between blanks, because a clause is cut before its segments are looked into.  So a condition on a
quoted string is read back from its clause exactly if no connective stands in the string
(`Filter.ofText_quoted_iff`); a word that only touches a quote is none.
-/

namespace RecordQuery

open Text

namespace Filter

/-- A text that is one segment is read as the condition that the segment spells. -/
theorem ofText_of_isSegment {cs : List Char} {c : Condition} (h : Clause.IsSegment cs)
    (hc : Condition.ofSegment? cs = some c) : ofText cs = ⟨[c], []⟩ := by
  have hsegments : segments (Clause.cut cs) = [cs] := by
    rw [segments, h.cut]
    exact filter_map_trim (List.forall_mem_singleton.2 h.isTrimmed)
  have hdropped : dropped? cs = none := by rw [dropped?, if_neg (by simp [hc])]
  rw [ofText, ofClause, hsegments, List.filterMap_cons_some hc, List.filterMap_cons_none hdropped,
    h.cut]
  rfl

/-- A text from which a single condition is read, without a report, has no connective: each of the
segments around a connective would be read or reported on its own. -/
theorem not_occursIn_of_ofText_eq {cs : List Char} {c : Condition} (h : IsTrimmed cs)
    (hone : ofText cs = ⟨[c], []⟩) : ¬ Connective.OccursIn cs := by
  have hconditions : (ofClause (Clause.cut cs)).conditions = [c] := congrArg conditions hone
  have hdiagnostics : (ofClause (Clause.cut cs)).diagnostics = [] := congrArg diagnostics hone
  have hdropped : (segments (Clause.cut cs)).filterMap dropped? = [] :=
    (List.append_eq_nil_iff.1 hdiagnostics).2
  have hcount := length_conditions_add_length_dropped (Clause.cut cs)
  rw [hconditions, hdropped, length_segments h] at hcount
  have hnone : (Clause.cut cs).connectives.length = 0 := by simpa using hcount
  rw [Clause.connectives, List.length_map, List.length_eq_zero_iff] at hnone
  exact Clause.tail_cut_eq_nil_iff.1 hnone

/-- A condition on a quoted string, and nothing else, is read from its clause exactly if no
connective stands in the string. -/
theorem ofText_quoted_iff (field : String) (operator : Operator) (s : String)
    (hne : field.toList ≠ []) (hvisible : Visible field.toList) (hoperator : operator ≠ .isIn) :
    ofText (field.toList ++ ' ' :: operator.name.toList ++ ' ' :: Literal.inQuotes s) =
        ⟨[⟨field, operator, .string s, by simp [Literal.isList, hoperator]⟩], []⟩ ↔
      ¬ Connective.OccursIn s.toList := by
  let c : Condition := ⟨field, operator, .string s, by simp [Literal.isList, hoperator]⟩
  have hspelling : field.toList ++ ' ' :: operator.name.toList ++ ' ' :: Literal.inQuotes s =
      c.spelling := rfl
  have hreadable : c.value.IsReadable := trivial
  rw [hspelling]
  constructor
  · intro hone hin
    have hinside : s.toList <:+: c.spelling :=
      ⟨field.toList ++ ' ' :: operator.name.toList ++ [' ', '\''], ['\''], by
        simp [hspelling.symm, Literal.inQuotes]⟩
    exact not_occursIn_of_ofText_eq (Condition.isTrimmed_spelling hne hvisible hreadable) hone
      (hin.mono hinside)
  · intro hin
    have hblank := Connective.not_occursIn_singleton ' '
    have hliteral : ¬ Connective.OccursIn (' ' :: (c.value.spelling ++ [' '])) :=
      Literal.not_occursIn_inQuotes hblank hin hblank
    exact ofText_of_isSegment
      (Condition.isSegment_spelling_of_visible hne hvisible hreadable hliteral)
      (Condition.ofSegment?_spelling_of_visible hvisible hreadable)

/-- Operators, a truth value and connectives that only touch the ends of the string do no harm, nor
does a field that is called like a connective. -/
theorem ofText_quoted_operators :
    let s := "and 5 eq true or"
    "and".toList ≠ [] ∧ Visible "and".toList ∧ Operator.contains ≠ .isIn ∧
      ¬ Connective.OccursIn s.toList ∧
      ofText ("and".toList ++ ' ' :: Operator.contains.name.toList ++ ' ' :: Literal.inQuotes s) =
        ⟨[⟨"and", .contains, .string s, rfl⟩], []⟩ := by
  intro s
  have hne : "and".toList ≠ [] := by decide
  have hvisible : Visible "and".toList := by decide
  have hoperator : Operator.contains ≠ .isIn := by decide
  have hnone : ¬ Connective.OccursIn s.toList := by decide +kernel
  exact ⟨hne, hvisible, hoperator, hnone,
    (ofText_quoted_iff "and" .contains s hne hvisible hoperator).2 hnone⟩

/-- A connective in the string cuts the clause in spite of the quotes. -/
theorem ofText_quoted_and :
    '\'' ∉ "x and y".toList ∧
      ¬ ofText "a eq 'x and y'".toList = ⟨[⟨"a", .eq, .string "x and y", rfl⟩], []⟩ := by
  have hconditions : (ofText "a eq 'x and y'".toList).conditions ≠
      [⟨"a", .eq, .string "x and y", rfl⟩] := by decide +kernel
  exact ⟨by decide, fun hone => hconditions (congrArg conditions hone)⟩

end Filter

end RecordQuery
