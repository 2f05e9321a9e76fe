import RecordQuery.Engine
import RecordQuery.Proofs.Query.Parameters

/-!
# Query strings and lists of parameters

The engine takes a query as a string or as a list of parameters.  The plain lists are exactly those
that a string can stand for, and it makes no difference in which of the two forms they are given.
-/

namespace RecordQuery

open Text

namespace Parameters

/-- A query string is cut at ampersands and at the first equals sign, so none of them is left where
it would be cut again. -/
theorem isPlain_of_mem_ofText {text : String} {p : String × String} (h : p ∈ ofText text) :
    IsPlain p := by
  obtain ⟨part, hpart, rfl⟩ := List.mem_map.1 h
  have hampersand : '&' ∉ part := notMem_of_mem_splitOn (List.mem_filter.1 hpart).1
  unfold ofPart
  split
  · next name value hcut =>
    obtain ⟨rfl, hequals⟩ := cutAt_eq_some_iff.1 hcut
    simp only [List.mem_append, List.mem_cons, not_or] at hampersand
    constructor
    · rw [String.toList_ofList]
      exact hampersand.1
    · rw [String.toList_ofList]
      exact hequals
    · rw [String.toList_ofList]
      exact hampersand.2.2
  · next hcut =>
    constructor
    · rwa [String.toList_ofList]
    · rw [String.toList_ofList]
      exact cutAt_eq_none_iff.1 hcut
    · exact List.not_mem_nil

/-- The plain lists are the ones that come back from their query strings. -/
theorem ofText_text_iff {ps : Parameters} : ofText ps.text = ps ↔ ∀ p ∈ ps, IsPlain p := by
  constructor
  · intro h p hp
    rw [← h] at hp
    exact isPlain_of_mem_ofText hp
  · exact ofText_text

/-- What a query string stands for can be written out again. -/
theorem ofText_text_ofText (text : String) : ofText (ofText text).text = ofText text :=
  ofText_text_iff.2 fun _ hp => isPlain_of_mem_ofText hp

end Parameters

namespace Engine

/-- A plain list of parameters comes back from its query string, whatever is empty or repeated in it,
and is read in both forms as the same query, with the same diagnostics and the same log. -/
theorem read_text_eq_readParameters (c : Config) (ps : Parameters)
    (h : ∀ p ∈ ps, Parameters.IsPlain p) :
    Parameters.ofText ps.text = ps ∧ read c ps.text = readParameters c ps := by
  have hback : Parameters.ofText ps.text = ps := Parameters.ofText_text_iff.2 h
  refine ⟨hback, ?_⟩
  rw [read, hback]

/-- Empty names and values, a name with a question mark in front, a value with equals signs and a
repeated name. -/
theorem read_text_eq_readParameters_odd :
    let ps : Parameters :=
      [("?$top", "1"), ("", ""), ("$filter", "a eq b=c="), ("$top", "7"), ("$top", "2"), ("x", "")]
    ps.text = "??$top=1&=&$filter=a eq b=c=&$top=7&$top=2&x=" ∧
      Parameters.ofText ps.text = ps ∧
      read { maxTop := some 5 } ps.text = readParameters { maxTop := some 5 } ps ∧
      (read { maxTop := some 5 } ps.text).value.query =
        { conditions := some [.ofToken "a" .eq "b=c=".toList], limit := some 5 } := by
  intro ps
  have hplain : ∀ p ∈ ps, Parameters.IsPlain p := by decide
  obtain ⟨hback, hread⟩ := read_text_eq_readParameters { maxTop := some 5 } ps hplain
  exact ⟨by decide, hback, hread, by decide +kernel⟩

end Engine

end RecordQuery
