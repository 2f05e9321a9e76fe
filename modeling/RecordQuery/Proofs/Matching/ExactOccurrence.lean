import RecordQuery.Proofs.FieldMap
import RecordQuery.Proofs.Matching.Comparisons
import RecordQuery.Proofs.Matching.TextMatches
import RecordQuery.Proofs.Text.Lowercasing

/-!
# Exact occurrences

Texts are compared in lower case, each of them lowered as a whole.  A text that a string holds letter
by letter is found if it keeps its sigmas there, and at the start and at the end of the string only
then (`Record.meets_exact_occurrence`).  A text without a sigma always does, and so does one that is
not cut out of a word (`Text.keepsSigmas_of_notMem`, `Text.keepsSigmas_of_uncased`).  The search terms
that are found wherever they stand are known from two occurrences
(`Record.forall_containsTerm_iff`).
-/

namespace RecordQuery

namespace Record

variable {r : Record} {field s : String}

theorem containsTerm_iff {term : String} :
    r.containsTerm term = true ↔
      ∃ field s, r.get? field = some (.string s) ∧
        Text.lowercase term.toList <:+: Text.lowercase s.toList := by
  rw [containsTerm, List.any_eq_true]
  constructor
  · rintro ⟨⟨field, v⟩, hmem, hany⟩
    cases v with
    | string s =>
      refine ⟨field, s, ?_, Text.occursIn_iff.1 hany⟩
      exact (FieldMap.lookup_eq_some_iff_mem r.nodup).2 hmem
    | _ => cases hany
  · rintro ⟨field, s, hs, hwithin⟩
    refine ⟨(field, .string s), ?_, Text.occursIn_iff.2 hwithin⟩
    exact (FieldMap.lookup_eq_some_iff_mem r.nodup).1 hs

theorem meets_text_of_string (h : r.get? field = some (.string s)) {operator : Operator}
    (htext : operator.isTextMatch = true) (t : String) :
    r.meets field operator (.string t) =
      Value.textMatches operator (Text.lowercase t.toList) (Text.lowercase s.toList) := by
  rw [meets_eq_satisfies h (Operator.ne_isIn_of_isTextMatch htext) rfl,
    Value.satisfies_eq_matchesText htext]
  rfl

/-- A text that stands in a string as it is is found there if its capital sigmas end a word in the
string exactly where they do in the text alone, and a beginning or an end matches exactly then. -/
theorem meets_exact_occurrence (h : r.get? field = some (.string s)) (t : String) :
    (∀ before after, s.toList = before ++ t.toList ++ after →
        Text.KeepsSigmas before t.toList after →
        r.containsTerm t = true ∧ r.meets field .contains (.string t) = true) ∧
      (∀ after, s.toList = t.toList ++ after →
        (r.meets field .startsWith (.string t) = true ↔ Text.KeepsSigmas [] t.toList after)) ∧
      ∀ before, s.toList = before ++ t.toList →
        (r.meets field .endsWith (.string t) = true ↔ Text.KeepsSigmas before t.toList []) := by
  refine ⟨?_, ?_, ?_⟩
  · intro before after hs hkeeps
    have hwithin : Text.lowercase t.toList <:+: Text.lowercase s.toList :=
      hs ▸ Text.lowercase_infix hkeeps
    refine ⟨containsTerm_iff.2 ⟨field, s, h, hwithin⟩, ?_⟩
    rw [meets_text_of_string h rfl]
    exact Text.occursIn_iff.2 hwithin
  · intro after hs
    rw [meets_text_of_string h rfl, Value.textMatches, List.isPrefixOf_iff_prefix, hs,
      Text.lowercase_prefix_iff]
  · intro before hs
    rw [meets_text_of_string h rfl, Value.textMatches, List.isSuffixOf_iff_suffix, hs,
      Text.lowercase_suffix_iff]

/-- A capital sigma at the end of a word, and one inside: the words of a motto are found where they
stand. -/
theorem meets_exact_occurrence_words :
    let r : Record := .ofList [("motto", .string "ΧΑΟΣ ΣΟΦΟΣ")]
    r.containsTerm "ΣΟΦΟΣ" = true ∧
      r.meets "motto" .startsWith (.string "ΧΑΟΣ") = true ∧
      r.meets "motto" .endsWith (.string "ΟΦΟΣ") = true := by
  intro r
  have hmotto : r.get? "motto" = some (.string "ΧΑΟΣ ΣΟΦΟΣ") := by decide
  obtain ⟨hanywhere, -, -⟩ := meets_exact_occurrence hmotto "ΣΟΦΟΣ"
  obtain ⟨-, hstart, -⟩ := meets_exact_occurrence hmotto "ΧΑΟΣ"
  obtain ⟨-, -, hend⟩ := meets_exact_occurrence hmotto "ΟΦΟΣ"
  refine ⟨?_, ?_, ?_⟩
  · exact (hanywhere "ΧΑΟΣ ".toList [] (by decide)
      (Text.keepsSigmas_of_uncased (by decide +kernel) rfl)).1
  · exact (hstart " ΣΟΦΟΣ".toList (by decide)).2
      (Text.keepsSigmas_of_uncased rfl (by decide +kernel))
  · exact (hend "ΧΑΟΣ Σ".toList (by decide)).2 (by decide +kernel)

/-- A sigma at the end of the text looked for, in the middle of a word of the string. -/
theorem not_meets_exact_occurrence :
    let r : Record := .ofList [("city", .string "ΟΔΟΣΑ"), ("road", .string "ΟΔΟΣ")]
    "ΟΔΟΣΑ".toList = "ΟΔΟΣ".toList ++ ['Α'] ∧
      r.meets "city" .contains (.string "ΟΔΟΣ") = false ∧
      r.meets "city" .startsWith (.string "ΟΔΟΣ") = false ∧
      "ΟΔΟΣ".toList = "ΟΔΟ".toList ++ "Σ".toList ∧
      r.meets "road" .endsWith (.string "Σ") = false ∧
      Record.containsTerm "ΟΔΟΣ" (.ofList [("city", .string "ΟΔΟΣΑ")]) = false := by
  decide +kernel

/-- A term is found in every string that holds it exactly if it keeps its sigmas behind a letter and
in front of one. -/
theorem forall_containsTerm_iff (term : String) :
    (∀ (r : Record) field s, r.get? field = some (.string s) → term.toList <:+: s.toList →
        r.containsTerm term = true) ↔
      Text.KeepsSigmas ['a'] term.toList [] ∧ Text.KeepsSigmas [] term.toList ['a'] := by
  rw [← Text.forall_lowercase_infix_iff]
  constructor
  · intro h before after
    have hstring : (String.ofList (before ++ term.toList ++ after)).toList =
        before ++ term.toList ++ after := String.toList_ofList
    generalize String.ofList (before ++ term.toList ++ after) = s at hstring
    have hholds : term.toList <:+: s.toList := by
      rw [hstring]
      exact List.infix_append _ _ _
    have hfound := h (.ofList [("", .string s)]) "" s
      (by rw [FieldMap.get?_ofList_singleton, if_pos rfl]) hholds
    obtain ⟨name, s', hs', hwithin⟩ := containsTerm_iff.1 hfound
    rw [FieldMap.get?_ofList_singleton, Option.ite_none_right_eq_some] at hs'
    cases hs'.2
    rwa [hstring] at hwithin
  · rintro h r field s hs ⟨before, after, hstring⟩
    refine containsTerm_iff.2 ⟨field, s, hs, ?_⟩
    rw [← hstring]
    exact h before after

end Record

end RecordQuery
