import RecordQuery.Proofs.Matching.ExactOccurrence

/-!
# Search and the text operators

A search goes through the strings of a record, a text condition looks up one field.  A record holds
a field once, so what is met under a name on the way through is what the look-up finds there, and
the two agree: a search finds a term exactly if `contains` holds of some field.

The text operators differ only in the place that they ask for (`Record.meets_text_iff`), and
`contains` is the one that asks for none.
-/

namespace RecordQuery

theorem Literal.text?_eq_none_iff {literal : Literal} :
    literal.text? = none ↔ literal.isList = true := by
  cases literal <;> simp [text?, isList]

theorem Value.textMatches_contains {operator : Operator} {needle haystack : List Char}
    (h : textMatches operator needle haystack = true) :
    textMatches .contains needle haystack = true :=
  Text.occursIn_iff.2 (infix_of_textMatches h)

namespace Record

variable {r : Record} {field : String} {operator : Operator} {literal : Literal}

/-- A text operator asks for a string in the field and for the text of a scalar in it. -/
theorem meets_text_iff (htext : operator.isTextMatch = true) :
    r.meets field operator literal = true ↔
      ∃ s text, r.get? field = some (.string s) ∧ literal.text? = some text ∧
        Value.textMatches operator (Text.lowercase text.toList) (Text.lowercase s.toList) =
          true := by
  have hnotIn : operator ≠ .isIn := Operator.ne_isIn_of_isTextMatch htext
  cases hliteral : literal.text? with
  | none =>
    have hlist : literal.isList = true := Literal.text?_eq_none_iff.1 hliteral
    simp [meets, Condition.scalar?, hlist]
  | some text =>
    have hscalar : literal.isList = false := by
      rw [← Bool.not_eq_true, ← Literal.text?_eq_none_iff, hliteral]
      exact Option.some_ne_none text
    rw [meets, Condition.scalar?, dif_pos ⟨hnotIn, hscalar⟩, Option.any_some,
      Condition.holds_text_iff htext hliteral]
    simp

theorem meets_contains_of_meets (htext : operator.isTextMatch = true)
    (h : r.meets field operator literal = true) : r.meets field .contains literal = true := by
  obtain ⟨s, text, hs, hliteral, hmatches⟩ := (meets_text_iff htext).1 h
  exact (meets_text_iff rfl).2 ⟨s, text, hs, hliteral, Value.textMatches_contains hmatches⟩

theorem meets_contains_iff {term : String} :
    r.meets field .contains (.string term) = true ↔
      ∃ s, r.get? field = some (.string s) ∧
        Text.lowercase term.toList <:+: Text.lowercase s.toList := by
  rw [meets_text_iff rfl]
  constructor
  · rintro ⟨s, text, hs, hliteral, hmatches⟩
    obtain rfl : term = text := Option.some.inj hliteral
    exact ⟨s, hs, Text.occursIn_iff.1 hmatches⟩
  · rintro ⟨s, hs, hwithin⟩
    exact ⟨s, term, hs, rfl, Text.occursIn_iff.2 hwithin⟩

/-- A search finds a term exactly if some field of the record contains it, which is to say that the
field holds a string with the term in it when both are in lower case.  A field contains what it
starts with and what it ends with. -/
theorem containsTerm_iff_meets (r : Record) :
    (∀ term, r.containsTerm term = true ↔
      ∃ field ∈ r.names, r.meets field .contains (.string term) = true) ∧
      (∀ field term, r.meets field .contains (.string term) = true ↔
        ∃ s, r.get? field = some (.string s) ∧
          Text.lowercase term.toList <:+: Text.lowercase s.toList) ∧
      ∀ field literal,
        (r.meets field .startsWith literal = true → r.meets field .contains literal = true) ∧
          (r.meets field .endsWith literal = true → r.meets field .contains literal = true) := by
  refine ⟨fun term => ?_, fun field term => meets_contains_iff, fun field literal => ?_⟩
  · rw [containsTerm_iff]
    constructor
    · rintro ⟨field, s, hs, hwithin⟩
      have hname : field ∈ r.names :=
        FieldMap.mem_names_of_mem ((FieldMap.lookup_eq_some_iff_mem r.nodup).1 hs)
      exact ⟨field, hname, meets_contains_iff.2 ⟨s, hs, hwithin⟩⟩
    · rintro ⟨field, -, hmeets⟩
      exact ⟨field, meets_contains_iff.1 hmeets⟩
  · exact ⟨meets_contains_of_meets rfl, meets_contains_of_meets rfl⟩

/-- A dotted capital becomes two characters, of which a term may hold the second one only; a number
is looked for by its text, and found in strings only. -/
theorem containsTerm_iff_meets_cities :
    let r : Record := .ofList [("code", .number (.ofInt 7)), ("city", .string "İZMİR"),
      ("zone", .string "B7")]
    let seven : Literal := .number (.ofInt 7)
    (r.containsTerm "\u0307R" = true ↔
        ∃ field ∈ r.names, r.meets field .contains (.string "\u0307R") = true) ∧
      r.containsTerm "\u0307R" = true ∧
      r.meets "city" .startsWith (.string "I") = true ∧
      r.meets "city" .contains (.string "I") = true ∧
      r.meets "zone" .endsWith seven = true ∧ r.meets "zone" .contains seven = true ∧
      r.meets "code" .contains seven = false := by
  intro r seven
  obtain ⟨hsearch, -, hplaces⟩ := containsTerm_iff_meets r
  have hstart : r.meets "city" .startsWith (.string "I") = true := by decide +kernel
  have hend : r.meets "zone" .endsWith seven = true := by decide +kernel
  exact ⟨hsearch "\u0307R", by decide +kernel, hstart, (hplaces "city" _).1 hstart, hend,
    (hplaces "zone" _).2 hend, by decide +kernel⟩

end Record

end RecordQuery
