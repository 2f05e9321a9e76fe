import Mathlib.Data.List.Infix
import RecordQuery.Record.Matching

/-!
# Texts inside texts

The three text operators are one condition: the stored value is a string, and the lower case of the
literal's text stands in the lower case of the string at the place that the operator asks for
(`Condition.holds_text_iff`).  Whatever the place is, a text stands in itself, and two texts that
stand in each other are the same (`Value.textMatches_antisymm`).
-/

namespace RecordQuery

variable {operator : Operator}

theorem Operator.ne_isIn_of_isTextMatch (h : operator.isTextMatch = true) : operator ≠ .isIn := by
  rintro rfl
  cases h

namespace Value

theorem textMatches_self (htext : operator.isTextMatch = true) (cs : List Char) :
    textMatches operator cs cs = true := by
  cases operator with
  | contains => exact Text.occursIn_iff.2 (List.infix_refl cs)
  | startsWith => exact List.isPrefixOf_iff_prefix.2 (List.prefix_refl cs)
  | endsWith => exact List.isSuffixOf_iff_suffix.2 (List.suffix_refl cs)
  | _ => cases htext

theorem infix_of_textMatches {needle haystack : List Char}
    (h : textMatches operator needle haystack = true) : needle <:+: haystack := by
  cases operator with
  | contains => exact Text.occursIn_iff.1 h
  | startsWith => exact (List.isPrefixOf_iff_prefix.1 h).isInfix
  | endsWith => exact (List.isSuffixOf_iff_suffix.1 h).isInfix
  | _ => cases h

theorem textMatches_antisymm {cs ds : List Char} (h : textMatches operator cs ds = true)
    (h' : textMatches operator ds cs = true) : cs = ds := by
  have hwithin := infix_of_textMatches h
  have hwithin' := infix_of_textMatches h'
  apply hwithin.eq_of_length
  exact Nat.le_antisymm hwithin.length_le hwithin'.length_le

theorem satisfies_eq_matchesText (htext : operator.isTextMatch = true) (v : Value)
    (literal : Literal) : v.satisfies operator literal = v.matchesText operator literal := by
  cases operator with
  | contains => rfl
  | startsWith => rfl
  | endsWith => rfl
  | _ => cases htext

end Value

/-- A text condition holds of the records that have a string in the field with the text in it. -/
theorem Condition.holds_text_iff {c : Condition} (htext : c.operator.isTextMatch = true)
    {text : String} (h : c.value.text? = some text) (r : Record) :
    c.holds r = true ↔
      ∃ s, r.get? c.field = some (.string s) ∧
        Value.textMatches c.operator (Text.lowercase text.toList) (Text.lowercase s.toList) =
          true := by
  rw [holds]
  cases r.get? c.field with
  | none => simp
  | some v =>
    simp only [Value.satisfies_eq_matchesText htext]
    cases v with
    | string s => simp [Value.matchesText, Value.string?, h]
    | _ => simp [Value.matchesText, Value.string?]

end RecordQuery
