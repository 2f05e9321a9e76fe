import RecordQuery.Proofs.Text.Joining
import RecordQuery.Query.Filter

/-!
# What a segment spells

A trimmed segment is read as a condition exactly if it has three parts with blanks between them: a
field, which is a word; an operator, which is one of ten words in any case of ASCII letters; and a
token, which is whatever is left and must not be nothing (`Condition.ofSegment?_eq_none_iff`).
-/

namespace RecordQuery

open Text

/-- An operator word stays one when letters change their case. -/
theorem Operator.ofName?_ne_none_iff {word : List Char} :
    ofName? word ≠ none ↔ ∃ operator : Operator, sameLetters operator.name.toList word = true := by
  rw [ofName?, ne_eq, List.find?_eq_none]
  constructor
  · intro h
    by_contra hnone
    exact h fun operator _ hsame => hnone ⟨operator, hsame⟩
  · rintro ⟨operator, hsame⟩ h
    exact h operator operator.mem_all hsame

namespace Condition

/-- A field, an operator and a token, with what stands between them. -/
structure Parts where
  field : List Char
  before : List Char
  operator : List Char
  after : List Char
  token : List Char

namespace Parts

def chars (p : Parts) : List Char := p.field ++ (p.before ++ (p.operator ++ (p.after ++ p.token)))

/-- The parts are what they are called. -/
structure IsProper (p : Parts) : Prop where
  field_ne_nil : p.field ≠ []
  field_visible : Visible p.field
  before_ne_nil : p.before ≠ []
  before_blank : AllBlank p.before
  operator : ∃ operator : Operator, sameLetters operator.name.toList p.operator = true
  after_ne_nil : p.after ≠ []
  after_blank : AllBlank p.after
  token_ne_nil : p.token ≠ []

theorem IsProper.operator_visible {p : Parts} (h : p.IsProper) : Visible p.operator := by
  obtain ⟨operator, hsame⟩ := h.operator
  have hname : Visible operator.name.toList := by cases operator <;> decide
  exact hname.of_sameLetters hsame

theorem IsProper.operator_ne_nil {p : Parts} (h : p.IsProper) : p.operator ≠ [] := by
  obtain ⟨operator, hsame⟩ := h.operator
  intro hnil
  rw [hnil] at hsame
  cases operator <;> exact absurd hsame (by decide)

/-- Proper parts spell a condition, unless their token is blank. -/
theorem IsProper.ofSegment?_ne_none {p : Parts} (h : p.IsProper) (hend : EndsVisible p.token) :
    ofSegment? p.chars ≠ none := by
  have hrest : StartsVisible (p.operator ++ (p.after ++ p.token)) :=
    h.operator_visible.startsVisible.append h.operator_ne_nil
  have hbefore := h.before_blank.startsBlank_append h.before_ne_nil
    (p.operator ++ (p.after ++ p.token))
  have hafter := h.after_blank.startsBlank_append h.after_ne_nil p.token
  have htrimmed : trimStart (afterWord p.chars) = p.operator ++ (p.after ++ p.token) := by
    rw [chars, afterWord_append h.field_visible hbefore]
    exact trimStart_append h.before_blank hrest
  have htoken : trimStart (p.after ++ p.token) ≠ [] := by
    intro hnil
    have hblank : AllBlank (p.after ++ p.token) := List.dropWhile_eq_nil_iff.1 hnil
    have hlast := hend _ (List.getLast?_eq_some_getLast h.token_ne_nil)
    have hmem := List.mem_append_right p.after (List.getLast_mem h.token_ne_nil)
    exact absurd (hblank _ hmem) (by simp [hlast])
  obtain ⟨operator, hoperator⟩ :=
    Option.ne_none_iff_exists'.1 (Operator.ofName?_ne_none_iff.2 h.operator)
  simp [ofSegment?, htrimmed, word_append h.operator_visible hafter,
    afterWord_append h.operator_visible hafter, hoperator, htoken]

end Parts

/-- What stands behind a word that blanks follow. -/
theorem blanks_afterWord_ne_nil {cs : List Char} (h : trimStart (afterWord cs) ≠ []) :
    blanks (afterWord cs) ≠ [] := by
  intro hnil
  have hsplit := blanks_append_trimStart (afterWord cs)
  rw [hnil, List.nil_append] at hsplit
  obtain ⟨c, rest, hrest⟩ := List.exists_cons_of_ne_nil h
  have hhead : (trimStart (afterWord cs)).head? = some c := by rw [hrest]; rfl
  have hvisible := startsVisible_trimStart (afterWord cs) c hhead
  rw [hsplit] at hhead
  exact absurd (startsBlank_afterWord cs c hhead) (by simp [hvisible])

/-- What is read from a segment: its first word, the operator that its second word names, and what is
left of it. -/
theorem ofSegment?_eq_some {segment : List Char} {c : Condition} (h : ofSegment? segment = some c) :
    ∃ rest token operator, rest = trimStart (afterWord segment) ∧
      token = trimStart (afterWord rest) ∧ Operator.ofName? (word rest) = some operator ∧
      token ≠ [] ∧ c = ofToken (String.ofList (word segment)) operator token := by
  simp only [ofSegment?] at h
  split at h
  · exact absurd h (by simp)
  · next operator hoperator =>
    simp only [Option.ite_none_left_eq_some, Option.some.injEq] at h
    exact ⟨_, _, operator, rfl, rfl, hoperator, h.1, h.2.symm⟩

/-- A segment that spells a condition has proper parts, the first of which is the field. -/
theorem exists_parts {segment : List Char} {c : Condition} (htrimmed : IsTrimmed segment)
    (h : ofSegment? segment = some c) :
    ∃ p : Parts, p.IsProper ∧ p.chars = segment ∧ c.field.toList = p.field := by
  obtain ⟨rest, token, operator, hrest, htoken, hoperator, hne, rfl⟩ := ofSegment?_eq_some h
  have hbehind : rest ≠ [] := by
    rintro rfl
    have hnone : Operator.ofName? (word []) = none := by decide
    exact absurd hoperator (by simp [hnone])
  have hname : Operator.ofName? (word rest) ≠ none := by simp [hoperator]
  have hfield := word_ne_nil htrimmed.startsVisible htrimmed.ne_nil
  subst htoken
  refine ⟨⟨word segment, blanks (afterWord segment), word rest, blanks (afterWord rest),
    trimStart (afterWord rest)⟩, ?_, ?_, ?_⟩
  · exact ⟨hfield, visible_word segment, blanks_afterWord_ne_nil (hrest ▸ hbehind),
      allBlank_blanks _, Operator.ofName?_ne_none_iff.1 hname, blanks_afterWord_ne_nil hne,
      allBlank_blanks _, hne⟩
  · simp only [Parts.chars, blanks_append_trimStart, word_append_afterWord, hrest]
  · exact String.toList_ofList

/-- The segment is a field, an operator and a token with blanks between them. -/
def IsSpelledBy (segment : List Char) : Prop := ∃ p : Parts, p.IsProper ∧ p.chars = segment

/-- No condition is read from a trimmed segment exactly if it lacks one of the parts. -/
theorem ofSegment?_eq_none_iff {segment : List Char} (htrimmed : IsTrimmed segment) :
    ofSegment? segment = none ↔ ¬ IsSpelledBy segment := by
  constructor
  · rintro hnone ⟨p, hp, rfl⟩
    have hend : EndsVisible p.token := by
      have hwhole := htrimmed.endsVisible
      rw [Parts.chars, ← List.append_assoc, ← List.append_assoc, ← List.append_assoc] at hwhole
      exact hwhole.of_append
    exact hp.ofSegment?_ne_none hend hnone
  · intro hspelled
    by_contra hsome
    obtain ⟨c, hc⟩ := Option.ne_none_iff_exists'.1 hsome
    obtain ⟨p, hp, hchars, -⟩ := exists_parts htrimmed hc
    exact hspelled ⟨p, hp, hchars⟩

end Condition

end RecordQuery
