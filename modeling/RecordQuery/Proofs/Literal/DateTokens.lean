import RecordQuery.Proofs.Instant.OuterBlanks
import RecordQuery.Proofs.Number.PlainText
import RecordQuery.Record.Value

/-!
# Dates in records and in filters

A string of a record is a date if it names one as it stands.  A token of a filter is trimmed first,
and it is tried as a quoted text, as a numeral and as a truth value before it is tried as a date.
None of this keeps a date from being recognised: digits with a hyphen behind them are nothing else,
so a token is a date exactly if it names one without the blanks at its ends
(`Literal.ofToken_eq_date_iff`), and a text that names one as it stands still does so then.  Hence a
date that is detected in a record equals the literal that the same text spells
(`Value.equalsLiteral_ofToken`).
-/

namespace RecordQuery

open Text

/-! ### What a text with a year is not -/

theorem unquoted?_eq_none {cs : List Char} (h : ∀ c ∈ cs.head?, c ≠ '\'' ∧ c ≠ '"') :
    Literal.unquoted? cs = none := by
  cases cs with
  | nil => rfl
  | cons c cs =>
    obtain ⟨hsingle, hdouble⟩ := h c rfl
    rw [Literal.unquoted?, if_neg]
    rintro ⟨hquote | hquote, -⟩
    · exact hsingle hquote
    · exact hdouble hquote

theorem sameLetters_eq_false {c : Char} {cs word : List Char} (hc : c ∈ cs)
    (hword : c.toLower ∉ word.map Char.toLower) : sameLetters cs word = false := by
  rw [sameLetters, beq_eq_false_iff_ne]
  intro heq
  exact hword (heq ▸ List.mem_map_of_mem hc)

namespace Instant.StartsWithYear

variable {cs : List Char}

theorem unquoted? (h : StartsWithYear cs) : Literal.unquoted? cs = none := by
  obtain ⟨sign, digits, rest, hsign, hdigits, hne, rfl⟩ := h
  obtain ⟨d, digits, rfl⟩ := List.exists_cons_of_ne_nil hne
  have hd : d.isDigit = true := hdigits d List.mem_cons_self
  apply unquoted?_eq_none
  intro c hc
  simp only [List.mem_cons, List.not_mem_nil, or_false] at hsign
  rcases hsign with rfl | rfl | rfl
  · obtain rfl : d = c := Option.some.inj hc
    constructor
    · rintro rfl
      exact absurd hd (by decide)
    · rintro rfl
      exact absurd hd (by decide)
  · obtain rfl : '-' = c := Option.some.inj hc
    decide
  · obtain rfl : '+' = c := Option.some.inj hc
    decide

/-- The hyphen behind the year is no part of a numeral. -/
theorem isPlainDecimal (h : StartsWithYear cs) : isPlainDecimal cs = false := by
  obtain ⟨sign, digits, rest, hsign, hdigits, hne, rfl⟩ := h
  have hbody : (Decimal.spanSign (sign ++ digits ++ '-' :: rest)).2 = digits ++ '-' :: rest := by
    simp only [List.mem_cons, List.not_mem_nil, or_false] at hsign
    rcases hsign with rfl | rfl | rfl
    · obtain ⟨d, digits, rfl⟩ := List.exists_cons_of_ne_nil hne
      have hd : d.isDigit = true := hdigits d List.mem_cons_self
      exact congrArg Prod.snd (Number.spanSign_sign_append hd (digits ++ '-' :: rest) false)
    · rfl
    · rfl
  have hspan : Decimal.spanDigits (digits ++ '-' :: rest) = (digits, '-' :: rest) :=
    Decimal.spanDigits_append_cons hdigits rfl
  have hmantissa :
      Decimal.spanMantissa? (digits ++ '-' :: rest) = some (digits, [], '-' :: rest) := by
    rw [Decimal.spanMantissa?, hspan]
    exact if_neg hne
  rw [RecordQuery.isPlainDecimal, hbody, hmantissa]
  rfl

theorem sameLetters {word : List Char} (h : StartsWithYear cs)
    (hword : '-' ∉ word.map Char.toLower) : sameLetters cs word = false := by
  obtain ⟨sign, digits, rest, -, -, -, rfl⟩ := h
  exact sameLetters_eq_false (List.mem_append_right _ List.mem_cons_self) hword

end Instant.StartsWithYear

/-! ### Tokens -/

namespace Literal

/-- No rule before the last one takes a date. -/
theorem ofToken_eq_date_iff {token : List Char} {t : Instant} :
    ofToken token = date t ↔ Instant.ofText? (trim token) = some t := by
  constructor
  · intro h
    simp only [ofToken] at h
    split at h
    · cases h
    · split at h
      · cases h
      · split at h
        · cases h
        · split at h
          · cases h
          · split at h
            · next t' ht =>
              cases h
              exact ht
            · cases h
  · intro h
    have hyear := Instant.startsWithYear_trim h
    rw [trim_trim] at hyear
    have htrue : sameLetters (trim token) "true".toList = false := hyear.sameLetters (by decide)
    have hfalse : sameLetters (trim token) "false".toList = false := hyear.sameLetters (by decide)
    simp only [ofToken, hyear.unquoted?, hyear.isPlainDecimal, htrue, hfalse, h,
      Bool.false_eq_true, if_false]

end Literal

/-- A date that is detected in a record is the date that the same text spells in a filter. -/
theorem Value.equalsLiteral_ofToken {s : String} {t : Instant}
    (h : Instant.ofText? s.toList = some t) :
    Literal.ofToken s.toList = .date t ∧ ofJson? true (.string s) = some (.date t) ∧
      (date t).equalsLiteral (Literal.ofToken s.toList) = true := by
  have hliteral : Literal.ofToken s.toList = .date t :=
    Literal.ofToken_eq_date_iff.2 (Instant.ofText?_trim h)
  refine ⟨hliteral, ?_, ?_⟩
  · simp only [ofJson?, if_true, h]
  · rw [hliteral]
    exact beq_self_eq_true t

/-- Blanks of several kinds in front of the fields, a signed year, a leap second and more digits of
its fraction than count. -/
theorem Value.equalsLiteral_ofToken_loose :
    let s := "\u3000 -4-02- 9\u00A07:00:60.1234567899"
    let t : Instant := ⟨⟨-4, 2, 9, by decide⟩, 25259, 1123456789, by decide⟩
    Instant.ofText? s.toList = some t ∧ Literal.ofToken s.toList = .date t ∧
      ofJson? true (.string s) = some (.date t) ∧
      (date t).equalsLiteral (Literal.ofToken s.toList) = true := by
  intro s t
  have hnames : Instant.ofText? s.toList = some t := by decide +kernel
  exact ⟨hnames, equalsLiteral_ofToken hnames⟩

/-- Only a filter admits blanks in front of a timestamp. -/
example :
    Value.ofJson? true (.string " 2024-01-05T00:00:00Z") =
        some (.string " 2024-01-05T00:00:00Z") ∧
      ∃ t, Literal.ofToken " 2024-01-05T00:00:00Z".toList = .date t := by
  refine ⟨by decide +kernel, ⟨⟨2024, 1, 5, by decide⟩, 0, 0, by decide⟩, by decide +kernel⟩

end RecordQuery
