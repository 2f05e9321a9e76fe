import RecordQuery.Proofs.Literal.Spelling

/-!
# Reading back the text of a literal

The text of a literal is what the text operators take and what is displayed.  It has no quotes, so
for a string it need not say that it is one.  The text of a number, a truth value or a date does
tell its type: with any blanks around it, it is read as the literal, unless the number is not finite
or the date lies outside the years 0 to 9999, whose texts are read as strings
(`Literal.exists_text_ofToken_iff`).
-/

namespace RecordQuery

open Text

theorem Instant.trim_toChars (t : Instant) : trim t.toChars = t.toChars := by
  have hstart : StartsVisible (yearText t.date.year) ∧ yearText t.date.year ≠ [] := by
    unfold yearText
    split
    · exact ⟨startsVisible_cons (by decide) _, List.cons_ne_nil _ _⟩
    · split
      · exact ⟨startsVisible_digits (Decimal.allDigits_padded 4 _), padded_ne_nil 4 _⟩
      · exact ⟨startsVisible_cons (by decide) _, List.cons_ne_nil _ _⟩
  have hend : EndsVisible t.toChars := endsVisible_concat (by decide) _
  refine trim_eq_self_iff.2 ⟨?_, hend⟩
  rw [toChars_eq, List.append_assoc, List.append_assoc]
  exact hstart.1.append hstart.2

namespace Literal

/-- The type of the literal shows without quotes: it is a number, a truth value or a date. -/
def IsTyped : Literal → Prop
  | number _ | boolean _ | date _ => True
  | string _ | strings _ => False

theorem ofToken_between {before after : List Char} (hbefore : AllBlank before)
    (hafter : AllBlank after) (token : List Char) :
    ofToken (before ++ token ++ after) = ofToken token := by
  have htrim : trim (before ++ token ++ after) = trim token := by
    rw [trim_append_allBlank _ hafter, trim_allBlank_append hbefore]
  simp only [ofToken, htrim]

/-- The names of the numbers without digits are no numerals. -/
theorem ofToken_plain_iff (n : Number) : ofToken n.plain = number n ↔ n.isFinite = true := by
  constructor
  · intro h
    by_contra hfinite
    rw [Bool.not_eq_true] at hfinite
    rcases Number.eq_of_not_isFinite hfinite with rfl | ⟨negative, rfl⟩
    · exact absurd h (by decide +kernel)
    · cases negative with
      | true => exact absurd h (by decide +kernel)
      | false => exact absurd h (by decide +kernel)
  · intro h
    rw [← spelling_number]
    exact ofToken_number h

theorem ofToken_toChars_iff (t : Instant) : ofToken t.toChars = date t ↔ t.HasPlainYear := by
  rw [ofToken_eq_date_iff, t.trim_toChars]
  exact t.ofText?_toChars_iff

/-- A number, a truth value or a date has a text, and with any blanks around it the text is read as
the literal exactly if the number is finite and the year of the date has four digits. -/
theorem exists_text_ofToken_iff {v : Literal} (h : v.IsTyped) {before after : List Char}
    (hbefore : AllBlank before) (hafter : AllBlank after) :
    ∃ text, v.text? = some text ∧
      (ofToken (before ++ text.toList ++ after) = v ↔ v.IsReadable) := by
  cases v with
  | number n =>
    refine ⟨_, rfl, ?_⟩
    rw [ofToken_between hbefore hafter, String.toList_ofList]
    exact ofToken_plain_iff n
  | boolean b =>
    refine ⟨_, rfl, ?_⟩
    rw [ofToken_between hbefore hafter]
    cases b with
    | true => exact iff_of_true (by decide) trivial
    | false => exact iff_of_true (by decide) trivial
  | date t =>
    refine ⟨_, rfl, ?_⟩
    rw [ofToken_between hbefore hafter, Instant.text, String.toList_ofList]
    exact ofToken_toChars_iff t
  | string s => exact absurd h id
  | strings items => exact absurd h id

/-- The negative zero, the last leap second of the year 9999, and infinity. -/
theorem exists_text_ofToken_iff_extremes :
    let before := "\u3000 ".toList
    let after := "\t".toList
    let zero := number (.real true .zero)
    let leap := date ⟨⟨9999, 12, 31, by decide⟩, 86399, 1999999999, by decide⟩
    let infinity := number (.real false .infinity)
    AllBlank before ∧ AllBlank after ∧ zero.IsTyped ∧ leap.IsTyped ∧ infinity.IsTyped ∧
      ofToken (before ++ "-0".toList ++ after) = zero ∧
      ofToken (before ++ "9999-12-31T23:59:60.999999999Z".toList ++ after) = leap ∧
      ofToken (before ++ "inf".toList ++ after) ≠ infinity := by
  intro before after zero leap infinity
  have hbefore : AllBlank before := by decide
  have hafter : AllBlank after := by decide
  obtain ⟨text, hzero, hzeroRead⟩ := exists_text_ofToken_iff (v := zero) trivial hbefore hafter
  obtain ⟨text', hleap, hleapRead⟩ := exists_text_ofToken_iff (v := leap) trivial hbefore hafter
  obtain ⟨text'', hinfinity, hinfinityRead⟩ :=
    exists_text_ofToken_iff (v := infinity) trivial hbefore hafter
  have hleapText : leap.text? = some "9999-12-31T23:59:60.999999999Z" := by decide +kernel
  obtain rfl : "-0" = text := Option.some.inj hzero
  obtain rfl := Option.some.inj (hleapText.symm.trans hleap)
  obtain rfl : "inf" = text'' := Option.some.inj hinfinity
  refine ⟨hbefore, hafter, trivial, trivial, trivial, ?_, ?_, ?_⟩
  · exact hzeroRead.2 (by decide)
  · exact hleapRead.2 (by decide)
  · intro hread
    exact absurd (hinfinityRead.1 hread) (by decide)

end Literal

end RecordQuery
