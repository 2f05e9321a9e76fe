import RecordQuery.Proofs.Literal.DateTokens
import RecordQuery.Proofs.Query.Connectives
import RecordQuery.Query.Printer

/-!
# Reading back the spelling of a literal

The type of a literal is read off its spelling, so a spelling that is read back must not look like
another type.  Quotes settle this for strings and for the items of a list, whatever the string is.
The other scalars are spelled by bare words: digits and a few marks, or the names of the truth
values.  The first letter of such a word tells a truth value, and a hyphen behind the leading digits
a date from a number.
-/

namespace RecordQuery

open Text

/-! ### Bare words -/

/-- What a spelling without quotes is made of, apart from the truth values. -/
def bareChars : List Char := "0123456789-:.TZ".toList

theorem mem_bareChars_of_isDigit {c : Char} (h : c.isDigit = true) : c ∈ bareChars := by
  have hrange := Decimal.toNat_of_isDigit h
  have hdigits : ∀ n ≤ 57, 48 ≤ n → Char.ofNat n ∈ bareChars := by decide
  have hmem := hdigits c.toNat hrange.2 hrange.1
  rwa [Char.ofNat_toNat] at hmem

theorem mem_bareChars_of_isNumeralChar {c : Char} (h : Number.IsNumeralChar c) :
    c ∈ bareChars := by
  rcases h with h | rfl | rfl
  · exact mem_bareChars_of_isDigit h
  · decide
  · decide

theorem mem_bareChars_of_isTimestampChar {c : Char} (h : Instant.IsTimestampChar c) :
    c ∈ bareChars := by
  have hmarks : ['-', ':', '.', 'T', 'Z'] ⊆ bareChars := by decide
  rcases h with h | h
  · exact mem_bareChars_of_isDigit h
  · exact hmarks h

/-- A word that stands for itself wherever words are separated by blanks. -/
structure IsBareWord (cs : List Char) : Prop where
  ne_nil : cs ≠ []
  visible : Visible cs
  isKeyword : Connective.isKeyword cs = false
  ampersand : '&' ∉ cs
  unquoted : Literal.unquoted? cs = none

theorem isBareWord_of_bareChars {cs : List Char} (hne : cs ≠ []) (h : ∀ c ∈ cs, c ∈ bareChars) :
    IsBareWord cs := by
  have hvisible : Visible bareChars := by decide
  have hletters : bareChars.all (fun c => c.toLower ∉ Connective.letters) = true := by decide
  have hquotes : bareChars.all (fun c => c ≠ '\'' ∧ c ≠ '"') = true := by decide
  rw [List.all_eq_true] at hletters hquotes
  refine ⟨hne, fun c hc => hvisible c (h c hc), ?_, ?_, ?_⟩
  · rw [← Bool.not_eq_true]
    intro hkeyword
    obtain ⟨c, rest, rfl⟩ := List.exists_cons_of_ne_nil hne
    have hmem : c ∈ c :: rest := List.mem_cons_self
    have hletter := Connective.toLower_mem_letters hkeyword c hmem
    exact of_decide_eq_true (hletters c (h c hmem)) hletter
  · intro hmem
    exact absurd (h _ hmem) (by decide)
  · exact unquoted?_eq_none fun c hc =>
      of_decide_eq_true (hquotes c (h c (List.mem_of_head? hc)))

/-! ### Literals -/

namespace Literal

/-- What a literal has to satisfy for its spelling to be read back: a number is finite, a date has a
year of four digits, and the items of a list have no commas.  Strings may be anything. -/
def IsReadable : Literal → Prop
  | number n => n.isFinite = true
  | boolean _ => True
  | string _ => True
  | date t => t.HasPlainYear
  | strings items => ∀ s ∈ items, ',' ∉ s.toList

instance : (v : Literal) → Decidable v.IsReadable
  | number n => inferInstanceAs (Decidable (n.isFinite = true))
  | boolean _ => .isTrue trivial
  | string _ => .isTrue trivial
  | date t => inferInstanceAs (Decidable t.HasPlainYear)
  | strings items => inferInstanceAs (Decidable (∀ s ∈ items, ',' ∉ s.toList))

theorem spelling_number (n : Number) : (number n).spelling = n.plain := by
  simp [spelling, text?]

theorem spelling_date (t : Instant) : (date t).spelling = t.toChars := by
  simp [spelling, text?, Instant.text]

theorem unquoted?_inQuotes (s : String) : unquoted? (inQuotes s) = some s.toList := by
  rw [inQuotes, List.cons_append, unquoted?, if_pos]
  · rw [List.dropLast_concat]
  · exact ⟨Or.inl rfl, List.getLast?_concat⟩

theorem trim_inQuotes (s : String) : trim (inQuotes s) = inQuotes s :=
  trim_between (by decide) (by decide)

/-! ### Bare scalars -/

theorem isBareWord_number {n : Number} (h : n.isFinite = true) : IsBareWord (number n).spelling := by
  rw [spelling_number]
  apply isBareWord_of_bareChars
  · intro hnil
    have hdecimal := (Number.ofText?_plain h).1
    rw [hnil] at hdecimal
    exact absurd hdecimal (by decide)
  · intro c hc
    exact mem_bareChars_of_isNumeralChar (Number.isNumeralChar_plain h c hc)

theorem isBareWord_boolean (b : Bool) : IsBareWord (boolean b).spelling := by
  cases b
  · exact ⟨by decide, by decide, by decide, by decide, by decide⟩
  · exact ⟨by decide, by decide, by decide, by decide, by decide⟩

theorem isBareWord_date {t : Instant} (h : t.HasPlainYear) : IsBareWord (date t).spelling := by
  rw [spelling_date]
  apply isBareWord_of_bareChars
  · simp [Instant.toChars]
  · intro c hc
    exact mem_bareChars_of_isTimestampChar (Instant.isTimestampChar_toChars h c hc)

theorem ofToken_number {n : Number} (h : n.isFinite = true) :
    ofToken (number n).spelling = number n := by
  have hbare := isBareWord_number h
  rw [spelling_number] at hbare ⊢
  obtain ⟨hdecimal, htext⟩ := Number.ofText?_plain h
  simp only [ofToken, hbare.visible.trim, hbare.unquoted, hdecimal, if_true, htext]

theorem ofToken_date {t : Instant} (h : t.HasPlainYear) : ofToken (date t).spelling = date t := by
  have hbare := isBareWord_date h
  rw [spelling_date] at hbare ⊢
  rw [ofToken_eq_date_iff, hbare.visible.trim, Instant.ofText?_toChars h]

theorem ofToken_string (s : String) : ofToken (string s).spelling = string s := by
  simp only [spelling, ofToken, trim_inQuotes, unquoted?_inQuotes, String.ofList_toList]

/-- A scalar is read back from its spelling. -/
theorem ofToken_spelling {v : Literal} (h : v.IsReadable) (hscalar : v.isList = false) :
    ofToken v.spelling = v := by
  cases v with
  | number n => exact ofToken_number h
  | boolean b => cases b <;> decide
  | string s => exact ofToken_string s
  | date t => exact ofToken_date h
  | strings items => exact absurd hscalar (by simp [isList])

/-! ### Lists -/

theorem item?_inQuotes (s : String) : item? (inQuotes s) = some s := by
  simp only [item?, trim_inQuotes, unquoted?_inQuotes, String.ofList_toList]

theorem notMem_inQuotes {c : Char} {s : String} (hquote : c ≠ '\'') (h : c ∉ s.toList) :
    c ∉ inQuotes s := by
  simp only [inQuotes, List.cons_append, List.mem_cons, List.mem_append, List.not_mem_nil,
    or_false, not_or]
  exact ⟨hquote, h, hquote⟩

theorem trim_parens (inner : List Char) : trim ('(' :: inner ++ [')']) = '(' :: inner ++ [')'] :=
  trim_between (by decide) (by decide)

theorem unparenthesized_parens (inner : List Char) :
    unparenthesized (trim ('(' :: inner ++ [')'])) = inner := by
  rw [trim_parens, List.cons_append]
  simp only [unparenthesized, List.getLast?_concat, if_true, List.dropLast_concat]

theorem filterMap_item?_inQuotes (items : List String) :
    (items.map inQuotes).filterMap item? = items := by
  rw [List.filterMap_map]
  have hitem : item? ∘ inQuotes = some := funext item?_inQuotes
  rw [hitem, List.filterMap_some]

/-- A list is read back from its spelling: the parentheses and the quotes go, and no item is lost,
not even an empty one. -/
theorem listOfToken_spelling {items : List String} (h : (strings items).IsReadable) :
    listOfToken (strings items).spelling = strings items := by
  rw [listOfToken, spelling, unparenthesized_parens]
  by_cases hnil : items = []
  · subst hnil
    decide
  · have hcomma : ∀ piece ∈ items.map inQuotes, ',' ∉ piece :=
      List.forall_mem_map.2 fun s hs => notMem_inQuotes (by decide) (h s hs)
    rw [List.splitOn_intercalate ',' hcomma (by simpa using hnil), filterMap_item?_inQuotes]

end Literal

end RecordQuery
