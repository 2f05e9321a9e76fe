import RecordQuery.Proofs.FieldMap
import RecordQuery.Proofs.Literal.Spelling
import RecordQuery.Proofs.Matching.TextMatches
import RecordQuery.Proofs.Text.Joining
import RecordQuery.Proofs.Text.Lowercasing

/-!
# The text of a token

The text operators take a literal by its text.  A token without quotes is typed first, and the text
of what it denotes need not be the token: a number is written in its shortest form and a date as a
timestamp in UTC.  Two tokens make the same text condition exactly if their texts have one lower case
(`Condition.holds_ofToken_congr_iff`), so the quotes of a token may be left out exactly if the text
of what it denotes has the lower case of the token (`Condition.holds_ofToken_unquoted`).  That is so
for truth values and strings, and among the numerals for those that a number is written as.
-/

namespace RecordQuery

/-! ### What an unquoted token spells -/

namespace Literal

/-- The token, which has no quotes, has the form by which a literal of this type is told. -/
def IsSpelledBy (token : List Char) : Literal → Prop
  | number _ => isPlainDecimal token = true
  | boolean b => Text.sameLetters token (if b then "true" else "false").toList = true
  | date t => Instant.ofText? token = some t
  | string s => s = String.ofList token
  | strings _ => False

theorem isSpelledBy_ofToken {token : List Char} (htrim : Text.trim token = token)
    (hbare : unquoted? token = none) : (ofToken token).IsSpelledBy token := by
  simp only [ofToken, htrim, hbare]
  split
  · next n hn =>
    show isPlainDecimal token = true
    by_contra hdecimal
    rw [if_neg hdecimal] at hn
    cases hn
  · split
    · next htrue => exact htrue
    · split
      · next hfalse => exact hfalse
      · split
        · next t ht => exact ht
        · rfl

theorem exists_text?_ofToken (token : List Char) : ∃ text, (ofToken token).text? = some text := by
  cases h : ofToken token with
  | strings items => exact absurd (Condition.isList_ofToken token) (by simp [h, isList])
  | _ => exact ⟨_, rfl⟩

theorem text?_ofToken_inQuotes (s : String) : (ofToken (inQuotes s)).text? = some s := by
  have hquoted : ofToken (inQuotes s) = string s := ofToken_string s
  rw [hquoted]
  rfl

end Literal

/-! ### The lower case of what a token denotes -/

theorem Text.lowercase_numeral {cs : List Char} (h : ∀ c ∈ cs, Number.IsNumeralChar c ∨ c = '+') :
    lowercase cs = cs := by
  have hchar : ∀ c ∈ cs, c.toNat < 0x80 ∧ c.toLower = c := by
    intro c hc
    rcases h c hc with (hdigit | rfl | rfl) | rfl
    · have hrange := Decimal.toNat_of_isDigit hdigit
      exact ⟨by omega, toLower_of_isDigit hdigit⟩
    · decide
    · decide
    · decide
  have hmap : cs.map Char.toLower = cs.map id :=
    List.map_congr_left fun c hc => (hchar c hc).2
  rw [lowercase_of_ascii fun c hc => (hchar c hc).1, hmap, List.map_id]

namespace Number

theorem mem_lowercase_plain_of_not_isFinite {n : Number} (h : n.isFinite = false) :
    'n' ∈ Text.lowercase n.plain := by
  rcases eq_of_not_isFinite h with rfl | ⟨negative, rfl⟩
  · decide +kernel
  · cases negative with
    | true => decide +kernel
    | false => decide +kernel

/-- Case does not matter to numerals, so a numeral has the lower case of a number's text only if it
is that text. -/
theorem lowercase_plain_eq_iff {token : List Char} (h : isPlainDecimal token = true) (n : Number) :
    Text.lowercase n.plain = Text.lowercase token ↔ n.plain = token := by
  have hchars := isNumeralChar_of_isPlainDecimal h
  constructor
  · intro heq
    rw [Text.lowercase_numeral hchars] at heq
    cases hfinite : n.isFinite with
    | true =>
      rw [← heq, Text.lowercase_numeral fun c hc => Or.inl (isNumeralChar_plain hfinite c hc)]
    | false =>
      have hmem := heq ▸ mem_lowercase_plain_of_not_isFinite hfinite
      rcases hchars 'n' hmem with (hdigit | hminus | hpoint) | hplus
      · exact absurd hdigit (by decide)
      · exact absurd hminus (by decide)
      · exact absurd hpoint (by decide)
      · exact absurd hplus (by decide)
  · intro heq
    rw [heq]

end Number

namespace Literal

variable {token : List Char} {text : String}

theorem IsSpelledBy.lowercase_number_iff {n : Number} (h : (number n).IsSpelledBy token)
    (htext : (number n).text? = some text) :
    Text.lowercase text.toList = Text.lowercase token ↔ text.toList = token := by
  obtain rfl : String.ofList n.plain = text := Option.some.inj htext
  rw [String.toList_ofList]
  exact Number.lowercase_plain_eq_iff h n

theorem IsSpelledBy.lowercase_boolean {b : Bool} (h : (boolean b).IsSpelledBy token)
    (htext : (boolean b).text? = some text) :
    Text.lowercase text.toList = Text.lowercase token := by
  have hletters : Text.sameLetters token (if b then "true" else "false").toList = true := h
  obtain rfl : (if b then "true" else "false") = text := Option.some.inj htext
  apply (Text.lowercase_of_sameLetters hletters ?_).symm
  cases b with
  | true => decide
  | false => decide

theorem IsSpelledBy.lowercase_string {s : String} (h : (string s).IsSpelledBy token)
    (htext : (string s).text? = some text) :
    Text.lowercase text.toList = Text.lowercase token := by
  obtain rfl : s = text := Option.some.inj htext
  obtain rfl : s = String.ofList token := h
  rw [String.toList_ofList]

end Literal

/-! ### Text conditions -/

namespace Condition

variable {field : String} {operator : Operator} {token token' : List Char} {text text' : String}

theorem holds_ofToken_iff (htext : operator.isTextMatch = true)
    (h : (Literal.ofToken token).text? = some text) (r : Record) :
    (ofToken field operator token).holds r = true ↔
      ∃ s, r.get? field = some (.string s) ∧
        Value.textMatches operator (Text.lowercase text.toList) (Text.lowercase s.toList) = true := by
  have hliteral : (ofToken field operator token).value = .ofToken token := by
    apply if_neg
    rintro rfl
    cases htext
  have hvalue : (ofToken field operator token).value.text? = some text := by
    rw [hliteral, h]
  exact holds_text_iff htext hvalue r

theorem textMatches_of_imp (htext : operator.isTextMatch = true)
    (h : (Literal.ofToken token).text? = some text)
    (h' : (Literal.ofToken token').text? = some text')
    (himp : ∀ r, (ofToken field operator token).holds r = true →
      (ofToken field operator token').holds r = true) :
    Value.textMatches operator (Text.lowercase text'.toList) (Text.lowercase text.toList) =
      true := by
  -- A record that holds the first text meets the first condition, for a text stands in itself.
  have hstored : FieldMap.get? (.ofList [(field, Value.string text)]) field =
      some (.string text) := by
    rw [FieldMap.get?_ofList_singleton, if_pos rfl]
  have hself := Value.textMatches_self htext (Text.lowercase text.toList)
  have hholds := himp _ ((holds_ofToken_iff htext h _).2 ⟨text, hstored, hself⟩)
  obtain ⟨s, hs, hmatches⟩ := (holds_ofToken_iff htext h' _).1 hholds
  rw [hstored] at hs
  cases hs
  exact hmatches

/-- Two tokens make one text condition exactly if their texts have one lower case. -/
theorem holds_ofToken_congr_iff (htext : operator.isTextMatch = true)
    (h : (Literal.ofToken token).text? = some text)
    (h' : (Literal.ofToken token').text? = some text') :
    (∀ r, (ofToken field operator token).holds r = (ofToken field operator token').holds r) ↔
      Text.lowercase text.toList = Text.lowercase text'.toList := by
  constructor
  · intro hsame
    have hforth := textMatches_of_imp htext h h' fun r hr => hsame r ▸ hr
    have hback := textMatches_of_imp htext h' h fun r hr => (hsame r).symm ▸ hr
    exact Value.textMatches_antisymm hback hforth
  · intro hlower r
    rw [Bool.eq_iff_iff, holds_ofToken_iff htext h, holds_ofToken_iff htext h', hlower]

/-- A text condition takes the text of what its token denotes. -/
theorem holds_ofToken_unquoted (field : String) (htext : operator.isTextMatch = true)
    (htrimmed : Text.IsTrimmed token) (hbare : Literal.unquoted? token = none) :
    ∃ text, (Literal.ofToken token).text? = some text ∧
      (∀ r, (ofToken field operator token).holds r =
        (ofToken field operator (Literal.inQuotes text)).holds r) ∧
      ((∀ r, (ofToken field operator token).holds r =
          (ofToken field operator (Literal.inQuotes (String.ofList token))).holds r) ↔
        Text.lowercase text.toList = Text.lowercase token) ∧
      (∀ n, Literal.ofToken token = .number n →
        (Text.lowercase text.toList = Text.lowercase token ↔ text.toList = token)) ∧
      ((∃ b, Literal.ofToken token = .boolean b) ∨ (∃ s, Literal.ofToken token = .string s) →
        Text.lowercase text.toList = Text.lowercase token) := by
  obtain ⟨text, hdenotes⟩ := Literal.exists_text?_ofToken token
  have hspells := Literal.isSpelledBy_ofToken htrimmed.trim hbare
  refine ⟨text, hdenotes, ?_, ?_, ?_, ?_⟩
  · exact (holds_ofToken_congr_iff htext hdenotes (Literal.text?_ofToken_inQuotes text)).2 rfl
  · rw [holds_ofToken_congr_iff htext hdenotes (Literal.text?_ofToken_inQuotes _),
      String.toList_ofList]
  · intro n hn
    rw [hn] at hdenotes hspells
    exact hspells.lowercase_number_iff hdenotes
  · rintro (⟨b, hb⟩ | ⟨s, hs⟩)
    · rw [hb] at hdenotes hspells
      exact hspells.lowercase_boolean hdenotes
    · rw [hs] at hdenotes hspells
      exact hspells.lowercase_string hdenotes

/-- A numeral that is its own text, and one with zeros in front, which is taken as `7`. -/
theorem holds_ofToken_unquoted_numerals :
    (∀ r, (ofToken "code" .endsWith "25".toList).holds r =
        (ofToken "code" .endsWith (Literal.inQuotes "25")).holds r) ∧
      ∀ r, (ofToken "code" .endsWith "007".toList).holds r =
        (ofToken "code" .endsWith (Literal.inQuotes "7")).holds r := by
  have hcode := fun token => @holds_ofToken_unquoted .endsWith token "code" rfl
  have h25 : (Literal.ofToken "25".toList).text? = some "25" := by decide +kernel
  have h007 : (Literal.ofToken "007".toList).text? = some "7" := by decide +kernel
  constructor
  · obtain ⟨text, htext, -, hsame, -⟩ := hcode "25".toList (by decide) (by decide)
    obtain rfl : "25" = text := Option.some.inj (h25.symm.trans htext)
    exact hsame.2 rfl
  · obtain ⟨text, htext, hquoted, -⟩ := hcode "007".toList (by decide) (by decide)
    obtain rfl : "7" = text := Option.some.inj (h007.symm.trans htext)
    exact hquoted

/-- A numeral with zeros in front and a date: the text operators look for `7` and for midnight in
UTC. -/
theorem holds_ofToken_unquoted_ne :
    let code : Record := .ofList [("code", .string "x7")]
    let day : Record := .ofList [("day", .string "2024-01-05")]
    (ofToken "code" .endsWith "007".toList).holds code = true ∧
      (ofToken "code" .endsWith (Literal.inQuotes "007")).holds code = false ∧
      (ofToken "day" .contains "2024-01-05".toList).holds day = false ∧
      (ofToken "day" .contains (Literal.inQuotes "2024-01-05")).holds day = true := by
  decide +kernel

end Condition

end RecordQuery
