import RecordQuery.Proofs.FieldMap
import RecordQuery.Proofs.Number.Digits
import RecordQuery.Proofs.Text.Joining
import RecordQuery.Query.Printer

/-!
# Parameters of a query string

A list of parameters is read back from its query string unless an ampersand, or an equals sign in a
name, cuts it in another place.  A value may have equals signs in it, since the first one counts.
-/

namespace RecordQuery

open Text

namespace Parameters

/-- A name and a value that stand in a query string as they are. -/
structure IsPlain (p : String × String) : Prop where
  name_ampersand : '&' ∉ p.1.toList
  name_equals : '=' ∉ p.1.toList
  value_ampersand : '&' ∉ p.2.toList

instance (p : String × String) : Decidable (IsPlain p) :=
  decidable_of_iff ('&' ∉ p.1.toList ∧ '=' ∉ p.1.toList ∧ '&' ∉ p.2.toList)
    ⟨fun h => ⟨h.1, h.2.1, h.2.2⟩, fun h => ⟨h.name_ampersand, h.name_equals, h.value_ampersand⟩⟩

/-- The spelling of a parameter. -/
def partSpelling (p : String × String) : List Char := p.1.toList ++ '=' :: p.2.toList

theorem ofPart_partSpelling {p : String × String} (h : IsPlain p) : ofPart (partSpelling p) = p := by
  have hcut : cutAt '=' (partSpelling p) = some (p.1.toList, p.2.toList) :=
    cutAt_eq_some_iff.2 ⟨rfl, h.name_equals⟩
  simp only [ofPart, hcut, String.ofList_toList]

theorem ampersand_notMem_partSpelling {p : String × String} (h : IsPlain p) :
    '&' ∉ partSpelling p := by
  have hequals : ¬ '&' = '=' := by decide
  simp only [partSpelling, List.mem_append, List.mem_cons, not_or]
  exact ⟨h.name_ampersand, hequals, h.value_ampersand⟩

/-- Only a question mark is skipped. -/
theorem withoutMark_eq_self {cs : List Char} (h : cs.head? ≠ some '?') : withoutMark cs = cs := by
  unfold withoutMark
  split
  · exact absurd rfl h
  · rfl

/-- Parameters are read back from a text that has their spellings between ampersands, behind a
question mark or not. -/
theorem ofText_of_intercalate {ps : Parameters} {text : String} (h : ∀ p ∈ ps, IsPlain p)
    (htext : withoutMark text.toList = ['&'].intercalate (ps.map partSpelling)) :
    ofText text = ps := by
  rw [ofText, htext]
  by_cases hnil : ps = []
  · subst hnil
    decide
  · have hampersand : ∀ part ∈ ps.map partSpelling, '&' ∉ part :=
      List.forall_mem_map.2 fun p hp => ampersand_notMem_partSpelling (h p hp)
    have hfilter : (ps.map partSpelling).filter (· ≠ []) = ps.map partSpelling := by
      rw [List.filter_eq_self]
      exact List.forall_mem_map.2 fun p _ => decide_eq_true (by simp [partSpelling])
    rw [List.splitOn_intercalate '&' hampersand (by simpa using hnil), hfilter, List.map_map]
    exact (List.map_congr_left fun p hp => ofPart_partSpelling (h p hp)).trans (List.map_id _)

/-- Parameters are read back from their query string, in their order. -/
theorem ofText_text {ps : Parameters} (h : ∀ p ∈ ps, IsPlain p) : ofText ps.text = ps := by
  apply ofText_of_intercalate h
  rw [text, String.toList_ofList]
  rfl

/-- If no name is repeated, the value that counts for a name is the one that stands with it. -/
theorem value?_eq_some_iff {ps : Parameters} (hnodup : (ps.map Prod.fst).Nodup)
    {name value : String} : ps.value? name = some value ↔ (name, value) ∈ ps :=
  FieldMap.lookup_eq_some_iff_mem hnodup

end Parameters

/-! ### Values -/

namespace Reading

theorem text?_eq_some {ps : Parameters} {p : Parameter} {value : String}
    (hvalue : ps.value? p.name = some value) (hne : trim value.toList ≠ []) :
    text? ps.raw p = some (trim value.toList) := by
  simp [text?, ps.slot_raw, hvalue, hne]

/-- A text of digits is a page number if the number that it spells is small enough. -/
theorem pageNumber?_digits {text : List Char} (hne : text ≠ [])
    (hdigits : ∀ c ∈ text, c.isDigit = true) :
    pageNumber? text = (some (Decimal.value text)).filter (· < pageLimit) := by
  have hplus : ∀ cs, text ≠ '+' :: cs := by
    rintro cs rfl
    have hplus : ('+').isDigit = true := hdigits '+' (by simp)
    exact absurd hplus (by decide)
  unfold pageNumber?
  split
  · next cs => exact absurd rfl (hplus cs)
  · exact congrArg (Option.filter (· < pageLimit)) (Decimal.natural?_digits hne hdigits)

/-- A page parameter of digits is present if the number that it spells is small enough. -/
theorem text?_bind_pageNumber? {ps : Parameters} {p : Parameter} {value : String}
    (hvalue : ps.value? p.name = some value) (hne : trim value.toList ≠ [])
    (hdigits : ∀ c ∈ trim value.toList, c.isDigit = true) :
    (text? ps.raw p).bind pageNumber? =
      (some (Decimal.value (trim value.toList))).filter (· < pageLimit) := by
  rw [text?_eq_some hvalue hne, Option.bind_some, pageNumber?_digits hne hdigits]

theorem pageNumber?_text {n : Nat} (h : n < pageLimit) : pageNumber? (Decimal.text n) = some n := by
  rw [pageNumber?_digits (Decimal.text_ne_nil n) (Decimal.allDigits_text n), Decimal.value_text,
    Option.filter_some, if_pos (by simpa using h)]

end Reading

end RecordQuery
