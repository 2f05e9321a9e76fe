import RecordQuery.Engine
import RecordQuery.Proofs.FieldMap.History
import RecordQuery.Proofs.Query.Lists
import RecordQuery.Proofs.Query.Predicates
import RecordQuery.Proofs.Query.Strictness

/-!
# The normal form of a query

Whatever is asked, the query that is read from it is in a form that can be relied on: a part that is
present has something in it, fields are words, names are trimmed and lie between commas, and the
page is no larger than the configuration allows (`Engine.isNormal_query`).
-/

namespace RecordQuery

open Text

/-- A name as a list of names has it: trimmed, not empty and without a comma. -/
structure IsListItem (name : String) : Prop where
  isTrimmed : IsTrimmed name.toList
  comma : ',' ∉ name.toList

/-- The field is a word, and the value is a list for membership and for no other operator. -/
structure Condition.IsNormal (c : Condition) : Prop where
  field_ne_nil : c.field.toList ≠ []
  field_visible : Visible c.field.toList
  list_iff : (∃ items, c.value = .strings items) ↔ c.operator = .isIn

/-- The parts of the query that are present are as they can be read from the parameters. -/
structure Query.IsNormal (maxTop : Option Nat) (ps : Parameters) (q : Query) : Prop where
  conditions : ∀ conditions ∈ q.conditions, conditions ≠ [] ∧ ∀ c ∈ conditions, c.IsNormal
  orderBy : ∀ spec ∈ q.orderBy,
    spec.names ≠ [] ∧ spec.names.Nodup ∧ ∀ name ∈ spec.names, IsListItem name
  select : ∀ fields ∈ q.select, fields ≠ [] ∧ ∀ name ∈ fields, IsListItem name
  search : ∀ term ∈ q.search,
    (∃ c ∈ term.toList, isBlank c = false) ∧ ps.value? "$search" = some term
  limit : ∀ n ∈ q.limit, ∀ greatest ∈ maxTop, n ≤ greatest

/-! ### Conditions -/

theorem Literal.isList_iff {v : Literal} : v.isList = true ↔ ∃ items, v = .strings items := by
  cases v with
  | strings items => simp [isList]
  | number n => simp [isList]
  | boolean b => simp [isList]
  | string s => simp [isList]
  | date t => simp [isList]

namespace Condition

theorem isNormal_of_ofSegment? {segment : List Char} {c : Condition} (h : IsTrimmed segment)
    (hread : ofSegment? segment = some c) : c.IsNormal := by
  obtain ⟨p, hp, -, hfield⟩ := exists_parts h hread
  constructor
  · rw [hfield]
    exact hp.field_ne_nil
  · rw [hfield]
    exact hp.field_visible
  · rw [← Literal.isList_iff, c.takesList, decide_eq_true_iff]

end Condition

theorem Filter.isNormal_of_mem_conditions {text : List Char} {c : Condition}
    (h : c ∈ (ofText text).conditions) : c.IsNormal := by
  obtain ⟨segment, hsegment, hread⟩ := List.mem_filterMap.1 h
  obtain ⟨hmem, hne⟩ := List.mem_filter.1 hsegment
  obtain ⟨whole, -, rfl⟩ := List.mem_map.1 hmem
  exact Condition.isNormal_of_ofSegment? (isTrimmed_trim (of_decide_eq_true hne)) hread

/-! ### Lists of names -/

/-- What stands before the last blank of a trimmed segment is not blank itself. -/
theorem OrderSpec.isListItem_keyOf {segment : List Char} (h : IsTrimmed segment)
    (hcomma : ',' ∉ segment) : IsListItem (keyOf segment).1 := by
  unfold keyOf
  split
  · next field token hcut =>
    obtain ⟨blank, hblank, rfl⟩ := exists_of_cutAtLastBlank_eq_some hcut
    have hstart : StartsVisible field := h.startsVisible.of_append
    have hne : field ≠ [] := by
      rintro rfl
      exact absurd hblank (by simp [h.startsVisible blank rfl])
    have htrim : trimEnd field = trim field := by
      rw [trim, trimStart_eq_self_iff.2 hstart]
    constructor
    · rw [String.toList_ofList, htrim]
      exact isTrimmed_trim (trim_ne_nil hstart hne)
    · rw [String.toList_ofList, htrim]
      intro hmem
      exact hcomma (List.mem_append_left _ (mem_of_mem_trim hmem))
  · constructor
    · rwa [String.toList_ofList]
    · rwa [String.toList_ofList]

theorem OrderSpec.isListItem_of_mem_names {clause : List Char} {name : String}
    (h : name ∈ (ofText clause).names) : IsListItem name := by
  obtain ⟨key, hkey, rfl⟩ := List.mem_map.1 (FieldMap.mem_names_ofList.1 h)
  obtain ⟨segment, hsegment, rfl⟩ := List.mem_map.1 hkey
  obtain ⟨htrimmed, hcomma⟩ := isTrimmed_of_mem_pieces hsegment
  exact isListItem_keyOf htrimmed hcomma

namespace Reading

theorem isListItem_of_mem_selection {clause : List Char} {name : String}
    (h : name ∈ selection clause) : IsListItem name := by
  obtain ⟨piece, hpiece, rfl⟩ := List.mem_map.1 h
  obtain ⟨htrimmed, hcomma⟩ := isTrimmed_of_mem_pieces hpiece
  constructor
  · rwa [String.toList_ofList]
  · rwa [String.toList_ofList]

/-! ### Whole queries -/

theorem capped_le {maxTop : Option Nat} {greatest : Nat} (h : maxTop = some greatest) (n : Nat) :
    capped maxTop n ≤ greatest := by
  subst h
  exact Nat.min_le_right n greatest

theorem conditions_queryOf_eq_some {maxTop : Option Nat} {ps : Parameters}
    {conditions : List Condition} (h : (queryOf maxTop ps.raw).conditions = some conditions) :
    conditions ≠ [] ∧ (filter ps.raw).conditions = conditions := by
  rw [queryOf, Option.filter_eq_some_iff] at h
  exact ⟨of_decide_eq_true h.2, Option.some.inj h.1⟩

theorem isNormal_of_mem_filter {ps : Parameters} {c : Condition} (h : c ∈ (filter ps.raw).conditions) :
    c.IsNormal := by
  unfold filter at h
  cases htext : text? ps.raw .filter with
  | none =>
    rw [htext] at h
    exact absurd h List.not_mem_nil
  | some text =>
    rw [htext] at h
    exact Filter.isNormal_of_mem_conditions h

/-- Parts that would be empty are left out, and what is kept has been trimmed, cut and capped. -/
theorem isNormal_queryOf (maxTop : Option Nat) (ps : Parameters) :
    (queryOf maxTop ps.raw).IsNormal maxTop ps := by
  constructor
  · intro conditions h
    obtain ⟨hne, rfl⟩ := conditions_queryOf_eq_some h
    exact ⟨hne, fun c hc => isNormal_of_mem_filter hc⟩
  · intro spec h
    obtain ⟨hsome, hne⟩ := Option.filter_eq_some_iff.1 h
    obtain ⟨clause, -, rfl⟩ := Option.map_eq_some_iff.1 hsome
    refine ⟨?_, FieldMap.nodup_names _, fun name => OrderSpec.isListItem_of_mem_names⟩
    intro hnil
    rw [FieldMap.isEmpty, List.map_eq_nil_iff.1 hnil] at hne
    exact absurd hne (by decide)
  · intro fields h
    obtain ⟨hsome, hne⟩ := Option.filter_eq_some_iff.1 h
    obtain ⟨clause, -, rfl⟩ := Option.map_eq_some_iff.1 hsome
    exact ⟨of_decide_eq_true hne, fun name => isListItem_of_mem_selection⟩
  · intro term h
    obtain ⟨hvalue, hblank⟩ := Option.filter_eq_some_iff.1 h
    refine ⟨?_, (ps.slot_raw .search).symm.trans hvalue⟩
    simpa [isBlankText] using hblank
  · intro n h greatest hgreatest
    obtain ⟨m, -, rfl⟩ := Option.map_eq_some_iff.1 h
    exact capped_le hgreatest m

end Reading

namespace Engine

/-- Every query that is read is in normal form, from a list of parameters or from a query string,
strictly or not. -/
theorem isNormal_query (c : Config) :
    (∀ ps, (readParameters c ps).value.query.IsNormal c.maxTop ps) ∧
      ∀ text,
        (read c text).value.query.IsNormal c.maxTop (Parameters.ofText text) ∧
          ∀ q, (readStrictly c text).value = .ok q ∨ (readChecked c text).value = .ok q →
            q.IsNormal c.maxTop (Parameters.ofText text) := by
  have hread : ∀ ps, (readParameters c ps).value.query.IsNormal c.maxTop ps :=
    Reading.isNormal_queryOf c.maxTop
  have hstrictly : ∀ text q, (readStrictly c text).value = .ok q →
      q.IsNormal c.maxTop (Parameters.ofText text) := by
    intro text q h
    obtain ⟨-, rfl⟩ := Reading.strictly_eq_ok_iff.1 h
    exact hread (Parameters.ofText text)
  refine ⟨hread, fun text => ⟨hread (Parameters.ofText text), ?_⟩⟩
  rintro q (h | h)
  · exact hstrictly text q h
  · unfold readChecked at h
    split at h
    · exact hstrictly text q h
    · cases h
      exact hread (Parameters.ofText text)

/-- A repeated key, empty places in lists, a name with a blank in it, blanks around a search term and
a page that is too large. -/
theorem isNormal_query_full :
    let c : Config := { maxTop := some 3 }
    let text := "?$filter=a  IN (x,,'') and b eq 1&$orderby=my key desc,, a,my key b&" ++
      "$select= a b ,,&$top=7&$search= x &$search=y"
    let q : Query :=
      { conditions := some [.among "a" ["x", ""], .ofToken "b" .eq "1".toList]
        orderBy := some (FieldMap.ofList [("my key", .ascending), ("a", .ascending)])
        limit := some 3
        select := some ["a b"]
        search := some " x " }
    (readStrictly c text).value = .ok q ∧ q.IsNormal c.maxTop (Parameters.ofText text) := by
  intro c text q
  have hread : (readStrictly c text).value = .ok q := by decide +kernel
  exact ⟨hread, ((isNormal_query c).2 text).2 q (Or.inl hread)⟩

end Engine

end RecordQuery
