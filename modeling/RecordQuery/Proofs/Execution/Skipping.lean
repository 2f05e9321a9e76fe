import RecordQuery.Engine
import RecordQuery.Proofs.Query.Parameters
import RecordQuery.Proofs.Sorting.MergeSort

/-!
# Skipping past the end

An offset of at least the number of matching records leaves none of them: sorting keeps their
number, dropping that many leaves nothing, and neither a limit nor a selection brings a record back.

The offset has to be read first, and the reader of numbers knows those below 2⁶⁴ only.  A longer
numeral is reported and counts as absent, so it skips nothing at all, however large the number is
that it spells.
-/

namespace RecordQuery

namespace Reading

/-- The offset that a numeral asks for; beyond the largest number that is known there is none. -/
theorem offset_queryOf {maxTop : Option Nat} {ps : Parameters} {value : String}
    (hvalue : ps.value? Parameter.skip.name = some value) (hne : Text.trim value.toList ≠ [])
    (hdigits : ∀ c ∈ Text.trim value.toList, c.isDigit = true) :
    (queryOf maxTop ps.raw).offset =
      (some (Decimal.value (Text.trim value.toList))).filter (· < pageLimit) :=
  text?_bind_pageNumber? hvalue hne hdigits

end Reading

namespace Query

theorem length_sorted (q : Query) (records : List Record) :
    (q.sorted records).length = records.length := by
  rw [sorted_eq]
  cases q.orderBy.filter fun spec => !spec.isEmpty with
  | none => rfl
  | some spec => exact (perm_mergeSort spec.compare records).length_eq

theorem selected_nil (q : Query) : q.selected [] = [] := by
  rw [selected_eq]
  split <;> rfl

/-- Nothing is left behind the last matching record. -/
theorem data_execute_eq_nil {q : Query} {n : Nat} (hoffset : q.offset = some n)
    {records : List Record} (hpast : (q.filtered (q.searched records)).length ≤ n) :
    (q.execute records).data = [] := by
  have hskipped : q.skipped (q.sorted (q.filtered (q.searched records))) = [] := by
    rw [skipped_eq_drop, hoffset, Option.getD_some]
    exact List.drop_of_length_le (by rwa [length_sorted])
  have hlimited : q.limited [] = [] := List.take_nil
  rw [data_execute, hskipped, hlimited, selected_nil]

end Query

namespace Engine

/-- An offset of decimal digits that is at least the number of matching records yields no record,
provided that it is a number the reader knows. -/
theorem data_execute_skip_eq_nil (c : Config) (text value : String) (records : List Record)
    (hfirst : (Parameters.ofText text).value? Parameter.skip.name = some value)
    (hne : Text.trim value.toList ≠ [])
    (hdigits : ∀ ch ∈ Text.trim value.toList, ch.isDigit = true)
    (hsmall : Decimal.value (Text.trim value.toList) < Reading.pageLimit)
    (hpast : ((read c text).value.query.filtered
        ((read c text).value.query.searched records)).length ≤
      Decimal.value (Text.trim value.toList)) :
    (execute c (read c text).value.query records).value.data = [] := by
  have hoffset : (read c text).value.query.offset =
      some (Decimal.value (Text.trim value.toList)) := by
    have hnumber : (read c text).value.query.offset = _ :=
      Reading.offset_queryOf hfirst hne hdigits
    rwa [Option.filter_some, if_pos (by simpa using hsmall)] at hnumber
  rw [value_execute]
  exact Query.data_execute_eq_nil hoffset hpast

/-- Two of three records match, and two are skipped: the offset stops right at the end. -/
theorem data_execute_skip_eq_nil_exact :
    let c : Config := {}
    let text := "?$skip=02&$filter=a eq 1&$skip=0&$orderby=b"
    let records : List Record :=
      [.ofList [("a", .number (.ofInt 1))], .ofList [("a", .string "1")],
        .ofList [("b", .null), ("a", .number (.ofInt 1))]]
    let q := (read c text).value.query
    (Parameters.ofText text).value? Parameter.skip.name = some "02" ∧
      Text.trim "02".toList ≠ [] ∧ (∀ ch ∈ Text.trim "02".toList, ch.isDigit = true) ∧
      Decimal.value (Text.trim "02".toList) < Reading.pageLimit ∧
      (q.filtered (q.searched records)).length = Decimal.value (Text.trim "02".toList) ∧
      (execute c q records).value.data = [] := by
  intro c text records q
  have hfirst : (Parameters.ofText text).value? Parameter.skip.name = some "02" := by
    decide +kernel
  have hne : Text.trim "02".toList ≠ [] := by decide +kernel
  have hdigits : ∀ ch ∈ Text.trim "02".toList, ch.isDigit = true :=
    List.all_eq_true.1 (by decide +kernel)
  have hsmall : Decimal.value (Text.trim "02".toList) < Reading.pageLimit := by decide +kernel
  have hexact : (q.filtered (q.searched records)).length =
      Decimal.value (Text.trim "02".toList) := by decide +kernel
  exact ⟨hfirst, hne, hdigits, hsmall, hexact,
    data_execute_skip_eq_nil c text "02" records hfirst hne hdigits hsmall (Nat.le_of_eq hexact)⟩

/-- A numeral that is too large to be read skips nothing: the only record comes back although the
number is far beyond the end. -/
theorem data_execute_skip_ne_nil :
    let c : Config := {}
    let text := "?$skip=18446744073709551616"
    let records : List Record := [.empty]
    let q := (read c text).value.query
    (Parameters.ofText text).value? Parameter.skip.name = some "18446744073709551616" ∧
      (∀ ch ∈ "18446744073709551616".toList, ch.isDigit = true) ∧
      (q.filtered (q.searched records)).length ≤
        Decimal.value "18446744073709551616".toList ∧
      ¬ (execute c q records).value.data = [] := by
  intro c text records q
  exact ⟨by decide +kernel, List.all_eq_true.1 (by decide +kernel), by decide +kernel,
    by decide +kernel⟩

end Engine

end RecordQuery
