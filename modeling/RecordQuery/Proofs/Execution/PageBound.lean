import RecordQuery.Engine
import RecordQuery.Proofs.Execution.Stages
import RecordQuery.Proofs.Query.Parameters

/-!
# The bound on page sizes

A configuration may bound the size of a page.  The bound is kept in three places: the reader of
numbers, which knows numbers below 2⁶⁴ only; the reader of queries, which cuts the page size down to
the bound; and the execution, to which a limit of zero is no limit.  A page size from one up to the
largest number that is read is held to the bound by all three.  Zero is not: it asks for no limit and
gets none.
-/

namespace RecordQuery

namespace Reading

theorem limit_queryOf {maxTop : Option Nat} {ps : Parameters} {value : String}
    (hvalue : ps.value? Parameter.top.name = some value) (hne : Text.trim value.toList ≠ [])
    (hdigits : ∀ c ∈ Text.trim value.toList, c.isDigit = true)
    (hsmall : Decimal.value (Text.trim value.toList) < pageLimit) :
    (queryOf maxTop ps.raw).limit = some (capped maxTop (Decimal.value (Text.trim value.toList))) := by
  have hnumber := text?_bind_pageNumber? hvalue hne hdigits
  rw [Option.filter_some, if_pos (by simpa using hsmall)] at hnumber
  rw [queryOf, hnumber, Option.map_some]

end Reading

namespace Query

theorem length_execute_le {q : Query} {n : Nat} (h : q.limit = some n) (hn : n ≠ 0)
    (records : List Record) : (q.execute records).data.length ≤ n := by
  rw [data_execute, length_selected, limited_eq_take h hn]
  exact List.length_take_le _ _

theorem data_execute_of_limit_zero {q : Query} (h : q.limit = some 0) (records : List Record) :
    (q.execute records).data = ({ q with limit := none }.execute records).data := by
  rw [data_execute, data_execute, limited_eq_self (by simp [h]), limited_eq_self (by simp)]
  rfl

end Query

theorem Config.pos_of_validate {c : Config} {m : Nat} (hvalid : c.validate = .ok ())
    (hmax : c.maxTop = some m) : 0 < m := by
  rcases Nat.eq_zero_or_pos m with rfl | hpos
  · rw [validate, if_pos hmax] at hvalid
    exact absurd hvalid (by simp)
  · exact hpos

namespace Engine

/-- A page size `n` of decimal digits yields at most `n` records and at most as many as the
configuration admits, provided that `n` is a number the reader knows; a page size of zero sets no
limit. -/
theorem length_execute_le_maxTop (c : Config) (m : Nat) (text value : String)
    (records : List Record) (hvalid : c.validate = .ok ()) (hmax : c.maxTop = some m)
    (hfirst : (Parameters.ofText text).value? Parameter.top.name = some value)
    (hne : Text.trim value.toList ≠ [])
    (hdigits : ∀ ch ∈ Text.trim value.toList, ch.isDigit = true)
    (hsmall : Decimal.value (Text.trim value.toList) < Reading.pageLimit) :
    let n := Decimal.value (Text.trim value.toList)
    let q := (read c text).value.query
    (n ≠ 0 → (execute c q records).value.data.length ≤ min n m) ∧
      (n = 0 → (execute c q records).value.data =
        (execute c { q with limit := none } records).value.data) := by
  intro n q
  have hlimit : q.limit = some (min n m) := by
    have hcapped : q.limit = some (Reading.capped c.maxTop n) :=
      Reading.limit_queryOf hfirst hne hdigits hsmall
    rw [hcapped, hmax]
    rfl
  constructor
  · intro hn
    have hpos := Config.pos_of_validate hvalid hmax
    rw [value_execute]
    exact Query.length_execute_le hlimit (by omega) records
  · intro hn
    have hzero : q.limit = some 0 := by rw [hlimit, hn, Nat.zero_min]
    rw [value_execute, value_execute]
    exact Query.data_execute_of_limit_zero hzero records

/-- A page of seven records, asked for with a leading zero and blanks, is cut down to two. -/
theorem length_execute_le_maxTop_two :
    let c : Config := { maxTop := some 2 }
    let records : List Record := List.replicate 3 .empty
    c.validate = .ok () ∧ c.maxTop = some 2 ∧
      (Parameters.ofText "?$top= 07 &$top=x").value? Parameter.top.name = some " 07 " ∧
      Text.trim " 07 ".toList ≠ [] ∧ (∀ ch ∈ Text.trim " 07 ".toList, ch.isDigit = true) ∧
      Decimal.value (Text.trim " 07 ".toList) < Reading.pageLimit ∧
      (execute c (read c "?$top= 07 &$top=x").value.query records).value.data.length ≤ 2 := by
  intro c records
  have hfirst : (Parameters.ofText "?$top= 07 &$top=x").value? Parameter.top.name = some " 07 " := by
    decide +kernel
  have hne : Text.trim " 07 ".toList ≠ [] := by decide +kernel
  have hdigits : ∀ ch ∈ Text.trim " 07 ".toList, ch.isDigit = true :=
    List.all_eq_true.1 (by decide +kernel)
  have hsmall : Decimal.value (Text.trim " 07 ".toList) < Reading.pageLimit := by decide +kernel
  have hbound := (length_execute_le_maxTop c 2 _ _ records rfl rfl hfirst hne hdigits hsmall).1
    (by decide +kernel)
  exact ⟨rfl, rfl, hfirst, hne, hdigits, hsmall, Nat.le_trans hbound (Nat.min_le_right _ _)⟩

/-- Neither zero nor a number that is too large to be read is held to the bound: two records come
back where one is admitted. -/
theorem length_execute_gt_maxTop :
    let c : Config := { maxTop := some 1 }
    let records : List Record := List.replicate 2 .empty
    c.validate = .ok () ∧
      ∀ digits ∈ ["0", "18446744073709551616"],
        (Parameters.ofText ("?$top=" ++ digits)).value? Parameter.top.name = some digits ∧
          Text.trim digits.toList ≠ [] ∧
          (∀ ch ∈ Text.trim digits.toList, ch.isDigit = true) ∧
          ¬ (execute c (read c ("?$top=" ++ digits)).value.query records).value.data.length ≤ 1 := by
  intro c records
  refine ⟨rfl, ?_⟩
  intro digits hmem
  simp only [List.mem_cons, List.not_mem_nil, or_false] at hmem
  rcases hmem with rfl | rfl
  · exact ⟨by decide +kernel, by decide +kernel, List.all_eq_true.1 (by decide +kernel),
      by decide +kernel⟩
  · exact ⟨by decide +kernel, by decide +kernel, List.all_eq_true.1 (by decide +kernel),
      by decide +kernel⟩

end Engine

end RecordQuery
