import Mathlib.Data.List.Chain
import RecordQuery.Proofs.Sorting.Comparison
import RecordQuery.Proofs.Sorting.MergeSort

/-!
# Sorting any records

On records that lack keys or hold values without an order the comparison is not transitive, and no
arrangement need be in order as a whole.  One thing is left: a record is never strictly less than
the one right before it (`OrderSpec.sort_neighbours`).

It rests on one property of the comparison, that no two records precede each other.  A merge puts
two elements side by side that were neighbours before, or that it has just compared, and in the
second case the one that it took is less than the other or the other is not less than it.
-/

namespace RecordQuery

section Merge

variable {α : Type} {compare : α → α → Ordering}

/-- No element is strictly less than the one right before it. -/
def HasNoStepDown (compare : α → α → Ordering) (items : List α) : Prop :=
  items.IsChain fun a b => compare b a ≠ .lt

/-- A merge begins as one of the two lists does. -/
theorem head?_merge {lefts rights : List α} {a : α}
    (h : (merge compare lefts rights).head? = some a) :
    lefts.head? = some a ∨ rights.head? = some a := by
  cases lefts with
  | nil => exact Or.inr h
  | cons left lefts =>
    cases rights with
    | nil =>
      rw [merge_nil_right] at h
      exact Or.inl h
    | cons right rights =>
      rw [merge_cons_cons] at h
      split at h
      · exact Or.inr h
      · exact Or.inl h

theorem hasNoStepDown_merge [Std.OrientedCmp compare] {lefts rights : List α}
    (hlefts : HasNoStepDown compare lefts) (hrights : HasNoStepDown compare rights) :
    HasNoStepDown compare (merge compare lefts rights) := by
  induction lefts, rights using merge_induction compare with
  | nil_left rights => exact hrights
  | nil_right lefts => rwa [merge_nil_right]
  | take_right left lefts right rights hlt ih =>
    obtain ⟨hnext, hrest⟩ := List.isChain_cons.1 hrights
    rw [merge_cons_cons, if_pos hlt]
    refine List.isChain_cons.2 ⟨fun a ha => ?_, ih hlefts hrest⟩
    rcases head?_merge ha with hleft | hright
    · -- the element that was passed by is greater
      obtain rfl : left = a := Option.some.inj hleft
      have hgt : compare left right = .gt := Std.OrientedCmp.gt_of_lt hlt
      simp [hgt]
    · exact hnext a hright
  | take_left left lefts right rights hlt ih =>
    obtain ⟨hnext, hrest⟩ := List.isChain_cons.1 hlefts
    rw [merge_cons_cons, if_neg hlt]
    refine List.isChain_cons.2 ⟨fun a ha => ?_, ih hrest hrights⟩
    rcases head?_merge ha with hleft | hright
    · exact hnext a hleft
    · obtain rfl : right = a := Option.some.inj hright
      exact hlt

theorem hasNoStepDown_mergeSort [Std.OrientedCmp compare] (items : List α) :
    HasNoStepDown compare (mergeSort compare items) := by
  induction items using mergeSort_induction compare with
  | short items hshort =>
    match items, hshort with
    | [], _ => exact List.IsChain.nil
    | [a], _ => exact List.IsChain.singleton a
  | merged first second first' second' hfirst hsecond => exact hasNoStepDown_merge hfirst hsecond

end Merge

namespace OrderSpec

/-- A record may be equal to two others of which one is greater than the other: that it lacks the
field makes it equal to both. -/
theorem exists_not_transitive :
    ∃ (spec : OrderSpec) (a b c : Record),
      spec.compare a b ≠ .gt ∧ spec.compare b c ≠ .gt ∧ spec.compare a c = .gt :=
  ⟨.ofList [("size", .ascending)], .ofList [("size", .number (.ofInt 2))], .ofList [],
    .ofList [("size", .number (.ofInt 1))], by decide +kernel⟩

/-- Whatever the records hold, sorting rearranges them so that no record is strictly less than the
one before it, and this although the comparison need not be transitive. -/
theorem sort_neighbours :
    (∀ (spec : OrderSpec) (records : List Record),
      (spec.sort records).Perm records ∧
        ∀ i, ∀ h : i + 1 < (spec.sort records).length,
          spec.compare (spec.sort records)[i + 1] (spec.sort records)[i] ≠ .lt) ∧
      ∃ (spec : OrderSpec) (a b c : Record),
        spec.compare a b ≠ .gt ∧ spec.compare b c ≠ .gt ∧ spec.compare a c = .gt := by
  refine ⟨fun spec records => ⟨perm_mergeSort spec.compare records, fun i h => ?_⟩,
    exists_not_transitive⟩
  exact List.isChain_iff_getElem.1 (hasNoStepDown_mergeSort records) i h

end OrderSpec

end RecordQuery
