import RecordQuery.Proofs.Sorting.Comparison
import RecordQuery.Proofs.Sorting.MergeSort

/-!
# Sorting comparable records

Records that hold values of one kind under every key of an order are sorted into their stable
arrangement, the one list of them in which no record is greater than a later one and equal records
stand as they stood before.  The direction of a key turns the order and not the ties.

The comparison need not be transitive on all records.  It is so on those of one list, so the merge
sort is looked at as one of members of that list.
-/

namespace RecordQuery.OrderSpec

theorem isStableSort_sort {spec : OrderSpec} {records : List Record} (h : spec.Compares records) :
    IsStableSort spec.compare records (spec.sort records) := by
  have htrans : Std.TransCmp fun a b : { r // r ∈ records } => spec.compare a.1 b.1 := by
    apply transCmp_members
    intro key hkey
    exact h key.1 (List.mem_map_of_mem hkey)
  have hmembers : IsStableSort (fun a b : { r // r ∈ records } => spec.compare a.1 b.1)
      records.attach (mergeSort (fun a b => spec.compare a.1 b.1) records.attach) :=
    isStableSort_mergeSort records.attach
  have hrecords := hmembers.map
  rw [map_mergeSort, List.attach_map_subtype_val] at hrecords
  exact hrecords

/-- Comparable records are sorted into a stable arrangement of them, and there is no other. -/
theorem sort_unique (spec : OrderSpec) (records : List Record) (h : spec.Compares records) :
    (spec.sort records).Perm records ∧
      IsStableSort spec.compare records (spec.sort records) ∧
      ∀ sorted, IsStableSort spec.compare records sorted → sorted = spec.sort records := by
  have hstable := isStableSort_sort h
  exact ⟨hstable.perm, hstable, fun sorted hsorted => hsorted.eq hstable⟩

/-- A record of a number and a string, with a mark to tell it by. -/
def marked (size : Number) (name : String) (mark : Nat) : Record :=
  .ofList [("size", .number size), ("name", .string name), ("mark", .number (.ofInt mark))]

/-- Sizes go downwards, and within a size, where the two zeros are one, names go upwards.  The tie
between the first and the last record leaves them as they stood. -/
theorem sort_unique_zeros :
    let spec : OrderSpec := .ofList [("size", .descending), ("name", .ascending)]
    let zero : Number := .real false .zero
    let minusZero : Number := .real true .zero
    let records := [marked zero "y" 0, marked (.ofInt 1) "y" 1, marked minusZero "x" 2,
      marked minusZero "y" 3]
    spec.Compares records ∧
      spec.sort records = [marked (.ofInt 1) "y" 1, marked minusZero "x" 2, marked zero "y" 0,
        marked minusZero "y" 3] ∧
      IsStableSort spec.compare records (spec.sort records) := by
  intro spec zero minusZero records
  have hcompares : spec.Compares records := by
    have hsize : ∀ r ∈ records, (r.get? "size").bind Value.kind? = some .number := by
      decide +kernel
    have hname : ∀ r ∈ records, (r.get? "name").bind Value.kind? = some .string := by
      decide +kernel
    intro field hfield
    have hnames : spec.names = ["size", "name"] := by decide +kernel
    simp only [hnames, List.mem_cons, List.not_mem_nil, or_false] at hfield
    rcases hfield with rfl | rfl
    · exact ⟨.number, hsize⟩
    · exact ⟨.string, hname⟩
  exact ⟨hcompares, by decide +kernel, (sort_unique spec records hcompares).2.1⟩

end RecordQuery.OrderSpec
