import RecordQuery.Proofs.Sorting.Comparison
import RecordQuery.Proofs.Sorting.MergeSort

/-!
# Records without the sort field

Under an order by one field, a record that lacks the field is equal to all others.  It is meant to
stay where it is among them, and in one direction it does: nothing that stood before such a record
comes out behind it.

In the other direction it does not (`OrderSpec.sort_displaces_lacking`).  In the merge of two halves
a record of the second half passes by whatever of the first half stands at or behind a greater
record, also by records that it is equal to.  So a record that lacks the field may fall behind
records that stood after it, but behind no others than those that are less than something before it
(`OrderSpec.sortPlaced_lacking`).
-/

namespace RecordQuery

section Merge

variable {α : Type} {compare : α → α → Ordering}

/-- The item is equal to all items, from both sides. -/
def IsNeutral (compare : α → α → Ordering) (a : α) : Prop :=
  ∀ b, compare a b = .eq ∧ compare b a = .eq

/-- Of two items with the places where they stood, the first may come out before the second: if
either is neutral, it also stood first, or else it stood behind a neutral item and is less than some
item before that. -/
def MayPass (compare : α → α → Ordering) (items : List (α × Nat)) (a b : α × Nat) : Prop :=
  (IsNeutral compare a.1 → a.2 < b.2) ∧
    (IsNeutral compare b.1 →
      a.2 < b.2 ∨ ∃ earlier ∈ items, earlier.2 < b.2 ∧ compare a.1 earlier.1 = .lt)

theorem mayPass_of_lt {items : List (α × Nat)} {a b : α × Nat} (h : a.2 < b.2) :
    MayPass compare items a b :=
  ⟨fun _ => h, fun _ => Or.inl h⟩

/-- What is less than an item may pass by all that this item may pass by. -/
theorem MayPass.of_lt {items : List (α × Nat)} {a left b : α × Nat}
    (htrans : ∀ {x y z}, compare x y = .lt → compare y z = .lt → compare x z = .lt)
    (hleft : left ∈ items) (hlt : compare a.1 left.1 = .lt) (h : MayPass compare items left b) :
    MayPass compare items a b := by
  constructor
  · intro ha
    exact absurd ((ha left.1).1.symm.trans hlt) (by decide)
  · intro hb
    right
    rcases h.2 hb with hplace | ⟨earlier, hmem, hplace, hless⟩
    · exact ⟨left, hleft, hplace, hlt⟩
    · exact ⟨earlier, hmem, hplace, htrans hlt hless⟩

theorem mayPass_of_compare_eq_lt {items : List (α × Nat)} {a b : α × Nat}
    (h : compare a.1 b.1 = .lt) : MayPass compare items a b := by
  constructor
  · intro ha
    exact absurd ((ha b.1).1.symm.trans h) (by decide)
  · intro hb
    exact absurd ((hb a.1).2.symm.trans h) (by decide)

theorem pairwise_mayPass_merge {items lefts rights : List (α × Nat)}
    (htrans : ∀ {x y z}, compare x y = .lt → compare y z = .lt → compare x z = .lt)
    (hitems : ∀ a ∈ lefts, a ∈ items) (hlefts : lefts.Pairwise (MayPass compare items))
    (hrights : rights.Pairwise (MayPass compare items))
    (hplaces : ∀ a ∈ lefts, ∀ b ∈ rights, a.2 < b.2) :
    (merge (fun a b => compare a.1 b.1) lefts rights).Pairwise (MayPass compare items) := by
  induction lefts, rights using merge_induction (fun a b : α × Nat => compare a.1 b.1) with
  | nil_left rights => exact hrights
  | nil_right lefts => rwa [merge_nil_right]
  | take_right left lefts right rights hlt ih =>
    rw [merge_cons_cons, if_pos hlt]
    obtain ⟨hleft, -⟩ := List.pairwise_cons.1 hlefts
    obtain ⟨hfirst, hrest⟩ := List.pairwise_cons.1 hrights
    refine List.Pairwise.cons ?_ (ih hitems hlefts hrest fun a ha b hb =>
      hplaces a ha b (List.mem_cons_of_mem right hb))
    apply forall_mem_merge
    · exact List.forall_mem_cons.2 ⟨mayPass_of_compare_eq_lt hlt, fun b hb =>
        (hleft b hb).of_lt htrans (hitems left List.mem_cons_self) hlt⟩
    · exact hfirst
  | take_left left lefts right rights hlt ih =>
    rw [merge_cons_cons, if_neg hlt]
    obtain ⟨hfirst, hrest⟩ := List.pairwise_cons.1 hlefts
    refine List.Pairwise.cons ?_ (ih (fun a ha => hitems a (List.mem_cons_of_mem left ha)) hrest
      hrights fun a ha b hb => hplaces a (List.mem_cons_of_mem left ha) b hb)
    apply forall_mem_merge
    · exact hfirst
    · exact fun b hb => mayPass_of_lt (hplaces left List.mem_cons_self b hb)

theorem pairwise_mayPass_mergeSort {items : List (α × Nat)}
    (htrans : ∀ {x y z}, compare x y = .lt → compare y z = .lt → compare x z = .lt)
    (h : items.Pairwise fun a b => a.2 < b.2) :
    (mergeSort (fun a b => compare a.1 b.1) items).Pairwise (MayPass compare items) :=
  pairwise_mergeSort_of_merge (fun _ _ hitems hlefts hrights hplaces =>
    pairwise_mayPass_merge htrans hitems hlefts hrights hplaces) h

end Merge

namespace OrderSpec

/-- The records as they are sorted, each with the place where it stood. -/
def sortPlaced (spec : OrderSpec) (records : List Record) : List (Record × Nat) :=
  mergeSort (fun a b => spec.compare a.1 b.1) records.zipIdx

theorem map_fst_sortPlaced (spec : OrderSpec) (records : List Record) :
    (spec.sortPlaced records).map Prod.fst = spec.sort records := by
  rw [sortPlaced, map_mergeSort, List.zipIdx_map_fst]
  rfl

theorem perm_sortPlaced (spec : OrderSpec) (records : List Record) :
    (spec.sortPlaced records).Perm records.zipIdx :=
  perm_mergeSort _ _

/-- Sorting by one field takes no record that lacks it before one that stood before it, and takes it
behind a record that stood after it only if this one is less than some record before the two. -/
theorem sortPlaced_lacking {spec : OrderSpec} {field : String} {direction : Direction}
    (h : spec.entries = [(field, direction)]) (records : List Record) :
    (spec.sortPlaced records).map Prod.fst = spec.sort records ∧
      (spec.sortPlaced records).Perm records.zipIdx ∧
      (spec.sortPlaced records).Pairwise fun a b =>
        (a.1.get? field = none → a.2 < b.2) ∧
          (b.1.get? field = none → a.2 < b.2 ∨
            ∃ earlier ∈ records.zipIdx, earlier.2 < b.2 ∧ spec.compare a.1 earlier.1 = .lt) := by
  have hneutral : ∀ a : Record, a.get? field = none → IsNeutral spec.compare a :=
    fun a ha b => compare_of_lacks h ha b
  have hpassed : (spec.sortPlaced records).Pairwise (MayPass spec.compare records.zipIdx) :=
    pairwise_mayPass_mergeSort (compare_lt_trans_of_entries h) (pairwise_zipIdx records)
  refine ⟨map_fst_sortPlaced spec records, perm_sortPlaced spec records, hpassed.imp ?_⟩
  intro a b hab
  exact ⟨fun ha => hab.1 (hneutral a.1 ha), fun hb => hab.2 (hneutral b.1 hb)⟩

def sized (size : Nat) : Record := .ofList [("size", .number (.ofInt size))]

def unsized : Record := .ofList [("name", .string "x")]

/-- The record without a size comes out behind the least one, which stood after it and is less than
the one before it. -/
theorem sortPlaced_lacking_overtaken :
    let spec : OrderSpec := .ofList [("size", .ascending)]
    let records := [sized 3, unsized, sized 1, sized 4]
    spec.entries = [("size", .ascending)] ∧
      spec.sortPlaced records = [(sized 1, 2), (sized 3, 0), (unsized, 1), (sized 4, 3)] ∧
      (spec.sortPlaced records).Pairwise fun a b =>
        (a.1.get? "size" = none → a.2 < b.2) ∧
          (b.1.get? "size" = none → a.2 < b.2 ∨
            ∃ earlier ∈ records.zipIdx, earlier.2 < b.2 ∧ spec.compare a.1 earlier.1 = .lt) := by
  intro spec records
  have hsingle : spec.entries = [("size", .ascending)] := by decide +kernel
  exact ⟨hsingle, by decide +kernel, (sortPlaced_lacking hsingle records).2.2⟩

/-- Sorting does not keep a record without the field in its order relative to all others. -/
theorem sort_displaces_lacking :
    let spec : OrderSpec := .ofList [("size", .ascending)]
    let records := [sized 3, unsized, sized 1, sized 4]
    spec.sort records = [sized 1, sized 3, unsized, sized 4] ∧
      ¬ (spec.sortPlaced records).Pairwise fun a b =>
        a.1.get? "size" = none ∨ b.1.get? "size" = none → a.2 < b.2 := by
  decide +kernel

end OrderSpec

end RecordQuery
