import Mathlib.Order.Defs.LinearOrder
import RecordQuery.Record.Sorting

/-!
# The merge sort

A merge sort does to a list what its merges do to the parts: a relation between lists and their
arrangements that holds of short lists, and that a merge carries over from two lists to their
concatenation, holds between every list and what it is sorted to (`mergeSort_induction`).

The sort is stable.  Stability speaks of places, since a list may hold the same item twice, so it is
stated about items that carry the place where they stood.  Sorting does not look at the places
(`map_mergeSort`), and two items that carry different places are never tied, so an arrangement in
which ties are broken by place is the only one (`IsStableSort.eq`).  The first statements hold of
every comparison, the last ones need one under which no two items precede each other, and a sort
that comes out in order needs a transitive one (`isStableSort_mergeSort`).
-/

namespace RecordQuery

section Merge

variable {α β : Type} (compare : α → α → Ordering)

/-! ### One merge -/

theorem merge_nil_right (lefts : List α) : merge compare lefts [] = lefts := by
  induction lefts with
  | nil => rfl
  | cons left lefts ih => exact congrArg (left :: ·) ih

theorem merge_cons_cons (left right : α) (lefts rights : List α) :
    merge compare (left :: lefts) (right :: rights) =
      if compare right left = .lt then right :: merge compare (left :: lefts) rights
      else left :: merge compare lefts (right :: rights) :=
  rfl

/-- The ways in which a merge goes on: a list is used up, or one of the first elements is taken. -/
theorem merge_induction {motive : List α → List α → Prop}
    (nil_left : ∀ rights, motive [] rights)
    (nil_right : ∀ lefts, motive lefts [])
    (take_right : ∀ left lefts right rights, compare right left = .lt →
      motive (left :: lefts) rights → motive (left :: lefts) (right :: rights))
    (take_left : ∀ left lefts right rights, compare right left ≠ .lt →
      motive lefts (right :: rights) → motive (left :: lefts) (right :: rights))
    (lefts rights : List α) : motive lefts rights := by
  induction lefts generalizing rights with
  | nil => exact nil_left rights
  | cons left lefts ihLeft =>
    induction rights with
    | nil => exact nil_right (left :: lefts)
    | cons right rights ihRight =>
      by_cases hlt : compare right left = .lt
      · exact take_right left lefts right rights hlt ihRight
      · exact take_left left lefts right rights hlt (ihLeft (right :: rights))

theorem perm_merge (lefts rights : List α) :
    (merge compare lefts rights).Perm (lefts ++ rights) := by
  induction lefts, rights using merge_induction compare with
  | nil_left rights => exact List.Perm.refl rights
  | nil_right lefts => rw [merge_nil_right, List.append_nil]
  | take_right left lefts right rights hlt ih =>
    rw [merge_cons_cons, if_pos hlt]
    exact (ih.cons right).trans List.perm_middle.symm
  | take_left left lefts right rights hlt ih =>
    rw [merge_cons_cons, if_neg hlt]
    exact ih.cons left

theorem forall_mem_merge {p : α → Prop} {lefts rights : List α} (hlefts : ∀ a ∈ lefts, p a)
    (hrights : ∀ a ∈ rights, p a) : ∀ a ∈ merge compare lefts rights, p a := by
  intro a ha
  rcases List.mem_append.1 ((perm_merge compare lefts rights).mem_iff.1 ha) with hleft | hright
  · exact hlefts a hleft
  · exact hrights a hright

/-- Nothing of the second list overtakes what it is not less than. -/
theorem merge_eq_append {lefts rights : List α}
    (h : ∀ a ∈ lefts, ∀ b ∈ rights, compare b a ≠ .lt) :
    merge compare lefts rights = lefts ++ rights := by
  induction lefts, rights using merge_induction compare with
  | nil_left rights => rfl
  | nil_right lefts => rw [merge_nil_right, List.append_nil]
  | take_right left lefts right rights hlt ih =>
    exact absurd hlt (h left List.mem_cons_self right List.mem_cons_self)
  | take_left left lefts right rights hlt ih =>
    rw [merge_cons_cons, if_neg hlt, List.cons_append,
      ih fun a ha => h a (List.mem_cons_of_mem left ha)]

/-- Merging looks at the elements through the comparison only. -/
theorem map_merge (f : β → α) (lefts rights : List β) :
    (merge (fun a b => compare (f a) (f b)) lefts rights).map f =
      merge compare (lefts.map f) (rights.map f) := by
  induction lefts, rights using merge_induction (fun a b => compare (f a) (f b)) with
  | nil_left rights => rfl
  | nil_right lefts => rw [merge_nil_right, List.map_nil, merge_nil_right]
  | take_right left lefts right rights hlt ih =>
    rw [merge_cons_cons, if_pos hlt, List.map_cons, ih]
    exact (if_pos hlt).symm
  | take_left left lefts right rights hlt ih =>
    rw [merge_cons_cons, if_neg hlt, List.map_cons, ih]
    exact (if_neg hlt).symm

/-! ### All merges of a sort -/

/-- What holds of short lists and is carried on by merges holds of the whole sort. -/
theorem mergeSort_induction {motive : List α → List α → Prop}
    (short : ∀ items, items.length < 2 → motive items items)
    (merged : ∀ first second first' second', motive first first' → motive second second' →
      motive (first ++ second) (merge compare first' second'))
    (items : List α) : motive items (mergeSort compare items) := by
  suffices ∀ fuel, ∀ items : List α, items.length ≤ fuel →
      motive items (mergeSortUpTo compare fuel items) from this _ items (Nat.le_refl _)
  intro fuel
  induction fuel with
  | zero =>
    intro items hfuel
    exact short items (by omega)
  | succ fuel ih =>
    intro items hfuel
    by_cases hshort : items.length < 2
    · rw [mergeSortUpTo, if_pos hshort]
      exact short items hshort
    · have hfirst := ih (items.take (items.length / 2)) (by rw [List.length_take]; omega)
      have hsecond := ih (items.drop (items.length / 2)) (by rw [List.length_drop]; omega)
      have hstep := merged _ _ _ _ hfirst hsecond
      rw [List.take_append_drop] at hstep
      rw [mergeSortUpTo, if_neg hshort]
      exact hstep

theorem perm_mergeSort (items : List α) : (mergeSort compare items).Perm items := by
  induction items using mergeSort_induction compare with
  | short items hshort => exact List.Perm.refl items
  | merged first second first' second' hfirst hsecond =>
    exact (perm_merge compare first' second').trans (hfirst.append hsecond)

theorem map_mergeSort (f : β → α) (items : List β) :
    (mergeSort (fun a b => compare (f a) (f b)) items).map f = mergeSort compare (items.map f) := by
  suffices ∀ fuel, ∀ items : List β,
      (mergeSortUpTo (fun a b => compare (f a) (f b)) fuel items).map f =
        mergeSortUpTo compare fuel (items.map f) by
    rw [mergeSort, mergeSort, this, List.length_map]
  intro fuel
  induction fuel with
  | zero => exact fun items => rfl
  | succ fuel ih =>
    intro items
    rw [mergeSortUpTo, mergeSortUpTo, List.length_map]
    split
    · rfl
    · rw [map_merge, ih, ih, List.map_take, List.map_drop]

/-- What is in order already is left as it is. -/
theorem mergeSort_eq_self {items : List α} (h : items.Pairwise fun a b => compare b a ≠ .lt) :
    mergeSort compare items = items := by
  induction items using mergeSort_induction compare with
  | short items hshort => rfl
  | merged first second first' second' hfirst hsecond =>
    obtain ⟨hleft, hright, hacross⟩ := List.pairwise_append.1 h
    rw [hfirst hleft, hsecond hright, merge_eq_append compare hacross]

/-! ### Stable arrangements -/

/-- Of two items with the places where they stood, the first is the one to come first: it is not
greater, and if the two are equal, it stood first. -/
def Precedes (a b : α × Nat) : Prop :=
  compare a.1 b.1 ≠ .gt ∧ (compare a.1 b.1 = .eq → a.2 < b.2)

/-- The second list is the first one in stable order: it has the same items, and each item, together
with the place where it stood, precedes all that come after it. -/
def IsStableSort (items sorted : List α) : Prop :=
  ∃ placed : List (α × Nat), placed.Perm items.zipIdx ∧ placed.map Prod.fst = sorted ∧
    placed.Pairwise (Precedes compare)

variable {compare}

theorem precedes_iff {a b : α × Nat} :
    Precedes compare a b ↔ compare a.1 b.1 = .lt ∨ compare a.1 b.1 = .eq ∧ a.2 < b.2 := by
  unfold Precedes
  cases compare a.1 b.1 <;> simp

theorem Precedes.asymm [Std.OrientedCmp compare] {a b : α × Nat} (h : Precedes compare a b) :
    ¬ Precedes compare b a := by
  intro h'
  rcases precedes_iff.1 h with hlt | ⟨heq, hplace⟩
  · exact h'.1 (Std.OrientedCmp.gt_of_lt hlt)
  · have hplace' := h'.2 (Std.OrientedCmp.eq_comm.1 heq)
    omega

theorem Precedes.trans [Std.TransCmp compare] {a b c : α × Nat} (hab : Precedes compare a b)
    (hbc : Precedes compare b c) : Precedes compare a c := by
  rw [precedes_iff] at hab hbc ⊢
  rcases hab with hab | ⟨hab, hplace⟩
  · rcases hbc with hbc | ⟨hbc, -⟩
    · exact Or.inl (Std.TransCmp.lt_trans hab hbc)
    · exact Or.inl (Std.TransCmp.lt_of_lt_of_eq hab hbc)
  · rcases hbc with hbc | ⟨hbc, hplace'⟩
    · exact Or.inl (Std.TransCmp.lt_of_eq_of_lt hab hbc)
    · exact Or.inr ⟨Std.TransCmp.eq_trans hab hbc, Nat.lt_trans hplace hplace'⟩

theorem IsStableSort.perm {items sorted : List α} (h : IsStableSort compare items sorted) :
    sorted.Perm items := by
  obtain ⟨placed, hperm, rfl, -⟩ := h
  have hitems := hperm.map Prod.fst
  rwa [List.zipIdx_map_fst] at hitems

/-- A list has one stable arrangement at most. -/
theorem IsStableSort.eq [Std.OrientedCmp compare] {items sorted sorted' : List α}
    (h : IsStableSort compare items sorted) (h' : IsStableSort compare items sorted') :
    sorted = sorted' := by
  obtain ⟨placed, hperm, rfl, hordered⟩ := h
  obtain ⟨placed', hperm', rfl, hordered'⟩ := h'
  have hplaced : placed = placed' :=
    List.Perm.eq_of_pairwise (fun a b _ _ hab hba => absurd hba hab.asymm) hordered hordered'
      (hperm.trans hperm'.symm)
  rw [hplaced]

/-- A stable arrangement by what `f` shows of the items is one of what it shows. -/
theorem IsStableSort.map {f : β → α} {items sorted : List β}
    (h : IsStableSort (fun a b => compare (f a) (f b)) items sorted) :
    IsStableSort compare (items.map f) (sorted.map f) := by
  obtain ⟨placed, hperm, rfl, hordered⟩ := h
  refine ⟨placed.map (Prod.map f id), ?_, ?_, List.pairwise_map.2 hordered⟩
  · rw [List.zipIdx_map]
    exact hperm.map _
  · rw [List.map_map, List.map_map]
    rfl

/-- In a stable arrangement no item is greater than a later one, and what held between the items in
their order still holds between those that are equal. -/
theorem IsStableSort.pairwise {R : α → α → Prop} {items sorted : List α}
    (h : IsStableSort compare items sorted) (hitems : items.Pairwise R) :
    sorted.Pairwise fun a b => compare a b ≠ .gt ∧ (compare a b = .eq → R a b) := by
  obtain ⟨placed, hperm, rfl, hordered⟩ := h
  refine List.pairwise_map.2 (hordered.imp_of_mem ?_)
  intro a b ha hb hprecedes
  refine ⟨hprecedes.1, fun heq => ?_⟩
  obtain ⟨-, hplace, hitem⟩ := List.mem_zipIdx (hperm.mem_iff.1 ha)
  obtain ⟨-, hplace', hitem'⟩ := List.mem_zipIdx (hperm.mem_iff.1 hb)
  rw [hitem, hitem']
  exact List.pairwise_iff_getElem.1 hitems _ _ _ _ (by simpa using hprecedes.2 heq)

/-! ### Stability -/

/-- Merging keeps the order of items with their places, if those of the first list stood before
those of the second. -/
theorem pairwise_merge [Std.TransCmp compare] {lefts rights : List (α × Nat)}
    (hlefts : lefts.Pairwise (Precedes compare)) (hrights : rights.Pairwise (Precedes compare))
    (hplaces : ∀ a ∈ lefts, ∀ b ∈ rights, a.2 < b.2) :
    (merge (fun a b => compare a.1 b.1) lefts rights).Pairwise (Precedes compare) := by
  induction lefts, rights using merge_induction (fun a b : α × Nat => compare a.1 b.1) with
  | nil_left rights => exact hrights
  | nil_right lefts => rwa [merge_nil_right]
  | take_right left lefts right rights hlt ih =>
    rw [merge_cons_cons, if_pos hlt]
    have hright : Precedes compare right left := precedes_iff.2 (Or.inl hlt)
    obtain ⟨hleft, -⟩ := List.pairwise_cons.1 hlefts
    obtain ⟨hfirst, hrest⟩ := List.pairwise_cons.1 hrights
    refine List.Pairwise.cons ?_ (ih hlefts hrest fun a ha b hb =>
      hplaces a ha b (List.mem_cons_of_mem right hb))
    apply forall_mem_merge
    · exact List.forall_mem_cons.2 ⟨hright, fun a ha => hright.trans (hleft a ha)⟩
    · exact hfirst
  | take_left left lefts right rights hlt ih =>
    rw [merge_cons_cons, if_neg hlt]
    -- a tie goes to the left, where the places are smaller
    have hleft : Precedes compare left right :=
      ⟨fun hgt => hlt (Std.OrientedCmp.lt_of_gt hgt),
        fun _ => hplaces left List.mem_cons_self right List.mem_cons_self⟩
    obtain ⟨hfirst, hrest⟩ := List.pairwise_cons.1 hlefts
    obtain ⟨hright, -⟩ := List.pairwise_cons.1 hrights
    refine List.Pairwise.cons ?_ (ih hrest hrights fun a ha b hb =>
      hplaces a (List.mem_cons_of_mem left ha) b hb)
    apply forall_mem_merge
    · exact hfirst
    · exact List.forall_mem_cons.2 ⟨hleft, fun a ha => hleft.trans (hright a ha)⟩

/-- What merges keep between items with their places, if those of the first list stood before those
of the second, holds between all items of the sorted list. -/
theorem pairwise_mergeSort_of_merge {R : α × Nat → α × Nat → Prop} {items : List (α × Nat)}
    (hmerge : ∀ lefts rights : List (α × Nat), (∀ a ∈ lefts, a ∈ items) → lefts.Pairwise R →
      rights.Pairwise R → (∀ a ∈ lefts, ∀ b ∈ rights, a.2 < b.2) →
      (merge (fun a b => compare a.1 b.1) lefts rights).Pairwise R)
    (h : items.Pairwise fun a b => a.2 < b.2) :
    (mergeSort (fun a b => compare a.1 b.1) items).Pairwise R := by
  -- that a part is a permutation says which places are in it
  have hparts : ∀ part : List (α × Nat), (∀ a ∈ part, a ∈ items) →
      part.Pairwise (fun a b => a.2 < b.2) →
      (mergeSort (fun a b => compare a.1 b.1) part).Perm part ∧
        (mergeSort (fun a b => compare a.1 b.1) part).Pairwise R := by
    intro part
    induction part using mergeSort_induction (fun a b : α × Nat => compare a.1 b.1) with
    | short part hshort =>
      intro _ _
      match part, hshort with
      | [], _ => exact ⟨List.Perm.refl _, List.Pairwise.nil⟩
      | [a], _ => exact ⟨List.Perm.refl _, List.pairwise_singleton R a⟩
    | merged first second first' second' hfirst hsecond =>
      intro hmem hplaces
      obtain ⟨hleft, hright, hacross⟩ := List.pairwise_append.1 hplaces
      obtain ⟨hperm, hordered⟩ := hfirst (fun a ha => hmem a (List.mem_append_left _ ha)) hleft
      obtain ⟨hperm', hordered'⟩ := hsecond (fun a ha => hmem a (List.mem_append_right _ ha)) hright
      refine ⟨(perm_merge _ first' second').trans (hperm.append hperm'), ?_⟩
      apply hmerge first' second' _ hordered hordered'
      · exact fun a ha b hb => hacross a (hperm.mem_iff.1 ha) b (hperm'.mem_iff.1 hb)
      · exact fun a ha => hmem a (List.mem_append_left _ (hperm.mem_iff.1 ha))
  exact (hparts items (fun a ha => ha) h).2

/-- Items that stand in the order of their places are sorted into the order of precedence. -/
theorem pairwise_mergeSort [Std.TransCmp compare] {items : List (α × Nat)}
    (h : items.Pairwise fun a b => a.2 < b.2) :
    (mergeSort (fun a b => compare a.1 b.1) items).Pairwise (Precedes compare) :=
  pairwise_mergeSort_of_merge (fun _ _ _ hlefts hrights hplaces =>
    pairwise_merge hlefts hrights hplaces) h

theorem pairwise_zipIdx (items : List α) : items.zipIdx.Pairwise fun a b => a.2 < b.2 := by
  have hplaces : (items.zipIdx.map Prod.snd).Pairwise (· < ·) := by
    rw [List.zipIdx_map_snd]
    exact List.pairwise_lt_range'
  exact List.pairwise_map.1 hplaces

/-- The merge sort is stable. -/
theorem isStableSort_mergeSort [Std.TransCmp compare] (items : List α) :
    IsStableSort compare items (mergeSort compare items) := by
  refine ⟨mergeSort (fun a b => compare a.1 b.1) items.zipIdx, perm_mergeSort _ _, ?_, ?_⟩
  · rw [map_mergeSort, List.zipIdx_map_fst]
  · exact pairwise_mergeSort (pairwise_zipIdx items)

end Merge

end RecordQuery
