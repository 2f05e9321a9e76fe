import RecordQuery.Proofs.Sorting.Stability

/-!
# Sorting key by key

Sorting by several keys at once is sorting by each of them alone, the last key first
(`OrderSpec.sort_eq_sortKeyByKey`).  A later sort decides between records that differ under its key
and leaves all others as the sorts before it arranged them, since every one of them is stable.

The step is about two comparisons (`mergeSort_mergeSort`) and asks both of them to be transitive.
Among records that lack keys or hold values of several kinds they are not, and there the two ways of
sorting may part (`OrderSpec.exists_sort_ne_sortKeyByKey`).
-/

namespace RecordQuery

section Merge

variable {α : Type} {first second : α → α → Ordering}

/-- Items precede each other by two comparisons in turn as they do by the first one, and where that
ties them, as they do by the second one. -/
theorem precedes_compareLex_iff {a b : α × Nat} :
    Precedes (compareLex first second) a b ↔
      first a.1 b.1 ≠ .gt ∧ (first a.1 b.1 = .eq → Precedes second a b) := by
  unfold Precedes compareLex
  cases first a.1 b.1 <;> simp [Ordering.then]

theorem transCmp_fst {β : Type} (compare : α → α → Ordering) [Std.TransCmp compare] :
    Std.TransCmp fun a b : α × β => compare a.1 b.1 where
  eq_swap := Std.OrientedCmp.eq_swap
  isLE_trans := Std.TransCmp.isLE_trans

/-- A sort after another one sorts by both comparisons, its own one first. -/
theorem mergeSort_mergeSort (first second : α → α → Ordering) [Std.TransCmp first]
    [Std.TransCmp second] (items : List α) :
    mergeSort first (mergeSort second items) = mergeSort (compareLex first second) items := by
  have hlex : Std.TransCmp (compareLex first second) := inferInstance
  have hfirst : Std.TransCmp fun a b : α × Nat => first a.1 b.1 := transCmp_fst first
  -- both sorts are followed on items that carry the places where they stood before either
  have hsecond : (mergeSort (fun a b : α × Nat => second a.1 b.1) items.zipIdx).Pairwise
      (Precedes second) := pairwise_mergeSort (pairwise_zipIdx items)
  have hboth : IsStableSort (compareLex first second) items
      (mergeSort first (mergeSort second items)) := by
    refine ⟨mergeSort (fun a b => first a.1 b.1)
      (mergeSort (fun a b => second a.1 b.1) items.zipIdx), ?_, ?_, ?_⟩
    · exact (perm_mergeSort _ _).trans (perm_mergeSort _ _)
    · rw [map_mergeSort, map_mergeSort, List.zipIdx_map_fst]
    · apply ((isStableSort_mergeSort _).pairwise hsecond).imp
      intro a b hab
      exact precedes_compareLex_iff.2 hab
  exact hboth.eq (isStableSort_mergeSort items)

/-- The two comparisons need to be transitive among the items only. -/
theorem mergeSort_mergeSort_of_members {items : List α}
    (hfirst : Std.TransCmp fun a b : { a // a ∈ items } => first a.1 b.1)
    (hsecond : Std.TransCmp fun a b : { a // a ∈ items } => second a.1 b.1) :
    mergeSort first (mergeSort second items) = mergeSort (compareLex first second) items := by
  have hmembers := congrArg (List.map Subtype.val) (mergeSort_mergeSort
    (fun a b : { a // a ∈ items } => first a.1 b.1) (fun a b => second a.1 b.1) items.attach)
  have hlex := map_mergeSort (compareLex first second) Subtype.val items.attach
  rw [map_mergeSort, map_mergeSort, List.attach_map_subtype_val] at hmembers
  rw [List.attach_map_subtype_val] at hlex
  exact hmembers.trans hlex

end Merge

namespace OrderSpec

theorem compareBy_cons (key : String × Direction) (keys : List (String × Direction)) :
    compareBy (key :: keys) = compareLex (compareBy [key]) (compareBy keys) := by
  funext a b
  rw [compareLex, compareBy, compareBy, compareBy, Ordering.then_eq]

/-- Records that hold values of one kind under every key are sorted by the keys in turn. -/
theorem mergeSort_compareBy {keys : List (String × Direction)} {records : List Record}
    (h : ∀ key ∈ keys, ∃ kind, ∀ r ∈ records, (r.get? key.1).bind Value.kind? = some kind) :
    mergeSort (compareBy keys) records =
      keys.foldr (fun key sorted => mergeSort (compareBy [key]) sorted) records := by
  induction keys with
  | nil => exact mergeSort_eq_self _ (List.pairwise_of_forall fun a b => by simp [compareBy])
  | cons key keys ih =>
    obtain ⟨hkey, hkeys⟩ := List.forall_mem_cons.1 h
    have hfirst : Std.TransCmp fun a b : { r // r ∈ records } => compareBy [key] a.1 b.1 :=
      transCmp_members (List.forall_mem_singleton.2 hkey)
    rw [compareBy_cons, ← mergeSort_mergeSort_of_members hfirst (transCmp_members hkeys), ih hkeys,
      List.foldr_cons]

/-- The records sorted by each key of the order alone, by the last key first. -/
def sortKeyByKey (spec : OrderSpec) (records : List Record) : List Record :=
  spec.entries.foldr (fun key sorted => sort (.ofList [key]) sorted) records

/-- Comparable records are sorted by several keys as by each of them alone, the first key last; and
what the last sort leaves is the stable arrangement by all the keys. -/
theorem sort_eq_sortKeyByKey (spec : OrderSpec) (records : List Record)
    (h : spec.Compares records) :
    spec.sort records = spec.sortKeyByKey records ∧
      IsStableSort spec.compare records (spec.sortKeyByKey records) := by
  have hsort : spec.sort records = spec.sortKeyByKey records := by
    apply mergeSort_compareBy
    intro key hkey
    exact h key.1 (List.mem_map_of_mem hkey)
  exact ⟨hsort, hsort ▸ isStableSort_sort h⟩

/-- Names are put in order before sizes are; the two zeros then tie, and their names keep them in
order. -/
theorem sort_eq_sortKeyByKey_zeros :
    let spec : OrderSpec := .ofList [("size", .descending), ("name", .ascending)]
    let zero : Number := .real false .zero
    let minusZero : Number := .real true .zero
    let records := [marked zero "y" 0, marked (.ofInt 1) "y" 1, marked minusZero "x" 2,
      marked minusZero "y" 3]
    spec.Compares records ∧
      sort (.ofList [("name", .ascending)]) records = [marked minusZero "x" 2, marked zero "y" 0,
        marked (.ofInt 1) "y" 1, marked minusZero "y" 3] ∧
      spec.sortKeyByKey records = [marked (.ofInt 1) "y" 1, marked minusZero "x" 2,
        marked zero "y" 0, marked minusZero "y" 3] ∧
      spec.sort records = spec.sortKeyByKey records := by
  intro spec zero minusZero records
  have hkinds : ∀ field ∈ spec.names, ∀ r ∈ records, (r.get? field).bind Value.kind? =
      some (if field = "size" then .number else .string) := by
    decide +kernel
  have hcompares : spec.Compares records := fun field hfield => ⟨_, hkinds field hfield⟩
  exact ⟨hcompares, by decide +kernel, by decide +kernel,
    (sort_eq_sortKeyByKey spec records hcompares).1⟩

/-- Among records that lack keys two that tie with a third one need not tie, and what a sort by one
key leaves as it was is not in the order of the next. -/
theorem exists_sort_ne_sortKeyByKey :
    ∃ (spec : OrderSpec) (records : List Record), spec.sort records ≠ spec.sortKeyByKey records :=
  ⟨.ofList [("size", .ascending), ("name", .ascending)],
    [.ofList [("name", .string "b")], .ofList [("size", .number (.ofInt 1))],
      .ofList [("size", .number (.ofInt 0)), ("name", .string "a")]], by decide +kernel⟩

end OrderSpec

end RecordQuery
