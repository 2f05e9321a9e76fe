import RecordQuery.Proofs.FieldMap
import RecordQuery.Proofs.Matching.Comparisons
import RecordQuery.Proofs.Sorting.Stability

/-!
# Sorted records and comparisons

Records that hold values of one kind in a field and are sorted by it stand in the order that the
comparison operators ask for (`OrderSpec.sort_eq_blocks`): upwards, those that are less than a
literal come first, those equal to it next and the greater ones last, and downwards the other way
round.

The order among stored values and the order of a value and a literal are two matches on types.  They
agree, a literal having its place where the value that it names has it (`Value.compareLiteral?_eq`).
So a record that holds this value can stand for the literal, and what is left is that a sorted list
falls into the records before a given one, those tied with it and those behind it, under any keys
(`OrderSpec.sort_eq_sides`).
-/

namespace RecordQuery

/-! ### Literals as stored values -/

namespace Literal

/-- The value that a scalar names. -/
def stored? : Literal → Option Value
  | number n => some (.number n)
  | boolean b => some (.boolean b)
  | string s => some (.string s)
  | date t => some (.date t)
  | strings _ => none

/-- The kind of a literal; lists and `nan` are of none. -/
def kind? (literal : Literal) : Option Kind := literal.stored?.bind Value.kind?

theorem isList_of_kind? {literal : Literal} {kind : Kind} (h : literal.kind? = some kind) :
    literal.isList = false := by
  cases literal with
  | strings items => cases h
  | _ => rfl

end Literal

namespace Value

theorem compareLiteral?_eq (v : Value) (literal : Literal) :
    v.compareLiteral? literal = literal.stored?.bind v.compare? := by
  cases v <;> cases literal <;> rfl

theorem exists_compare?_eq {v w : Value} {kind : Kind} (hv : v.kind? = some kind)
    (hw : w.kind? = some kind) : ∃ o, v.compare? w = some o := by
  have hv := eq_of_kind? hv
  have hw := eq_of_kind? hw
  cases kind with
  | number =>
    obtain ⟨_, _, rfl⟩ := hv
    obtain ⟨_, _, rfl⟩ := hw
    exact ⟨_, rfl⟩
  | boolean =>
    obtain ⟨_, rfl⟩ := hv
    obtain ⟨_, rfl⟩ := hw
    exact ⟨_, rfl⟩
  | string =>
    obtain ⟨_, rfl⟩ := hv
    obtain ⟨_, rfl⟩ := hw
    exact ⟨_, rfl⟩
  | date =>
    obtain ⟨_, rfl⟩ := hv
    obtain ⟨_, rfl⟩ := hw
    exact ⟨_, rfl⟩

end Value

/-! ### Operators and orders -/

namespace Operator

/-- The operator that asks for an order. -/
def ofOrdering : Ordering → Operator
  | .lt => lt
  | .eq => eq
  | .gt => gt

theorem isComparison_ofOrdering (o : Ordering) : (ofOrdering o).isComparison = true := by
  cases o <;> rfl

theorem admits_ofOrdering (o o' : Ordering) :
    (ofOrdering o).admits (some o') = decide (o' = o) := by
  cases o <;> cases o' <;> rfl

end Operator

theorem Direction.turn_eq_iff {direction : Direction} {o o' : Ordering} :
    direction.turn o = o' ↔ o = direction.turn o' := by
  cases direction <;> cases o <;> cases o' <;> decide

/-- Which of the three comparisons with a literal a record meets is how its value stands to the one
that the literal names. -/
theorem Record.meets_ofOrdering {r : Record} {field : String} {literal : Literal} {kind : Kind}
    {w : Value} (hr : (r.get? field).bind Value.kind? = some kind) (hw : w.kind? = some kind)
    (hliteral : literal.stored? = some w) (o : Ordering) :
    r.meets field (.ofOrdering o) literal =
      decide (OrderSpec.compareValues (r.get? field) (some w) = o) := by
  obtain ⟨v, hget, hv⟩ := Option.bind_eq_some_iff.1 hr
  obtain ⟨o', ho'⟩ := Value.exists_compare?_eq hv hw
  have hkind : literal.kind? = some kind := by rw [Literal.kind?, hliteral, Option.bind_some, hw]
  rw [meets_eq_admits hget (Operator.isComparison_ofOrdering o) (Literal.isList_of_kind? hkind),
    Value.compareLiteral?_eq, hliteral, Option.bind_some, ho', Operator.admits_ofOrdering, hget,
    OrderSpec.compareValues, ho', Option.getD_some]

/-! ### The sides of a record -/

/-- Items that never go back to an earlier side stand side by side. -/
theorem eq_sides_of_pairwise {α : Type} {side : α → Ordering} {items : List α}
    (h : items.Pairwise fun a b => (side b = .lt → side a = .lt) ∧ (side a = .gt → side b = .gt)) :
    items = items.filter (side · = .lt) ++ items.filter (side · = .eq) ++
      items.filter (side · = .gt) := by
  induction items with
  | nil => rfl
  | cons a items ih =>
    obtain ⟨hbefore, hitems⟩ := List.pairwise_cons.1 h
    have hrest := ih hitems
    cases ha : side a with
    | lt => simpa [ha] using hrest
    | eq =>
      have hlt : items.filter (side · = .lt) = [] := by
        refine List.filter_eq_nil_iff.2 fun b hb => ?_
        intro hside
        exact absurd (ha.symm.trans ((hbefore b hb).1 (of_decide_eq_true hside))) (by decide)
      rw [hlt, List.nil_append] at hrest
      simpa [ha, hlt] using hrest
    | gt =>
      have hgt : ∀ b ∈ items, side b = .gt := fun b hb => (hbefore b hb).2 ha
      have hlt : items.filter (side · = .lt) = [] :=
        List.filter_eq_nil_iff.2 fun b hb => by simp [hgt b hb]
      have heq : items.filter (side · = .eq) = [] :=
        List.filter_eq_nil_iff.2 fun b hb => by simp [hgt b hb]
      rw [hlt, heq, List.nil_append, List.nil_append] at hrest
      simpa [ha, hlt, heq] using hrest

/-- What is not greater than another item stands on no later side of a third one. -/
theorem sides_of_ne_gt {α : Type} (compare : α → α → Ordering) [Std.TransCmp compare]
    (a b pivot : α) (h : compare a b ≠ .gt) :
    (compare b pivot = .lt → compare a pivot = .lt) ∧
      (compare a pivot = .gt → compare b pivot = .gt) := by
  have hle : (compare a b).isLE = true := Ordering.isLE_iff_ne_gt.2 h
  constructor
  · intro hb
    exact Std.TransCmp.lt_of_isLE_of_lt hle hb
  · intro ha
    rw [Std.OrientedCmp.gt_iff_lt] at ha ⊢
    exact Std.TransCmp.lt_of_lt_of_isLE ha hle

namespace OrderSpec

/-- Sorted records stand before, beside and behind any record that is comparable with them. -/
theorem sort_eq_sides {spec : OrderSpec} {pivot : Record} {records : List Record}
    (h : spec.Compares (pivot :: records)) :
    spec.sort records =
      (spec.sort records).filter (fun r => spec.compare r pivot = .lt) ++
        (spec.sort records).filter (fun r => spec.compare r pivot = .eq) ++
        (spec.sort records).filter (fun r => spec.compare r pivot = .gt) := by
  have hrecords : spec.Compares records := by
    intro field hfield
    obtain ⟨kind, hkind⟩ := h field hfield
    exact ⟨kind, fun r hr => hkind r (List.mem_cons_of_mem pivot hr)⟩
  have htrans : Std.TransCmp fun a b : { r // r ∈ pivot :: records } => spec.compare a.1 b.1 :=
    transCmp_members fun key hkey => h key.1 (List.mem_map_of_mem hkey)
  have hstable := isStableSort_sort hrecords
  have hmem : ∀ r ∈ spec.sort records, r ∈ pivot :: records :=
    fun r hr => List.mem_cons_of_mem pivot (hstable.perm.mem_iff.1 hr)
  have hsorted := hstable.pairwise (List.pairwise_of_forall fun _ _ => trivial)
  apply eq_sides_of_pairwise
  refine hsorted.imp_of_mem ?_
  rintro a b ha hb ⟨hab, -⟩
  exact sides_of_ne_gt (fun a b : { r // r ∈ pivot :: records } => spec.compare a.1 b.1)
    ⟨a, hmem a ha⟩ ⟨b, hmem b hb⟩ ⟨pivot, List.mem_cons_self⟩ hab

/-- Records sorted by a field stand in the three blocks that a literal makes. -/
theorem sort_eq_meeting {field : String} {kind : Kind} {literal : Literal} {records : List Record}
    (direction : Direction)
    (hrecords : ∀ r ∈ records, (r.get? field).bind Value.kind? = some kind)
    (hliteral : literal.kind? = some kind) :
    let sorted := sort (.ofList [(field, direction)]) records
    let meeting (o : Ordering) :=
      sorted.filter fun r => r.meets field (.ofOrdering (direction.turn o)) literal
    sorted = meeting .lt ++ meeting .eq ++ meeting .gt := by
  obtain ⟨w, hstored, hw⟩ := Option.bind_eq_some_iff.1 hliteral
  -- a record with nothing but the value of the literal stands for it
  let spec : OrderSpec := .ofList [(field, direction)]
  let pivot : Record := .ofList [(field, w)]
  have hpivot : pivot.get? field = some w := by rw [FieldMap.get?_ofList_singleton, if_pos rfl]
  have hcompares : spec.Compares (pivot :: records) := by
    intro field' hfield
    obtain rfl : field' = field := List.mem_singleton.1 hfield
    refine ⟨kind, List.forall_mem_cons.2 ⟨?_, hrecords⟩⟩
    rw [hpivot, Option.bind_some, hw]
  have hside : ∀ o, (spec.sort records).filter (fun r => spec.compare r pivot = o) =
      (spec.sort records).filter fun r =>
        r.meets field (.ofOrdering (direction.turn o)) literal := by
    intro o
    apply List.filter_congr
    intro r hr
    have hr : r ∈ records := (perm_mergeSort _ _).mem_iff.1 hr
    rw [Record.meets_ofOrdering (hrecords r hr) hw hstored, compare_of_entries rfl, hpivot]
    exact decide_eq_decide.2 Direction.turn_eq_iff
  have hsides := sort_eq_sides hcompares
  rwa [hside, hside, hside] at hsides

/-- Records sorted upwards by a field stand in the order *less*, *equal*, *greater* with regard to
every literal of the kind of its values, and sorted downwards in the opposite one. -/
theorem sort_eq_blocks (field : String) (kind : Kind) (literal : Literal) (records : List Record)
    (hrecords : ∀ r ∈ records, (r.get? field).bind Value.kind? = some kind)
    (hliteral : literal.kind? = some kind) :
    let upwards := sort (.ofList [(field, .ascending)]) records
    let downwards := sort (.ofList [(field, .descending)]) records
    (upwards.Perm records ∧ upwards =
        upwards.filter (fun r => r.meets field .lt literal) ++
          upwards.filter (fun r => r.meets field .eq literal) ++
          upwards.filter (fun r => r.meets field .gt literal)) ∧
      (downwards.Perm records ∧ downwards =
        downwards.filter (fun r => r.meets field .gt literal) ++
          downwards.filter (fun r => r.meets field .eq literal) ++
          downwards.filter (fun r => r.meets field .lt literal)) := by
  intro upwards downwards
  constructor
  · exact ⟨perm_mergeSort _ _, sort_eq_meeting .ascending hrecords hliteral⟩
  · exact ⟨perm_mergeSort _ _, sort_eq_meeting .descending hrecords hliteral⟩

/-- Two zeros and a literal that is the negative one. -/
theorem sort_eq_blocks_zeros :
    let zero : Number := .real false .zero
    let minusZero : Number := .real true .zero
    let records := [marked (.ofInt 1) "x" 0, marked zero "x" 1, marked (.ofInt (-1)) "x" 2,
      marked minusZero "x" 3]
    let downwards := sort (.ofList [("size", .descending)]) records
    downwards = [marked (.ofInt 1) "x" 0] ++ [marked zero "x" 1, marked minusZero "x" 3] ++
        [marked (.ofInt (-1)) "x" 2] ∧
      downwards =
        downwards.filter (fun r => r.meets "size" .gt (.number minusZero)) ++
          downwards.filter (fun r => r.meets "size" .eq (.number minusZero)) ++
          downwards.filter (fun r => r.meets "size" .lt (.number minusZero)) := by
  intro zero minusZero records downwards
  have hrecords : ∀ r ∈ records, (r.get? "size").bind Value.kind? = some .number := by
    decide +kernel
  obtain ⟨-, -, hblocks⟩ := sort_eq_blocks "size" .number (.number minusZero) records hrecords rfl
  exact ⟨by decide +kernel, hblocks⟩

end OrderSpec

end RecordQuery
