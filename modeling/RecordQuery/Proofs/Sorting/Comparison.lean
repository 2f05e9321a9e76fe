import Mathlib.Order.Defs.LinearOrder
import Mathlib.Tactic.Choose
import RecordQuery.Record.Sorting

/-!
# The order of records

The comparison of two records turns around when the records are exchanged, whatever they hold: what
is missing or has no order is equal to everything from both sides.  It is not transitive in general,
because a record that lacks a key lies on both sides of all others.

It is transitive on records that hold values of one kind under every key (`transCmp_compareBy`).
The kinds are the types of values that have an order, and within a kind each value has a place in a
linear order; what remains is that reversing a key and going on to the next key keep transitivity.

Under a single key, what is strictly less is so transitively for all records, since a record that
lacks the key is neither less nor greater than any (`compare_lt_trans_of_entries`).
-/

namespace RecordQuery

/-- A comparison by keys from a transitive order is transitive. -/
theorem transCmp_of_key {α β : Type} [Ord β] [Std.TransOrd β] {cmp : α → α → Ordering}
    (key : α → β) (h : ∀ a b, cmp a b = compare (key a) (key b)) : Std.TransCmp cmp := by
  have hcmp : cmp = compareOn key := funext fun a => funext fun b => h a b
  rw [hcmp]
  infer_instance

/-! ### Instants -/

namespace Date

instance : Ord Date := ⟨Date.compare⟩

instance : Std.TransOrd Date :=
  inferInstanceAs (Std.TransCmp
    (compareLex (compareOn Date.year) (compareLex (compareOn Date.month) (compareOn Date.day))))

end Date

namespace Instant

instance : Ord Instant := ⟨Instant.compare⟩

instance : Std.TransOrd Instant :=
  inferInstanceAs (Std.TransCmp
    (compareLex (compareOn Instant.date) (compareLex (compareOn second) (compareOn nano))))

end Instant

/-! ### Exchanging sides -/

theorem compare_swap {α : Type} [Ord α] [Std.OrientedOrd α] (a b : α) :
    some (compare b a) = (some (compare a b)).map Ordering.swap :=
  congrArg some Std.OrientedOrd.eq_swap

theorem Number.compare?_swap (a b : Number) : b.compare? a = (a.compare? b).map Ordering.swap := by
  cases a with
  | nan => cases b <;> rfl
  | real negative size =>
    cases b with
    | nan => rfl
    | real negative' size' => exact compare_swap _ _

theorem Value.compare?_swap (a b : Value) : b.compare? a = (a.compare? b).map Ordering.swap := by
  cases a with
  | number m => cases b <;> first | rfl | exact Number.compare?_swap m _
  | boolean x => cases b <;> first | rfl | exact compare_swap x _
  | string s => cases b <;> first | rfl | exact compare_swap s _
  | date t => cases b <;> first | rfl | exact compare_swap t _
  | null => cases b <;> rfl

theorem Direction.swap_turn (direction : Direction) (o : Ordering) :
    (direction.turn o).swap = direction.turn o.swap := by
  cases direction <;> rfl

namespace OrderSpec

theorem compareValues_swap (a b : Option Value) : compareValues b a = (compareValues a b).swap := by
  cases a with
  | none => cases b <;> rfl
  | some a =>
    cases b with
    | none => rfl
    | some b =>
      rw [compareValues, compareValues, Value.compare?_swap]
      cases a.compare? b <;> rfl

theorem compareBy_swap (keys : List (String × Direction)) (a b : Record) :
    compareBy keys b a = (compareBy keys a b).swap := by
  induction keys with
  | nil => rfl
  | cons key keys ih =>
    rw [compareBy, compareBy, Ordering.swap_then, Direction.swap_turn, ← compareValues_swap, ih]

/-- Whatever the records hold, no two of them precede each other. -/
instance (spec : OrderSpec) : Std.OrientedCmp spec.compare :=
  ⟨fun {a b} => compareBy_swap spec.entries b a⟩

end OrderSpec

/-! ### Single keys -/

theorem some_compare_lt_trans {α : Type} [Ord α] [Std.TransOrd α] {a b c : α}
    (hab : some (compare a b) = some .lt) (hbc : some (compare b c) = some .lt) :
    some (compare a c) = some .lt :=
  congrArg some (Std.TransCmp.lt_trans (Option.some.inj hab) (Option.some.inj hbc))

theorem Number.compare?_lt_trans {a b c : Number} (hab : a.compare? b = some .lt)
    (hbc : b.compare? c = some .lt) : a.compare? c = some .lt := by
  cases a with
  | nan => cases hab
  | real negative size =>
    cases b with
    | nan => cases hab
    | real negative' size' =>
      cases c with
      | nan => cases hbc
      | real negative'' size'' => exact some_compare_lt_trans hab hbc

theorem Value.compare?_lt_trans {a b c : Value} (hab : a.compare? b = some .lt)
    (hbc : b.compare? c = some .lt) : a.compare? c = some .lt := by
  -- what has an order is of one type
  cases a with
  | number x =>
    cases b <;> cases c <;> first | cases hab | cases hbc | exact Number.compare?_lt_trans hab hbc
  | boolean x =>
    cases b <;> cases c <;>
      first | cases hab | cases hbc | exact some_compare_lt_trans (a := x) hab hbc
  | string x =>
    cases b <;> cases c <;>
      first | cases hab | cases hbc | exact some_compare_lt_trans (a := x) hab hbc
  | date x =>
    cases b <;> cases c <;>
      first | cases hab | cases hbc | exact some_compare_lt_trans (a := x) hab hbc
  | null => cases hab

namespace OrderSpec

theorem compareValues_eq_lt_iff {a b : Option Value} :
    compareValues a b = .lt ↔ ∃ v w, a = some v ∧ b = some w ∧ v.compare? w = some .lt := by
  cases a with
  | none => simp [compareValues]
  | some v =>
    cases b with
    | none => simp [compareValues]
    | some w => cases h : v.compare? w <;> simp [compareValues, h]

theorem compareValues_lt_trans {a b c : Option Value} (hab : compareValues a b = .lt)
    (hbc : compareValues b c = .lt) : compareValues a c = .lt := by
  obtain ⟨v, w, rfl, rfl, hvw⟩ := compareValues_eq_lt_iff.1 hab
  obtain ⟨w', x, hw, rfl, hwx⟩ := compareValues_eq_lt_iff.1 hbc
  obtain rfl : w = w' := Option.some.inj hw
  exact compareValues_eq_lt_iff.2 ⟨v, x, rfl, rfl, Value.compare?_lt_trans hvw hwx⟩

variable {spec : OrderSpec} {field : String} {direction : Direction}

theorem compare_of_entries (h : spec.entries = [(field, direction)]) (a b : Record) :
    spec.compare a b = direction.turn (compareValues (a.get? field) (b.get? field)) := by
  rw [compare, h, compareBy, compareBy, Ordering.then_eq]

/-- Under a single key *less* is transitive, though *equal* is not. -/
theorem compare_lt_trans_of_entries (h : spec.entries = [(field, direction)]) {a b c : Record}
    (hab : spec.compare a b = .lt) (hbc : spec.compare b c = .lt) : spec.compare a c = .lt := by
  rw [compare_of_entries h] at hab hbc ⊢
  cases direction with
  | ascending => exact compareValues_lt_trans hab hbc
  | descending =>
    simp only [Direction.turn, ← compareValues_swap] at hab hbc ⊢
    exact compareValues_lt_trans hbc hab

/-- A record that lacks the only key is equal to all others. -/
theorem compare_of_lacks (h : spec.entries = [(field, direction)]) {a : Record}
    (ha : a.get? field = none) (b : Record) : spec.compare a b = .eq ∧ spec.compare b a = .eq := by
  have hfront : compareValues none (b.get? field) = .eq := rfl
  have hback : compareValues (b.get? field) none = .eq := by cases b.get? field <;> rfl
  rw [compare_of_entries h, compare_of_entries h, ha, hfront, hback]
  cases direction <;> exact ⟨rfl, rfl⟩

end OrderSpec

/-! ### Values of one kind -/

/-- The types of values that have an order. -/
inductive Kind where
  | number
  | boolean
  | string
  | date
deriving DecidableEq

namespace Value

/-- The kind of a value; null and `nan`, which have no order, are of none. -/
def kind? : Value → Option Kind
  | number .nan => none
  | number (.real _ _) => some .number
  | boolean _ => some .boolean
  | string _ => some .string
  | date _ => some .date
  | null => none

theorem eq_of_kind? {v : Value} {kind : Kind} (h : v.kind? = some kind) :
    match kind with
    | .number => ∃ negative size, v = number (.real negative size)
    | .boolean => ∃ b, v = boolean b
    | .string => ∃ s, v = string s
    | .date => ∃ t, v = date t := by
  rcases v with (_ | ⟨negative, size⟩) | b | s | t | _ <;> cases h
  · exact ⟨negative, size, rfl⟩
  · exact ⟨b, rfl⟩
  · exact ⟨s, rfl⟩
  · exact ⟨t, rfl⟩

end Value

namespace OrderSpec

/-- Under every field of the order the records hold values of one kind. -/
def Compares (spec : OrderSpec) (records : List Record) : Prop :=
  ∀ field ∈ spec.names, ∃ kind, ∀ r ∈ records, (r.get? field).bind Value.kind? = some kind

/-- The values of a kind are compared by their places in a linear order. -/
theorem transCmp_compareValues {α : Type} {value : α → Option Value} {kind : Kind}
    (h : ∀ a, (value a).bind Value.kind? = some kind) :
    Std.TransCmp fun a b => compareValues (value a) (value b) := by
  have hvalue : ∀ a, ∃ v, value a = some v ∧ v.kind? = some kind :=
    fun a => Option.bind_eq_some_iff.1 (h a)
  choose v hv hkind using hvalue
  simp only [hv]
  cases kind with
  | number =>
    have hnumber : ∀ a, ∃ negative size, v a = .number (.real negative size) :=
      fun a => Value.eq_of_kind? (hkind a)
    choose negative size hnumber using hnumber
    apply transCmp_of_key fun a => if negative a then -((size a).code : Int) else (size a).code
    intro a b
    rw [hnumber, hnumber]
    rfl
  | boolean =>
    have hboolean : ∀ a, ∃ b, v a = .boolean b := fun a => Value.eq_of_kind? (hkind a)
    choose truth hboolean using hboolean
    apply transCmp_of_key truth
    intro a b
    rw [hboolean, hboolean]
    rfl
  | string =>
    have hstring : ∀ a, ∃ s, v a = .string s := fun a => Value.eq_of_kind? (hkind a)
    choose text hstring using hstring
    apply transCmp_of_key text
    intro a b
    rw [hstring, hstring]
    rfl
  | date =>
    have hdate : ∀ a, ∃ t, v a = .date t := fun a => Value.eq_of_kind? (hkind a)
    choose instant hdate using hdate
    apply transCmp_of_key instant
    intro a b
    rw [hdate, hdate]
    rfl

theorem transCmp_turn {α : Type} (direction : Direction) (cmp : α → α → Ordering)
    [Std.TransCmp cmp] : Std.TransCmp fun a b => direction.turn (cmp a b) := by
  cases direction with
  | ascending => exact inferInstanceAs (Std.TransCmp cmp)
  | descending =>
    have hopposite : (fun a b => Direction.descending.turn (cmp a b)) = fun a b => cmp b a :=
      funext fun a => funext fun b => Std.OrientedCmp.eq_swap.symm
    rw [hopposite]
    exact Std.TransCmp.opposite

/-- Key after key, each turned as its direction says. -/
theorem transCmp_compareBy {α : Type} {record : α → Record} {keys : List (String × Direction)}
    (h : ∀ key ∈ keys, ∃ kind, ∀ a, ((record a).get? key.1).bind Value.kind? = some kind) :
    Std.TransCmp fun a b => compareBy keys (record a) (record b) := by
  induction keys with
  | nil => exact transCmp_of_key (fun _ => 0) fun a b => rfl
  | cons key keys ih =>
    obtain ⟨field, direction⟩ := key
    obtain ⟨kind, hkind⟩ := h (field, direction) List.mem_cons_self
    have hvalues := transCmp_compareValues hkind
    have hfirst := transCmp_turn direction fun a b =>
      compareValues ((record a).get? field) ((record b).get? field)
    have hrest := ih fun key hkey => h key (List.mem_cons_of_mem _ hkey)
    exact inferInstanceAs (Std.TransCmp (compareLex _ _))

/-- Among the members of a list whose values are of one kind under every key. -/
theorem transCmp_members {keys : List (String × Direction)} {records : List Record}
    (h : ∀ key ∈ keys, ∃ kind, ∀ r ∈ records, (r.get? key.1).bind Value.kind? = some kind) :
    Std.TransCmp fun a b : { r // r ∈ records } => compareBy keys a.1 b.1 := by
  apply transCmp_compareBy
  intro key hkey
  obtain ⟨kind, hkind⟩ := h key hkey
  exact ⟨kind, fun r => hkind r.1 r.2⟩

end OrderSpec

end RecordQuery
