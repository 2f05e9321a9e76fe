import Mathlib.Logic.Basic
import Mathlib.Order.Defs.LinearOrder
import RecordQuery.Record.Matching

/-!
# Comparisons

The operators that compare a field with a scalar are the cases of one order.  Equality and order are
decided by two matches on types of their own, which agree (`Value.equalsLiteral_eq`), so all six
operators depend on one thing only: how the stored value stands to the literal, if it stands to it
at all (`Record.meets_eq_admits`).  It does exactly if both are of one type and neither is `nan`
(`Value.compareLiteral?_isSome_iff`).

The module ends in what this means for a record (`Record.meets_comparisons`).  Membership in a list
of strings is equality with one of them.
-/

namespace RecordQuery

/-! ### The operators of an order -/

namespace Operator

/-- The operator is one of the six that compare values. -/
def isComparison : Operator → Bool
  | eq | ne => true
  | operator => operator.isOrdering

/-- The operator holds of two values that are in the given order, or in none. -/
def admits : Operator → Option Ordering → Bool
  | eq, order => order == some .eq
  | ne, order => order != some .eq
  | operator, order => order.any (Value.ordered operator)

/-- The comparison operators that hold fit together. -/
structure IsOneOrder (holds : Operator → Bool) : Prop where
  ne_iff : holds ne ↔ ¬ holds eq
  ge_iff : holds ge ↔ holds gt ∨ holds eq
  le_iff : holds le ↔ holds lt ∨ holds eq
  not_lt_and_eq : ¬ (holds lt ∧ holds eq)
  not_eq_and_gt : ¬ (holds eq ∧ holds gt)
  not_lt_and_gt : ¬ (holds lt ∧ holds gt)

theorem isOneOrder_admits (order : Option Ordering) :
    IsOneOrder fun operator => operator.admits order := by
  rcases order with _ | _ | _ | _ <;> constructor <;> decide

theorem admits_lt_or_eq_or_gt_iff {order : Option Ordering} :
    lt.admits order ∨ eq.admits order ∨ gt.admits order ↔ order.isSome = true := by
  rcases order with _ | _ | _ | _ <;> decide

theorem IsOneOrder.congr {holds holds' : Operator → Bool} (h : IsOneOrder holds')
    (heq : ∀ operator, operator.isComparison = true → holds operator = holds' operator) :
    IsOneOrder holds := by
  constructor
  · rw [heq ne rfl, heq eq rfl, h.ne_iff]
  · rw [heq ge rfl, heq gt rfl, heq eq rfl, h.ge_iff]
  · rw [heq le rfl, heq lt rfl, heq eq rfl, h.le_iff]
  · rw [heq lt rfl, heq eq rfl]
    exact h.not_lt_and_eq
  · rw [heq eq rfl, heq gt rfl]
    exact h.not_eq_and_gt
  · rw [heq lt rfl, heq gt rfl]
    exact h.not_lt_and_gt

end Operator

/-! ### Equality and order -/

theorem Instant.beq_eq_compare (a b : Instant) : (a == b) = (some (a.compare b) == some .eq) := by
  have hself : a.compare a = .eq := by simp [Instant.compare, Date.compare]
  rw [Bool.eq_iff_iff, beq_iff_eq, beq_iff_eq, Option.some.injEq]
  exact ⟨fun h => h ▸ hself, Instant.eq_of_compare_eq⟩

namespace Value

/-- The value is of the type of the literal.  Null is of no literal's type. -/
def isTypedAs : Value → Literal → Bool
  | number _, .number _ => true
  | boolean _, .boolean _ => true
  | string _, .string _ => true
  | date _, .date _ => true
  | _, _ => false

theorem beq_eq_compare {α : Type} [DecidableEq α] [Ord α] [Std.LawfulEqOrd α] (a b : α) :
    (a == b) = (some (compare a b) == some .eq) := by
  rw [Bool.eq_iff_iff, beq_iff_eq, beq_iff_eq, Option.some.injEq, Std.compare_eq_iff_eq]

/-- To be equal to a literal is to be neither less nor greater. -/
theorem equalsLiteral_eq (v : Value) (literal : Literal) :
    v.equalsLiteral literal = (v.compareLiteral? literal == some .eq) := by
  cases v with
  | number a => cases literal <;> rfl
  | boolean a => cases literal <;> first | rfl | exact beq_eq_compare a _
  | string a => cases literal <;> first | rfl | exact beq_eq_compare a _
  | date a => cases literal <;> first | rfl | exact Instant.beq_eq_compare a _
  | null => cases literal <;> rfl

/-- What is of one type has an order, apart from `nan`. -/
theorem compareLiteral?_isSome_iff {v : Value} {literal : Literal} :
    (v.compareLiteral? literal).isSome = true ↔
      v.isTypedAs literal = true ∧ v ≠ .number .nan ∧ literal ≠ .number .nan := by
  cases v with
  | number a =>
    cases literal with
    | number b =>
      have hnone : (a.compare? b).isSome = true ↔ ¬ (a = .nan ∨ b = .nan) := by
        rw [← Number.compare?_eq_none_iff, Option.isSome_iff_ne_none]
      simpa [compareLiteral?, isTypedAs] using hnone
    | _ => simp [compareLiteral?, isTypedAs]
  | _ => cases literal <;> simp [compareLiteral?, isTypedAs]

theorem satisfies_eq_admits {operator : Operator} (h : operator.isComparison = true) (v : Value)
    (literal : Literal) :
    v.satisfies operator literal = operator.admits (v.compareLiteral? literal) := by
  cases operator with
  | eq => exact v.equalsLiteral_eq literal
  | ne => exact congrArg not (v.equalsLiteral_eq literal)
  | gt => rfl
  | ge => rfl
  | lt => rfl
  | le => rfl
  | contains => cases h
  | startsWith => cases h
  | endsWith => cases h
  | isIn => cases h

theorem isAmong_strings {v : Value} {items : List String} :
    v.isAmong (.strings items) = true ↔ ∃ x ∈ items, v.equalsLiteral (.string x) = true := by
  cases v with
  | string s => simp [isAmong, equalsLiteral]
  | _ => simp [isAmong, equalsLiteral]

end Value

/-! ### Records -/

namespace Record

/-- The record satisfies the condition that the field, the operator and the scalar make. -/
def meets (r : Record) (field : String) (operator : Operator) (literal : Literal) : Bool :=
  (Condition.scalar? field operator literal).any fun c => c.holds r

variable {r : Record} {field : String} {operator : Operator} {literal : Literal}

theorem meets_of_lacks (h : r.get? field = none) : r.meets field operator literal = false := by
  unfold meets Condition.scalar?
  split
  · rw [Option.any_some, Condition.holds, h]
  · rfl

theorem meets_eq_satisfies {v : Value} (h : r.get? field = some v) (hoperator : operator ≠ .isIn)
    (hscalar : literal.isList = false) :
    r.meets field operator literal = v.satisfies operator literal := by
  rw [meets, Condition.scalar?, dif_pos ⟨hoperator, hscalar⟩, Option.any_some, Condition.holds, h]

/-- A comparison depends on how the stored value stands to the literal, and on nothing else. -/
theorem meets_eq_admits {v : Value} (h : r.get? field = some v)
    (hoperator : operator.isComparison = true) (hscalar : literal.isList = false) :
    r.meets field operator literal = operator.admits (v.compareLiteral? literal) := by
  have hnotIn : operator ≠ .isIn := by
    rintro rfl
    cases hoperator
  rw [meets_eq_satisfies h hnotIn hscalar, Value.satisfies_eq_admits hoperator]

/-- How a record stands to a scalar under the comparison operators.  Without the field it meets no
condition.  With it the operators fit together, and one of *less*, *equal* and *greater* holds
exactly if the stored value and the scalar are of one type and neither is `nan`; if the types differ
no comparison but `ne` holds.  Membership is equality with some item. -/
theorem meets_comparisons (r : Record) (field : String) (literal : Literal)
    (hscalar : literal.isList = false) :
    (∀ operator ≠ .isIn, (Condition.scalar? field operator literal).isSome = true) ∧
      (r.get? field = none → ∀ operator, r.meets field operator literal = false) ∧
      (∀ v, r.get? field = some v →
        Operator.IsOneOrder (fun operator => r.meets field operator literal) ∧
        (r.meets field .lt literal ∨ r.meets field .eq literal ∨ r.meets field .gt literal ↔
          v.isTypedAs literal = true ∧ v ≠ .number .nan ∧ literal ≠ .number .nan) ∧
        (v.isTypedAs literal = false → ∀ operator ∈ [.lt, .le, .gt, .ge, .eq],
          r.meets field operator literal = false)) ∧
      ∀ items, (Condition.among field items).holds r = true ↔
        ∃ x ∈ items, r.meets field .eq (.string x) = true := by
  refine ⟨?_, ?_, ?_, ?_⟩
  · intro operator hoperator
    rw [Condition.scalar?, dif_pos ⟨hoperator, hscalar⟩, Option.isSome_some]
  · intro hlacks operator
    exact meets_of_lacks hlacks
  · intro v hv
    have hadmits : ∀ operator : Operator, operator.isComparison = true →
        r.meets field operator literal = operator.admits (v.compareLiteral? literal) :=
      fun operator hoperator => meets_eq_admits hv hoperator hscalar
    refine ⟨(Operator.isOneOrder_admits _).congr hadmits, ?_, ?_⟩
    · rw [hadmits .lt rfl, hadmits .eq rfl, hadmits .gt rfl, Operator.admits_lt_or_eq_or_gt_iff,
        Value.compareLiteral?_isSome_iff]
    · intro htype
      have hnone : v.compareLiteral? literal = none := by
        rw [← Option.not_isSome_iff_eq_none, Value.compareLiteral?_isSome_iff, htype]
        simp
      have hcases : ∀ operator ∈ [Operator.lt, .le, .gt, .ge, .eq],
          operator.isComparison = true ∧ operator.admits none = false := by decide
      intro operator hoperator
      obtain ⟨hcomparison, hfalse⟩ := hcases operator hoperator
      rw [hadmits operator hcomparison, hnone, hfalse]
  · intro items
    cases hv : r.get? field with
    | none => simp [Condition.holds, Condition.among, hv, meets_of_lacks hv]
    | some v =>
      have hmeets : ∀ x, r.meets field .eq (.string x) = v.equalsLiteral (.string x) :=
        fun x => meets_eq_satisfies hv (by decide) rfl
      simp only [hmeets, ← Value.isAmong_strings]
      simp [Condition.holds, Condition.among, hv, Value.satisfies]

/-- A negative zero beside the positive one, a null and an absent field. -/
theorem meets_comparisons_zeros :
    let r : Record := .ofList [("balance", .number (.real true .zero)), ("due", .null)]
    let zero : Literal := .number (.real false .zero)
    (r.meets "balance" .lt zero ∨ r.meets "balance" .eq zero ∨ r.meets "balance" .gt zero) ∧
      (r.meets "balance" .ge zero ↔ r.meets "balance" .gt zero ∨ r.meets "balance" .eq zero) ∧
      r.meets "due" .eq zero = false ∧
      r.meets "paid" .ne zero = false := by
  intro r zero
  have hpresent := fun field => (meets_comparisons r field zero rfl).2.2.1
  obtain ⟨hfit, hone, -⟩ := hpresent "balance" (.number (.real true .zero)) (by decide)
  obtain ⟨-, -, hmixed⟩ := hpresent "due" .null (by decide)
  refine ⟨hone.2 (by decide), hfit.ge_iff, hmixed (by decide) .eq (by decide), ?_⟩
  exact (meets_comparisons r "paid" zero rfl).2.1 (by decide) .ne

end Record

end RecordQuery
