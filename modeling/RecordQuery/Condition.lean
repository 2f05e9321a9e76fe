import RecordQuery.Literal
import RecordQuery.Operator

/-!
# Filter conditions

A condition is a field, an operator and a literal.  The literal is a list exactly when the operator
is membership; the type says so, and there are three ways to make a condition that keep it.  The one
that filters take is `Condition.ofToken`, the engine's `from_token`.
-/

namespace RecordQuery

/-- One `field operator value` predicate. -/
structure Condition where
  field : String
  operator : Operator
  value : Literal
  /-- Membership, and nothing else, takes a list. -/
  takesList : value.isList = decide (operator = .isIn)
deriving DecidableEq

namespace Condition

theorem isList_ofToken (token : List Char) : (Literal.ofToken token).isList = false := by
  simp only [Literal.ofToken]
  split
  · rfl
  · split
    · rfl
    · split
      · rfl
      · split
        · rfl
        · split <;> rfl

def literal (operator : Operator) (token : List Char) : Literal :=
  if operator = .isIn then .listOfToken token else .ofToken token

def ofToken (field : String) (operator : Operator) (token : List Char) : Condition where
  field
  operator
  value := literal operator token
  takesList := by
    unfold literal
    split
    · next h => simp [h, Literal.listOfToken, Literal.isList]
    · next h => simp [h, isList_ofToken]

/-- The condition with a scalar on its right; there is none for membership or for a list. -/
def scalar? (field : String) (operator : Operator) (value : Literal) : Option Condition :=
  if h : operator ≠ .isIn ∧ value.isList = false then
    some ⟨field, operator, value, by simp [h.1, h.2]⟩
  else none

def among (field : String) (items : List String) : Condition :=
  ⟨field, .isIn, .strings items, rfl⟩

def display (c : Condition) : String := c.field ++ " " ++ c.operator.name ++ " " ++ c.value.display

def toJson (c : Condition) : Json :=
  .object [("field", .string c.field), ("operator", .string c.operator.name),
    ("value", c.value.toJson)]

end Condition

end RecordQuery
