import RecordQuery.Text.Words

/-!
# Filter operators

The ten operators of a filter condition, their spellings and the three kinds they fall into besides
equality and membership: four ask for an order, three for a text inside a text.
-/

namespace RecordQuery

/-- A filter operator. -/
inductive Operator where
  | eq
  | ne
  | gt
  | ge
  | lt
  | le
  | contains
  | startsWith
  | endsWith
  /-- Membership in a list. -/
  | isIn
deriving DecidableEq

namespace Operator

def all : List Operator := [eq, ne, gt, ge, lt, le, contains, startsWith, endsWith, isIn]

def name : Operator → String
  | eq => "eq"
  | ne => "ne"
  | gt => "gt"
  | ge => "ge"
  | lt => "lt"
  | le => "le"
  | contains => "contains"
  | startsWith => "startswith"
  | endsWith => "endswith"
  | isIn => "in"

def isOrdering : Operator → Bool
  | gt | ge | lt | le => true
  | _ => false

def isTextMatch : Operator → Bool
  | contains | startsWith | endsWith => true
  | _ => false

/-- The operator whose keyword is the given word, in any case of ASCII letters. -/
def ofName? (word : List Char) : Option Operator :=
  all.find? fun op => Text.sameLetters op.name.toList word

theorem mem_all (op : Operator) : op ∈ all := by
  cases op <;> decide

/-- An operator is read back from its keyword. -/
theorem ofName?_name (op : Operator) : ofName? op.name.toList = some op := by
  cases op <;> decide

end Operator

/-- A word was given that names no operator. -/
structure UnknownOperator where
  word : String

namespace UnknownOperator

def message (e : UnknownOperator) : String :=
  "unknown filter operator '" ++ Text.lowerLetters e.word ++ "'"

end UnknownOperator

end RecordQuery
