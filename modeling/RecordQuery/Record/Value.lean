import RecordQuery.Json.Reader
import RecordQuery.Literal

/-!
# Stored values

The value of a field of a record: a scalar or null.  Values of different types are neither equal nor
ordered, and so is null with anything; two values of one type are ordered unless one is `nan`.

From JSON (the engine's `FieldValue::from_json`) a value takes scalars only, and strings that name an
instant are taken as dates if dates are to be detected.  To JSON (its `to_json`) a number goes as an
integer when it is one up to 2⁵³ (`number_to_json`), and a date as its timestamp.
-/

namespace RecordQuery

/-- The value of a field. -/
inductive Value where
  | number (n : Number)
  | boolean (b : Bool)
  | string (s : String)
  | date (t : Instant)
  | null
deriving DecidableEq

namespace Value

instance : Inhabited Value := ⟨null⟩

/-- The string, if the value is one. -/
def string? : Value → Option String
  | string s => some s
  | _ => none

/-- The order of two values of one type. -/
def compare? : Value → Value → Option Ordering
  | number a, number b => a.compare? b
  | boolean a, boolean b => some (compare a b)
  | string a, string b => some (compare a b)
  | date a, date b => some (a.compare b)
  | _, _ => none

def compareLiteral? : Value → Literal → Option Ordering
  | number a, .number b => a.compare? b
  | boolean a, .boolean b => some (compare a b)
  | string a, .string b => some (compare a b)
  | date a, .date b => some (a.compare b)
  | _, _ => none

def equalsLiteral : Value → Literal → Bool
  | number a, .number b => a.equals b
  | boolean a, .boolean b => a == b
  | string a, .string b => a == b
  | date a, .date b => a == b
  | _, _ => false

/-- The two values are equal; two numbers are so as numbers, hence `nan` is not equal to itself. -/
def equals : Value → Value → Bool
  | number a, number b => a.equals b
  | boolean a, boolean b => a == b
  | string a, string b => a == b
  | date a, date b => a == b
  | null, null => true
  | _, _ => false

/-! ### JSON -/

def ofJson? (detectDates : Bool) : Json → Option Value
  | .null => some null
  | .bool b => some (boolean b)
  | .integer i => some (number (.ofInt i))
  | .decimal x => some (number x)
  | .string s =>
    match if detectDates then Instant.ofText? s.toList else none with
    | some t => some (date t)
    | none => some (string s)
  | .array _ => none
  | .object _ => none

def numberToJson (n : Number) : Json :=
  match n.integer? with
  | some i => .integer i
  | none => if n.isFinite then .decimal n else .null

def toJson : Value → Json
  | number n => numberToJson n
  | boolean b => .bool b
  | string s => .string s
  | date t => .string t.text
  | null => .null

end Value

end RecordQuery
