import RecordQuery.FieldMap
import RecordQuery.Number.Basic

/-!
# JSON values

A JSON value keeps what this library can tell apart: the order of an object's members, and whether a
number was given as an integer of up to 64 bits or as a binary64 number.

The members of an object are a plain list of entries.  An object read from a text has each name
once: its members are inserted as into a `FieldMap`, so a repeated name keeps the place of its
first occurrence and takes the value of its last one.
-/

namespace RecordQuery

/-- A JSON value. -/
inductive Json where
  | null
  | bool (b : Bool)
  | integer (i : Int)
  | decimal (x : Number)
  | string (s : String)
  | array (items : List Json)
  | object (members : List (String × Json))

namespace Json

instance : Inhabited Json := ⟨null⟩

def member? (name : String) : Json → Option Json
  | object members => members.lookup name
  | _ => none

def number? : Json → Option Number
  | integer i => some (.ofInt i)
  | decimal x => some x
  | _ => none

def string? : Json → Option String
  | string s => some s
  | _ => none

/-- The name of the alternative that a JSON value picks out of several: a string, or an object with
the name as its only member and null as the value. -/
def choice? : Json → Option String
  | string name => some name
  | object [(name, null)] => some name
  | _ => none

/-- Arrays and objects have parts, all else is a scalar. -/
def isScalar : Json → Bool
  | array _ | object _ => false
  | _ => true

end Json

end RecordQuery
