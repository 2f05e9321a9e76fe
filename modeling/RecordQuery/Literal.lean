import RecordQuery.Instant.Printer
import RecordQuery.Instant.Reader
import RecordQuery.Json.Basic
import RecordQuery.Text.Words

/-!
# Literals

The typed values that a filter compares with.  There is no schema: the type of a literal is read off
its spelling.  `Literal.ofToken`, the engine's `coerce`, tries, in this order,

1. a quoted text, which is a string whatever it spells;
2. a decimal numeral;
3. `true` or `false` in any case of letters;
4. a date or timestamp;

and takes everything else as a string.  The items of a list are never typed, only unquoted
(`Literal.listOfToken`, the engine's `coerce_list`).
-/

namespace RecordQuery

/-- A typed value in a filter. -/
inductive Literal where
  | number (n : Number)
  | boolean (b : Bool)
  | string (s : String)
  | date (t : Instant)
  /-- The right-hand side of the operator `in`. -/
  | strings (items : List String)
deriving DecidableEq

namespace Literal

def isList : Literal → Bool
  | strings _ => true
  | _ => false

/-- The text of a scalar, the engine's `as_text`: a number without exponent, a date as a timestamp
in UTC. -/
def text? : Literal → Option String
  | number n => some (String.ofList n.plain)
  | boolean b => some (if b then "true" else "false")
  | string s => some s
  | date t => some t.text
  | strings _ => none

/-- The text of a literal; a list stands in parentheses, with commas between its items. -/
def display : Literal → String
  | strings items => "(" ++ ",".intercalate items ++ ")"
  | scalar => scalar.text?.getD ""

/-! ### Reading -/

/-- The text inside one layer of quotes, if a text of two characters or more starts and ends with
the same kind of quote (the engine's `strip_quotes`). -/
def unquoted? : List Char → Option (List Char)
  | [] => none
  | quote :: cs =>
    if (quote = '\'' ∨ quote = '"') ∧ cs.getLast? = some quote then some cs.dropLast else none

def ofToken (token : List Char) : Literal :=
  let token := Text.trim token
  match unquoted? token with
  | some inner => string (String.ofList inner)
  | none =>
    match if isPlainDecimal token then Number.ofText? token else none with
    | some n => number n
    | none =>
      if Text.sameLetters token "true".toList then boolean true
      else if Text.sameLetters token "false".toList then boolean false
      else
        match Instant.ofText? token with
        | some t => date t
        | none => string (String.ofList token)

/-- An item of a list: quotes are taken off, and an item that is empty without them is none. -/
def item? (piece : List Char) : Option String :=
  let piece := Text.trim piece
  match unquoted? piece with
  | some inner => some (String.ofList inner)
  | none => if piece = [] then none else some (String.ofList piece)

/-- The text inside parentheses, if both are there, or else the text itself. -/
def unparenthesized (cs : List Char) : List Char :=
  match cs with
  | '(' :: rest => if rest.getLast? = some ')' then rest.dropLast else cs
  | _ => cs

/-- The list that a token spells, the engine's `coerce_list`: items between commas, in parentheses
or not. -/
def listOfToken (token : List Char) : Literal :=
  strings (((unparenthesized (Text.trim token)).splitOn ',').filterMap item?)

/-! ### JSON -/

def typeName : Literal → String
  | number _ => "number"
  | boolean _ => "boolean"
  | string _ => "string"
  | date _ => "date"
  | strings _ => "string_array"

/-- The JSON form: the name of the type beside the value. -/
def toJson (v : Literal) : Json :=
  .object [("type", .string v.typeName),
    ("value",
      match v with
      | number n => .decimal n
      | boolean b => .bool b
      | string s => .string s
      | date t => .string t.text
      | strings items => .array (items.map .string))]

def ofTyped? (type : String) (value : Json) : Option Literal :=
  match type, value with
  | "number", value => value.number?.map number
  | "boolean", .bool b => some (boolean b)
  | "string", .string s => some (string s)
  | "date", .string s => (Instant.ofSpacedText? s.toList).map date
  | "string_array", .array items => (items.mapM Json.string?).map strings
  | _, _ => none

/-- The literal that a JSON object with the members `type` and `value`, or an array of the two,
stands for. -/
def ofJson? : Json → Option Literal
  | .array [type, value] => do ofTyped? (← type.choice?) value
  | .object members => do ofTyped? (← (← members.lookup "type").choice?) (← members.lookup "value")
  | _ => none

end Literal

end RecordQuery
