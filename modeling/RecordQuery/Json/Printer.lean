import RecordQuery.Json.Basic
import RecordQuery.Number.Printer

/-!
# Writing JSON

The compact text of a JSON value: no space anywhere, members in their order.  In a string only the
quote, the backslash and the characters below U+0020 are escaped, by a letter where JSON has one
and by four hexadecimal digits otherwise.
-/

namespace RecordQuery.Json

def hexDigit (n : Nat) : Char := if n < 10 then Char.ofNat (48 + n) else Char.ofNat (87 + n)

def escaped (c : Char) : List Char :=
  if c = '"' then ['\\', '"']
  else if c = '\\' then ['\\', '\\']
  else if c = '\x08' then ['\\', 'b']
  else if c = '\x0c' then ['\\', 'f']
  else if c = '\n' then ['\\', 'n']
  else if c = '\r' then ['\\', 'r']
  else if c = '\t' then ['\\', 't']
  else if c.toNat < 0x20 then
    ['\\', 'u', '0', '0', hexDigit (c.toNat / 16), hexDigit (c.toNat % 16)]
  else [c]

def quoted (s : String) : List Char := '"' :: s.toList.flatMap escaped ++ ['"']

def integerText (i : Int) : List Char := Number.sign (i < 0) ++ Decimal.text i.natAbs

mutual

def toChars : Json → List Char
  | null => "null".toList
  | bool b => if b then "true".toList else "false".toList
  | integer i => integerText i
  | decimal x => x.json
  | string s => quoted s
  | array items => '[' :: itemChars items ++ [']']
  | object members => '{' :: memberChars members ++ ['}']

/-- The texts of the items of an array, with commas between them. -/
def itemChars : List Json → List Char
  | [] => []
  | [item] => toChars item
  | item :: items => toChars item ++ ',' :: itemChars items

/-- The texts of the members of an object, with commas between them. -/
def memberChars : List (String × Json) → List Char
  | [] => []
  | [(name, value)] => quoted name ++ ':' :: toChars value
  | (name, value) :: members => quoted name ++ ':' :: toChars value ++ ',' :: memberChars members

end

/-- The compact text of a value, as a string. -/
def text (j : Json) : String := String.ofList j.toChars

end RecordQuery.Json
