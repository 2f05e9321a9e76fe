import RecordQuery.Query.Reader

/-!
# Writing queries

A query as the query string that asks for it.  Every part that is present becomes one parameter.
Strings, and the items of a list, stand in single quotes, so they are read back as they are
whatever they look like; the other literals are spelled by their texts.

Not every query has a string that is read back: a name with a blank, a connective inside a string
or an ampersand anywhere would be read as something else.
-/

namespace RecordQuery

namespace Literal

/-- A text in single quotes. -/
def inQuotes (s : String) : List Char := '\'' :: s.toList ++ ['\'']

def spelling : Literal → List Char
  | string s => inQuotes s
  | strings items => '(' :: [','].intercalate (items.map inQuotes) ++ [')']
  | scalar => (scalar.text?.getD "").toList

end Literal

def Condition.spelling (c : Condition) : List Char :=
  c.field.toList ++ ' ' :: c.operator.name.toList ++ ' ' :: c.value.spelling

/-- The clause of an order, each key with its direction. -/
def OrderSpec.spelling (spec : OrderSpec) : List Char :=
  [','].intercalate (spec.entries.map fun (field, direction) =>
    field.toList ++ ' ' :: direction.name.toList)

def Parameters.text (ps : Parameters) : String :=
  String.ofList ('?' :: ['&'].intercalate (ps.map fun (name, value) =>
    name.toList ++ '=' :: value.toList))

namespace Query

/-- A parameter and the value that asks for a part of the query, if the part is present. -/
def parameter {α : Type} (p : Parameter) (part : Option α) (spelling : α → List Char) :
    Option (String × String) :=
  part.map fun a => (p.name, String.ofList (spelling a))

def parameters (q : Query) : Parameters :=
  List.filterMap id
    [ parameter .filter q.conditions fun conditions =>
        " and ".toList.intercalate (conditions.map Condition.spelling),
      parameter .orderBy q.orderBy OrderSpec.spelling,
      parameter .top q.limit Decimal.text,
      parameter .skip q.offset Decimal.text,
      parameter .select q.select fun fields => [','].intercalate (fields.map String.toList),
      parameter .count q.count fun b => (if b then "true" else "false").toList,
      parameter .search q.search String.toList ]

def text (q : Query) : String := q.parameters.text

/-- Quotes keep a string from being read as a number. -/
example : (Condition.ofToken "a" .eq "'5'".toList).spelling = "a eq '5'".toList := by decide

/-- Quotes keep a list from losing an empty item. -/
example : (Condition.among "b" ["", "x"]).spelling = "b in ('','x')".toList ∧
    Condition.ofToken "b" .isIn "('','x')".toList = Condition.among "b" ["", "x"] := by decide

end Query

end RecordQuery
