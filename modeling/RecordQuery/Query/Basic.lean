import RecordQuery.Condition
import RecordQuery.Query.OrderSpec

/-!
# Queries

A query has seven parts, each of which may be absent.  The query in which every part is absent asks
for all records as they are.
-/

namespace RecordQuery

/-- What is asked of a list of records. -/
structure Query where
  /-- Predicates that a record has to satisfy, all of them. -/
  conditions : Option (List Condition) := none
  orderBy : Option OrderSpec := none
  /-- The greatest number of records on the page; zero sets no limit. -/
  limit : Option Nat := none
  /-- The number of records before the page. -/
  offset : Option Nat := none
  /-- The fields that the records of the page are cut down to. -/
  select : Option (List String) := none
  /-- Whether the number of matching records is reported. -/
  count : Option Bool := none
  /-- A text that some string of a record has to contain. -/
  search : Option String := none
deriving DecidableEq

namespace Query

instance : Inhabited Query := ⟨{}⟩

def isEmpty (q : Query) : Bool := q = {}

def wantsCount (q : Query) : Bool := q.count = some true

def withCondition (q : Query) (c : Condition) : Query :=
  { q with conditions := some (q.conditions.getD [] ++ [c]) }

/-- The JSON form: the parts that are present, in the order of the fields. -/
def toJson (q : Query) : Json :=
  .object <| List.filterMap id
    [ q.conditions.map fun conditions => ("conditions", .array (conditions.map Condition.toJson)),
      q.orderBy.map fun spec => ("order_by", spec.toJson),
      q.limit.map fun n => ("limit", .integer n),
      q.offset.map fun n => ("offset", .integer n),
      q.select.map fun fields => ("select", .array (fields.map .string)),
      q.count.map fun b => ("count", .bool b),
      q.search.map fun term => ("search", .string term) ]

end Query

end RecordQuery
