import RecordQuery.Query.OrderSpec
import RecordQuery.Record.Basic

/-!
# Sorting

Records are sorted by a merge sort that halves its input, the shorter half first, and merges the
sorted halves, taking from the second one only what is strictly less.  On comparable data this is
the one stable sort.

The comparison goes key by key.  Two records are equal on a key that one of them lacks or that holds
values without an order, so it need not be transitive: sorting such data gives an arrangement that
depends on where the halves are cut, and the cut is part of what the sort is.  `OrderSpec.sort` is
the engine's `ResultSorter::sort`, and `OrderSpec.compare` its `compare_records`.
-/

namespace RecordQuery

/-! ### Merge sort -/

section Merge

variable {α : Type} (compare : α → α → Ordering)

/-- The first element of the first list goes before the elements of the second one that are not
less, and after all those before them; the two rests are merged behind it. -/
def mergeFrom (left : α) (mergeRest : List α → List α) : List α → List α
  | [] => left :: mergeRest []
  | right :: rights =>
    if compare right left = .lt then right :: mergeFrom left mergeRest rights
    else left :: mergeRest (right :: rights)

/-- Two lists merged: the second one gives its first element only if that is strictly less. -/
def merge : List α → List α → List α
  | [], rights => rights
  | left :: lefts, rights => mergeFrom compare left (merge lefts) rights

/-- The merge sort, as deep as `fuel` reaches. -/
def mergeSortUpTo : (fuel : Nat) → List α → List α
  | 0, items => items
  | fuel + 1, items =>
    if items.length < 2 then items
    else
      let middle := items.length / 2
      merge compare (mergeSortUpTo fuel (items.take middle))
        (mergeSortUpTo fuel (items.drop middle))

/-- The engine's `merge_sort`.  Halving ends before the fuel does. -/
def mergeSort (items : List α) : List α := mergeSortUpTo compare items.length items

end Merge

/-! ### Records -/

namespace Direction

/-- The order as the direction turns it. -/
def turn : Direction → Ordering → Ordering
  | ascending, o => o
  | descending, o => o.swap

end Direction

namespace OrderSpec

/-- The order of two stored values; what is missing or has no order is equal to everything. -/
def compareValues : Option Value → Option Value → Ordering
  | some a, some b => (a.compare? b).getD .eq
  | _, _ => .eq

def compareBy : List (String × Direction) → Record → Record → Ordering
  | [], _, _ => .eq
  | (field, direction) :: keys, a, b =>
    (direction.turn (compareValues (a.get? field) (b.get? field))).then (compareBy keys a b)

def compare (spec : OrderSpec) (a b : Record) : Ordering := compareBy spec.entries a b

def sort (spec : OrderSpec) (records : List Record) : List Record := mergeSort spec.compare records

end OrderSpec

end RecordQuery
