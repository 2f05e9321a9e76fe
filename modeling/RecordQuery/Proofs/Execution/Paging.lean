import RecordQuery.Execution

/-!
# Pages

Asking for page after page of the same query loses no record and repeats none.  The stages before
the page do not depend on offset and limit, so every page is cut out of one and the same list, and
the selection of fields works record by record.  What remains is a fact about lists: the pieces of
`size` elements from the positions `0`, `size`, `2 * size`, … make up the list.

The page itself is taken between two positions of that list, and neither lies outside of it.
-/

namespace RecordQuery

/-- The number of pages that `length` records fill. -/
def pageCount (length size : Nat) : Nat := (length + size - 1) / size

/-- The part of a list between two positions, which have to lie within it in this order. -/
def slice? {α : Type} (items : List α) (first last : Nat) : Option (List α) :=
  if first ≤ last ∧ last ≤ items.length then some ((items.take last).drop first) else none

namespace Query

/-- The query for the page with the given number, counted from zero. -/
def atPage (q : Query) (size number : Nat) : Query :=
  { q with offset := some (number * size), limit := some size }

end Query

/-! ### Cutting a list into pieces -/

section Pieces

variable {α : Type}

theorem le_pageCount_mul {length size : Nat} (hsize : 1 ≤ size) :
    length ≤ pageCount length size * size := by
  have hdiv := Nat.div_add_mod (length + size - 1) size
  have hmod := Nat.mod_lt (length + size - 1) hsize
  rw [Nat.mul_comm] at hdiv
  unfold pageCount
  omega

theorem mul_le_of_lt_pageCount {length size number : Nat} (hsize : 1 ≤ size)
    (h : number + 1 < pageCount length size) : number * size + size ≤ length := by
  have hle : (number + 2) * size ≤ length + size - 1 :=
    (Nat.le_div_iff_mul_le hsize).1 h
  have hmul : (number + 2) * size = number * size + 2 * size := Nat.add_mul number 2 size
  omega

theorem flatMap_pieces (items : List α) (size count : Nat) :
    ((List.range count).flatMap fun i => (items.drop (i * size)).take size) =
      items.take (count * size) := by
  induction count with
  | zero => simp
  | succ count ih =>
    rw [List.range_succ, List.flatMap_append, ih, Nat.succ_mul, List.take_add]
    simp

theorem flatMap_pieces_pageCount (items : List α) {size : Nat} (hsize : 1 ≤ size) :
    ((List.range (pageCount items.length size)).flatMap fun i =>
      (items.drop (i * size)).take size) = items := by
  rw [flatMap_pieces]
  exact List.take_of_length_le (le_pageCount_mul hsize)

end Pieces

namespace Query

/-! ### One page -/

/-- The selection of fields works record by record. -/
theorem selected_eq_map (q : Query) : ∃ f : Record → Record, ∀ records, q.selected records =
    records.map f := by
  simp only [selected_eq]
  split
  · next fields _ => exact ⟨fun r => r.project fields, fun records => rfl⟩
  · exact ⟨id, fun records => by simp⟩

theorem data_atPage {q : Query} (hoffset : q.offset = none) (hlimit : q.limit = none)
    {size : Nat} (hsize : 1 ≤ size) (number : Nat) (records : List Record) :
    ((q.atPage size number).execute records).data =
      ((q.execute records).data.drop (number * size)).take size := by
  have hskipped : ∀ remaining, (q.atPage size number).skipped remaining =
      remaining.drop (number * size) := skipped_eq_drop _
  have hlimited : ∀ remaining, (q.atPage size number).limited remaining = remaining.take size :=
    limited_eq_take rfl (by omega)
  have hall : ∀ remaining, q.limited (q.skipped remaining) = remaining := by
    intro remaining
    rw [limited_eq_self (by simp [hlimit]), skipped_eq_drop, hoffset]
    rfl
  obtain ⟨f, hf⟩ := selected_eq_map q
  have hmatching : (q.atPage size number).sorted
        ((q.atPage size number).filtered ((q.atPage size number).searched records)) =
      q.sorted (q.filtered (q.searched records)) := rfl
  have hselected : (q.atPage size number).selected = q.selected := rfl
  rw [data_execute, data_execute, hall, hlimited, hskipped, hmatching, hselected, hf, hf,
    List.map_take, List.map_drop]

theorem slice?_skipped (q : Query) (records : List Record) :
    slice? records (q.pageStart records.length) records.length = some (q.skipped records) := by
  rw [slice?, if_pos ⟨q.pageStart_le _, Nat.le_refl _⟩, List.take_length]
  rfl

theorem slice?_limited (q : Query) (records : List Record) :
    slice? records 0 (q.pageLength records.length) = some (q.limited records) := by
  rw [slice?, if_pos ⟨Nat.zero_le _, q.pageLength_le _⟩, List.drop_zero]
  rfl

/-! ### All pages -/

/-- The pages of a query without offset and limit, one after the other, are its records.  A page
beyond the last one is empty, every page before the last one is full, and all pages report the same
count.  Whatever the offset and the limit, a page is cut between positions that are there. -/
theorem flatMap_atPage (q : Query) (records : List Record) (size : Nat) (hoffset : q.offset = none)
    (hlimit : q.limit = none) (hsize : 1 ≤ size) :
    ((List.range (pageCount (q.execute records).data.length size)).flatMap fun number =>
        ((q.atPage size number).execute records).data) = (q.execute records).data ∧
      (∀ number, (q.execute records).data.length ≤ number * size →
        ((q.atPage size number).execute records).data = []) ∧
      (∀ number, number + 1 < pageCount (q.execute records).data.length size →
        ((q.atPage size number).execute records).data.length = size) ∧
      (∀ number, ((q.atPage size number).execute records).count = (q.execute records).count) ∧
      ∀ (offset limit : Option Nat) (remaining : List Record),
        let p : Query := { q with offset, limit }
        slice? remaining (p.pageStart remaining.length) remaining.length =
            some (p.skipped remaining) ∧
          slice? (p.skipped remaining) 0 (p.pageLength (p.skipped remaining).length) =
            some (p.page remaining) := by
  have hpage := fun number => data_atPage hoffset hlimit hsize number records
  refine ⟨?_, ?_, ?_, ?_, ?_⟩
  · simp only [hpage]
    exact flatMap_pieces_pageCount _ hsize
  · intro number hend
    rw [hpage, List.drop_of_length_le hend, List.take_nil]
  · intro number hnumber
    have hfull := mul_le_of_lt_pageCount hsize hnumber
    rw [hpage, List.length_take, List.length_drop]
    omega
  · intro number
    rw [count_execute, count_execute]
    rfl
  · intro offset limit remaining p
    exact ⟨slice?_skipped _ remaining, slice?_limited _ _⟩

/-- Three records of which one lacks the sort key and two hold it with different types. -/
def unevenRecords : List Record :=
  [.ofList [("a", .string "x")], .ofList [("b", .null)], .ofList [("a", .number (.ofInt 2))]]

/-- The records by one key, downwards, with their number. -/
def downwards : Query :=
  { orderBy := some (.ofList [("a", .descending)]), count := some true }

/-- Two pages of two make up three records on which the order is not transitive. -/
theorem flatMap_atPage_uneven :
    downwards.offset = none ∧ downwards.limit = none ∧ 1 ≤ 2 ∧
      (downwards.execute unevenRecords).data.length = 3 ∧
      ((List.range (pageCount (downwards.execute unevenRecords).data.length 2)).flatMap
          fun number => ((downwards.atPage 2 number).execute unevenRecords).data) =
        (downwards.execute unevenRecords).data :=
  ⟨rfl, rfl, by decide, by decide +kernel,
    (flatMap_atPage downwards unevenRecords 2 rfl rfl (by decide)).1⟩

end Query

end RecordQuery
