import Mathlib.Data.Finset.Card
import RecordQuery.Proofs.FieldMap

/-!
# What a sequence of insertions builds

A map that is built by insertions shows two things of their history.  Its names stand in the order
in which they were first inserted, each once, and under each name the value is found that was
inserted last.  `FieldMap.IsMapOf` says so of the two views of a map.  The empty map has it of the
empty history, and one more insertion keeps it (`FieldMap.IsMapOf.insert`), so it holds of every
sequence of insertions (`FieldMap.isMapOf_ofList`).
-/

namespace RecordQuery.FieldMap

variable {α : Type}

/-! ### First occurrences -/

/-- A name at the end is a first occurrence if it is new. -/
theorem eraseDups_concat (names : List String) (name : String) :
    (names ++ [name]).eraseDups =
      if name ∈ names then names.eraseDups else names.eraseDups ++ [name] := by
  rw [List.eraseDups_append]
  split
  · next h => simp [List.removeAll, h]
  · next h => simp [List.removeAll, h, List.eraseDups_cons]

theorem nodup_eraseDups (names : List String) : names.eraseDups.Nodup := by
  induction names using List.reverseRecOn with
  | nil => exact List.nodup_nil
  | append_singleton names name ih =>
    rw [eraseDups_concat]
    split
    · exact ih
    · next h =>
      rw [← List.mem_eraseDups] at h
      rw [← List.concat_eq_append]
      exact ih.concat h

theorem toFinset_eraseDups (names : List String) : names.eraseDups.toFinset = names.toFinset := by
  ext name
  rw [List.mem_toFinset, List.mem_toFinset, List.mem_eraseDups]

/-! ### Last values -/

/-- The value was inserted under the name, and nothing was inserted under it afterwards. -/
def IsLastValue (history : List (String × α)) (name : String) (value : α) : Prop :=
  ∃ before after, history = before ++ (name, value) :: after ∧ name ∉ after.map Prod.fst

/-- The value that was inserted last under a name. -/
def lastValue? (history : List (String × α)) (name : String) : Option α :=
  history.reverse.lookup name

theorem lastValue?_concat (history : List (String × α)) (name : String) (value : α) (n : String) :
    lastValue? (history ++ [(name, value)]) n =
      if n = name then some value else lastValue? history n := by
  rw [lastValue?, List.reverse_append]
  exact lookup_cons name value history.reverse n

theorem lastValue?_eq_some_iff {history : List (String × α)} {name : String} {value : α} :
    lastValue? history name = some value ↔ IsLastValue history name value := by
  simp only [lastValue?, List.lookup_eq_some_iff, forall_bne_iff, IsLastValue]
  constructor
  · rintro ⟨after, before, heq, hafter⟩
    refine ⟨before.reverse, after.reverse, ?_, ?_⟩
    · have hreverse := congrArg List.reverse heq
      simpa using hreverse
    · rw [List.map_reverse, List.mem_reverse]
      exact hafter
  · rintro ⟨before, after, rfl, hafter⟩
    refine ⟨after.reverse, before.reverse, by simp, ?_⟩
    rw [List.map_reverse, List.mem_reverse]
    exact hafter

theorem lastValue?_eq_none_iff {history : List (String × α)} {name : String} :
    lastValue? history name = none ↔ name ∉ history.map Prod.fst := by
  rw [lastValue?, lookup_eq_none_iff_notMem, List.map_reverse, List.mem_reverse]

/-! ### Maps and their histories -/

/-- The map is what the insertions of the history, in their order, build. -/
structure IsMapOf (history : List (String × α)) (m : FieldMap α) : Prop where
  names : m.names = (history.map Prod.fst).eraseDups
  get? : ∀ name, m.get? name = lastValue? history name

theorem isMapOf_empty : IsMapOf [] (empty : FieldMap α) :=
  ⟨rfl, fun _ => rfl⟩

variable {history : List (String × α)} {m : FieldMap α}

theorem IsMapOf.mem_names (h : IsMapOf history m) {name : String} :
    name ∈ m.names ↔ name ∈ history.map Prod.fst := by
  rw [h.names, List.mem_eraseDups]

theorem IsMapOf.insert (h : IsMapOf history m) (name : String) (value : α) :
    IsMapOf (history ++ [(name, value)]) (m.insert name value) := by
  constructor
  · rw [names_insert, List.map_append, List.map_singleton, eraseDups_concat, ← h.names]
    simp only [h.mem_names]
  · intro n
    rw [get?_insert, lastValue?_concat, h.get?]

/-- A map is the one of the list it is built from. -/
theorem isMapOf_ofList (history : List (String × α)) : IsMapOf history (ofList history) := by
  induction history using List.reverseRecOn with
  | nil => exact isMapOf_empty
  | append_singleton history entry ih =>
    rw [ofList, List.foldl_append]
    exact ih.insert entry.1 entry.2

theorem IsMapOf.nodup (h : IsMapOf history m) : m.names.Nodup := by
  rw [h.names]
  exact nodup_eraseDups _

theorem IsMapOf.size (h : IsMapOf history m) : m.size = (history.map Prod.fst).toFinset.card := by
  have hsize : m.size = m.names.length := (List.length_map Prod.fst).symm
  rw [hsize, h.names, ← toFinset_eraseDups, List.toFinset_card_of_nodup (nodup_eraseDups _)]

/-- A map has the names of its list. -/
theorem mem_names_ofList {entries : List (String × α)} {name : String} :
    name ∈ (ofList entries).names ↔ name ∈ entries.map Prod.fst :=
  (isMapOf_ofList entries).mem_names

end RecordQuery.FieldMap
