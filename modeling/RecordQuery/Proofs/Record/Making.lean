import Mathlib.Data.List.Forall2
import RecordQuery.Proofs.Record.Projection
import RecordQuery.Record.Loading

/-!
# The ways to make a record

A record is made by inserting fields one by one, from a list of fields, from a JSON object, alone or
in an array, or by projecting another record.  Whichever way it is, the record comes from a sequence
of insertions, its history: the given fields, the scalar members of the object in the order of the
document, or the requested fields with the values that were inserted last.

Every way yields the map of its history (`Record.Made.isMapOf`).  So no way lets a field in twice,
the fields stand in the order of their first insertion, and each has the value inserted last
(`Record.made_insertions`).
-/

namespace RecordQuery

open FieldMap (IsLastValue IsMapOf lastValue?)

/-- The members of a JSON value, if it is an object. -/
def Json.members? : Json → Option (List (String × Json))
  | .object members => some members
  | _ => none

/-- The records of a loading are those of the objects, in the order of the document. -/
theorem Loading.records_eq {detectDates : Bool} {items : List Json} {loading : Loading}
    (h : ofJson? detectDates (.array items) = some loading) :
    loading.records = (items.filterMap Json.members?).map (Record.ofMembers detectDates) := by
  cases h
  rw [List.map_filterMap]
  apply List.filterMap_congr
  intro item _
  cases item with
  | object members => rfl
  | _ => rfl

namespace Record

/-- The scalar members of an object as fields. -/
def scalarFields (detectDates : Bool) (members : List (String × Json)) : List (String × Value) :=
  members.filterMap fun (name, value) => (Value.ofJson? detectDates value).map fun v => (name, v)

/-- The requested fields with the values that were inserted last; fields without any are left
out. -/
def lastFields (history : List (String × Value)) (fields : List String) : List (String × Value) :=
  fields.filterMap fun field => (lastValue? history field).map fun v => (field, v)

/-- The record was made by operations that insert the fields of the history. -/
inductive Made : List (String × Value) → Record → Prop
  | empty : Made [] .empty
  | insert {history : List (String × Value)} {r : Record} (field : String) (v : Value) :
      Made history r → Made (history ++ [(field, v)]) (r.insert field v)
  | collected (history : List (String × Value)) : Made history (.ofList history)
  | converted {detectDates : Bool} {members : List (String × Json)} {r : Record} :
      ofJson? detectDates (.object members) = some r → Made (scalarFields detectDates members) r
  | projected {history : List (String × Value)} {r : Record} (fields : List String) :
      Made history r → Made (lastFields history fields) (r.project fields)

variable {history : List (String × Value)} {r : Record}

theorem isMapOf_project (h : IsMapOf history r) (fields : List String) :
    IsMapOf (lastFields history fields) (r.project fields) := by
  have hfields : lastFields history fields = r.requested fields := by
    simp only [lastFields, requested, h.get?]
  rw [hfields]
  exact isMapOf_requested r fields

/-- A record is the map of its history, whatever it was made by. -/
theorem Made.isMapOf (h : Made history r) : IsMapOf history r := by
  induction h with
  | empty => exact FieldMap.isMapOf_empty
  | insert field v _ ih => exact ih.insert field v
  | collected history => exact FieldMap.isMapOf_ofList history
  | converted hr =>
    cases hr
    exact FieldMap.isMapOf_ofList _
  | projected fields _ ih => exact isMapOf_project ih fields

/-- The records of a loading are made of the objects, in the order of the document. -/
theorem forall₂_made {detectDates : Bool} {items : List Json} {loading : Loading}
    (h : Loading.ofJson? detectDates (.array items) = some loading) :
    List.Forall₂ (fun members r => Made (scalarFields detectDates members) r)
      (items.filterMap Json.members?) loading.records := by
  rw [Loading.records_eq h, List.forall₂_map_right_iff]
  apply List.forall₂_same.2
  intro members _
  exact .converted rfl

/-- Any insertions into the empty record make a record, and so does the loading of an object.  A
record that is made in whatever way has each field of its history once, in the order of the first
insertions and with the value inserted last, and no other field. -/
theorem made_insertions :
    (∀ history, Made history (history.foldl (fun r (field, v) => r.insert field v) .empty)) ∧
      (∀ detectDates items loading, Loading.ofJson? detectDates (.array items) = some loading →
        List.Forall₂ (fun members r => Made (scalarFields detectDates members) r)
          (items.filterMap Json.members?) loading.records) ∧
      ∀ history r, Made history r →
        r.names.Nodup ∧ r.names = (history.map Prod.fst).eraseDups ∧
        (∀ field v, r.get? field = some v ↔ IsLastValue history field v) ∧
        (∀ field, r.get? field = none ↔ field ∉ history.map Prod.fst) ∧
        r.size = (history.map Prod.fst).toFinset.card := by
  refine ⟨.collected, fun _ _ _ => forall₂_made, ?_⟩
  intro history r hr
  have hmap := hr.isMapOf
  refine ⟨hmap.nodup, hmap.names, ?_, ?_, hmap.size⟩
  · intro field v
    rw [hmap.get?, FieldMap.lastValue?_eq_some_iff]
  · intro field
    rw [hmap.get?, FieldMap.lastValue?_eq_none_iff]

/-- An object with a repeated, a nested and a null member is loaded with a null beside it; its record
is projected onto repeated and unknown fields, and a field is inserted again. -/
theorem made_insertions_chain :
    let members : List (String × Json) :=
      [("a", .integer 1), ("b", .array []), ("c", .null), ("a", .string "2024-01-05")]
    let fields := ["c", "x", "a", "c"]
    let history := lastFields (scalarFields true members) fields ++ [("c", .boolean true)]
    ∃ loading loaded, Loading.ofJson? true (.array [.object members, .null]) = some loading ∧
      loading.records = [loaded] ∧ Made (scalarFields true members) loaded ∧
      let r := (loaded.project fields).insert "c" (.boolean true)
      Made history r ∧ r.names = ["c", "a"] ∧ r.get? "c" = some (.boolean true) ∧
        r.get? "b" = none ∧ r.size = 2 := by
  intro members fields history
  have hload := made_insertions.2.1 true [.object members, .null] _ rfl
  have hloaded : Made (scalarFields true members) (ofMembers true members) :=
    (List.forall₂_cons.1 hload).1
  refine ⟨_, ofMembers true members, rfl, rfl, hloaded, ?_⟩
  intro r
  have hmade : Made history r := .insert "c" (.boolean true) (.projected fields hloaded)
  obtain ⟨-, hnames, hlast, hnone, hsize⟩ := made_insertions.2.2 history r hmade
  have hhistory : history.map Prod.fst = ["c", "a", "c", "c"] := by decide +kernel
  rw [hhistory] at hnames hsize
  refine ⟨hmade, hnames, (hlast "c" _).2 ?_, (hnone "b").2 ?_, hsize⟩
  · exact ⟨lastFields (scalarFields true members) fields, [], rfl, by simp⟩
  · rw [hhistory]
    decide

end Record

end RecordQuery
