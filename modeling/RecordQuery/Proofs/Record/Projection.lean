import RecordQuery.Proofs.FieldMap.History
import RecordQuery.Record.Basic

/-!
# Projections

A projection is the map of a history of its own: the requested fields that the record has, in the
order of the request, with the values of the record.  Everything said here comes from that history.
Its names without their repetitions are the fields of the projection (`Record.names_project`).
Under a requested field the record's own value is listed each time, so it is also the one inserted
last (`Record.get?_project`).

A second projection therefore sees the record itself, less the fields that were not requested first,
and two projections are the one onto those fields of the second request that the first one names
(`Record.project_project`).
-/

namespace RecordQuery.Record

open FieldMap (IsMapOf lastValue?)

/-- The requested fields that the record has, with its values. -/
def requested (r : Record) (fields : List String) : List (String × Value) :=
  fields.filterMap fun field => (r.get? field).map fun v => (field, v)

theorem isMapOf_requested (r : Record) (fields : List String) :
    IsMapOf (r.requested fields) (r.project fields) :=
  FieldMap.isMapOf_ofList _

theorem map_fst_requested (r : Record) (fields : List String) :
    (r.requested fields).map Prod.fst = fields.filter (· ∈ r.names) := by
  rw [requested, List.map_filterMap, ← List.filterMap_eq_filter]
  apply List.filterMap_congr
  intro field _
  have hnames : field ∈ r.names ↔ (r.get? field).isSome := FieldMap.isSome_get?_iff.symm
  cases hfield : r.get? field with
  | none => simp [Option.guard, hnames, hfield]
  | some v => simp [Option.guard, hnames, hfield]

theorem lastValue?_requested (r : Record) (fields : List String) (field : String) :
    lastValue? (r.requested fields) field = if field ∈ fields then r.get? field else none := by
  rw [lastValue?, requested, ← List.filterMap_reverse, FieldMap.lookup_filterMap]
  simp only [List.mem_reverse]

/-- The fields of a projection are the requested ones that the record has, each where it was
requested first. -/
theorem names_project (r : Record) (fields : List String) :
    (r.project fields).names = (fields.filter (· ∈ r.names)).eraseDups := by
  rw [(r.isMapOf_requested fields).names, map_fst_requested]

/-- A projection has the record's value for a requested field and none for any other. -/
theorem get?_project (r : Record) (fields : List String) (field : String) :
    (r.project fields).get? field = if field ∈ fields then r.get? field else none := by
  rw [(r.isMapOf_requested fields).get?, lastValue?_requested]

theorem project_project (r : Record) (first second : List String) :
    (r.project first).project second = r.project (second.filter (· ∈ first)) := by
  have hrequested :
      (r.project first).requested second = r.requested (second.filter (· ∈ first)) := by
    rw [requested, requested, List.filterMap_filter]
    apply List.filterMap_congr
    intro field _
    rw [get?_project]
    by_cases hfield : field ∈ first
    · simp [hfield]
    · simp [hfield]
  exact congrArg FieldMap.ofList hrequested

theorem project_project_self (r : Record) (fields : List String) :
    (r.project fields).project fields = r.project fields := by
  have hself : fields.filter (· ∈ fields) = fields := by
    rw [List.filter_eq_self]
    intro field hfield
    exact decide_eq_true hfield
  rw [project_project, hself]

/-- The fields of a projection are those of the request that the record has, each once and in the
order of the request, with the values of the record, null or not.  Of two projections in turn only
the fields of both requests are left, in the order of the second; so the same projection made twice
is the one made once. -/
theorem project_shape_and_composition (r : Record) (fields others : List String) :
    (r.project fields).names.Nodup ∧
      (r.project fields).names = (fields.filter (· ∈ r.names)).eraseDups ∧
      (∀ field v, (r.project fields).get? field = some v ↔
        field ∈ fields ∧ r.get? field = some v) ∧
      (r.project fields).project others = r.project (others.filter (· ∈ fields)) ∧
      (r.project fields).project fields = r.project fields := by
  refine ⟨(r.project fields).nodup_names, names_project r fields, ?_,
    project_project r fields others, project_project_self r fields⟩
  intro field v
  rw [get?_project, Option.ite_none_right_eq_some]

/-- Neither a repeated nor an unknown field disturbs the order, and a null stays a null. -/
example :
    let r : Record := .ofList [("active", .boolean true), ("note", .null), ("code", .string "X")]
    (r.project ["code", "size", "note", "code"]).entries =
        [("code", .string "X"), ("note", .null)] ∧
      ((r.project ["code", "note"]).project ["note", "active", "note", "code"]).names =
        ["note", "code"] := by
  decide +kernel

end RecordQuery.Record
