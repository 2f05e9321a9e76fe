import RecordQuery.Proofs.Json.DistinctNames
import RecordQuery.Proofs.Log.Threshold
import RecordQuery.Proofs.Record.JsonRoundTrip
import RecordQuery.Proofs.Record.Making

/-!
# Accounting for a document

Nothing in an array of records vanishes without a line in the log.  An object becomes a record: its
scalar members are the fields, and each of the others is reported with its name and the position of
the object (`Loading.Divides`).  An element that is no object is reported with its position.
Positions count all elements, so they are those of the document and not those of the records
(`Loading.Accounts`).

The log of a loading consists of these reports, in the order of the document, if warnings are written
at all, and a value that is no array has neither records nor reports (`Engine.load_accounts`).  The
names in an object are distinct here, as they are in every object that was read
(`Json.hasDistinctNames_of_read?`).
-/

namespace RecordQuery

open Json (HasDistinctNames)

/-- The values of fields are the scalars. -/
theorem Value.isSome_ofJson? (detectDates : Bool) (value : Json) :
    (ofJson? detectDates value).isSome = value.isScalar := by
  cases value with
  | string s =>
    rw [ofJson?]
    split <;> rfl
  | _ => rfl

namespace Loading

/-! ### Objects -/

/-- What becomes of the members of an object, in their order: each is a field if it is a scalar, and
left out otherwise. -/
inductive Divides (detectDates : Bool) :
    List (String × Json) → List (String × Value) → List String → Prop
  | nil : Divides detectDates [] [] []
  | field {name : String} {value : Json} {v : Value} {members : List (String × Json)}
      {fields : List (String × Value)} {nested : List String} (hscalar : value.isScalar = true)
      (hv : Value.ofJson? detectDates value = some v)
      (hrest : Divides detectDates members fields nested) :
      Divides detectDates ((name, value) :: members) ((name, v) :: fields) nested
  | nested {name : String} {value : Json} {members : List (String × Json)}
      {fields : List (String × Value)} {nested : List String} (hnested : value.isScalar = false)
      (hrest : Divides detectDates members fields nested) :
      Divides detectDates ((name, value) :: members) fields (name :: nested)

/-- The names of the members that are arrays or objects. -/
def nestedNames (members : List (String × Json)) : List String :=
  (members.filter fun (_, value) => !value.isScalar).map Prod.fst

theorem divides_scalarFields (detectDates : Bool) (members : List (String × Json)) :
    Divides detectDates members (Record.scalarFields detectDates members)
      (nestedNames members) := by
  induction members with
  | nil => exact .nil
  | cons member members ih =>
    obtain ⟨name, value⟩ := member
    have hsome := Value.isSome_ofJson? detectDates value
    rw [Record.scalarFields, nestedNames]
    cases hv : Value.ofJson? detectDates value with
    | some v =>
      rw [hv, Option.isSome_some, eq_comm] at hsome
      rw [List.filterMap_cons_some (show _ = some (name, v) by simp [hv]),
        List.filter_cons_of_neg (by simp [hsome])]
      exact .field hsome hv ih
    | none =>
      rw [hv, Option.isSome_none, eq_comm] at hsome
      rw [List.filterMap_cons_none (by simp [hv]), List.filter_cons_of_pos (by simp [hsome])]
      exact .nested hsome ih

/-! ### Arrays -/

/-- What becomes of the elements of an array from a position on: an object gives a record and reports
on its nested members, and anything else gives a report. -/
inductive Accounts (detectDates : Bool) : Nat → List Json → List Record → List Skip → Prop
  | nil (position : Nat) : Accounts detectDates position [] [] []
  | object {position : Nat} {members : List (String × Json)} {r : Record} {nested : List String}
      {items : List Json} {records : List Record} {skips : List Skip}
      (hmembers : Divides detectDates members r.entries nested)
      (hrest : Accounts detectDates (position + 1) items records skips) :
      Accounts detectDates position (.object members :: items) (r :: records)
        (nested.map (Skip.field · position) ++ skips)
  | other {position : Nat} {item : Json} {items : List Json} {records : List Record}
      {skips : List Skip} (hitem : item.members? = none)
      (hrest : Accounts detectDates (position + 1) items records skips) :
      Accounts detectDates position (item :: items) records (.element position :: skips)

theorem accounts_skipsFrom (detectDates : Bool) {items : List Json} (h : HasDistinctNames items)
    (position : Nat) :
    Accounts detectDates position items (items.filterMap (Record.ofJson? detectDates))
      (skipsFrom position items) := by
  induction items generalizing position with
  | nil => exact .nil position
  | cons item items ih =>
    have hrest := ih (fun members hmem => h members (List.mem_cons_of_mem _ hmem)) (position + 1)
    cases item with
    | object members =>
      have hentries := Record.entries_ofMembers detectDates (h members List.mem_cons_self)
      have hrecord : Record.ofJson? detectDates (.object members) =
          some (Record.ofMembers detectDates members) := rfl
      have hskips : skips position (.object members) =
          (nestedNames members).map (Skip.field · position) := by
        rw [skips, nestedNames, List.map_map]
        rfl
      rw [List.filterMap_cons_some hrecord, skipsFrom, hskips]
      refine .object ?_ hrest
      rw [hentries]
      exact divides_scalarFields detectDates members
    | _ => exact .other rfl hrest

end Loading

/-! ### Reports -/

/-- What the line for a skipped part says. -/
def Skip.warning : Skip → List (String × String)
  | field name position =>
    [("event", "RECORD_FIELD_SKIPPED"), ("severity", "WARN"), ("field", name),
      ("record", countText position)]
  | element position =>
    [("event", "RECORD_FIELD_SKIPPED"), ("severity", "WARN"), ("reason", "not an object"),
      ("record", countText position)]

theorem Skip.severity_entry (s : Skip) : s.entry.severity = .warn := by
  cases s <;> rfl

theorem Skip.read?_line_entry (s : Skip) :
    Json.read? s.entry.line = some (.object (Json.ofStrings s.warning)) := by
  have hsorted : Entry.IsSorted s.entry.fields := by
    cases s with
    | field name position => exact Entry.isSorted_pair (by decide) name _
    | element position => exact Entry.isSorted_pair (by decide) _ _
  rw [Entry.read?_line_of_isSorted s.isPlain_entry hsorted]
  cases s <;> rfl

/-- The log has one line for each skipped part, in their order. -/
theorem Loading.forall₂_warning (skips : List Skip) :
    List.Forall₂ (fun skip line => Json.read? line = some (.object (Json.ofStrings skip.warning)))
      skips ((skips.map Skip.entry).map Entry.line) := by
  rw [List.map_map]
  exact List.forall₂_map_right_iff.2 (List.forall₂_same.2 fun skip _ => skip.read?_line_entry)

namespace Engine

theorem log_load_array (c : Config) (items : List Json) :
    (load c (.array items)).log =
      c.logLevel.lines ((Loading.skipsFrom 0 items).map Skip.entry) := by
  have hskips := c.logger.log_forM (Skip.logTo_eq c.logger) (Loading.skipsFrom 0 items)
  exact (List.append_nil _).trans hskips

/-- An array is loaded element by element, with a record for each object and a report on everything
else.  These reports, as warnings, are the whole log; where warnings are not written, the log is
empty.  There are no records, and no log, exactly if the value is no array. -/
theorem load_accounts (c : Config) (items : List Json) (h : HasDistinctNames items) :
    (∃ records skips,
      (load c (.array items)).value = some records ∧
      Loading.Accounts c.detectDates 0 items records skips ∧
      (c.logLevel.passes .warn = true →
        List.Forall₂
          (fun skip line => Json.read? line = some (.object (Json.ofStrings skip.warning)))
          skips (load c (.array items)).log) ∧
      (c.logLevel.passes .warn = false → (load c (.array items)).log = [])) ∧
    ∀ document,
      ((load c document).value = none ↔ ∀ elements, document ≠ .array elements) ∧
      ((load c document).value = none → (load c document).log = []) := by
  have hvalue : (load c (.array items)).value =
      some (items.filterMap (Record.ofJson? c.detectDates)) := value_load c (.array items)
  have hlog := log_load_array c items
  have hseverity : ∀ e ∈ (Loading.skipsFrom 0 items).map Skip.entry, e.severity = .warn :=
    List.forall_mem_map.2 fun skip _ => skip.severity_entry
  constructor
  · refine ⟨_, _, hvalue, Loading.accounts_skipsFrom c.detectDates h 0, ?_, ?_⟩
    · intro hpasses
      rw [hlog, Severity.lines_of_passes fun e he => by rw [hseverity e he, hpasses]]
      exact Loading.forall₂_warning _
    · intro hpasses
      rw [hlog]
      exact Severity.lines_of_not_passes fun e he => by rw [hseverity e he, hpasses]
  · intro document
    cases document with
    | array elements => simp [load, Loading.ofJson?]
    | _ => exact ⟨by simp [load, Loading.ofJson?], fun _ => rfl⟩

/-- Two objects with a nested member each, and something else between them, which is no record and
has a position all the same. -/
theorem load_accounts_mixed :
    let items : List Json :=
      [.object [("a", .bool true), ("b", .array []), ("c", .null)], .null,
        .object [("d\ne", .object [("a", .null)])]]
    let c : Config := { logLevel := .info }
    HasDistinctNames items ∧ c.logLevel.passes .warn = true ∧
      ∃ records skips,
        Loading.Accounts c.detectDates 0 items records skips ∧
        records = [.ofList [("a", .boolean true), ("c", .null)], .empty] ∧
        skips.length = 3 ∧
        List.Forall₂
          (fun skip line => Json.read? line = some (.object (Json.ofStrings skip.warning)))
          skips (load c (.array items)).log := by
  intro items c
  have hnames : HasDistinctNames items := by
    simp [items, HasDistinctNames]
  have hpasses : c.logLevel.passes .warn = true := rfl
  obtain ⟨⟨records, skips, hvalue, haccounts, hlog, -⟩, -⟩ := load_accounts c items hnames
  have hrecords : (load c (.array items)).value =
      some [.ofList [("a", .boolean true), ("c", .null)], .empty] := by
    decide +kernel
  rw [hvalue, Option.some.injEq] at hrecords
  have hlines : (load c (.array items)).log.length = 3 := by decide +kernel
  refine ⟨hnames, hpasses, records, skips, haccounts, hrecords, ?_, hlog hpasses⟩
  rw [(hlog hpasses).length_eq, hlines]

end Engine

end RecordQuery
