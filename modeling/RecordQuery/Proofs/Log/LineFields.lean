import RecordQuery.Proofs.FieldMap.History
import RecordQuery.Proofs.Json.OneLine
import RecordQuery.Proofs.Log.LineText
import RecordQuery.Proofs.Text.ByteOrder

/-!
# The fields of a log line

The fields of an entry come in any order, and a key may come again.  On the line each key stands
once, in the order of its bytes, and with the value given for it last: a field that is put into its
place is found under its key from then on, and changes what is found under no other
(`Entry.lookup_insertSorted`).

Together with the quoting of its texts this makes every line one object with exactly these members
(`Entry.line_isOneObject`).
-/

namespace RecordQuery.Entry

open FieldMap (IsLastValue lastValue?)

/-! ### Values -/

theorem lookup_insertSorted (key value : String) (fields : List (String × String)) (k : String) :
    (insertSorted key value fields).lookup k = if k = key then some value else fields.lookup k := by
  induction fields with
  | nil => rw [insertSorted, FieldMap.lookup_cons]
  | cons first rest ih =>
    obtain ⟨k', v⟩ := first
    rw [insertSorted]
    split
    · exact FieldMap.lookup_cons key value _ k
    · next heq =>
      obtain rfl : key = k' := Std.LawfulEqCmp.eq_of_compare heq
      rw [FieldMap.lookup_cons, FieldMap.lookup_cons]
      split <;> rfl
    · next hgt =>
      have hne : k' ≠ key := by
        rintro rfl
        have hself : compare k' k' = .eq := Std.ReflCmp.compare_self
        rw [hself] at hgt
        exact absurd hgt (by decide)
      rw [FieldMap.lookup_cons, FieldMap.lookup_cons, ih]
      by_cases hk : k = k'
      · subst hk
        rw [if_pos rfl, if_neg hne, if_pos rfl]
      · rw [if_neg hk, if_neg hk]

theorem lookup_sortedFields (fields : List (String × String)) (key : String) :
    (sortedFields fields).lookup key = lastValue? fields key := by
  induction fields using List.reverseRecOn with
  | nil => rfl
  | append_singleton fields field ih =>
    rw [FieldMap.lastValue?_concat, ← ih, sortedFields_eq_foldl, List.foldl_append,
      ← sortedFields_eq_foldl]
    exact lookup_insertSorted field.1 field.2 _ key

/-- A line has the last value of every key, and no other field. -/
theorem mem_sortedFields_iff {fields : List (String × String)} {key value : String} :
    (key, value) ∈ sortedFields fields ↔ IsLastValue fields key value := by
  rw [← FieldMap.lookup_eq_some_iff_mem (sortedFields_spec fields).1.nodup, lookup_sortedFields,
    FieldMap.lastValue?_eq_some_iff]

/-! ### Lines -/

theorem isOneLine_line (e : Entry) : Text.IsOneLine e.line.toList := by
  rw [line_eq_text]
  exact Json.isOneLine_text _

/-- A line has no line break in it, whatever the texts of the entry are.  It is the text of one
object, and read as that, with the event, the severity and then the fields as members: their keys
ascend in the order of their bytes, and each has the value given for it last. -/
theorem line_isOneObject (e : Entry) (h : e.IsPlain) :
    (∀ c ∈ e.line.toList, c ≠ '\n' ∧ c ≠ '\r') ∧
      ∃ fields : List (String × String),
        let members := ("event", e.event) :: ("severity", e.severity.label) :: fields
        e.line = Json.text (.object (Json.ofStrings members)) ∧
        Json.read? e.line = some (.object (Json.ofStrings members)) ∧
        fields.Pairwise (fun field later => Text.bytes field.1 < Text.bytes later.1) ∧
        ∀ key value, (key, value) ∈ fields ↔ IsLastValue e.fields key value := by
  constructor
  · intro c hc
    have hvisible := isOneLine_line e c hc
    constructor
    · rintro rfl
      exact absurd hvisible (by decide)
    · rintro rfl
      exact absurd hvisible (by decide)
  · have hsorted : IsSorted (sortedFields e.fields) := (sortedFields_spec e.fields).1
    exact ⟨sortedFields e.fields, line_eq_text e, read?_line h,
      hsorted.imp fun hlt => Text.compare_eq_lt_iff.1 hlt, fun _ _ => mem_sortedFields_iff⟩

/-- Line breaks, quotes and a control character, in a key too, and a key that is given twice. -/
theorem line_isOneObject_breaks :
    let e : Entry :=
      ⟨.warn, "A\r\nB", [("k\"", "1"), ("é\\", "\u0000\n"), ("k\"", "2"), ("K", "\"\x7d\n\x7b\"")]⟩
    e.IsPlain ∧ (∀ c ∈ e.line.toList, c ≠ '\n' ∧ c ≠ '\r') ∧
      ∃ fields : List (String × String),
        Json.read? e.line = some (.object (Json.ofStrings
          (("event", "A\r\nB") :: ("severity", "WARN") :: fields))) ∧
        fields.Pairwise (fun field later => Text.bytes field.1 < Text.bytes later.1) ∧
        ("k\"", "2") ∈ fields ∧ ("k\"", "1") ∉ fields ∧ ("é\\", "\u0000\n") ∈ fields := by
  intro e
  have hplain : e.IsPlain := by decide +kernel
  obtain ⟨hbreaks, fields, -, hread, hsorted, hlast⟩ := line_isOneObject e hplain
  refine ⟨hplain, hbreaks, fields, hread, hsorted, ?_, ?_, ?_⟩
  · rw [hlast, ← FieldMap.lastValue?_eq_some_iff]
    decide +kernel
  · rw [hlast, ← FieldMap.lastValue?_eq_some_iff]
    decide +kernel
  · rw [hlast, ← FieldMap.lastValue?_eq_some_iff]
    decide +kernel

end RecordQuery.Entry
