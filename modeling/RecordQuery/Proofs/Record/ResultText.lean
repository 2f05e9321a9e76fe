import RecordQuery.Proofs.Record.JsonRoundTrip
import RecordQuery.Record.Result

/-!
# The text of a result

A result is written in two ways: straight from its fields, and through a JSON value in which each
record has become an object.  An object holds a name once and a record does too, so no field is
merged with another one on the second way, and both give the same text (`Result.write_eq_text_toJson`).
-/

namespace RecordQuery

namespace Record

/-- The members of the object that a record becomes: its fields in their order. -/
def members (r : Record) : List (String × Json) := r.entries.map fun (name, v) => (name, v.toJson)

theorem fieldChars_eq (fields : List (String × Value)) :
    fieldChars fields = Json.memberChars (fields.map fun (name, v) => (name, v.toJson)) := by
  induction fields with
  | nil => rfl
  | cons field rest ih =>
    obtain ⟨name, v⟩ := field
    cases rest with
    | nil => rfl
    | cons field' rest =>
      simp only [List.map_cons, fieldChars, Json.memberChars] at ih ⊢
      rw [ih]

theorem write_eq_toChars (r : Record) : r.write = r.toJson.toChars := by
  rw [toJson_eq, Json.toChars, write, fieldChars_eq]

end Record

namespace Result

theorem recordChars_eq (records : List Record) :
    recordChars records = Json.itemChars (records.map Record.toJson) := by
  induction records with
  | nil => rfl
  | cons r rest ih =>
    cases rest with
    | nil => simp only [List.map_cons, List.map_nil, recordChars, Json.itemChars, r.write_eq_toChars]
    | cons r' rest =>
      simp only [List.map_cons, recordChars, Json.itemChars] at ih ⊢
      rw [ih, r.write_eq_toChars]

theorem integerText_natCast (n : Nat) : Json.integerText n = Decimal.text n := by
  have hsign : ¬ ((n : Int) < 0) := by omega
  rw [Json.integerText, Int.natAbs_natCast, decide_eq_false hsign]
  rfl

/-- The member that holds the count, if there is one. -/
def countMembers : Option Nat → List (String × Json)
  | some n => [("count", .integer n)]
  | none => []

/-- The text of the count with the comma before it, if there is one. -/
def countChars : Option Nat → List Char
  | some n => ',' :: Json.quoted "count" ++ ':' :: Decimal.text n
  | none => []

theorem toJson_eq (r : Result) :
    r.toJson = .object (("data", .array (r.data.map Record.toJson)) :: countMembers r.count) := by
  obtain ⟨data, count⟩ := r
  cases count with
  | none => rfl
  | some n => rfl

theorem memberChars_countMembers (records : Json) (count : Option Nat) :
    Json.memberChars (("data", records) :: countMembers count) =
      Json.quoted "data" ++ ':' :: records.toChars ++ countChars count := by
  cases count with
  | none => simp only [countMembers, Json.memberChars, countChars, List.append_nil]
  | some n =>
    simp only [countMembers, Json.memberChars, Json.toChars, countChars, integerText_natCast,
      List.append_assoc, List.cons_append]

theorem write_eq_append (r : Result) :
    r.write = '{' :: Json.quoted "data" ++ ':' :: '[' :: recordChars r.data ++
      ']' :: countChars r.count ++ ['}'] := by
  have hdata : "\x7b\"data\":[".toList = '{' :: Json.quoted "data" ++ [':', '['] := by decide
  have hcount : ",\"count\":".toList = ',' :: Json.quoted "count" ++ [':'] := by decide
  obtain ⟨data, count⟩ := r
  cases count with
  | none =>
    calc
      (mk data none).write =
          "\x7b\"data\":[".toList ++ recordChars data ++ [']'] ++ [] ++ ['}'] := rfl
      _ = _ := by
        rw [hdata]
        simp only [countChars, List.append_assoc, List.cons_append, List.nil_append]
  | some n =>
    calc
      (mk data (some n)).write = "\x7b\"data\":[".toList ++ recordChars data ++ [']'] ++
          (",\"count\":".toList ++ Decimal.text n) ++ ['}'] := rfl
      _ = _ := by
        rw [hdata, hcount]
        simp only [countChars, List.append_assoc, List.cons_append, List.nil_append]

theorem toChars_toJson (r : Result) : r.toJson.toChars = r.write := by
  rw [write_eq_append, recordChars_eq, toJson_eq]
  simp only [Json.toChars, memberChars_countMembers, List.append_assoc, List.cons_append,
    List.nil_append]

/-- Both ways to write a result give the same text, that of an object with the records under `data`,
each with its fields in their order, and with the count behind them if there is one. -/
theorem write_eq_text_toJson (r : Result) :
    String.ofList r.write = r.toJson.text ∧
      r.toJson = .object (("data", .array (r.data.map fun record => .object record.members)) ::
        countMembers r.count) := by
  constructor
  · rw [Json.text, toChars_toJson]
  · have hrecords : r.data.map Record.toJson = r.data.map fun record => .object record.members :=
      List.map_congr_left fun record _ => record.toJson_eq
    rw [toJson_eq, hrecords]

end Result

end RecordQuery
