import RecordQuery.Proofs.FieldMap
import RecordQuery.Proofs.Number.Integers
import RecordQuery.Record.Basic

/-!
# Records from JSON and back

An object of scalars becomes a record and an object again, with the same names in the same order.
What a record cannot keep is an integer that is not a number of it: that comes back as the nearest
number.  Every other scalar comes back as it was, where numbers count by their values and not by
their spellings (`Record.toJson_ofJson`).
-/

namespace RecordQuery

namespace Json

/-- The exact value of a number, in units of 2⁻¹⁰⁷⁴. -/
def units? : Json → Option Int
  | integer i => some (i * Magnitude.one)
  | decimal x => x.units?
  | _ => none

/-- The scalars of JSON, with integers of 64 bits, signed or not, and finite numbers. -/
def IsDatum : Json → Prop
  | integer i => -2 ^ 63 ≤ i ∧ i < 2 ^ 64
  | decimal x => x.isFinite = true
  | array _ | object _ => False
  | _ => True

instance : DecidablePred IsDatum
  | integer i => inferInstanceAs (Decidable (-2 ^ 63 ≤ i ∧ i < 2 ^ 64))
  | decimal x => inferInstanceAs (Decidable (x.isFinite = true))
  | array _ | object _ => isFalse id
  | null | bool _ | string _ => isTrue trivial

/-- The same scalars, where it is enough for two numbers that their values are related. -/
inductive SameUpTo (related : Int → Int → Prop) : Json → Json → Prop
  | null : SameUpTo related null null
  | bool (b : Bool) : SameUpTo related (bool b) (bool b)
  | string (s : String) : SameUpTo related (string s) (string s)
  | number {v w : Json} {n m : Int} (hv : v.units? = some n) (hw : w.units? = some m)
      (h : related n m) : SameUpTo related v w

/-- The scalars are the same, numbers by their exact values. -/
abbrev Same : Json → Json → Prop := SameUpTo fun n m => m = n

/-- The second scalar has the nearest number where the first one has a number. -/
abbrev Rounded : Json → Json → Prop :=
  SameUpTo fun n m => ∃ x : Number, x.IsNearest n ∧ x.units? = some m

/-- The scalar is not an integer with too many digits for a number. -/
def IsKept : Json → Prop
  | integer i => Number.FitsFraction i
  | _ => True

theorem same_number_iff {v w : Json} {n m : Int} (hv : v.units? = some n) (hw : w.units? = some m) :
    Same v w ↔ m = n := by
  constructor
  · intro h
    cases h with
    | null => exact absurd hv (by simp [units?])
    | bool => exact absurd hv (by simp [units?])
    | string => exact absurd hv (by simp [units?])
    | number hv' hw' h =>
      rw [hv, Option.some.injEq] at hv'
      rw [hw, Option.some.injEq] at hw'
      rw [hv', hw', h]
  · intro h
    exact .number hv hw h

end Json

/-! ### Values -/

namespace Value

open Json

/-- A finite number is written with its exact value, as an integer or as it is. -/
theorem units?_numberToJson {x : Number} {v : Int} (h : x.units? = some v) :
    (numberToJson x).units? = some v := by
  cases hinteger : x.integer? with
  | some i => simp only [numberToJson, hinteger, Json.units?, Number.eq_of_integer? hinteger h]
  | none =>
    have hfinite := Number.isFinite_iff.2 ⟨v, h⟩
    simp only [numberToJson, hinteger, hfinite, if_true, Json.units?, h]

theorem rounded_numberToJson {v : Json} {n : Int} {x : Number} (hv : v.units? = some n)
    (hx : x.IsNearest n) :
    Rounded v (numberToJson x) ∧
      (Same v (numberToJson x) ↔ ∃ y : Number, y.units? = some n) := by
  obtain ⟨m, hm, -⟩ := id hx
  have hwritten := units?_numberToJson hm
  constructor
  · exact .number hv hwritten ⟨x, hx, hm⟩
  · rw [same_number_iff hv hwritten, ← hx.units?_eq_some_iff, hm, Option.some.injEq]

/-- A scalar is kept, or an integer among the numbers is rounded. -/
theorem rounded_toJson {v : Json} (h : v.IsDatum) :
    ∃ value, ofJson? false v = some value ∧ Rounded v value.toJson ∧
      (Same v value.toJson ↔ v.IsKept) := by
  cases v with
  | null => exact ⟨null, rfl, .null, iff_of_true .null trivial⟩
  | bool b => exact ⟨boolean b, rfl, .bool b, iff_of_true (.bool b) trivial⟩
  | string s => exact ⟨string s, rfl, .string s, iff_of_true (.string s) trivial⟩
  | integer i =>
    have hrange : i.natAbs ≤ 2 ^ 64 := by
      obtain ⟨hlow, hhigh⟩ := h
      omega
    have hnearest := Number.isNearest_ofInt (Number.isFinite_ofInt hrange)
    obtain ⟨hrounded, hsame⟩ := rounded_numberToJson (v := .integer i) rfl hnearest
    exact ⟨number (.ofInt i), rfl, hrounded, hsame.trans (Number.exists_units?_eq_iff hrange)⟩
  | decimal x =>
    obtain ⟨n, hn⟩ := Number.isFinite_iff.1 h
    obtain ⟨hrounded, hsame⟩ :=
      rounded_numberToJson (v := .decimal x) hn (Number.isNearest_self hn)
    exact ⟨number x, rfl, hrounded, hsame.trans (iff_of_true ⟨x, hn⟩ trivial)⟩
  | array => exact absurd h id
  | object => exact absurd h id

end Value

/-! ### Records -/

namespace Record

theorem toJson_eq (r : Record) :
    r.toJson = .object (r.entries.map fun (name, v) => (name, v.toJson)) := by
  have hnodup : ((r.entries.map fun (name, v) => (name, v.toJson)).map Prod.fst).Nodup := by
    rw [List.map_map]
    exact r.nodup
  have hinsert := @FieldMap.foldl_insertEntry Json [] _ hnodup
  rw [List.foldl_map] at hinsert
  exact congrArg Json.object hinsert

theorem entries_ofMembers (detectDates : Bool) {members : List (String × Json)}
    (hnodup : (members.map Prod.fst).Nodup) :
    (ofMembers detectDates members).entries = members.filterMap fun (name, value) =>
      (Value.ofJson? detectDates value).map fun v => (name, v) :=
  FieldMap.entries_ofList ((FieldMap.sublist_names_filterMap _ members).nodup hnodup)

/-- The second member is what the first one comes back as. -/
structure ComesBackAs (member member' : String × Json) : Prop where
  name : member'.1 = member.1
  rounded : Json.Rounded member.2 member'.2
  same_iff : Json.Same member.2 member'.2 ↔ member.2.IsKept

theorem forall₂_comesBackAs {members : List (String × Json)}
    (hdata : ∀ member ∈ members, member.2.IsDatum) :
    List.Forall₂ ComesBackAs members
      ((members.filterMap fun (name, value) =>
        (Value.ofJson? false value).map fun v => (name, v)).map fun (name, v) => (name, v.toJson)) := by
  induction members with
  | nil => exact .nil
  | cons member rest ih =>
    obtain ⟨name, value⟩ := member
    obtain ⟨v, hv, hrounded, hsame⟩ := Value.rounded_toJson (hdata _ List.mem_cons_self)
    have hrest := ih fun member hmem => hdata member (List.mem_cons_of_mem _ hmem)
    rw [List.filterMap_cons_some (show _ = some (name, v) by simp [hv]), List.map_cons]
    exact .cons ⟨rfl, hrounded, hsame⟩ hrest

/-- An object of scalars comes back with the same names in the same order.  Its numbers come back as
the nearest numbers; they and all other scalars come back the same, except for the integers that do
not fit. -/
theorem toJson_ofJson (members : List (String × Json)) (hnodup : (members.map Prod.fst).Nodup)
    (hdata : ∀ member ∈ members, member.2.IsDatum) :
    ∃ r written, ofJson? false (.object members) = some r ∧ r.toJson = .object written ∧
      List.Forall₂ ComesBackAs members written := by
  refine ⟨ofMembers false members, _, rfl, toJson_eq _, ?_⟩
  rw [entries_ofMembers false hnodup]
  exact forall₂_comesBackAs hdata

/-- Integers at both ends of the range, the negative zero, the least positive number and a string
that names a day. -/
theorem toJson_ofJson_ends :
    let members : List (String × Json) :=
      [("least", .integer (-9223372036854775808)), ("greatest", .integer 18446744073709551615),
        ("zero", .decimal (.real true .zero)), ("tiny", .decimal (.real false (.ofCode 1))),
        ("day", .string "2024-01-05"), ("flag", .bool true), ("gone", .null)]
    (members.map Prod.fst).Nodup ∧ (∀ member ∈ members, member.2.IsDatum) ∧
      ∃ r written, ofJson? false (.object members) = some r ∧ r.toJson = .object written ∧
        List.Forall₂ ComesBackAs members written := by
  intro members
  have hnodup : (members.map Prod.fst).Nodup := by decide
  have hdata : ∀ member ∈ members, member.2.IsDatum := by decide
  exact ⟨hnodup, hdata, toJson_ofJson members hnodup hdata⟩

/-- The first integer that is not a number comes back as another one. -/
theorem toJson_ofJson_inexact :
    let members : List (String × Json) := [("n", .integer 9007199254740993)]
    let written : List (String × Json) := [("n", .integer 9007199254740992)]
    (members.map Prod.fst).Nodup ∧ (∀ member ∈ members, member.2.IsDatum) ∧
      (ofJson? false (.object members)).map toJson = some (.object written) ∧
      ¬ List.Forall₂ (fun member member' => member'.1 = member.1 ∧ Json.Same member.2 member'.2)
        members written := by
  intro members written
  have hinteger : (Number.ofInt 9007199254740993).integer? = some 9007199254740992 := by
    decide +kernel
  have hwritten : Value.numberToJson (.ofInt 9007199254740993) = .integer 9007199254740992 := by
    simp only [Value.numberToJson, hinteger]
  refine ⟨by decide, by decide, ?_, ?_⟩
  · exact congrArg (fun value => some (Json.object [("n", value)])) hwritten
  · intro hsame
    have heq := (Json.same_number_iff rfl rfl).1 (List.forall₂_cons.1 hsame).1.2
    exact absurd heq (by decide +kernel)

end Record

end RecordQuery
