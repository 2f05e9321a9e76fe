import Mathlib.Data.List.Forall2
import RecordQuery.Proofs.Instant.SignedYear
import RecordQuery.Proofs.Record.JsonRoundTrip

/-!
# Loading what was written

Every value of a record is written as a scalar and every scalar is loaded as a value, so a written
record is always loaded again, with the same names in the same order.  Two main statements say which
values come back equal, numbers compared as numbers.

* Loaded as they are, those that JSON has itself: all but dates and numbers that are not finite
  (`Record.ofJson_toJson`).
* Loaded with dates detected, of what was loaded in this way before: all but the dates outside the
  years 0 to 9999, which come back as strings (`Record.ofJson_toJson_dates`).
-/

namespace RecordQuery

/-! ### Values -/

namespace Value

/-- JSON has such a value itself.  A date it has only by its text, and of the numbers only the
finite ones. -/
def IsNative : Value → Prop
  | number n => n.isFinite = true
  | date _ => False
  | boolean _ | string _ | null => True

/-- What can be loaded while dates are detected: finite numbers, and of the strings those that name
no instant. -/
def IsDetected : Value → Prop
  | number n => n.isFinite = true
  | string s => Instant.ofText? s.toList = none
  | boolean _ | date _ | null => True

/-- The value is no date outside the years 0 to 9999. -/
def IsDetectable : Value → Prop
  | date t => t.HasPlainYear
  | _ => True

theorem exists_ofJson?_toJson (detectDates : Bool) (v : Value) :
    ∃ w, ofJson? detectDates v.toJson = some w := by
  have hstring : ∀ s, ∃ w, ofJson? detectDates (.string s) = some w := by
    intro s
    rw [ofJson?]
    split
    · exact ⟨_, rfl⟩
    · exact ⟨_, rfl⟩
  cases v with
  | number n =>
    rw [toJson, numberToJson]
    split
    · exact ⟨_, rfl⟩
    · split
      · exact ⟨_, rfl⟩
      · exact ⟨_, rfl⟩
  | boolean b => exact ⟨_, rfl⟩
  | string s => exact hstring s
  | date t => exact hstring t.text
  | null => exact ⟨_, rfl⟩

/-- A finite number is written as an integer or as it is, and comes back equal either way. -/
theorem ofJson?_numberToJson (detectDates : Bool) {n : Number} (h : n.isFinite = true) :
    ∃ m, ofJson? detectDates (numberToJson n) = some (number m) ∧ m.equals n = true := by
  obtain ⟨v, hv⟩ := Number.isFinite_iff.1 h
  cases hinteger : n.integer? with
  | some i =>
    refine ⟨.ofInt i, ?_, Number.equals_ofInt_of_integer? hinteger hv⟩
    simp only [numberToJson, hinteger, ofJson?]
  | none =>
    refine ⟨n, ?_, Number.equals_of_units?_eq_some hv hv⟩
    simp only [numberToJson, hinteger, h, if_true, ofJson?]

theorem numberToJson_of_not_isFinite {n : Number} (h : n.isFinite = false) :
    numberToJson n = .null := by
  rcases Number.eq_of_not_isFinite h with rfl | ⟨negative, rfl⟩
  · rfl
  · have hlarge : ¬ (Magnitude.infinity.units % Magnitude.one = 0 ∧
        Magnitude.infinity.units / Magnitude.one ≤ Number.exactLimit) := by decide +kernel
    have hinteger : (Number.real negative .infinity).integer? = none := by
      rw [Number.integer?]
      exact if_neg hlarge
    simp only [numberToJson, hinteger, h, Bool.false_eq_true, if_false]

theorem equals_iff_isNative {v w : Value} (h : ofJson? false v.toJson = some w) :
    w.equals v = true ↔ v.IsNative := by
  cases v with
  | number n =>
    cases hfinite : n.isFinite with
    | true =>
      obtain ⟨m, hm, hequals⟩ := ofJson?_numberToJson false hfinite
      obtain rfl : number m = w := Option.some.inj (hm.symm.trans h)
      exact iff_of_true hequals hfinite
    | false =>
      rw [toJson, numberToJson_of_not_isFinite hfinite] at h
      obtain rfl : null = w := Option.some.inj h
      exact iff_of_false Bool.false_ne_true (by simp [IsNative, hfinite])
  | boolean b =>
    obtain rfl : boolean b = w := Option.some.inj h
    exact iff_of_true (beq_self_eq_true b) trivial
  | string s =>
    obtain rfl : string s = w := Option.some.inj h
    exact iff_of_true (beq_self_eq_true s) trivial
  | date t =>
    obtain rfl : string t.text = w := Option.some.inj h
    exact iff_of_false Bool.false_ne_true id
  | null =>
    obtain rfl : null = w := Option.some.inj h
    exact iff_of_true rfl trivial

/-! ### Detected dates -/

theorem isDetected_of_ofJson? {j : Json} {v : Value} (hdatum : j.isScalar = true → j.IsDatum)
    (h : ofJson? true j = some v) : v.IsDetected := by
  cases j with
  | null =>
    obtain rfl : null = v := Option.some.inj h
    trivial
  | bool b =>
    obtain rfl : boolean b = v := Option.some.inj h
    trivial
  | integer i =>
    obtain rfl : number (.ofInt i) = v := Option.some.inj h
    obtain ⟨hlow, hhigh⟩ := hdatum rfl
    exact Number.isFinite_ofInt (by omega)
  | decimal x =>
    obtain rfl : number x = v := Option.some.inj h
    exact hdatum rfl
  | string s =>
    simp only [ofJson?, if_true] at h
    split at h
    · obtain rfl := Option.some.inj h
      trivial
    · next hnone =>
      obtain rfl := Option.some.inj h
      exact hnone
  | array => exact absurd h (by simp [ofJson?])
  | object => exact absurd h (by simp [ofJson?])

theorem ofJson?_text {t : Instant} (h : t.HasPlainYear) :
    ofJson? true (date t).toJson = some (date t) := by
  have htext : Instant.ofText? t.text.toList = some t := by
    rw [Instant.text, String.toList_ofList, Instant.ofText?_toChars h]
  simp only [toJson, ofJson?, if_true, htext]

theorem ofJson?_text_of_signed {t : Instant} (h : ¬ t.HasPlainYear) :
    ofJson? true (date t).toJson = some (string t.text) := by
  have htext : Instant.ofText? t.text.toList = none := by
    rw [Instant.text, String.toList_ofList, Instant.ofText?_toChars_eq_none h]
  simp only [toJson, ofJson?, if_true, htext]

/-- A value that was loaded with dates detected comes back equal, unless it is a date with a signed
year. -/
theorem equals_iff_isDetectable {v w : Value} (hv : v.IsDetected)
    (h : ofJson? true v.toJson = some w) : w.equals v = true ↔ v.IsDetectable := by
  cases v with
  | number n =>
    obtain ⟨m, hm, hequals⟩ := ofJson?_numberToJson true hv
    obtain rfl : number m = w := Option.some.inj (hm.symm.trans h)
    exact iff_of_true hequals trivial
  | boolean b =>
    obtain rfl : boolean b = w := Option.some.inj h
    exact iff_of_true (beq_self_eq_true b) trivial
  | string s =>
    have hnone : Instant.ofText? s.toList = none := hv
    simp only [toJson, ofJson?, if_true, hnone, Option.some.injEq] at h
    subst h
    exact iff_of_true (beq_self_eq_true s) trivial
  | date t =>
    by_cases hyear : t.HasPlainYear
    · obtain rfl : date t = w := Option.some.inj ((ofJson?_text hyear).symm.trans h)
      exact iff_of_true (beq_self_eq_true t) hyear
    · obtain rfl : string t.text = w :=
        Option.some.inj ((ofJson?_text_of_signed hyear).symm.trans h)
      exact iff_of_false Bool.false_ne_true hyear
  | null =>
    obtain rfl : null = w := Option.some.inj h
    exact iff_of_true rfl trivial

end Value

/-! ### Records -/

namespace Record

/-- The second field is what the first one is loaded as after it was written. -/
structure IsReloaded (detectDates : Bool) (field field' : String × Value) : Prop where
  name : field'.1 = field.1
  value : Value.ofJson? detectDates field.2.toJson = some field'.2

theorem forall₂_isReloaded (detectDates : Bool) (entries : List (String × Value)) :
    List.Forall₂ (IsReloaded detectDates) entries
      ((entries.map fun (name, v) => (name, v.toJson)).filterMap fun (name, value) =>
        (Value.ofJson? detectDates value).map fun v => (name, v)) := by
  induction entries with
  | nil => exact .nil
  | cons field rest ih =>
    obtain ⟨name, v⟩ := field
    obtain ⟨w, hw⟩ := Value.exists_ofJson?_toJson detectDates v
    rw [List.map_cons, List.filterMap_cons_some (show _ = some (name, w) by simp [hw])]
    exact .cons ⟨rfl, hw⟩ ih

theorem exists_reloaded (detectDates : Bool) (r : Record) :
    ∃ s : Record, ofJson? detectDates r.toJson = some s ∧
      List.Forall₂ (IsReloaded detectDates) r.entries s.entries := by
  have hnodup : ((r.entries.map fun (name, v) => (name, v.toJson)).map Prod.fst).Nodup := by
    rw [List.map_map]
    exact r.nodup
  refine ⟨_, by rw [toJson_eq, ofJson?], ?_⟩
  rw [entries_ofMembers detectDates hnodup]
  exact forall₂_isReloaded detectDates r.entries

theorem names_eq_of_forall₂ {r s : Record} {related : String × Value → String × Value → Prop}
    (hname : ∀ field field', related field field' → field'.1 = field.1)
    (h : List.Forall₂ related r.entries s.entries) : s.names = r.names := by
  rw [FieldMap.names, FieldMap.names, ← List.forall₂_eq_eq_eq, List.forall₂_map_left_iff,
    List.forall₂_map_right_iff]
  exact h.flip.imp fun field' field hfield => hname field field' hfield

/-- Fields with the same names are equal exactly if all their values are. -/
theorem equalEntries_iff_of_forall₂ {P : Value → Prop} {fields fields' : List (String × Value)}
    (h : List.Forall₂ (fun field field' =>
      field'.1 = field.1 ∧ (field'.2.equals field.2 = true ↔ P field.2)) fields fields') :
    equalEntries fields' fields = true ↔ ∀ field ∈ fields, P field.2 := by
  induction h with
  | nil => exact iff_of_true rfl fun _ hmem => absurd hmem List.not_mem_nil
  | cons hfield _ ih =>
    simp only [equalEntries, Bool.and_eq_true, hfield.1, beq_self_eq_true, true_and, hfield.2, ih,
      List.forall_mem_cons]

/-- A record is loaded from what was written, with the same names in the same order, and the two are
equal exactly if JSON has all the values itself. -/
theorem ofJson_toJson (r : Record) :
    ∃ s : Record, ofJson? false r.toJson = some s ∧ s.names = r.names ∧
      (s.equals r = true ↔ ∀ field ∈ r.entries, field.2.IsNative) := by
  obtain ⟨s, hs, hfields⟩ := exists_reloaded false r
  refine ⟨s, hs, names_eq_of_forall₂ (fun _ _ hfield => hfield.name) hfields, ?_⟩
  apply equalEntries_iff_of_forall₂
  exact hfields.imp fun field field' hfield =>
    ⟨hfield.name, Value.equals_iff_isNative hfield.value⟩

/-! ### Records with detected dates -/

/-- The second field is what the first one comes back as while dates are detected. -/
structure ComesBackDated (field field' : String × Value) : Prop where
  name : field'.1 = field.1
  equals_iff : field'.2.equals field.2 = true ↔ field.2.IsDetectable
  text : ∀ t, field.2 = .date t → ¬ t.HasPlainYear → field'.2 = .string t.text

theorem IsReloaded.comesBackDated {field field' : String × Value} (h : IsReloaded true field field')
    (hdetected : field.2.IsDetected) : ComesBackDated field field' := by
  refine ⟨h.name, Value.equals_iff_isDetectable hdetected h.value, ?_⟩
  intro t ht hyear
  have hvalue := h.value
  rw [ht, Value.ofJson?_text_of_signed hyear] at hvalue
  exact (Option.some.inj hvalue).symm

theorem isDetected_of_mem_ofMembers {members : List (String × Json)}
    (hdata : ∀ member ∈ members, member.2.isScalar = true → member.2.IsDatum) :
    ∀ field ∈ (ofMembers true members).entries, field.2.IsDetected := by
  intro field hfield
  obtain ⟨member, hmember, hvalue⟩ := List.mem_filterMap.1 (FieldMap.mem_of_mem_ofList hfield)
  obtain ⟨v, hv, rfl⟩ := Option.map_eq_some_iff.1 hvalue
  exact Value.isDetected_of_ofJson? (hdata member hmember) hv

/-- What was loaded with dates detected is written and loaded again field by field: a date outside
the years 0 to 9999 comes back as its text, and all else comes back equal. -/
theorem ofJson_toJson_dates (members : List (String × Json))
    (hdata : ∀ member ∈ members, member.2.isScalar = true → member.2.IsDatum) :
    ∃ r s : Record, ofJson? true (.object members) = some r ∧ ofJson? true r.toJson = some s ∧
      List.Forall₂ ComesBackDated r.entries s.entries ∧
      (s.equals r = true ↔ ∀ field ∈ r.entries, field.2.IsDetectable) := by
  obtain ⟨s, hs, hreloaded⟩ := exists_reloaded true (ofMembers true members)
  have hfields : List.Forall₂ ComesBackDated (ofMembers true members).entries s.entries :=
    ((List.forall₂_and_left _ _).2 ⟨isDetected_of_mem_ofMembers hdata, hreloaded⟩).imp
      fun _ _ hfield => hfield.2.comesBackDated hfield.1
  refine ⟨ofMembers true members, s, rfl, hs, hfields, ?_⟩
  apply equalEntries_iff_of_forall₂
  exact hfields.imp fun field field' hfield => ⟨hfield.name, hfield.equals_iff⟩

/-- The last leap second that keeps its year, a loose date of a signed year, an offset that leads
out of the years of four digits, a date that is none, the negative zero and a nested value. -/
theorem ofJson_toJson_dates_extremes :
    let members : List (String × Json) :=
      [("last", .string "9999-12-31T23:59:60.5Z"), ("loose", .string "+5-1- 5"),
        ("before", .string "0000-01-01T00:30:00+01:00"), ("none", .string "2024-13-45"),
        ("zero", .decimal (.real true .zero)), ("nested", .array [.decimal .nan])]
    (∀ member ∈ members, member.2.isScalar = true → member.2.IsDatum) ∧
      ∃ r s : Record, ofJson? true (.object members) = some r ∧ ofJson? true r.toJson = some s ∧
        List.Forall₂ ComesBackDated r.entries s.entries ∧
        (s.equals r = true ↔ ∀ field ∈ r.entries, field.2.IsDetectable) := by
  intro members
  have hdata : ∀ member ∈ members, member.2.isScalar = true → member.2.IsDatum := by decide
  exact ⟨hdata, ofJson_toJson_dates members hdata⟩

/-- A date of the year 12345 is detected, and its text is not. -/
theorem ofJson_toJson_dates_signed :
    let document : Json := .object [("d", .string "+12345-01-05")]
    let written : Json := .object [("d", .string "+12345-01-05T00:00:00Z")]
    ∃ r s : Record, ofJson? true document = some r ∧ r.toJson = written ∧
      ofJson? true written = some s ∧ s.equals r = false := by
  intro document written
  refine ⟨_, _, rfl, ?_, rfl, ?_⟩
  · rfl
  · rfl

end Record

end RecordQuery
