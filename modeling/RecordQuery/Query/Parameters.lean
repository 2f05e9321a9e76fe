import RecordQuery.FieldMap
import RecordQuery.Text.Words

/-!
# Query parameters

A query string is a row of parameters `name=value` between ampersands, already decoded.  A question
mark in front is skipped, and so are empty places between ampersands; a parameter without an equals
sign has the empty value, and only the first equals sign counts (`Parameters.ofText`, the engine's
`split_query_string`).

Seven names are recognised, in exactly this spelling.  Of a repeated parameter the first value
counts, whatever it is.
-/

namespace RecordQuery

abbrev Parameters := List (String × String)

namespace Parameters

def ofPart (part : List Char) : String × String :=
  match Text.cutAt '=' part with
  | some (name, value) => (String.ofList name, String.ofList value)
  | none => (String.ofList part, "")

def withoutMark : List Char → List Char
  | '?' :: cs => cs
  | cs => cs

def ofText (text : String) : Parameters :=
  (((withoutMark text.toList).splitOn '&').filter (· ≠ [])).map ofPart

/-- The value that counts for a name, the first one. -/
def value? (ps : Parameters) (name : String) : Option String := ps.lookup name

end Parameters

/-- A recognised parameter. -/
inductive Parameter where
  | filter
  | orderBy
  | top
  | skip
  | select
  | count
  | search
deriving DecidableEq

namespace Parameter

def name : Parameter → String
  | filter => "$filter"
  | orderBy => "$orderby"
  | top => "$top"
  | skip => "$skip"
  | select => "$select"
  | count => "$count"
  | search => "$search"

def all : List Parameter := [filter, orderBy, top, skip, select, count, search]

/-- The parameter with the given name, spelled exactly. -/
def ofName? (name : String) : Option Parameter := all.find? fun p => p.name = name

theorem ofName?_eq_some_iff {name : String} {p : Parameter} :
    ofName? name = some p ↔ p.name = name := by
  constructor
  · intro h
    simpa using List.find?_some h
  · rintro rfl
    cases p <;> decide

theorem name_inj {p q : Parameter} : p.name = q.name ↔ p = q := by
  rw [← ofName?_eq_some_iff, ofName?_eq_some_iff.2 rfl, Option.some.injEq, eq_comm]

end Parameter

/-- What is given for the seven parameters, the engine's `RawParams`. -/
structure RawParameters where
  filter : Option String := none
  orderBy : Option String := none
  top : Option String := none
  skip : Option String := none
  select : Option String := none
  count : Option String := none
  search : Option String := none

namespace RawParameters

def slot (raw : RawParameters) : Parameter → Option String
  | .filter => raw.filter
  | .orderBy => raw.orderBy
  | .top => raw.top
  | .skip => raw.skip
  | .select => raw.select
  | .count => raw.count
  | .search => raw.search

def put (raw : RawParameters) (value : String) : Parameter → RawParameters
  | .filter => { raw with filter := some value }
  | .orderBy => { raw with orderBy := some value }
  | .top => { raw with top := some value }
  | .skip => { raw with skip := some value }
  | .select => { raw with select := some value }
  | .count => { raw with count := some value }
  | .search => { raw with search := some value }

/-- A value goes into the slot of its name, unless the slot is taken or the name unknown. -/
def offer (raw : RawParameters) (name value : String) : RawParameters :=
  match Parameter.ofName? name with
  | none => raw
  | some p => if (raw.slot p).isNone then raw.put value p else raw

end RawParameters

/-- The slots after all parameters, as `RawParams::collect` fills them. -/
def Parameters.raw (ps : Parameters) : RawParameters :=
  ps.foldl (fun raw (name, value) => raw.offer name value) {}

/-! ### Slots -/

namespace RawParameters

theorem slot_put (raw : RawParameters) (value : String) (p q : Parameter) :
    (raw.put value p).slot q = if q = p then some value else raw.slot q := by
  cases p <;> cases q <;> rfl

theorem slot_offer (raw : RawParameters) (name value : String) (p : Parameter) :
    (raw.offer name value).slot p =
      if p.name = name then (raw.slot p).or (some value) else raw.slot p := by
  rw [offer]
  cases hname : Parameter.ofName? name with
  | none =>
    have hne : p.name ≠ name := by
      intro heq
      rw [Parameter.ofName?_eq_some_iff.2 heq] at hname
      cases hname
    rw [if_neg hne]
  | some q =>
    obtain rfl := Parameter.ofName?_eq_some_iff.1 hname
    dsimp only
    cases hslot : raw.slot q with
    | none =>
      rw [Option.isNone_none, if_pos rfl, slot_put]
      by_cases heq : p = q
      · rw [if_pos heq, if_pos (Parameter.name_inj.2 heq), heq, hslot, Option.none_or]
      · rw [if_neg heq, if_neg fun h => heq (Parameter.name_inj.1 h)]
    | some first =>
      rw [Option.isNone_some, if_neg Bool.false_ne_true]
      by_cases heq : p = q
      · rw [if_pos (Parameter.name_inj.2 heq), heq, hslot, Option.some_or]
      · rw [if_neg fun h => heq (Parameter.name_inj.1 h)]

/-- Each slot keeps what it has and else takes the first value of its name. -/
theorem slot_foldl_offer (raw : RawParameters) (ps : Parameters) (p : Parameter) :
    (ps.foldl (fun raw (name, value) => raw.offer name value) raw).slot p =
      (raw.slot p).or (ps.value? p.name) := by
  induction ps generalizing raw with
  | nil => rw [List.foldl_nil, Parameters.value?, List.lookup_nil, Option.or_none]
  | cons q ps ih =>
    obtain ⟨name, value⟩ := q
    rw [List.foldl_cons, ih, slot_offer, Parameters.value?, Parameters.value?, FieldMap.lookup_cons]
    by_cases hname : p.name = name
    · rw [if_pos hname, if_pos hname, Option.or_assoc, Option.some_or]
    · rw [if_neg hname, if_neg hname]

theorem ext_slot {raw raw' : RawParameters} (h : ∀ p, raw.slot p = raw'.slot p) : raw = raw' := by
  obtain ⟨filter, orderBy, top, skip, select, count, search⟩ := raw
  obtain rfl : filter = raw'.filter := h .filter
  obtain rfl : orderBy = raw'.orderBy := h .orderBy
  obtain rfl : top = raw'.top := h .top
  obtain rfl : skip = raw'.skip := h .skip
  obtain rfl : select = raw'.select := h .select
  obtain rfl : count = raw'.count := h .count
  obtain rfl : search = raw'.search := h .search
  rfl

end RawParameters

theorem Parameters.slot_raw (ps : Parameters) (p : Parameter) :
    ps.raw.slot p = ps.value? p.name := by
  rw [raw, RawParameters.slot_foldl_offer]
  cases p <;> rfl

end RecordQuery
