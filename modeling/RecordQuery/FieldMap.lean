/-!
# Insertion-ordered maps

A `FieldMap` assigns values to names and remembers the order in which the names came.  Inserting
under a name that is there replaces the value and keeps the place; any other name goes to the
end.  Names are distinct, which the type records: a record holds a field once, an order has one
direction for a field.

Main statements: `names_insert` and `get?_insert` say what an insertion does to the two views of a
map, the list of its names and the look-up.
-/

namespace RecordQuery

namespace FieldMap

/-- The entries with the value under the name replaced in its place or added at the end. -/
def insertEntry {α : Type} (name : String) (value : α) : List (String × α) → List (String × α)
  | [] => [(name, value)]
  | (n, v) :: rest =>
    if n = name then (n, value) :: rest else (n, v) :: insertEntry name value rest

/-- A name that is there stays where it is, a new one goes to the end. -/
theorem names_insertEntry {α : Type} (name : String) (value : α) (entries : List (String × α)) :
    (insertEntry name value entries).map Prod.fst =
      if name ∈ entries.map Prod.fst then entries.map Prod.fst
      else entries.map Prod.fst ++ [name] := by
  induction entries with
  | nil => simp [insertEntry]
  | cons e rest ih =>
    obtain ⟨n, v⟩ := e
    rw [insertEntry]
    split
    · next h => simp [h]
    · next h =>
      simp only [List.map_cons, ih, List.mem_cons, Ne.symm h, false_or]
      split <;> simp

theorem nodup_insertEntry {α : Type} {name : String} {value : α} {entries : List (String × α)}
    (h : (entries.map Prod.fst).Nodup) : ((insertEntry name value entries).map Prod.fst).Nodup := by
  rw [names_insertEntry]
  split
  · exact h
  · next hname =>
    rw [List.nodup_append]
    refine ⟨h, by simp, fun n hn m hm hnm => hname ?_⟩
    rw [List.mem_singleton] at hm
    exact hm ▸ hnm ▸ hn

theorem lookup_cons {α : Type} (name : String) (value : α) (entries : List (String × α))
    (n : String) :
    ((name, value) :: entries).lookup n = if n = name then some value else entries.lookup n := by
  by_cases h : n = name
  · simp [h]
  · have hb : (n == name) = false := by simpa using h
    rw [List.lookup_cons, hb, if_neg h]

theorem lookup_insertEntry {α : Type} (name : String) (value : α) (entries : List (String × α))
    (n : String) :
    (insertEntry name value entries).lookup n =
      if n = name then some value else entries.lookup n := by
  induction entries with
  | nil => simp [insertEntry, lookup_cons]
  | cons e rest ih =>
    obtain ⟨m, v⟩ := e
    rw [insertEntry]
    split
    · next h =>
      subst h
      by_cases hn : n = m <;> simp [lookup_cons, hn]
    · next h =>
      rw [lookup_cons, lookup_cons, ih]
      by_cases hn : n = m
      · subst hn; simp [h]
      · simp [hn]

end FieldMap

/-- An insertion-ordered map from names to values. -/
structure FieldMap (α : Type) where
  entries : List (String × α)
  nodup : (entries.map Prod.fst).Nodup
deriving DecidableEq

namespace FieldMap

variable {α : Type}

def empty : FieldMap α := ⟨[], by simp⟩

instance : Inhabited (FieldMap α) := ⟨empty⟩

/-- The names in the order of their first insertion. -/
def names (m : FieldMap α) : List String := m.entries.map Prod.fst

def get? (m : FieldMap α) (name : String) : Option α := m.entries.lookup name

def contains (m : FieldMap α) (name : String) : Bool := (m.get? name).isSome

def size (m : FieldMap α) : Nat := m.entries.length

def isEmpty (m : FieldMap α) : Bool := m.entries.isEmpty

def insert (m : FieldMap α) (name : String) (value : α) : FieldMap α :=
  ⟨insertEntry name value m.entries, nodup_insertEntry m.nodup⟩

def ofList (entries : List (String × α)) : FieldMap α :=
  entries.foldl (fun m (name, value) => m.insert name value) empty

/-! ### The two views -/

@[simp] theorem names_empty : (empty : FieldMap α).names = [] := rfl

@[simp] theorem get?_empty (name : String) : (empty : FieldMap α).get? name = none := rfl

/-- Insertion adds a new name at the end. -/
theorem names_insert (m : FieldMap α) (name : String) (value : α) :
    (m.insert name value).names = if name ∈ m.names then m.names else m.names ++ [name] :=
  names_insertEntry name value m.entries

/-- The inserted value is found under its name and all others as before. -/
theorem get?_insert (m : FieldMap α) (name : String) (value : α) (n : String) :
    (m.insert name value).get? n = if n = name then some value else m.get? n :=
  lookup_insertEntry name value m.entries n

theorem nodup_names (m : FieldMap α) : m.names.Nodup := m.nodup

end FieldMap

end RecordQuery
