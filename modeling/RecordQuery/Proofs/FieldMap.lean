import RecordQuery.FieldMap

/-!
# Entries of a map

A map is determined by its entries in order, and inserting them in turn builds it again.  In a list
whose names are distinct, to be found under a name is to be listed with it, so the order of such a
list does not matter to a look-up.
-/

namespace RecordQuery.FieldMap

variable {α : Type}

theorem mem_names_of_mem {name : String} {value : α} {entries : List (String × α)}
    (h : (name, value) ∈ entries) : name ∈ entries.map Prod.fst :=
  List.mem_map.2 ⟨(name, value), h, rfl⟩

/-- Looking up a name finds what is listed with it. -/
theorem lookup_eq_some_iff_mem {entries : List (String × α)} (hnodup : (entries.map Prod.fst).Nodup)
    {name : String} {value : α} : entries.lookup name = some value ↔ (name, value) ∈ entries := by
  induction entries with
  | nil => simp
  | cons entry rest ih =>
    obtain ⟨n, v⟩ := entry
    rw [List.map_cons, List.nodup_cons] at hnodup
    rw [lookup_cons, List.mem_cons, Prod.mk.injEq]
    by_cases hname : name = n
    · subst hname
      rw [if_pos rfl, Option.some.injEq]
      constructor
      · intro h
        exact Or.inl ⟨rfl, h.symm⟩
      · rintro (⟨-, h⟩ | h)
        · exact h.symm
        · exact absurd (mem_names_of_mem h) hnodup.1
    · rw [if_neg hname, ih hnodup.2]
      constructor
      · exact Or.inr
      · rintro (⟨h, -⟩ | h)
        · exact absurd h hname
        · exact h

/-- Names that were distinct stay so when entries are converted or left out. -/
theorem sublist_names_filterMap {β : Type} (f : α → Option β) (entries : List (String × α)) :
    ((entries.filterMap fun (name, value) => (f value).map fun v => (name, v)).map Prod.fst).Sublist
      (entries.map Prod.fst) := by
  induction entries with
  | nil => exact .slnil
  | cons entry rest ih =>
    obtain ⟨name, value⟩ := entry
    cases hvalue : f value with
    | none =>
      rw [List.filterMap_cons_none (by simp [hvalue])]
      exact ih.cons name
    | some v =>
      rw [List.filterMap_cons_some (show _ = some (name, v) by simp [hvalue])]
      exact ih.cons_cons name

theorem forall_bne_iff {entries : List (String × α)} {name : String} :
    (∀ entry ∈ entries, (name != entry.1) = true) ↔ name ∉ entries.map Prod.fst := by
  simp only [bne_iff_ne, List.mem_map, not_exists, not_and]
  exact forall₂_congr fun _ _ => ne_comm

theorem lookup_eq_none_iff_notMem {entries : List (String × α)} {name : String} :
    entries.lookup name = none ↔ name ∉ entries.map Prod.fst :=
  List.lookup_eq_none_iff.trans forall_bne_iff

theorem isSome_get?_iff {m : FieldMap α} {name : String} :
    (m.get? name).isSome ↔ name ∈ m.names := by
  rw [← Option.ne_none_iff_isSome, ne_eq, get?, lookup_eq_none_iff_notMem, Decidable.not_not, names]

/-- Where every name is listed with its value, if it has one, that value is found. -/
theorem lookup_filterMap (value? : String → Option α) (names : List String) (name : String) :
    (names.filterMap fun n => (value? n).map fun v => (n, v)).lookup name =
      if name ∈ names then value? name else none := by
  induction names with
  | nil => rfl
  | cons n rest ih =>
    cases hvalue : value? n with
    | none =>
      rw [List.filterMap_cons_none (by rw [hvalue, Option.map_none]), ih]
      by_cases hname : name = n
      · subst hname
        rw [hvalue, ite_self, ite_self]
      · simp only [List.mem_cons, hname, false_or]
    | some v =>
      rw [List.filterMap_cons_some (by rw [hvalue, Option.map_some]), lookup_cons, ih]
      by_cases hname : name = n
      · subst hname
        rw [if_pos rfl, if_pos List.mem_cons_self, hvalue]
      · simp only [List.mem_cons, hname, false_or, if_false]

theorem get?_ofList_singleton (name : String) (value : α) (n : String) :
    (ofList [(name, value)]).get? n = if n = name then some value else none := by
  simp [ofList, get?_insert]

/-! ### Insertion in turn -/

theorem insertEntry_of_notMem {name : String} {value : α} {entries : List (String × α)}
    (h : name ∉ entries.map Prod.fst) :
    insertEntry name value entries = entries ++ [(name, value)] := by
  induction entries with
  | nil => rfl
  | cons entry rest ih =>
    obtain ⟨n, v⟩ := entry
    rw [List.map_cons, List.mem_cons, not_or] at h
    rw [insertEntry, if_neg (Ne.symm h.1), ih h.2, List.cons_append]

/-- Entries with new names are added in their order. -/
theorem foldl_insertEntry {front entries : List (String × α)}
    (h : ((front ++ entries).map Prod.fst).Nodup) :
    entries.foldl (fun front (name, value) => insertEntry name value front) front =
      front ++ entries := by
  induction entries generalizing front with
  | nil => rw [List.foldl_nil, List.append_nil]
  | cons entry rest ih =>
    obtain ⟨name, value⟩ := entry
    have hnew : name ∉ front.map Prod.fst := by
      intro hmem
      rw [List.map_append, List.nodup_append] at h
      exact h.2.2 name hmem name (by simp) rfl
    have hassoc : front ++ [(name, value)] ++ rest = front ++ (name, value) :: rest := by
      rw [List.append_assoc, List.singleton_append]
    change rest.foldl _ (insertEntry name value front) = _
    rw [insertEntry_of_notMem hnew, ih (by rwa [hassoc]), hassoc]

theorem entries_foldl_insert (m : FieldMap α) (entries : List (String × α)) :
    (entries.foldl (fun m (name, value) => m.insert name value) m).entries =
      entries.foldl (fun front (name, value) => insertEntry name value front) m.entries := by
  induction entries generalizing m with
  | nil => rfl
  | cons entry rest ih => exact ih (m.insert entry.1 entry.2)

theorem entries_ofList {entries : List (String × α)} (h : (entries.map Prod.fst).Nodup) :
    (ofList entries).entries = entries := by
  rw [ofList, entries_foldl_insert]
  exact @foldl_insertEntry α [] entries h

theorem mem_of_mem_insertEntry {name : String} {value : α} {entries : List (String × α)}
    {entry : String × α} (h : entry ∈ insertEntry name value entries) :
    entry = (name, value) ∨ entry ∈ entries := by
  induction entries with
  | nil => exact Or.inl (List.mem_singleton.1 h)
  | cons e rest ih =>
    obtain ⟨n, v⟩ := e
    rw [insertEntry] at h
    split at h
    · next hname =>
      subst hname
      rcases List.mem_cons.1 h with rfl | hmem
      · exact Or.inl rfl
      · exact Or.inr (List.mem_cons_of_mem _ hmem)
    · rcases List.mem_cons.1 h with rfl | hmem
      · exact Or.inr List.mem_cons_self
      · rcases ih hmem with heq | hmem
        · exact Or.inl heq
        · exact Or.inr (List.mem_cons_of_mem _ hmem)

/-- A map has only entries of its list. -/
theorem mem_of_mem_ofList {entries : List (String × α)} {entry : String × α}
    (h : entry ∈ (ofList entries).entries) : entry ∈ entries := by
  have hfold : ∀ (rest front : List (String × α)),
      entry ∈ rest.foldl (fun front (name, value) => insertEntry name value front) front →
        entry ∈ front ∨ entry ∈ rest := by
    intro rest
    induction rest with
    | nil => exact fun front hmem => Or.inl hmem
    | cons e rest ih =>
      intro front hmem
      rcases ih _ hmem with hfront | hrest
      · rcases mem_of_mem_insertEntry hfront with rfl | hfront
        · exact Or.inr List.mem_cons_self
        · exact Or.inl hfront
      · exact Or.inr (List.mem_cons_of_mem _ hrest)
  rw [ofList, entries_foldl_insert] at h
  rcases hfold entries [] h with hnil | hmem
  · exact absurd hnil List.not_mem_nil
  · exact hmem

/-- A map is built again from its entries. -/
theorem ofList_entries (m : FieldMap α) : ofList m.entries = m := by
  have hentries := entries_ofList m.nodup
  obtain ⟨entries, nodup⟩ := m
  cases hmap : ofList entries with
  | mk built _ =>
    rw [hmap] at hentries
    cases hentries
    rfl

end RecordQuery.FieldMap
