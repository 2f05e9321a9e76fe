import RecordQuery.Log.Line
import RecordQuery.Proofs.Json.ReadBack

/-!
# The text of a log line

A line is an object of strings: the event, the severity, and the fields in ascending order of their
keys.  Unless a field takes the key of one of the first two, all keys are distinct, and the line is
read back as that object, whatever its texts are (`Entry.read?_line`).
-/

namespace RecordQuery

namespace Entry

/-! ### Sorted fields -/

/-- The fields stand in ascending order of their keys, and each key has one field. -/
def IsSorted (fields : List (String × String)) : Prop :=
  fields.Pairwise fun field later => compare field.1 later.1 = .lt

theorem mem_of_mem_insertSorted {key value : String} {fields : List (String × String)}
    {field : String × String} (h : field ∈ insertSorted key value fields) :
    field = (key, value) ∨ field ∈ fields := by
  induction fields with
  | nil => exact Or.inl (List.mem_singleton.1 h)
  | cons first rest ih =>
    obtain ⟨k, v⟩ := first
    rw [insertSorted] at h
    split at h
    · exact List.mem_cons.1 h
    · rcases List.mem_cons.1 h with heq | hmem
      · exact Or.inl heq
      · exact Or.inr (List.mem_cons_of_mem _ hmem)
    · rcases List.mem_cons.1 h with rfl | hmem
      · exact Or.inr List.mem_cons_self
      · rcases ih hmem with heq | hmem
        · exact Or.inl heq
        · exact Or.inr (List.mem_cons_of_mem _ hmem)

theorem isSorted_insertSorted (key value : String) {fields : List (String × String)}
    (h : IsSorted fields) : IsSorted (insertSorted key value fields) := by
  induction fields with
  | nil => exact List.pairwise_singleton _ _
  | cons first rest ih =>
    obtain ⟨k, v⟩ := first
    obtain ⟨hfirst, hrest⟩ := List.pairwise_cons.1 h
    rw [insertSorted]
    split
    · next hlt =>
      refine List.pairwise_cons.2 ⟨?_, h⟩
      intro later hlater
      rcases List.mem_cons.1 hlater with rfl | hmem
      · exact hlt
      · exact Std.TransCmp.lt_trans hlt (hfirst later hmem)
    · next heq =>
      obtain rfl : key = k := Std.LawfulEqCmp.eq_of_compare heq
      exact List.pairwise_cons.2 ⟨hfirst, hrest⟩
    · next hgt =>
      refine List.pairwise_cons.2 ⟨?_, ih hrest⟩
      intro later hlater
      rcases mem_of_mem_insertSorted hlater with rfl | hmem
      · exact Std.OrientedCmp.lt_of_gt hgt
      · exact hfirst later hmem

theorem sortedFields_eq_foldl (fields : List (String × String)) :
    sortedFields fields =
      fields.foldl (fun sorted field => insertSorted field.1 field.2 sorted) [] :=
  rfl

theorem sortedFields_spec (fields : List (String × String)) :
    IsSorted (sortedFields fields) ∧ ∀ field ∈ sortedFields fields, field ∈ fields := by
  -- by induction on the fields that are still to be inserted
  have hfold : ∀ rest sorted : List (String × String), IsSorted sorted →
      (∀ field ∈ sorted, field ∈ fields) → (∀ field ∈ rest, field ∈ fields) →
      IsSorted (rest.foldl (fun sorted field => insertSorted field.1 field.2 sorted) sorted) ∧
        ∀ field ∈ rest.foldl (fun sorted field => insertSorted field.1 field.2 sorted) sorted,
          field ∈ fields := by
    intro rest
    induction rest with
    | nil => exact fun sorted hsorted hmem _ => ⟨hsorted, hmem⟩
    | cons first rest ih =>
      intro sorted hsorted hmem hrest
      apply ih _ (isSorted_insertSorted first.1 first.2 hsorted)
      · intro field hfield
        rcases mem_of_mem_insertSorted hfield with rfl | hfield
        · exact hrest _ List.mem_cons_self
        · exact hmem field hfield
      · exact fun field hfield => hrest field (List.mem_cons_of_mem _ hfield)
  rw [sortedFields_eq_foldl]
  exact hfold fields [] List.Pairwise.nil (by simp) (fun _ hfield => hfield)

theorem insertSorted_eq_append {key value : String} {fields : List (String × String)}
    (h : IsSorted (fields ++ [(key, value)])) :
    insertSorted key value fields = fields ++ [(key, value)] := by
  induction fields with
  | nil => rfl
  | cons first rest ih =>
    obtain ⟨hfirst, hrest⟩ := List.pairwise_cons.1 h
    have hgt : compare key first.1 = .gt :=
      Std.OrientedCmp.gt_of_lt (hfirst (key, value) (by simp))
    rw [insertSorted, hgt, List.cons_append, ih hrest]

theorem IsSorted.sortedFields_eq {fields : List (String × String)} (h : IsSorted fields) :
    sortedFields fields = fields := by
  -- each field is greater than all before it, so it goes to the end of what is sorted
  have hfold : ∀ rest sorted : List (String × String), IsSorted (sorted ++ rest) →
      rest.foldl (fun sorted field => insertSorted field.1 field.2 sorted) sorted =
        sorted ++ rest := by
    intro rest
    induction rest with
    | nil => exact fun sorted _ => (List.append_nil sorted).symm
    | cons first rest ih =>
      intro sorted hsorted
      rw [List.append_cons] at hsorted ⊢
      rw [List.foldl_cons, insertSorted_eq_append (List.pairwise_append.1 hsorted).1]
      exact ih _ hsorted
  rw [sortedFields_eq_foldl]
  exact hfold fields [] h

theorem IsSorted.nodup {fields : List (String × String)} (h : IsSorted fields) :
    (fields.map Prod.fst).Nodup := by
  rw [List.Nodup, List.pairwise_map]
  refine h.imp fun {field later} hlt heq => ?_
  have hself : compare later.1 later.1 = .eq := Std.ReflCmp.compare_self
  rw [heq, hself] at hlt
  exact absurd hlt (by decide)

/-! ### Lines -/

/-- The members of the object that a line is. -/
def members (e : Entry) : List (String × String) :=
  ("event", e.event) :: ("severity", e.severity.label) :: sortedFields e.fields

theorem memberChars_cons (member : String × String) (members : List (String × String)) :
    Json.memberChars (Json.ofStrings (member :: members)) =
      Json.quoted member.1 ++ ':' :: Json.quoted member.2 ++
        members.flatMap fun (key, value) => ',' :: Json.quoted key ++ ':' :: Json.quoted value := by
  induction members generalizing member with
  | nil => simp [Json.ofStrings, Json.memberChars, Json.toChars]
  | cons next members ih =>
    have hnext := ih next
    simp only [Json.ofStrings, List.map_cons, Json.memberChars, Json.toChars] at hnext ⊢
    rw [hnext, List.flatMap_cons]
    simp only [List.append_assoc, List.cons_append]

theorem chars_eq_toChars (e : Entry) : e.chars = Json.toChars (.object (Json.ofStrings e.members)) := by
  have hevent : "\x7b\"event\":".toList = '{' :: Json.quoted "event" ++ [':'] := by decide
  have hseverity : ",\"severity\":".toList = ',' :: Json.quoted "severity" ++ [':'] := by decide
  calc
    e.chars = "\x7b\"event\":".toList ++ Json.quoted e.event ++ ",\"severity\":".toList ++
        Json.quoted e.severity.label ++ (sortedFields e.fields).flatMap (fun (key, value) =>
          ',' :: Json.quoted key ++ ':' :: Json.quoted value) ++ ['}'] := rfl
    _ = _ := by
      rw [hevent, hseverity, Json.toChars, members, memberChars_cons, List.flatMap_cons]
      simp only [List.append_assoc, List.cons_append, List.nil_append]

theorem line_eq_text (e : Entry) : e.line = Json.text (.object (Json.ofStrings e.members)) := by
  rw [line, Json.text, chars_eq_toChars]

/-- No field has the key of the event or of the severity. -/
def IsPlain (e : Entry) : Prop := ∀ field ∈ e.fields, field.1 ∉ ["event", "severity"]

instance (e : Entry) : Decidable e.IsPlain :=
  inferInstanceAs (Decidable (∀ field ∈ e.fields, field.1 ∉ ["event", "severity"]))

theorem IsPlain.nodup_members {e : Entry} (h : e.IsPlain) : (e.members.map Prod.fst).Nodup := by
  obtain ⟨hsorted, hmem⟩ := sortedFields_spec e.fields
  have hkeys : ∀ key ∈ (sortedFields e.fields).map Prod.fst, key ∉ ["event", "severity"] := by
    intro key hkey
    obtain ⟨field, hfield, rfl⟩ := List.mem_map.1 hkey
    exact h field (hmem field hfield)
  have hevent : "event" ∉ (sortedFields e.fields).map Prod.fst := fun hkey =>
    hkeys _ hkey List.mem_cons_self
  have hseverity : "severity" ∉ (sortedFields e.fields).map Prod.fst := fun hkey =>
    hkeys _ hkey (List.mem_cons_of_mem _ List.mem_cons_self)
  have hne : "event" ≠ "severity" := by decide
  rw [members, List.map_cons, List.map_cons, List.nodup_cons, List.nodup_cons, List.mem_cons, not_or]
  exact ⟨⟨hne, hevent⟩, hseverity, hsorted.nodup⟩

/-- A line is read back as one object, whatever the texts in it are. -/
theorem read?_line {e : Entry} (h : e.IsPlain) :
    Json.read? e.line = some (.object (Json.ofStrings e.members)) := by
  rw [line_eq_text, Json.read?_text_ofStrings h.nodup_members]

theorem read?_line_of_isSorted {e : Entry} (h : e.IsPlain) (hsorted : IsSorted e.fields) :
    Json.read? e.line = some (.object (Json.ofStrings
      (("event", e.event) :: ("severity", e.severity.label) :: e.fields))) := by
  rw [read?_line h, members, hsorted.sortedFields_eq]

end Entry

end RecordQuery
