import RecordQuery.Proofs.FieldMap
import RecordQuery.Proofs.Text.Joining
import RecordQuery.Query.Printer

/-!
# Reading back orders and selections

The clauses of `$orderby` and `$select` list names between commas.  A name may have blanks and
quotes in it, but no comma, and no blank at its ends.  Since the direction of a sort key is written
out, the last word of a name is not taken for one.
-/

namespace RecordQuery

open Text

/-- A name that may stand in a list of names. -/
structure IsListed (name : String) : Prop where
  isTrimmed : IsTrimmed name.toList
  comma : ',' ∉ name.toList
  ampersand : '&' ∉ name.toList

instance (name : String) : Decidable (IsListed name) :=
  decidable_of_iff (IsTrimmed name.toList ∧ ',' ∉ name.toList ∧ '&' ∉ name.toList)
    ⟨fun h => ⟨h.1, h.2.1, h.2.2⟩, fun h => ⟨h.isTrimmed, h.comma, h.ampersand⟩⟩

/-! ### Orders -/

theorem Text.cutAtLastBlank_append {before token : List Char} {blank : Char}
    (hblank : isBlank blank = true) (htoken : Visible token) :
    cutAtLastBlank (before ++ blank :: token) = some (before, token) := by
  have hreverse : (before ++ blank :: token).reverse = token.reverse ++ blank :: before.reverse := by
    simp
  have hvisible : Visible token.reverse := fun c hc => htoken c (List.mem_reverse.1 hc)
  have hstart := startsBlank_cons hblank before.reverse
  simp only [cutAtLastBlank, hreverse, afterWord_append hvisible hstart,
    word_append hvisible hstart, List.reverse_reverse]

theorem Text.exists_of_cutAtLastBlank_eq_some {cs before token : List Char}
    (h : cutAtLastBlank cs = some (before, token)) :
    ∃ blank, isBlank blank = true ∧ cs = before ++ blank :: token := by
  have hsplit := word_append_afterWord cs.reverse
  have hstart := startsBlank_afterWord cs.reverse
  unfold cutAtLastBlank at h
  split at h
  · exact absurd h (by simp)
  · next blank rest hafter =>
    obtain ⟨rfl, rfl⟩ := Prod.mk.inj (Option.some.inj h)
    rw [hafter] at hsplit hstart
    refine ⟨blank, hstart blank rfl, ?_⟩
    have hreverse := congrArg List.reverse hsplit
    rw [List.reverse_reverse, List.reverse_append, List.reverse_cons, List.append_assoc,
      List.singleton_append] at hreverse
    exact hreverse.symm

namespace OrderSpec

/-- The spelling of a sort key. -/
def keySpelling (key : String × Direction) : List Char :=
  key.1.toList ++ ' ' :: key.2.name.toList

theorem visible_name (direction : Direction) : Visible direction.name.toList := by
  cases direction <;> decide

theorem keyOf_keySpelling {key : String × Direction} (h : IsListed key.1) :
    keyOf (keySpelling key) = key := by
  obtain ⟨field, direction⟩ := key
  have hcut : cutAtLastBlank (field.toList ++ ' ' :: direction.name.toList) =
      some (field.toList, direction.name.toList) :=
    cutAtLastBlank_append rfl (visible_name direction)
  have hfield : trimEnd field.toList = field.toList := trimEnd_eq_self_iff.2 h.isTrimmed.endsVisible
  have hdirection : Direction.ofToken direction.name.toList = direction := by
    cases direction <;> decide
  simp only [keyOf, keySpelling, hcut, hfield, hdirection, String.ofList_toList]

theorem isTrimmed_keySpelling {key : String × Direction} (h : IsListed key.1) :
    IsTrimmed (keySpelling key) := by
  have hne : key.2.name.toList ≠ [] := by cases key.2 <;> decide
  exact h.isTrimmed.append [' '] ((visible_name key.2).isTrimmed hne)

theorem notMem_keySpelling {c : Char} {key : String × Direction} (h : c ∉ key.1.toList)
    (hc : c = ',' ∨ c = '&') : c ∉ keySpelling key := by
  have hname : c ∉ ' ' :: key.2.name.toList := by
    rcases hc with rfl | rfl
    · cases key.2 <;> decide
    · cases key.2 <;> decide
  intro hmem
  rcases List.mem_append.1 hmem with hmem | hmem
  · exact h hmem
  · exact hname hmem

/-- An order is read back from its clause, with all its keys in their places. -/
theorem ofText_spelling {spec : OrderSpec} (hne : spec.entries ≠ [])
    (h : ∀ field ∈ spec.names, IsListed field) : ofText spec.spelling = spec := by
  have hkey : ∀ key ∈ spec.entries, IsListed key.1 :=
    fun key hkey => h key.1 (FieldMap.mem_names_of_mem hkey)
  have hpieces : ((spec.spelling.splitOn ',').map trim).filter (· ≠ []) =
      spec.entries.map keySpelling := by
    apply pieces_of_intercalate (by simpa using hne)
    · exact List.forall_mem_map.2 fun key hmem => isTrimmed_keySpelling (hkey key hmem)
    · exact List.forall_mem_map.2 fun key hmem =>
        notMem_keySpelling (hkey key hmem).comma (by decide)
  have hkeys : (spec.entries.map keySpelling).map keyOf = spec.entries := by
    rw [List.map_map]
    exact (List.map_congr_left fun key hmem => keyOf_keySpelling (hkey key hmem)).trans
      (List.map_id _)
  rw [ofText, keysOf, hpieces, hkeys, FieldMap.ofList_entries]

theorem isTrimmed_spelling {spec : OrderSpec} (hne : spec.entries ≠ [])
    (h : ∀ field ∈ spec.names, IsListed field) : IsTrimmed spec.spelling := by
  apply isTrimmed_intercalate (by simpa using hne)
  exact List.forall_mem_map.2 fun key hmem =>
    isTrimmed_keySpelling (h key.1 (FieldMap.mem_names_of_mem hmem))

theorem ampersand_notMem_spelling {spec : OrderSpec} (h : ∀ field ∈ spec.names, IsListed field) :
    '&' ∉ spec.spelling := by
  apply notMem_intercalate (by decide)
  exact List.forall_mem_map.2 fun key hmem =>
    notMem_keySpelling (h key.1 (FieldMap.mem_names_of_mem hmem)).ampersand (by decide)

end OrderSpec

/-! ### Selections -/

namespace Reading

/-- A selection is read back from the clause that lists its names. -/
theorem selection_intercalate {fields : List String} (hne : fields ≠ [])
    (h : ∀ field ∈ fields, IsListed field) :
    selection ([','].intercalate (fields.map String.toList)) = fields := by
  have hpieces : ((([','].intercalate (fields.map String.toList)).splitOn ',').map trim).filter
      (· ≠ []) = fields.map String.toList := by
    apply pieces_of_intercalate (by simpa using hne)
    · exact List.forall_mem_map.2 fun field hmem => (h field hmem).isTrimmed
    · exact List.forall_mem_map.2 fun field hmem => (h field hmem).comma
  rw [selection, hpieces, List.map_map]
  have hcancel : String.ofList ∘ String.toList = id := funext fun s => String.ofList_toList
  rw [hcancel, List.map_id]

theorem isTrimmed_names {fields : List String} (hne : fields ≠ [])
    (h : ∀ field ∈ fields, IsListed field) :
    IsTrimmed ([','].intercalate (fields.map String.toList)) := by
  apply isTrimmed_intercalate (by simpa using hne)
  exact List.forall_mem_map.2 fun field hmem => (h field hmem).isTrimmed

theorem ampersand_notMem_names {fields : List String} (h : ∀ field ∈ fields, IsListed field) :
    '&' ∉ [','].intercalate (fields.map String.toList) := by
  apply notMem_intercalate (by decide)
  exact List.forall_mem_map.2 fun field hmem => (h field hmem).ampersand

end Reading

end RecordQuery
