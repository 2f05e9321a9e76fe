import Mathlib.Tactic.SplitIfs
import RecordQuery.Json.Reader

/-!
# Names in objects that were read

Members are put into an object under their names one by one, and a name that is there already keeps
its place.  So no object that is read from a text has a name twice, whatever the text repeats.  Said
here of the elements of an array, which is what records are loaded from
(`Json.hasDistinctNames_of_read?`).
-/

namespace RecordQuery.Json

/-- No object among the items has a name twice. -/
def HasDistinctNames (items : List Json) : Prop :=
  ∀ members, Json.object members ∈ items → (members.map Prod.fst).Nodup

theorem nodup_memberValues? {room : Nat} {documents : List (List Piece × Document)}
    {before members : List (String × Json)} (hbefore : (before.map Prod.fst).Nodup)
    (h : memberValues? room before documents = some members) : (members.map Prod.fst).Nodup := by
  induction documents generalizing before with
  | nil =>
    rw [memberValues?, Option.some.injEq] at h
    exact h ▸ hbefore
  | cons document documents ih =>
    obtain ⟨pieces, value⟩ := document
    simp only [memberValues?, Option.bind_eq_bind, Option.bind_eq_some_iff] at h
    obtain ⟨name, -, v, -, hrest⟩ := h
    exact ih (FieldMap.nodup_insertEntry hbefore) hrest

theorem Numeral.isScalar_of_value? {n : Numeral} {value : Json} (h : n.value? = some value) :
    value.isScalar = true := by
  unfold Numeral.value? at h
  dsimp only at h
  -- an integer of either sign, or a number
  split_ifs at h
  · cases h
    rfl
  · obtain ⟨x, -, rfl⟩ := Option.map_eq_some_iff.1 h
    rfl
  · cases h
    rfl
  · obtain ⟨x, -, rfl⟩ := Option.map_eq_some_iff.1 h
    rfl

theorem nodup_of_value? {room : Nat} {document : Document} {members : List (String × Json)}
    (h : document.value? room = some (.object members)) : (members.map Prod.fst).Nodup := by
  cases document with
  | object documents =>
    cases room with
    | zero => exact absurd h (by simp [Document.value?])
    | succ room =>
      rw [Document.value?, Option.map_eq_some_iff] at h
      obtain ⟨read, hread, heq⟩ := h
      cases heq
      have hnone : (([] : List (String × Json)).map Prod.fst).Nodup := List.nodup_nil
      exact nodup_memberValues? hnone hread
  | array documents => cases room <;> exact absurd h (by simp [Document.value?])
  | number n =>
    rw [Document.value?] at h
    exact absurd (Numeral.isScalar_of_value? h) (by simp [isScalar])
  | string pieces => exact absurd h (by simp [Document.value?])
  | null => exact absurd h (by simp [Document.value?])
  | bool b => exact absurd h (by simp [Document.value?])

theorem hasDistinctNames_of_itemValues? {room : Nat} {documents : List Document}
    {items : List Json} (h : itemValues? room documents = some items) : HasDistinctNames items := by
  induction documents generalizing items with
  | nil =>
    rw [itemValues?, Option.some.injEq] at h
    subst h
    exact fun members hmem => absurd hmem List.not_mem_nil
  | cons document documents ih =>
    simp only [itemValues?, Option.bind_eq_bind, Option.bind_eq_some_iff, Option.pure_def,
      Option.some.injEq] at h
    obtain ⟨value, hvalue, rest, hrest, rfl⟩ := h
    intro members hmem
    rcases List.mem_cons.1 hmem with rfl | hmem
    · exact nodup_of_value? hvalue
    · exact ih hrest members hmem

/-- An array that is read from a text has no object with a name twice. -/
theorem hasDistinctNames_of_read? {text : String} {items : List Json}
    (h : read? text = some (.array items)) : HasDistinctNames items := by
  simp only [read?, Option.bind_eq_bind, Option.bind_eq_some_iff] at h
  obtain ⟨document, -, hvalue⟩ := h
  cases document with
  | array documents =>
    obtain ⟨read, hread, heq⟩ := Option.map_eq_some_iff.1 hvalue
    cases heq
    exact hasDistinctNames_of_itemValues? hread
  | object documents => exact absurd hvalue (by simp [Document.value?, greatestDepth])
  | number n =>
    rw [Document.value?] at hvalue
    exact absurd (Numeral.isScalar_of_value? hvalue) (by simp [isScalar])
  | string pieces => exact absurd hvalue (by simp [Document.value?])
  | null => exact absurd hvalue (by simp [Document.value?])
  | bool b => exact absurd hvalue (by simp [Document.value?])

end RecordQuery.Json
