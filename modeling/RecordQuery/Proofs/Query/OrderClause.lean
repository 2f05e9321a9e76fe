import RecordQuery.Proofs.Query.NormalForm

/-!
# Orders and the clauses they come from

An order is what a sequence of insertions leaves: a field has the place of its first insertion and
the direction of its last one.  A clause is such a sequence.  Each of its pieces that is not blank
inserts one key, cut at the last blank of the piece as `OrderSpec.IsKeyOf` says, and the order of
the clause is the one that these insertions build (`OrderSpec.ofText_insertions`).
-/

namespace RecordQuery

open Text
open FieldMap (IsLastValue)

/-! ### The last blank -/

theorem Text.visible_of_cutAtLastBlank_eq_some {cs before token : List Char}
    (h : cutAtLastBlank cs = some (before, token)) : Visible token := by
  unfold cutAtLastBlank at h
  split at h
  · exact absurd h (by simp)
  · obtain ⟨-, rfl⟩ := Prod.mk.inj (Option.some.inj h)
    intro c hc
    exact visible_word cs.reverse c (List.mem_reverse.1 hc)

/-- Only a word has no last blank. -/
theorem Text.cutAtLastBlank_eq_none_iff {cs : List Char} :
    cutAtLastBlank cs = none ↔ Visible cs := by
  constructor
  · intro h
    have hall : afterWord cs.reverse = [] := by
      unfold cutAtLastBlank at h
      split at h
      · next hnil => exact hnil
      · exact absurd h (by simp)
    have hword := word_append_afterWord cs.reverse
    rw [hall, List.append_nil] at hword
    have hvisible := visible_word cs.reverse
    rw [hword] at hvisible
    intro c hc
    exact hvisible c (List.mem_reverse.2 hc)
  · intro h
    cases hcut : cutAtLastBlank cs with
    | none => rfl
    | some parts =>
      obtain ⟨blank, hblank, rfl⟩ := exists_of_cutAtLastBlank_eq_some hcut
      exact absurd hblank (by simp [h blank (by simp)])

namespace OrderSpec

/-! ### Keys -/

/-- The key that a segment spells.  A segment without a blank is a field; in any other one the word
behind the last blank is the direction, and what stands before that blank is the field, less the
blanks at its end. -/
inductive IsKeyOf : List Char → String × Direction → Prop
  | word {field : List Char} (hfield : Visible field) :
      IsKeyOf field (String.ofList field, .ascending)
  | directed {before token : List Char} {blank : Char} (hblank : isBlank blank = true)
      (htoken : Visible token) :
      IsKeyOf (before ++ blank :: token)
        (String.ofList (trimEnd before),
          if sameLetters token "desc".toList then .descending else .ascending)

theorem ofToken_of_visible {token : List Char} (h : Visible token) :
    Direction.ofToken token =
      if sameLetters token "desc".toList then .descending else .ascending := by
  rw [Direction.ofToken, h.trim]

theorem keyOf_eq_iff {segment : List Char} {key : String × Direction} :
    keyOf segment = key ↔ IsKeyOf segment key := by
  constructor
  · rintro rfl
    unfold keyOf
    split
    · next before token hcut =>
      obtain ⟨blank, hblank, rfl⟩ := exists_of_cutAtLastBlank_eq_some hcut
      have htoken := visible_of_cutAtLastBlank_eq_some hcut
      rw [ofToken_of_visible htoken]
      exact .directed hblank htoken
    · next hcut => exact .word (cutAtLastBlank_eq_none_iff.1 hcut)
  · rintro (hfield | ⟨hblank, htoken⟩)
    · simp only [keyOf, cutAtLastBlank_eq_none_iff.2 hfield]
    · simp only [keyOf, cutAtLastBlank_append hblank htoken, ofToken_of_visible htoken]

/-- The pieces of a clause between its commas, less those with nothing in them. -/
def pieces (clause : List Char) : List (List Char) :=
  (clause.splitOn ',').filter (¬ AllBlank ·)

theorem keysOf_eq_map_pieces (clause : List Char) :
    keysOf clause = (pieces clause).map fun piece => keyOf (trim piece) := by
  have hkept : ∀ piece : List Char, decide (trim piece ≠ []) = decide (¬ AllBlank piece) := by
    intro piece
    rw [decide_eq_decide, ne_eq, trim_eq_nil_iff]
  rw [keysOf, List.filter_map, List.map_map, pieces]
  simp only [Function.comp_def, hkept]

theorem forall₂_isKeyOf_iff {clause : List Char} {keys : List (String × Direction)} :
    List.Forall₂ (fun piece key => IsKeyOf (trim piece) key) (pieces clause) keys ↔
      keys = keysOf clause := by
  simp only [← keyOf_eq_iff]
  rw [keysOf_eq_map_pieces, ← List.forall₂_map_left_iff, List.forall₂_eq_eq_eq, eq_comm]

theorem isTrimmed_of_mem_keysOf {clause : List Char} {key : String × Direction}
    (h : key ∈ keysOf clause) : IsTrimmed key.1.toList := by
  obtain ⟨segment, hsegment, rfl⟩ := List.mem_map.1 h
  obtain ⟨htrimmed, hcomma⟩ := isTrimmed_of_mem_pieces hsegment
  exact (isListItem_keyOf htrimmed hcomma).isTrimmed

/-! ### Orders -/

/-- Insertions into the empty order leave each field once, in the order of the first insertions and
with the direction inserted last, and this is the direction found under it.  The order of a clause is
what inserting its keys leaves: those that its pieces spell, one each and in their order, and every
field among them is trimmed and not empty. -/
theorem ofText_insertions :
    (∀ history : List (String × Direction),
      let spec : OrderSpec :=
        history.foldl (fun spec (field, direction) => spec.insert field direction) .empty
      spec.names.Nodup ∧ spec.names = (history.map Prod.fst).eraseDups ∧
        (∀ field direction,
          (field, direction) ∈ spec.entries ↔ IsLastValue history field direction) ∧
        (∀ field direction, spec.get? field = some direction ↔ (field, direction) ∈ spec.entries) ∧
        ∀ field, spec.get? field = none ↔ field ∉ history.map Prod.fst) ∧
    ∀ clause : List Char, ∃ keys,
      (∀ others, List.Forall₂ (fun piece key => IsKeyOf (trim piece) key) (pieces clause) others ↔
        others = keys) ∧
      (∀ key ∈ keys, IsTrimmed key.1.toList) ∧
      ofText clause =
        keys.foldl (fun spec (field, direction) => spec.insert field direction) .empty := by
  constructor
  · intro history spec
    have hmap : FieldMap.IsMapOf history spec := FieldMap.isMapOf_ofList history
    have hmem : ∀ field direction,
        spec.get? field = some direction ↔ (field, direction) ∈ spec.entries := fun _ _ =>
      FieldMap.lookup_eq_some_iff_mem spec.nodup
    refine ⟨hmap.nodup, hmap.names, ?_, hmem, ?_⟩
    · intro field direction
      rw [← hmem, hmap.get?, FieldMap.lastValue?_eq_some_iff]
    · intro field
      rw [hmap.get?, FieldMap.lastValue?_eq_none_iff]
  · intro clause
    exact ⟨keysOf clause, fun _ => forall₂_isKeyOf_iff, fun _ => isTrimmed_of_mem_keysOf, rfl⟩

/-- A blank piece, a field with blanks in it, a direction that is none and a field that comes back. -/
example :
    (ofText "b  DESC,  ,created at\tdesc, a down,b, c".toList).entries =
      [("b", .ascending), ("created at", .descending), ("a", .ascending), ("c", .ascending)] := by
  decide +kernel

end OrderSpec

end RecordQuery
