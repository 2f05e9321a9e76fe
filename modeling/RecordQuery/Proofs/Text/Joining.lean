import RecordQuery.Proofs.Text.Trimming

/-!
# Pieces and separators

Every clause of a query lists pieces with separators between them, and every reader of a clause
cuts at the separators, trims what it gets and drops what is empty.  Pieces that trimming leaves as
they are come back, each in its place, as long as no separator occurs in them; and of any text a
reader keeps such pieces only.
-/

namespace RecordQuery.Text

/-- A text with something in it and no blanks at its ends. -/
structure IsTrimmed (cs : List Char) : Prop where
  ne_nil : cs ≠ []
  startsVisible : StartsVisible cs
  endsVisible : EndsVisible cs

theorem isTrimmed_iff {cs : List Char} : IsTrimmed cs ↔ cs ≠ [] ∧ trim cs = cs := by
  rw [trim_eq_self_iff]
  exact ⟨fun h => ⟨h.ne_nil, h.startsVisible, h.endsVisible⟩, fun h => ⟨h.1, h.2.1, h.2.2⟩⟩

instance (cs : List Char) : Decidable (IsTrimmed cs) := decidable_of_iff _ isTrimmed_iff.symm

theorem IsTrimmed.trim {cs : List Char} (h : IsTrimmed cs) : Text.trim cs = cs :=
  (isTrimmed_iff.1 h).2

theorem Visible.isTrimmed {cs : List Char} (h : Visible cs) (hne : cs ≠ []) : IsTrimmed cs :=
  ⟨hne, h.startsVisible, h.endsVisible⟩

/-- The ends of a text are the ends of its first and its last part. -/
theorem IsTrimmed.append {xs zs : List Char} (hxs : IsTrimmed xs) (ys : List Char)
    (hzs : IsTrimmed zs) : IsTrimmed (xs ++ (ys ++ zs)) := by
  refine ⟨by simp [hxs.ne_nil], hxs.startsVisible.append hxs.ne_nil, ?_⟩
  apply EndsVisible.append
  · exact hzs.endsVisible.append hzs.ne_nil
  · simp [hzs.ne_nil]

theorem isTrimmed_intercalate {separator : List Char} {pieces : List (List Char)}
    (hne : pieces ≠ []) (h : ∀ piece ∈ pieces, IsTrimmed piece) :
    IsTrimmed (separator.intercalate pieces) := by
  induction pieces with
  | nil => exact absurd rfl hne
  | cons first rest ih =>
    have hfirst := h first List.mem_cons_self
    cases rest with
    | nil => rwa [List.intercalate_singleton]
    | cons second rest =>
      have hrest := ih (by simp) fun piece hpiece => h piece (List.mem_cons_of_mem _ hpiece)
      rw [List.intercalate_cons_cons, List.append_assoc]
      exact hfirst.append separator hrest

theorem notMem_intercalate {c : Char} {separator : List Char} {pieces : List (List Char)}
    (hseparator : c ∉ separator) (h : ∀ piece ∈ pieces, c ∉ piece) :
    c ∉ separator.intercalate pieces := by
  induction pieces with
  | nil => simp
  | cons first rest ih =>
    have hfirst := h first List.mem_cons_self
    have hrest := ih fun piece hpiece => h piece (List.mem_cons_of_mem _ hpiece)
    by_cases hnil : rest = []
    · subst hnil
      rwa [List.intercalate_singleton]
    · rw [List.intercalate_cons_of_ne_nil hnil]
      simp only [List.mem_append, not_or]
      exact ⟨⟨hfirst, hseparator⟩, hrest⟩

theorem filter_map_trim {pieces : List (List Char)} (h : ∀ piece ∈ pieces, IsTrimmed piece) :
    (pieces.map trim).filter (· ≠ []) = pieces := by
  have htrim : pieces.map trim = pieces := by
    rw [List.map_congr_left fun piece hpiece => (h piece hpiece).trim, List.map_id']
  rw [htrim, List.filter_eq_self]
  intro piece hpiece
  exact decide_eq_true (h piece hpiece).ne_nil

/-- Pieces come back from a text that lists them. -/
theorem pieces_of_intercalate {mark : Char} {pieces : List (List Char)} (hne : pieces ≠ [])
    (h : ∀ piece ∈ pieces, IsTrimmed piece) (hmark : ∀ piece ∈ pieces, mark ∉ piece) :
    ((([mark].intercalate pieces).splitOn mark).map trim).filter (· ≠ []) = pieces := by
  rw [List.splitOn_intercalate mark hmark hne, filter_map_trim h]

/-! ### Pieces of any text -/

theorem isTrimmed_trim {cs : List Char} (hne : trim cs ≠ []) : IsTrimmed (trim cs) :=
  ⟨hne, startsVisible_trim cs, endsVisible_trimEnd (trimStart cs)⟩

theorem notMem_of_mem_splitOn {mark : Char} {cs piece : List Char} (h : piece ∈ cs.splitOn mark) :
    mark ∉ piece := by
  induction cs generalizing piece with
  | nil =>
    rw [List.splitOn_nil, List.mem_singleton] at h
    simp [h]
  | cons c cs ih =>
    rw [List.splitOn_cons_eq_if_modifyHead] at h
    obtain ⟨first, rest, hsplit⟩ := List.exists_cons_of_ne_nil (List.splitOn_ne_nil mark cs)
    rw [hsplit] at h ih
    split at h
    · rcases List.mem_cons.1 h with rfl | h
      · exact List.not_mem_nil
      · exact ih h
    · next hc =>
      rcases List.mem_cons.1 h with rfl | h
      · have hne : mark ≠ c := by
          rintro rfl
          exact hc BEq.rfl
        exact List.not_mem_cons_of_ne_of_not_mem hne (ih List.mem_cons_self)
      · exact ih (List.mem_cons_of_mem _ h)

/-- What a reader keeps of the pieces of a text is trimmed and has no mark in it. -/
theorem isTrimmed_of_mem_pieces {mark : Char} {cs piece : List Char}
    (h : piece ∈ ((cs.splitOn mark).map trim).filter (· ≠ [])) :
    IsTrimmed piece ∧ mark ∉ piece := by
  obtain ⟨hmem, hne⟩ := List.mem_filter.1 h
  obtain ⟨whole, hwhole, rfl⟩ := List.mem_map.1 hmem
  constructor
  · exact isTrimmed_trim (by simpa using hne)
  · intro hmark
    exact notMem_of_mem_splitOn hwhole (mem_of_mem_trim hmark)

end RecordQuery.Text
