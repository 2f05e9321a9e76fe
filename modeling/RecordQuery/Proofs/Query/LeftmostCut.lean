import RecordQuery.Proofs.Query.Connectives

/-!
# The leftmost cut

What it means to cut a text at its connectives, without the scan that does it: a segment reaches to
the first place where a connective stands, the connective takes all the blanks behind it, and what
is left is cut in the same way (`Clause.IsCutOf`).  Every text has one such cut, and it is the one
that is computed (`Clause.isCutOf_iff`).

The places in a segment are its non-empty ends, each read on into what follows the segment, since a
connective may reach beyond the place where the segment stops.
-/

namespace RecordQuery

open Text

namespace Connective

/-- The connective stands at the front of the text and takes all the blanks that it can. -/
def Leads (k : Connective) (cs : List Char) : Prop :=
  k.IsProper ∧ ∃ rest, cs = k.chars ++ rest ∧ StartsVisible rest

theorem leads_iff {k : Connective} {cs : List Char} : k.Leads cs ↔ leading? cs = some k :=
  leading?_eq_some_iff.symm

theorem leading?_eq_none_iff {cs : List Char} : leading? cs = none ↔ ∀ k : Connective, ¬ k.Leads cs := by
  simp only [leads_iff, Option.eq_none_iff_forall_ne_some, ne_eq]

end Connective

namespace Clause

/-- No connective stands at a place of the segment, which the text behind it follows. -/
def IsClear (segment behind : List Char) : Prop :=
  ∀ place, place <:+ segment → place ≠ [] → ∀ k : Connective, ¬ k.Leads (place ++ behind)

/-- The clause is the text cut at its leftmost connectives. -/
inductive IsCutOf : Clause → List Char → Prop
  /-- There is no connective in the text. -/
  | last {segment : List Char} (hclear : IsClear segment []) : IsCutOf ⟨segment, []⟩ segment
  /-- The first connective follows the segment, and the rest is a clause of its own. -/
  | connective {segment rest : List Char} {k : Connective} {clause : Clause}
      (hclear : IsClear segment (k.chars ++ rest)) (hk : k.Leads (k.chars ++ rest))
      (hrest : IsCutOf clause rest) :
      IsCutOf ⟨segment, (k, clause.head) :: clause.tail⟩ (segment ++ (k.chars ++ rest))

theorem isClear_nil (behind : List Char) : IsClear [] behind := by
  intro place hplace hne
  exact absurd (List.suffix_nil.1 hplace) hne

/-- One more character in front is one more place. -/
theorem isClear_cons_iff {c : Char} {segment behind : List Char} :
    IsClear (c :: segment) behind ↔
      Connective.leading? (c :: (segment ++ behind)) = none ∧ IsClear segment behind := by
  rw [Connective.leading?_eq_none_iff]
  constructor
  · intro h
    constructor
    · exact h (c :: segment) List.suffix_rfl (List.cons_ne_nil _ _)
    · intro place hplace hne
      exact h place (hplace.trans (List.suffix_cons c segment)) hne
  · rintro ⟨hfront, hsegment⟩ place hplace hne
    rcases List.suffix_cons_iff.1 hplace with rfl | hplace
    · exact hfront
    · exact hsegment place hplace hne

/-- A clear segment goes to the first segment of what follows it. -/
theorem cut_append_of_isClear {segment behind : List Char} (h : IsClear segment behind) :
    cut (segment ++ behind) = ⟨segment ++ (cut behind).head, (cut behind).tail⟩ := by
  induction segment with
  | nil => rfl
  | cons c segment ih =>
    obtain ⟨hnone, hclear⟩ := isClear_cons_iff.1 h
    rw [List.cons_append, cut_of_leading?_eq_none hnone, ih hclear]
    rfl

/-- A character at which no connective stands goes to the first segment, whatever follows that. -/
theorem IsCutOf.extend {c : Char} {clause : Clause} {cs : List Char} (h : IsCutOf clause cs)
    (hnone : Connective.leading? (c :: cs) = none) : IsCutOf (Clause.extend c clause) (c :: cs) := by
  cases h with
  | last hclear =>
    refine .last (isClear_cons_iff.2 ⟨?_, hclear⟩)
    rwa [List.append_nil]
  | connective hclear hk hrest => exact .connective (isClear_cons_iff.2 ⟨hnone, hclear⟩) hk hrest

theorem isCutOf_cut (cs : List Char) : IsCutOf (cut cs) cs := by
  induction cs using cut_induction with
  | nil => exact .last (isClear_nil [])
  | connective k rest hk hvisible ih =>
    exact .connective (isClear_nil _) ⟨hk, rest, rfl, hvisible⟩ ih
  | character c cs hnone ih => exact ih.extend hnone

theorem IsCutOf.eq_cut {clause : Clause} {cs : List Char} (h : IsCutOf clause cs) :
    clause = cut cs := by
  induction h with
  | last hclear =>
    have hcut := cut_append_of_isClear hclear
    rw [List.append_nil] at hcut
    rw [hcut]
    exact (congrArg (Clause.mk · []) (List.append_nil _)).symm
  | @connective segment rest k clause hclear hk hrest ih =>
    obtain ⟨hproper, rest', hrest', hvisible⟩ := hk
    rw [List.append_cancel_left hrest'] at hclear ih ⊢
    rw [cut_append_of_isClear hclear, cut_chars_append hproper hvisible, ← ih]
    exact (congrArg (Clause.mk · _) (List.append_nil _)).symm

/-- A text has one leftmost cut, and it is the one that is computed. -/
theorem isCutOf_iff {clause : Clause} {cs : List Char} : IsCutOf clause cs ↔ clause = cut cs := by
  constructor
  · exact IsCutOf.eq_cut
  · rintro rfl
    exact isCutOf_cut cs

end Clause

end RecordQuery
