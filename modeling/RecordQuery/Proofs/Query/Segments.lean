import RecordQuery.Proofs.Query.Connectives
import RecordQuery.Proofs.Text.Joining

/-!
# Segments of a clause

What a clause has between its connectives.  A connective takes all the blanks around it, so no two
connectives stand side by side, and a segment is empty only where a connective stands at an end of
the text (`Clause.tail_ne_nil`, `Clause.head_ne_nil`).  A text without blanks at its ends thus has
one segment more than connectives, each with something in it, and each is read as a condition or
reported.

Blanks at the ends of a text go to the outer segments, where trimming takes them off again, unless a
connective stands at the end and has taken them itself.  This is the one way in which trimming a
text changes what is read from it (`Filter.ofText_trim`).
-/

namespace RecordQuery

open Text

namespace Clause

theorem segments_follow (k : Connective) (clause : Clause) :
    (follow k clause).segments = [] :: clause.segments :=
  rfl

theorem connectives_follow (k : Connective) (clause : Clause) :
    (follow k clause).connectives = k :: clause.connectives :=
  rfl

theorem startsVisible_head {cs : List Char} (h : StartsVisible cs) :
    StartsVisible (cut cs).head := by
  rw [← chars_cut cs, chars] at h
  exact h.of_append

theorem head_ne_nil {cs : List Char} (h : StartsVisible cs) (hne : cs ≠ []) :
    (cut cs).head ≠ [] := by
  obtain ⟨c, rest, rfl⟩ := List.exists_cons_of_ne_nil hne
  have hnone : Connective.leading? (c :: rest) = none := by
    have hblanks : blanks (c :: rest) = [] := by simp [blanks, h c rfl]
    simp [Connective.leading?, hblanks]
  rw [cut_of_leading?_eq_none hnone]
  exact List.cons_ne_nil _ _

theorem startsVisible_of_mem_tail (cs : List Char) :
    ∀ p ∈ (cut cs).tail, StartsVisible p.2 := by
  induction cs using cut_induction with
  | nil => exact fun p hp => absurd hp List.not_mem_nil
  | connective k rest hk hvisible ih =>
    exact List.forall_mem_cons.2 ⟨startsVisible_head hvisible, ih⟩
  | character c cs hnone ih => exact ih

/-- In a text that ends visibly there is something behind every connective. -/
theorem tail_ne_nil {cs : List Char} (hend : EndsVisible cs) : ∀ p ∈ (cut cs).tail, p.2 ≠ [] := by
  induction cs using cut_induction with
  | nil => exact fun p hp => absurd hp List.not_mem_nil
  | connective k rest hk hvisible ih =>
    have hne := ne_nil_of_endsVisible hk hend
    exact List.forall_mem_cons.2 ⟨head_ne_nil hvisible hne, ih hend.of_append⟩
  | character c cs hnone ih =>
    rw [← List.singleton_append] at hend
    exact ih hend.of_append

theorem trim_segment_ne_nil {cs : List Char} (h : IsTrimmed cs) :
    ∀ segment ∈ (cut cs).segments, trim segment ≠ [] := by
  refine List.forall_mem_cons.2 ⟨?_, List.forall_mem_map.2 fun p hp => ?_⟩
  · exact trim_ne_nil (startsVisible_head h.startsVisible) (head_ne_nil h.startsVisible h.ne_nil)
  · exact trim_ne_nil (startsVisible_of_mem_tail cs p hp) (tail_ne_nil h.endsVisible p hp)

end Clause

namespace Filter

/-- No segment of a trimmed text is blank. -/
theorem segments_cut {cs : List Char} (h : IsTrimmed cs) :
    segments (Clause.cut cs) = (Clause.cut cs).segments.map trim := by
  rw [segments, List.filter_eq_self]
  exact List.forall_mem_map.2 fun segment hmem =>
    decide_eq_true (Clause.trim_segment_ne_nil h segment hmem)

/-- A trimmed text has one segment more than connectives. -/
theorem length_segments {cs : List Char} (h : IsTrimmed cs) :
    (segments (Clause.cut cs)).length = (Clause.cut cs).connectives.length + 1 := by
  rw [segments_cut h, List.length_map]
  simp [Clause.segments, Clause.connectives]

/-- Each segment gives a condition or a report, and not both. -/
theorem length_conditions_add_length_dropped (clause : Clause) :
    (ofClause clause).conditions.length + ((segments clause).filterMap dropped?).length =
      (segments clause).length := by
  rw [ofClause]
  induction segments clause with
  | nil => rfl
  | cons segment rest ih =>
    cases hsegment : Condition.ofSegment? segment with
    | none =>
      have hdropped : dropped? segment = some (.droppedSegment (String.ofList segment)) := by
        rw [dropped?, if_pos hsegment]
      rw [List.filterMap_cons_none hsegment, List.filterMap_cons_some hdropped, List.length_cons,
        List.length_cons, ← Nat.add_assoc, ih]
    | some c =>
      have hdropped : dropped? segment = none := by
        rw [dropped?, if_neg (by simp [hsegment])]
      rw [List.filterMap_cons_some hsegment, List.filterMap_cons_none hdropped, List.length_cons,
        List.length_cons, Nat.add_right_comm, ih]

end Filter

/-! ### Blanks at the ends of a text -/

namespace Connective

theorem leading?_of_allBlank {cs : List Char} (h : AllBlank cs) : leading? cs = none := by
  by_contra hsome
  obtain ⟨k, hk⟩ := Option.ne_none_iff_exists'.1 hsome
  obtain ⟨hproper, rest, rfl, -⟩ := leading?_eq_some_iff.1 hk
  obtain ⟨c, word, hword⟩ := List.exists_cons_of_ne_nil (ne_nil_of_isKeyword hproper.keyword)
  have hvisible := visible_of_isKeyword hproper.keyword c (by simp [hword])
  exact absurd (h c (by simp [chars, hword])) (by simp [hvisible])

/-- One more blank in front belongs to the connective. -/
theorem leading?_cons_of_some {c : Char} {cs : List Char} {k : Connective} (hc : isBlank c = true)
    (h : leading? cs = some k) : leading? (c :: cs) = some { k with before := c :: k.before } := by
  obtain ⟨hk, rest, rfl, hrest⟩ := leading?_eq_some_iff.1 h
  refine leading?_eq_some_iff.2 ⟨?_, rest, rfl, hrest⟩
  exact ⟨by simp, List.forall_mem_cons.2 ⟨hc, hk.before_blank⟩, hk.keyword, hk.after_ne_nil,
    hk.after_blank⟩

/-- A connective that comes about only through blanks behind a text is all of the text and them. -/
theorem chars_of_leading?_append_blanks {cs bs : List Char} {k : Connective}
    (h : leading? cs = none) (hne : cs ≠ []) (hend : EndsVisible cs) (hbs : AllBlank bs)
    (hk : leading? (cs ++ bs) = some k) : k.chars = cs ++ bs := by
  have hblank : StartsBlank bs := fun b hb => hbs b (List.mem_of_head? hb)
  have hfront : cs = k.before ++ k.word := eq_before_append_word h hne hend hblank hk
  obtain ⟨-, rest, heq, hvisible⟩ := leading?_eq_some_iff.1 hk
  have hbehind : bs = k.after ++ rest := by
    rw [chars, hfront, List.append_assoc (k.before ++ k.word)] at heq
    exact List.append_cancel_left heq
  have hnil : rest = [] := by
    cases rest with
    | nil => rfl
    | cons c rest =>
      have hc := hbs c (by simp [hbehind])
      exact absurd hc (by simp [hvisible c rfl])
  rw [heq, hnil, List.append_nil]

end Connective

namespace Clause

/-- The clause starts and ends with a segment: no connective stands at an end. -/
def HasOuterSegments (c : Clause) : Prop := ∀ last ∈ c.tail.getLast?, c.head ≠ [] ∧ last.2 ≠ []

instance (c : Clause) : Decidable c.HasOuterSegments :=
  inferInstanceAs (Decidable (∀ last ∈ c.tail.getLast?, c.head ≠ [] ∧ last.2 ≠ []))

theorem HasOuterSegments.leading? {cs : List Char} (h : (cut cs).HasOuterSegments) :
    Connective.leading? cs = none := by
  by_contra hsome
  obtain ⟨k, hk⟩ := Option.ne_none_iff_exists'.1 hsome
  obtain ⟨hproper, rest, rfl, hvisible⟩ := Connective.leading?_eq_some_iff.1 hk
  rw [cut_chars_append hproper hvisible] at h
  exact (h _ (List.getLast?_eq_some_getLast (List.cons_ne_nil _ _))).1 rfl

/-- Blanks in front of a text go to the first segment, unless a connective takes them. -/
theorem cut_blanks_append {bs cs : List Char} (hbs : AllBlank bs)
    (h : Connective.leading? (bs ++ cs) = none) :
    cut (bs ++ cs) = ⟨bs ++ (cut cs).head, (cut cs).tail⟩ := by
  induction bs with
  | nil => rfl
  | cons b bs ih =>
    obtain ⟨hb, hrest⟩ := List.forall_mem_cons.1 hbs
    have hnone : Connective.leading? (bs ++ cs) = none := by
      by_contra hsome
      obtain ⟨k, hk⟩ := Option.ne_none_iff_exists'.1 hsome
      rw [List.cons_append, Connective.leading?_cons_of_some hb hk] at h
      exact absurd h (Option.some_ne_none _)
    rw [List.cons_append] at h ⊢
    rw [cut_of_leading?_eq_none h, ih hrest hnone]
    rfl

theorem cut_of_allBlank {bs : List Char} (hbs : AllBlank bs) : cut bs = ⟨bs, []⟩ := by
  have hnone : Connective.leading? (bs ++ []) = none := by
    rw [List.append_nil]
    exact Connective.leading?_of_allBlank hbs
  have hcut := cut_blanks_append hbs hnone
  have hnil : cut [] = ⟨[], []⟩ := rfl
  rwa [hnil, List.append_nil] at hcut

/-- Blanks behind a text go to the last segment, unless a connective takes them. -/
theorem cut_append_blanks {cs bs : List Char} (hbs : AllBlank bs) (hend : EndsVisible cs)
    (hlast : ∀ last ∈ (cut (cs ++ bs)).tail.getLast?, last.2 ≠ []) :
    (cut (cs ++ bs)).connectives = (cut cs).connectives ∧
      (cut (cs ++ bs)).segments.map trimEnd = (cut cs).segments.map trimEnd := by
  induction cs using cut_induction with
  | nil =>
    have hblank : trimEnd bs = [] := trimEnd_append_allBlank [] hbs
    rw [List.nil_append, cut_of_allBlank hbs]
    exact ⟨rfl, congrArg (fun segment => [segment]) hblank⟩
  | connective k rest hk hvisible ih =>
    have hbehind : StartsVisible (rest ++ bs) := hvisible.append (ne_nil_of_endsVisible hk hend)
    rw [List.append_assoc, cut_chars_append hk hbehind] at hlast ⊢
    have hrest : ∀ last ∈ (cut (rest ++ bs)).tail.getLast?, last.2 ≠ [] := by
      intro last hmem
      apply hlast last
      rw [follow, List.getLast?_cons, Option.mem_def.1 hmem]
      rfl
    obtain ⟨hconnectives, hsegments⟩ := ih hend.of_append hrest
    rw [connectives_follow, connectives_follow, segments_follow, segments_follow, hconnectives,
      List.map_cons, List.map_cons, hsegments]
    exact ⟨rfl, rfl⟩
  | character c cs hnone ih =>
    have hnone' : Connective.leading? (c :: cs ++ bs) = none := by
      by_contra hsome
      obtain ⟨k, hk⟩ := Option.ne_none_iff_exists'.1 hsome
      have hproper := (Connective.leading?_eq_some_iff.1 hk).1
      have hall := Connective.chars_of_leading?_append_blanks hnone (by simp) hend hbs hk
      -- the connective takes all the blanks, and nothing is left behind it
      have hnothing : StartsVisible [] := by simp [StartsVisible]
      rw [← hall, ← List.append_nil k.chars, cut_chars_append hproper hnothing] at hlast
      exact hlast (k, []) rfl rfl
    rw [← List.singleton_append] at hend
    rw [List.cons_append] at hnone' hlast ⊢
    rw [cut_of_leading?_eq_none hnone'] at hlast ⊢
    obtain ⟨hconnectives, hsegments⟩ := ih hend.of_append hlast
    refine ⟨hconnectives, ?_⟩
    simp only [segments, extend, List.map_cons, List.cons.injEq] at hsegments ⊢
    refine ⟨?_, hsegments.2⟩
    rw [← trimEnd_cons_trimEnd, hsegments.1, trimEnd_cons_trimEnd]

end Clause

namespace Filter

/-- What a clause says depends on its segments up to the blanks around them. -/
theorem ofClause_congr {clause clause' : Clause}
    (hconnectives : clause.connectives = clause'.connectives)
    (hsegments : clause.segments.map trim = clause'.segments.map trim) :
    ofClause clause = ofClause clause' := by
  simp only [ofClause, segments, hconnectives, hsegments]

/-- A text and the trimmed text say the same, unless a connective stands at an end of the text. -/
theorem ofText_trim {cs : List Char} (h : (Clause.cut cs).HasOuterSegments) :
    ofText (trim cs) = ofText cs := by
  have hfront : Clause.cut (blanks cs ++ trimStart cs) =
      ⟨blanks cs ++ (Clause.cut (trimStart cs)).head, (Clause.cut (trimStart cs)).tail⟩ := by
    apply Clause.cut_blanks_append (allBlank_blanks cs)
    rw [blanks_append_trimStart]
    exact h.leading?
  rw [blanks_append_trimStart] at hfront
  obtain ⟨bs, hbs, hbehind⟩ := exists_trimEnd_append (trimStart cs)
  have hlast : ∀ last ∈ (Clause.cut (trimEnd (trimStart cs) ++ bs)).tail.getLast?, last.2 ≠ [] := by
    rw [← hbehind]
    intro last hmem
    exact (h last (by rwa [hfront])).2
  obtain ⟨hconnectives, hsegments⟩ :=
    Clause.cut_append_blanks hbs (endsVisible_trimEnd (trimStart cs)) hlast
  rw [← hbehind] at hconnectives hsegments
  have htrim : trim ∘ trimEnd = trim := funext trim_trimEnd
  apply ofClause_congr
  · rw [hfront]
    exact hconnectives.symm
  · calc
      (Clause.cut (trim cs)).segments.map trim
        = ((Clause.cut (trim cs)).segments.map trimEnd).map trim := by rw [List.map_map, htrim]
      _ = ((Clause.cut (trimStart cs)).segments.map trimEnd).map trim := by rw [hsegments]; rfl
      _ = (Clause.cut (trimStart cs)).segments.map trim := by rw [List.map_map, htrim]
      _ = (Clause.cut cs).segments.map trim := by
        rw [hfront, Clause.segments, Clause.segments, List.map_cons, List.map_cons,
          trim_allBlank_append (allBlank_blanks cs)]

end Filter

end RecordQuery
