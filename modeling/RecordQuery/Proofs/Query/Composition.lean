import RecordQuery.Proofs.Query.Segments

/-!
# Clauses put together

Two filter clauses with a connective between them say what the two say, one after the other: the
conditions of both, and reports on the segments that both drop (`Filter.ofText_between`).  Nothing
in one of them, however malformed, changes how the other is read.  What they share is the report on
`or`, which stands for the whole clause and comes once.

For this the connective has to be one.  If the first text ends in a blank and a word such as `and`,
then that word is the connective, and the word that was meant to be one goes to the segment behind
it.
-/

namespace RecordQuery

open Text

/-! ### Where a text ends in a connective word -/

namespace Connective

theorem endsIn_iff {cs : List Char} :
    EndsIn cs ↔ isKeyword (Text.word cs.reverse).reverse = true ∧ afterWord cs.reverse ≠ [] := by
  constructor
  · rintro ⟨before, left, w, hleft, hw, rfl⟩
    have hvisible : Visible w.reverse :=
      fun c hc => visible_of_isKeyword hw c (List.mem_reverse.1 hc)
    have hblank := startsBlank_cons hleft before.reverse
    have hreverse : (before ++ left :: w).reverse = w.reverse ++ left :: before.reverse := by simp
    rw [hreverse, word_append hvisible hblank, afterWord_append hvisible hblank,
      List.reverse_reverse]
    exact ⟨hw, List.cons_ne_nil _ _⟩
  · rintro ⟨hw, hne⟩
    obtain ⟨left, before, hsplit⟩ := List.exists_cons_of_ne_nil hne
    have hleft := startsBlank_afterWord cs.reverse left (by rw [hsplit]; rfl)
    refine ⟨before.reverse, left, (Text.word cs.reverse).reverse, hleft, hw, ?_⟩
    have hwhole := congrArg List.reverse (word_append_afterWord cs.reverse)
    rw [hsplit, List.reverse_append, List.reverse_reverse, List.reverse_cons,
      List.append_assoc, List.singleton_append] at hwhole
    exact hwhole.symm

instance (cs : List Char) : Decidable (EndsIn cs) := decidable_of_iff _ endsIn_iff.symm

end Connective

/-! ### What a filter reports -/

/-- The segment that the report says was dropped. -/
def Diagnostic.segment? : Diagnostic → Option String
  | droppedSegment segment => some segment
  | _ => none

namespace Filter

/-- The segments that a filter drops, in their order. -/
def droppedSegments (f : Filter) : List String := f.diagnostics.filterMap Diagnostic.segment?

theorem droppedSegments_ofClause (clause : Clause) :
    (ofClause clause).droppedSegments =
      ((segments clause).filterMap dropped?).filterMap Diagnostic.segment? := by
  rw [droppedSegments, ofClause, List.filterMap_append]
  split
  · rfl
  · rfl

theorem orIgnored_mem_iff (clause : Clause) :
    .orIgnored ∈ (ofClause clause).diagnostics ↔ ∃ k ∈ clause.connectives, k.isOr = true := by
  have hdropped : Diagnostic.orIgnored ∉ (segments clause).filterMap dropped? := by
    intro hmem
    obtain ⟨segment, -, hsegment⟩ := List.mem_filterMap.1 hmem
    rw [dropped?, Option.ite_none_right_eq_some] at hsegment
    cases hsegment.2
  rw [ofClause, List.mem_append, or_iff_left hdropped, ← List.any_eq_true]
  split
  · next hor => simp [hor]
  · next hand => simp [hand]

/-! ### Joining -/

theorem segments_join (first second : Clause) (k : Connective) :
    segments (first.join k second) = segments first ++ segments second := by
  rw [segments, Clause.segments_join, List.map_append, List.filter_append]
  rfl

theorem conditions_join (first second : Clause) (k : Connective) :
    (ofClause (first.join k second)).conditions =
      (ofClause first).conditions ++ (ofClause second).conditions := by
  rw [ofClause, segments_join, List.filterMap_append]
  rfl

theorem droppedSegments_join (first second : Clause) (k : Connective) :
    (ofClause (first.join k second)).droppedSegments =
      (ofClause first).droppedSegments ++ (ofClause second).droppedSegments := by
  simp only [droppedSegments_ofClause, segments_join, List.filterMap_append]

theorem orIgnored_mem_join_iff (first second : Clause) (k : Connective) :
    .orIgnored ∈ (ofClause (first.join k second)).diagnostics ↔
      k.isOr = true ∨ .orIgnored ∈ (ofClause first).diagnostics ∨
        .orIgnored ∈ (ofClause second).diagnostics := by
  simp only [orIgnored_mem_iff, Clause.connectives_join, List.mem_append, List.mem_cons,
    or_and_right, exists_or, exists_eq_left]
  exact or_left_comm

/-- A clause between whose parts a connective stands has the conditions and the dropped segments of
both parts, and it reports an `or` if the connective is one or a part has one. -/
theorem ofText_between {a b w : List Char} (hend : EndsVisible a)
    (hword : ¬ Connective.EndsIn a) (hstart : StartsVisible b)
    (hw : Connective.isKeyword w = true) :
    (ofText (a ++ ' ' :: (w ++ ' ' :: b))).conditions =
        (ofText a).conditions ++ (ofText b).conditions ∧
      (ofText (a ++ ' ' :: (w ++ ' ' :: b))).droppedSegments =
        (ofText a).droppedSegments ++ (ofText b).droppedSegments ∧
      (.orIgnored ∈ (ofText (a ++ ' ' :: (w ++ ' ' :: b))).diagnostics ↔
        sameLetters w "or".toList = true ∨ .orIgnored ∈ (ofText a).diagnostics ∨
          .orIgnored ∈ (ofText b).diagnostics) := by
  let k : Connective := ⟨[' '], w, [' ']⟩
  have hblank : AllBlank [' '] := by decide
  have hproper : k.IsProper := ⟨List.cons_ne_nil _ _, hblank, hw, List.cons_ne_nil _ _, hblank⟩
  have hchars : a ++ ' ' :: (w ++ ' ' :: b) = a ++ (k.chars ++ b) := by simp [k, Connective.chars]
  have hcut : Clause.cut (a ++ ' ' :: (w ++ ' ' :: b)) = (Clause.cut a).join k (Clause.cut b) := by
    rw [hchars]
    exact Clause.cut_append hproper hend hword hstart
  simp only [ofText, hcut]
  exact ⟨conditions_join _ _ k, droppedSegments_join _ _ k, orIgnored_mem_join_iff _ _ k⟩

/-- Both parts drop segments, and the second starts with a connective word; the one condition in
them is kept. -/
theorem ofText_between_garbage :
    let a := "and and garbage".toList
    let b := "or b like 1 oR c eq 2".toList
    EndsVisible a ∧ ¬ Connective.EndsIn a ∧ StartsVisible b ∧
      Connective.isKeyword "AND".toList = true ∧
      (ofText (a ++ ' ' :: ("AND".toList ++ ' ' :: b))).conditions =
        [.ofToken "c" .eq ['2']] ∧
      (ofText (a ++ ' ' :: ("AND".toList ++ ' ' :: b))).droppedSegments =
        ["and", "garbage", "or b like 1"] ∧
      .orIgnored ∈ (ofText (a ++ ' ' :: ("AND".toList ++ ' ' :: b))).diagnostics := by
  intro a b
  have ha : IsTrimmed a := by decide +kernel
  have hb : IsTrimmed b := by decide +kernel
  have hword : ¬ Connective.EndsIn a := by decide +kernel
  have hw : Connective.isKeyword "AND".toList = true := by decide
  obtain ⟨hconditions, hdropped, hor⟩ :=
    ofText_between ha.endsVisible hword hb.startsVisible hw
  refine ⟨ha.endsVisible, hword, hb.startsVisible, hw, ?_, ?_, ?_⟩
  · rw [hconditions]
    decide +kernel
  · rw [hdropped]
    decide +kernel
  · rw [hor]
    exact Or.inr (Or.inr (by decide +kernel))

/-- The word at the end of the first part is taken for the connective, and not the one behind it. -/
example :
    (ofText "a eq 1 and".toList).conditions.length = 1 ∧
      (ofText "b eq 2".toList).conditions.length = 1 ∧
      (ofText "a eq 1 and or b eq 2".toList).conditions.length = 1 := by
  decide +kernel

end Filter

end RecordQuery
