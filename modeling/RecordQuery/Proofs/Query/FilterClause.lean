import RecordQuery.Proofs.Literal.Spelling
import RecordQuery.Proofs.Text.Joining

/-!
# Reading back a filter clause

A clause that lists conditions with the word `and` between them is read back as these conditions,
without a report.  The one thing a string may not have in it is a connective of its own: quotes do
not protect it, since a clause is cut before its segments are looked into.  All else may stand in a
string, in particular quotes, parentheses, operators, and at its ends the words `and` and `or`; and
a field may be called `and`.
-/

namespace RecordQuery

open Text

/-! ### Marks -/

namespace Connective

/-- A character that no connective holds. -/
def IsMark (c : Char) : Prop := isBlank c = false ∧ c.toLower ∉ letters

instance (c : Char) : Decidable (IsMark c) := inferInstanceAs (Decidable (_ ∧ _))

theorem not_occursIn_nil : ¬ OccursIn [] := by decide

theorem not_occursIn_of_mark {m : Char} {before after : List Char} (hm : IsMark m)
    (hbefore : ¬ OccursIn before) (hafter : ¬ OccursIn after) :
    ¬ OccursIn (before ++ m :: after) := by
  intro h
  rcases occursIn_of_mark hm.1 hm.2 h with h | h
  · exact hbefore h
  · exact hafter h

/-- A text between marks stays what it is. -/
theorem not_occursIn_between {a b : Char} {before inner after : List Char} (ha : IsMark a)
    (hb : IsMark b) (hbefore : ¬ OccursIn before) (hinner : ¬ OccursIn inner)
    (hafter : ¬ OccursIn after) : ¬ OccursIn (before ++ a :: (inner ++ b :: after)) :=
  not_occursIn_of_mark ha hbefore (not_occursIn_of_mark hb hinner hafter)

theorem not_occursIn_intercalate {m : Char} {pieces : List (List Char)} (hm : IsMark m)
    (h : ∀ piece ∈ pieces, ¬ OccursIn piece) : ¬ OccursIn ([m].intercalate pieces) := by
  induction pieces with
  | nil => exact not_occursIn_nil
  | cons first rest ih =>
    have hfirst := h first List.mem_cons_self
    have hrest := ih fun piece hpiece => h piece (List.mem_cons_of_mem _ hpiece)
    by_cases hnil : rest = []
    · subst hnil
      rwa [List.intercalate_singleton]
    · rw [List.intercalate_cons_of_ne_nil hnil, List.append_assoc, List.singleton_append]
      exact not_occursIn_of_mark hm hfirst hrest

/-- The connective that stands between conditions. -/
def conjunction : Connective := ⟨[' '], "and".toList, [' ']⟩

theorem isProper_conjunction : conjunction.IsProper := by
  exact ⟨by decide, by decide, by decide, by decide, by decide⟩

end Connective

/-! ### Segments -/

namespace Clause

/-- A text that may stand between connectives.  Neither the text nor the blank behind it gives rise
to another connective. -/
structure IsSegment (cs : List Char) : Prop where
  isTrimmed : IsTrimmed cs
  not_occursIn : ¬ Connective.OccursIn (cs ++ [' '])

theorem IsSegment.cut {cs : List Char} (h : IsSegment cs) : Clause.cut cs = ⟨cs, []⟩ :=
  cut_of_not_occursIn fun hin => h.not_occursIn (hin.mono (List.prefix_append _ _).isInfix)

theorem IsSegment.not_endsIn {cs : List Char} (h : IsSegment cs) : ¬ Connective.EndsIn cs :=
  fun hends => h.not_occursIn (Connective.occursIn_of_endsIn rfl hends)

/-- A clause is cut at the connectives that it was put together with, and nowhere else. -/
theorem cut_intercalate {segments : List (List Char)} (hne : segments ≠ [])
    (h : ∀ segment ∈ segments, IsSegment segment) :
    (cut (" and ".toList.intercalate segments)).segments = segments ∧
      ∀ k ∈ (cut (" and ".toList.intercalate segments)).connectives,
        k = Connective.conjunction := by
  induction segments with
  | nil => exact absurd rfl hne
  | cons first rest ih =>
    have hfirst := h first List.mem_cons_self
    have hrest : ∀ segment ∈ rest, IsSegment segment :=
      fun segment hsegment => h segment (List.mem_cons_of_mem _ hsegment)
    by_cases hnil : rest = []
    · subst hnil
      rw [List.intercalate_singleton, hfirst.cut]
      exact ⟨rfl, by simp [connectives]⟩
    · obtain ⟨hsegments, hconnectives⟩ := ih hnil hrest
      have hstart : StartsVisible (" and ".toList.intercalate rest) :=
        (isTrimmed_intercalate hnil fun segment hsegment =>
          (hrest segment hsegment).isTrimmed).startsVisible
      have hchars : " and ".toList = Connective.conjunction.chars := by decide
      rw [List.intercalate_cons_of_ne_nil hnil, List.append_assoc]
      rw [hchars] at hsegments hconnectives hstart ⊢
      rw [cut_append Connective.isProper_conjunction hfirst.isTrimmed.endsVisible hfirst.not_endsIn
        hstart, hfirst.cut]
      constructor
      · rw [segments_join, hsegments]
        rfl
      · intro k hk
        rw [connectives_join] at hk
        rcases List.mem_append.1 hk with hk | hk
        · exact absurd hk List.not_mem_nil
        · rcases List.mem_cons.1 hk with rfl | hk
          · rfl
          · exact hconnectives k hk

end Clause

/-! ### Literals -/

theorem IsBareWord.not_occursIn {w : List Char} (h : IsBareWord w) :
    ¬ Connective.OccursIn (' ' :: (w ++ [' '])) := by
  intro hin
  have hblank := Connective.occursIn_of_word h.visible h.isKeyword (startsBlank_cons rfl []) hin
  exact Connective.not_occursIn_singleton ' ' hblank

namespace Literal

/-- The strings that a literal holds. -/
def texts : Literal → List String
  | string s => [s]
  | strings items => items
  | _ => []

/-- A literal whose spelling stands in a filter and is read back from there. -/
structure IsPrintable (v : Literal) : Prop where
  isReadable : v.IsReadable
  not_occursIn : ∀ s ∈ v.texts, ¬ Connective.OccursIn s.toList
  ampersand : ∀ s ∈ v.texts, '&' ∉ s.toList

instance (v : Literal) : Decidable v.IsPrintable :=
  decidable_of_iff (v.IsReadable ∧ (∀ s ∈ v.texts, ¬ Connective.OccursIn s.toList) ∧
      ∀ s ∈ v.texts, '&' ∉ s.toList)
    ⟨fun h => ⟨h.1, h.2.1, h.2.2⟩, fun h => ⟨h.isReadable, h.not_occursIn, h.ampersand⟩⟩

theorem isTrimmed_spelling {v : Literal} (h : v.IsReadable) : IsTrimmed v.spelling := by
  cases v with
  | number n =>
    have hbare := isBareWord_number h
    exact hbare.visible.isTrimmed hbare.ne_nil
  | boolean b =>
    have hbare := isBareWord_boolean b
    exact hbare.visible.isTrimmed hbare.ne_nil
  | date t =>
    have hbare := isBareWord_date h
    exact hbare.visible.isTrimmed hbare.ne_nil
  | string s => exact isTrimmed_iff.2 ⟨by simp [spelling, inQuotes], trim_inQuotes s⟩
  | strings items => exact isTrimmed_iff.2 ⟨by simp [spelling], trim_parens _⟩

theorem not_occursIn_inQuotes {s : String} {before after : List Char}
    (hbefore : ¬ Connective.OccursIn before) (hs : ¬ Connective.OccursIn s.toList)
    (hafter : ¬ Connective.OccursIn after) :
    ¬ Connective.OccursIn (before ++ (inQuotes s ++ after)) := by
  have hquote : Connective.IsMark '\'' := by decide
  have hbetween := Connective.not_occursIn_between hquote hquote hbefore hs hafter
  simpa [inQuotes] using hbetween

theorem IsPrintable.not_occursIn_spelling {v : Literal} (h : v.IsPrintable) :
    ¬ Connective.OccursIn (' ' :: (v.spelling ++ [' '])) := by
  have hblank := Connective.not_occursIn_singleton ' '
  have hnil := Connective.not_occursIn_nil
  cases v with
  | number n => exact (isBareWord_number h.isReadable).not_occursIn
  | boolean b => exact (isBareWord_boolean b).not_occursIn
  | date t => exact (isBareWord_date h.isReadable).not_occursIn
  | string s =>
    exact not_occursIn_inQuotes hblank (h.not_occursIn s List.mem_cons_self) hblank
  | strings items =>
    have hitems : ¬ Connective.OccursIn ([','].intercalate (items.map inQuotes)) := by
      apply Connective.not_occursIn_intercalate (by decide)
      refine List.forall_mem_map.2 fun s hs => ?_
      have hitem := not_occursIn_inQuotes hnil (h.not_occursIn s hs) hnil
      rwa [List.nil_append, List.append_nil] at hitem
    have hopen : Connective.IsMark '(' := by decide
    have hclose : Connective.IsMark ')' := by decide
    have hbetween := Connective.not_occursIn_between hopen hclose hblank hitems hblank
    simpa [spelling] using hbetween

theorem IsPrintable.ampersand_notMem_spelling {v : Literal} (h : v.IsPrintable) :
    '&' ∉ v.spelling := by
  cases v with
  | number n => exact (isBareWord_number h.isReadable).ampersand
  | boolean b => exact (isBareWord_boolean b).ampersand
  | date t => exact (isBareWord_date h.isReadable).ampersand
  | string s => exact notMem_inQuotes (by decide) (h.ampersand s List.mem_cons_self)
  | strings items =>
    have hitems : '&' ∉ [','].intercalate (items.map inQuotes) := by
      apply notMem_intercalate (by decide)
      exact List.forall_mem_map.2 fun s hs => notMem_inQuotes (by decide) (h.ampersand s hs)
    intro hmem
    simp only [spelling, List.cons_append, List.mem_cons, List.mem_append, List.not_mem_nil,
      or_false] at hmem
    rcases hmem with hmem | hmem | hmem
    · exact absurd hmem (by decide)
    · exact hitems hmem
    · exact absurd hmem (by decide)

end Literal

/-! ### Conditions -/

namespace Condition

/-- A condition whose spelling is read back: the field is a word, whatever word it is. -/
structure IsPrintable (c : Condition) : Prop where
  field_ne_nil : c.field.toList ≠ []
  field_visible : Visible c.field.toList
  field_ampersand : '&' ∉ c.field.toList
  value : c.value.IsPrintable

instance (c : Condition) : Decidable c.IsPrintable :=
  decidable_of_iff (c.field.toList ≠ [] ∧ Visible c.field.toList ∧ '&' ∉ c.field.toList ∧
      c.value.IsPrintable)
    ⟨fun h => ⟨h.1, h.2.1, h.2.2.1, h.2.2.2⟩,
      fun h => ⟨h.field_ne_nil, h.field_visible, h.field_ampersand, h.value⟩⟩

theorem spelling_eq (c : Condition) :
    c.spelling = c.field.toList ++ ' ' :: (c.operator.name.toList ++ ' ' :: c.value.spelling) := by
  rw [spelling, List.append_assoc, List.cons_append]

theorem visible_name (operator : Operator) : Visible operator.name.toList := by
  cases operator <;> decide

theorem startsBlank_space (cs : List Char) : StartsBlank (' ' :: cs) :=
  startsBlank_cons rfl cs

/-- The right-hand side is read back under the operator of the condition, which decides whether the
token is taken as a list. -/
theorem literal_spelling {c : Condition} (h : c.value.IsReadable) :
    literal c.operator c.value.spelling = c.value := by
  have htakes := c.takesList
  unfold literal
  split
  · next hoperator =>
    cases hvalue : c.value with
    | strings items => exact Literal.listOfToken_spelling (hvalue ▸ h)
    | number n => simp [hvalue, hoperator, Literal.isList] at htakes
    | boolean b => simp [hvalue, hoperator, Literal.isList] at htakes
    | string s => simp [hvalue, hoperator, Literal.isList] at htakes
    | date t => simp [hvalue, hoperator, Literal.isList] at htakes
  · next hoperator =>
    rw [decide_eq_false hoperator] at htakes
    exact Literal.ofToken_spelling h htakes

/-- A condition on a field that is a word is read back from its spelling. -/
theorem ofSegment?_spelling_of_visible {c : Condition} (hfield : Visible c.field.toList)
    (hreadable : c.value.IsReadable) : ofSegment? c.spelling = some c := by
  have hvalue := Literal.isTrimmed_spelling hreadable
  have hname := visible_name c.operator
  have hne : c.operator.name.toList ≠ [] := by cases c.operator <;> decide
  have hblank : AllBlank [' '] := by decide
  have hword : word c.spelling = c.field.toList := by
    rw [spelling_eq]
    exact word_append hfield (startsBlank_space _)
  have hrest : trimStart (afterWord c.spelling) =
      c.operator.name.toList ++ ' ' :: c.value.spelling := by
    rw [spelling_eq, afterWord_append hfield (startsBlank_space _)]
    exact trimStart_append hblank (hname.startsVisible.append hne)
  have hoperator : word (c.operator.name.toList ++ ' ' :: c.value.spelling) =
      c.operator.name.toList := word_append hname (startsBlank_space _)
  have htoken : trimStart (afterWord (c.operator.name.toList ++ ' ' :: c.value.spelling)) =
      c.value.spelling := by
    rw [afterWord_append hname (startsBlank_space _)]
    exact trimStart_append hblank hvalue.startsVisible
  have hliteral := literal_spelling hreadable
  simp only [ofSegment?, hword, hrest, hoperator, htoken, Operator.ofName?_name,
    if_neg hvalue.ne_nil, Option.some.injEq]
  obtain ⟨field, operator, value, takesList⟩ := c
  simp only [ofToken, mk.injEq, String.ofList_toList, true_and]
  exact hliteral

theorem IsPrintable.ofSegment?_spelling {c : Condition} (h : c.IsPrintable) :
    ofSegment? c.spelling = some c :=
  ofSegment?_spelling_of_visible h.field_visible h.value.isReadable

theorem isTrimmed_spelling {c : Condition} (hne : c.field.toList ≠ [])
    (hfield : Visible c.field.toList) (hreadable : c.value.IsReadable) : IsTrimmed c.spelling := by
  have htrimmed := (hfield.isTrimmed hne).append (' ' :: c.operator.name.toList ++ [' '])
    (Literal.isTrimmed_spelling hreadable)
  rw [spelling_eq]
  simpa using htrimmed

/-- A condition is no more than one segment if its literal is not. -/
theorem isSegment_spelling_of_visible {c : Condition} (hne : c.field.toList ≠ [])
    (hfield : Visible c.field.toList) (hreadable : c.value.IsReadable)
    (hliteral : ¬ Connective.OccursIn (' ' :: (c.value.spelling ++ [' ']))) :
    Clause.IsSegment c.spelling := by
  have hkeyword : Connective.isKeyword c.operator.name.toList = false := by
    cases c.operator <;> decide
  have hblank := startsBlank_space (c.value.spelling ++ [' '])
  refine ⟨isTrimmed_spelling hne hfield hreadable, fun hin => hliteral ?_⟩
  rw [spelling_eq, List.append_assoc, List.cons_append, List.append_assoc, List.cons_append] at hin
  have hbehind := Connective.occursIn_of_visible_append hfield hin
  exact Connective.occursIn_of_word (visible_name c.operator) hkeyword hblank hbehind

theorem IsPrintable.isSegment_spelling {c : Condition} (h : c.IsPrintable) :
    Clause.IsSegment c.spelling :=
  isSegment_spelling_of_visible h.field_ne_nil h.field_visible h.value.isReadable
    h.value.not_occursIn_spelling

theorem ampersand_notMem_spelling {c : Condition} (h : c.IsPrintable) : '&' ∉ c.spelling := by
  have hname : '&' ∉ c.operator.name.toList := by cases c.operator <;> decide
  have hspace : ¬ '&' = ' ' := by decide
  rw [spelling_eq]
  simp only [List.mem_append, List.mem_cons, not_or]
  exact ⟨h.field_ampersand, hspace, hname, hspace, h.value.ampersand_notMem_spelling⟩

end Condition

/-! ### Clauses -/

namespace Filter

theorem isSegment_of_mem {conditions : List Condition} (h : ∀ c ∈ conditions, c.IsPrintable) :
    ∀ segment ∈ conditions.map Condition.spelling, Clause.IsSegment segment :=
  List.forall_mem_map.2 fun c hc => (h c hc).isSegment_spelling

theorem filterMap_ofSegment? {conditions : List Condition} (h : ∀ c ∈ conditions, c.IsPrintable) :
    (conditions.map Condition.spelling).filterMap Condition.ofSegment? = conditions := by
  induction conditions with
  | nil => rfl
  | cons c rest ih =>
    have hc := (h c List.mem_cons_self).ofSegment?_spelling
    have hrest := ih fun d hd => h d (List.mem_cons_of_mem _ hd)
    rw [List.map_cons, List.filterMap_cons_some hc, hrest]

theorem filterMap_dropped? {conditions : List Condition} (h : ∀ c ∈ conditions, c.IsPrintable) :
    (conditions.map Condition.spelling).filterMap dropped? = [] := by
  rw [List.filterMap_eq_nil_iff]
  refine List.forall_mem_map.2 fun c hc => ?_
  rw [dropped?, (h c hc).ofSegment?_spelling, if_neg (by simp)]

/-- Conditions are read back from the clause that lists them, and nothing is reported. -/
theorem ofText_intercalate {conditions : List Condition} (hne : conditions ≠ [])
    (h : ∀ c ∈ conditions, c.IsPrintable) :
    ofText (" and ".toList.intercalate (conditions.map Condition.spelling)) = ⟨conditions, []⟩ := by
  have hsegment := isSegment_of_mem h
  obtain ⟨hsegments, hconnectives⟩ := Clause.cut_intercalate (by simpa using hne) hsegment
  have htrimmed : segments (Clause.cut (" and ".toList.intercalate
      (conditions.map Condition.spelling))) = conditions.map Condition.spelling := by
    rw [segments, hsegments]
    exact filter_map_trim fun segment hmem => (hsegment segment hmem).isTrimmed
  have hor : (Clause.cut (" and ".toList.intercalate
      (conditions.map Condition.spelling))).connectives.any Connective.isOr = false := by
    rw [List.any_eq_false]
    intro k hk
    rw [hconnectives k hk]
    decide
  rw [ofText, ofClause, htrimmed, filterMap_ofSegment? h, filterMap_dropped? h, hor]
  rfl

theorem isTrimmed_intercalate {conditions : List Condition} (hne : conditions ≠ [])
    (h : ∀ c ∈ conditions, c.IsPrintable) :
    IsTrimmed (" and ".toList.intercalate (conditions.map Condition.spelling)) :=
  Text.isTrimmed_intercalate (by simpa using hne) fun segment hsegment =>
    (isSegment_of_mem h segment hsegment).isTrimmed

theorem ampersand_notMem_intercalate {conditions : List Condition}
    (h : ∀ c ∈ conditions, c.IsPrintable) :
    '&' ∉ " and ".toList.intercalate (conditions.map Condition.spelling) := by
  apply notMem_intercalate (by decide)
  exact List.forall_mem_map.2 fun c hc => Condition.ampersand_notMem_spelling (h c hc)

end Filter

end RecordQuery
