import RecordQuery.Proofs.Text.Trimming
import RecordQuery.Query.Filter

/-!
# Connectives in a clause

Where the connectives of a clause are is a matter of its text alone: a connective starts where
blanks, one of the two words and blanks again stand in a row (`Connective.leading?_eq_some_iff`).  A
text in which no blank, word and blank follow each other has no connective and is one segment
(`Clause.cut_of_not_occursIn`), and a connective between two texts cuts them apart without changing
how either is cut itself (`Clause.cut_append`).

The second statement needs its conditions on the first text.  If that ends with a blank, the blank
belongs to the connective; and if it ends with a blank and a word such as `and`, this word is the
connective and the next one is no longer found.
-/

namespace RecordQuery

open Text

/-! ### Keywords -/

namespace Connective

/-- The letters of the two words. -/
def letters : List Char := ['a', 'n', 'd', 'o', 'r']

theorem toLower_mem_letters {word : List Char} (h : isKeyword word = true) :
    ∀ c ∈ word, c.toLower ∈ letters := by
  have hand : ("and".toList.map Char.toLower) ⊆ letters := by decide
  have hor : ("or".toList.map Char.toLower) ⊆ letters := by decide
  simp only [isKeyword, sameLetters, Bool.or_eq_true, beq_iff_eq] at h
  intro c hc
  have hmem := List.mem_map_of_mem (f := Char.toLower) hc
  rcases h with h | h
  · exact hand (h ▸ hmem)
  · exact hor (h ▸ hmem)

theorem ne_nil_of_isKeyword {word : List Char} (h : isKeyword word = true) : word ≠ [] := by
  rintro rfl
  exact absurd h (by decide)

/-- No letter of a keyword is a blank, in either case. -/
theorem isBlank_of_toLower_mem_letters {c : Char} (h : c.toLower ∈ letters) :
    isBlank c = false := by
  have hletters : Visible letters := by decide
  rw [← isBlank_toLower]
  exact hletters _ h

theorem visible_of_isKeyword {word : List Char} (h : isKeyword word = true) : Visible word :=
  fun c hc => isBlank_of_toLower_mem_letters (toLower_mem_letters h c hc)

/-! ### What a connective is -/

/-- The parts of a connective are what they are called. -/
structure IsProper (k : Connective) : Prop where
  before_ne_nil : k.before ≠ []
  before_blank : AllBlank k.before
  keyword : isKeyword k.word = true
  after_ne_nil : k.after ≠ []
  after_blank : AllBlank k.after

theorem IsProper.startsBlank {k : Connective} (h : k.IsProper) (rest : List Char) :
    StartsBlank (k.after ++ rest) :=
  h.after_blank.startsBlank_append h.after_ne_nil rest

/-- A text starts with a connective if it starts with blanks, one of the two words and blanks. -/
theorem leading?_eq_some_iff {cs : List Char} {k : Connective} :
    leading? cs = some k ↔ k.IsProper ∧ ∃ rest, cs = k.chars ++ rest ∧ StartsVisible rest := by
  constructor
  · intro h
    have hblanks := blanks_append_trimStart cs
    have hword := word_append_afterWord (trimStart cs)
    have hafter := blanks_append_trimStart (afterWord (trimStart cs))
    unfold leading? at h
    split at h
    · exact absurd h (by simp)
    · next hne =>
      simp only [Option.ite_none_right_eq_some, Option.some.injEq] at h
      obtain ⟨⟨hkeyword, hafterne⟩, rfl⟩ := h
      refine ⟨⟨hne, allBlank_blanks _, hkeyword, hafterne, allBlank_blanks _⟩,
        trimStart (afterWord (trimStart cs)), ?_, startsVisible_trimStart _⟩
      simp only [chars, List.append_assoc, hafter, hword, hblanks]
  · rintro ⟨hk, rest, rfl, hrest⟩
    have hvisible := visible_of_isKeyword hk.keyword
    have hstart : StartsVisible (k.word ++ (k.after ++ rest)) :=
      hvisible.startsVisible.append (ne_nil_of_isKeyword hk.keyword)
    have hassoc : k.chars ++ rest = k.before ++ (k.word ++ (k.after ++ rest)) := by
      simp only [chars, List.append_assoc]
    rw [hassoc]
    have hbefore := blanks_append hk.before_blank hstart
    have htrimmed := trimStart_append hk.before_blank hstart
    have hword := word_append hvisible (hk.startsBlank rest)
    have hrest' := afterWord_append hvisible (hk.startsBlank rest)
    have hafter := blanks_append hk.after_blank hrest
    unfold leading?
    split
    · next hnil => exact absurd (hbefore.symm.trans hnil) hk.before_ne_nil
    · simp only [hbefore, htrimmed, hword, hrest', hafter]
      exact if_pos ⟨hk.keyword, hk.after_ne_nil⟩

/-! ### Texts without connectives -/

/-- Somewhere in the text one of the two words stands between blanks. -/
def OccursIn (cs : List Char) : Prop :=
  ∃ left word right, isBlank left = true ∧ isKeyword word = true ∧ isBlank right = true ∧
    left :: (word ++ [right]) <:+: cs

theorem OccursIn.mono {cs ds : List Char} (h : OccursIn cs) (hsub : cs <:+: ds) :
    OccursIn ds := by
  obtain ⟨left, word, right, hleft, hword, hright, hin⟩ := h
  exact ⟨left, word, right, hleft, hword, hright, hin.trans hsub⟩

theorem not_occursIn_singleton (c : Char) : ¬ OccursIn [c] := by
  rintro ⟨left, word, right, -, -, -, hin⟩
  have hlength := hin.length_le
  simp at hlength

theorem occursIn_of_leading? {cs : List Char} {k : Connective} (h : leading? cs = some k) :
    OccursIn cs := by
  obtain ⟨hk, rest, rfl, -⟩ := leading?_eq_some_iff.1 h
  obtain ⟨before, left, hbefore⟩ := (List.eq_nil_or_concat k.before).resolve_left hk.before_ne_nil
  obtain ⟨right, after, hafter⟩ := List.exists_cons_of_ne_nil hk.after_ne_nil
  refine ⟨left, k.word, right, hk.before_blank left (by simp [hbefore]), hk.keyword,
    hk.after_blank right (by simp [hafter]), before, after ++ rest, ?_⟩
  simp [chars, hbefore, hafter]

theorem leading?_ne_none {left right : Char} {word rest : List Char} (hleft : isBlank left = true)
    (hword : isKeyword word = true) (hright : isBlank right = true) :
    leading? (left :: (word ++ right :: rest)) ≠ none := by
  have hafter : blanks (right :: rest) ≠ [] := by simp [blanks, hright]
  have hproper : IsProper ⟨[left], word, blanks (right :: rest)⟩ :=
    ⟨by simp, by simpa [AllBlank] using hleft, hword, hafter, allBlank_blanks _⟩
  have hsome : leading? (left :: (word ++ right :: rest)) =
      some ⟨[left], word, blanks (right :: rest)⟩ := by
    apply leading?_eq_some_iff.2
    refine ⟨hproper, trimStart (right :: rest), ?_, startsVisible_trimStart _⟩
    simp only [chars, List.append_assoc, blanks_append_trimStart, List.cons_append, List.nil_append]
  rw [hsome]
  exact Option.some_ne_none _

/-- A word without blanks in front of a text is no part of a connective. -/
theorem occursIn_of_visible_append {w cs : List Char} (hw : Visible w) (h : OccursIn (w ++ cs)) :
    OccursIn cs := by
  induction w with
  | nil => exact h
  | cons c w ih =>
    apply ih (fun d hd => hw d (by simp [hd]))
    obtain ⟨left, word, right, hleft, hword, hright, hin⟩ := h
    refine ⟨left, word, right, hleft, hword, hright, ?_⟩
    rw [List.cons_append, List.infix_cons_iff] at hin
    rcases hin with hprefix | hin
    · have hvisible := hw c (by simp)
      rw [(List.cons_prefix_cons.1 hprefix).1] at hleft
      exact absurd hleft (by simp [hvisible])
    · exact hin

/-- A word between blanks that is not one of the two does not make a connective. -/
theorem occursIn_of_word {c : Char} {w cs : List Char} (hw : Visible w)
    (hkeyword : isKeyword w = false) (hcs : StartsBlank cs) (h : OccursIn (c :: (w ++ cs))) :
    OccursIn cs := by
  apply occursIn_of_visible_append hw
  obtain ⟨left, word, right, hleft, hword, hright, hin⟩ := h
  refine ⟨left, word, right, hleft, hword, hright, ?_⟩
  rcases List.infix_cons_iff.1 hin with hprefix | hin
  · -- the word of the connective would have to be the word that stands here
    obtain ⟨rest, hrest⟩ := (List.cons_prefix_cons.1 hprefix).2
    have hright' := startsBlank_cons hright rest
    have hsplit : word ++ right :: rest = w ++ cs := by
      rw [← hrest, List.append_assoc, List.singleton_append]
    have hsame : word = w := by
      rw [← word_append (visible_of_isKeyword hword) hright', hsplit, word_append hw hcs]
    exact absurd hword (by simp [hsame, hkeyword])
  · exact hin

/-- A mark that is neither blank nor a letter of the two words separates connectives. -/
theorem occursIn_of_mark {m : Char} {xs ys : List Char} (hblank : isBlank m = false)
    (hletter : m.toLower ∉ letters) (h : OccursIn (xs ++ m :: ys)) : OccursIn xs ∨ OccursIn ys := by
  obtain ⟨left, word, right, hleft, hword, hright, hin⟩ := h
  have hmark : m ∉ left :: (word ++ [right]) := by
    intro hm
    simp only [List.mem_cons, List.mem_append, List.not_mem_nil, or_false] at hm
    rcases hm with rfl | hm | rfl
    · exact absurd hleft (by simp [hblank])
    · exact hletter (toLower_mem_letters hword m hm)
    · exact absurd hright (by simp [hblank])
  rcases List.infix_append_iff_ne_nil.1 hin with hin | hin | ⟨l₁, l₂, -, hne, heq, -, hprefix⟩
  · exact Or.inl ⟨left, word, right, hleft, hword, hright, hin⟩
  · rcases List.infix_cons_iff.1 hin with hprefix | hin
    · exact absurd (by simp [(List.cons_prefix_cons.1 hprefix).1]) hmark
    · exact Or.inr ⟨left, word, right, hleft, hword, hright, hin⟩
  · obtain ⟨d, l₂, rfl⟩ := List.exists_cons_of_ne_nil hne
    have hd : d = m := (List.cons_prefix_cons.1 hprefix).1
    exact absurd (by simp [heq, hd]) hmark

/-! ### Texts that go on -/

/-- The text ends in a blank and one of the two words. -/
def EndsIn (cs : List Char) : Prop :=
  ∃ before left word, isBlank left = true ∧ isKeyword word = true ∧ cs = before ++ left :: word

theorem EndsIn.of_append {cs ds : List Char} (h : EndsIn ds) : EndsIn (cs ++ ds) := by
  obtain ⟨before, left, word, hleft, hword, rfl⟩ := h
  exact ⟨cs ++ before, left, word, hleft, hword, by simp⟩

theorem occursIn_of_endsIn {cs : List Char} {c : Char} (hc : isBlank c = true) (h : EndsIn cs) :
    OccursIn (cs ++ [c]) := by
  obtain ⟨before, left, word, hleft, hword, rfl⟩ := h
  exact ⟨left, word, c, hleft, hword, hc, before, [], by simp⟩

theorem IsProper.endsIn {k : Connective} (h : k.IsProper) : EndsIn (k.before ++ k.word) := by
  obtain ⟨before, left, hbefore⟩ := (List.eq_nil_or_concat k.before).resolve_left h.before_ne_nil
  exact ⟨before, left, k.word, h.before_blank left (by simp [hbefore]), h.keyword,
    by simp [hbefore]⟩

theorem not_endsVisible_append (cs : List Char) {bs : List Char} (hbs : AllBlank bs)
    (hne : bs ≠ []) : ¬ EndsVisible (cs ++ bs) := by
  intro h
  have hlast := h.of_append (bs.getLast hne) (List.getLast?_eq_some_getLast hne)
  exact absurd (hbs _ (List.getLast_mem hne)) (by simp [hlast])

/-- If a connective comes about at the front of a text only when the text goes on with a blank, the
text is what the connective has before its last blanks. -/
theorem eq_before_append_word {cs ds : List Char} {k : Connective} (h : leading? cs = none)
    (hne : cs ≠ []) (hend : EndsVisible cs) (hds : StartsBlank ds)
    (hlonger : leading? (cs ++ ds) = some k) : cs = k.before ++ k.word := by
  obtain ⟨hk, rest, heq, hrest⟩ := leading?_eq_some_iff.1 hlonger
  rw [chars, List.append_assoc, List.append_assoc] at heq
  -- where the text ends among the parts of the connective
  rcases List.append_eq_append_iff.1 heq with ⟨inBlanks, hbefore, -⟩ | ⟨behind, rfl, hbehind⟩
  · have hblank : AllBlank cs := fun c hc => hk.before_blank c (by simp [hbefore, hc])
    exact absurd hend (not_endsVisible_append [] hblank hne)
  rcases List.append_eq_append_iff.1 hbehind with ⟨inAfter, rfl, hafter⟩ | ⟨inWord, hword, hds'⟩
  · rcases List.append_eq_append_iff.1 hafter with ⟨inRest, rfl, hrest'⟩ | ⟨more, hmore, -⟩
    · -- the whole connective is there already
      apply absurd h
      have hvisible : StartsVisible inRest := by
        intro c hc
        exact hrest c (by rw [hrest', List.head?_append, Option.mem_def.1 hc]; rfl)
      rw [leading?_eq_some_iff.2 ⟨hk, inRest, by simp [chars], hvisible⟩]
      simp
    · by_cases hnil : inAfter = []
      · rw [hnil, List.append_nil]
      · have hblank : AllBlank inAfter := fun c hc => hk.after_blank c (by simp [hmore, hc])
        rw [← List.append_assoc] at hend
        exact absurd hend (not_endsVisible_append _ hblank hnil)
  · by_cases hnil : inWord = []
    · rw [hword, hnil, List.append_nil]
    · obtain ⟨c, inWord, rfl⟩ := List.exists_cons_of_ne_nil hnil
      have hblank := hds c (by rw [hds']; rfl)
      have hvisible := visible_of_isKeyword hk.keyword c (by simp [hword])
      exact absurd hblank (by simp [hvisible])

/-- No connective comes about at the front of a text that goes on with a blank, unless the text ends
in one of the two words. -/
theorem leading?_append_of_none {cs ds : List Char} (h : leading? cs = none) (hne : cs ≠ [])
    (hend : EndsVisible cs) (hword : ¬ EndsIn cs) (hds : StartsBlank ds) :
    leading? (cs ++ ds) = none := by
  by_contra hsome
  obtain ⟨k, hk⟩ := Option.ne_none_iff_exists'.1 hsome
  rw [eq_before_append_word h hne hend hds hk] at hword
  exact hword (leading?_eq_some_iff.1 hk).1.endsIn

end Connective

namespace Clause

/-- Two clauses with a connective between them. -/
def join (first : Clause) (k : Connective) (second : Clause) : Clause :=
  ⟨first.head, first.tail ++ (k, second.head) :: second.tail⟩

@[simp] theorem segments_join (first second : Clause) (k : Connective) :
    (first.join k second).segments = first.segments ++ second.segments := by
  simp [join, segments]

@[simp] theorem connectives_join (first second : Clause) (k : Connective) :
    (first.join k second).connectives = first.connectives ++ k :: second.connectives := by
  simp [join, connectives]

/-- A text without connectives is one segment. -/
theorem cut_of_not_occursIn {cs : List Char} (h : ¬ Connective.OccursIn cs) : cut cs = ⟨cs, []⟩ := by
  induction cs with
  | nil => rfl
  | cons c cs ih =>
    have hnone : Connective.leading? (c :: cs) = none := by
      by_contra hsome
      obtain ⟨k, hk⟩ := Option.ne_none_iff_exists'.1 hsome
      exact h (Connective.occursIn_of_leading? hk)
    rw [cut_of_leading?_eq_none hnone, ih fun hcs => h (hcs.mono (List.suffix_cons c cs).isInfix)]
    rfl

theorem not_occursIn_of_tail_eq_nil {cs : List Char} (h : (cut cs).tail = []) :
    ¬ Connective.OccursIn cs := by
  induction cs with
  | nil =>
    rintro ⟨left, word, right, -, -, -, hin⟩
    exact absurd (List.infix_nil.1 hin) (by simp)
  | cons c cs ih =>
    cases hleading : Connective.leading? (c :: cs) with
    | some k =>
      rw [cut_of_leading? hleading] at h
      exact absurd h (by simp [follow])
    | none =>
      rw [cut_of_leading?_eq_none hleading] at h
      rintro ⟨left, word, right, hleft, hword, hright, hin⟩
      rcases List.infix_cons_iff.1 hin with ⟨rest, hrest⟩ | hin
      · rw [List.cons_append, List.append_assoc, List.singleton_append] at hrest
        exact Connective.leading?_ne_none hleft hword hright (hrest ▸ hleading)
      · exact ih h ⟨left, word, right, hleft, hword, hright, hin⟩

/-- A text is one segment exactly if no connective occurs in it. -/
theorem tail_cut_eq_nil_iff {cs : List Char} : (cut cs).tail = [] ↔ ¬ Connective.OccursIn cs :=
  ⟨not_occursIn_of_tail_eq_nil, fun h => by rw [cut_of_not_occursIn h]⟩

instance (cs : List Char) : Decidable (Connective.OccursIn cs) :=
  decidable_of_iff (¬ (cut cs).tail = []) (by rw [tail_cut_eq_nil_iff, not_not])

theorem cut_chars_append {k : Connective} {cs : List Char} (hk : k.IsProper)
    (hcs : StartsVisible cs) : cut (k.chars ++ cs) = follow k (cut cs) := by
  have hleading : Connective.leading? (k.chars ++ cs) = some k :=
    Connective.leading?_eq_some_iff.2 ⟨hk, cs, rfl, hcs⟩
  obtain ⟨d, ds, hd⟩ := List.exists_cons_of_length_pos
    (Connective.length_chars_pos_of_leading? hleading)
  rw [hd, List.cons_append] at hleading
  have hcut := cut_of_leading? hleading
  rw [← List.cons_append, ← hd, List.drop_left] at hcut
  exact hcut

/-- The ways in which a text is cut: it is empty, it starts with a connective, or its first
character goes to the segment behind it. -/
theorem cut_induction {motive : List Char → Clause → Prop} (nil : motive [] ⟨[], []⟩)
    (connective : ∀ k rest, k.IsProper → StartsVisible rest → motive rest (cut rest) →
      motive (k.chars ++ rest) (follow k (cut rest)))
    (character : ∀ c cs, Connective.leading? (c :: cs) = none → motive cs (cut cs) →
      motive (c :: cs) (extend c (cut cs)))
    (cs : List Char) : motive cs (cut cs) := by
  -- by length, since a connective takes several characters at a time
  induction hlength : cs.length using Nat.strongRecOn generalizing cs with
  | ind n ih =>
    cases cs with
    | nil => exact nil
    | cons c cs =>
      cases hleading : Connective.leading? (c :: cs) with
      | some k =>
        obtain ⟨hk, rest, hrest, hvisible⟩ := Connective.leading?_eq_some_iff.1 hleading
        have hpos := Connective.length_chars_pos_of_leading? hleading
        have hshorter := ih rest.length (by rw [← hlength, hrest, List.length_append]; omega) rest rfl
        rw [hrest, cut_chars_append hk hvisible]
        exact connective k rest hk hvisible hshorter
      | none =>
        have hshorter := ih cs.length (by rw [← hlength, List.length_cons]; omega) cs rfl
        rw [cut_of_leading?_eq_none hleading]
        exact character c cs hleading hshorter

/-- Behind a connective at the front of a text that ends visibly there is something. -/
theorem ne_nil_of_endsVisible {k : Connective} {rest : List Char} (hk : k.IsProper)
    (hend : EndsVisible (k.chars ++ rest)) : rest ≠ [] := by
  rintro rfl
  rw [List.append_nil, Connective.chars] at hend
  exact Connective.not_endsVisible_append _ hk.after_blank hk.after_ne_nil hend

/-- A connective between two texts cuts them apart. -/
theorem cut_append {first second : List Char} {k : Connective} (hk : k.IsProper)
    (hend : EndsVisible first) (hword : ¬ Connective.EndsIn first)
    (hstart : StartsVisible second) :
    cut (first ++ (k.chars ++ second)) = (cut first).join k (cut second) := by
  have hblank : StartsBlank (k.chars ++ second) := by
    rw [Connective.chars, List.append_assoc, List.append_assoc]
    exact hk.before_blank.startsBlank_append hk.before_ne_nil _
  induction first using cut_induction with
  | nil => exact cut_chars_append hk hstart
  | connective k' rest hk' hvisible ih =>
    have hbehind : StartsVisible (rest ++ (k.chars ++ second)) :=
      hvisible.append (ne_nil_of_endsVisible hk' hend)
    rw [List.append_assoc, cut_chars_append hk' hbehind,
      ih hend.of_append fun h => hword h.of_append]
    rfl
  | character c cs hnone ih =>
    have hlonger := Connective.leading?_append_of_none hnone (by simp) hend hword hblank
    rw [← List.singleton_append] at hend hword
    rw [List.cons_append] at hlonger ⊢
    rw [cut_of_leading?_eq_none hlonger, ih hend.of_append fun h => hword h.of_append]
    rfl

end Clause

end RecordQuery
