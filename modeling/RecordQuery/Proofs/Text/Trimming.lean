import Mathlib.Data.List.Basic
import Mathlib.Data.List.TakeWhile
import RecordQuery.Text.Words

/-!
# Ends of texts

What trimming and the scans for blanks and words do to a text is decided by its two ends, and by
the place where its blanks give way to visible characters or the other way round.  This module says
so for texts that are put together from pieces, which is the form in which they are written.
-/

namespace RecordQuery.Text

/-- The text has no blank. -/
def Visible (cs : List Char) : Prop := ∀ c ∈ cs, isBlank c = false

instance (cs : List Char) : Decidable (Visible cs) :=
  List.decidableBAll (fun c => isBlank c = false) cs

/-- The text has nothing but blanks. -/
def AllBlank (cs : List Char) : Prop := ∀ c ∈ cs, isBlank c = true

instance (cs : List Char) : Decidable (AllBlank cs) :=
  List.decidableBAll (fun c => isBlank c = true) cs

/-- The text does not start with a blank. -/
def StartsVisible (cs : List Char) : Prop := ∀ c ∈ cs.head?, isBlank c = false

/-- The text does not start with a visible character. -/
def StartsBlank (cs : List Char) : Prop := ∀ c ∈ cs.head?, isBlank c = true

/-- The text does not end with a blank. -/
def EndsVisible (cs : List Char) : Prop := ∀ c ∈ cs.getLast?, isBlank c = false

/-! ### Ends of pieces -/

theorem StartsVisible.append {xs ys : List Char} (h : StartsVisible xs) (hne : xs ≠ []) :
    StartsVisible (xs ++ ys) := by
  intro c hc
  rw [List.head?_append_of_ne_nil xs hne] at hc
  exact h c hc

theorem EndsVisible.append {xs ys : List Char} (h : EndsVisible ys) (hne : ys ≠ []) :
    EndsVisible (xs ++ ys) := by
  intro c hc
  rw [List.getLast?_append_of_ne_nil xs hne] at hc
  exact h c hc

/-- What stands behind the first part of a text ends as the text does. -/
theorem EndsVisible.of_append {xs ys : List Char} (h : EndsVisible (xs ++ ys)) :
    EndsVisible ys := by
  intro c hc
  have hne : ys ≠ [] := by
    rintro rfl
    exact absurd hc (by simp)
  exact h c (by rwa [List.getLast?_append_of_ne_nil xs hne])

/-- What stands before the last part of a text starts as the text does. -/
theorem StartsVisible.of_append {xs ys : List Char} (h : StartsVisible (xs ++ ys)) :
    StartsVisible xs := by
  intro c hc
  exact h c (by rw [List.head?_append, Option.mem_def.1 hc]; rfl)

theorem Visible.startsVisible {cs : List Char} (h : Visible cs) : StartsVisible cs := by
  intro c hc
  exact h c (List.mem_of_head? hc)

theorem Visible.endsVisible {cs : List Char} (h : Visible cs) : EndsVisible cs := by
  intro c hc
  exact h c (List.mem_of_getLast? hc)

theorem startsVisible_cons {c : Char} (h : isBlank c = false) (cs : List Char) :
    StartsVisible (c :: cs) := by
  intro d hd
  simp only [List.head?_cons, Option.mem_def, Option.some.injEq] at hd
  exact hd ▸ h

theorem endsVisible_concat {c : Char} (h : isBlank c = false) (cs : List Char) :
    EndsVisible (cs ++ [c]) := by
  intro d hd
  simp only [List.getLast?_concat, Option.mem_def, Option.some.injEq] at hd
  exact hd ▸ h

theorem startsBlank_cons {c : Char} (h : isBlank c = true) (cs : List Char) :
    StartsBlank (c :: cs) := by
  intro d hd
  simp only [List.head?_cons, Option.mem_def, Option.some.injEq] at hd
  exact hd ▸ h

theorem AllBlank.startsBlank_append {bs : List Char} (h : AllBlank bs) (hne : bs ≠ [])
    (cs : List Char) : StartsBlank (bs ++ cs) := by
  intro c hc
  rw [List.head?_append_of_ne_nil bs hne] at hc
  exact h c (List.mem_of_head? hc)

theorem startsVisible_trimStart (cs : List Char) : StartsVisible (trimStart cs) := by
  intro c hc
  have hhead := List.head?_dropWhile_not isBlank cs
  rw [show cs.dropWhile isBlank = trimStart cs from rfl, Option.mem_def.1 hc] at hhead
  simpa using hhead

theorem endsVisible_trimEnd (cs : List Char) : EndsVisible (trimEnd cs) := by
  intro c hc
  rw [trimEnd, List.getLast?_reverse] at hc
  exact startsVisible_trimStart cs.reverse c hc

/-! ### Trimming -/

theorem trimStart_eq_self_iff {cs : List Char} : trimStart cs = cs ↔ StartsVisible cs := by
  constructor
  · intro h
    exact h ▸ startsVisible_trimStart cs
  · intro h
    cases cs with
    | nil => rfl
    | cons c cs => exact trimStart_cons_of_visible (h c rfl)

theorem trimEnd_eq_self_iff {cs : List Char} : trimEnd cs = cs ↔ EndsVisible cs := by
  have hreverse : trimEnd cs = cs ↔ trimStart cs.reverse = cs.reverse := List.reverse_eq_iff
  rw [hreverse, trimStart_eq_self_iff, StartsVisible, EndsVisible, List.head?_reverse]

theorem trim_eq_self_iff {cs : List Char} :
    trim cs = cs ↔ StartsVisible cs ∧ EndsVisible cs := by
  constructor
  · intro h
    have hend : (trim cs).length ≤ (trimStart cs).length := by
      have hreverse := List.length_dropWhile_le isBlank (trimStart cs).reverse
      rw [List.length_reverse] at hreverse
      rw [trim, trimEnd, List.length_reverse]
      exact hreverse
    rw [h] at hend
    have hsuffix : trimStart cs <:+ cs := List.dropWhile_suffix _
    have hself : trimStart cs = cs := hsuffix.eq_of_length_le hend
    rw [trim, hself] at h
    exact ⟨trimStart_eq_self_iff.1 hself, trimEnd_eq_self_iff.1 h⟩
  · rintro ⟨hstart, hend⟩
    rw [trim, trimStart_eq_self_iff.2 hstart, trimEnd_eq_self_iff.2 hend]

theorem Visible.trim {cs : List Char} (h : Visible cs) : Text.trim cs = cs :=
  trim_eq_self_iff.2 ⟨h.startsVisible, h.endsVisible⟩

theorem trim_between {a b : Char} {inner : List Char} (ha : isBlank a = false)
    (hb : isBlank b = false) : trim (a :: inner ++ [b]) = a :: inner ++ [b] :=
  trim_eq_self_iff.2 ⟨startsVisible_cons ha (inner ++ [b]), endsVisible_concat hb (a :: inner)⟩

/-! ### Blanks at the ends -/

theorem trim_allBlank_append {bs : List Char} (hbs : AllBlank bs) (cs : List Char) :
    trim (bs ++ cs) = trim cs :=
  congrArg trimEnd (List.dropWhile_append_of_pos hbs)

theorem trimEnd_append_allBlank (cs : List Char) {bs : List Char} (hbs : AllBlank bs) :
    trimEnd (cs ++ bs) = trimEnd cs := by
  have hreverse : AllBlank bs.reverse := fun c hc => hbs c (List.mem_reverse.1 hc)
  rw [trimEnd, List.reverse_append, List.dropWhile_append_of_pos hreverse]
  rfl

theorem trim_append_allBlank (cs : List Char) {bs : List Char} (hbs : AllBlank bs) :
    trim (cs ++ bs) = trim cs := by
  have hblank : trimStart bs = [] := List.dropWhile_eq_nil_iff.2 hbs
  rw [trim, trim, trimStart, List.dropWhile_append]
  split
  · next hnil =>
    have hcs : trimStart cs = [] := List.isEmpty_iff.1 hnil
    rw [hcs]
    exact congrArg trimEnd hblank
  · exact trimEnd_append_allBlank _ hbs

/-- Trimming at the end takes blanks and nothing else. -/
theorem exists_trimEnd_append (cs : List Char) : ∃ bs, AllBlank bs ∧ cs = trimEnd cs ++ bs := by
  refine ⟨(blanks cs.reverse).reverse, ?_, ?_⟩
  · intro c hc
    exact List.mem_takeWhile_imp (List.mem_reverse.1 hc)
  · have hsplit := congrArg List.reverse (blanks_append_trimStart cs.reverse)
    rw [List.reverse_append, List.reverse_reverse] at hsplit
    exact hsplit.symm

theorem trimEnd_cons_trimEnd (c : Char) (cs : List Char) :
    trimEnd (c :: trimEnd cs) = trimEnd (c :: cs) := by
  obtain ⟨bs, hbs, heq⟩ := exists_trimEnd_append cs
  have hend := trimEnd_append_allBlank (c :: trimEnd cs) hbs
  rw [List.cons_append, ← heq] at hend
  exact hend.symm

theorem trim_trimEnd (cs : List Char) : trim (trimEnd cs) = trim cs := by
  obtain ⟨bs, hbs, heq⟩ := exists_trimEnd_append cs
  have hend := trim_append_allBlank (trimEnd cs) hbs
  rw [← heq] at hend
  exact hend.symm

theorem startsVisible_trim (cs : List Char) : StartsVisible (trim cs) := by
  obtain ⟨bs, -, heq⟩ := exists_trimEnd_append (trimStart cs)
  have hstart := startsVisible_trimStart cs
  rw [heq] at hstart
  exact hstart.of_append

theorem trim_trim (cs : List Char) : trim (trim cs) = trim cs :=
  trim_eq_self_iff.2 ⟨startsVisible_trim cs, endsVisible_trimEnd (trimStart cs)⟩

theorem trim_ne_nil {cs : List Char} (h : StartsVisible cs) (hne : cs ≠ []) : trim cs ≠ [] := by
  intro hnil
  obtain ⟨c, rest, rfl⟩ := List.exists_cons_of_ne_nil hne
  have hvisible := h c rfl
  rw [trim, trimStart_cons_of_visible hvisible] at hnil
  obtain ⟨bs, hbs, heq⟩ := exists_trimEnd_append (c :: rest)
  rw [hnil, List.nil_append] at heq
  exact absurd (hbs c (heq ▸ List.mem_cons_self)) (by simp [hvisible])

theorem trim_eq_nil_iff {cs : List Char} : trim cs = [] ↔ AllBlank cs := by
  constructor
  · intro h
    by_contra hblank
    have hne : trimStart cs ≠ [] := fun hnil => hblank (List.dropWhile_eq_nil_iff.1 hnil)
    have hend := trim_ne_nil (startsVisible_trimStart cs) hne
    rw [trim, trimStart_eq_self_iff.2 (startsVisible_trimStart cs)] at hend
    exact hend h
  · intro h
    have hnil : trimStart cs = [] := List.dropWhile_eq_nil_iff.2 h
    rw [trim, hnil, trimEnd_nil]

/-! ### Blanks before a word, and a word before blanks -/

theorem blanks_append {before rest : List Char} (hbefore : AllBlank before)
    (hrest : StartsVisible rest) : blanks (before ++ rest) = before := by
  rw [blanks, List.takeWhile_append_of_pos hbefore]
  cases rest with
  | nil => simp
  | cons c rest => simp [hrest c rfl]

theorem trimStart_append {before rest : List Char} (hbefore : AllBlank before)
    (hrest : StartsVisible rest) : trimStart (before ++ rest) = rest := by
  rw [trimStart, List.dropWhile_append_of_pos hbefore]
  exact trimStart_eq_self_iff.2 hrest

theorem word_append {w rest : List Char} (hw : Visible w) (hrest : StartsBlank rest) :
    word (w ++ rest) = w := by
  rw [word, List.takeWhile_append_of_pos (by simpa [Visible] using hw)]
  cases rest with
  | nil => simp
  | cons c rest => simp [hrest c rfl]

theorem afterWord_append {w rest : List Char} (hw : Visible w) (hrest : StartsBlank rest) :
    afterWord (w ++ rest) = rest := by
  rw [afterWord, List.dropWhile_append_of_pos (by simpa [Visible] using hw)]
  cases rest with
  | nil => rfl
  | cons c rest => simp [hrest c rfl]

theorem allBlank_blanks (cs : List Char) : AllBlank (blanks cs) := by
  intro c hc
  exact List.mem_takeWhile_imp hc

theorem mem_of_mem_trim {c : Char} {cs : List Char} (h : c ∈ trim cs) : c ∈ cs := by
  have hend : c ∈ (trimStart cs).reverse :=
    (List.dropWhile_suffix isBlank).subset (List.mem_reverse.1 h)
  exact (List.dropWhile_suffix isBlank).subset (List.mem_reverse.1 hend)

/-! ### Words and letters -/

theorem visible_word (cs : List Char) : Visible (word cs) := by
  intro c hc
  simpa using List.mem_takeWhile_imp hc

theorem word_ne_nil {cs : List Char} (h : StartsVisible cs) (hne : cs ≠ []) : word cs ≠ [] := by
  obtain ⟨c, rest, rfl⟩ := List.exists_cons_of_ne_nil hne
  have hvisible := h c rfl
  simp [word, hvisible]

theorem startsBlank_afterWord (cs : List Char) : StartsBlank (afterWord cs) := by
  intro c hc
  have hhead := List.head?_dropWhile_not (fun c => !isBlank c) cs
  rw [show cs.dropWhile (fun c => !isBlank c) = afterWord cs from rfl, Option.mem_def.1 hc] at hhead
  simpa using hhead

theorem visible_of_between {c : Char} (h : 65 ≤ c.toNat ∧ c.toNat ≤ 122) : isBlank c = false := by
  grind [isBlank]

/-- Blanks have no case, and no letter has a blank for its other case. -/
theorem isBlank_toLower (c : Char) : isBlank c.toLower = isBlank c := by
  unfold Char.toLower
  split
  · next h =>
    have hupper : 65 ≤ c.toNat ∧ c.toNat ≤ 90 := h
    have hlower : (c.val + ('a'.val - 'A'.val)).toNat = c.toNat + 32 := by
      rw [UInt32.toNat_add]
      exact Nat.mod_eq_of_lt (by simp; omega)
    rw [visible_of_between (c := c) (by omega)]
    apply visible_of_between
    change 65 ≤ (c.val + ('a'.val - 'A'.val)).toNat ∧ (c.val + ('a'.val - 'A'.val)).toNat ≤ 122
    omega
  · rfl

/-- What differs from a word in the case of letters only is a word. -/
theorem Visible.of_sameLetters {s t : List Char} (hs : Visible s) (h : sameLetters s t = true) :
    Visible t := by
  intro c hc
  rw [sameLetters, beq_iff_eq] at h
  have hmem : c.toLower ∈ s.map Char.toLower := h ▸ List.mem_map_of_mem hc
  obtain ⟨d, hd, hlower⟩ := List.mem_map.1 hmem
  rw [← isBlank_toLower, ← hlower, isBlank_toLower]
  exact hs d hd

end RecordQuery.Text
