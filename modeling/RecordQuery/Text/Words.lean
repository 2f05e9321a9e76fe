import RecordQuery.Text.Blank

/-!
# Cutting a text

The three cuts that the query language is made of: at the first occurrence of a mark, at every
occurrence of a mark (`List.splitOn` of the core library), and at the last blank.  None of them
loses a character other than the mark itself, which is what the lemmas say.

Letters are compared without regard to ASCII case only (`sameLetters`): keywords of the language are
ASCII words, and no other character is ever taken for one of their letters.
-/

namespace RecordQuery.Text

/-- The two texts are the same up to the case of ASCII letters. -/
def sameLetters (s t : List Char) : Bool := s.map Char.toLower == t.map Char.toLower

/-- A string in lower case, as far as ASCII letters go. -/
def lowerLetters (s : String) : String := String.ofList (s.toList.map Char.toLower)

/-- What stands before and after the first `mark`, if there is one. -/
def cutAt (mark : Char) : List Char → Option (List Char × List Char)
  | [] => none
  | c :: cs =>
    if c = mark then some ([], cs)
    else (cutAt mark cs).map fun (before, after) => (c :: before, after)

/-- The first word: everything before the first blank. -/
def word (cs : List Char) : List Char := cs.takeWhile fun c => !isBlank c

/-- What follows the first word, its separating blanks included. -/
def afterWord (cs : List Char) : List Char := cs.dropWhile fun c => !isBlank c

def blanks (cs : List Char) : List Char := cs.takeWhile isBlank

/-- What stands before and after the last blank, if there is one. -/
def cutAtLastBlank (cs : List Char) : Option (List Char × List Char) :=
  match afterWord cs.reverse with
  | [] => none
  | _ :: before => some (before.reverse, (word cs.reverse).reverse)

/-! ### Nothing but the mark is lost -/

/-- A cut text is its two parts around the mark, and the mark does not stand in the first. -/
theorem cutAt_eq_some_iff {mark : Char} {cs before after : List Char} :
    cutAt mark cs = some (before, after) ↔ cs = before ++ mark :: after ∧ mark ∉ before := by
  induction cs generalizing before with
  | nil => simp [cutAt]
  | cons c cs ih =>
    rw [cutAt]
    split
    · next h =>
      subst h
      cases before with
      | nil => simp
      | cons b bs =>
        simp only [Option.some.injEq, Prod.mk.injEq, List.nil_eq, reduceCtorEq, false_and,
          List.cons_append, List.cons.injEq, List.mem_cons, not_or, false_iff, not_and, and_imp]
        intro hb _ hne
        exact absurd hb hne
    · next h =>
      simp only [Option.map_eq_some_iff, Prod.mk.injEq, Prod.exists]
      constructor
      · rintro ⟨b, a, hcut, rfl, rfl⟩
        obtain ⟨rfl, hmem⟩ := ih.1 hcut
        exact ⟨rfl, by simp [hmem, Ne.symm h]⟩
      · rintro ⟨heq, hmem⟩
        cases before with
        | nil => simp at heq; exact absurd heq.1 h
        | cons b bs =>
          simp only [List.cons_append, List.cons.injEq] at heq
          obtain ⟨rfl, rfl⟩ := heq
          simp only [List.mem_cons, not_or] at hmem
          exact ⟨bs, after, ih.2 ⟨rfl, hmem.2⟩, rfl, rfl⟩

theorem cutAt_eq_none_iff {mark : Char} {cs : List Char} : cutAt mark cs = none ↔ mark ∉ cs := by
  induction cs with
  | nil => simp [cutAt]
  | cons c cs ih =>
    rw [cutAt]
    split
    · next h => simp [h]
    · next h => simp [ih, Ne.symm h]

theorem word_append_afterWord (cs : List Char) : word cs ++ afterWord cs = cs :=
  List.takeWhile_append_dropWhile

theorem blanks_append_trimStart (cs : List Char) : blanks cs ++ trimStart cs = cs :=
  List.takeWhile_append_dropWhile

end RecordQuery.Text
