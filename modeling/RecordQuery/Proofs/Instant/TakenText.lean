import RecordQuery.Proofs.Instant.SignedYear

/-!
# What the readers of instants take

Each reader of a field takes some characters off the front of a text and leaves the rest.  Blanks
may stand in front of what it takes, but the last character taken is never blank: a digit, a mark or
the letter of UTC.  The fields of fixed width are special cases of the loose ones
(`loose?_of_fixed?`, `looseYear?_of_fixed?`).
-/

namespace RecordQuery.Instant

open Decimal Text

/-- The text goes on with the rest behind a visible character. -/
def Takes (cs rest : List Char) : Prop :=
  ∃ front c, cs = front ++ c :: rest ∧ isBlank c = false

variable {cs mid rest : List Char}

theorem Takes.trans (h : Takes cs mid) (h' : Takes mid rest) : Takes cs rest := by
  obtain ⟨front, c, rfl, -⟩ := h
  obtain ⟨front', c', rfl, hc'⟩ := h'
  exact ⟨front ++ c :: front', c', by simp, hc'⟩

theorem Takes.append (front : List Char) (h : Takes cs rest) : Takes (front ++ cs) rest := by
  obtain ⟨front', c, rfl, hc⟩ := h
  exact ⟨front ++ front', c, by simp, hc⟩

theorem Takes.of_trimStart (h : Takes (trimStart cs) rest) : Takes cs rest := by
  rw [← blanks_append_trimStart cs]
  exact h.append (blanks cs)

theorem Takes.endsVisible (h : Takes cs []) : EndsVisible cs := by
  obtain ⟨front, c, rfl, hc⟩ := h
  exact endsVisible_concat hc front

theorem takes_digits {digits : List Char} (hdigits : AllDigits digits) (hne : digits ≠ [])
    (rest : List Char) : Takes (digits ++ rest) rest := by
  refine ⟨digits.dropLast, digits.getLast hne, ?_, ?_⟩
  · rw [List.append_cons, List.dropLast_append_getLast hne]
  · exact isBlank_of_isDigit (hdigits _ (List.getLast_mem hne))

/-! ### Marks -/

theorem eq_cons_of_mark? {c : Char} (h : mark? c cs = some rest) : cs = c :: rest := by
  cases cs with
  | nil => cases h
  | cons d cs =>
    rw [mark?, Option.ite_none_right_eq_some] at h
    obtain ⟨rfl, h⟩ := h
    rw [Option.some.inj h]

theorem takes_mark? {c : Char} (hc : isBlank c = false) (h : mark? c cs = some rest) :
    Takes cs rest :=
  ⟨[], c, eq_cons_of_mark? h, hc⟩

/-! ### Loose fields -/

theorem exists_digits_of_loose? {width n : Nat} (h : loose? width cs = some (n, rest)) :
    ∃ digits, AllDigits digits ∧ digits ≠ [] ∧ trimStart cs = digits ++ rest := by
  simp only [loose?, Option.ite_none_left_eq_some, Option.some.injEq, Prod.mk.injEq] at h
  obtain ⟨hne, -, rfl⟩ := h
  have hfront := (List.takeWhile_prefix Char.isDigit).trans (List.take_prefix width (trimStart cs))
  exact ⟨_, fun c hc => List.mem_takeWhile_imp hc, hne, (List.prefix_iff_eq_append.1 hfront).symm⟩

theorem exists_digits_of_unbounded? {n : Nat} (h : unbounded? cs = some (n, rest)) :
    ∃ digits, AllDigits digits ∧ digits ≠ [] ∧ cs = digits ++ rest := by
  simp only [unbounded?, Option.ite_none_left_eq_some, Option.some.injEq, Prod.mk.injEq] at h
  obtain ⟨hne, -, rfl⟩ := h
  exact ⟨_, fun c hc => List.mem_takeWhile_imp hc, hne, List.takeWhile_append_dropWhile.symm⟩

/-- A year is a row of digits with or without a sign. -/
theorem exists_digits_of_looseYear? {year : Int} (h : looseYear? cs = some (year, rest)) :
    ∃ sign digits, sign ∈ [[], ['-'], ['+']] ∧ AllDigits digits ∧ digits ≠ [] ∧
      trimStart cs = sign ++ digits ++ rest := by
  unfold looseYear? at h
  split at h
  · next behind heq =>
    obtain ⟨⟨n, behind'⟩, hyear, hrest⟩ := Option.map_eq_some_iff.1 h
    obtain ⟨digits, hdigits, hne, rfl⟩ := exists_digits_of_unbounded? hyear
    cases hrest
    exact ⟨['-'], digits, by simp, hdigits, hne, heq⟩
  · next behind heq =>
    obtain ⟨⟨n, behind'⟩, hyear, hrest⟩ := Option.map_eq_some_iff.1 h
    obtain ⟨digits, hdigits, hne, rfl⟩ := exists_digits_of_unbounded? hyear
    cases hrest
    exact ⟨['+'], digits, by simp, hdigits, hne, heq⟩
  · obtain ⟨⟨n, behind'⟩, hyear, hrest⟩ := Option.map_eq_some_iff.1 h
    obtain ⟨digits, hdigits, hne, heq⟩ := exists_digits_of_loose? hyear
    rw [trimStart_eq_self_iff.2 (startsVisible_trimStart cs)] at heq
    cases hrest
    exact ⟨[], digits, by simp, hdigits, hne, heq⟩

theorem takes_loose? {width n : Nat} (h : loose? width cs = some (n, rest)) : Takes cs rest := by
  obtain ⟨digits, hdigits, hne, heq⟩ := exists_digits_of_loose? h
  apply Takes.of_trimStart
  rw [heq]
  exact takes_digits hdigits hne rest

theorem takes_looseYear? {year : Int} (h : looseYear? cs = some (year, rest)) : Takes cs rest := by
  obtain ⟨sign, digits, -, hdigits, hne, heq⟩ := exists_digits_of_looseYear? h
  apply Takes.of_trimStart
  rw [heq, List.append_assoc]
  exact (takes_digits hdigits hne rest).append sign

/-- A fraction of a second is nothing at all or ends in a digit. -/
theorem takes_fraction? {nano : Nat} (h : fraction? cs = some (nano, rest)) :
    rest = cs ∨ Takes cs rest := by
  unfold fraction? at h
  split at h
  · next cs =>
    simp only [Option.ite_none_left_eq_some, Option.some.injEq, Prod.mk.injEq] at h
    obtain ⟨hne, -, rfl⟩ := h
    have hdigits := takes_digits (fun c hc => List.mem_takeWhile_imp hc) hne (spanDigits cs).2
    rw [spanDigits, List.takeWhile_append_dropWhile] at hdigits
    exact Or.inr (hdigits.append ['.'])
  · cases h
    exact Or.inl rfl

/-! ### Fields of fixed width -/

theorem startsVisible_of_fixed? {width n : Nat} (hwidth : 0 < width)
    (h : fixed? width cs = some (n, rest)) : StartsVisible cs := by
  simp only [fixed?, Option.ite_none_right_eq_some] at h
  have hne : cs.take width ≠ [] := List.ne_nil_of_length_pos (by omega)
  rw [← List.take_append_drop width cs]
  exact (startsVisible_digits (List.all_eq_true.1 h.1.2)).append hne

theorem loose?_of_fixed? {width n : Nat} (hwidth : 0 < width)
    (h : fixed? width cs = some (n, rest)) : loose? width cs = some (n, rest) := by
  have hvisible := trimStart_eq_self_iff.2 (startsVisible_of_fixed? hwidth h)
  simp only [fixed?, Option.ite_none_right_eq_some, Option.some.injEq, Prod.mk.injEq] at h
  obtain ⟨⟨hlength, hall⟩, rfl, rfl⟩ := h
  have hne : cs.take width ≠ [] := List.ne_nil_of_length_pos (by omega)
  have hself : (cs.take width).takeWhile Char.isDigit = cs.take width :=
    List.takeWhile_eq_self_iff.2 (List.all_eq_true.1 hall)
  simp only [loose?, hvisible, hself, if_neg hne, hlength]

theorem looseYear?_of_fixed? {n : Nat} (h : fixed? 4 cs = some (n, rest)) :
    looseYear? cs = some ((n : Int), rest) := by
  have hloose := loose?_of_fixed? (by decide) h
  have hvisible := trimStart_eq_self_iff.2 (startsVisible_of_fixed? (by decide) h)
  obtain ⟨digits, hdigits, hne, heq⟩ := exists_digits_of_loose? hloose
  obtain ⟨c, digits, rfl⟩ := List.exists_cons_of_ne_nil hne
  have hc : c.isDigit = true := hdigits c List.mem_cons_self
  unfold looseYear?
  split
  · next hminus =>
    rw [heq] at hminus
    exact absurd hc (by rw [(List.cons.inj hminus).1]; decide)
  · next hplus =>
    rw [heq] at hplus
    exact absurd hc (by rw [(List.cons.inj hplus).1]; decide)
  · rw [hvisible, hloose]
    rfl

theorem takes_fixed? {width n : Nat} (hwidth : 0 < width) (h : fixed? width cs = some (n, rest)) :
    Takes cs rest :=
  takes_loose? (loose?_of_fixed? hwidth h)

/-! ### Offsets -/

theorem takes_offset? {offset : Int} (h : offset? (mark? ':') cs = some (offset, rest)) :
    Takes cs rest := by
  cases cs with
  | nil => cases h
  | cons c cs =>
    rw [offset?] at h
    split at h
    · next hzone =>
      cases h
      refine ⟨[], c, rfl, ?_⟩
      rcases hzone with rfl | rfl
      · decide
      · decide
    · split at h
      · obtain ⟨⟨hours, cs₁⟩, hhours, h⟩ := Option.bind_eq_some_iff.1 h
        obtain ⟨cs₂, hcolon, h⟩ := Option.bind_eq_some_iff.1 h
        obtain ⟨⟨minutes, cs₃⟩, hminutes, h⟩ := Option.bind_eq_some_iff.1 h
        obtain ⟨-, h⟩ := Option.ite_none_right_eq_some.1 h
        cases h
        apply Takes.append [c]
        refine (takes_fixed? (by decide) hhours).trans ?_
        exact (takes_mark? (by decide) hcolon).trans (takes_fixed? (by decide) hminutes)
      · cases h

end RecordQuery.Instant
