import RecordQuery.Proofs.Instant.TakenText

/-!
# Blanks around the texts of instants

A text that names an instant does not end in a blank.  It may start with blanks if its form is
loose, but it is no timestamp then, nor does it become one without them, because a timestamp ends in
an offset, which no loose form admits.  So the blanks around a text change nothing once it names an
instant: without them it has the same forms (`Instant.forms_trim`) and names the same instant
(`Instant.ofText?_trim`).
-/

namespace RecordQuery.Instant

open Decimal Text

variable {cs rest : List Char} {date : Date} {t : Instant}

/-! ### Loose forms -/

theorem takes_looseDate? (h : looseDate? cs = some (date, rest)) : Takes cs rest := by
  obtain ⟨⟨year, cs₁⟩, hyear, h⟩ := Option.bind_eq_some_iff.1 h
  obtain ⟨cs₂, hhyphen, h⟩ := Option.bind_eq_some_iff.1 h
  obtain ⟨⟨month, cs₃⟩, hmonth, h⟩ := Option.bind_eq_some_iff.1 h
  obtain ⟨cs₄, hhyphen', h⟩ := Option.bind_eq_some_iff.1 h
  obtain ⟨⟨day, cs₅⟩, hday, h⟩ := Option.bind_eq_some_iff.1 h
  obtain ⟨date', -, h⟩ := Option.bind_eq_some_iff.1 h
  cases h
  refine (takes_looseYear? hyear).trans ((takes_mark? (by decide) hhyphen).trans ?_)
  exact (takes_loose? hmonth).trans ((takes_mark? (by decide) hhyphen').trans (takes_loose? hday))

theorem takes_looseTime? (h : looseTime? date cs = some t) : Takes cs [] := by
  obtain ⟨⟨hour, cs₁⟩, hhour, h⟩ := Option.bind_eq_some_iff.1 h
  obtain ⟨cs₂, hcolon, h⟩ := Option.bind_eq_some_iff.1 h
  obtain ⟨⟨minute, cs₃⟩, hminute, h⟩ := Option.bind_eq_some_iff.1 h
  obtain ⟨cs₄, hcolon', h⟩ := Option.bind_eq_some_iff.1 h
  obtain ⟨⟨second, cs₅⟩, hsecond, h⟩ := Option.bind_eq_some_iff.1 h
  obtain ⟨⟨nano, behind⟩, hfraction, h⟩ := Option.bind_eq_some_iff.1 h
  obtain ⟨_, hend, -⟩ := Option.bind_eq_some_iff.1 h
  refine (takes_loose? hhour).trans ((takes_mark? (by decide) hcolon).trans ?_)
  refine (takes_loose? hminute).trans ((takes_mark? (by decide) hcolon').trans ?_)
  cases behind with
  | cons => cases hend
  | nil =>
    rcases takes_fraction? hfraction with rfl | htakes
    · exact takes_loose? hsecond
    · exact (takes_loose? hsecond).trans htakes

/-- Blanks in front do not matter to a loose form. -/
theorem looseDate?_trimStart (cs : List Char) : looseDate? (trimStart cs) = looseDate? cs := by
  have hvisible := trimStart_eq_self_iff.2 (startsVisible_trimStart cs)
  simp only [looseDate?, looseYear?, hvisible]

/-! ### Timestamps -/

theorem startsVisible_of_ofTimestamp? (h : ofTimestamp? cs = some t) : StartsVisible cs := by
  obtain ⟨_, hyear, -⟩ := Option.bind_eq_some_iff.1 h
  exact startsVisible_of_fixed? (by decide) hyear

/-- Between the date and the clock of a timestamp stands one of three marks. -/
theorem exists_mark {clock : List Char}
    (h : (mark? 'T' cs).or ((mark? 't' cs).or (mark? ' ' cs)) = some clock) :
    ∃ mark, (mark = 'T' ∨ mark = 't' ∨ mark = ' ') ∧ cs = mark :: clock := by
  rcases Option.or_eq_some_iff.1 h with hmark | ⟨-, h⟩
  · exact ⟨'T', Or.inl rfl, eq_cons_of_mark? hmark⟩
  · rcases Option.or_eq_some_iff.1 h with hmark | ⟨-, hmark⟩
    · exact ⟨'t', Or.inr (Or.inl rfl), eq_cons_of_mark? hmark⟩
    · exact ⟨' ', Or.inr (Or.inr rfl), eq_cons_of_mark? hmark⟩

/-- A timestamp is a loose date with a clock behind it.  The clock ends in an offset, so it is no
loose time of day. -/
theorem exists_clock_of_ofTimestamp? (h : ofTimestamp? cs = some t) :
    ∃ date mark clock, looseDate? cs = some (date, mark :: clock) ∧
      (mark = 'T' ∨ mark = 't' ∨ mark = ' ') ∧ Takes clock [] ∧
      ∀ d, looseTime? d clock = none := by
  obtain ⟨⟨year, cs₁⟩, hyear, h⟩ := Option.bind_eq_some_iff.1 h
  obtain ⟨cs₂, hhyphen, h⟩ := Option.bind_eq_some_iff.1 h
  obtain ⟨⟨month, cs₃⟩, hmonth, h⟩ := Option.bind_eq_some_iff.1 h
  obtain ⟨cs₄, hhyphen', h⟩ := Option.bind_eq_some_iff.1 h
  obtain ⟨⟨day, cs₅⟩, hday, h⟩ := Option.bind_eq_some_iff.1 h
  obtain ⟨clock, hseparator, h⟩ := Option.bind_eq_some_iff.1 h
  obtain ⟨⟨hour, cs₆⟩, hhour, h⟩ := Option.bind_eq_some_iff.1 h
  obtain ⟨cs₇, hcolon, h⟩ := Option.bind_eq_some_iff.1 h
  obtain ⟨⟨minute, cs₈⟩, hminute, h⟩ := Option.bind_eq_some_iff.1 h
  obtain ⟨cs₉, hcolon', h⟩ := Option.bind_eq_some_iff.1 h
  obtain ⟨⟨second, cs₁₀⟩, hsecond, h⟩ := Option.bind_eq_some_iff.1 h
  obtain ⟨⟨nano, zone⟩, hfraction, h⟩ := Option.bind_eq_some_iff.1 h
  obtain ⟨⟨offset, behind⟩, hoffset, h⟩ := Option.bind_eq_some_iff.1 h
  obtain ⟨_, hend, h⟩ := Option.bind_eq_some_iff.1 h
  obtain ⟨date, hdate, -⟩ := Option.bind_eq_some_iff.1 h
  obtain ⟨mark, hmark, rfl⟩ := exists_mark hseparator
  have hloose {n : Nat} {cs rest : List Char} (h : fixed? 2 cs = some (n, rest)) :
      loose? 2 cs = some (n, rest) := loose?_of_fixed? (by decide) h
  refine ⟨date, mark, clock, ?_, hmark, ?_, ?_⟩
  · refine bind_eq_some (looseYear?_of_fixed? hyear) (bind_eq_some hhyphen ?_)
    refine bind_eq_some (hloose hmonth) (bind_eq_some hhyphen' ?_)
    exact bind_eq_some (hloose hday) (bind_eq_some hdate rfl)
  · refine (takes_loose? (hloose hhour)).trans ((takes_mark? (by decide) hcolon).trans ?_)
    refine (takes_loose? (hloose hminute)).trans ((takes_mark? (by decide) hcolon').trans ?_)
    cases behind with
    | cons => cases hend
    | nil =>
      rcases takes_fraction? hfraction with rfl | htakes
      · exact (takes_loose? (hloose hsecond)).trans (takes_offset? hoffset)
      · exact (takes_loose? (hloose hsecond)).trans (htakes.trans (takes_offset? hoffset))
  · intro d
    refine bind_eq_none (hloose hhour) (bind_eq_none hcolon ?_)
    refine bind_eq_none (hloose hminute) (bind_eq_none hcolon' ?_)
    refine bind_eq_none (hloose hsecond) (bind_eq_none hfraction ?_)
    cases zone with
    | nil => cases hoffset
    | cons => rfl

/-- A timestamp has none of the loose forms. -/
theorem loose_eq_none_of_ofTimestamp? (h : ofTimestamp? cs = some t) :
    ofMarkedText? cs = none ∧ ofBlankedText? cs = none ∧ ofDateText? cs = none := by
  obtain ⟨date, mark, clock, hdate, hmark, -, hclock⟩ := exists_clock_of_ofTimestamp? h
  have hletter {c : Char} (hblank : isBlank c = false) (hdigit : c.isDigit = false) :
      looseTime? date (c :: clock) = none := by
    rw [looseTime?, loose?_eq_none hblank hdigit]
    rfl
  refine ⟨bind_eq_none hdate ?_, bind_eq_none hdate ?_, bind_eq_none hdate rfl⟩
  · rcases hmark with rfl | rfl | rfl
    · exact bind_eq_none (mark?_cons _ _) (hclock date)
    · rfl
    · rfl
  · rcases hmark with rfl | rfl | rfl
    · exact hletter (by decide) (by decide)
    · exact hletter (by decide) (by decide)
    · -- The blank between date and clock is skipped with the blanks before the hour.
      have hskip : looseTime? date (' ' :: clock) = looseTime? date clock := by
        simp only [looseTime?, loose?, trimStart_cons_of_blank (c := ' ') (by decide)]
      exact hskip.trans (hclock date)

/-! ### Texts of any form -/

/-- A text that names an instant starts with a loose date. -/
theorem exists_looseDate?_of_ofText? (h : ofText? cs = some t) :
    ∃ date rest, looseDate? cs = some (date, rest) := by
  simp only [ofText?, Option.or_eq_some_iff] at h
  rcases h with h | ⟨-, h | ⟨-, h | ⟨-, h⟩⟩⟩
  · obtain ⟨date, mark, clock, hdate, -⟩ := exists_clock_of_ofTimestamp? h
    exact ⟨date, mark :: clock, hdate⟩
  · obtain ⟨⟨date, rest⟩, hdate, -⟩ := Option.bind_eq_some_iff.1 h
    exact ⟨date, rest, hdate⟩
  · obtain ⟨⟨date, rest⟩, hdate, -⟩ := Option.bind_eq_some_iff.1 h
    exact ⟨date, rest, hdate⟩
  · obtain ⟨⟨date, rest⟩, hdate, -⟩ := Option.bind_eq_some_iff.1 h
    exact ⟨date, rest, hdate⟩

theorem takes_ofText? (h : ofText? cs = some t) : Takes cs [] := by
  simp only [ofText?, Option.or_eq_some_iff] at h
  rcases h with h | ⟨-, h | ⟨-, h | ⟨-, h⟩⟩⟩
  · obtain ⟨date, mark, clock, hdate, -, hclock, -⟩ := exists_clock_of_ofTimestamp? h
    exact (takes_looseDate? hdate).trans (hclock.append [mark])
  · obtain ⟨⟨date, rest⟩, hdate, h⟩ := Option.bind_eq_some_iff.1 h
    obtain ⟨clock, hmark, htime⟩ := Option.bind_eq_some_iff.1 h
    refine (takes_looseDate? hdate).trans ?_
    exact (takes_mark? (by decide) hmark).trans (takes_looseTime? htime)
  · obtain ⟨⟨date, rest⟩, hdate, htime⟩ := Option.bind_eq_some_iff.1 h
    exact (takes_looseDate? hdate).trans (takes_looseTime? htime)
  · obtain ⟨⟨date, rest⟩, hdate, h⟩ := Option.bind_eq_some_iff.1 h
    obtain ⟨_, hend, -⟩ := Option.bind_eq_some_iff.1 h
    cases rest with
    | nil => exact takes_looseDate? hdate
    | cons => cases hend

theorem trim_of_ofText? (h : ofText? cs = some t) : trim cs = trimStart cs := by
  have hend := (takes_ofText? h).endsVisible
  rw [← blanks_append_trimStart cs] at hend
  exact trimEnd_eq_self_iff.2 hend.of_append

/-- Digits with or without a sign, and a hyphen behind them. -/
def StartsWithYear (cs : List Char) : Prop :=
  ∃ sign digits rest, sign ∈ [[], ['-'], ['+']] ∧ AllDigits digits ∧ digits ≠ [] ∧
    cs = sign ++ digits ++ '-' :: rest

theorem startsWithYear_trim (h : ofText? cs = some t) : StartsWithYear (trim cs) := by
  obtain ⟨date, behind, hdate⟩ := exists_looseDate?_of_ofText? h
  obtain ⟨⟨year, cs₁⟩, hyear, hdate⟩ := Option.bind_eq_some_iff.1 hdate
  obtain ⟨rest, hhyphen, -⟩ := Option.bind_eq_some_iff.1 hdate
  obtain ⟨sign, digits, hsign, hdigits, hne, heq⟩ := exists_digits_of_looseYear? hyear
  rw [trim_of_ofText? h, heq, eq_cons_of_mark? hhyphen]
  exact ⟨sign, digits, rest, hsign, hdigits, hne, rfl⟩

/-- Without the blanks at its ends a text that names an instant has the same forms. -/
theorem forms_trim (h : ofText? cs = some t) :
    ofTimestamp? (trim cs) = ofTimestamp? cs ∧ ofMarkedText? (trim cs) = ofMarkedText? cs ∧
      ofBlankedText? (trim cs) = ofBlankedText? cs ∧ ofDateText? (trim cs) = ofDateText? cs := by
  have hmarked : ofMarkedText? (trimStart cs) = ofMarkedText? cs := by
    rw [ofMarkedText?, ofMarkedText?, looseDate?_trimStart]
  have hblanked : ofBlankedText? (trimStart cs) = ofBlankedText? cs := by
    rw [ofBlankedText?, ofBlankedText?, looseDate?_trimStart]
  have hdate : ofDateText? (trimStart cs) = ofDateText? cs := by
    rw [ofDateText?, ofDateText?, looseDate?_trimStart]
  rw [trim_of_ofText? h]
  refine ⟨?_, hmarked, hblanked, hdate⟩
  cases hstamp : ofTimestamp? cs with
  | some t' => rw [trimStart_eq_self_iff.2 (startsVisible_of_ofTimestamp? hstamp), hstamp]
  | none =>
    -- The text has a loose form, and keeps it without its blanks, so it is no timestamp then.
    by_contra hne
    obtain ⟨t', hstamp'⟩ := Option.ne_none_iff_exists'.1 hne
    obtain ⟨hmarked', hblanked', hdate'⟩ := loose_eq_none_of_ofTimestamp? hstamp'
    rw [ofText?, hstamp, ← hmarked, ← hblanked, ← hdate, hmarked', hblanked', hdate'] at h
    cases h

theorem ofText?_trim (h : ofText? cs = some t) : ofText? (trim cs) = some t := by
  obtain ⟨hstamp, hmarked, hblanked, hdate⟩ := forms_trim h
  rw [← h, ofText?, ofText?, hstamp, hmarked, hblanked, hdate]

end RecordQuery.Instant
