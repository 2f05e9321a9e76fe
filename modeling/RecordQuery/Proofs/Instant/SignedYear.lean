import RecordQuery.Proofs.Instant.Timestamp
import RecordQuery.Proofs.Text.Trimming

/-!
# Texts of instants with a signed year

Outside the years 0 to 9999 the year of an instant is written with a sign.  No form of text admits
what comes of it: a timestamp takes no sign, and the loose forms, which do, take no `Z` at the end.
So together with the timestamps it is decided which instants are read back from their texts
(`Instant.ofText?_toChars_iff`).
-/

namespace RecordQuery.Instant

open Decimal

/-! ### Loose fields -/

theorem isBlank_of_isDigit {c : Char} (h : c.isDigit = true) : Text.isBlank c = false := by
  have hrange := toNat_of_isDigit h
  simp only [Text.isBlank, Bool.or_eq_false_iff, Bool.and_eq_false_iff, decide_eq_false_iff_not,
    beq_eq_false_iff_ne]
  omega

theorem startsVisible_digits {digits : List Char} (hdigits : AllDigits digits) :
    Text.StartsVisible digits := by
  intro c hc
  exact isBlank_of_isDigit (hdigits c (List.mem_of_head? hc))

theorem padded_ne_nil (width n : Nat) : padded width n ≠ [] := by
  intro hnil
  exact text_ne_nil n (List.append_eq_nil_iff.1 hnil).2

theorem loose?_padded {width n : Nat} (hwidth : 0 < width) (hn : n < 10 ^ width)
    (rest : List Char) : loose? width (padded width n ++ rest) = some (n, rest) := by
  have hall := allDigits_padded width n
  have hlength := length_padded hwidth hn
  have htrim : Text.trimStart (padded width n ++ rest) = padded width n ++ rest :=
    Text.trimStart_eq_self_iff.2 ((startsVisible_digits hall).append (padded_ne_nil width n))
  have htake : (padded width n ++ rest).take width = padded width n := List.take_left' hlength
  have hdigits : (padded width n).takeWhile Char.isDigit = padded width n :=
    List.takeWhile_eq_self_iff.2 hall
  simp only [loose?, htrim, htake, hdigits, if_neg (padded_ne_nil width n), List.drop_left,
    value_padded]

theorem unbounded?_padded (width n : Nat) {c : Char} (hc : c.isDigit = false) (rest : List Char) :
    unbounded? (padded width n ++ c :: rest) = some (n, c :: rest) := by
  have hspan : spanDigits (padded width n ++ c :: rest) = (padded width n, c :: rest) :=
    spanDigits_append_cons (allDigits_padded width n) hc
  simp only [unbounded?, hspan, if_neg (padded_ne_nil width n), value_padded]

theorem loose?_eq_none {c : Char} (hblank : Text.isBlank c = false) (hdigit : c.isDigit = false)
    (width : Nat) (cs : List Char) : loose? width (c :: cs) = none := by
  have hdigits : ((c :: cs).take width).takeWhile Char.isDigit = [] := by
    cases width with
    | zero => rfl
    | succ width => rw [List.take_succ_cons, List.takeWhile_cons_of_neg (by simp [hdigit])]
  simp only [loose?, Text.trimStart_cons_of_visible hblank, hdigits, if_true]

/-! ### Date and time -/

/-- The text of the time of day, behind the date. -/
def clockText (t : Instant) : List Char :=
  'T' :: padded 2 (t.second / 3600) ++ ':' :: padded 2 (t.second / 60 % 60) ++
    ':' :: padded 2 (t.second % 60 + t.nano / nanosPerSecond) ++
    fractionText (t.nano % nanosPerSecond) ++ ['Z']

theorem toChars_eq (t : Instant) :
    t.toChars = yearText t.date.year ++
      '-' :: padded 2 t.date.month ++ '-' :: padded 2 t.date.day ++ t.clockText := by
  simp only [toChars, clockText, List.append_assoc, List.cons_append]

/-- A signed year starts with a sign, which is no digit, and is read as a year of any length. -/
theorem yearText_signed {year : Int} (h : ¬ (0 ≤ year ∧ year ≤ 9999)) (rest : List Char) :
    ∃ sign digits, yearText year = sign :: digits ∧ sign.isDigit = false ∧
      looseYear? (yearText year ++ '-' :: rest) = some (year, '-' :: rest) := by
  have hdigits := unbounded?_padded 4 year.natAbs (c := '-') rfl rest
  by_cases hneg : year < 0
  · have htext : yearText year = '-' :: padded 4 year.natAbs := by
      simp only [yearText, if_pos hneg]
    have hvalue : -(year.natAbs : Int) = year := by omega
    refine ⟨'-', _, htext, rfl, ?_⟩
    rw [htext, List.cons_append, looseYear?, Text.trimStart_cons_of_visible (by decide)]
    simp only [hdigits, Option.map_some, hvalue]
  · have htext : yearText year = '+' :: padded 4 year.natAbs := by
      simp only [yearText, if_neg hneg, if_neg (by omega : ¬ year ≤ 9999)]
    have hvalue : (year.natAbs : Int) = year := by omega
    refine ⟨'+', _, htext, rfl, ?_⟩
    rw [htext, List.cons_append, looseYear?, Text.trimStart_cons_of_visible (by decide)]
    simp only [hdigits, Option.map_some, hvalue]

theorem looseDate?_toChars {t : Instant} (h : ¬ t.HasPlainYear) :
    looseDate? t.toChars = some (t.date, t.clockText) := by
  obtain ⟨hmonth, hday, -⟩ := t.fields_lt
  rw [toChars_eq]
  simp only [List.append_assoc, List.cons_append]
  obtain ⟨-, -, -, -, hyear⟩ := yearText_signed h
    (padded 2 t.date.month ++ '-' :: (padded 2 t.date.day ++ t.clockText))
  refine bind_eq_some hyear (bind_eq_some (mark?_cons _ _) ?_)
  refine bind_eq_some (loose?_padded (by decide) hmonth _) (bind_eq_some (mark?_cons _ _) ?_)
  refine bind_eq_some (loose?_padded (by decide) hday _) ?_
  exact bind_eq_some (of?_date t.date) rfl

theorem bind_eq_none {α β : Type} {o : Option α} {f : α → Option β} {a : α} (h : o = some a)
    (hf : f a = none) : o >>= f = none := by
  rw [h, Option.bind_eq_bind, Option.bind_some, hf]

/-- The loose time of day ends before the `Z`. -/
theorem looseTime?_clockText_eq_none (t : Instant) (date : Date) :
    (mark? 'T' t.clockText).bind (looseTime? date) = none := by
  obtain ⟨-, -, hhour, hminute, hsecond⟩ := t.fields_lt
  have hfraction := fraction?_fractionText (Nat.mod_lt t.nano (by decide : 0 < nanosPerSecond))
  simp only [clockText, List.append_assoc, List.cons_append]
  refine bind_eq_none (mark?_cons _ _) ?_
  refine bind_eq_none (loose?_padded (by decide) hhour _) (bind_eq_none (mark?_cons _ _) ?_)
  refine bind_eq_none (loose?_padded (by decide) hminute _) (bind_eq_none (mark?_cons _ _) ?_)
  refine bind_eq_none (loose?_padded (by decide) hsecond _) ?_
  exact bind_eq_none hfraction rfl

/-! ### No form admits the text -/

theorem ofTimestamp?_eq_none {t : Instant} (h : ¬ t.HasPlainYear) :
    ofTimestamp? t.toChars = none := by
  obtain ⟨sign, digits, htext, hsign, -⟩ := yearText_signed h []
  have hyear : fixed? 4 t.toChars = none := by
    rw [toChars_eq, htext]
    simp only [fixed?, List.cons_append, List.take_succ_cons, List.all_cons, hsign,
      Bool.false_and, Bool.false_eq_true, and_false, if_false]
  rw [ofTimestamp?, hyear]
  rfl

theorem ofMarkedText?_eq_none {t : Instant} (h : ¬ t.HasPlainYear) :
    ofMarkedText? t.toChars = none :=
  bind_eq_none (looseDate?_toChars h) (looseTime?_clockText_eq_none t t.date)

theorem ofBlankedText?_eq_none {t : Instant} (h : ¬ t.HasPlainYear) :
    ofBlankedText? t.toChars = none := by
  have hhour : looseTime? t.date t.clockText = none := by
    rw [looseTime?, clockText]
    simp only [List.cons_append, loose?_eq_none (c := 'T') (by decide) rfl]
    rfl
  exact bind_eq_none (looseDate?_toChars h) hhour

theorem ofDateText?_eq_none {t : Instant} (h : ¬ t.HasPlainYear) : ofDateText? t.toChars = none :=
  bind_eq_none (looseDate?_toChars h) rfl

theorem ofText?_toChars_eq_none {t : Instant} (h : ¬ t.HasPlainYear) :
    ofText? t.toChars = none := by
  rw [ofText?, ofTimestamp?_eq_none h, ofMarkedText?_eq_none h, ofBlankedText?_eq_none h,
    ofDateText?_eq_none h]
  rfl

/-- The instants that are read back from their texts are those with a year of four digits. -/
theorem ofText?_toChars_iff (t : Instant) : ofText? t.toChars = some t ↔ t.HasPlainYear := by
  constructor
  · intro h
    by_contra hyear
    rw [ofText?_toChars_eq_none hyear] at h
    exact absurd h (by simp)
  · exact ofText?_toChars

end RecordQuery.Instant
