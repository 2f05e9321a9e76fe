import RecordQuery.Instant.Reader
import RecordQuery.Proofs.Number.Digits

/-!
# Reading back the text of an instant

The text of an instant of the years 0 to 9999 is an internet timestamp in UTC, and reading it gives
the instant back, leap seconds and fractions of any length included.  Outside these years the text
has a year of another width, which a timestamp does not admit.
-/

namespace RecordQuery.Instant

open Decimal

/-! ### Fields -/

theorem fixed?_padded {width n : Nat} (hwidth : 0 < width) (hn : n < 10 ^ width)
    (rest : List Char) : fixed? width (padded width n ++ rest) = some (n, rest) := by
  have hlength := length_padded hwidth hn
  have htake : (padded width n ++ rest).take width = padded width n := List.take_left' hlength
  have hdrop : (padded width n ++ rest).drop width = rest := List.drop_left' hlength
  have hall : (padded width n).all Char.isDigit = true :=
    List.all_eq_true.2 (allDigits_padded width n)
  simp only [fixed?, htake, hdrop, hlength, hall, value_padded, and_self, if_true]

theorem bind_eq_some {α β : Type} {o : Option α} {f : α → Option β} {a : α} {b : β}
    (h : o = some a) (hf : f a = some b) : o >>= f = some b := by
  rw [h, Option.bind_eq_bind, Option.bind_some, hf]

theorem or_eq_some {α : Type} {o o' : Option α} {a : α} (h : o = some a) : o.or o' = some a := by
  rw [h, Option.some_or]

theorem mark?_cons (c : Char) (cs : List Char) : mark? c (c :: cs) = some cs := by
  rw [mark?, if_pos rfl]

/-- Missing digits of a fraction are zeros. -/
theorem nanosOf_padded {width n : Nat} (hwidth : 0 < width) (hle : width ≤ 9)
    (hn : n < 10 ^ width) : nanosOf (padded width n) = n * 10 ^ (9 - width) := by
  have htake : (padded width n ++ List.replicate 9 '0').take 9 =
      padded width n ++ List.replicate (9 - width) '0' := by
    rw [List.take_append, length_padded hwidth hn, List.take_of_length_le
      (by rw [length_padded hwidth hn]; exact hle), List.take_replicate]
    congr 2
    omega
  rw [nanosOf, htake, value_append_zeros, value_padded]

theorem fraction?_padded {width n : Nat} (hwidth : 0 < width) (hle : width ≤ 9)
    (hn : n < 10 ^ width) :
    fraction? ('.' :: padded width n ++ ['Z']) = some (n * 10 ^ (9 - width), ['Z']) := by
  have hspan : spanDigits (padded width n ++ ['Z']) = (padded width n, ['Z']) :=
    spanDigits_append_cons (allDigits_padded width n) rfl
  have hne : padded width n ≠ [] := by
    intro hnil
    have hlength := length_padded hwidth hn
    rw [hnil, List.length_nil] at hlength
    omega
  rw [List.cons_append, fraction?]
  simp only [hspan, if_neg hne, nanosOf_padded hwidth hle hn]

/-- A fraction is read back whether it has no, three, six or nine digits. -/
theorem fraction?_fractionText {nano : Nat} (h : nano < nanosPerSecond) :
    fraction? (fractionText nano ++ ['Z']) = some (nano, ['Z']) := by
  have hbound : nano < 1000000000 := h
  unfold fractionText
  split
  · next hzero =>
    rw [hzero]
    rfl
  · split
    · next hmillis =>
      rw [fraction?_padded (by decide) (by decide) (by omega)]
      have hexact : nano / 1000000 * 10 ^ (9 - 3) = nano := by omega
      rw [hexact]
    · split
      · next hmicros =>
        rw [fraction?_padded (by decide) (by decide) (by omega)]
        have hexact : nano / 1000 * 10 ^ (9 - 6) = nano := by omega
        rw [hexact]
      · rw [fraction?_padded (by decide) (by decide) (by omega), Nat.sub_self, Nat.pow_zero,
          Nat.mul_one]

/-! ### Dates and times -/

theorem of?_date (d : Date) : Date.of? d.year d.month d.day = some d := by
  rw [Date.of?, dif_pos d.isDate]

theorem of?_self (t : Instant) : of? t.date t.second t.nano = some t := by
  rw [of?, dif_pos t.isTime]

/-- The fields that a clock shows determine the time of day.  In a leap second the clock shows
second 60, and the nanoseconds beyond the first second are those of the fraction. -/
theorem atTime?_fields (t : Instant) :
    atTime? t.date (t.second / 3600) (t.second / 60 % 60)
      (t.second % 60 + t.nano / nanosPerSecond) (t.nano % nanosPerSecond) = some t := by
  obtain ⟨hsecond, hnano⟩ := t.isTime
  have hday : t.second < 86400 := hsecond
  have hself := of?_self t
  simp only [nanosPerSecond] at hnano ⊢
  have hshown : t.second / 3600 ≤ 23 ∧ t.second / 60 % 60 ≤ 59 ∧
      t.second % 60 + t.nano / 1000000000 ≤ 60 := by omega
  have hclock : 3600 * (t.second / 3600) + 60 * (t.second / 60 % 60) + t.second % 60 = t.second := by
    omega
  rw [atTime?, if_pos hshown]
  by_cases hleap : t.nano < 1000000000
  · have hplain : t.second % 60 + t.nano / 1000000000 = t.second % 60 := by omega
    have hne : t.second % 60 ≠ 60 := by omega
    have hfraction : t.nano % 1000000000 = t.nano := by omega
    simp only [hplain, if_neg hne, hfraction, hclock, hself]
  · have hlast : t.second % 60 = 59 := by omega
    have hsixty : t.second % 60 + t.nano / 1000000000 = 60 := by omega
    have hfraction : nanosPerSecond + t.nano % 1000000000 = t.nano := by
      simp only [nanosPerSecond]
      omega
    rw [hlast] at hclock
    simp only [hsixty, if_true, hfraction, hclock, hself]

theorem behind?_zero (t : Instant) : t.behind? 0 = some t := by
  have hday : ((t.second : Int) < daySeconds) := Int.ofNat_lt.2 t.isTime.1
  have hpos : ¬ ((t.second : Int) < 0) := by omega
  have hself := of?_self t
  simp only [behind?, Int.mul_zero, Int.sub_zero, if_neg hpos, if_pos hday, Int.toNat_natCast, hself]

/-! ### Timestamps -/

/-- The year of the instant is written with four digits and no sign. -/
def HasPlainYear (t : Instant) : Prop := 0 ≤ t.date.year ∧ t.date.year ≤ 9999

instance (t : Instant) : Decidable t.HasPlainYear := inferInstanceAs (Decidable (_ ∧ _))

theorem HasPlainYear.yearText {t : Instant} (h : t.HasPlainYear) :
    Instant.yearText t.date.year = padded 4 t.date.year.toNat := by
  obtain ⟨hlow, hhigh⟩ := h
  have habs : t.date.year.natAbs = t.date.year.toNat := by omega
  rw [Instant.yearText, habs]
  simp only [if_neg (by omega : ¬ t.date.year < 0), if_pos hhigh]

theorem daysInMonth_le (year : Int) (month : Nat) : daysInMonth year month ≤ 31 := by
  unfold daysInMonth
  repeat' split
  all_goals decide

/-- Every field but the year fits its two digits. -/
theorem fields_lt (t : Instant) :
    t.date.month < 10 ^ 2 ∧ t.date.day < 10 ^ 2 ∧ t.second / 3600 < 10 ^ 2 ∧
      t.second / 60 % 60 < 10 ^ 2 ∧ t.second % 60 + t.nano / nanosPerSecond < 10 ^ 2 := by
  obtain ⟨-, -, -, hmonth, -, hday⟩ := t.date.isDate
  have hdays := daysInMonth_le t.date.year t.date.month
  have hsecond : t.second < 86400 := t.isTime.1
  have hnano : t.nano < 2 * 1000000000 := by
    rcases t.isTime.2 with hnano | ⟨hnano, -⟩
    · exact Nat.lt_trans hnano (by decide)
    · exact hnano
  simp only [nanosPerSecond]
  refine ⟨?_, ?_, ?_, ?_, ?_⟩
  · omega
  · omega
  · omega
  · omega
  · omega

theorem ofTimestamp?_toChars {t : Instant} (h : t.HasPlainYear) :
    ofTimestamp? t.toChars = some t := by
  obtain ⟨hmonth, hday, hhour, hminute, hsecond⟩ := t.fields_lt
  have hyear : t.date.year.toNat < 10 ^ 4 := by
    have hhigh := h.2
    omega
  have hcast : (t.date.year.toNat : Int) = t.date.year := Int.toNat_of_nonneg h.1
  have hyear := fixed?_padded (by decide) hyear
  have hmonth := fixed?_padded (by decide) hmonth
  have hday := fixed?_padded (by decide) hday
  have hhour := fixed?_padded (by decide) hhour
  have hminute := fixed?_padded (by decide) hminute
  have hsecond := fixed?_padded (by decide) hsecond
  have hfraction := fraction?_fractionText (Nat.mod_lt t.nano (by decide : 0 < nanosPerSecond))
  have hzone : offset? (mark? ':') ['Z'] = some (0, []) := rfl
  have hdate : Date.of? (t.date.year.toNat : Int) t.date.month t.date.day = some t.date := by
    rw [hcast, of?_date]
  simp only [toChars, h.yearText, List.append_assoc, List.cons_append]
  -- field by field, each with the mark behind it
  refine bind_eq_some (hyear _) (bind_eq_some (mark?_cons _ _) ?_)
  refine bind_eq_some (hmonth _) (bind_eq_some (mark?_cons _ _) ?_)
  refine bind_eq_some (hday _) (bind_eq_some (or_eq_some (mark?_cons _ _)) ?_)
  refine bind_eq_some (hhour _) (bind_eq_some (mark?_cons _ _) ?_)
  refine bind_eq_some (hminute _) (bind_eq_some (mark?_cons _ _) ?_)
  refine bind_eq_some (hsecond _) (bind_eq_some hfraction ?_)
  refine bind_eq_some hzone (bind_eq_some (a := ()) rfl ?_)
  exact bind_eq_some hdate (bind_eq_some (atTime?_fields t) (behind?_zero t))

/-- An instant with a year of four digits is read back from its text. -/
theorem ofText?_toChars {t : Instant} (h : t.HasPlainYear) : ofText? t.toChars = some t := by
  rw [ofText?, ofTimestamp?_toChars h, Option.some_or]

/-! ### The look of a timestamp -/

/-- A character of a timestamp in UTC. -/
def IsTimestampChar (c : Char) : Prop := c.isDigit = true ∨ c ∈ ['-', ':', '.', 'T', 'Z']

theorem isTimestampChar_padded {width n : Nat} : ∀ c ∈ padded width n, IsTimestampChar c :=
  fun c hc => Or.inl (allDigits_padded width n c hc)

theorem isTimestampChar_fractionText (nano : Nat) : ∀ c ∈ fractionText nano, IsTimestampChar c := by
  have hpoint : ∀ width n, ∀ c ∈ '.' :: padded width n, IsTimestampChar c := by
    intro width n c hc
    rcases List.mem_cons.1 hc with rfl | hc
    · exact Or.inr (by decide)
    · exact isTimestampChar_padded c hc
  unfold fractionText
  split
  · simp
  · split
    · exact hpoint 3 _
    · split
      · exact hpoint 6 _
      · exact hpoint 9 _

theorem isTimestampChar_toChars {t : Instant} (h : t.HasPlainYear) :
    ∀ c ∈ t.toChars, IsTimestampChar c := by
  have hmark : ∀ c ∈ ['-', ':', 'T', 'Z'], IsTimestampChar c := by
    intro c hc
    have hsubset : ['-', ':', 'T', 'Z'] ⊆ ['-', ':', '.', 'T', 'Z'] := by decide
    exact Or.inr (hsubset hc)
  intro c hc
  simp only [toChars, h.yearText, List.append_assoc, List.cons_append, List.mem_append,
    List.mem_cons, List.not_mem_nil, or_false] at hc
  rcases hc with hc | rfl | hc | rfl | hc | rfl | hc | rfl | hc | rfl | hc | hc | rfl
  · exact isTimestampChar_padded c hc
  · exact hmark _ (by decide)
  · exact isTimestampChar_padded c hc
  · exact hmark _ (by decide)
  · exact isTimestampChar_padded c hc
  · exact hmark _ (by decide)
  · exact isTimestampChar_padded c hc
  · exact hmark _ (by decide)
  · exact isTimestampChar_padded c hc
  · exact hmark _ (by decide)
  · exact isTimestampChar_padded c hc
  · exact isTimestampChar_fractionText _ c hc
  · exact hmark _ (by decide)

end RecordQuery.Instant
