import Mathlib.Data.List.TakeWhile
import RecordQuery.Proofs.Number.Digits
import RecordQuery.Proofs.Number.Rounding

/-!
# Reading back the text of a number

The text of a finite number without exponent is a numeral of the form that a filter admits, and it
denotes the number.  The layout of a decimal moves the point through its digits and fills up with
zeros, and neither changes what the digits spell together with the number of places after the point.
-/

namespace RecordQuery

namespace Decimal

theorem spanMantissa?_whole {whole : List Char} (hwhole : AllDigits whole) (hne : whole ≠ []) :
    spanMantissa? whole = some (whole, [], []) := by
  simp only [spanMantissa?, spanDigits_digits hwhole, hne, if_false]

theorem spanMantissa?_point {whole fraction : List Char} (hwhole : AllDigits whole)
    (hne : whole ≠ []) (hfraction : AllDigits fraction) :
    spanMantissa? (whole ++ '.' :: fraction) = some (whole, fraction, []) := by
  have hpoint : spanDigits (whole ++ '.' :: fraction) = (whole, '.' :: fraction) :=
    spanDigits_append_cons hwhole rfl
  simp only [spanMantissa?, hpoint, spanDigits_digits hfraction, hne, false_and, if_false]

theorem spanMantissa?_append {whole fraction : List Char} (hwhole : AllDigits whole)
    (hne : whole ≠ []) (hfraction : AllDigits fraction) :
    spanMantissa? (whole ++ if fraction = [] then [] else '.' :: fraction) =
      some (whole, fraction, []) := by
  by_cases hnil : fraction = []
  · subst hnil
    rw [if_pos rfl, List.append_nil]
    exact spanMantissa?_whole hwhole hne
  · rw [if_neg hnil]
    exact spanMantissa?_point hwhole hne hfraction

/-- Without an exponent the digits after the point say by what power of ten to divide. -/
theorem magnitude_zero (whole fraction : List Char) :
    magnitude whole fraction 0 =
      (⟨value (whole ++ fraction), -(fraction.length : Int)⟩ : Decimal).nearest := by
  have hcut : max (-(400 + (whole.length : Int))) (min (400 + (fraction.length : Int)) 0) = 0 := by
    omega
  simp only [magnitude, hcut, Decimal.nearest, Int.zero_sub]

/-! ### The layout of a decimal -/

/-- The digits in front of the point. -/
def whole (d : Decimal) : List Char :=
  match d.exponent with
  | .ofNat e => text d.digits ++ List.replicate e '0'
  | .negSucc e =>
    if e + 1 < (text d.digits).length then
      (text d.digits).take ((text d.digits).length - (e + 1))
    else ['0']

/-- The digits behind the point. -/
def fraction (d : Decimal) : List Char :=
  match d.exponent with
  | .ofNat _ => []
  | .negSucc e =>
    if e + 1 < (text d.digits).length then
      (text d.digits).drop ((text d.digits).length - (e + 1))
    else List.replicate (e + 1 - (text d.digits).length) '0' ++ text d.digits

theorem allDigits_whole (d : Decimal) : AllDigits d.whole := by
  have hdigits := allDigits_text d.digits
  unfold whole
  split
  · exact hdigits.append (allDigits_zeros _)
  · split
    · exact hdigits.take _
    · exact allDigits_zeros 1

theorem allDigits_fraction (d : Decimal) : AllDigits d.fraction := by
  have hdigits := allDigits_text d.digits
  unfold fraction
  split
  · intro c hc
    exact absurd hc List.not_mem_nil
  · split
    · exact hdigits.drop _
    · exact (allDigits_zeros _).append hdigits

theorem whole_ne_nil (d : Decimal) : d.whole ≠ [] := by
  have hne := text_ne_nil d.digits
  unfold whole
  split
  · simp [hne]
  · split
    · next hplaces =>
      intro hnil
      have hlength := congrArg List.length hnil
      rw [List.length_take, List.length_nil] at hlength
      omega
    · simp

theorem length_fraction_negSucc (digits e : Nat) :
    (⟨digits, .negSucc e⟩ : Decimal).fraction.length = e + 1 := by
  simp only [fraction]
  split
  · rw [List.length_drop]
    omega
  · rw [List.length_append, List.length_replicate]
    omega

theorem positional_nil (d : Decimal) :
    d.positional [] = d.whole ++ if d.fraction = [] then [] else '.' :: d.fraction := by
  obtain ⟨digits, exponent⟩ := d
  cases exponent with
  | ofNat e =>
    simp only [positional, whole, fraction, if_true, List.append_nil]
  | negSucc e =>
    have hne : (⟨digits, .negSucc e⟩ : Decimal).fraction ≠ [] := by
      rw [← List.length_pos_iff, length_fraction_negSucc]
      omega
    rw [if_neg hne]
    simp only [positional, whole, fraction]
    split
    · rfl
    · rfl

theorem nearest_mul_pow (digits e : Nat) : (⟨digits * Nat.pow 10 e, -((0 : Nat) : Int)⟩ : Decimal).nearest =
    (⟨digits, .ofNat e⟩ : Decimal).nearest := by
  have hzero : -((0 : Nat) : Int) = .ofNat 0 := rfl
  have hone : Nat.pow 10 0 = 1 := rfl
  rw [hzero, Decimal.nearest, Decimal.nearest, Magnitude.ofDecimal, Magnitude.ofDecimal, hone,
    Nat.mul_one]

/-- The digits around the point denote the decimal. -/
theorem magnitude_whole_fraction (d : Decimal) : magnitude d.whole d.fraction 0 = d.nearest := by
  obtain ⟨digits, exponent⟩ := d
  cases exponent with
  | ofNat e =>
    have hvalue : value (text digits ++ List.replicate e '0') = digits * Nat.pow 10 e := by
      rw [value_append_zeros, value_text]
      rfl
    have hnone : (⟨digits, .ofNat e⟩ : Decimal).fraction = [] := rfl
    rw [hnone, magnitude_zero, List.append_nil, whole, hvalue, List.length_nil]
    exact nearest_mul_pow digits e
  | negSucc e =>
    have hvalue : value ((⟨digits, .negSucc e⟩ : Decimal).whole ++
        (⟨digits, .negSucc e⟩ : Decimal).fraction) = digits := by
      simp only [whole, fraction]
      split
      · rw [List.take_append_drop, value_text]
      · rw [← List.append_assoc, value_append, value_text, value_append, value_zeros]
        have hzero : value ['0'] = 0 := rfl
        rw [hzero, Nat.mul_zero, Nat.zero_add, Nat.mul_zero, Nat.zero_add]
    have hplaces : -((e + 1 : Nat) : Int) = .negSucc e := rfl
    rw [magnitude_zero, hvalue, length_fraction_negSucc, hplaces]

end Decimal

/-! ### Numbers -/

theorem toLower_of_isDigit {c : Char} (h : c.isDigit = true) : c.toLower = c := by
  have hrange : ¬ (c.toNat ≥ 65 ∧ c.toNat ≤ 90) := by
    have hdigit := Decimal.toNat_of_isDigit h
    omega
  unfold Char.toLower
  rw [dif_neg]
  exact hrange

namespace Number

/-- A character of a numeral without exponent. -/
def IsNumeralChar (c : Char) : Prop := c.isDigit = true ∨ c = '-' ∨ c = '.'

/-- The text of a finite magnitude as digits around a point, and what they denote. -/
theorem exists_digits_of_finite {size : Magnitude} (h : size.isFinite = true) :
    ∃ whole fraction, Decimal.AllDigits whole ∧ whole ≠ [] ∧ Decimal.AllDigits fraction ∧
      (∀ negative, (real negative size).plain =
        sign negative ++ (whole ++ if fraction = [] then [] else '.' :: fraction)) ∧
      Decimal.magnitude whole fraction 0 = size := by
  have hinfinity : size ≠ .infinity := by
    rintro rfl
    exact absurd h (by decide)
  by_cases hzero : size = .zero
  · subst hzero
    refine ⟨['0'], [], Decimal.allDigits_zeros 1, by simp, by simp [Decimal.AllDigits], ?_, ?_⟩
    · intro negative
      rw [plain, if_neg hinfinity, if_pos rfl, if_pos rfl, List.append_nil]
    · rw [Decimal.magnitude_zero]
      decide +kernel
  · refine ⟨(size.shortest .up).whole, (size.shortest .up).fraction, Decimal.allDigits_whole _,
      Decimal.whole_ne_nil _, Decimal.allDigits_fraction _, ?_, ?_⟩
    · intro negative
      rw [plain, if_neg hinfinity, if_neg hzero, Decimal.positional_nil]
    · rw [Decimal.magnitude_whole_fraction, Magnitude.nearest_shortest]

theorem spanSign_sign_append {c : Char} (hc : c.isDigit = true) (cs : List Char) (negative : Bool) :
    Decimal.spanSign (sign negative ++ c :: cs) = (negative, c :: cs) := by
  cases negative with
  | true => rfl
  | false =>
    have hsign : sign false = [] := rfl
    rw [hsign, List.nil_append]
    unfold Decimal.spanSign
    split
    · next h => exact absurd hc (by rw [(List.cons.inj h).1]; decide)
    · next h => exact absurd hc (by rw [(List.cons.inj h).1]; decide)
    · rfl

/-- What starts with a digit is none of the names. -/
theorem ofList_toLower_ne {c : Char} {cs : List Char} {name : String} (hc : c.isDigit = true)
    (hname : name.toList.head?.any Char.isDigit = false) :
    String.ofList ((c :: cs).map Char.toLower) ≠ name := by
  rintro rfl
  rw [String.toList_ofList, List.map_cons, toLower_of_isDigit hc] at hname
  exact absurd hc (by simpa using hname)

theorem isNumeralChar_plain {n : Number} (h : n.isFinite = true) : ∀ c ∈ n.plain, IsNumeralChar c := by
  cases n with
  | nan => exact absurd h (by decide)
  | real negative size =>
    obtain ⟨whole, fraction, hwhole, -, hfraction, hplain, -⟩ := exists_digits_of_finite h
    rw [hplain negative]
    intro c hc
    rcases List.mem_append.1 hc with hsign | hc
    · cases negative with
      | true => exact Or.inr (Or.inl (List.mem_singleton.1 hsign))
      | false => exact absurd hsign List.not_mem_nil
    rcases List.mem_append.1 hc with hc | hc
    · exact Or.inl (hwhole c hc)
    split at hc
    · exact absurd hc List.not_mem_nil
    · rcases List.mem_cons.1 hc with rfl | hc
      · exact Or.inr (Or.inr rfl)
      · exact Or.inl (hfraction c hc)

/-- A finite number is read back from its text, which is a numeral without exponent. -/
theorem ofText?_plain {n : Number} (h : n.isFinite = true) :
    isPlainDecimal n.plain = true ∧ ofText? n.plain = some n := by
  cases n with
  | nan => exact absurd h (by decide)
  | real negative size =>
    obtain ⟨whole, fraction, hwhole, hne, hfraction, hplain, hdenotes⟩ := exists_digits_of_finite h
    have hmantissa := Decimal.spanMantissa?_append hwhole hne hfraction
    obtain ⟨c, cs, hcs⟩ := List.exists_cons_of_ne_nil hne
    have hc : c.isDigit = true := hwhole c (by rw [hcs]; exact List.mem_cons_self)
    rw [hcs, List.cons_append] at hmantissa
    rw [hplain negative, hcs, List.cons_append]
    rw [hcs] at hdenotes
    generalize (cs ++ if fraction = [] then [] else '.' :: fraction) = rest at hmantissa ⊢
    have hsign := spanSign_sign_append hc rest negative
    constructor
    · rw [isPlainDecimal, hsign, hmantissa]
      rfl
    · have hnan : String.ofList ((c :: rest).map Char.toLower) ≠ "nan" :=
        ofList_toLower_ne hc (by decide)
      have hinf : String.ofList ((c :: rest).map Char.toLower) ≠ "inf" :=
        ofList_toLower_ne hc (by decide)
      have hinfinity : String.ofList ((c :: rest).map Char.toLower) ≠ "infinity" :=
        ofList_toLower_ne hc (by decide)
      have hexponent : Decimal.exponent? [] = some 0 := rfl
      simp only [ofText?, hsign, hmantissa]
      rw [if_neg hnan, if_neg (not_or.2 ⟨hinf, hinfinity⟩)]
      simp only [Option.bind_eq_bind, Option.bind_some, hexponent, hdenotes]
      rfl

end Number

/-! ### The characters of a numeral -/

namespace Decimal

theorem mem_spanDigits {c : Char} {cs : List Char} (h : c ∈ cs) :
    c.isDigit = true ∨ c ∈ (spanDigits cs).2 := by
  rw [← List.takeWhile_append_dropWhile (p := Char.isDigit) (l := cs)] at h
  rcases List.mem_append.1 h with htake | hdrop
  · exact Or.inl (List.mem_takeWhile_imp htake)
  · exact Or.inr hdrop

theorem mem_spanSign {c : Char} {cs : List Char} (h : c ∈ cs) :
    c = '-' ∨ c = '+' ∨ c ∈ (spanSign cs).2 := by
  unfold spanSign
  split
  · rcases List.mem_cons.1 h with rfl | h
    · exact Or.inl rfl
    · exact Or.inr (Or.inr h)
  · rcases List.mem_cons.1 h with rfl | h
    · exact Or.inr (Or.inl rfl)
    · exact Or.inr (Or.inr h)
  · exact Or.inr (Or.inr h)

theorem mem_spanMantissa? {c : Char} {cs whole fraction rest : List Char}
    (hspan : spanMantissa? cs = some (whole, fraction, rest)) (h : c ∈ cs) :
    c.isDigit = true ∨ c = '.' ∨ c ∈ rest := by
  rcases mem_spanDigits h with hdigit | hbehind
  · exact Or.inl hdigit
  simp only [spanMantissa?] at hspan
  split at hspan
  · next behind heq =>
    split at hspan
    · cases hspan
    · have hrest : (spanDigits behind).2 = rest := by
        simp only [Option.some.injEq, Prod.mk.injEq] at hspan
        exact hspan.2.2
      rw [heq] at hbehind
      rcases List.mem_cons.1 hbehind with rfl | hbehind
      · exact Or.inr (Or.inl rfl)
      · rw [← hrest]
        exact (mem_spanDigits hbehind).imp_right Or.inr
  · split at hspan
    · cases hspan
    · have hrest : (spanDigits cs).2 = rest := by
        simp only [Option.some.injEq, Prod.mk.injEq] at hspan
        exact hspan.2.2
      rw [← hrest]
      exact Or.inr (Or.inr hbehind)

end Decimal

/-- A plus sign is all that a numeral may have and the text of a number never has. -/
theorem isNumeralChar_of_isPlainDecimal {cs : List Char} (h : isPlainDecimal cs = true) :
    ∀ c ∈ cs, Number.IsNumeralChar c ∨ c = '+' := by
  intro c hc
  rw [isPlainDecimal] at h
  rcases Decimal.mem_spanSign hc with hminus | hplus | hbody
  · exact Or.inl (Or.inr (Or.inl hminus))
  · exact Or.inr hplus
  split at h
  · next whole fraction rest hspan =>
    rw [List.isEmpty_iff] at h
    rcases Decimal.mem_spanMantissa? hspan hbody with hdigit | hpoint | hrest
    · exact Or.inl (Or.inl hdigit)
    · exact Or.inl (Or.inr (Or.inr hpoint))
    · rw [h] at hrest
      cases hrest
  · cases h

end RecordQuery
