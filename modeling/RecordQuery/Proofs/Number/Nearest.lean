import Mathlib.Tactic.Ring
import RecordQuery.Proofs.Number.Rounding

/-!
# Nearest magnitudes

No value of a magnitude is nearer to a quotient than the one that it is rounded to, and if another
is as near then the magnitude that was taken is even (`Magnitude.nearest_nearer`).  Distances are
compared as natural numbers, after multiplication by the denominator.

The step of the binade decides what can be hit: the value of a magnitude is a multiple of the step,
or lies below the binade and is farther away than its lower end.
-/

namespace RecordQuery

namespace Magnitude

/-! ### Nearest natural numbers -/

theorem roundEven_cases (num den : Nat) :
    roundEven num den = num / den ∧ 2 * (num % den) < den ∨
      roundEven num den = num / den + 1 ∧ den < 2 * (num % den) ∨
      2 * (num % den) = den ∧ roundEven num den % 2 = 0 ∧
        (roundEven num den = num / den ∨ roundEven num den = num / den + 1) := by
  simp only [roundEven]
  by_cases hbelow : 2 * (num % den) < den
  · rw [if_pos hbelow]
    exact Or.inl ⟨rfl, hbelow⟩
  · rw [if_neg hbelow]
    by_cases habove : den < 2 * (num % den)
    · rw [if_pos habove]
      exact Or.inr (Or.inl ⟨rfl, habove⟩)
    · rw [if_neg habove]
      exact Or.inr (Or.inr ⟨by omega, by omega, by omega⟩)

/-- The distance between two natural numbers. -/
def gap (a b : Nat) : Nat := ((a : Int) - b).natAbs

theorem gap_quotient_mul (num den : Nat) : gap (num / den * den) num = num % den := by
  have hsplit := Nat.div_add_mod' num den
  unfold gap
  omega

theorem gap_succ_quotient_mul (num : Nat) {den : Nat} (hden : 0 < den) :
    gap ((num / den + 1) * den) num = den - num % den := by
  have hsplit := Nat.div_add_mod' num den
  have hmod := Nat.mod_lt num hden
  have hsucc : (num / den + 1) * den = num / den * den + den := Nat.succ_mul _ _
  rw [hsucc]
  unfold gap
  omega

/-- All multiples but the two around the quotient are a whole step away. -/
theorem le_gap_mul {num den j : Nat} (hden : 0 < den) (hfloor : j ≠ num / den)
    (hceil : j ≠ num / den + 1) : den ≤ gap (j * den) num := by
  have hsplit := Nat.div_add_mod' num den
  have hmod := Nat.mod_lt num hden
  have hside : j * den + den ≤ num / den * den ∨ num / den * den + den + den ≤ j * den := by
    rcases Nat.lt_or_gt_of_ne hfloor with hlt | hgt
    · have hmul := Nat.mul_le_mul_right den hlt
      rw [Nat.succ_mul] at hmul
      exact Or.inl hmul
    · have hmul := Nat.mul_le_mul_right den (show num / den + 1 + 1 ≤ j by omega)
      rw [Nat.succ_mul, Nat.succ_mul] at hmul
      exact Or.inr hmul
  unfold gap
  omega

theorem two_mul_gap_roundEven_le (num : Nat) {den : Nat} (hden : 0 < den) :
    2 * gap (roundEven num den * den) num ≤ den := by
  have hmod := Nat.mod_lt num hden
  have hfloor := gap_quotient_mul num den
  have hceil := gap_succ_quotient_mul num hden
  rcases roundEven_cases num den with ⟨hround, hhalf⟩ | ⟨hround, hhalf⟩ | ⟨hhalf, -, hround | hround⟩
  · rw [hround]
    omega
  · rw [hround]
    omega
  · rw [hround]
    omega
  · rw [hround]
    omega

/-- A multiple other than the one that is taken is farther away, or as far away and the one that is
taken is even. -/
theorem roundEven_nearer {num den j : Nat} (hden : 0 < den) (hne : j ≠ roundEven num den) :
    gap (roundEven num den * den) num < gap (j * den) num ∨
      gap (roundEven num den * den) num = gap (j * den) num ∧ roundEven num den % 2 = 0 := by
  have hmod := Nat.mod_lt num hden
  have hfloor := gap_quotient_mul num den
  have hceil := gap_succ_quotient_mul num hden
  by_cases hjfloor : j = num / den
  · subst hjfloor
    rcases roundEven_cases num den with ⟨hround, -⟩ | ⟨hround, hhalf⟩ | ⟨hhalf, heven, hround⟩
    · exact absurd hround.symm hne
    · rw [hround]
      omega
    · rw [hround.resolve_left (Ne.symm hne)] at heven ⊢
      omega
  · by_cases hjceil : j = num / den + 1
    · subst hjceil
      rcases roundEven_cases num den with ⟨hround, hhalf⟩ | ⟨hround, -⟩ | ⟨hhalf, heven, hround⟩
      · rw [hround]
        omega
      · exact absurd hround.symm hne
      · rw [hround.resolve_right (Ne.symm hne)] at heven ⊢
        omega
    · have hfar := le_gap_mul hden hjfloor hjceil
      have hhalf := two_mul_gap_roundEven_le num hden
      omega

/-! ### Nearest magnitudes -/

/-- The binade in which a quotient of units is rounded. -/
def quotientBinade (num den : Nat) : Nat := (num / den).log2 - 52

/-- The step of that binade, in the units of the numerator. -/
def quotientStep (num den : Nat) : Nat := den * 2 ^ quotientBinade num den

theorem quotientStep_pos (num : Nat) {den : Nat} (hden : 0 < den) : 0 < quotientStep num den :=
  Nat.mul_pos hden (Nat.two_pow_pos _)

theorem nearest_eq (num den : Nat) :
    nearest num den =
      ofCode (quotientBinade num den * binadeSize + roundEven num (quotientStep num den)) :=
  rfl

/-- The quotient lies below the end of its binade. -/
theorem lt_quotientStep_mul (num : Nat) {den : Nat} (hden : 0 < den) :
    num < quotientStep num den * 2 ^ 53 := by
  have hlog : num / den < 2 ^ ((num / den).log2 + 1) := Nat.lt_log2_self
  have hexponent : 2 ^ ((num / den).log2 + 1) ≤ 2 ^ (quotientBinade num den + 53) := by
    apply Nat.pow_le_pow_right (by decide)
    unfold quotientBinade
    omega
  have hlt := (Nat.div_lt_iff_lt_mul hden).1 (Nat.lt_of_lt_of_le hlog hexponent)
  rw [Nat.pow_add, Nat.mul_comm] at hlt
  rwa [quotientStep, Nat.mul_assoc]

/-- The quotient does not lie below the start of its binade, unless that is the first one. -/
theorem quotientStep_mul_le {num den : Nat} (hbinade : quotientBinade num den ≠ 0) :
    quotientStep num den * 2 ^ 52 ≤ num := by
  have hne : num / den ≠ 0 := by
    intro hzero
    rw [quotientBinade, hzero] at hbinade
    exact hbinade (by simp)
  have hlog : 2 ^ (num / den).log2 ≤ num / den := Nat.log2_self_le hne
  have hexponent : (num / den).log2 = quotientBinade num den + 52 := by
    unfold quotientBinade at hbinade ⊢
    omega
  rw [hexponent, Nat.pow_add] at hlog
  calc quotientStep num den * 2 ^ 52
      = 2 ^ quotientBinade num den * 2 ^ 52 * den := by rw [quotientStep]; ring
    _ ≤ num / den * den := Nat.mul_le_mul_right den hlog
    _ ≤ num := Nat.div_mul_le_self num den

theorem roundEven_quotientStep_le (num : Nat) {den : Nat} (hden : 0 < den) :
    roundEven num (quotientStep num den) ≤ 2 ^ 53 := by
  have hlt := lt_quotientStep_mul num hden
  rw [Nat.mul_comm] at hlt
  have hquotient := (Nat.div_lt_iff_lt_mul (quotientStep_pos num hden)).2 hlt
  rcases roundEven_cases num (quotientStep num den) with h | h | h <;> omega

theorem le_roundEven_quotientStep {num den : Nat} (hden : 0 < den)
    (hbinade : quotientBinade num den ≠ 0) : 2 ^ 52 ≤ roundEven num (quotientStep num den) := by
  have hle := quotientStep_mul_le hbinade
  rw [Nat.mul_comm] at hle
  have hquotient := (Nat.le_div_iff_mul_le (quotientStep_pos num hden)).2 hle
  rcases roundEven_cases num (quotientStep num den) with h | h | h <;> omega

theorem code_ofCode {code : Nat} (h : (ofCode code).isFinite = true) : (ofCode code).code = code := by
  have hlt : min code infinityCode < infinityCode := of_decide_eq_true h
  have hmin : (ofCode code).code = min code infinityCode := rfl
  omega

/-- A count of steps is the value of its place, also if it reaches the next binade. -/
theorem units_ofCode {n count : Nat} (hle : count ≤ 2 ^ 53) (hge : n ≠ 0 → 2 ^ 52 ≤ count)
    (hfinite : (ofCode (n * binadeSize + count)).isFinite = true) :
    (ofCode (n * binadeSize + count)).units = count * 2 ^ n := by
  have hcode := code_ofCode hfinite
  by_cases hnext : count = 2 ^ 53
  · have hbinade : (ofCode (n * binadeSize + count)).binade = n + 1 := by
      rw [binade, hcode]
      simp only [binadeSize]
      omega
    have hsteps : (ofCode (n * binadeSize + count)).steps = 2 ^ 52 := by
      rw [steps, hbinade, hcode]
      simp only [binadeSize]
      omega
    rw [units_eq, hbinade, hsteps, hnext]
    ring
  · have hbinade : (ofCode (n * binadeSize + count)).binade = n := by
      rw [binade, hcode]
      simp only [binadeSize]
      omega
    have hsteps : (ofCode (n * binadeSize + count)).steps = count := by
      rw [steps, hbinade, hcode]
      omega
    rw [units_eq, hbinade, hsteps]

theorem units_nearest {num den : Nat} (hden : 0 < den)
    (hfinite : (nearest num den).isFinite = true) :
    (nearest num den).units =
      roundEven num (quotientStep num den) * 2 ^ quotientBinade num den := by
  rw [nearest_eq] at hfinite ⊢
  exact units_ofCode (roundEven_quotientStep_le num hden) (le_roundEven_quotientStep hden) hfinite

theorem units_nearest_mul {num den : Nat} (hden : 0 < den)
    (hfinite : (nearest num den).isFinite = true) :
    (nearest num den).units * den =
      roundEven num (quotientStep num den) * quotientStep num den := by
  rw [units_nearest hden hfinite, quotientStep, Nat.mul_assoc, Nat.mul_comm den]

/-- A magnitude counts the steps of any binade, or lies below it. -/
theorem units_eq_mul_or_lt (m : Magnitude) (n : Nat) :
    (∃ j, m.units = j * 2 ^ n) ∨ n ≠ 0 ∧ m.units < 2 ^ 52 * 2 ^ n := by
  rcases Nat.lt_or_ge m.binade n with hlt | hge
  · right
    refine ⟨by omega, ?_⟩
    have hsteps := Nat.mul_lt_mul_of_pos_right (steps_lt m) (Nat.two_pow_pos m.binade)
    calc m.units
        < 2 ^ 53 * 2 ^ m.binade := hsteps
      _ = 2 ^ 52 * 2 ^ (m.binade + 1) := by ring
      _ ≤ 2 ^ 52 * 2 ^ n := Nat.mul_le_mul_left _ (Nat.pow_le_pow_right (by decide) hlt)
  · left
    refine ⟨m.steps * 2 ^ (m.binade - n), ?_⟩
    rw [units_eq, Nat.mul_assoc, ← Nat.pow_add, Nat.sub_add_cancel hge]

/-- A magnitude of another value is farther away from the quotient than the nearest one, or as far
away and the nearest one is even. -/
theorem nearest_nearer {num den : Nat} {m : Magnitude} (hden : 0 < den)
    (hfinite : (nearest num den).isFinite = true) (hne : m.units ≠ (nearest num den).units) :
    gap ((nearest num den).units * den) num < gap (m.units * den) num ∨
      gap ((nearest num den).units * den) num = gap (m.units * den) num ∧
        (nearest num den).code % 2 = 0 := by
  have hstep := quotientStep_pos num hden
  rw [units_nearest_mul hden hfinite]
  rcases units_eq_mul_or_lt m (quotientBinade num den) with ⟨j, hj⟩ | ⟨hbinade, hlt⟩
  · have hmultiple : m.units * den = j * quotientStep num den := by
      rw [hj, quotientStep, Nat.mul_assoc, Nat.mul_comm den]
    have hother : j ≠ roundEven num (quotientStep num den) := by
      rintro rfl
      exact hne (hj.trans (units_nearest hden hfinite).symm)
    rw [hmultiple]
    refine (roundEven_nearer hstep hother).imp_right ?_
    rintro ⟨htie, heven⟩
    refine ⟨htie, ?_⟩
    rw [nearest_eq] at hfinite ⊢
    rw [code_ofCode hfinite]
    simp only [binadeSize]
    omega
  -- Below the binade the lower end of the binade is nearer, and that is a multiple of the step.
  · have hlow : m.units * den < 2 ^ 52 * quotientStep num den := by
      calc m.units * den
          < 2 ^ 52 * 2 ^ quotientBinade num den * den := Nat.mul_lt_mul_of_pos_right hlt hden
        _ = 2 ^ 52 * quotientStep num den := by rw [quotientStep]; ring
    have hend := quotientStep_mul_le hbinade
    have hnearer : gap (2 ^ 52 * quotientStep num den) num < gap (m.units * den) num := by
      unfold gap
      omega
    left
    by_cases heq : 2 ^ 52 = roundEven num (quotientStep num den)
    · rwa [← heq]
    · rcases roundEven_nearer hstep heq with h | ⟨h, -⟩
      · exact h.trans hnearer
      · exact h.trans_lt hnearer

theorem units_zero : zero.units = 0 := by decide

theorem ofNat_nearer {n : Nat} {m : Magnitude} (hfinite : (ofNat n).isFinite = true)
    (hne : m.units ≠ (ofNat n).units) :
    gap (ofNat n).units (n * one) < gap m.units (n * one) ∨
      gap (ofNat n).units (n * one) = gap m.units (n * one) ∧ (ofNat n).code % 2 = 0 := by
  have hnearer := nearest_nearer Nat.one_pos hfinite hne
  rwa [Nat.mul_one, Nat.mul_one] at hnearer

/-! ### Quotients that are in range, and quotients that are hit -/

theorem isFinite_nearest {num den : Nat} (hden : 0 < den) (h : num < den * 2 ^ 2097) :
    (nearest num den).isFinite = true := by
  have hquotient : num / den < 2 ^ 2097 := (Nat.div_lt_iff_lt_mul hden).2 (by rwa [Nat.mul_comm])
  have hbinade : quotientBinade num den ≤ 2044 := by
    by_cases hzero : num / den = 0
    · rw [quotientBinade, hzero, Nat.log2_zero]
      exact Nat.zero_le _
    · have hlog := (Nat.log2_lt hzero).2 hquotient
      unfold quotientBinade
      omega
  have hround := roundEven_quotientStep_le num hden
  rw [nearest_eq]
  apply decide_eq_true
  simp only [ofCode, infinityCode, binadeSize]
  omega

/-- A number of at most 53 binary digits with zeros behind them is hit. -/
theorem units_nearest_mul_two_pow {s k : Nat} (hs : s < 2 ^ 53)
    (hfinite : (nearest (s * 2 ^ k) 1).isFinite = true) :
    (nearest (s * 2 ^ k) 1).units = s * 2 ^ k := by
  have hbinade : quotientBinade (s * 2 ^ k) 1 ≤ k := by
    by_cases hzero : quotientBinade (s * 2 ^ k) 1 = 0
    · rw [hzero]
      exact Nat.zero_le k
    · have hle := quotientStep_mul_le hzero
      rw [quotientStep, Nat.one_mul, ← Nat.pow_add] at hle
      have hlt : s * 2 ^ k < 2 ^ (53 + k) := by
        rw [Nat.pow_add]
        exact Nat.mul_lt_mul_of_pos_right hs (Nat.two_pow_pos k)
      have hexponent := (Nat.pow_lt_pow_iff_right (by decide)).1 (Nat.lt_of_le_of_lt hle hlt)
      omega
  have hmultiple : s * 2 ^ k =
      s * 2 ^ (k - quotientBinade (s * 2 ^ k) 1) * quotientStep (s * 2 ^ k) 1 := by
    rw [quotientStep, Nat.one_mul, Nat.mul_assoc, ← Nat.pow_add, Nat.sub_add_cancel hbinade]
  have hround : roundEven (s * 2 ^ k) (quotientStep (s * 2 ^ k) 1) =
      s * 2 ^ (k - quotientBinade (s * 2 ^ k) 1) :=
    (congrArg (roundEven · (quotientStep (s * 2 ^ k) 1)) hmultiple).trans
      (roundEven_mul _ (quotientStep_pos _ Nat.one_pos))
  rw [units_nearest Nat.one_pos hfinite, hround, Nat.mul_assoc, ← Nat.pow_add,
    Nat.sub_add_cancel hbinade]

end Magnitude

end RecordQuery
