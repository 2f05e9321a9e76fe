import Mathlib.Algebra.Group.Nat.Defs
import RecordQuery.Number.Shortest

/-!
# Rounding what needs no rounding

A magnitude is the nearest one to its own value, and hence the one that its decimals denote: the
shortest decimal, if the search for it has a hit, and the full expansion otherwise.
-/

namespace RecordQuery

namespace Magnitude

theorem roundEven_mul (n : Nat) {den : Nat} (hden : 0 < den) : roundEven (n * den) den = n := by
  rw [roundEven, Nat.mul_mod_left, Nat.mul_div_cancel n hden]
  exact if_pos (by omega)

/-- The number of the binade of a magnitude, counted from zero for the first two. -/
def binade (m : Magnitude) : Nat := m.code / binadeSize - 1

/-- The steps of its binade that a magnitude counts. -/
def steps (m : Magnitude) : Nat := m.code - m.binade * binadeSize

theorem units_eq (m : Magnitude) : m.units = m.steps * 2 ^ m.binade := rfl

theorem binade_mul_add_steps (m : Magnitude) : m.binade * binadeSize + m.steps = m.code := by
  have hdiv := Nat.div_mul_le_self m.code binadeSize
  have hmul : m.binade * binadeSize ≤ m.code / binadeSize * binadeSize :=
    Nat.mul_le_mul_right _ (Nat.sub_le _ _)
  rw [steps]
  omega

theorem steps_lt (m : Magnitude) : m.steps < 2 ^ 53 := by
  have hmod := Nat.mod_lt m.code (show 0 < binadeSize by decide)
  have hdiv := Nat.div_add_mod m.code binadeSize
  have hcode := binade_mul_add_steps m
  simp only [binade, binadeSize] at *
  omega

theorem steps_ge (m : Magnitude) (h : m.binade ≠ 0) : 2 ^ 52 ≤ m.steps := by
  have hmod := Nat.mod_lt m.code (show 0 < binadeSize by decide)
  have hdiv := Nat.div_add_mod m.code binadeSize
  have hcode := binade_mul_add_steps m
  simp only [binade, binadeSize] at *
  omega

/-- The binary logarithm of the value finds the binade. -/
theorem log2_units_sub (m : Magnitude) : m.units.log2 - 52 = m.binade := by
  have hlt := steps_lt m
  rw [units_eq]
  by_cases hbinade : m.binade = 0
  · rw [hbinade, Nat.pow_zero, Nat.mul_one]
    by_cases hzero : m.steps = 0
    · rw [hzero, Nat.log2_zero]
    · have hlog : m.steps.log2 < 53 := (Nat.log2_lt hzero).2 hlt
      omega
  · have hge := steps_ge m hbinade
    have hpow : 0 < 2 ^ m.binade := Nat.two_pow_pos _
    have hlog : (m.steps * 2 ^ m.binade).log2 = 52 + m.binade := by
      rw [Nat.log2_eq_iff (Nat.mul_ne_zero (by omega) (by omega))]
      constructor
      · rw [Nat.pow_add]
        exact Nat.mul_le_mul_right _ hge
      · rw [show 52 + m.binade + 1 = 53 + m.binade by omega, Nat.pow_add]
        exact Nat.mul_lt_mul_of_pos_right hlt hpow
    omega

/-- A magnitude is the nearest one to its value. -/
theorem nearest_units_mul (m : Magnitude) {den : Nat} (hden : 0 < den) :
    nearest (m.units * den) den = m := by
  have hpow : 0 < den * 2 ^ m.binade := Nat.mul_pos hden (Nat.two_pow_pos _)
  have hfraction : m.units * den = m.steps * (den * 2 ^ m.binade) := by
    rw [units_eq, Nat.mul_assoc, Nat.mul_comm (2 ^ m.binade) den]
  have hbinade : (m.units * den / den).log2 - 52 = m.binade := by
    rw [Nat.mul_div_cancel _ hden, log2_units_sub]
  have hround : roundEven (m.units * den) (den * Nat.pow 2 m.binade) = m.steps := by
    rw [hfraction]
    exact roundEven_mul _ hpow
  have hcode : nearest (m.units * den) den = ofCode m.code := by
    simp only [nearest, hbinade, hround, binade_mul_add_steps]
  have hmin : min m.code infinityCode = m.code := Nat.min_eq_left m.code_le
  rw [hcode]
  obtain ⟨code, hle⟩ := m
  simpa only [ofCode, Magnitude.mk.injEq] using hmin

/-- Magnitudes of one value are the same. -/
theorem units_injective : Function.Injective units := by
  intro m m' h
  calc
    m = nearest (m.units * 1) 1 := (nearest_units_mul m Nat.one_pos).symm
    _ = nearest (m'.units * 1) 1 := by rw [h]
    _ = m' := nearest_units_mul m' Nat.one_pos

/-! ### Decimals -/

theorem mul_fives_mul_twos (n e : Nat) : n * Nat.pow 5 e * Nat.pow 2 e = n * Nat.pow 10 e :=
  calc
    n * 5 ^ e * 2 ^ e = n * (5 * 2) ^ e := by rw [Nat.mul_assoc, Nat.mul_pow]
    _ = n * 10 ^ e := rfl

theorem nearest_of_neg (digits : Nat) {e : Nat} (he : 0 < e) :
    (⟨digits, -(e : Int)⟩ : Decimal).nearest = nearest (digits * one) (Nat.pow 10 e) := by
  cases e with
  | zero => exact absurd he (Nat.lt_irrefl 0)
  | succ e => rfl

theorem nearest_units_fives (m : Magnitude) {e : Nat} (he : 0 < e) (hone : one = Nat.pow 2 e) :
    (⟨m.units * Nat.pow 5 e, -(e : Int)⟩ : Decimal).nearest = m := by
  rw [nearest_of_neg _ he, hone, mul_fives_mul_twos]
  exact nearest_units_mul m (Nat.pow_pos (by decide))

theorem one_eq : one = Nat.pow 2 1074 := by
  unfold one
  exact Eq.refl _

theorem nearest_expansion (m : Magnitude) : m.expansion.nearest = m := by
  have hone := one_eq
  have hpos : 0 < 1074 := by decide
  change (⟨m.units * Nat.pow 5 1074, -((1074 : Nat) : Int)⟩ : Decimal).nearest = m
  -- which power it is makes no difference any more, and it is too large to be written out
  generalize 1074 = e at hone hpos ⊢
  exact nearest_units_fives m hpos hone

/-- The shortest decimal of a magnitude denotes it. -/
theorem nearest_shortest (tie : Decimal.Tie) (m : Magnitude) : (m.shortest tie).nearest = m := by
  rw [shortest]
  cases hsearch : m.search tie m.leadingExponent 17 1 with
  | none => exact nearest_expansion m
  | some d => exact nearest_of_search hsearch

end Magnitude

end RecordQuery
