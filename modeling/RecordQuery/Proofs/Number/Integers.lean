import RecordQuery.Proofs.Number.Nearest

/-!
# Integers as numbers

The value of a finite number is an integer in units of 2⁻¹⁰⁷⁴, so integers and numbers are compared
exactly.  An integer is turned into a number nearest to it, and it is a number itself if all of its
binary digits but the first 53 are zeros (`Number.exists_units?_eq_iff`).
-/

namespace RecordQuery.Number

/-- The value in units of 2⁻¹⁰⁷⁴, if the number is finite. -/
def units? : Number → Option Int
  | .nan => none
  | .real negative size =>
    if size.isFinite then some (if negative then -(size.units : Int) else size.units) else none

/-- The last bit of the fraction is zero. -/
def isEven : Number → Bool
  | .nan => false
  | .real _ size => size.code % 2 = 0

/-- The number is what a value in units is rounded to: any other value of a number is farther away,
or as far away while the number is even. -/
def IsNearest (x : Number) (target : Int) : Prop :=
  ∃ v, x.units? = some v ∧ ∀ (y : Number) (w : Int), y.units? = some w → w ≠ v →
    (v - target).natAbs < (w - target).natAbs ∨
      (v - target).natAbs = (w - target).natAbs ∧ x.isEven = true

theorem units?_real {negative : Bool} {size : Magnitude} {v : Int}
    (h : (real negative size).units? = some v) : v.natAbs = size.units := by
  simp only [units?, Option.ite_none_right_eq_some, Option.some.injEq] at h
  rw [← h.2]
  cases negative
  · rw [if_neg (by decide), Int.natAbs_natCast]
  · rw [if_pos rfl, Int.natAbs_neg, Int.natAbs_natCast]

theorem exists_of_units?_eq_some {x : Number} {v : Int} (h : x.units? = some v) :
    ∃ size : Magnitude, v.natAbs = size.units := by
  cases x with
  | nan => exact absurd h (by simp [units?])
  | real negative size => exact ⟨size, units?_real h⟩

theorem isFinite_iff {x : Number} : x.isFinite = true ↔ ∃ v, x.units? = some v := by
  cases x with
  | nan => simp [isFinite, units?]
  | real negative size =>
    constructor
    · intro h
      exact ⟨_, if_pos h⟩
    · rintro ⟨v, h⟩
      simp only [units?, Option.ite_none_right_eq_some] at h
      exact h.1

/-- A number is nearest to its own value. -/
theorem isNearest_self {x : Number} {v : Int} (h : x.units? = some v) : x.IsNearest v := by
  refine ⟨v, h, ?_⟩
  intro y w _ hne
  left
  omega

/-- What is nearest to a value that some number has is that value. -/
theorem IsNearest.units?_eq_some_iff {x : Number} {target : Int} (h : x.IsNearest target) :
    x.units? = some target ↔ ∃ y : Number, y.units? = some target := by
  constructor
  · intro hx
    exact ⟨x, hx⟩
  · rintro ⟨y, hy⟩
    obtain ⟨v, hv, hothers⟩ := h
    by_cases hne : target = v
    · rw [hv, hne]
    · have hfar := hothers y target hy hne
      omega

theorem place?_eq_of_units?_eq_some {x y : Number} {v : Int} (hx : x.units? = some v)
    (hy : y.units? = some v) : x.place? = y.place? := by
  cases x with
  | nan => exact absurd hx (by simp [units?])
  | real negative size =>
    cases y with
    | nan => exact absurd hy (by simp [units?])
    | real negative' size' =>
      have hunits : size.units = size'.units := by rw [← units?_real hx, units?_real hy]
      obtain rfl : size = size' := Magnitude.units_injective hunits
      by_cases hsign : negative = negative'
      · rw [hsign]
      · -- What has a value with both signs is zero.
        have hzero : size.units = 0 := by
          simp only [units?, Option.ite_none_right_eq_some, Option.some.injEq] at hx hy
          have hvalues := hx.2.trans hy.2.symm
          generalize size.units = n at hvalues ⊢
          cases negative <;> cases negative' <;> simp at hsign hvalues <;> omega
        obtain rfl : size = .zero :=
          Magnitude.units_injective (hzero.trans Magnitude.units_zero.symm)
        cases negative <;> cases negative' <;> rfl

/-- Numbers of one value are equal: they are the same but for the sign of a zero. -/
theorem equals_of_units?_eq_some {x y : Number} {v : Int} (hx : x.units? = some v)
    (hy : y.units? = some v) : x.equals y = true := by
  have hself : y.equals y = true := by
    rw [equals_self_iff]
    rintro rfl
    exact absurd hy (by simp [units?])
  rw [equals, compare?, place?_eq_of_units?_eq_some hx hy]
  exact hself

/-! ### Integers -/

theorem eq_of_integer? {x : Number} {i v : Int} (hinteger : x.integer? = some i)
    (hvalue : x.units? = some v) : i * Magnitude.one = v := by
  cases x with
  | nan => exact absurd hvalue (by simp [units?])
  | real negative size =>
    simp only [units?, Option.ite_none_right_eq_some, Option.some.injEq] at hvalue
    simp only [integer?, Option.ite_none_right_eq_some, Option.some.injEq] at hinteger
    obtain ⟨⟨hwhole, -⟩, rfl⟩ := hinteger
    obtain ⟨-, rfl⟩ := hvalue
    have hunits : ((size.units / Magnitude.one : Nat) : Int) * Magnitude.one = size.units := by
      rw [← Nat.cast_mul, Nat.div_mul_cancel (Nat.dvd_of_mod_eq_zero hwhole)]
    cases negative
    · exact hunits
    · rw [if_pos rfl, if_pos rfl, Int.neg_mul, hunits]

/-- The binary places behind the point that a unit takes. -/
def unitPlaces : Nat := 1074

theorem one_eq : Magnitude.one = 2 ^ unitPlaces := by decide +kernel

theorem mul_two_pow_lt {n a b e : Nat} (hn : n ≤ 2 ^ a) (he : a + b < e) : n * 2 ^ b < 2 ^ e :=
  calc n * 2 ^ b
      ≤ 2 ^ a * 2 ^ b := Nat.mul_le_mul_right _ hn
    _ = 2 ^ (a + b) := (Nat.pow_add 2 a b).symm
    _ < 2 ^ e := Nat.pow_lt_pow_right (by decide) he

theorem isFinite_ofInt {i : Int} (h : i.natAbs ≤ 2 ^ 64) : (ofInt i).isFinite = true := by
  apply Magnitude.isFinite_nearest Nat.one_pos
  rw [one_eq, Nat.one_mul]
  exact mul_two_pow_lt h (by decide)

theorem units?_ofInt {i : Int} (h : (ofInt i).isFinite = true) :
    (ofInt i).units? = some (if i < 0 then -((Magnitude.ofNat i.natAbs).units : Int)
      else (Magnitude.ofNat i.natAbs).units) := by
  have hfinite : (Magnitude.ofNat i.natAbs).isFinite = true := h
  by_cases hneg : i < 0
  · simp only [ofInt, units?, hfinite, hneg, decide_true, if_true]
  · simp only [ofInt, units?, hfinite, hneg, decide_false, if_true, if_false, Bool.false_eq_true]

theorem mul_one_eq (i : Int) : i * Magnitude.one =
    if i < 0 then -((i.natAbs * Magnitude.one : Nat) : Int)
    else ((i.natAbs * Magnitude.one : Nat) : Int) := by
  by_cases hneg : i < 0
  · rw [if_pos hneg, Nat.cast_mul, Int.ofNat_natAbs_of_nonpos (Int.le_of_lt hneg)]
    ring
  · rw [if_neg hneg, Nat.cast_mul, Int.natAbs_of_nonneg (Int.not_lt.1 hneg)]

/-- The nearest number to an integer has its sign, so what is nearest among the magnitudes is nearest
among all numbers. -/
theorem isNearest_ofInt {i : Int} (h : (ofInt i).isFinite = true) :
    (ofInt i).IsNearest (i * Magnitude.one) := by
  refine ⟨_, units?_ofInt h, ?_⟩
  intro y w hy hne
  obtain ⟨size, hsize⟩ := exists_of_units?_eq_some hy
  have hother := Magnitude.ofNat_nearer (m := size) h
  -- A value of the other sign is farther away than zero.
  have hzero := Magnitude.ofNat_nearer (m := .zero) h
  have heven : (ofInt i).isEven = true ↔ (Magnitude.ofNat i.natAbs).code % 2 = 0 :=
    decide_eq_true_iff
  rw [mul_one_eq, heven]
  simp only [Magnitude.gap, Magnitude.units_zero] at hother hzero
  generalize i.natAbs * Magnitude.one = target at *
  by_cases hneg : i < 0
  · rw [if_pos hneg, if_pos hneg]
    rw [if_pos hneg] at hne
    omega
  · rw [if_neg hneg, if_neg hneg]
    rw [if_neg hneg] at hne
    omega

theorem natAbs_le_of_integer? {x : Number} {i : Int} (h : x.integer? = some i) :
    i.natAbs ≤ exactLimit := by
  cases x with
  | nan => exact absurd h (by simp [integer?])
  | real negative size =>
    simp only [integer?, Option.ite_none_right_eq_some, Option.some.injEq] at h
    obtain ⟨⟨-, hlimit⟩, rfl⟩ := h
    cases negative
    · rw [if_neg (by decide), Int.natAbs_natCast]
      exact hlimit
    · rw [if_pos rfl, Int.natAbs_neg, Int.natAbs_natCast]
      exact hlimit

/-- The integer that a number is written as is read as an equal number. -/
theorem equals_ofInt_of_integer? {x : Number} {i v : Int} (hinteger : x.integer? = some i)
    (hvalue : x.units? = some v) : (ofInt i).equals x = true := by
  have hrange : i.natAbs ≤ 2 ^ 64 :=
    Nat.le_trans (natAbs_le_of_integer? hinteger) (by decide)
  have hnearest := isNearest_ofInt (isFinite_ofInt hrange)
  rw [eq_of_integer? hinteger hvalue] at hnearest
  exact equals_of_units?_eq_some (hnearest.units?_eq_some_iff.2 ⟨x, hvalue⟩) hvalue

/-! ### Integers that are numbers -/

/-- The integer has at most 53 binary digits, apart from zeros at its end. -/
def FitsFraction (i : Int) : Prop := ∃ s k, s < 2 ^ 53 ∧ i.natAbs = s * 2 ^ k

theorem fitsFraction_of_natAbs_le {i : Int} (h : i.natAbs ≤ 2 ^ 53) : FitsFraction i := by
  rcases Nat.lt_or_eq_of_le h with hlt | heq
  · exact ⟨i.natAbs, 0, hlt, by rw [Nat.pow_zero, Nat.mul_one]⟩
  · exact ⟨1, 53, by decide, by rw [heq, Nat.one_mul]⟩

theorem fitsFraction_of_units {i : Int} {m : Magnitude}
    (h : m.units = i.natAbs * Magnitude.one) : FitsFraction i := by
  rw [Magnitude.units_eq, one_eq] at h
  have hsteps := Magnitude.steps_lt m
  rcases Nat.le_total unitPlaces m.binade with hle | hle
  · refine ⟨m.steps, m.binade - unitPlaces, hsteps, ?_⟩
    rw [← Nat.sub_add_cancel hle, Nat.pow_add, ← Nat.mul_assoc] at h
    exact (Nat.eq_of_mul_eq_mul_right (Nat.two_pow_pos unitPlaces) h).symm
  · -- The steps are a multiple of the integer, so the integer is small.
    rw [← Nat.sub_add_cancel hle, Nat.pow_add, ← Nat.mul_assoc] at h
    have hmultiple := Nat.eq_of_mul_eq_mul_right (Nat.two_pow_pos m.binade) h
    have hle := Nat.le_mul_of_pos_right i.natAbs (Nat.two_pow_pos (unitPlaces - m.binade))
    exact fitsFraction_of_natAbs_le (by omega)

theorem FitsFraction.units_ofNat {i : Int} (h : FitsFraction i) (hrange : i.natAbs ≤ 2 ^ 64) :
    (Magnitude.ofNat i.natAbs).units = i.natAbs * Magnitude.one := by
  obtain ⟨s, k, hs, hi⟩ := h
  have hfinite : (Magnitude.ofNat i.natAbs).isFinite = true := isFinite_ofInt hrange
  have hvalue : i.natAbs * Magnitude.one = s * 2 ^ (k + unitPlaces) := by
    rw [hi, one_eq, Nat.mul_assoc, ← Nat.pow_add]
  rw [Magnitude.ofNat, hvalue] at hfinite ⊢
  exact Magnitude.units_nearest_mul_two_pow hs hfinite

/-- An integer of 64 bits is a number exactly if it fits. -/
theorem exists_units?_eq_iff {i : Int} (hrange : i.natAbs ≤ 2 ^ 64) :
    (∃ x : Number, x.units? = some (i * Magnitude.one)) ↔ FitsFraction i := by
  constructor
  · rintro ⟨x, hx⟩
    obtain ⟨size, hsize⟩ := exists_of_units?_eq_some hx
    rw [Int.natAbs_mul, Int.natAbs_natCast] at hsize
    exact fitsFraction_of_units hsize.symm
  · intro h
    refine ⟨ofInt i, ?_⟩
    rw [units?_ofInt (isFinite_ofInt hrange), h.units_ofNat hrange, mul_one_eq]

end RecordQuery.Number
