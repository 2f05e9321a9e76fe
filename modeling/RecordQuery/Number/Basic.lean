/-!
# Numbers

The numbers of records and filters are the binary64 numbers.  They are kept as data that proofs
can see: a number is `nan`, or a sign and a *magnitude*, and a magnitude is its place in the
ascending list of all magnitudes from zero to infinity.  The place is the number's bit pattern
without the sign bit, so magnitudes are ordered as their codes are, and the two zeros differ by
their sign only.

A finite magnitude is a whole multiple of 2⁻¹⁰⁷⁴ (`Magnitude.units`), which turns every question
about the value of a number into one about natural numbers.
-/

namespace RecordQuery

/-- The place of the infinite magnitude among the magnitudes, the last one. -/
def infinityCode : Nat := 0x7FF0000000000000

/-- A nonnegative binary64 number, infinity included, by its place in ascending order. -/
structure Magnitude where
  /-- Exponent field and fraction field, read as one binary numeral. -/
  code : Nat
  code_le : code ≤ infinityCode
deriving DecidableEq

namespace Magnitude

def zero : Magnitude := ⟨0, Nat.zero_le _⟩

def infinity : Magnitude := ⟨infinityCode, Nat.le_refl _⟩

instance : Inhabited Magnitude := ⟨zero⟩

def isFinite (m : Magnitude) : Bool := m.code < infinityCode

/-- How many units of 2⁻¹⁰⁷⁴ make up one. -/
def one : Nat := Nat.pow 2 1074

/-- The number of magnitudes in a binade, between one power of two and the next. -/
def binadeSize : Nat := 0x10000000000000

/-- The value in units of 2⁻¹⁰⁷⁴.  Within a binade the fraction, with its leading bit, counts
steps of the binade's size; the subnormal numbers and the first binade share the step of one unit.
-/
def units (m : Magnitude) : Nat :=
  let binade := m.code / binadeSize - 1
  (m.code - binade * binadeSize) * Nat.pow 2 binade

/-- The magnitude with the given place, or infinity if there is none. -/
def ofCode (code : Nat) : Magnitude := ⟨min code infinityCode, Nat.min_le_right _ _⟩

/-- The natural number nearest to `num / den`; of two equally near ones the even one. -/
def roundEven (num den : Nat) : Nat :=
  let quotient := num / den
  let twice := 2 * (num % den)
  if twice < den then quotient
  else if den < twice then quotient + 1
  else quotient + quotient % 2

/-- The magnitude nearest to `num / den` units; of two equally near ones the one with the even
fraction, and infinity from the midpoint beyond the largest finite magnitude on. -/
def nearest (num den : Nat) : Magnitude :=
  let binade := (num / den).log2 - 52
  ofCode (binade * binadeSize + roundEven num (den * Nat.pow 2 binade))

def ofNat (n : Nat) : Magnitude := nearest (n * one) 1

/-- The magnitude nearest to `digits · 10 ^ exponent`. -/
def ofDecimal (digits : Nat) : (exponent : Int) → Magnitude
  | .ofNat e => nearest (digits * Nat.pow 10 e * one) 1
  | .negSucc e => nearest (digits * one) (Nat.pow 10 (e + 1))

/-- The rounded product of two finite magnitudes. -/
def mul (a b : Magnitude) : Magnitude := nearest (a.units * b.units) one

/-- The rounded quotient of two finite magnitudes, the second not zero. -/
def div (a b : Magnitude) : Magnitude := nearest (a.units * one) b.units

end Magnitude

/-- A binary64 number.  All that is not a number counts as one value. -/
inductive Number where
  | nan
  | real (negative : Bool) (size : Magnitude)
deriving DecidableEq

namespace Number

instance : Inhabited Number := ⟨.real false .zero⟩

/-- The number is neither infinite nor `nan`. -/
def isFinite : Number → Bool
  | .nan => false
  | .real _ size => size.isFinite

/-- The number nearest to an integer; zero is positive. -/
def ofInt (i : Int) : Number := .real (i < 0) (.ofNat i.natAbs)

/-- The place of a number on the number line, where the two zeros coincide; `nan` has none. -/
def place? : Number → Option Int
  | .nan => none
  | .real negative size => some (if negative then -(size.code : Int) else size.code)

/-- The numerical order.  Nothing compares with `nan`. -/
def compare? (a b : Number) : Option Ordering := do
  return compare (← a.place?) (← b.place?)

/-- Numerical equality: the two zeros are equal and `nan` equals nothing. -/
def equals (a b : Number) : Bool := a.compare? b == some .eq

/-- The largest integer up to which every integer is a number. -/
def exactLimit : Nat := 0x20000000000000

/-- The integer that the number is, if it is one of at most `exactLimit` in size. -/
def integer? : Number → Option Int
  | .nan => none
  | .real negative size =>
    let whole := size.units / Magnitude.one
    if size.units % Magnitude.one = 0 ∧ whole ≤ exactLimit then
      some (if negative then -(whole : Int) else whole)
    else none

/-- Infinity, with either sign, and `nan` are the numbers that are not finite. -/
theorem eq_of_not_isFinite {n : Number} (h : n.isFinite = false) :
    n = .nan ∨ ∃ negative, n = .real negative .infinity := by
  cases n with
  | nan => exact Or.inl rfl
  | real negative size =>
    right
    obtain ⟨code, hle⟩ := size
    have hge : infinityCode ≤ code := Nat.not_lt.1 (of_decide_eq_false h)
    obtain rfl : code = infinityCode := Nat.le_antisymm hle hge
    exact ⟨negative, rfl⟩

/-! ### Order -/

/-- A number equals itself unless it is `nan`. -/
theorem equals_self_iff {a : Number} : a.equals a = true ↔ a ≠ .nan := by
  cases a <;> simp [equals, compare?, place?]

/-- Two numbers are comparable exactly when neither is `nan`. -/
theorem compare?_eq_none_iff {a b : Number} : a.compare? b = none ↔ a = .nan ∨ b = .nan := by
  cases a <;> cases b <;> simp [compare?, place?]

end Number

end RecordQuery
