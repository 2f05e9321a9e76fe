import RecordQuery.Number.Reader

/-!
# The shortest decimal of a number

The fewest significant digits that still denote a given number, and of the decimals with that many
digits the one nearest to it.  The search goes through the numbers of digits in turn and tries the
two decimals on either side of the number; a candidate is accepted only after it has been read back,
so the result denotes the number by construction.  Seventeen digits are always enough; should the
search end without a hit, the exact decimal expansion stands in.
-/

namespace RecordQuery

/-- A positive decimal `digits · 10 ^ exponent`. -/
structure Decimal where
  digits : Nat
  exponent : Int
deriving DecidableEq

namespace Decimal

def nearest (d : Decimal) : Magnitude := .ofDecimal d.digits d.exponent

/-- The same decimal without trailing zeros among its digits, as far as `fuel` reaches. -/
def stripZeros : (fuel : Nat) → Decimal → Decimal
  | 0, d => d
  | fuel + 1, d =>
    if d.digits % 10 = 0 then stripZeros fuel ⟨d.digits / 10, d.exponent + 1⟩ else d

/-- What to take when a number lies in the middle between two equally short decimals. -/
inductive Tie where
  /-- The decimal with the even last digit. -/
  | toEven
  /-- The greater decimal. -/
  | up
deriving DecidableEq

end Decimal

namespace Magnitude

/-- `10 ^ exponent` is at most the magnitude. -/
def reaches (m : Magnitude) : (exponent : Int) → Bool
  | .ofNat e => Nat.pow 10 e * one ≤ m.units
  | .negSucc e => one ≤ m.units * Nat.pow 10 (e + 1)

/-- The exponent of the leading decimal digit of a magnitude other than zero.  The estimate from the
binary exponent is off by one at most. -/
def leadingExponent (m : Magnitude) : Int :=
  let estimate := ((m.units.log2 : Int) - 1074) * 30103 / 100000
  if m.reaches (estimate + 1) then estimate + 1
  else if m.reaches estimate then estimate
  else estimate - 1

/-- The magnitude as a fraction, in units of `10 ^ exponent`. -/
def ratio (m : Magnitude) : (exponent : Int) → Nat × Nat
  | .ofNat e => (m.units, one * Nat.pow 10 e)
  | .negSucc e => (m.units * Nat.pow 10 (e + 1), one)

/-- The decimal in units of `10 ^ exponent` that denotes the magnitude: of the two neighbours the
nearer one, if one of them reads back. -/
def onGrid? (tie : Decimal.Tie) (m : Magnitude) (exponent : Int) : Option Decimal :=
  let (num, den) := m.ratio exponent
  let lower := num / den
  let reads (digits : Nat) : Option Decimal :=
    let d := Decimal.stripZeros 20 ⟨digits, exponent⟩
    if d.nearest = m then some d else none
  let twice := 2 * (num % den)
  let upperFirst :=
    den < twice || (den == twice && (tie == .up || lower % 2 == 1))
  if upperFirst then (reads (lower + 1)).or (reads lower) else (reads lower).or (reads (lower + 1))

/-- The first hit among the grids with `count`, `count + 1`, … significant digits. -/
def search (tie : Decimal.Tie) (m : Magnitude) (leading : Int) : (fuel count : Nat) → Option Decimal
  | 0, _ => none
  | fuel + 1, count =>
    (m.onGrid? tie (leading - (count - 1 : Nat))).or (search tie m leading fuel (count + 1))

/-- The decimal expansion of a magnitude, in full. -/
def expansion (m : Magnitude) : Decimal := ⟨m.units * Nat.pow 5 1074, -1074⟩

/-- The shortest decimal that denotes a finite magnitude other than zero. -/
def shortest (tie : Decimal.Tie) (m : Magnitude) : Decimal :=
  (m.search tie m.leadingExponent 17 1).getD m.expansion

/-! ### The shortest decimal reads back -/

theorem nearest_of_onGrid? {tie : Decimal.Tie} {m : Magnitude} {e : Int} {d : Decimal}
    (h : m.onGrid? tie e = some d) : d.nearest = m := by
  simp only [onGrid?] at h
  split at h <;> rw [Option.or_eq_some_iff] at h <;> grind

theorem nearest_of_search {tie : Decimal.Tie} {m : Magnitude} {leading : Int} {fuel count : Nat}
    {d : Decimal} (h : m.search tie leading fuel count = some d) : d.nearest = m := by
  induction fuel generalizing count with
  | zero => simp [search] at h
  | succ fuel ih =>
    rw [search, Option.or_eq_some_iff] at h
    rcases h with h | ⟨_, h⟩
    · exact nearest_of_onGrid? h
    · exact ih h

end Magnitude

end RecordQuery
