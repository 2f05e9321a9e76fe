import RecordQuery.Number.Basic

/-!
# Reading decimal numerals

A numeral is an optional sign and digits with an optional point, and it denotes the number nearest
to the decimal fraction that it spells.  `isPlainDecimal` is the form that a filter admits;
`Number.ofText?` also reads an exponent and the names of the values that have no digits.
-/

namespace RecordQuery

namespace Decimal

def digitValue (c : Char) : Nat := c.toNat - '0'.toNat

def value (digits : List Char) : Nat := digits.foldl (fun n c => 10 * n + digitValue c) 0

def spanDigits (cs : List Char) : List Char × List Char :=
  (cs.takeWhile Char.isDigit, cs.dropWhile Char.isDigit)

/-- The natural number that the whole text spells, if it is made of digits only. -/
def natural? (cs : List Char) : Option Nat :=
  if cs ≠ [] ∧ cs.all Char.isDigit then some (value cs) else none

/-- The sign in front of a numeral, `true` for minus, and what follows it. -/
def spanSign : List Char → Bool × List Char
  | '-' :: cs => (true, cs)
  | '+' :: cs => (false, cs)
  | cs => (false, cs)

/-- The digits before and after the point, and what follows them.  The point is optional, and so are
the digits on one side of it. -/
def spanMantissa? (cs : List Char) : Option (List Char × List Char × List Char) :=
  let (whole, rest) := spanDigits cs
  match rest with
  | '.' :: rest =>
    let (fraction, rest) := spanDigits rest
    if whole = [] ∧ fraction = [] then none else some (whole, fraction, rest)
  | rest => if whole = [] then none else some (whole, [], rest)

/-- The exponent that a text consists of; the empty text stands for the exponent zero. -/
def exponent? : List Char → Option Int
  | [] => some 0
  | e :: cs =>
    if e = 'e' ∨ e = 'E' then
      let (negative, digits) := spanSign cs
      (natural? digits).map fun n => if negative then -(n : Int) else n
    else none

/-- The magnitude that the digits around the point spell, scaled by a power of ten.

Exponents are first cut to a range that depends on the number of digits.  Outside it the value
is beyond the largest number or below the half of the smallest one, so the cut does not show. -/
def magnitude (whole fraction : List Char) (exponent : Int) : Magnitude :=
  let high : Int := 400 + fraction.length
  let low : Int := -(400 + whole.length)
  .ofDecimal (value (whole ++ fraction)) (max low (min high exponent) - fraction.length)

end Decimal

/-- The text is an optional sign and digits with an optional point (the engine's
`decimal_pattern`). -/
def isPlainDecimal (cs : List Char) : Bool :=
  match Decimal.spanMantissa? (Decimal.spanSign cs).2 with
  | some (_, _, rest) => rest.isEmpty
  | none => false

/-- The number that a text spells: a decimal numeral with an optional exponent, or the name of
infinity or of `nan` in any case of letters, all with an optional sign. -/
def Number.ofText? (cs : List Char) : Option Number :=
  let (negative, body) := Decimal.spanSign cs
  let name := String.ofList (body.map Char.toLower)
  if name = "nan" then some .nan
  else if name = "inf" ∨ name = "infinity" then some (.real negative .infinity)
  else do
    let (whole, fraction, rest) ← Decimal.spanMantissa? body
    let exponent ← Decimal.exponent? rest
    return .real negative (Decimal.magnitude whole fraction exponent)

end RecordQuery
