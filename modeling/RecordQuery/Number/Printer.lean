import RecordQuery.Number.Shortest

/-!
# Writing numbers

A number is written with its shortest decimal, in one of two layouts.

* `Number.plain` is the text of a number in a filter: never an exponent, no fraction for an integral
  number, and a midpoint rounds up.
* `Number.json` is a JSON number: an integral number keeps the fraction `.0`, a decimal exponent of
  16 or more or below -5 is written as such, and a midpoint goes to the even digit.  What is not
  finite has no JSON number.
-/

namespace RecordQuery

def Decimal.text (n : Nat) : List Char := Nat.toDigits 10 n

namespace Decimal

/-- The text of a decimal without an exponent.  `fraction` is what an integral one ends in. -/
def positional (fraction : List Char) (d : Decimal) : List Char :=
  let digits := text d.digits
  match d.exponent with
  | .ofNat e => digits ++ List.replicate e '0' ++ fraction
  | .negSucc e =>
    let places := e + 1
    if places < digits.length then
      digits.take (digits.length - places) ++ '.' :: digits.drop (digits.length - places)
    else '0' :: '.' :: List.replicate (places - digits.length) '0' ++ digits

def leading (d : Decimal) : Int := d.exponent + (text d.digits).length - 1

/-- The text of a decimal with one digit before the point and an exponent that always has a sign. -/
def scientific (d : Decimal) : List Char :=
  let exponent := (if d.leading < 0 then '-' else '+') :: text d.leading.natAbs
  match text d.digits with
  | [] => []
  | [c] => c :: 'e' :: exponent
  | c :: cs => c :: '.' :: cs ++ 'e' :: exponent

end Decimal

namespace Number

def sign (negative : Bool) : List Char := if negative then ['-'] else []

/-- The text of a number without exponent. -/
def plain : Number → List Char
  | .nan => "NaN".toList
  | .real negative size =>
    sign negative ++
      if size = .infinity then "inf".toList
      else if size = .zero then ['0']
      else (size.shortest .up).positional []

/-- The JSON text of a number, `null` if it is not finite. -/
def json : Number → List Char
  | .nan => "null".toList
  | .real negative size =>
    if size = .infinity then "null".toList
    else
      sign negative ++
        if size = .zero then "0.0".toList
        else
          let d := size.shortest .toEven
          if d.leading < -5 ∨ 16 ≤ d.leading then d.scientific else d.positional ".0".toList

/-- The midpoint between two decimals of sixteen places goes up in one layout and to the even
digit in the other. -/
example : (ofText? "2.98023223876953125e-8".toList).map
      (fun n => (String.ofList n.plain, String.ofList n.json)) =
    some ("0.000000029802322387695313", "2.9802322387695312e-8") := by decide +kernel

/-- Where the exponent begins, and what an integral number ends in. -/
example : ["1e15", "1e16", "0.00001", "0.000001", "25", "-0"].map
      (fun text => (ofText? text.toList).map fun n => String.ofList n.json) =
    ["1000000000000000.0", "1e+16", "0.00001", "1e-6", "25.0", "-0.0"].map some := by
  decide +kernel

end Number

end RecordQuery
