import RecordQuery.Json.Basic
import RecordQuery.Json.Document
import RecordQuery.Number.Reader

/-!
# Reading JSON

What a spelled document denotes.  Three things are refused although they are well spelled: an escape
of a surrogate without its partner, a number beyond the range of binary64, and a nesting of 128 or
more arrays and objects.

A numeral with a fraction or an exponent denotes a binary64 number, and so does an integer beyond
64 bits.  Such a number is not always the nearest one to the numeral: as many leading digits as
fit into 64 bits are taken as an integer, which is rounded, and the result is scaled by a power of
ten, which rounds again.
-/

namespace RecordQuery.Json

/-! ### Strings -/

/-- The code unit is the first half of a pair. -/
def isHighSurrogate (n : Nat) : Bool := 0xD800 ≤ n && n ≤ 0xDBFF

/-- The code unit is the second half of a pair. -/
def isLowSurrogate (n : Nat) : Bool := 0xDC00 ≤ n && n ≤ 0xDFFF

def charsOf : List Piece → Option (List Char)
  | [] => some []
  | .char c :: pieces => (charsOf pieces).map (c :: ·)
  | .unit high :: .unit low :: pieces =>
    if isHighSurrogate high then
      if isLowSurrogate low then
        (charsOf pieces).map (Char.ofNat (0x10000 + 0x400 * (high - 0xD800) + (low - 0xDC00)) :: ·)
      else none
    else if isLowSurrogate high then none
    else (charsOf (.unit low :: pieces)).map (Char.ofNat high :: ·)
  | .unit n :: pieces =>
    if isHighSurrogate n || isLowSurrogate n then none
    else (charsOf pieces).map (Char.ofNat n :: ·)

def stringOf (pieces : List Piece) : Option String := (charsOf pieces).map String.ofList

/-! ### Numbers -/

/-- The first natural number beyond 64 bits. -/
def wordLimit : Nat := 0x10000000000000000

/-- The digits appended to a number as long as it stays within 64 bits, and those left over. -/
def absorb (n : Nat) : List Char → Nat × List Char
  | [] => (n, [])
  | c :: cs =>
    let next := 10 * n + Decimal.digitValue c
    if next < wordLimit then absorb next cs else (n, c :: cs)

/-- The greatest exponent of a power of ten that is a finite number. -/
def greatestPower : Nat := 308

/-- A magnitude divided by the greatest power of ten `steps` times, then by another power. -/
def scaleDown (m : Magnitude) : (steps exponent : Nat) → Magnitude
  | 0, exponent => m.div (.ofDecimal 1 exponent)
  | steps + 1, exponent =>
    if m = .zero then m else scaleDown (m.div (.ofDecimal 1 greatestPower)) steps exponent

/-- A magnitude times a power of ten, if that is in range. -/
def scale? (m : Magnitude) : (exponent : Int) → Option Magnitude
  | .ofNat e =>
    if e ≤ greatestPower then
      let product := m.mul (.ofDecimal 1 e)
      if product.isFinite then some product else none
    else if m = .zero then some m
    else none
  | .negSucc e => some (scaleDown m (e / greatestPower) (e % greatestPower + 1))

def Numeral.writtenExponent (n : Numeral) : Int :=
  match n.exponent with
  | none => 0
  | some (true, digits) => -(Decimal.value digits : Int)
  | some (false, digits) => Decimal.value digits

/-- The binary64 number of a numeral: leading digits within 64 bits, scaled. -/
def Numeral.decimal? (n : Numeral) : Option Number :=
  let (whole, unread) := absorb 0 n.whole
  let (digits, unreadFraction) := absorb whole n.fraction
  let readFraction := n.fraction.length - unreadFraction.length
  let exponent : Int := unread.length - readFraction + n.writtenExponent
  (scale? (.ofNat digits) exponent).map (.real n.negative ·)

/-- The value of a numeral.  Integers from -2⁶³ to 2⁶⁴ - 1 stay integers, except for the negative
zero. -/
def Numeral.value? (n : Numeral) : Option Json :=
  let size := Decimal.value n.whole
  if n.fraction = [] ∧ n.exponent = none ∧
      (if n.negative then 0 < size ∧ 2 * size ≤ wordLimit else size < wordLimit) then
    some (.integer (if n.negative then -(size : Int) else size))
  else n.decimal?.map .decimal

/-! ### Documents -/

mutual

/-- The value of a document in which `room` more levels of nesting are admitted. -/
def Document.value? : (room : Nat) → Document → Option Json
  | _, .null => some .null
  | _, .bool b => some (.bool b)
  | _, .number n => n.value?
  | _, .string pieces => (stringOf pieces).map .string
  | 0, .array _ => none
  | room + 1, .array items => (itemValues? room items).map .array
  | 0, .object _ => none
  | room + 1, .object members => (memberValues? room [] members).map .object

def itemValues? : (room : Nat) → List Document → Option (List Json)
  | _, [] => some []
  | room, item :: items => do
    let value ← item.value? room
    return value :: (← itemValues? room items)

/-- The members of an object, after those in `before`. -/
def memberValues? :
    (room : Nat) → (before : List (String × Json)) → List (List Piece × Document) →
      Option (List (String × Json))
  | _, before, [] => some before
  | room, before, (name, value) :: members => do
    let name ← stringOf name
    let value ← value.value? room
    memberValues? room (FieldMap.insertEntry name value before) members

end

/-- The greatest number of arrays and objects around a value. -/
def greatestDepth : Nat := 127

def read? (text : String) : Option Json := do
  (← Document.read? text.toList).value? greatestDepth

end RecordQuery.Json
