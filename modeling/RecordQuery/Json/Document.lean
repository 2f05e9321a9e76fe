/-!
# JSON texts

The grammar of JSON texts, on its own: a `Json.Document` is a text as it is spelled, with numerals
and escapes left as they are.  What a document denotes, and whether it denotes anything, is a second
question; a numeral beyond all numbers, an unpaired surrogate or a nesting of great depth is well
spelled.

The reader recurs over fuel.  Every second step takes a character off the text, so twice the length
of the text is enough.
-/

namespace RecordQuery.Json

/-- A numeral as it is spelled: the digits before and after the point, and the digits of the
exponent with a flag for a minus. -/
structure Numeral where
  negative : Bool
  whole : List Char
  fraction : List Char
  exponent : Option (Bool × List Char)

/-- A part of a string: a character, or the code unit of an escape `\uXXXX`. -/
inductive Piece where
  | char (c : Char)
  | unit (n : Nat)

/-- A JSON text as it is spelled. -/
inductive Document where
  | null
  | bool (b : Bool)
  | number (n : Numeral)
  | string (pieces : List Piece)
  | array (items : List Document)
  | object (members : List (List Piece × Document))

/-! ### Strings -/

def hexValue? (c : Char) : Option Nat :=
  if '0' ≤ c ∧ c ≤ '9' then some (c.toNat - '0'.toNat)
  else if 'a' ≤ c ∧ c ≤ 'f' then some (c.toNat - 'a'.toNat + 10)
  else if 'A' ≤ c ∧ c ≤ 'F' then some (c.toNat - 'A'.toNat + 10)
  else none

def unit? (a b c d : Char) : Option Nat := do
  return 4096 * (← hexValue? a) + 256 * (← hexValue? b) + 16 * (← hexValue? c) + (← hexValue? d)

def escape? : Char → Option Char
  | '"' => some '"'
  | '\\' => some '\\'
  | '/' => some '/'
  | 'b' => some '\x08'
  | 'f' => some '\x0c'
  | 'n' => some '\n'
  | 'r' => some '\r'
  | 't' => some '\t'
  | _ => none

/-- The rest of a string after its opening quote, and what follows the closing one. -/
def readString : List Char → Option (List Piece × List Char)
  | [] => none
  | c :: cs =>
    if c = '"' then some ([], cs)
    else if c = '\\' then
      match cs with
      | 'u' :: h₁ :: h₂ :: h₃ :: h₄ :: cs => do
        let n ← unit? h₁ h₂ h₃ h₄
        let (pieces, rest) ← readString cs
        return (.unit n :: pieces, rest)
      | e :: cs => do
        let c ← escape? e
        let (pieces, rest) ← readString cs
        return (.char c :: pieces, rest)
      | [] => none
    else if c.toNat < 0x20 then none
    else do
      let (pieces, rest) ← readString cs
      return (.char c :: pieces, rest)

/-! ### Numerals -/

/-- The digits after the point, at least one, and what follows them; none if there is no point. -/
def readFraction : List Char → Option (List Char × List Char)
  | '.' :: cs =>
    let digits := cs.takeWhile Char.isDigit
    if digits = [] then none else some (digits, cs.dropWhile Char.isDigit)
  | cs => some ([], cs)

/-- The exponent with at least one digit, and what follows it; nothing if there is none. -/
def readExponent : List Char → Option (Option (Bool × List Char) × List Char)
  | [] => some (none, [])
  | e :: cs =>
    if e = 'e' ∨ e = 'E' then
      let (negative, cs) :=
        match cs with
        | '-' :: cs => (true, cs)
        | '+' :: cs => (false, cs)
        | cs => (false, cs)
      let digits := cs.takeWhile Char.isDigit
      if digits = [] then none
      else some (some (negative, digits), cs.dropWhile Char.isDigit)
    else some (none, e :: cs)

/-- A numeral and what follows it.  A whole part of several digits does not start with a zero. -/
def readNumeral (cs : List Char) : Option (Numeral × List Char) := do
  let (negative, cs) :=
    match cs with
    | '-' :: cs => (true, cs)
    | cs => (false, cs)
  let whole := cs.takeWhile Char.isDigit
  if whole = [] ∨ (1 < whole.length ∧ whole.head? = some '0') then none
  let (fraction, cs) ← readFraction (cs.dropWhile Char.isDigit)
  let (exponent, cs) ← readExponent cs
  return (⟨negative, whole, fraction, exponent⟩, cs)

/-! ### Values -/

/-- The four characters that may stand between the parts of a text. -/
def isSpace (c : Char) : Bool := c == ' ' || c == '\t' || c == '\n' || c == '\r'

def skipSpace (cs : List Char) : List Char := cs.dropWhile isSpace

/-- What follows the given word, if the text starts with it. -/
def afterWord? (word : String) (cs : List Char) : Option (List Char) :=
  if word.toList.isPrefixOf cs then some (cs.drop word.toList.length) else none

/-- A value without parts, and what follows it. -/
def readScalar (cs : List Char) : Option (Document × List Char) :=
  match cs with
  | '"' :: cs => (readString cs).map fun (pieces, rest) => (.string pieces, rest)
  | cs =>
    ((afterWord? "null" cs).map fun rest => (.null, rest)).or <|
    ((afterWord? "true" cs).map fun rest => (.bool true, rest)).or <|
    ((afterWord? "false" cs).map fun rest => (.bool false, rest)).or <|
    (readNumeral cs).map fun (n, rest) => (.number n, rest)

mutual

/-- A value after any space, and what follows it. -/
def readValue : (fuel : Nat) → List Char → Option (Document × List Char)
  | 0, _ => none
  | fuel + 1, cs =>
    match skipSpace cs with
    | '[' :: cs =>
      match skipSpace cs with
      | ']' :: rest => some (.array [], rest)
      | cs => (readItems fuel cs).map fun (items, rest) => (.array items, rest)
    | '{' :: cs =>
      match skipSpace cs with
      | '}' :: rest => some (.object [], rest)
      | cs => (readMembers fuel cs).map fun (members, rest) => (.object members, rest)
    | cs => readScalar cs

/-- The items of an array that has one at least, and what follows the closing bracket. -/
def readItems : (fuel : Nat) → List Char → Option (List Document × List Char)
  | 0, _ => none
  | fuel + 1, cs => do
    let (item, cs) ← readValue fuel cs
    match skipSpace cs with
    | ']' :: rest => return ([item], rest)
    | ',' :: cs => do
      let (items, rest) ← readItems fuel cs
      return (item :: items, rest)
    | _ => none

/-- The members of an object that has one at least, and what follows the closing brace. -/
def readMembers : (fuel : Nat) → List Char → Option (List (List Piece × Document) × List Char)
  | 0, _ => none
  | fuel + 1, cs =>
    match skipSpace cs with
    | '"' :: cs => do
      let (name, cs) ← readString cs
      match skipSpace cs with
      | ':' :: cs => do
        let (value, cs) ← readValue fuel cs
        match skipSpace cs with
        | '}' :: rest => return ([(name, value)], rest)
        | ',' :: cs => do
          let (members, rest) ← readMembers fuel cs
          return ((name, value) :: members, rest)
        | _ => none
      | _ => none
    | _ => none

end

def Document.read? (cs : List Char) : Option Document := do
  let (document, rest) ← readValue (2 * cs.length + 2) cs
  if skipSpace rest = [] then return document else none

end RecordQuery.Json
