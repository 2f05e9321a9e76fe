import RecordQuery.Text.CaseProperty

/-!
# Lower case

The full lower-case mapping of a text.  Every character is mapped on its own, by the simple mapping,
with two exceptions: a capital I with a dot becomes an `i` and a combining dot, and a capital sigma
becomes a final sigma at the end of a word.

A sigma ends a word when a cased letter stands before it and none stands after it; characters that
are case-ignorable (an apostrophe, a combining mark) are skipped on both sides.
-/

namespace RecordQuery.Text

/-- The first character that is not case-ignorable is cased. -/
def startsCased (cs : List Char) : Bool :=
  match cs.dropWhile isCaseIgnorable with
  | [] => false
  | c :: _ => isCased c

def lowerChar (c : Char) : List Char :=
  if c.toNat < 0x80 then [c.toLower]
  else if c = 'İ' then ['i', '\u0307']
  else
    match lowerRuns.find? (·.covers c.toNat) with
    | some run => [Char.ofNat (run.lower c.toNat)]
    | none => [c]

/-- The lower case of a text that stands after `before`, of which the nearest character comes
first. -/
def lowercaseAfter (before : List Char) : List Char → List Char
  | [] => []
  | c :: cs =>
    (if c = 'Σ' then [if startsCased before && !startsCased cs then 'ς' else 'σ']
      else lowerChar c) ++ lowercaseAfter (c :: before) cs

def lowercase (cs : List Char) : List Char := lowercaseAfter [] cs

/-- A sigma is final at the end of a word only. -/
example : lowercase "ΟΔΟΣ ΣΑΣ Σ".toList = "οδος σας σ".toList := by decide +kernel

end RecordQuery.Text
