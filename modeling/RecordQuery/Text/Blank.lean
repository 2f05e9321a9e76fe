/-!
# Blank characters

What separates words in every text this library reads: the characters with the White_Space
property.  The set is closed and small, so it is written out; note that it holds U+0085, U+00A0 and
U+3000 but neither U+200B nor U+FEFF, nor the separators U+001C to U+001F.

Texts are scanned as lists of characters.  `Text.trim` removes the blanks at both ends, and a text
is *blank* when nothing is left of it.
-/

namespace RecordQuery.Text

/-- The character has the White_Space property. -/
def isBlank (c : Char) : Bool :=
  let n := c.toNat
  (9 ≤ n && n ≤ 13) || n == 0x20 || n == 0x85 || n == 0xA0 || n == 0x1680 ||
    (0x2000 ≤ n && n ≤ 0x200A) || n == 0x2028 || n == 0x2029 || n == 0x202F || n == 0x205F ||
    n == 0x3000

def trimStart (cs : List Char) : List Char := cs.dropWhile isBlank

def trimEnd (cs : List Char) : List Char := (cs.reverse.dropWhile isBlank).reverse

def trim (cs : List Char) : List Char := trimEnd (trimStart cs)

def trimmed (s : String) : String := String.ofList (trim s.toList)

/-- A string of blanks, the empty one included. -/
def isBlankText (s : String) : Bool := s.toList.all isBlank

/-! ### Trimming -/

@[simp] theorem trimStart_nil : trimStart [] = [] := rfl

@[simp] theorem trimEnd_nil : trimEnd [] = [] := rfl

@[simp] theorem trim_nil : trim [] = [] := rfl

@[simp] theorem trimStart_cons_of_blank {c : Char} {cs : List Char} (h : isBlank c = true) :
    trimStart (c :: cs) = trimStart cs := by
  simp [trimStart, h]

@[simp] theorem trimStart_cons_of_visible {c : Char} {cs : List Char} (h : isBlank c = false) :
    trimStart (c :: cs) = c :: cs := by
  simp [trimStart, h]

@[simp] theorem trimEnd_concat_of_blank {c : Char} {cs : List Char} (h : isBlank c = true) :
    trimEnd (cs ++ [c]) = trimEnd cs := by
  simp [trimEnd, h]

@[simp] theorem trimEnd_concat_of_visible {c : Char} {cs : List Char} (h : isBlank c = false) :
    trimEnd (cs ++ [c]) = cs ++ [c] := by
  simp [trimEnd, h]

end RecordQuery.Text
