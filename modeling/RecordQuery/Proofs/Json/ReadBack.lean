import RecordQuery.Json.Printer
import RecordQuery.Json.Reader
import RecordQuery.Proofs.FieldMap

/-!
# Reading back written JSON

A string is read back from its quotation, whatever characters it has, and an object whose members
are strings with distinct names is read back from its text (`Json.read?_text_ofStrings`).  Such
objects are what the lines of the log and the reports on failures are.
-/

namespace RecordQuery.Json

/-! ### Strings -/

/-- How a character is spelled in a quotation: as itself, by an escape with a letter, or by the
escape of its code unit. -/
def pieceOf (c : Char) : Piece :=
  if c ∈ ['\x08', '\x0c', '\n', '\r', '\t'] ∨ 0x20 ≤ c.toNat then .char c else .unit c.toNat

def piecesOf (s : String) : List Piece := s.toList.map pieceOf

theorem escaped_cases (c : Char) :
    (∃ letter, escape? letter = some c ∧ escaped c = ['\\', letter] ∧ pieceOf c = .char c) ∨
    (c.toNat < 0x20 ∧ pieceOf c = .unit c.toNat ∧ escaped c =
      ['\\', 'u', '0', '0', hexDigit (c.toNat / 16), hexDigit (c.toNat % 16)]) ∨
    (c ≠ '"' ∧ c ≠ '\\' ∧ 0x20 ≤ c.toNat ∧ escaped c = [c] ∧ pieceOf c = .char c) := by
  by_cases hletter : c ∈ ['"', '\\', '\x08', '\x0c', '\n', '\r', '\t']
  · left
    simp only [List.mem_cons, List.not_mem_nil, or_false] at hletter
    rcases hletter with rfl | rfl | rfl | rfl | rfl | rfl | rfl
    all_goals exact ⟨_, rfl, rfl, rfl⟩
  · right
    simp only [List.mem_cons, List.not_mem_nil, or_false, not_or] at hletter
    by_cases hcontrol : c.toNat < 0x20
    · left
      refine ⟨hcontrol, if_neg (by simp [hletter, hcontrol]), ?_⟩
      simp [escaped, hletter, hcontrol]
    · right
      have hvisible := Nat.not_lt.1 hcontrol
      refine ⟨hletter.1, hletter.2.1, hvisible, ?_, if_pos (Or.inr hvisible)⟩
      simp [escaped, hletter, hcontrol]

section ReadString

variable {cs rest : List Char} {pieces : List Piece}

theorem readString_quote (rest : List Char) : readString ('"' :: rest) = some ([], rest) := by
  rw [readString.eq_def]
  simp

theorem readString_letter {letter c : Char} (hletter : escape? letter = some c)
    (h : readString cs = some (pieces, rest)) :
    readString ('\\' :: letter :: cs) = some (.char c :: pieces, rest) := by
  have hunit : letter ≠ 'u' := by
    rintro rfl
    exact absurd hletter (by simp [escape?])
  rw [readString.eq_def]
  simp [hunit, hletter, h]

theorem readString_unit {a b c d : Char} {n : Nat} (hn : unit? a b c d = some n)
    (h : readString cs = some (pieces, rest)) :
    readString ('\\' :: 'u' :: a :: b :: c :: d :: cs) = some (.unit n :: pieces, rest) := by
  rw [readString.eq_def]
  simp [hn, h]

theorem readString_plain {c : Char} (hquote : c ≠ '"') (hescape : c ≠ '\\') (hc : 0x20 ≤ c.toNat)
    (h : readString cs = some (pieces, rest)) :
    readString (c :: cs) = some (.char c :: pieces, rest) := by
  rw [readString.eq_def]
  simp [hquote, hescape, Nat.not_lt.2 hc, h]

theorem unit?_hexDigit :
    ∀ n < 0x20, unit? '0' '0' (hexDigit (n / 16)) (hexDigit (n % 16)) = some n := by
  decide

theorem readString_escaped {c : Char} (h : readString cs = some (pieces, rest)) :
    readString (escaped c ++ cs) = some (pieceOf c :: pieces, rest) := by
  -- escaped by a letter, escaped by its code unit, or written as it is
  rcases escaped_cases c with ⟨letter, hletter, htext, hpiece⟩ | ⟨hcontrol, hpiece, htext⟩ |
    ⟨hquote, hescape, hvisible, htext, hpiece⟩
  · rw [htext, hpiece]
    exact readString_letter hletter h
  · rw [htext, hpiece]
    exact readString_unit (unit?_hexDigit c.toNat hcontrol) h
  · rw [htext, hpiece]
    exact readString_plain hquote hescape hvisible h

end ReadString

theorem readString_flatMap_escaped (cs rest : List Char) :
    readString (cs.flatMap escaped ++ '"' :: rest) = some (cs.map pieceOf, rest) := by
  induction cs with
  | nil => exact readString_quote rest
  | cons c cs ih =>
    rw [List.flatMap_cons, List.append_assoc, List.map_cons]
    exact readString_escaped ih

/-- The code unit of a control character stands for itself, whatever follows it. -/
theorem charsOf_unit {n : Nat} (hn : n < 0x20) (pieces : List Piece) :
    charsOf (.unit n :: pieces) = (charsOf pieces).map (Char.ofNat n :: ·) := by
  have hhigh : isHighSurrogate n = false := by
    simp only [isHighSurrogate, Bool.and_eq_false_iff, decide_eq_false_iff_not]
    omega
  have hlow : isLowSurrogate n = false := by
    simp only [isLowSurrogate, Bool.and_eq_false_iff, decide_eq_false_iff_not]
    omega
  cases pieces with
  | nil => simp only [charsOf, hhigh, hlow, Bool.or_self, Bool.false_eq_true, if_false]
  | cons piece pieces =>
    cases piece with
    | char c => simp only [charsOf, hhigh, hlow, Bool.or_self, Bool.false_eq_true, if_false]
    | unit m => simp only [charsOf, hhigh, hlow, Bool.false_eq_true, if_false]

theorem charsOf_map_pieceOf (cs : List Char) : charsOf (cs.map pieceOf) = some cs := by
  induction cs with
  | nil => rfl
  | cons c cs ih =>
    rw [List.map_cons, pieceOf]
    split
    · rw [charsOf, ih, Option.map_some]
    · next hcontrol =>
      rw [not_or, Nat.not_le] at hcontrol
      rw [charsOf_unit hcontrol.2, ih, Option.map_some, Char.ofNat_toNat]

theorem stringOf_piecesOf (s : String) : stringOf (piecesOf s) = some s := by
  rw [stringOf, piecesOf, charsOf_map_pieceOf, Option.map_some, String.ofList_toList]

/-! ### Objects of strings -/

/-- The members with strings as their values. -/
def ofStrings (members : List (String × String)) : List (String × Json) :=
  members.map fun (name, value) => (name, .string value)

def documentsOf (members : List (String × String)) : List (List Piece × Document) :=
  members.map fun (name, value) => (piecesOf name, .string (piecesOf value))

theorem skipSpace_cons {c : Char} (hc : isSpace c = false) (cs : List Char) :
    skipSpace (c :: cs) = c :: cs :=
  List.dropWhile_cons_of_neg (by simp [hc])

theorem readString_quoted (s : String) (rest : List Char) :
    readString (s.toList.flatMap escaped ++ '"' :: rest) = some (piecesOf s, rest) :=
  readString_flatMap_escaped s.toList rest

theorem quoted_append (s : String) (rest : List Char) :
    quoted s ++ rest = '"' :: (s.toList.flatMap escaped ++ '"' :: rest) := by
  simp only [quoted, List.append_assoc, List.cons_append, List.nil_append]

theorem readValue_quoted (fuel : Nat) (s : String) (rest : List Char) :
    readValue (fuel + 1) (quoted s ++ rest) = some (.string (piecesOf s), rest) := by
  rw [quoted_append, readValue, skipSpace_cons (by decide)]
  simp [readScalar, readString_quoted]

theorem readMembers_next (name value : String) {fuel : Nat} {cs rest : List Char}
    {members : List (List Piece × Document)} (h : readMembers (fuel + 1) cs = some (members, rest)) :
    readMembers (fuel + 2) (quoted name ++ ':' :: (quoted value ++ ',' :: cs)) =
      some ((piecesOf name, .string (piecesOf value)) :: members, rest) := by
  rw [quoted_append, readMembers, skipSpace_cons (by decide)]
  simp [readString_quoted, skipSpace_cons, isSpace, readValue_quoted, h]

theorem readMembers_last (name value : String) (fuel : Nat) (rest : List Char) :
    readMembers (fuel + 2) (quoted name ++ ':' :: (quoted value ++ '}' :: rest)) =
      some ([(piecesOf name, .string (piecesOf value))], rest) := by
  rw [quoted_append, readMembers, skipSpace_cons (by decide)]
  simp [readString_quoted, skipSpace_cons, isSpace, readValue_quoted]

/-- The members of an object of strings, up to the brace that closes it. -/
theorem readMembers_memberChars (member : String × String) (members : List (String × String))
    (fuel : Nat) (rest : List Char) :
    readMembers (fuel + members.length + 2)
        (memberChars (ofStrings (member :: members)) ++ '}' :: rest) =
      some (documentsOf (member :: members), rest) := by
  induction members generalizing member with
  | nil =>
    have hlast := readMembers_last member.1 member.2 fuel rest
    simpa [ofStrings, documentsOf, memberChars, toChars] using hlast
  | cons next members ih =>
    have hnext := readMembers_next member.1 member.2 (ih next)
    rw [List.length_cons, ← Nat.add_assoc]
    simpa [ofStrings, documentsOf, memberChars, toChars] using hnext

theorem length_le_length_memberChars (members : List (String × Json)) :
    members.length ≤ (memberChars members).length := by
  induction members with
  | nil => exact Nat.zero_le _
  | cons member members ih =>
    obtain ⟨name, value⟩ := member
    cases members with
    | nil => simp [memberChars, quoted]
    | cons next members =>
      simp only [memberChars, List.length_append, List.length_cons] at ih ⊢
      omega

theorem exists_memberChars_eq_cons (member : String × String) (members : List (String × String)) :
    ∃ cs, memberChars (ofStrings (member :: members)) = '"' :: cs := by
  cases members with
  | nil => exact ⟨_, rfl⟩
  | cons next members => exact ⟨_, by simp [ofStrings, memberChars, quoted]; rfl⟩

theorem readValue_object (member : String × String) (members : List (String × String))
    (fuel : Nat) (rest : List Char) :
    readValue (fuel + members.length + 3)
        ('{' :: memberChars (ofStrings (member :: members)) ++ '}' :: rest) =
      some (.object (documentsOf (member :: members)), rest) := by
  obtain ⟨cs, hcs⟩ := exists_memberChars_eq_cons member members
  have hmembers := readMembers_memberChars member members fuel rest
  rw [hcs, List.cons_append] at hmembers
  rw [hcs, List.cons_append, List.cons_append, readValue, skipSpace_cons (by decide)]
  simp [skipSpace_cons, isSpace, hmembers]

theorem read?_ofStrings (members : List (String × String)) :
    Document.read? (toChars (.object (ofStrings members))) = some (.object (documentsOf members)) := by
  cases members with
  | nil => rfl
  | cons member members =>
    -- the reader has two steps for each character, and a member takes one
    have hlength := length_le_length_memberChars (ofStrings (member :: members))
    obtain ⟨fuel, hfuel⟩ : ∃ fuel, 2 * (toChars (.object (ofStrings (member :: members)))).length + 2 =
        fuel + members.length + 3 := by
      refine ⟨2 * (toChars (.object (ofStrings (member :: members)))).length - members.length - 1, ?_⟩
      simp only [toChars, ofStrings, List.length_map, List.length_cons, List.length_append] at hlength ⊢
      omega
    rw [Document.read?, hfuel]
    simp only [toChars]
    rw [readValue_object]
    rfl

theorem memberValues?_documentsOf (room : Nat) (before : List (String × Json))
    (members : List (String × String)) :
    memberValues? room before (documentsOf members) =
      some ((ofStrings members).foldl (fun front (name, value) =>
        FieldMap.insertEntry name value front) before) := by
  induction members generalizing before with
  | nil => rw [documentsOf, List.map_nil, memberValues?]; rfl
  | cons member members ih =>
    have hrest := ih (FieldMap.insertEntry member.1 (.string member.2) before)
    simpa [documentsOf, ofStrings, memberValues?, stringOf_piecesOf, Document.value?] using hrest

/-- An object of strings with distinct names is read back from its text. -/
theorem read?_text_ofStrings {members : List (String × String)}
    (hnodup : (members.map Prod.fst).Nodup) :
    read? (text (.object (ofStrings members))) = some (.object (ofStrings members)) := by
  have hnames : (([] ++ ofStrings members).map Prod.fst).Nodup := by
    rw [List.nil_append, ofStrings, List.map_map]
    exact hnodup
  rw [read?, text, String.toList_ofList, read?_ofStrings]
  change Document.value? (126 + 1) _ = _
  rw [Document.value?, memberValues?_documentsOf, FieldMap.foldl_insertEntry hnames]
  rfl

/-! ### Telling objects apart -/

theorem quoted_append_inj {s t : String} {xs ys : List Char} (h : quoted s ++ xs = quoted t ++ ys) :
    s = t := by
  rw [quoted_append, quoted_append] at h
  have hread := congrArg readString (List.cons.inj h).2
  rw [readString_quoted, readString_quoted] at hread
  have hpieces : piecesOf s = piecesOf t := (Prod.mk.inj (Option.some.inj hread)).1
  have hstring := congrArg stringOf hpieces
  rwa [stringOf_piecesOf, stringOf_piecesOf, Option.some.injEq] at hstring

theorem exists_toChars_object (name : String) (value : Json) (members : List (String × Json)) :
    ∃ cs, (object ((name, value) :: members)).toChars = '{' :: (quoted name ++ cs) := by
  cases members with
  | nil => exact ⟨_, by simp only [toChars, memberChars, List.append_assoc, List.cons_append]; rfl⟩
  | cons member members =>
    exact ⟨_, by simp only [toChars, memberChars, List.append_assoc, List.cons_append]; rfl⟩

/-- Objects can be told apart by the names of their first members. -/
theorem text_object_ne {name name' : String} (h : name ≠ name') (value value' : Json)
    (members members' : List (String × Json)) :
    (object ((name, value) :: members)).text ≠ (object ((name', value') :: members')).text := by
  intro heq
  obtain ⟨cs, hcs⟩ := exists_toChars_object name value members
  obtain ⟨cs', hcs'⟩ := exists_toChars_object name' value' members'
  have hchars := congrArg String.toList heq
  rw [text, text, String.toList_ofList, String.toList_ofList, hcs, hcs'] at hchars
  exact h (quoted_append_inj (List.cons.inj hchars).2)

end RecordQuery.Json
