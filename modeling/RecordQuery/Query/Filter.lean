import RecordQuery.Condition
import RecordQuery.Query.Diagnostic

/-!
# Filter clauses

A filter clause is a row of segments with connectives between them.  A connective is the word
`and` or `or`, in any case of letters, with blanks on both sides; the blanks belong to it.
Connectives are found from the left, and each one takes all the blanks around it, so a word right
behind a connective is never one itself.

`Clause.cut` takes a clause apart without losing a character (`Clause.chars_cut`).  Whether a
connective says `and` or `or` makes no difference to the conditions, which are always all
required, but an `or` is reported.  A segment that is not `field operator value` is dropped and
reported.  `Filter.ofText` is the engine's `parse_filter_with_diagnostics`, and its conditions alone
are those of `parse_filter`.
-/

namespace RecordQuery

/-- The word between two segments, with the blanks around it. -/
structure Connective where
  before : List Char
  word : List Char
  after : List Char
deriving DecidableEq

namespace Connective

def chars (k : Connective) : List Char := k.before ++ k.word ++ k.after

/-- The connective is `or` rather than `and`. -/
def isOr (k : Connective) : Bool := Text.sameLetters k.word "or".toList

/-- The word is one of the two connectives. -/
def isKeyword (word : List Char) : Bool :=
  Text.sameLetters word "and".toList || Text.sameLetters word "or".toList

/-- The connective that a text starts with, if it starts with one (the engine's
`separator_pattern`). -/
def leading? (cs : List Char) : Option Connective :=
  match Text.blanks cs with
  | [] => none
  | before =>
    let rest := Text.trimStart cs
    let word := Text.word rest
    let after := Text.blanks (Text.afterWord rest)
    if isKeyword word ∧ after ≠ [] then some ⟨before, word, after⟩ else none

theorem chars_append_drop_of_leading? {cs : List Char} {k : Connective} (h : leading? cs = some k) :
    k.chars ++ cs.drop k.chars.length = cs := by
  have hblanks := Text.blanks_append_trimStart cs
  have hword := Text.word_append_afterWord (Text.trimStart cs)
  have hafter := Text.blanks_append_trimStart (Text.afterWord (Text.trimStart cs))
  have key : k.chars ++ Text.trimStart (Text.afterWord (Text.trimStart cs)) = cs := by
    simp only [leading?] at h
    split at h
    · simp at h
    · simp only [Option.ite_none_right_eq_some, Option.some.injEq] at h
      rw [← h.2]
      simp only [chars, List.append_assoc, hafter, hword, hblanks]
  rw [← key, List.drop_left]

theorem length_chars_pos_of_leading? {cs : List Char} {k : Connective} (h : leading? cs = some k) :
    0 < k.chars.length := by
  simp only [leading?] at h
  split at h
  · simp at h
  · next hb =>
    simp only [Option.ite_none_right_eq_some, Option.some.injEq] at h
    rw [← h.2]
    simp only [chars, List.length_append]
    have := List.length_pos_iff.2 hb
    omega

end Connective

/-- A filter clause taken apart: the first segment, then connectives and segments in turn. -/
structure Clause where
  head : List Char
  tail : List (Connective × List Char)
deriving DecidableEq

namespace Clause

def segments (c : Clause) : List (List Char) := c.head :: c.tail.map Prod.snd

def connectives (c : Clause) : List Connective := c.tail.map Prod.fst

def chars (c : Clause) : List Char :=
  c.head ++ c.tail.flatMap fun (k, segment) => k.chars ++ segment

/-- A segment, and a clause whose first segment continues it. -/
def extend (c : Char) (clause : Clause) : Clause := ⟨c :: clause.head, clause.tail⟩

def follow (k : Connective) (clause : Clause) : Clause := ⟨[], (k, clause.head) :: clause.tail⟩

/-- The clause of a text in which `find?` recognises what a connective starts.  The first `skip`
characters of the text belong to a connective that was found before. -/
def cutBy (find? : List Char → Option Connective) : List Char → (skip : Nat) → Clause
  | [], _ => ⟨[], []⟩
  | _ :: cs, skip + 1 => cutBy find? cs skip
  | c :: cs, 0 =>
    match find? (c :: cs) with
    | some k => follow k (cutBy find? cs (k.chars.length - 1))
    | none => extend c (cutBy find? cs 0)

def cut (cs : List Char) : Clause := cutBy Connective.leading? cs 0

/-! ### Nothing is lost -/

theorem cutBy_eq_drop (find? : List Char → Option Connective) (cs : List Char) (skip : Nat) :
    cutBy find? cs skip = cutBy find? (cs.drop skip) 0 := by
  induction cs generalizing skip with
  | nil => cases skip <;> rfl
  | cons c cs ih =>
    cases skip with
    | zero => rfl
    | succ skip => exact ih skip

theorem cut_of_leading? {c : Char} {cs : List Char} {k : Connective}
    (h : Connective.leading? (c :: cs) = some k) :
    cut (c :: cs) = follow k (cut ((c :: cs).drop k.chars.length)) := by
  have hpos := Connective.length_chars_pos_of_leading? h
  have hdrop : (c :: cs).drop k.chars.length = cs.drop (k.chars.length - 1) := by
    obtain ⟨m, hm⟩ := Nat.exists_eq_succ_of_ne_zero (Nat.ne_of_gt hpos)
    rw [hm]
    rfl
  rw [hdrop, cut, cut, ← cutBy_eq_drop, cutBy, h]

theorem cut_of_leading?_eq_none {c : Char} {cs : List Char}
    (h : Connective.leading? (c :: cs) = none) : cut (c :: cs) = extend c (cut cs) := by
  rw [cut, cutBy, h, cut]

@[simp] theorem chars_extend (c : Char) (clause : Clause) :
    (extend c clause).chars = c :: clause.chars :=
  rfl

@[simp] theorem chars_follow (k : Connective) (clause : Clause) :
    (follow k clause).chars = k.chars ++ clause.chars := by
  simp [follow, chars]

/-- The parts of a clause make up its text. -/
theorem chars_cut (cs : List Char) : (cut cs).chars = cs := by
  suffices ∀ n, ∀ cs : List Char, cs.length ≤ n → (cut cs).chars = cs from
    this cs.length cs (Nat.le_refl _)
  intro n
  induction n with
  | zero =>
    intro cs h
    rw [List.length_eq_zero_iff.1 (Nat.le_zero.1 h)]
    rfl
  | succ n ih =>
    intro cs h
    cases cs with
    | nil => rfl
    | cons c cs =>
      cases hk : Connective.leading? (c :: cs) with
      | some k =>
        have hpos := Connective.length_chars_pos_of_leading? hk
        rw [cut_of_leading? hk, chars_follow, ih _ (by rw [List.length_drop]; omega)]
        exact Connective.chars_append_drop_of_leading? hk
      | none =>
        rw [cut_of_leading?_eq_none hk, chars_extend, ih cs (by simpa using h)]

end Clause

/-! ### Segments -/

/-- The condition that a trimmed segment spells, the engine's `parse_segment`: a word, an operator
and what is left. -/
def Condition.ofSegment? (segment : List Char) : Option Condition :=
  let rest := Text.trimStart (Text.afterWord segment)
  let token := Text.trimStart (Text.afterWord rest)
  match Operator.ofName? (Text.word rest) with
  | none => none
  | some operator =>
    if token = [] then none
    else some (.ofToken (String.ofList (Text.word segment)) operator token)

/-- What a filter clause says, and what in it had to be ignored. -/
structure Filter where
  conditions : List Condition
  diagnostics : List Diagnostic

namespace Filter

/-- The segments of a clause that are not blank, trimmed. -/
def segments (clause : Clause) : List (List Char) := (clause.segments.map Text.trim).filter (· ≠ [])

/-- The report on a segment, if it is dropped. -/
def dropped? (segment : List Char) : Option Diagnostic :=
  if Condition.ofSegment? segment = none then some (.droppedSegment (String.ofList segment))
  else none

def ofClause (clause : Clause) : Filter where
  conditions := (segments clause).filterMap Condition.ofSegment?
  diagnostics :=
    (if clause.connectives.any Connective.isOr then [.orIgnored] else []) ++
      (segments clause).filterMap dropped?

def ofText (text : List Char) : Filter := ofClause (Clause.cut text)

end Filter

end RecordQuery
