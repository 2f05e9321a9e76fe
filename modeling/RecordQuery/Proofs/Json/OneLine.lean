import RecordQuery.Proofs.Json.ReadBack
import RecordQuery.Proofs.Number.Digits

/-!
# JSON on one line

The compact text of a JSON value holds no character below U+0020: strings have theirs escaped, and
nothing else could bring one in.  In particular it holds no line feed, so printed as a line it is
one line, whatever the strings in it are (`Json.isOneLine_toChars`).
-/

namespace RecordQuery

/-- The text has no control character, and so no line break. -/
def Text.IsOneLine (cs : List Char) : Prop := ∀ c ∈ cs, 0x20 ≤ c.toNat

namespace Text

instance (cs : List Char) : Decidable (IsOneLine cs) :=
  List.decidableBAll (fun c : Char => 0x20 ≤ c.toNat) cs

@[simp] theorem isOneLine_nil : IsOneLine [] := List.forall_mem_nil _

@[simp] theorem isOneLine_cons {c : Char} {cs : List Char} :
    IsOneLine (c :: cs) ↔ 0x20 ≤ c.toNat ∧ IsOneLine cs :=
  List.forall_mem_cons

@[simp] theorem isOneLine_append {xs ys : List Char} :
    IsOneLine (xs ++ ys) ↔ IsOneLine xs ∧ IsOneLine ys :=
  List.forall_mem_append

end Text

open Text

/-! ### Numbers -/

theorem Decimal.AllDigits.isOneLine {cs : List Char} (h : AllDigits cs) : IsOneLine cs := by
  intro c hc
  have hdigit := h c hc
  simp only [Char.isDigit, Bool.and_eq_true, decide_eq_true_eq, UInt32.le_iff_toNat_le] at hdigit
  exact Nat.le_trans (by decide) hdigit.1

theorem Decimal.isOneLine_text (n : Nat) : IsOneLine (text n) := (allDigits_text n).isOneLine

theorem Decimal.isOneLine_positional {fraction : List Char} (h : IsOneLine fraction) (d : Decimal) :
    IsOneLine (d.positional fraction) := by
  have hdigits := allDigits_text d.digits
  unfold positional
  dsimp only
  split
  · simp [hdigits.isOneLine, (allDigits_zeros _).isOneLine, h]
  · split
    · simp [(hdigits.take _).isOneLine, (hdigits.drop _).isOneLine]
    · simp [hdigits.isOneLine, (allDigits_zeros _).isOneLine]

theorem Decimal.isOneLine_scientific (d : Decimal) : IsOneLine d.scientific := by
  have hexponent := isOneLine_text d.leading.natAbs
  have hdigits := isOneLine_text d.digits
  have hsign : 0x20 ≤ (if d.leading < 0 then '-' else '+').toNat := by split <;> decide
  unfold scientific
  dsimp only
  split
  · exact isOneLine_nil
  · next c heq =>
    rw [heq] at hdigits
    simp_all
  · next c cs _ heq =>
    rw [heq] at hdigits
    simp_all

theorem Number.isOneLine_sign (negative : Bool) : IsOneLine (sign negative) := by
  cases negative <;> decide

theorem Number.isOneLine_json (n : Number) : IsOneLine n.json := by
  cases n with
  | nan => decide
  | real negative size =>
    unfold json
    dsimp only
    split
    · decide
    · rw [isOneLine_append]
      refine ⟨isOneLine_sign negative, ?_⟩
      split
      · decide
      · split
        · exact Decimal.isOneLine_scientific _
        · exact Decimal.isOneLine_positional (by decide) _

/-! ### Strings -/

namespace Json

theorem isOneLine_escaped (c : Char) : IsOneLine (escaped c) := by
  have hhex : ∀ n < 16, 0x20 ≤ (hexDigit n).toNat := by decide
  rcases escaped_cases c with ⟨letter, hletter, htext, -⟩ | ⟨hcontrol, -, htext⟩ |
    ⟨-, -, hvisible, htext, -⟩
  · have hplain : 0x20 ≤ letter.toNat := by
      unfold escape? at hletter
      split at hletter <;> first | decide | cases hletter
    rw [htext]
    simp [hplain]
  · rw [htext]
    simp [hhex (c.toNat / 16) (by omega), hhex (c.toNat % 16) (by omega)]
  · rw [htext]
    simp [hvisible]

theorem isOneLine_quoted (s : String) : IsOneLine (quoted s) := by
  have hinside : IsOneLine (s.toList.flatMap escaped) := by
    intro c hc
    obtain ⟨d, -, hd⟩ := List.mem_flatMap.1 hc
    exact isOneLine_escaped d c hd
  simp [quoted, hinside]

/-! ### Values -/

mutual

theorem isOneLine_toChars : ∀ j : Json, IsOneLine j.toChars
  | null => by decide
  | bool b => by cases b <;> decide
  | integer i => by
    rw [toChars, integerText, isOneLine_append]
    exact ⟨Number.isOneLine_sign _, Decimal.isOneLine_text _⟩
  | decimal x => by
    rw [toChars]
    exact Number.isOneLine_json x
  | string s => by
    rw [toChars]
    exact isOneLine_quoted s
  | array items => by
    have hitems := isOneLine_itemChars items
    simp [toChars, hitems]
  | object members => by
    have hmembers := isOneLine_memberChars members
    simp [toChars, hmembers]

theorem isOneLine_itemChars : ∀ items : List Json, IsOneLine (itemChars items)
  | [] => isOneLine_nil
  | [item] => isOneLine_toChars item
  | item :: next :: items => by
    have hitem := isOneLine_toChars item
    have hrest := isOneLine_itemChars (next :: items)
    simp [itemChars, hitem, hrest]

theorem isOneLine_memberChars : ∀ members : List (String × Json), IsOneLine (memberChars members)
  | [] => isOneLine_nil
  | [(name, value)] => by
    have hvalue := isOneLine_toChars value
    simp [memberChars, isOneLine_quoted, hvalue]
  | (name, value) :: next :: members => by
    have hvalue := isOneLine_toChars value
    have hrest := isOneLine_memberChars (next :: members)
    simp [memberChars, isOneLine_quoted, hvalue, hrest]

end

theorem isOneLine_text (j : Json) : IsOneLine j.text.toList := by
  rw [text, String.toList_ofList]
  exact isOneLine_toChars j

end Json

end RecordQuery
