import Mathlib.Algebra.Group.Nat.Defs
import RecordQuery.Instant.Printer

/-!
# Digits

A natural number is read back from its digits, with or without zeros in front.
-/

namespace RecordQuery.Decimal

theorem toNat_of_isDigit {c : Char} (h : c.isDigit = true) : 48 ≤ c.toNat ∧ c.toNat ≤ 57 := by
  simpa [Char.isDigit, UInt32.le_iff_toNat_le] using h

/-- The text consists of digits. -/
def AllDigits (cs : List Char) : Prop := ∀ c ∈ cs, c.isDigit = true

theorem AllDigits.append {xs ys : List Char} (hxs : AllDigits xs) (hys : AllDigits ys) :
    AllDigits (xs ++ ys) := by
  intro c hc
  rcases List.mem_append.1 hc with h | h
  · exact hxs c h
  · exact hys c h

theorem allDigits_zeros (n : Nat) : AllDigits (List.replicate n '0') := by
  intro c hc
  rw [List.eq_of_mem_replicate hc]
  rfl

theorem AllDigits.take {cs : List Char} (h : AllDigits cs) (n : Nat) : AllDigits (cs.take n) :=
  fun c hc => h c (List.mem_of_mem_take hc)

theorem AllDigits.drop {cs : List Char} (h : AllDigits cs) (n : Nat) : AllDigits (cs.drop n) :=
  fun c hc => h c (List.mem_of_mem_drop hc)

/-! ### Values -/

theorem value_append (xs ys : List Char) :
    value (xs ++ ys) = 10 ^ ys.length * value xs + value ys :=
  calc
    value (xs ++ ys) = Nat.ofDigitChars 10 ys (value xs) := Nat.ofDigitChars_append 0
    _ = 10 ^ ys.length * value xs + value ys := Nat.ofDigitChars_eq_ofDigitChars_zero

theorem value_zeros (n : Nat) : value (List.replicate n '0') = 0 :=
  Nat.ofDigitChars_replicate_zero.trans (Nat.mul_zero _)

theorem value_append_zeros (xs : List Char) (n : Nat) :
    value (xs ++ List.replicate n '0') = value xs * 10 ^ n := by
  rw [value_append, value_zeros, List.length_replicate, Nat.add_zero, Nat.mul_comm]

theorem value_zeros_append (n : Nat) (xs : List Char) :
    value (List.replicate n '0' ++ xs) = value xs := by
  rw [value_append, value_zeros, Nat.mul_zero, Nat.zero_add]

/-! ### Texts of numbers -/

theorem value_text (n : Nat) : value (text n) = n := Nat.ofDigitChars_ten_toDigits

theorem allDigits_text (n : Nat) : AllDigits (text n) :=
  fun _ hc => Nat.isDigit_of_mem_toDigits (by decide) (by decide) hc

theorem text_ne_nil (n : Nat) : text n ≠ [] := Nat.toDigits_ne_nil

theorem natural?_digits {cs : List Char} (hne : cs ≠ []) (hdigits : AllDigits cs) :
    natural? cs = some (value cs) := by
  rw [natural?, if_pos ⟨hne, List.all_eq_true.2 hdigits⟩]

theorem allDigits_padded (width n : Nat) : AllDigits (padded width n) :=
  (allDigits_zeros _).append (allDigits_text n)

theorem value_padded (width n : Nat) : value (padded width n) = n := by
  rw [padded, value_zeros_append, value_text]

theorem length_padded {width n : Nat} (hwidth : 0 < width) (h : n < 10 ^ width) :
    (padded width n).length = width := by
  have hlength : (text n).length ≤ width :=
    (Nat.length_toDigits_le_iff (by decide) hwidth).2 h
  rw [padded, List.length_append, List.length_replicate]
  omega

/-! ### Digits and what follows them -/

theorem spanDigits_append {digits rest : List Char} (hdigits : AllDigits digits)
    (hrest : ∀ c ∈ rest.head?, c.isDigit = false) : spanDigits (digits ++ rest) = (digits, rest) := by
  rw [spanDigits, List.takeWhile_append_of_pos hdigits, List.dropWhile_append_of_pos hdigits]
  cases rest with
  | nil => simp
  | cons c rest => simp [hrest c rfl]

theorem spanDigits_append_cons {digits rest : List Char} {c : Char} (hdigits : AllDigits digits)
    (hc : c.isDigit = false) : spanDigits (digits ++ c :: rest) = (digits, c :: rest) := by
  apply spanDigits_append hdigits
  intro d hd
  simp only [List.head?_cons, Option.mem_def, Option.some.injEq] at hd
  exact hd ▸ hc

theorem spanDigits_digits {digits : List Char} (hdigits : AllDigits digits) :
    spanDigits digits = (digits, []) := by
  have h : spanDigits (digits ++ []) = (digits, []) := spanDigits_append hdigits (by simp)
  rwa [List.append_nil] at h

end RecordQuery.Decimal
