import Mathlib.Data.List.Basic
import RecordQuery.Text.Lowercase
import RecordQuery.Text.Words

/-!
# Lower case and parts of a text

A part of a text may have one lower case where it stands and another on its own: whether a capital
sigma becomes a final one depends on what is around it.  `Text.lowercaseBetween` is the lower case of
a text between two others.  The lower case of an appended text is put together from those of its
parts (`Text.lowercase_append`), which are as long as the lower case of each part alone, and the two
are equal exactly if every sigma of the part ends a word in the whole as it does in the part
(`Text.lowercaseBetween_eq_lowercase_iff`).  That is so if the part has no sigma, and if it is not
cut out of a word.

A text is found in lower case wherever it stands exactly if it keeps its sigmas behind a letter and
in front of one (`Text.forall_lowercase_infix_iff`).

The lower case of an ASCII text is that of its letters (`Text.lowercase_of_ascii`).
-/

namespace RecordQuery.Text

/-! ### Sigmas -/

/-- A sigma between the two texts ends a word.  The nearest character of the first text comes
first. -/
def endsWord (before after : List Char) : Bool := startsCased before && !startsCased after

/-- Every sigma of a text ends a word between the two others exactly if it does without them. -/
def KeepsSigmas (before cs after : List Char) : Prop :=
  ∀ x y, cs = x ++ 'Σ' :: y →
    endsWord (x.reverse ++ before.reverse) (y ++ after) = endsWord x.reverse y

variable {before after cs : List Char}

theorem keepsSigmas_of_notMem (h : 'Σ' ∉ cs) : KeepsSigmas before cs after := by
  rintro x y rfl
  exact absurd (by simp) h

theorem startsCased_cons (c : Char) (cs : List Char) :
    startsCased (c :: cs) = if isCaseIgnorable c then startsCased cs else isCased c := by
  unfold startsCased
  by_cases h : isCaseIgnorable c
  · rw [List.dropWhile_cons_of_pos h, if_pos h]
  · rw [List.dropWhile_cons_of_neg h, if_neg h]

theorem startsCased_append (cs after : List Char) :
    startsCased (cs ++ after) =
      if cs.all isCaseIgnorable then startsCased after else startsCased cs := by
  induction cs with
  | nil => rfl
  | cons c cs ih =>
    rw [List.cons_append, startsCased_cons, startsCased_cons, ih, List.all_cons]
    cases isCaseIgnorable c with
    | true => rfl
    | false => rfl

theorem startsCased_of_all_ignorable {cs : List Char} (h : cs.all isCaseIgnorable = true) :
    startsCased cs = false := by
  have hnil := startsCased_append cs []
  rwa [List.append_nil, if_pos h] at hnil

/-- What does not start with a cased letter is no neighbour to anything. -/
theorem startsCased_append_of_uncased (h : startsCased after = false) (cs : List Char) :
    startsCased (cs ++ after) = startsCased cs := by
  rw [startsCased_append, h]
  split
  · next hall => rw [startsCased_of_all_ignorable hall]
  · rfl

/-- A text that keeps its sigmas behind a letter and in front of a letter keeps them everywhere. -/
theorem forall_keepsSigmas_iff :
    (∀ before after, KeepsSigmas before cs after) ↔
      KeepsSigmas ['a'] cs [] ∧ KeepsSigmas [] cs ['a'] := by
  constructor
  · intro h
    exact ⟨h ['a'] [], h [] ['a']⟩
  · rintro ⟨hbehind, hfront⟩ before after x y hcs
    have hletter : startsCased ['a'] = true := by decide +kernel
    have hb := hbehind x y hcs
    have hf := hfront x y hcs
    simp only [endsWord, List.reverse_singleton, List.reverse_nil, List.append_nil] at hb hf ⊢
    -- What stands around the text shows through characters that are skipped, and a side through
    -- which it shows does not matter, because the other one settles that no word ends here.
    by_cases hx : x.reverse.all isCaseIgnorable = true
    · rw [startsCased_append, if_pos hx, hletter, startsCased_of_all_ignorable hx] at hb
      have hcased : startsCased y = true := by simpa using hb
      have hy : ¬ y.all isCaseIgnorable = true := by
        intro hall
        rw [startsCased_of_all_ignorable hall] at hcased
        cases hcased
      rw [startsCased_append y, if_neg hy, hcased, Bool.not_true, Bool.and_false, Bool.and_false]
    · rw [startsCased_append x.reverse, if_neg hx]
      by_cases hy : y.all isCaseIgnorable = true
      · rw [startsCased_append, if_pos hy, hletter, startsCased_of_all_ignorable hy] at hf
        have huncased : startsCased x.reverse = false := by simpa using hf.symm
        rw [huncased, Bool.false_and, Bool.false_and]
      · rw [startsCased_append, if_neg hy]

/-- A part that no cased letter touches is not cut out of a word. -/
theorem keepsSigmas_of_uncased (hbefore : startsCased before.reverse = false)
    (hafter : startsCased after = false) : KeepsSigmas before cs after := by
  intro x y _
  rw [endsWord, endsWord, startsCased_append_of_uncased hbefore,
    startsCased_append_of_uncased hafter]

/-! ### The lower case of a part -/

/-- The lower case of a character between two texts. -/
def lowerBetween (before : List Char) (c : Char) (after : List Char) : List Char :=
  if c = 'Σ' then [if endsWord before after then 'ς' else 'σ'] else lowerChar c

/-- The lower case of a text between two others, of which the first has its nearest character
first. -/
def lowercaseBetween (before after : List Char) : List Char → List Char
  | [] => []
  | c :: cs => lowerBetween before c (cs ++ after) ++ lowercaseBetween (c :: before) after cs

theorem lowercaseAfter_eq_lowercaseBetween (before cs : List Char) :
    lowercaseAfter before cs = lowercaseBetween before [] cs := by
  induction cs generalizing before with
  | nil => rfl
  | cons c cs ih =>
    rw [lowercaseAfter, lowercaseBetween, ih, List.append_nil]
    rfl

theorem lowercase_eq_lowercaseBetween (cs : List Char) : lowercase cs = lowercaseBetween [] [] cs :=
  lowercaseAfter_eq_lowercaseBetween [] cs

theorem lowercaseBetween_append (before after cs ds : List Char) :
    lowercaseBetween before after (cs ++ ds) =
      lowercaseBetween before (ds ++ after) cs ++
        lowercaseBetween (cs.reverse ++ before) after ds := by
  induction cs generalizing before with
  | nil => rfl
  | cons c cs ih =>
    simp only [List.cons_append, lowercaseBetween, ih, List.append_assoc, List.reverse_cons,
      List.nil_append]

theorem lowercase_append (cs ds : List Char) :
    lowercase (cs ++ ds) = lowercaseBetween [] ds cs ++ lowercaseBetween cs.reverse [] ds := by
  rw [lowercase_eq_lowercaseBetween, lowercaseBetween_append, List.append_nil, List.append_nil]

/-- The two sides decide which sigma it is, never how many characters it takes. -/
theorem length_lowerBetween (before after before' after' : List Char) (c : Char) :
    (lowerBetween before c after).length = (lowerBetween before' c after').length := by
  unfold lowerBetween
  split <;> rfl

theorem length_lowercaseBetween (before after before' after' cs : List Char) :
    (lowercaseBetween before after cs).length = (lowercaseBetween before' after' cs).length := by
  induction cs generalizing before before' with
  | nil => rfl
  | cons c cs ih =>
    rw [lowercaseBetween, lowercaseBetween, List.length_append, List.length_append,
      length_lowerBetween before _ before' (cs ++ after'), ih (c :: before) (c :: before')]

theorem lowerBetween_eq_iff {before after before' after' : List Char} {c : Char} :
    lowerBetween before c after = lowerBetween before' c after' ↔
      (c = 'Σ' → endsWord before after = endsWord before' after') := by
  unfold lowerBetween
  split
  · next h =>
    cases endsWord before after <;> cases endsWord before' after' <;> simp [h]
  · next h => simp [h]

theorem lowercaseBetween_eq_iff {before after before' after' cs : List Char} :
    lowercaseBetween before after cs = lowercaseBetween before' after' cs ↔
      ∀ x y, cs = x ++ 'Σ' :: y →
        endsWord (x.reverse ++ before) (y ++ after) =
          endsWord (x.reverse ++ before') (y ++ after') := by
  induction cs generalizing before before' with
  | nil => simp [lowercaseBetween]
  | cons c cs ih =>
    have hsplit : lowercaseBetween before after (c :: cs) =
          lowercaseBetween before' after' (c :: cs) ↔
        lowerBetween before c (cs ++ after) = lowerBetween before' c (cs ++ after') ∧
          lowercaseBetween (c :: before) after cs = lowercaseBetween (c :: before') after' cs :=
      ⟨fun h => List.append_inj h (length_lowerBetween ..), fun h => congrArg₂ _ h.1 h.2⟩
    rw [hsplit, lowerBetween_eq_iff, ih]
    constructor
    · rintro ⟨hhead, htail⟩ x y heq
      cases x with
      | nil =>
        obtain ⟨rfl, rfl⟩ := List.cons.inj heq
        exact hhead rfl
      | cons d x =>
        obtain ⟨rfl, hrest⟩ := List.cons.inj heq
        simpa using htail x y hrest
    · intro h
      refine ⟨?_, ?_⟩
      · rintro rfl
        exact h [] cs rfl
      · rintro x y rfl
        simpa using h (c :: x) y rfl

/-- A part of a text has its own lower case in the whole exactly if it keeps its sigmas. -/
theorem lowercaseBetween_eq_lowercase_iff {before after cs : List Char} :
    lowercaseBetween before.reverse after cs = lowercase cs ↔ KeepsSigmas before cs after := by
  rw [lowercase_eq_lowercaseBetween, lowercaseBetween_eq_iff]
  simp only [List.append_nil]
  rfl

instance (before cs after : List Char) : Decidable (KeepsSigmas before cs after) :=
  decidable_of_iff _ lowercaseBetween_eq_lowercase_iff

theorem length_lowercase_eq (before after cs : List Char) :
    (lowercase cs).length = (lowercaseBetween before after cs).length := by
  rw [lowercase_eq_lowercaseBetween]
  exact length_lowercaseBetween ..

/-! ### Parts found in lower case -/

theorem lowercase_infix (h : KeepsSigmas before cs after) :
    lowercase cs <:+: lowercase (before ++ cs ++ after) := by
  rw [lowercase_append, lowercaseBetween_append, List.append_nil,
    lowercaseBetween_eq_lowercase_iff.2 h]
  exact List.infix_append ..

theorem lowercase_prefix_iff :
    lowercase cs <+: lowercase (cs ++ after) ↔ KeepsSigmas [] cs after := by
  rw [lowercase_append, ← lowercaseBetween_eq_lowercase_iff, List.reverse_nil]
  constructor
  · intro h
    have hshort := List.prefix_of_prefix_length_le h (List.prefix_append _ _)
      (Nat.le_of_eq (length_lowercase_eq [] after cs))
    exact (hshort.eq_of_length (length_lowercase_eq [] after cs)).symm
  · intro h
    rw [h]
    exact List.prefix_append _ _

theorem lowercase_suffix_iff :
    lowercase cs <:+ lowercase (before ++ cs) ↔ KeepsSigmas before cs [] := by
  rw [lowercase_append, ← lowercaseBetween_eq_lowercase_iff]
  constructor
  · intro h
    have hshort := List.suffix_of_suffix_length_le h (List.suffix_append _ _)
      (Nat.le_of_eq (length_lowercase_eq before.reverse [] cs))
    exact (hshort.eq_of_length (length_lowercase_eq before.reverse [] cs)).symm
  · intro h
    rw [h]
    exact List.suffix_append _ _

/-! ### Parts found wherever they stand -/

theorem ofNat_ne_a {n : Nat} (h : 0x61 < n) : Char.ofNat n ≠ 'a' := by
  intro heq
  unfold Char.ofNat at heq
  by_cases hvalid : n.isValidChar
  · rw [dif_pos hvalid] at heq
    have hn : n = 'a'.toNat := congrArg Char.toNat heq
    rw [hn] at h
    exact absurd h (by decide)
  · rw [dif_neg hvalid] at heq
    exact absurd heq (by decide)

/-- Nothing that the search for a cased neighbour skips has an `a` in its lower case. -/
theorem not_isCaseIgnorable_of_mem_lowerChar {c : Char} (h : 'a' ∈ lowerChar c) :
    isCaseIgnorable c = false := by
  have hascii : ∀ n < 0x80, (Char.ofNat n).toLower = 'a' →
      isCaseIgnorable (Char.ofNat n) = false := by
    decide +kernel
  have htargets : lowerRuns.all (fun run => 0x61 < run.target) = true := by decide +kernel
  unfold lowerChar at h
  split at h
  · next hlow =>
    have hletter := hascii c.toNat hlow
    rw [Char.ofNat_toNat] at hletter
    exact hletter (List.mem_singleton.1 h).symm
  · split at h
    · exact absurd h (by decide)
    · split at h
      · next run hrun =>
        have htarget := List.all_eq_true.1 htargets run (List.mem_of_find?_eq_some hrun)
        have hlower : 0x61 < run.lower c.toNat :=
          Nat.lt_of_lt_of_le (of_decide_eq_true htarget) (Nat.le_add_left _ _)
        exact absurd (List.mem_singleton.1 h).symm (ofNat_ne_a hlower)
      · rw [← List.mem_singleton.1 h]
        decide +kernel

theorem of_mem_lowerBetween {c : Char} (h : 'a' ∈ lowerBetween before c after) :
    c ≠ 'Σ' ∧ isCaseIgnorable c = false := by
  unfold lowerBetween at h
  split at h
  · rw [List.mem_singleton] at h
    split at h
    · exact absurd h (by decide)
    · exact absurd h (by decide)
  · next hsigma => exact ⟨hsigma, not_isCaseIgnorable_of_mem_lowerChar h⟩

theorem lowerBetween_ne_nil (before : List Char) (c : Char) (after : List Char) :
    lowerBetween before c after ≠ [] := by
  unfold lowerBetween lowerChar
  split
  · exact List.cons_ne_nil _ _
  · split
    · exact List.cons_ne_nil _ _
    · split
      · exact List.cons_ne_nil _ _
      · split
        · exact List.cons_ne_nil _ _
        · exact List.cons_ne_nil _ _

theorem lowerBetween_a (before after : List Char) : lowerBetween before 'a' after = ['a'] := by
  unfold lowerBetween
  rw [if_neg (by decide)]
  decide +kernel

/-- What stands before a text does not reach behind its first character if that is a letter. -/
theorem keepsSigmas_of_head {c : Char} (hsigma : c ≠ 'Σ') (hc : isCaseIgnorable c = false) :
    KeepsSigmas before (c :: cs) [] := by
  intro x y hcs
  cases x with
  | nil => exact absurd (List.cons.inj hcs).1 hsigma
  | cons d x =>
    obtain ⟨rfl, -⟩ := List.cons.inj hcs
    have hall : ¬ (c :: x).reverse.all isCaseIgnorable = true := by simp [hc]
    rw [endsWord, endsWord, startsCased_append, if_neg hall, List.append_nil]

theorem keepsSigmas_of_getLast {c : Char} (hsigma : c ≠ 'Σ') (hc : isCaseIgnorable c = false) :
    KeepsSigmas [] (cs ++ [c]) after := by
  intro x y hcs
  have hlast := congrArg List.getLast? hcs
  rcases List.eq_nil_or_concat y with rfl | ⟨y, d, rfl⟩
  · rw [List.getLast?_concat, List.getLast?_concat] at hlast
    exact absurd (Option.some.inj hlast) hsigma
  · rw [List.concat_eq_append] at hlast ⊢
    rw [List.getLast?_concat, ← List.cons_append, ← List.append_assoc, List.getLast?_concat] at hlast
    obtain rfl : c = d := Option.some.inj hlast
    have hall : ¬ (y ++ [c]).all isCaseIgnorable = true := by simp [hc]
    rw [endsWord, endsWord, startsCased_append (y ++ [c]), if_neg hall, List.reverse_nil,
      List.append_nil]

theorem keepsSigmas_behind (h : lowercase cs <:+: lowercase ('a' :: cs)) :
    KeepsSigmas ['a'] cs [] := by
  have hcons : lowercase ('a' :: cs) = 'a' :: lowercaseBetween ['a'] [] cs := by
    rw [lowercase_eq_lowercaseBetween, lowercaseBetween, lowerBetween_a]
    rfl
  rw [hcons, List.infix_cons_iff] at h
  rcases h with hstarts | hwithin
  · cases cs with
    | nil => exact keepsSigmas_of_notMem List.not_mem_nil
    | cons c cs =>
      obtain ⟨d, ds, hhead⟩ := List.exists_cons_of_ne_nil (lowerBetween_ne_nil [] c (cs ++ []))
      rw [lowercase_eq_lowercaseBetween, lowercaseBetween, hhead, List.cons_append,
        List.cons_prefix_cons] at hstarts
      have hmem : 'a' ∈ lowerBetween [] c (cs ++ []) := by
        rw [hhead, hstarts.1]
        exact List.mem_cons_self
      obtain ⟨hsigma, hignorable⟩ := of_mem_lowerBetween hmem
      exact keepsSigmas_of_head hsigma hignorable
  · rw [← lowercaseBetween_eq_lowercase_iff]
    exact (hwithin.eq_of_length (length_lowercase_eq ['a'] [] cs)).symm

theorem keepsSigmas_front (h : lowercase cs <:+: lowercase (cs ++ ['a'])) :
    KeepsSigmas [] cs ['a'] := by
  have hconcat : lowercase (cs ++ ['a']) = lowercaseBetween [] ['a'] cs ++ ['a'] := by
    rw [lowercase_append, lowercaseBetween, lowerBetween_a]
    rfl
  rw [hconcat, List.infix_concat_iff] at h
  rcases h with hends | hwithin
  · rcases List.eq_nil_or_concat cs with rfl | ⟨cs, c, rfl⟩
    · exact keepsSigmas_of_notMem List.not_mem_nil
    · rw [List.concat_eq_append] at hends ⊢
      have hlast : lowercaseBetween cs.reverse [] [c] = lowerBetween cs.reverse c [] :=
        List.append_nil _
      rw [lowercase_append, hlast] at hends
      obtain ⟨front, hfront⟩ := hends
      have hend := congrArg List.getLast? hfront
      rw [List.getLast?_concat, ← List.append_assoc,
        List.getLast?_append_of_ne_nil _ (lowerBetween_ne_nil _ _ _)] at hend
      have hmem : 'a' ∈ lowerBetween cs.reverse c [] := List.mem_of_getLast? hend
      obtain ⟨hsigma, hignorable⟩ := of_mem_lowerBetween hmem
      exact keepsSigmas_of_getLast hsigma hignorable
  · rw [← lowercaseBetween_eq_lowercase_iff]
    exact (hwithin.eq_of_length (length_lowercase_eq [] ['a'] cs)).symm

/-- A text is found wherever it stands exactly if it keeps its sigmas behind a letter and in front of
one. -/
theorem forall_lowercase_infix_iff :
    (∀ before after, lowercase cs <:+: lowercase (before ++ cs ++ after)) ↔
      KeepsSigmas ['a'] cs [] ∧ KeepsSigmas [] cs ['a'] := by
  constructor
  · intro h
    have hbehind := h ['a'] []
    rw [List.append_nil] at hbehind
    exact ⟨keepsSigmas_behind hbehind, keepsSigmas_front (h [] ['a'])⟩
  · intro h before after
    exact lowercase_infix (forall_keepsSigmas_iff.2 h before after)

/-! ### ASCII -/

theorem lowercaseAfter_of_ascii (before : List Char) {cs : List Char}
    (h : ∀ c ∈ cs, c.toNat < 0x80) : lowercaseAfter before cs = cs.map Char.toLower := by
  induction cs generalizing before with
  | nil => rfl
  | cons c cs ih =>
    obtain ⟨hc, hcs⟩ := List.forall_mem_cons.1 h
    have hsigma : c ≠ 'Σ' := by
      rintro rfl
      exact absurd hc (by decide)
    rw [lowercaseAfter, if_neg hsigma, lowerChar, if_pos hc, ih _ hcs]
    rfl

/-- The lower case of an ASCII text is that of its letters. -/
theorem lowercase_of_ascii {cs : List Char} (h : ∀ c ∈ cs, c.toNat < 0x80) :
    lowercase cs = cs.map Char.toLower :=
  lowercaseAfter_of_ascii [] h

theorem lt_of_toLower_lt {c : Char} (h : c.toLower.toNat < 0x80) : c.toNat < 0x80 := by
  unfold Char.toLower at h
  split at h
  · next hupper =>
    have hle : c.toNat ≤ 90 := hupper.2
    omega
  · exact h

/-- A text that is an ASCII word up to the case of its letters has the lower case of the word. -/
theorem lowercase_of_sameLetters {cs word : List Char} (h : sameLetters cs word = true)
    (hword : word.all (fun c => c.toLower.toNat < 0x80) = true) : lowercase cs = lowercase word := by
  rw [sameLetters, beq_iff_eq] at h
  have hlower : ∀ c ∈ word, c.toLower.toNat < 0x80 := by simpa using hword
  have hascii : ∀ c ∈ cs, c.toNat < 0x80 := by
    intro c hc
    obtain ⟨d, hd, heq⟩ := List.mem_map.1 (h ▸ List.mem_map_of_mem hc)
    apply lt_of_toLower_lt
    rw [← heq]
    exact hlower d hd
  rw [lowercase_of_ascii hascii, h, lowercase_of_ascii fun c hc => lt_of_toLower_lt (hlower c hc)]

end RecordQuery.Text
