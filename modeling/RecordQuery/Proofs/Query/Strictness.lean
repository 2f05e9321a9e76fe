import RecordQuery.Engine
import RecordQuery.Proofs.Number.Digits
import RecordQuery.Proofs.Query.LeftmostCut
import RecordQuery.Proofs.Query.Predicates
import RecordQuery.Proofs.Query.Segments

/-!
# Strict readings

What a strict reading accepts, said about the text alone, and what it refuses otherwise.  Three
parameters can be at fault, each by its first value only: the filter, if its leftmost cut has an
`or` or a segment that spells no condition; the page size and the offset, if they are not natural
numbers below 2⁶⁴.  The error is the first fault in the order `or`, segments, `$top`, `$skip`
(`Engine.readStrictly_outcome`).
-/

namespace RecordQuery

open Text

/-! ### Filters -/

namespace Filter

/-- The text is a row of conditions with `and` between them. -/
def IsConjunction (cs : List Char) : Prop :=
  ∃ clause : Clause, clause.IsCutOf cs ∧ (∀ k ∈ clause.connectives, k.isOr = false) ∧
    ∀ segment ∈ clause.segments, Condition.IsSpelledBy (trim segment)

/-- The first fault of a filter: an `or` anywhere, or else the first segment that spells no
condition. -/
inductive FirstFault (cs : List Char) : Diagnostic → Prop
  | or {clause : Clause} {k : Connective} (hcut : clause.IsCutOf cs) (hk : k ∈ clause.connectives)
      (hor : k.isOr = true) : FirstFault cs .orIgnored
  | segment {clause : Clause} {before after : List (List Char)} {segment : List Char}
      (hcut : clause.IsCutOf cs) (hand : ∀ k ∈ clause.connectives, k.isOr = false)
      (hsplit : clause.segments = before ++ segment :: after)
      (hbefore : ∀ earlier ∈ before, Condition.IsSpelledBy (trim earlier))
      (hsegment : ¬ Condition.IsSpelledBy (trim segment)) :
      FirstFault cs (.droppedSegment (String.ofList (trim segment)))

theorem dropped?_eq_none_iff {segment : List Char} (h : IsTrimmed segment) :
    dropped? segment = none ↔ Condition.IsSpelledBy segment := by
  have hread := Condition.ofSegment?_eq_none_iff h
  unfold dropped?
  split
  · next hnone => simpa using hread.1 hnone
  · next hsome => simpa using not_not.1 fun hnot => hsome (hread.2 hnot)

theorem dropped?_eq_some_iff {segment : List Char} (h : IsTrimmed segment) {d : Diagnostic} :
    dropped? segment = some d ↔
      ¬ Condition.IsSpelledBy segment ∧ d = .droppedSegment (String.ofList segment) := by
  rw [← Condition.ofSegment?_eq_none_iff h, dropped?, Option.ite_none_right_eq_some,
    Option.some.injEq]
  exact and_congr_right fun _ => eq_comm

theorem isTrimmed_segment {cs : List Char} (h : IsTrimmed cs) :
    ∀ segment ∈ (Clause.cut cs).segments, IsTrimmed (trim segment) :=
  fun segment hmem => isTrimmed_trim (Clause.trim_segment_ne_nil h segment hmem)

theorem diagnostics_ofText {cs : List Char} (h : IsTrimmed cs) :
    (ofText cs).diagnostics =
      (if (Clause.cut cs).connectives.any Connective.isOr then [.orIgnored] else []) ++
        ((Clause.cut cs).segments.map trim).filterMap dropped? := by
  rw [← segments_cut h]
  rfl

theorem diagnostics_ofText_eq_nil_iff {cs : List Char} (h : IsTrimmed cs) :
    (ofText cs).diagnostics = [] ↔ IsConjunction cs := by
  have hor : (if (Clause.cut cs).connectives.any Connective.isOr then [Diagnostic.orIgnored]
      else []) = [] ↔ ∀ k ∈ (Clause.cut cs).connectives, k.isOr = false := by
    simp
  have hsegments : ((Clause.cut cs).segments.map trim).filterMap dropped? = [] ↔
      ∀ segment ∈ (Clause.cut cs).segments, Condition.IsSpelledBy (trim segment) := by
    rw [List.filterMap_eq_nil_iff, List.forall_mem_map]
    exact forall₂_congr fun segment hmem => dropped?_eq_none_iff (isTrimmed_segment h segment hmem)
  rw [diagnostics_ofText h, List.append_eq_nil_iff, hor, hsegments]
  constructor
  · rintro ⟨hand, hspelled⟩
    exact ⟨Clause.cut cs, Clause.isCutOf_cut cs, hand, hspelled⟩
  · rintro ⟨clause, hcut, hand, hspelled⟩
    obtain rfl := hcut.eq_cut
    exact ⟨hand, hspelled⟩

theorem head?_diagnostics_ofText_iff {cs : List Char} (h : IsTrimmed cs) {d : Diagnostic} :
    (ofText cs).diagnostics.head? = some d ↔ FirstFault cs d := by
  rw [diagnostics_ofText h]
  by_cases hor : (Clause.cut cs).connectives.any Connective.isOr = true
  · obtain ⟨k, hk, hkor⟩ := List.any_eq_true.1 hor
    rw [if_pos hor, List.singleton_append, List.head?_cons, Option.some.injEq]
    constructor
    · rintro rfl
      exact .or (Clause.isCutOf_cut cs) hk hkor
    · intro hfault
      cases hfault with
      | or hcut hk hor => rfl
      | segment hcut hand hsplit hbefore hsegment =>
        obtain rfl := hcut.eq_cut
        exact absurd hkor (by simp [hand k hk])
  · rw [if_neg hor, List.nil_append, List.head?_filterMap, List.findSome?_map,
      List.findSome?_eq_some_iff]
    have hand : ∀ k ∈ (Clause.cut cs).connectives, k.isOr = false := by simpa using hor
    have htrimmed := isTrimmed_segment h
    constructor
    · rintro ⟨before, segment, after, hsplit, hsegment, hbefore⟩
      rw [hsplit] at htrimmed
      obtain ⟨hnot, rfl⟩ := (dropped?_eq_some_iff (htrimmed segment (by simp))).1 hsegment
      refine .segment (Clause.isCutOf_cut cs) hand hsplit ?_ hnot
      intro earlier hearlier
      exact (dropped?_eq_none_iff (htrimmed earlier (by simp [hearlier]))).1
        (hbefore earlier hearlier)
    · intro hfault
      cases hfault with
      | or hcut hk hkor =>
        obtain rfl := hcut.eq_cut
        exact absurd hkor (by simp [hand _ hk])
      | @segment clause before after segment hcut _ hsplit hbefore hsegment =>
        obtain rfl := hcut.eq_cut
        rw [hsplit] at htrimmed
        refine ⟨before, segment, after, hsplit, ?_, ?_⟩
        · exact (dropped?_eq_some_iff (htrimmed segment (by simp))).2 ⟨hsegment, rfl⟩
        · intro earlier hearlier
          exact (dropped?_eq_none_iff (htrimmed earlier (by simp [hearlier]))).2
            (hbefore earlier hearlier)

end Filter

/-! ### Page numbers -/

namespace Reading

/-- Digits after an optional plus, for a number below 2⁶⁴. -/
def IsPageNumber (text : List Char) : Prop :=
  ∃ digits, (text = digits ∨ text = '+' :: digits) ∧ digits ≠ [] ∧ Decimal.AllDigits digits ∧
    Decimal.value digits < 2 ^ 64

theorem natural?_filter_ne_none_iff {cs : List Char} :
    (Decimal.natural? cs).filter (· < pageLimit) ≠ none ↔
      cs ≠ [] ∧ Decimal.AllDigits cs ∧ Decimal.value cs < 2 ^ 64 := by
  have hlimit : pageLimit = 2 ^ 64 := by decide
  unfold Decimal.natural?
  split
  · next h =>
    have hdigits : Decimal.AllDigits cs := List.all_eq_true.1 h.2
    simp [h.1, hdigits, hlimit]
  · next h =>
    have hnot : ¬ (cs ≠ [] ∧ Decimal.AllDigits cs) := by
      rintro ⟨hne, hdigits⟩
      exact h ⟨hne, List.all_eq_true.2 hdigits⟩
    constructor
    · intro hsome
      exact absurd rfl hsome
    · rintro ⟨hne, hdigits, -⟩
      exact absurd ⟨hne, hdigits⟩ hnot

theorem pageNumber?_eq_none_iff {text : List Char} :
    pageNumber? text = none ↔ ¬ IsPageNumber text := by
  rw [← not_iff_not, not_not]
  unfold pageNumber?
  split
  · next cs =>
    refine natural?_filter_ne_none_iff.trans ?_
    constructor
    · intro h
      exact ⟨cs, Or.inr rfl, h⟩
    · rintro ⟨digits, rfl | heq, h⟩
      · exact absurd (h.2.1 '+' List.mem_cons_self) (by decide)
      · rwa [(List.cons.inj heq).2]
  · next hplus =>
    refine natural?_filter_ne_none_iff.trans ?_
    constructor
    · intro h
      exact ⟨text, Or.inl rfl, h⟩
    · rintro ⟨digits, rfl | rfl, h⟩
      · exact h
      · exact absurd rfl (hplus digits)

/-! ### Parameters -/

/-- The first value of the parameter, trimmed, is absent, empty or as it should be. -/
def Passes (ps : Parameters) (p : Parameter) (fine : List Char → Prop) : Prop :=
  ∀ value, ps.value? p.name = some value → trim value.toList ≠ [] → fine (trim value.toList)

/-- The first problem of the parameters, in the order in which they are looked at. -/
inductive FirstProblem (ps : Parameters) : Diagnostic → Prop
  | filter {value : String} {d : Diagnostic}
      (hvalue : ps.value? Parameter.filter.name = some value) (hne : trim value.toList ≠ [])
      (hfault : Filter.FirstFault (trim value.toList) d) : FirstProblem ps d
  | top {value : String} (hfilter : Passes ps .filter Filter.IsConjunction)
      (hvalue : ps.value? Parameter.top.name = some value) (hne : trim value.toList ≠ [])
      (hnot : ¬ IsPageNumber (trim value.toList)) :
      FirstProblem ps (.invalidNumber "$top" (trimmed value))
  | skip {value : String} (hfilter : Passes ps .filter Filter.IsConjunction)
      (htop : Passes ps .top IsPageNumber)
      (hvalue : ps.value? Parameter.skip.name = some value) (hne : trim value.toList ≠ [])
      (hnot : ¬ IsPageNumber (trim value.toList)) :
      FirstProblem ps (.invalidNumber "$skip" (trimmed value))

/-- A parameter is looked at unless it is absent or blank. -/
theorem text?_eq_some_iff {ps : Parameters} {p : Parameter} {text : List Char} :
    text? ps.raw p = some text ↔
      ∃ value, ps.value? p.name = some value ∧ trim value.toList ≠ [] ∧ trim value.toList = text := by
  rw [text?, ps.slot_raw, Option.filter_eq_some_iff, Option.map_eq_some_iff]
  constructor
  · rintro ⟨⟨value, hvalue, rfl⟩, hne⟩
    exact ⟨value, hvalue, of_decide_eq_true hne, rfl⟩
  · rintro ⟨value, hvalue, hne, rfl⟩
    exact ⟨⟨value, hvalue, rfl⟩, decide_eq_true hne⟩

theorem passes_iff {ps : Parameters} {p : Parameter} {fine : List Char → Prop} :
    Passes ps p fine ↔ ∀ text, text? ps.raw p = some text → fine text := by
  simp only [text?_eq_some_iff]
  constructor
  · rintro h text ⟨value, hvalue, hne, rfl⟩
    exact h value hvalue hne
  · intro h value hvalue hne
    exact h (trim value.toList) ⟨value, hvalue, hne, rfl⟩

theorem isTrimmed_text? {ps : Parameters} {p : Parameter} {text : List Char}
    (h : text? ps.raw p = some text) : IsTrimmed text := by
  obtain ⟨value, -, hne, rfl⟩ := text?_eq_some_iff.1 h
  exact isTrimmed_trim hne

theorem diagnostics_filter_eq_nil_iff {ps : Parameters} :
    (filter ps.raw).diagnostics = [] ↔ Passes ps .filter Filter.IsConjunction := by
  rw [passes_iff, filter]
  cases htext : text? ps.raw .filter with
  | none => simp
  | some text =>
    have hclean := Filter.diagnostics_ofText_eq_nil_iff (isTrimmed_text? htext)
    simpa using hclean

theorem head?_diagnostics_filter_iff {ps : Parameters} {d : Diagnostic} :
    (filter ps.raw).diagnostics.head? = some d ↔
      ∃ text, text? ps.raw .filter = some text ∧ Filter.FirstFault text d := by
  rw [filter]
  cases htext : text? ps.raw .filter with
  | none => simp
  | some text =>
    have hfirst := Filter.head?_diagnostics_ofText_iff (d := d) (isTrimmed_text? htext)
    simpa using hfirst

theorem pageDiagnostics_eq_nil_iff {ps : Parameters} {p : Parameter} :
    pageDiagnostics ps.raw p = [] ↔ Passes ps p IsPageNumber := by
  rw [passes_iff, pageDiagnostics]
  cases htext : text? ps.raw p with
  | none => simp
  | some text => simp [pageNumber?_eq_none_iff]

theorem head?_pageDiagnostics_iff {ps : Parameters} {p : Parameter} {d : Diagnostic} :
    (pageDiagnostics ps.raw p).head? = some d ↔
      ∃ text, text? ps.raw p = some text ∧ ¬ IsPageNumber text ∧
        d = .invalidNumber p.name (String.ofList text) := by
  rw [pageDiagnostics]
  cases htext : text? ps.raw p with
  | none => simp
  | some text =>
    by_cases hnumber : IsPageNumber text
    · have hread : ¬ pageNumber? text = none := fun hnone => pageNumber?_eq_none_iff.1 hnone hnumber
      simp [hread, hnumber]
    · have hread : pageNumber? text = none := pageNumber?_eq_none_iff.2 hnumber
      simp [hread, hnumber, eq_comm]

/-! ### Outcomes -/

theorem strictly_eq_ok_iff {r : Reading} {q : Query} :
    r.strictly = .ok q ↔ r.diagnostics = [] ∧ q = r.query := by
  unfold strictly
  split
  · next hnil => simp [hnil, eq_comm]
  · next hcons => simp [hcons]

theorem strictly_eq_error_iff {r : Reading} {d : Diagnostic} :
    r.strictly = .error d ↔ r.diagnostics.head? = some d := by
  unfold strictly
  split
  · next hnil => simp [hnil]
  · next hcons => simp [hcons]

/-- Nothing is wrong with the three parameters that can be wrong. -/
def IsFaultless (ps : Parameters) : Prop :=
  Passes ps .filter Filter.IsConjunction ∧ Passes ps .top IsPageNumber ∧ Passes ps .skip IsPageNumber

theorem diagnostics_eq_nil_iff {maxTop : Option Nat} {ps : Parameters} :
    (ofParameters maxTop ps).diagnostics = [] ↔ IsFaultless ps := by
  rw [ofParameters, ofRaw, List.append_eq_nil_iff, List.append_eq_nil_iff, diagnostics_filter_eq_nil_iff,
    pageDiagnostics_eq_nil_iff, pageDiagnostics_eq_nil_iff, and_assoc]
  rfl

theorem head?_diagnostics_iff {maxTop : Option Nat} {ps : Parameters} {d : Diagnostic} :
    (ofParameters maxTop ps).diagnostics.head? = some d ↔ FirstProblem ps d := by
  simp only [ofParameters, ofRaw, List.head?_append, Option.or_eq_some_iff, Option.or_eq_none_iff,
    List.head?_eq_none_iff, head?_diagnostics_filter_iff, head?_pageDiagnostics_iff,
    diagnostics_filter_eq_nil_iff, pageDiagnostics_eq_nil_iff, text?_eq_some_iff]
  constructor
  · rintro ((⟨text, ⟨value, hvalue, hne, rfl⟩, hfault⟩ |
      ⟨hfilter, text, ⟨value, hvalue, hne, rfl⟩, hnot, rfl⟩) |
      ⟨⟨hfilter, htop⟩, text, ⟨value, hvalue, hne, rfl⟩, hnot, rfl⟩)
    · exact .filter hvalue hne hfault
    · exact .top hfilter hvalue hne hnot
    · exact .skip hfilter htop hvalue hne hnot
  · intro hproblem
    cases hproblem with
    | filter hvalue hne hfault => exact Or.inl (Or.inl ⟨_, ⟨_, hvalue, hne, rfl⟩, hfault⟩)
    | top hfilter hvalue hne hnot =>
      exact Or.inl (Or.inr ⟨hfilter, _, ⟨_, hvalue, hne, rfl⟩, hnot, rfl⟩)
    | skip hfilter htop hvalue hne hnot =>
      exact Or.inr ⟨⟨hfilter, htop⟩, _, ⟨_, hvalue, hne, rfl⟩, hnot, rfl⟩

/-- The problems lie in the first values of three parameters. -/
theorem diagnostics_congr {maxTop maxTop' : Option Nat} {ps ps' : Parameters}
    (h : ∀ p ∈ [Parameter.filter, Parameter.top, Parameter.skip],
      ps'.value? p.name = ps.value? p.name) :
    (ofParameters maxTop' ps').diagnostics = (ofParameters maxTop ps).diagnostics := by
  have htext : ∀ p ∈ [Parameter.filter, Parameter.top, Parameter.skip],
      text? ps'.raw p = text? ps.raw p := by
    intro p hp
    rw [text?, text?, ps.slot_raw, ps'.slot_raw, h p hp]
  have hfilter : filter ps'.raw = filter ps.raw := by
    rw [filter, filter, htext .filter (by decide)]
  have hpage : ∀ p ∈ [Parameter.filter, Parameter.top, Parameter.skip],
      pageDiagnostics ps'.raw p = pageDiagnostics ps.raw p := by
    intro p hp
    rw [pageDiagnostics, pageDiagnostics, htext p hp]
  rw [ofParameters, ofParameters, ofRaw, ofRaw, hfilter, hpage .top (by decide), hpage .skip (by decide)]

end Reading

namespace Engine

/-- A strict reading yields the query of the lenient one if the filter and the two page parameters
are as they should be, and the first problem otherwise.  Nothing else in the query string or in the
configuration can make it fail. -/
theorem readStrictly_outcome (c : Config) (text : String) :
    let ps := Parameters.ofText text
    let outcome := (readStrictly c text).value
    (∀ q, outcome = .ok q ↔ Reading.IsFaultless ps ∧ q = (read c text).value.query) ∧
      (∀ d, outcome = .error d ↔ Reading.FirstProblem ps d) ∧
      ∀ (c' : Config) (text' : String),
        (∀ p ∈ [Parameter.filter, Parameter.top, Parameter.skip],
          (Parameters.ofText text').value? p.name = ps.value? p.name) →
        ∀ d, (readStrictly c' text').value = .error d ↔ outcome = .error d := by
  intro ps outcome
  have hstrictly : ∀ (c : Config) (text : String), (readStrictly c text).value =
      (Reading.ofParameters c.maxTop (Parameters.ofText text)).strictly := fun _ _ => rfl
  refine ⟨?_, ?_, ?_⟩
  · intro q
    rw [← @Reading.diagnostics_eq_nil_iff c.maxTop]
    exact Reading.strictly_eq_ok_iff
  · intro d
    rw [← @Reading.head?_diagnostics_iff c.maxTop]
    exact Reading.strictly_eq_error_iff
  · intro c' text' hsame d
    have hdiagnostics := @Reading.diagnostics_congr c.maxTop c'.maxTop _ _ hsame
    rw [hstrictly, Reading.strictly_eq_error_iff, hdiagnostics]
    exact Reading.strictly_eq_error_iff.symm

/-- Letters of any case, a plus and a blank offset are accepted, and repeated or unknown parameters
are not looked at; of two problems the one in the filter comes first, wherever it stands. -/
theorem readStrictly_outcome_first :
    let c : Config := { maxTop := some 3 }
    let fine := "?$top= +07&$filter=a EQ 'x or' AND and\tNe 5 &$skip= &$filter=junk&$orderby=,&x"
    let faulty := "?$skip=-1&$filter=a eq 1 and junk and b like 2&$top=x&$top=1"
    let same := "$top=x&$count=&$filter=a eq 1 and junk and b like 2&$filter=&$skip=-1"
    Reading.IsFaultless (Parameters.ofText fine) ∧
      (readStrictly c fine).value = .ok (read c fine).value.query ∧
      Reading.FirstProblem (Parameters.ofText faulty) (.droppedSegment "junk") ∧
      (readStrictly {} same).value = .error (.droppedSegment "junk") := by
  intro c fine faulty same
  have hfine : (readStrictly c fine).value = .ok (read c fine).value.query := by decide +kernel
  have hfaulty : (readStrictly c faulty).value = .error (.droppedSegment "junk") := by
    decide +kernel
  have hsame : ∀ p ∈ [Parameter.filter, Parameter.top, Parameter.skip],
      (Parameters.ofText same).value? p.name = (Parameters.ofText faulty).value? p.name := by
    decide +kernel
  obtain ⟨hok, -, -⟩ := readStrictly_outcome c fine
  obtain ⟨-, herror, hothers⟩ := readStrictly_outcome c faulty
  exact ⟨((hok _).1 hfine).1, hfine, (herror _).1 hfaulty, (hothers {} same hsame _).2 hfaulty⟩

end Engine

end RecordQuery
