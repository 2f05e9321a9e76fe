import RecordQuery.Proofs.FieldMap
import RecordQuery.Proofs.Query.EntryPoints
import RecordQuery.Proofs.Query.Strictness

/-!
# First values

Of a list of parameters seven values count: for each recognised name the one that stands with it
where it stands first.  Lists that agree in them are read alike, down to the order of the
diagnostics and the lines of the log, be they given as lists or as query strings
(`Engine.readParameters_of_agreeOn`).

So other names are not looked at, nor is what repeats a name, even if the first value is blank or
invalid and the later one good; and parameters with different names may change places.
-/

namespace RecordQuery

namespace Parameters

variable {ps ps' : Parameters} {name value : String}

/-- The value stands with the name where the name stands first. -/
def IsFirstValue (ps : Parameters) (name value : String) : Prop :=
  ∃ front back, ps = front ++ (name, value) :: back ∧ name ∉ front.map Prod.fst

/-- The name has the same first value in both lists or is in neither. -/
def AgreeOn (name : String) (ps ps' : Parameters) : Prop :=
  (∃ value, ps.IsFirstValue name value ∧ ps'.IsFirstValue name value) ∨
    name ∉ ps.map Prod.fst ∧ name ∉ ps'.map Prod.fst

/-- The look-up finds the first value. -/
theorem isFirstValue_iff : ps.IsFirstValue name value ↔ ps.value? name = some value := by
  simp only [IsFirstValue, ← FieldMap.forall_bne_iff, value?, List.lookup_eq_some_iff]

theorem value?_eq_none_iff : ps.value? name = none ↔ name ∉ ps.map Prod.fst :=
  FieldMap.lookup_eq_none_iff_notMem

theorem agreeOn_iff : AgreeOn name ps ps' ↔ ps.value? name = ps'.value? name := by
  simp only [AgreeOn, isFirstValue_iff, ← value?_eq_none_iff]
  constructor
  · rintro (⟨value, hvalue, hvalue'⟩ | ⟨hnone, hnone'⟩)
    · rw [hvalue, hvalue']
    · rw [hnone, hnone']
  · intro h
    cases hvalue : ps'.value? name with
    | none => exact Or.inr ⟨h.trans hvalue, rfl⟩
    | some value => exact Or.inl ⟨value, h.trans hvalue, rfl⟩

theorem value?_append (front back : Parameters) (name : String) :
    value? (front ++ back) name = (front.value? name).or (back.value? name) :=
  List.lookup_append

theorem value?_cons (q : String × String) (ps : Parameters) (name : String) :
    value? (q :: ps) name = if name = q.1 then some q.2 else ps.value? name :=
  FieldMap.lookup_cons q.1 q.2 ps name

/-! ### Lists that agree -/

variable {front back : Parameters} {q q' : String × String}

theorem agreeOn_of_ne (h : name ≠ q.1) : AgreeOn name (front ++ q :: back) (front ++ back) := by
  rw [agreeOn_iff, value?_append, value?_append, value?_cons, if_neg h]

theorem agreeOn_of_repeated (h : q.1 ∈ front.map Prod.fst) :
    AgreeOn name (front ++ q :: back) (front ++ back) := by
  by_cases hname : name = q.1
  · have hfirst : front.value? name ≠ none := by
      rw [hname]
      exact fun hnone => value?_eq_none_iff.1 hnone h
    obtain ⟨value, hvalue⟩ := Option.ne_none_iff_exists'.1 hfirst
    rw [agreeOn_iff, value?_append, value?_append, hvalue, Option.some_or, Option.some_or]
  · exact agreeOn_of_ne hname

theorem agreeOn_of_exchanged (h : q.1 ≠ q'.1) :
    AgreeOn name (front ++ q :: q' :: back) (front ++ q' :: q :: back) := by
  rw [agreeOn_iff, value?_append, value?_append, value?_cons, value?_cons, value?_cons, value?_cons]
  by_cases hname : name = q.1
  · have hother : name ≠ q'.1 := hname ▸ h
    rw [if_pos hname, if_neg hother, if_pos hname]
  · rw [if_neg hname, if_neg hname]

end Parameters

/-- What is read of a list of parameters depends on the values that count for the seven names. -/
theorem Reading.ofParameters_congr {maxTop : Option Nat} {ps ps' : Parameters}
    (h : ∀ p : Parameter, ps.value? p.name = ps'.value? p.name) :
    ofParameters maxTop ps = ofParameters maxTop ps' := by
  have hraw : ps.raw = ps'.raw := by
    apply RawParameters.ext_slot
    intro p
    rw [ps.slot_raw, ps'.slot_raw, h p]
  rw [ofParameters, hraw, ofParameters]

namespace Engine

open Parameters

/-- Parameters that agree on the seven names are read alike, as lists and as query strings.  This is
so if they differ in parameters with other names, in what repeats a name or in the order of
different names. -/
theorem readParameters_of_agreeOn (c : Config) :
    (∀ ps ps' : Parameters, (∀ p : Parameter, AgreeOn p.name ps ps') →
        readParameters c ps = readParameters c ps' ∧
          ((∀ q ∈ ps, IsPlain q) → (∀ q ∈ ps', IsPlain q) → read c ps.text = read c ps'.text)) ∧
      (∀ (front back : Parameters) q, (∀ p : Parameter, p.name ≠ q.1) →
        readParameters c (front ++ q :: back) = readParameters c (front ++ back)) ∧
      (∀ (front back : Parameters) q, q.1 ∈ front.map Prod.fst →
        readParameters c (front ++ q :: back) = readParameters c (front ++ back)) ∧
      ∀ (front back : Parameters) q q', q.1 ≠ q'.1 →
        readParameters c (front ++ q :: q' :: back) =
          readParameters c (front ++ q' :: q :: back) := by
  have hread : ∀ ps ps' : Parameters, (∀ p : Parameter, AgreeOn p.name ps ps') →
      readParameters c ps = readParameters c ps' := by
    intro ps ps' h
    rw [readParameters, readParameters, Reading.ofParameters_congr fun p => agreeOn_iff.1 (h p)]
  refine ⟨fun ps ps' h => ⟨hread ps ps' h, fun hplain hplain' => ?_⟩, ?_, ?_, ?_⟩
  · rw [read, read, ofText_text hplain, ofText_text hplain', hread ps ps' h]
  · intro front back q hother
    exact hread _ _ fun p => agreeOn_of_ne (hother p)
  · intro front back q hrepeated
    exact hread _ _ fun p => agreeOn_of_repeated hrepeated
  · intro front back q q' hne
    exact hread _ _ fun p => agreeOn_of_exchanged hne

/-- The first `$top` is blank and the first `$skip` invalid, with good ones behind them; a filter in
another spelling is unknown. -/
theorem readParameters_of_agreeOn_later :
    let c : Config := { maxTop := some 3, logLevel := .trace }
    let ps : Parameters := [("page", "1"), ("$top", " "), ("$skip", "x"),
      ("$filter", "a eq 1 or junk"), ("$top", "5"), ("$skip", "2")]
    let ps' : Parameters := [("$Filter", "b eq 2"), ("$filter", "a eq 1 or junk"), ("$skip", "x"),
      ("$filter", ""), ("$top", " ")]
    (∀ p : Parameter, AgreeOn p.name ps ps') ∧
      readParameters c ps = readParameters c ps' ∧
      read c ps.text = read c ps'.text ∧
      (read c ps.text).value.query = { conditions := some [.ofToken "a" .eq ['1']] } ∧
      (read c ps.text).value.diagnostics =
        [.orIgnored, .droppedSegment "junk", .invalidNumber "$skip" "x"] ∧
      readParameters c (ps.take 4 ++ ps.drop 5) = readParameters c ps := by
  intro c ps ps'
  have hagree : ∀ p : Parameter, AgreeOn p.name ps ps' := by
    intro p
    apply agreeOn_iff.2
    cases p <;> decide
  obtain ⟨hread, -, hrepeated, -⟩ := readParameters_of_agreeOn c
  obtain ⟨hsame, htexts⟩ := hread ps ps' hagree
  exact ⟨hagree, hsame, htexts (by decide) (by decide), by decide +kernel, by decide +kernel,
    (hrepeated (ps.take 4) (ps.drop 5) ("$top", "5") (by decide)).symm⟩

end Engine

end RecordQuery
