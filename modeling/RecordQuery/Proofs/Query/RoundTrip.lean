import Mathlib.Data.List.Nodup
import Mathlib.Data.Option.Basic
import RecordQuery.Engine
import RecordQuery.Proofs.Query.FilterClause
import RecordQuery.Proofs.Query.Lists
import RecordQuery.Proofs.Query.Parameters

/-!
# Reading back a query

A query is read back from the query string that asks for it, whatever the order of the parameters,
and nothing is reported.  `Query.IsPrintable` says which queries these are.  Its conditions are those
of the cuts that the readers make: no ampersand in any text, no comma in a listed name or item, no
blank in a field of a condition, no blank at the ends of a listed name, and no connective in a
string.  A part that is present must also ask for something, since an empty part is read as an
absent one.
-/

namespace RecordQuery

open Text

/-! ### Parameters -/

namespace Parameter

theorem mem_all (p : Parameter) : p ∈ all := by
  cases p <;> decide

theorem plain_name (p : Parameter) : '&' ∉ p.name.toList ∧ '=' ∉ p.name.toList := by
  cases p <;> decide

end Parameter

namespace Query

/-- The value that asks for a part of the query, if the part is present. -/
def spelling? (q : Query) : Parameter → Option (List Char)
  | .filter => q.conditions.map fun conditions =>
      " and ".toList.intercalate (conditions.map Condition.spelling)
  | .orderBy => q.orderBy.map OrderSpec.spelling
  | .top => q.limit.map Decimal.text
  | .skip => q.offset.map Decimal.text
  | .select => q.select.map fun fields => [','].intercalate (fields.map String.toList)
  | .count => q.count.map fun b => (if b then "true" else "false").toList
  | .search => q.search.map String.toList

theorem parameters_eq (q : Query) :
    q.parameters = Parameter.all.filterMap fun p =>
      (q.spelling? p).map fun s => (p.name, String.ofList s) := by
  simp only [parameters, parameter, Parameter.all, spelling?, List.filterMap_cons, Option.map_map,
    Function.comp_def, List.filterMap_nil, id]

theorem nodup_names_parameters (q : Query) : (q.parameters.map Prod.fst).Nodup := by
  rw [parameters_eq, List.map_filterMap]
  apply List.Nodup.filterMap _ (by decide)
  intro p p' name hp hp'
  simp only [Option.map_map, Option.mem_def, Option.map_eq_some_iff] at hp hp'
  obtain ⟨s, -, rfl⟩ := hp
  obtain ⟨s', -, hname⟩ := hp'
  exact Parameter.name_inj.1 hname.symm

theorem mem_parameters_iff {q : Query} {p : Parameter} {value : String} :
    (p.name, value) ∈ q.parameters ↔ (q.spelling? p).map String.ofList = some value := by
  rw [parameters_eq, List.mem_filterMap, Option.map_eq_some_iff]
  constructor
  · rintro ⟨p', -, hp'⟩
    simp only [Option.map_eq_some_iff, Prod.mk.injEq] at hp'
    obtain ⟨s, hs, hname, hvalue⟩ := hp'
    exact ⟨s, Parameter.name_inj.1 hname ▸ hs, hvalue⟩
  · rintro ⟨s, hs, rfl⟩
    exact ⟨p, p.mem_all, by rw [hs, Option.map_some]⟩

/-- The order of the parameters does not matter to the values that count. -/
theorem value?_of_perm {q : Query} {ps : Parameters} (hperm : ps.Perm q.parameters)
    (p : Parameter) : ps.value? p.name = (q.spelling? p).map String.ofList := by
  have hnodup : (ps.map Prod.fst).Nodup :=
    (hperm.map Prod.fst).nodup_iff.2 q.nodup_names_parameters
  ext value
  rw [Parameters.value?_eq_some_iff hnodup, hperm.mem_iff, mem_parameters_iff]

theorem text?_of_perm {q : Query} {ps : Parameters} (hperm : ps.Perm q.parameters)
    {p : Parameter} (h : ∀ s ∈ q.spelling? p, IsTrimmed s) :
    Reading.text? ps.raw p = q.spelling? p := by
  have hvalue := value?_of_perm hperm p
  cases hs : q.spelling? p with
  | none => simp [Reading.text?, ps.slot_raw, hvalue, hs]
  | some s =>
    have htrimmed := h s hs
    simp [Reading.text?, ps.slot_raw, hvalue, hs, htrimmed.trim, htrimmed.ne_nil]

/-! ### Queries that are read back -/

/-- A query that has a query string from which it is read back, where page sizes are bounded by
`maxTop`. -/
structure IsPrintable (maxTop : Option Nat) (q : Query) : Prop where
  conditions : ∀ conditions ∈ q.conditions, conditions ≠ [] ∧ ∀ c ∈ conditions, c.IsPrintable
  orderBy : ∀ spec ∈ q.orderBy, spec.entries ≠ [] ∧ ∀ field ∈ spec.names, IsListed field
  limit : ∀ n ∈ q.limit, n < Reading.pageLimit ∧ ∀ greatest ∈ maxTop, n ≤ greatest
  offset : ∀ n ∈ q.offset, n < Reading.pageLimit
  select : ∀ fields ∈ q.select, fields ≠ [] ∧ ∀ field ∈ fields, IsListed field
  search : ∀ term ∈ q.search, isBlankText term = false ∧ '&' ∉ term.toList

instance (maxTop : Option Nat) (q : Query) : Decidable (q.IsPrintable maxTop) :=
  decidable_of_iff
    ((∀ conditions ∈ q.conditions, conditions ≠ [] ∧ ∀ c ∈ conditions, c.IsPrintable) ∧
      (∀ spec ∈ q.orderBy, spec.entries ≠ [] ∧ ∀ field ∈ spec.names, IsListed field) ∧
      (∀ n ∈ q.limit, n < Reading.pageLimit ∧ ∀ greatest ∈ maxTop, n ≤ greatest) ∧
      (∀ n ∈ q.offset, n < Reading.pageLimit) ∧
      (∀ fields ∈ q.select, fields ≠ [] ∧ ∀ field ∈ fields, IsListed field) ∧
      ∀ term ∈ q.search, isBlankText term = false ∧ '&' ∉ term.toList)
    ⟨fun h => ⟨h.1, h.2.1, h.2.2.1, h.2.2.2.1, h.2.2.2.2.1, h.2.2.2.2.2⟩,
      fun h => ⟨h.conditions, h.orderBy, h.limit, h.offset, h.select, h.search⟩⟩

theorem isTrimmed_digits (n : Nat) : IsTrimmed (Decimal.text n) := by
  have hdigits := Decimal.allDigits_text n
  have hvisible : Visible (Decimal.text n) := by
    intro c hc
    have hbare : Visible bareChars := by decide
    exact hbare c (mem_bareChars_of_isDigit (hdigits c hc))
  exact hvisible.isTrimmed (Decimal.text_ne_nil n)

theorem ampersand_notMem_digits (n : Nat) : '&' ∉ Decimal.text n := by
  intro hmem
  exact absurd (Decimal.allDigits_text n _ hmem) (by decide)

namespace IsPrintable

variable {maxTop : Option Nat} {q : Query}

theorem ampersand_notMem (h : q.IsPrintable maxTop) (p : Parameter) :
    ∀ s ∈ q.spelling? p, '&' ∉ s := by
  cases p with
  | filter => exact Option.forall_mem_map.2 fun conditions hmem =>
      Filter.ampersand_notMem_intercalate (h.conditions conditions hmem).2
  | orderBy => exact Option.forall_mem_map.2 fun spec hmem =>
      OrderSpec.ampersand_notMem_spelling (h.orderBy spec hmem).2
  | top => exact Option.forall_mem_map.2 fun n _ => ampersand_notMem_digits n
  | skip => exact Option.forall_mem_map.2 fun n _ => ampersand_notMem_digits n
  | select => exact Option.forall_mem_map.2 fun fields hmem =>
      Reading.ampersand_notMem_names (h.select fields hmem).2
  | count => exact Option.forall_mem_map.2 fun b _ => by cases b <;> decide
  | search => exact Option.forall_mem_map.2 fun term hmem => (h.search term hmem).2

theorem isPlain (h : q.IsPrintable maxTop) : ∀ p ∈ q.parameters, Parameters.IsPlain p := by
  intro pair hpair
  rw [parameters_eq, List.mem_filterMap] at hpair
  obtain ⟨p, -, hp⟩ := hpair
  obtain ⟨s, hs, rfl⟩ := Option.map_eq_some_iff.1 hp
  obtain ⟨hampersand, hequals⟩ := p.plain_name
  exact ⟨hampersand, hequals, by rw [String.toList_ofList]; exact h.ampersand_notMem p s hs⟩

/-! ### Part by part -/

variable {ps : Parameters}

theorem filter_eq (h : q.IsPrintable maxTop) (hperm : ps.Perm q.parameters) :
    Reading.filter ps.raw = ⟨q.conditions.getD [], []⟩ := by
  have htext : Reading.text? ps.raw .filter = q.spelling? .filter := by
    apply text?_of_perm hperm
    exact Option.forall_mem_map.2 fun conditions hmem =>
      Filter.isTrimmed_intercalate (h.conditions conditions hmem).1 (h.conditions conditions hmem).2
  rw [Reading.filter, htext, spelling?]
  cases hconditions : q.conditions with
  | none => rfl
  | some conditions =>
    obtain ⟨hne, hall⟩ := h.conditions conditions hconditions
    rw [Option.map_some, Option.map_some, Filter.ofText_intercalate hne hall]
    rfl

theorem conditions_eq (h : q.IsPrintable maxTop) (hperm : ps.Perm q.parameters) :
    (Reading.queryOf maxTop ps.raw).conditions = q.conditions := by
  have hfilter := h.filter_eq hperm
  simp only [Reading.queryOf, hfilter]
  cases hconditions : q.conditions with
  | none => rfl
  | some conditions =>
    obtain ⟨hne, -⟩ := h.conditions conditions hconditions
    simp [hne]

theorem orderBy_eq (h : q.IsPrintable maxTop) (hperm : ps.Perm q.parameters) :
    (Reading.queryOf maxTop ps.raw).orderBy = q.orderBy := by
  have htext : Reading.text? ps.raw .orderBy = q.spelling? .orderBy := by
    apply text?_of_perm hperm
    exact Option.forall_mem_map.2 fun spec hmem =>
      OrderSpec.isTrimmed_spelling (h.orderBy spec hmem).1 (h.orderBy spec hmem).2
  simp only [Reading.queryOf, htext, spelling?]
  cases horder : q.orderBy with
  | none => rfl
  | some spec =>
    obtain ⟨hne, hall⟩ := h.orderBy spec horder
    rw [Option.map_some, Option.map_some, OrderSpec.ofText_spelling hne hall]
    simp [FieldMap.isEmpty, hne]

/-- A page parameter is read back as the number that it was written from. -/
theorem pageNumber_eq (hperm : ps.Perm q.parameters) {p : Parameter} {number : Option Nat}
    (hp : q.spelling? p = number.map Decimal.text)
    (hsmall : ∀ n ∈ number, n < Reading.pageLimit) :
    (Reading.text? ps.raw p).bind Reading.pageNumber? = number ∧
      Reading.pageDiagnostics ps.raw p = [] := by
  have htext : Reading.text? ps.raw p = number.map Decimal.text := by
    rw [← hp]
    apply text?_of_perm hperm
    rw [hp]
    exact Option.forall_mem_map.2 fun n _ => isTrimmed_digits n
  rw [Reading.pageDiagnostics, htext]
  cases number with
  | none => exact ⟨rfl, rfl⟩
  | some n =>
    have hread := Reading.pageNumber?_text (hsmall n rfl)
    simp [hread]

theorem limit_eq (h : q.IsPrintable maxTop) (hperm : ps.Perm q.parameters) :
    (Reading.queryOf maxTop ps.raw).limit = q.limit := by
  have hread := (pageNumber_eq hperm (p := .top) rfl fun n hn => (h.limit n hn).1).1
  simp only [Reading.queryOf, hread]
  cases hlimit : q.limit with
  | none => rfl
  | some n =>
    cases maxTop with
    | none => rfl
    | some greatest =>
      have hle := (h.limit n hlimit).2 greatest rfl
      rw [Option.map_some, Reading.capped, Nat.min_eq_left hle]

theorem offset_eq (h : q.IsPrintable maxTop) (hperm : ps.Perm q.parameters) :
    (Reading.queryOf maxTop ps.raw).offset = q.offset :=
  (pageNumber_eq hperm (p := .skip) rfl h.offset).1

theorem select_eq (h : q.IsPrintable maxTop) (hperm : ps.Perm q.parameters) :
    (Reading.queryOf maxTop ps.raw).select = q.select := by
  have htext : Reading.text? ps.raw .select = q.spelling? .select := by
    apply text?_of_perm hperm
    exact Option.forall_mem_map.2 fun fields hmem =>
      Reading.isTrimmed_names (h.select fields hmem).1 (h.select fields hmem).2
  simp only [Reading.queryOf, htext, spelling?]
  cases hselect : q.select with
  | none => rfl
  | some fields =>
    obtain ⟨hne, hall⟩ := h.select fields hselect
    rw [Option.map_some, Option.map_some, Reading.selection_intercalate hne hall]
    simp [hne]

theorem count_eq (maxTop : Option Nat) (hperm : ps.Perm q.parameters) :
    (Reading.queryOf maxTop ps.raw).count = q.count := by
  have hvalue : ps.raw.count = _ := (ps.slot_raw .count).trans (value?_of_perm hperm .count)
  simp only [Reading.queryOf, hvalue, spelling?]
  cases q.count with
  | none => rfl
  | some b => cases b <;> decide

theorem search_eq (h : q.IsPrintable maxTop) (hperm : ps.Perm q.parameters) :
    (Reading.queryOf maxTop ps.raw).search = q.search := by
  have hvalue : ps.raw.search = _ := (ps.slot_raw .search).trans (value?_of_perm hperm .search)
  simp only [Reading.queryOf, hvalue, spelling?]
  cases hsearch : q.search with
  | none => rfl
  | some term =>
    obtain ⟨hblank, -⟩ := h.search term hsearch
    simp [String.ofList_toList, hblank]

theorem queryOf_eq (h : q.IsPrintable maxTop) (hperm : ps.Perm q.parameters) :
    Reading.queryOf maxTop ps.raw = q := by
  have hconditions := h.conditions_eq hperm
  have horder := h.orderBy_eq hperm
  have hlimit := h.limit_eq hperm
  have hoffset := h.offset_eq hperm
  have hselect := h.select_eq hperm
  have hcount := count_eq maxTop hperm
  have hsearch := h.search_eq hperm
  cases hread : Reading.queryOf maxTop ps.raw with
  | mk conditions orderBy limit offset select count search =>
    rw [hread] at hconditions horder hlimit hoffset hselect hcount hsearch
    cases q
    subst hconditions horder hlimit hoffset hselect hcount hsearch
    rfl

/-- A query is read back from its parameters in any order, and nothing is reported. -/
theorem ofParameters_eq (h : q.IsPrintable maxTop) (hperm : ps.Perm q.parameters) :
    Reading.ofParameters maxTop ps = ⟨q, []⟩ := by
  have htop := (pageNumber_eq hperm (p := .top) rfl fun n hn => (h.limit n hn).1).2
  have hskip := (pageNumber_eq hperm (p := .skip) rfl h.offset).2
  rw [Reading.ofParameters, Reading.ofRaw, h.queryOf_eq hperm, h.filter_eq hperm, htop, hskip]
  rfl

end IsPrintable

end Query

namespace Engine

theorem value_read (c : Config) (text : String) :
    (read c text).value = Reading.ofParameters c.maxTop (Parameters.ofText text) :=
  rfl

theorem value_readStrictly (c : Config) (text : String) :
    (readStrictly c text).value = (read c text).value.strictly :=
  rfl

/-- A query is read back from the query string that asks for it, whatever the order of the
parameters, by a lenient reading and by a strict one. -/
theorem read_text (c : Config) (q : Query) (ps : Parameters) (h : q.IsPrintable c.maxTop)
    (hperm : ps.Perm q.parameters) :
    (read c ps.text).value = ⟨q, []⟩ ∧ (readStrictly c ps.text).value = .ok q := by
  have hplain : ∀ p ∈ ps, Parameters.IsPlain p := fun p hp => h.isPlain p (hperm.mem_iff.1 hp)
  have hread : (read c ps.text).value = ⟨q, []⟩ := by
    rw [value_read, Parameters.ofText_text hplain]
    exact h.ofParameters_eq hperm
  constructor
  · exact hread
  · rw [value_readStrictly, hread, Reading.strictly]

/-- Among what is read back: a field called `and`, strings with quotes, parentheses and operators in
them and connectives at their ends, an empty item of a list, the smallest negative number, a leap
second, and a sort key whose name ends like a direction. -/
theorem read_text_connectives :
    let c : Config := { maxTop := some 5 }
    let leap : Instant := ⟨⟨2016, 12, 31, by decide⟩, 86399, 1500000000, by decide⟩
    let q : Query :=
      { conditions := some
          [⟨"and", .ne, .string "or x' eq ('7' and", rfl⟩,
            .among "a=b" ["", "and", "or '(", " 5 "],
            ⟨"n", .lt, .number (.real true ⟨1, by decide⟩), rfl⟩,
            ⟨"or", .ge, .date leap, rfl⟩]
        orderBy := some (.ofList [("a desc", .ascending), ("b", .descending)])
        limit := some 5
        offset := some 0
        select := some ["a b", "a b"]
        count := some false
        search := some " x=1? " }
    q.IsPrintable c.maxTop ∧ q.parameters.reverse.Perm q.parameters ∧
      (read c (Parameters.text q.parameters.reverse)).value = ⟨q, []⟩ ∧
      (readStrictly c (Parameters.text q.parameters.reverse)).value = .ok q := by
  intro c leap q
  have hprintable : q.IsPrintable c.maxTop := by decide +kernel
  have hperm : q.parameters.reverse.Perm q.parameters := List.reverse_perm q.parameters
  exact ⟨hprintable, hperm, read_text c q q.parameters.reverse hprintable hperm⟩

end Engine

end RecordQuery
