import HydrationPlan.Proofs.NameKeyed
import HydrationPlan.Proofs.Notation.Grammar

/-!
# Types as their notation tells them

The notation marks a type as nullable at most once. On such types two notions of a list agree: the
outermost wrapper is a list, and some wrapper is one. They part at a nullable type directly inside a
nullable type, which no notation denotes.
-/

namespace HydrationPlan

namespace TypeRef

variable {t : TypeRef}

/-- No nullable type is directly inside a nullable type. -/
def Canonical : TypeRef → Prop
  | named _ => True
  | nullable t => t.isNullable = false ∧ t.Canonical
  | list e => e.Canonical

instance decidableCanonical : DecidablePred Canonical
  | named _ => inferInstanceAs (Decidable True)
  | nullable t =>
    have := decidableCanonical t
    inferInstanceAs (Decidable (t.isNullable = false ∧ t.Canonical))
  | list e => decidableCanonical e

theorem Margin.canonical_type (m : Margin) (hnull : t.isNullable = false) (h : t.Canonical) :
    (m.type t).Canonical := by
  unfold Margin.type
  split
  · exact h
  · exact ⟨hnull, h⟩

theorem Phrase.canonical_type (p : Phrase) : p.type.Canonical := by
  induction p with
  | name m word => exact m.canonical_type rfl trivial
  | list m e ih => exact m.canonical_type rfl ih

/-- Every type that is read from its notation is canonical. -/
theorem canonical_of_parse {s : String} (h : parse s = .ok t) : t.Canonical := by
  obtain ⟨p, -, rfl⟩ := Phrase.exists_of_ofChars h
  exact p.canonical_type

/-- A list, nullable or not, of names that are nullable or not. -/
def IsSingleList (t : TypeRef) : Prop :=
  ∃ element name, t.nonNull = list element ∧ element.nonNull = named name

theorem Canonical.nonNull_cases (h : t.Canonical) :
    (∃ name, t.nonNull = named name ∧ t.listDepth = 0) ∨
      ∃ e, t.nonNull = list e ∧ e.Canonical ∧ t.listDepth = e.listDepth + 1 := by
  cases t with
  | named name => exact .inl ⟨name, rfl, rfl⟩
  | list e => exact .inr ⟨e, rfl, h, rfl⟩
  | nullable t =>
    obtain ⟨hnull, ht⟩ := h
    cases t with
    | named name => exact .inl ⟨name, rfl, rfl⟩
    | list e => exact .inr ⟨e, rfl, ht, rfl⟩
    | nullable t => cases hnull

theorem isList_iff_listDepth_pos (h : t.Canonical) : t.isList = true ↔ 0 < t.listDepth := by
  rcases h.nonNull_cases with ⟨name, hname, hdepth⟩ | ⟨e, he, -, hdepth⟩
  · simp [isList, listElement?, hname, hdepth]
  · simp [isList, listElement?, he, hdepth]

theorem isSingleList_of_listDepth (h : t.Canonical) (hdepth : t.listDepth = 1) :
    t.IsSingleList := by
  rcases h.nonNull_cases with ⟨name, -, hzero⟩ | ⟨e, he, hcanonical, hsucc⟩
  · omega
  · refine ⟨e, ?_⟩
    rcases hcanonical.nonNull_cases with ⟨name, hname, -⟩ | ⟨_, -, -, hdeep⟩
    · exact ⟨name, he, hname⟩
    · omega

end TypeRef

namespace Schema

variable {s : Schema}

/-- The types of all fields of objects and interfaces and of their arguments are canonical. -/
def Canonical (s : Schema) : Prop :=
  ∀ e ∈ s.types.entries, ∀ t ∈ e.2.fielded?, ∀ f ∈ t.fields.values,
    f.type.Canonical ∧ ∀ a ∈ f.arguments.values, a.type.Canonical

instance : Decidable s.Canonical :=
  inferInstanceAs (Decidable (∀ e ∈ s.types.entries, ∀ t ∈ e.2.fielded?, ∀ f ∈ t.fields.values,
    f.type.Canonical ∧ ∀ a ∈ f.arguments.values, a.type.Canonical))

theorem Canonical.of_fieldsOf? (hs : s.Canonical) {typeName : String} {fields : Table String Field}
    (h : s.fieldsOf? typeName = some fields) {f : Field} (hf : f ∈ fields.values) :
    f.type.Canonical ∧ ∀ a ∈ f.arguments.values, a.type.Canonical := by
  obtain ⟨t, ht, rfl⟩ := Option.map_eq_some_iff.mp h
  obtain ⟨d, hd, hdt⟩ := fielded?_eq_some ht
  exact hs _ hd t hdt f hf

theorem Canonical.of_field? (hs : s.Canonical) {typeName fieldName : String} {f : Field}
    (h : s.field? typeName fieldName = some f) :
    f.type.Canonical ∧ ∀ a ∈ f.arguments.values, a.type.Canonical := by
  obtain ⟨fields, hfields, hf⟩ := Option.bind_eq_some_iff.mp h
  exact hs.of_fieldsOf? hfields (Table.mem_values_of_mem ((Table.get?_eq_some_iff ..).mp hf))

end Schema

end HydrationPlan
