import HydrationPlan.Proofs.Canonical

/-!
# Types and their notation

The notation of a type tells the type but for one thing: a nullable type inside a nullable type is
not marked anew, so that it is read as nullable once. What is read is canonical, with a name of
letters, digits and underscores below its wrappers, and of such types the notation tells all.
-/

namespace HydrationPlan.TypeRef

variable {t u : TypeRef}

/-! ## Nullability that is told once -/

/-- The type with every run of nullability wrappers made one. -/
def collapsed : TypeRef → TypeRef
  | named n => named n
  | nullable t => nullable t.collapsed.nonNull
  | list e => list e.collapsed

theorem Canonical.nonNull (h : t.Canonical) :
    t.nonNull.isNullable = false ∧ t.nonNull.Canonical := by
  cases t with
  | nullable t => exact h
  | named n => exact ⟨rfl, trivial⟩
  | list e => exact ⟨rfl, h⟩

theorem nonNull_eq_self (h : t.isNullable = false) : t.nonNull = t := by
  cases t with
  | nullable t => cases h
  | _ => rfl

theorem canonical_collapsed (t : TypeRef) : t.collapsed.Canonical := by
  induction t with
  | named n => trivial
  | nullable t ih => exact ih.nonNull
  | list e ih => exact ih

theorem collapsed_eq_self_iff : t.collapsed = t ↔ t.Canonical := by
  constructor
  · intro h
    rw [← h]
    exact canonical_collapsed t
  · intro h
    induction t with
    | named n => rfl
    | nullable t ih => rw [collapsed, ih h.2, nonNull_eq_self h.1]
    | list e ih => rw [collapsed, ih h]

theorem core_nonNull (t : TypeRef) : t.nonNull.core = t.core := by
  cases t <;> rfl

theorem isNullable_collapsed (t : TypeRef) : t.collapsed.isNullable = t.isNullable := by
  cases t <;> rfl

theorem core_collapsed (t : TypeRef) : t.collapsed.core = t.core := by
  induction t with
  | named n => rfl
  | nullable t ih => rw [collapsed, core, core_nonNull, ih, core]
  | list e ih =>
    rw [collapsed, core, ih, mark, isNullable_collapsed]
    rfl

theorem text_collapsed (t : TypeRef) : t.collapsed.text = t.text := by
  rw [text, core_collapsed, mark, isNullable_collapsed, ← mark, ← text]

/-! ## Reading a notation -/

/-- The type has a notation: it is canonical, and its name is one. -/
structure Notated (t : TypeRef) : Prop where
  canonical : t.Canonical
  name : isName t.namedType.toList = true

/-- No white space, and a mark or none. -/
def Margin.tight (marked : Bool) : Margin where
  before := ⟨[], nofun⟩
  after := ⟨[], nofun⟩
  mark := if marked then some ⟨[], nofun⟩ else none

theorem Margin.tight_type (t : TypeRef) :
    (tight !t.isNullable).type t.collapsed.nonNull = t.collapsed := by
  cases t <;> rfl

theorem toList_text (t : TypeRef) :
    t.text.toList = (Margin.tight !t.isNullable).around t.core.toList := by
  rw [text, mark, String.toList_append]
  cases t.isNullable <;> rfl

theorem ofChars_core (h : isName t.namedType.toList = true) (marked : Bool) :
    ofChars ((Margin.tight marked).around t.core.toList) =
      .ok ((Margin.tight marked).type t.collapsed.nonNull) := by
  induction t generalizing marked with
  | named n =>
    exact (ofChars_word (isName_iff.mp h) _).trans (by rw [namedType, String.ofList_toList]; rfl)
  | nullable t ih => exact ih h marked
  | list e ih =>
    have htext : ofChars e.text.toList = .ok e.collapsed := by
      rw [toList_text, ih h, Margin.tight_type]
    have hcore : (list e).core.toList = '[' :: (e.text.toList ++ [']']) := by
      rw [core, text]
      simp only [String.toList_append]
      rfl
    rw [hcore]
    exact ofChars_brackets htext _

theorem parse_text_eq_collapsed (h : isName t.namedType.toList = true) :
    parse t.text = .ok t.collapsed := by
  rw [parse, toList_text, ofChars_core h, Margin.tight_type]

/-- The notation of a canonical type tells the type. -/
theorem parse_text (h : t.Notated) : parse t.text = .ok t := by
  rw [parse_text_eq_collapsed h.name, collapsed_eq_self_iff.mpr h.canonical]

theorem Margin.namedType_type (m : Margin) (t : TypeRef) : (m.type t).namedType = t.namedType := by
  unfold Margin.type
  split <;> rfl

theorem Phrase.isWord_namedType (p : Phrase) : IsWord p.type.namedType.toList := by
  induction p with
  | name m word =>
    rw [type, Margin.namedType_type, namedType, String.toList_ofList]
    exact word.property
  | list m e ih => rwa [type, Margin.namedType_type]

theorem notated_of_parse {s : String} (h : parse s = .ok t) : t.Notated := by
  obtain ⟨p, -, rfl⟩ := Phrase.exists_of_ofChars h
  exact ⟨canonical_of_parse h, isName_iff.mpr p.isWord_namedType⟩

/-- A notation is read as the type without its needless nullability, and types are written alike if
they differ in nothing else. So reading undoes writing for canonical types, and these are the types
that are read. -/
theorem parse_text_round_trip :
    (∀ t : TypeRef, IsWord t.namedType.toList →
      parse t.text = .ok t.collapsed ∧ (parse t.text = .ok t ↔ t.Canonical)) ∧
      (∀ t u : TypeRef, IsWord t.namedType.toList → IsWord u.namedType.toList →
        (t.text = u.text ↔ t.collapsed = u.collapsed)) ∧
      ∀ s t, parse s = .ok t →
        t.Canonical ∧ IsWord t.namedType.toList ∧ parse t.text = .ok t := by
  have hread : ∀ t : TypeRef, IsWord t.namedType.toList → parse t.text = .ok t.collapsed :=
    fun t h => parse_text_eq_collapsed (isName_iff.mpr h)
  refine ⟨fun t h => ⟨hread t h, ?_⟩, fun t u ht hu => ⟨fun htext => ?_, fun hsame => ?_⟩,
    fun s t h => ?_⟩
  · rw [hread t h, Except.ok.injEq, collapsed_eq_self_iff]
  · have hparse := hread t ht
    rw [htext, hread u hu] at hparse
    exact (Except.ok.inj hparse).symm
  · rw [← text_collapsed t, hsame, text_collapsed]
  · have hnotated := notated_of_parse h
    exact ⟨hnotated.canonical, isName_iff.mp hnotated.name, parse_text hnotated⟩

end HydrationPlan.TypeRef
