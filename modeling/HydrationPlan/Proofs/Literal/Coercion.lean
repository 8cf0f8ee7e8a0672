import HydrationPlan.Literal.Coercion
import HydrationPlan.Proofs.Schema.Alike

/-!
# What the coercion of a literal reads

The rules of GraphQL look up scalars, enums and input objects. A literal is never compared with
the fields of an object or interface, and how those are annotated does not matter to it.
-/

namespace HydrationPlan

namespace Literal

section Entries

variable (s : Schema) {typeName : String} {entries done : List (String × Literal)}
variable {field : InputValue} {rest : List InputValue}

theorem coerceFields_of_entry {v : Literal} (hv : lookup? field.name entries = some v) :
    coerceFields s typeName entries (field :: rest) done = (do
      let w ← coerce s v field.type
      coerceFields s typeName entries rest (upsert field.name w done)) := by
  rw [coerceFields]
  split
  · rename_i u hu
    cases hv.symm.trans hu
    rfl
  · rename_i hu
    cases hv.symm.trans hu

theorem coerceFields_of_default {default : Literal} (hv : lookup? field.name entries = none)
    (hdefault : field.defaultValue = some default) :
    coerceFields s typeName entries (field :: rest) done =
      coerceFields s typeName entries rest (upsert field.name default done) := by
  rw [coerceFields]
  split
  · rename_i u hu
    cases hv.symm.trans hu
  · rw [hdefault]

theorem coerceFields_of_absent (hv : lookup? field.name entries = none)
    (hdefault : field.defaultValue = none) :
    coerceFields s typeName entries (field :: rest) done =
      if field.type.isNullable then coerceFields s typeName entries rest done
      else .error (.missingInputField typeName field.name) := by
  rw [coerceFields]
  split
  · rename_i u hu
    cases hv.symm.trans hu
  · rw [hdefault]

end Entries

variable {R : Field → Field → Prop} {s t : Schema}

theorem coerceNamed_eq_of_unlisted (h : s.Related R t) (v : Literal) {name : String}
    (hscalar : ∀ u, s.type? name ≠ some (.scalar u)) (henum : ∀ u, s.type? name ≠ some (.enum u))
    (hinput : ∀ u, s.type? name ≠ some (.inputObject u)) :
    coerceNamed s v name = coerceNamed t v name := by
  have hname := h.type? name
  unfold coerceNamed
  generalize s.type? name = x at hscalar henum hinput hname ⊢
  generalize t.type? name = y at hname ⊢
  cases hname with
  | none => rfl
  | @some d _ hde =>
    cases hde with
    | object _ => rfl
    | interface _ => rfl
    | other _ =>
      cases d with
      | scalar u => exact absurd rfl (hscalar u)
      | enum u => exact absurd rfl (henum u)
      | inputObject u => exact absurd rfl (hinput u)
      | _ => rfl

theorem coerce_eq_of_related (h : s.Related R t) (v : Literal) (r : TypeRef) :
    coerce s v r = coerce t v r := by
  -- The four functions are compared along their common recursion.
  apply coerce.induct s (fun v r => coerce s v r = coerce t v r)
    (fun v name => coerceNamed s v name = coerceNamed t v name)
    (fun typeName entries fields done =>
      coerceFields s typeName entries fields done = coerceFields t typeName entries fields done)
    (fun items e => coerceItems s items e = coerceItems t items e)
  case case1 =>
    intro v r hv
    simp only [coerce, hv, if_true]
  case case2 =>
    intro v r hv ih
    simp only [coerce, ih]
  case case3 =>
    intro v e hv
    cases v with
    | null => simp only [coerce, isNull, if_true]
    | _ => cases hv
  case case4 =>
    intro e items hv ih
    simp only [coerce, ih]
  case case5 =>
    intro e single hlist hv ih
    rw [coerce, coerce, ih]
    all_goals exact hlist
  case case6 =>
    intro v name hv
    simp only [coerce, hv, if_true]
  case case7 =>
    intro v name hv ih
    simp only [coerce, ih]
  case case8 =>
    intro v name scalar hscalar
    simp only [coerceNamed, hscalar]
  case case9 | case10 =>
    intro v name hscalar type htype
    simp only [coerceNamed, htype, h.type?_eq_some htype rfl]
  case case11 =>
    intro name hscalar type htype entries unknown hunknown
    simp only [coerceNamed, hscalar, htype, h.type?_eq_some htype rfl, hunknown]
  case case12 =>
    intro name hscalar type htype entries hknown ih
    simp only [coerceNamed, htype, h.type?_eq_some htype rfl, ih]
  case case13 =>
    intro name hscalar type htype v hv
    cases v with
    | object entries => exact absurd rfl (hv entries)
    | _ => simp only [coerceNamed, htype, h.type?_eq_some htype rfl]
  case case14 =>
    intro v name _ hscalar henum hinput
    exact coerceNamed_eq_of_unlisted h v hscalar henum hinput
  case case15 =>
    intro typeName entries done
    simp only [coerceFields]
  case case16 =>
    intro typeName entries done field rest v hv _ ih ihrest
    rw [coerceFields_of_entry s hv, coerceFields_of_entry t hv, ih, funext ihrest]
  case case17 =>
    intro typeName entries done field rest hv default hdefault ih
    rw [coerceFields_of_default s hv hdefault, coerceFields_of_default t hv hdefault, ih]
  case case18 =>
    intro typeName entries done field rest hv hdefault _ ih
    rw [coerceFields_of_absent s hv hdefault, coerceFields_of_absent t hv hdefault, ih]
  case case19 =>
    intro typeName entries done field rest hv hdefault hnull
    rw [coerceFields_of_absent s hv hdefault, coerceFields_of_absent t hv hdefault, if_neg hnull,
      if_neg hnull]
  case case20 =>
    intro e
    simp only [coerceItems]
  case case21 =>
    intro e v rest ih ihrest
    simp only [coerceItems, ih, ihrest]

/-- Schemas that differ in fields at most give the same rules. -/
theorem rules_eq_of_related (h : s.Related R t) : rules s = rules t :=
  funext fun v => funext fun r => coerce_eq_of_related h v r

theorem rules_eq_of_alike (h : s.Alike t) : rules s = rules t := rules_eq_of_related h.related

/-- A host may read all of the schema. This one keeps to the rules of GraphQL, but where the schema
is marked it refuses strings and takes everything else as it is. -/
def rulesRefusing (marked : Schema → Bool) : LiteralRules := fun s v t =>
  if marked s then
    match v with
    | string _ => .error (.notAnInputType t.text)
    | v => .ok v
  else coerce s v t

end Literal

end HydrationPlan
