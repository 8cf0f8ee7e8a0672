import HydrationPlan.Schema.Follow

/-!
# Following paths in two parts

A path is followed by following its first part, and then the rest of it from the type that the first
part has reached.
-/

namespace HydrationPlan.Schema

variable {s : Schema} {typeName name : String} {first rest : List String}

theorem follow?_cons (h : rest ≠ []) :
    s.follow? typeName (name :: rest) = (s.field? typeName name).bind fun f =>
      (s.follow? f.type.namedType rest).map fun r => ⟨r.field, f.type.isList || r.yieldsList⟩ := by
  rw [follow?.eq_3 _ _ _ _ h]
  simp only [Option.bind_eq_bind, Option.pure_def, Option.map_eq_bind, Function.comp_def]

theorem follow?_append (hfirst : first ≠ []) (hrest : rest ≠ []) :
    s.follow? typeName (first ++ rest) = (s.follow? typeName first).bind fun a =>
      (s.follow? a.field.type.namedType rest).map fun b =>
        ⟨b.field, a.yieldsList || b.yieldsList⟩ := by
  induction first generalizing typeName with
  | nil => exact absurd rfl hfirst
  | cons name first ih =>
    cases first with
    | nil =>
      rw [List.singleton_append, follow?_cons hrest, follow?, Option.bind_map]
      rfl
    | cons next first =>
      have happend : next :: first ++ rest ≠ [] := List.append_ne_nil_of_right_ne_nil _ hrest
      rw [List.cons_append, follow?_cons happend, follow?_cons (List.cons_ne_nil next first)]
      cases s.field? typeName name with
      | none => rfl
      | some f =>
        simp only [Option.bind_some, ih (List.cons_ne_nil next first), Option.bind_map,
          Option.map_bind, Function.comp_def, Option.map_map, Bool.or_assoc]

/-- The path ends at a list. -/
def ListAt (s : Schema) (typeName : String) (path : List String) : Prop :=
  ∃ r, s.follow? typeName path = some r ∧ r.field.type.isList = true

theorem listAt_singleton {f : Field} (hf : s.field? typeName name = some f) :
    s.ListAt typeName [name] ↔ f.type.isList = true := by
  rw [ListAt, follow?, hf, Option.map_some]
  simp

theorem listAt_cons {f : Field} (hf : s.field? typeName name = some f) (h : rest ≠ []) :
    s.ListAt typeName (name :: rest) ↔ s.ListAt f.type.namedType rest := by
  simp only [ListAt, follow?_cons h, hf, Option.bind_some, Option.map_eq_some_iff]
  constructor
  · rintro ⟨_, ⟨r, hr, rfl⟩, hlist⟩
    exact ⟨r, hr, hlist⟩
  · rintro ⟨r, hr, hlist⟩
    exact ⟨_, ⟨r, hr, rfl⟩, hlist⟩

/-- A path yields a list exactly if it ends at one or some part at its beginning does. -/
theorem yieldsList_iff {path : List String} {reached : Reached}
    (h : s.follow? typeName path = some reached) :
    reached.yieldsList = true ↔ ∃ part, part ≠ [] ∧ part <+: path ∧ s.ListAt typeName part := by
  induction path generalizing typeName reached with
  | nil => cases h
  | cons name path ih =>
    obtain ⟨f, hf⟩ : ∃ f, s.field? typeName name = some f := by
      cases path with
      | nil => exact (Option.map_eq_some_iff.mp h).imp fun _ => And.left
      | cons next path =>
        rw [follow?_cons (List.cons_ne_nil next path)] at h
        exact (Option.bind_eq_some_iff.mp h).imp fun _ => And.left
    -- A part of the path is its first name, or goes on with a part of the rest.
    have hparts : (∃ part, part ≠ [] ∧ part <+: name :: path ∧ s.ListAt typeName part) ↔
        f.type.isList = true ∨
          ∃ part, part ≠ [] ∧ part <+: path ∧ s.ListAt f.type.namedType part := by
      constructor
      · rintro ⟨part, hne, hpart, hlist⟩
        obtain ⟨first, part, rfl⟩ := List.exists_cons_of_ne_nil hne
        obtain ⟨rfl, hrest⟩ := List.cons_prefix_cons.mp hpart
        by_cases hend : part = []
        · subst hend
          exact .inl ((listAt_singleton hf).mp hlist)
        · exact .inr ⟨part, hend, hrest, (listAt_cons hf hend).mp hlist⟩
      · rintro (hlist | ⟨part, hne, hpart, hlist⟩)
        · exact ⟨[name], List.cons_ne_nil name [], by simp, (listAt_singleton hf).mpr hlist⟩
        · exact ⟨name :: part, List.cons_ne_nil name part, by simpa using hpart,
            (listAt_cons hf hne).mpr hlist⟩
    rw [hparts]
    cases path with
    | nil =>
      have hnone : ¬ ∃ part, part ≠ [] ∧ part <+: [] ∧ s.ListAt f.type.namedType part := by
        rintro ⟨part, hne, hpart, -⟩
        exact hne (List.prefix_nil.mp hpart)
      rw [follow?, hf, Option.map_some, Option.some.injEq] at h
      rw [or_iff_left hnone, ← h]
    | cons next path =>
      rw [follow?_cons (List.cons_ne_nil next path), hf, Option.bind_some] at h
      obtain ⟨below, hbelow, rfl⟩ := Option.map_eq_some_iff.mp h
      rw [Bool.or_eq_true, ih hbelow]

end HydrationPlan.Schema
