import HydrationPlan.Hydration.Basic
import HydrationPlan.Proofs.Follow
import HydrationPlan.Proofs.Path
import HydrationPlan.Proofs.Table

/-!
# Source paths in parts

A path of the source may be cut anywhere. What its first part reaches is where the rest of it
starts, and it yields a list if one of the two parts does. So every beginning of a path that
resolves resolves too, and what goes on from an object are the fields of the object.
-/

namespace HydrationPlan

namespace Path

variable {p q : Path}

/-- The first path, and then the second one. -/
instance : Append Path :=
  ⟨fun p q => ⟨p.segments ++ q.segments, List.append_ne_nil_of_left_ne_nil p.nonempty _⟩⟩

theorem exists_append_of_isPrefixOf (h : p.isPrefixOf q = true) :
    p = q ∨ ∃ rest, p ++ rest = q := by
  obtain ⟨rest, hrest⟩ := isPrefixOf_iff.mp h
  by_cases hnil : rest = []
  · rw [hnil, List.append_nil] at hrest
    exact .inl (eq_of_segments hrest)
  · exact .inr ⟨⟨rest, hnil⟩, eq_of_segments hrest⟩

end Path

theorem Schema.isSome_field?_iff {s : Schema} {typeName name : String} :
    (s.field? typeName name).isSome = true ↔
      ∃ fields, s.fieldsOf? typeName = some fields ∧ name ∈ fields.keys := by
  rw [field?]
  cases s.fieldsOf? typeName with
  | none => simp
  | some fields => simp [Table.mem_keys_iff, Option.isSome_iff_exists]

namespace Site

variable {s : Site} {p q : Path} {reached : Reached}

def onType (s : Site) (typeName : String) : Site := { s with parentType := typeName }

theorem sourceField?_append (s : Site) (p q : Path) :
    s.sourceField? (p ++ q) = (s.sourceField? p).bind fun a =>
      ((s.onType a.field.type.namedType).sourceField? q).map fun b =>
        ⟨b.field, a.yieldsList || b.yieldsList⟩ :=
  Schema.follow?_append p.nonempty q.nonempty

theorem sourceField?_append_eq_some_iff :
    s.sourceField? (p ++ q) = some reached ↔
      ∃ a b, s.sourceField? p = some a ∧
        (s.onType a.field.type.namedType).sourceField? q = some b ∧
        reached = ⟨b.field, a.yieldsList || b.yieldsList⟩ := by
  rw [sourceField?_append, Option.bind_eq_some_iff]
  constructor
  · rintro ⟨a, ha, hrest⟩
    obtain ⟨b, hb, hreached⟩ := Option.map_eq_some_iff.mp hrest
    exact ⟨a, b, ha, hb, hreached.symm⟩
  · rintro ⟨a, b, ha, hb, rfl⟩
    exact ⟨a, ha, Option.map_eq_some_iff.mpr ⟨b, hb, rfl⟩⟩

/-- A beginning of a path that resolves resolves, and the path yields a list if its beginning
does. -/
theorem exists_sourceField?_of_isPrefixOf (h : p.isPrefixOf q = true)
    (hq : s.sourceField? q = some reached) :
    ∃ a, s.sourceField? p = some a ∧ (a.yieldsList = true → reached.yieldsList = true) := by
  rcases Path.exists_append_of_isPrefixOf h with rfl | ⟨rest, rfl⟩
  · exact ⟨reached, hq, id⟩
  · obtain ⟨a, b, ha, -, rfl⟩ := sourceField?_append_eq_some_iff.mp hq
    refine ⟨a, ha, fun hlist => ?_⟩
    rw [hlist, Bool.true_or]

/-- A path goes on with the fields of the object that it has reached. -/
theorem isSome_sourceField?_child (h : s.sourceField? p = some reached) (name : String) :
    (s.sourceField? (p.child name)).isSome = true ↔
      ∃ fields, s.engine.fieldsOf? reached.field.type.namedType = some fields ∧
        name ∈ fields.keys := by
  have happend : p.child name = p ++ ⟨[name], List.cons_ne_nil name []⟩ := rfl
  rw [← Schema.isSome_field?_iff, happend, sourceField?_append, h, Option.bind_some,
    Option.isSome_map]
  exact Bool.eq_iff_iff.mp Option.isSome_map

/-- A path is followed by following one part after the other. Its beginnings resolve with it, and
hand on that they yield a list; from an object it goes on with the keys of the object's fields, and
from any other type it does not go on. -/
theorem sourceField?_composes (s : Site) (p q : Path) :
    (∀ reached, s.sourceField? (p ++ q) = some reached ↔
      ∃ a b, s.sourceField? p = some a ∧
        (s.onType a.field.type.namedType).sourceField? q = some b ∧
        reached = ⟨b.field, a.yieldsList || b.yieldsList⟩) ∧
      (p.isPrefixOf q = true → ∀ b, s.sourceField? q = some b →
        ∃ a, s.sourceField? p = some a ∧ (a.yieldsList = true → b.yieldsList = true)) ∧
      ∀ a, s.sourceField? p = some a → ∀ name,
        ((s.sourceField? (p.child name)).isSome = true ↔
          ∃ fields, s.engine.fieldsOf? a.field.type.namedType = some fields ∧
            name ∈ fields.keys) :=
  ⟨fun _ => sourceField?_append_eq_some_iff,
    fun h _ hq => exists_sourceField?_of_isPrefixOf h hq,
    fun _ ha name => isSome_sourceField?_child ha name⟩

/-- An issue has watchers, and each of them may have a manager. -/
def watchedIssue : Site :=
  let user := FieldedType.ofName "User"
    |>.withField (.ofType "id" (.named "ID"))
    |>.withField (.ofType "manager" (.nullable (.named "User")))
  let issue := FieldedType.ofName "Issue"
    |>.withField (.ofType "watchers" (.list (.named "User")))
  ⟨.ofEngine (.build [.object issue, .object user]), .standard, "Issue",
    .ofType "related" (.nullable (.named "Issue"))⟩

def watchers : Path := ⟨["watchers"], by simp⟩

def managerId : Path := ⟨["manager", "id"], by simp⟩

/-- A user has one manager, and an issue reaches many through its watchers. -/
theorem watchers_compose :
    (∃ b, (watchedIssue.onType "User").sourceField? managerId = some b ∧ b.yieldsList = false ∧
      watchedIssue.sourceField? (watchers ++ managerId) = some ⟨b.field, true⟩) ∧
      (∀ b, watchedIssue.sourceField? (watchers ++ managerId) = some b → b.yieldsList = true) ∧
      ∀ name, (watchedIssue.sourceField? (watchers.child name)).isSome = true ↔
        name ∈ ["id", "manager"] := by
  have ha : watchedIssue.sourceField? watchers =
      some ⟨.ofType "watchers" (.list (.named "User")), true⟩ := by rfl
  have hb : (watchedIssue.onType "User").sourceField? managerId =
      some ⟨.ofType "id" (.named "ID"), false⟩ := by rfl
  obtain ⟨hwhole, -, hchild⟩ := watchedIssue.sourceField?_composes watchers managerId
  obtain ⟨-, hbeginning, -⟩ :=
    watchedIssue.sourceField?_composes watchers (watchers ++ managerId)
  refine ⟨⟨_, hb, rfl, (hwhole _).mpr ⟨_, _, ha, hb, rfl⟩⟩, fun b h => ?_, fun name => ?_⟩
  · obtain ⟨a, ha', hlist⟩ := hbeginning (by decide +kernel) b h
    cases ha.symm.trans ha'
    exact hlist rfl
  · obtain ⟨fields, hfields, hkeys⟩ : ∃ fields,
        watchedIssue.engine.fieldsOf? "User" = some fields ∧ fields.keys = ["id", "manager"] :=
      ⟨_, rfl, rfl⟩
    rw [hchild _ ha, ← hkeys]
    constructor
    · rintro ⟨fields', hfields', hname⟩
      cases hfields.symm.trans hfields'
      exact hname
    · exact fun hname => ⟨fields, hfields, hname⟩

end Site

end HydrationPlan
