import HydrationPlan.Literal.Coercion
import HydrationPlan.Proofs.Hydration.Output
import HydrationPlan.Proofs.Plan.Compilation
import HydrationPlan.Proofs.Schema.Implementors

/-!
# Containment of run-time types

If objects are stored under their names and unions consist of objects, the output check compares two
sets: the types that a value of the backing type can have at run time, and those of the declared
type. The name of an abstract type is admitted as well, but no value has an abstract type.
-/

namespace HydrationPlan

def TypeDefinition.unionMembers : TypeDefinition → List String
  | union t => t.members
  | _ => []

namespace Schema

variable {s : Schema} {name t : String}

/-- Every member of a union is a declared object. -/
def UnionsOfObjects (s : Schema) : Prop :=
  ∀ e ∈ s.types.entries, ∀ m ∈ e.2.unionMembers, s.isObject m = true

instance : Decidable s.UnionsOfObjects :=
  inferInstanceAs (Decidable (∀ e ∈ s.types.entries, ∀ m ∈ e.2.unionMembers, s.isObject m = true))

/-- A value of the first type can have the second type at run time. -/
inductive RunsAs (s : Schema) (name : String) : String → Prop
  | itself (h : s.isAbstract name = false) : RunsAs s name name
  | member {u : UnionType} {t : String} (h : s.type? name = some (.union u)) (ht : t ∈ u.members) :
      RunsAs s name t
  | implementor {i o : FieldedType} (h : s.type? name = some (.interface i))
      (ho : .object o ∈ s.types.values) (hi : name ∈ o.implements) : RunsAs s name o.name

theorem isAbstract_eq_false_iff :
    s.isAbstract name = false ↔
      (∀ u, s.type? name ≠ some (.union u)) ∧ ∀ i, s.type? name ≠ some (.interface i) := by
  unfold isAbstract
  split
  · rename_i i hi
    exact iff_of_false nofun fun h => h.2 i hi
  · rename_i u hu
    exact iff_of_false nofun fun h => h.1 u hu
  · rename_i hinterface hunion
    exact iff_of_true rfl ⟨hunion, hinterface⟩

theorem possibleTypes_of_not_isAbstract (h : s.isAbstract name = false) :
    s.possibleTypes name = [name] := by
  obtain ⟨hunion, hinterface⟩ := isAbstract_eq_false_iff.mp h
  unfold possibleTypes
  split
  · rename_i u hu
    exact absurd hu (hunion u)
  · rename_i i hi
    exact absurd hi (hinterface i)
  · rfl

theorem mem_possibleTypes_iff : t ∈ s.possibleTypes name ↔ s.RunsAs name t := by
  constructor
  · intro h
    unfold possibleTypes at h
    split at h
    · rename_i u hu
      exact .member hu h
    · rename_i i hi
      obtain ⟨o, ho, himplements, rfl⟩ := mem_implementors_iff.mp h
      exact .implementor hi ho himplements
    · rename_i hunion hinterface
      cases List.mem_singleton.mp h
      exact .itself (isAbstract_eq_false_iff.mpr ⟨hunion, hinterface⟩)
  · intro h
    cases h with
    | itself ha =>
      rw [possibleTypes_of_not_isAbstract ha]
      exact List.mem_singleton_self name
    | member hu ht => rwa [possibleTypes, hu]
    | implementor hi ho himplements =>
      rw [possibleTypes, hi]
      exact mem_implementors_iff.mpr ⟨_, ho, himplements, rfl⟩

theorem not_isAbstract_of_isObject (h : s.isObject name = true) : s.isAbstract name = false := by
  rw [isAbstract_eq_false_iff]
  constructor
  · intro u hu
    simp [isObject, hu, TypeDefinition.isObject] at h
  · intro i hi
    simp [isObject, hi, TypeDefinition.isObject] at h

theorem ObjectsKeyed.isObject (hs : s.ObjectsKeyed) {o : FieldedType}
    (ho : .object o ∈ s.types.values) : s.isObject o.name = true := by
  obtain ⟨e, he, hd⟩ := List.mem_map.mp ho
  have hname : o.name = e.1 := hs e he o (by rw [hd]; rfl)
  have htype : s.type? e.1 = some e.2 := (s.types.get?_eq_some_iff e.1 e.2).mpr he
  rw [Schema.isObject, hname, htype, hd]
  rfl

/-- No value has an abstract type at run time. -/
theorem RunsAs.not_isAbstract (ho : s.ObjectsKeyed) (hu : s.UnionsOfObjects)
    (h : s.RunsAs name t) : s.isAbstract t = false := by
  cases h with
  | itself h => exact h
  | member h ht =>
    have hentry := (s.types.get?_eq_some_iff ..).mp h
    exact not_isAbstract_of_isObject (hu _ hentry t ht)
  | implementor _ h _ => exact not_isAbstract_of_isObject (ho.isObject h)

end Schema

namespace Gateway

variable {g : Gateway} {declared backing : TypeRef} {actual : String}

theorem admits_iff_mem_possibleTypes (hv : g.isVirtual declared.namedType = false)
    (ha : g.engine.isAbstract actual = false) :
    g.admits declared.namedType actual = true ↔
      actual ∈ g.engine.possibleTypes declared.namedType := by
  cases hd : g.engine.isAbstract declared.namedType with
  | false => simp [admits, hv, hd, Schema.possibleTypes_of_not_isAbstract hd]
  | true =>
    have hne : actual ≠ declared.namedType := fun h => by simp [h, hd] at ha
    simp [admits, hv, hd, hne]

/-- The output check compares the possible types of both sides, and reports one that only the
backing type has. -/
structure Compares (g : Gateway) (declared backing : TypeRef) : Prop where
  ok : g.checkOutput declared backing = .ok () ↔
    g.engine.possibleTypes backing.namedType ⊆ g.engine.possibleTypes declared.namedType
  error (r : Rejection) : g.checkOutput declared backing = .error r →
    ∃ actual ∈ g.engine.possibleTypes backing.namedType,
      actual ∉ g.engine.possibleTypes declared.namedType ∧
        r = .incompatibleOutputType actual declared.text

theorem compares (ho : g.engine.ObjectsKeyed) (hu : g.engine.UnionsOfObjects)
    (hv : g.isVirtual declared.namedType = false) : g.Compares declared backing := by
  have hadmits : ∀ actual ∈ g.engine.possibleTypes backing.namedType,
      (g.admits declared.namedType actual = true ↔
        actual ∈ g.engine.possibleTypes declared.namedType) := by
    intro actual hactual
    have hruns := Schema.mem_possibleTypes_iff.mp hactual
    exact admits_iff_mem_possibleTypes hv (hruns.not_isAbstract ho hu)
  constructor
  · rw [checkOutput_eq_ok_iff]
    exact forall₂_congr hadmits
  · intro r hr
    obtain ⟨actual, hactual, hrefused, rfl⟩ := checkOutput_eq_error hr
    refine ⟨actual, hactual, fun hm => ?_, rfl⟩
    rw [(hadmits actual hactual).mpr hm] at hrefused
    cases hrefused

theorem Compares.runsAs (h : g.Compares declared backing)
    (hok : g.checkOutput declared backing = .ok ()) {t : String}
    (ht : g.engine.RunsAs backing.namedType t) : g.engine.RunsAs declared.namedType t := by
  rw [← Schema.mem_possibleTypes_iff] at ht ⊢
  exact h.ok.mp hok ht

/-- If objects are stored under their names and unions consist of objects, the output check is
containment of possible types, for declared types that are not virtual. What a planned field returns
has a type that the declared type can have. -/
theorem checkOutput_contains {g : Gateway} (ho : g.engine.ObjectsKeyed)
    (hu : g.engine.UnionsOfObjects) :
    (∀ declared backing, g.isVirtual declared.namedType = false → g.Compares declared backing) ∧
      (∀ t, g.isVirtual t.namedType = false → g.checkOutput t t = .ok ()) ∧
      (∀ a b c, g.isVirtual a.namedType = false → g.isVirtual b.namedType = false →
        g.checkOutput a b = .ok () → g.checkOutput b c = .ok () → g.checkOutput a c = .ok ()) ∧
      ∀ config rules, ∃ c, g.compile config rules = .ok c ∧ ∀ e ∈ c.plan.fields.entries,
        ∃ s ∈ g.sites config, s.coordinates = e.1 ∧
          (g.isVirtual s.field.type.namedType = false →
            List.Forall₂ (fun a i => ∃ h, s.Grounds a h ∧ i.target = h.target ∧
              ∀ t, g.engine.RunsAs h.backing.field.type.namedType t →
                g.engine.RunsAs s.field.type.namedType t) s.field.annotations e.2) := by
  refine ⟨fun declared backing => compares ho hu, ?_, ?_, ?_⟩
  · intro t ht
    exact (compares ho hu ht).ok.mpr (List.Subset.refl _)
  · intro a b c ha hb hab hbc
    have hsub := (compares ho hu ha).ok.mp hab
    have hsub' := (compares ho hu hb).ok.mp hbc
    exact (compares ho hu ha).ok.mpr (List.Subset.trans hsub' hsub)
  · intro config rules
    obtain ⟨c, hc⟩ := compile_isOk ho config rules
    refine ⟨c, hc, fun e he => ?_⟩
    obtain ⟨s, hs, hcoordinates, hall⟩ := yields_of_compile hc he
    obtain ⟨rfl, -⟩ := mem_sites_iff.mp hs
    refine ⟨s, hs, hcoordinates, fun hv => hall.imp ?_⟩
    rintro a i ⟨h, hground, hyields⟩
    refine ⟨h, hground, hyields.target, fun t => ?_⟩
    cases hground.site
    exact (compares ho hu hv).runsAs hyields.output

/-- Books and films are works, and the media that a reader may favour. Works are fetched by their
number, and stores know of all of these types. -/
def readers : Gateway :=
  let workById : Field := Field.ofType "workById" (.nullable (.named "Work"))
    |>.withArgument ⟨"id", none, .named "ID", none⟩
  let query := FieldedType.ofName "Query" |>.withField workById
  let id : Field := .ofType "id" (.named "ID")
  let work (name : String) := FieldedType.ofName name |>.withField id |>.withInterface "Work"
  let store : List Schema.Step :=
    [.object query, .interface (FieldedType.ofName "Work" |>.withField id), .object (work "Book"),
      .object (work "Film"), .union "Medium" ["Book", "Film", "Game"],
      .object (FieldedType.ofName "Game" |>.withField id)]
  let reader := FieldedType.ofName "Reader"
    |>.withField (.ofType "workId" (.named "ID"))
    |>.withField (Field.ofType "favourite" (.nullable (.named "Medium"))
      |>.withHydrated (Hydrated.ofBacking "store" "workById"
        |>.withArgument "id" (.string "$source.workId")))
  ofEngine (.build (.object reader :: store)) |>.withService ⟨"store", .build store⟩

/-- A work is a medium, but a game is a medium and no work. -/
theorem readers_contained :
    readers.engine.ObjectsKeyed ∧ readers.engine.UnionsOfObjects ∧
      (∀ name ∈ ["Medium", "Work", "Book"], readers.isVirtual name = false) ∧
      (readers.Compares (.named "Medium") (.named "Work") ∧
        readers.engine.possibleTypes "Work" ⊆ readers.engine.possibleTypes "Medium") ∧
      (readers.Compares (.named "Work") (.named "Medium") ∧
        readers.checkOutput (.named "Work") (.named "Medium") =
          .error (.incompatibleOutputType "Game" "Work!")) ∧
      readers.checkOutput (.named "Work") (.named "Work") = .ok () ∧
      readers.checkOutput (.named "Medium") (.named "Book") = .ok () ∧
      ∃ c, readers.compile .standard Literal.rules = .ok c ∧
        c.plan.fields.keys = [⟨"Reader", "favourite"⟩] ∧
        ∀ e ∈ c.plan.fields.entries, ∃ s ∈ readers.sites .standard, s.coordinates = e.1 ∧
          (readers.isVirtual s.field.type.namedType = false →
            List.Forall₂ (fun a i => ∃ h, s.Grounds a h ∧ i.target = h.target ∧
              ∀ t, readers.engine.RunsAs h.backing.field.type.namedType t →
                readers.engine.RunsAs s.field.type.namedType t) s.field.annotations e.2) := by
  have ho : readers.engine.ObjectsKeyed := by decide +kernel
  have hu : readers.engine.UnionsOfObjects := by decide +kernel
  have hv : ∀ name ∈ ["Medium", "Work", "Book"], readers.isVirtual name = false := by
    decide +kernel
  have hmedium : readers.isVirtual (TypeRef.named "Medium").namedType = false :=
    hv "Medium" (by simp)
  have hwork : readers.isVirtual (TypeRef.named "Work").namedType = false := hv "Work" (by simp)
  have hworks : readers.checkOutput (.named "Medium") (.named "Work") = .ok () := by rfl
  have hbooks : readers.checkOutput (.named "Work") (.named "Book") = .ok () := by rfl
  have hgames : readers.checkOutput (.named "Work") (.named "Medium") =
      .error (.incompatibleOutputType "Game" "Work!") := by cbv
  have hplan : (readers.compile .standard Literal.rules).toOption.map
      (fun c => c.plan.fields.keys) = some [⟨"Reader", "favourite"⟩] := by decide +kernel
  obtain ⟨hcompares, hself, hchain, hcompiles⟩ := checkOutput_contains ho hu
  obtain ⟨c, hc, hentries⟩ := hcompiles .standard Literal.rules
  rw [hc] at hplan
  have hmediumWork := hcompares (.named "Medium") (.named "Work") hmedium
  have hworkMedium := hcompares (.named "Work") (.named "Medium") hwork
  exact ⟨ho, hu, hv, ⟨hmediumWork, hmediumWork.ok.mp hworks⟩, ⟨hworkMedium, hgames⟩,
    hself (.named "Work") hwork,
    hchain (.named "Medium") (.named "Work") (.named "Book") hmedium hwork hworks hbooks,
    c, hc, Option.some.inj hplan, hentries⟩

end Gateway

end HydrationPlan
