import HydrationPlan.Proofs.Literal.Coercion
import HydrationPlan.Proofs.Plan.Outcome

/-!
# The order of types and services

Types and services come in the order in which they were merged. They are looked up by name, or
asked for all at once, so that a compilation tells the same of each field in whatever order they
are. Only the first type that an output check refuses depends on it.
-/

namespace HydrationPlan

theorem Table.get?_eq_of_perm {κ α : Type} [DecidableEq κ] {t u : Table κ α}
    (h : t.entries.Perm u.entries) (k : κ) : t.get? k = u.get? k := by
  apply Option.ext
  intro v
  rw [Table.get?_eq_some_iff, Table.get?_eq_some_iff, h.mem_iff]

theorem Table.entries_ofList_perm {κ α : Type} [DecidableEq κ] {l m : List (κ × α)}
    (h : l.Perm m) (hl : (l.map Prod.fst).Nodup) :
    (Table.ofList l).entries.Perm (Table.ofList m).entries := by
  have hm : (m.map Prod.fst).Nodup := (h.map Prod.fst).nodup_iff.mp hl
  rwa [Table.entries_ofList hl, Table.entries_ofList hm]

/-- The gateways have the same types and services, each in an order of its own. -/
structure Gateway.Reorders (g k : Gateway) : Prop where
  queryType : g.engine.queryType = k.engine.queryType
  types : g.engine.types.entries.Perm k.engine.types.entries
  services : g.services.entries.Perm k.services.entries

/-- The same cause, but for the type that an output check names. -/
inductive Rejection.UpToActual : Rejection → Rejection → Prop
  | refl (c : Rejection) : UpToActual c c
  | output (actual actual' declared : String) :
    UpToActual (.incompatibleOutputType actual declared) (.incompatibleOutputType actual' declared)

namespace Gateway

section Alike

variable {g k : Gateway}

theorem isVirtual_eq_of_alike (he : g.engine.Alike k.engine)
    (hs : g.services.values.Perm k.services.values) (name : String) :
    g.isVirtual name = k.isVirtual name := by
  rw [isVirtual, isVirtual, he.related.isSome_type?_eq, hs.any_eq]

theorem admits_eq_of_alike (he : g.engine.Alike k.engine)
    (hs : g.services.values.Perm k.services.values) (declared actual : String) :
    g.admits declared actual = k.admits declared actual := by
  have hcontains : (g.engine.possibleTypes declared).contains actual =
      (k.engine.possibleTypes declared).contains actual := by
    rw [Bool.eq_iff_iff, List.contains_iff_mem, List.contains_iff_mem,
      he.related.mem_possibleTypes_iff]
  rw [admits, admits, isVirtual_eq_of_alike he hs, he.related.isObject_eq,
    he.related.isAbstract_eq, hcontains]

theorem checkOutput_upToActual (he : g.engine.Alike k.engine)
    (hs : g.services.values.Perm k.services.values) (declared backing : TypeRef) :
    Corresponds Rejection.UpToActual Eq (g.checkOutput declared backing)
      (k.checkOutput declared backing) := by
  have hfound : ((g.engine.possibleTypes backing.namedType).find? fun actual =>
        !g.admits declared.namedType actual).isSome =
      ((k.engine.possibleTypes backing.namedType).find? fun actual =>
        !k.admits declared.namedType actual).isSome := by
    rw [Bool.eq_iff_iff, List.find?_isSome, List.find?_isSome]
    simp only [he.related.mem_possibleTypes_iff, admits_eq_of_alike he hs]
  unfold checkOutput
  split <;> rename_i hg <;> rw [hg] at hfound <;> split <;> rename_i hk <;> rw [hk] at hfound
  · exact .error (.output _ _ _)
  · cases hfound
  · cases hfound
  · exact .ok rfl

end Alike

namespace Reorders

variable {g k : Gateway} {rules : LiteralRules} (h : g.Reorders k)
include h

theorem type?_eq (name : String) : g.engine.type? name = k.engine.type? name :=
  Table.get?_eq_of_perm h.types name

theorem engine : g.engine.Alike k.engine := by
  refine ⟨by rw [Schema.queryRoot, Schema.queryRoot, h.queryType], fun name => ?_⟩
  rw [h.type?_eq]
  cases k.engine.type? name with
  | none => exact .none
  | some d => exact .some (.refl d)

theorem alike (hrules : rules g.engine = rules k.engine) :
    g.Alike Rejection.UpToActual rules k := by
  have hservices : g.services.values.Perm k.services.values := h.services.map Prod.snd
  exact {
    engine := h.engine
    literals := hrules
    service? := Table.get?_eq_of_perm h.services
    isVirtual := isVirtual_eq_of_alike h.engine hservices
    checkOutput := checkOutput_upToActual h.engine hservices }

theorem sitesAt (hrules : rules g.engine = rules k.engine) (config : Config) (x : Coordinates) :
    List.Forall₂ (Site.Matches Rejection.UpToActual rules) (g.sitesAt config x)
      (k.sitesAt config x) := by
  have hfields : g.engine.fieldsOf? x.typeName = k.engine.fieldsOf? x.typeName := by
    rw [Schema.fieldsOf?, Schema.fieldsOf?, Schema.fielded?, Schema.fielded?, h.type?_eq]
  rw [sitesAt_eq, sitesAt_eq, hfields]
  cases k.engine.fieldsOf? x.typeName with
  | none => exact .nil
  | some fields =>
    rw [Option.toList_some, List.flatMap_singleton, List.flatMap_singleton,
      List.forall₂_map_left_iff, List.forall₂_map_right_iff, List.forall₂_same]
    intro f _
    exact Site.Alike.matches .refl ⟨h.alike hrules, rfl, rfl, .refl f⟩ rfl

theorem symm : k.Reorders g := ⟨h.queryType.symm, h.types.symm, h.services.symm⟩

theorem isOk_of_compile (hrules : rules g.engine = rules k.engine) {config : Config}
    {c : Compilation} (hc : g.compile config rules = .ok c) :
    ∃ d, k.compile config rules = .ok d := by
  apply Compilation.foldlM_addSite_isOk_iff.mpr
  intro t ht
  obtain ⟨s, hs, hmatch⟩ :=
    exists_of_mem_right (h.sitesAt hrules config t.coordinates) (mem_sitesAt ht)
  exact hmatch.gapless_iff.mp (gapless_of_compile hc s (List.mem_filter.mp hs).1)

end Reorders

/-- In whatever order types and services were merged, a compilation plans the same instructions,
reports the same warnings and rejects for the same causes at all coordinates. -/
theorem compile_reorder {g k : Gateway} (h : g.Reorders k) (config : Config) :
    (∀ rules : LiteralRules, rules g.engine = rules k.engine →
      ((∃ c, g.compile config rules = .ok c) ↔ ∃ d, k.compile config rules = .ok d) ∧
      ∀ c d, g.compile config rules = .ok c → k.compile config rules = .ok d →
        ∀ x, Compilation.AgreesAt Rejection.UpToActual x c d) ∧
    Literal.rules g.engine = Literal.rules k.engine := by
  refine ⟨fun rules hrules => ⟨⟨?_, ?_⟩, ?_⟩, Literal.rules_eq_of_alike h.engine⟩
  · rintro ⟨c, hc⟩
    exact h.isOk_of_compile hrules hc
  · rintro ⟨d, hd⟩
    exact h.symm.isOk_of_compile hrules.symm hd
  · intro c d hc hd x
    exact agreesAt_of_compile (h.sitesAt hrules config x) hc hd

/-- A field whose value is found among the animals. -/
def foundAnimal (name type id : String) : Field :=
  Field.ofType name (.nullable (.named type))
    |>.withHydrated (Hydrated.ofBacking "animals" "animalById" |>.withArgument "id" (.string id))

/-- Owners with the given fields, and the animals in the given order. -/
def animalTypes (owned : List Field) (animals : List String) : List TypeDefinition :=
  let animal (name : String) : TypeDefinition := .object (FieldedType.ofName name
    |>.withField (.ofType "id" (.named "ID"))
    |>.withInterface "Animal")
  let query := FieldedType.ofName "Query"
    |>.withField (Field.ofType "animalById" (.nullable (.named "Animal"))
      |>.withArgument ⟨"id", none, .named "ID", none⟩)
  let fields := Field.ofType "animalId" (.named "ID") :: owned
  let owner := { FieldedType.ofName "Owner" with
    fields := .ofList (fields.map fun f => (f.name, f)) }
  [.object query, .interface (.ofName "Animal"), .object (.ofName "Bird"), .object owner] ++
    animals.map animal

def animalOwners (owned : List Field) (animals services : List String) : Gateway :=
  let schema (animals : List String) : Schema :=
    ⟨none, .ofList ((animalTypes owned animals).map fun d => (d.name, d))⟩
  ⟨schema animals, .ofList (services.map fun name => (name, ⟨name, schema ["Cat", "Dog"]⟩))⟩

def catsFirst (owned : List Field) : Gateway :=
  animalOwners owned ["Cat", "Dog"] ["animals", "birds"]

def dogsFirst (owned : List Field) : Gateway :=
  animalOwners owned ["Dog", "Cat"] ["birds", "animals"]

theorem catsFirst_reorders (owned : List Field) :
    (catsFirst owned).Reorders (dogsFirst owned) := by
  have htypes : ["Query", "Animal", "Bird", "Owner", "Cat", "Dog"].Nodup := by decide
  have hservices : ["animals", "birds"].Nodup := by decide
  refine ⟨rfl, Table.entries_ofList_perm ?_ htypes, Table.entries_ofList_perm ?_ hservices⟩
  · exact (((List.Perm.swap _ _ []).map _).append_left _).map _
  · exact (List.Perm.swap _ _ []).map _

def animalAndBird : List Field :=
  [foundAnimal "animal" "Animal" "$source.animalId", foundAnimal "bird" "Bird" "$source.animalId"]

/-- A bird that is found as an animal is refused on account of the first animal. -/
theorem catsFirst_reordered :
    (catsFirst animalAndBird).Reorders (dogsFirst animalAndBird) ∧
      ∃ c d, (catsFirst animalAndBird).compile .standard Literal.rules = .ok c ∧
        (dogsFirst animalAndBird).compile .standard Literal.rules = .ok d ∧
        (∀ x, Compilation.AgreesAt Rejection.UpToActual x c d) ∧
        c.plan.fields.keys = [⟨"Owner", "animal"⟩] ∧
        c.causesAt ⟨"Owner", "bird"⟩ = [.incompatibleOutputType "Cat" "Bird"] ∧
        d.causesAt ⟨"Owner", "bird"⟩ = [.incompatibleOutputType "Dog" "Bird"] := by
  have hcats : ((catsFirst animalAndBird).compile .standard Literal.rules).map (fun c =>
      (c.plan.fields.keys, c.causesAt ⟨"Owner", "bird"⟩)) =
      .ok ([⟨"Owner", "animal"⟩], [.incompatibleOutputType "Cat" "Bird"]) := by decide +kernel
  have hdogs : ((dogsFirst animalAndBird).compile .standard Literal.rules).map
      (·.causesAt ⟨"Owner", "bird"⟩) = .ok [.incompatibleOutputType "Dog" "Bird"] := by
    decide +kernel
  obtain ⟨c, hc, hctold⟩ := map_eq_ok_iff.mp hcats
  obtain ⟨d, hd, hdtold⟩ := map_eq_ok_iff.mp hdogs
  have hreorders := catsFirst_reorders animalAndBird
  obtain ⟨hagrees, hrules⟩ := compile_reorder hreorders .standard
  have hall := (hagrees Literal.rules hrules).2 c d hc hd
  rw [Prod.mk.injEq] at hctold
  exact ⟨hreorders, c, d, hc, hd, hall, hctold.1, hctold.2, hdtold⟩

def mascotOnly : List Field := [foundAnimal "mascot" "Animal" "rex"]

/-- A host that refuses strings where cats come last. -/
def lastCatRefused : LiteralRules := Literal.rulesRefusing fun s =>
  s.types.keys.getLast? = some "Cat"

/-- Such a host rules on the mascot by the order of the types. -/
theorem catsFirst_not_reordered :
    (catsFirst mascotOnly).Reorders (dogsFirst mascotOnly) ∧
      ∃ c d, (catsFirst mascotOnly).compile .standard lastCatRefused = .ok c ∧
        (dogsFirst mascotOnly).compile .standard lastCatRefused = .ok d ∧
        c.plan.fields.keys = [⟨"Owner", "mascot"⟩] ∧ d.plan.fields.keys = [] ∧
        ¬ Compilation.AgreesAt Rejection.UpToActual ⟨"Owner", "mascot"⟩ c d := by
  have hcats : ((catsFirst mascotOnly).compile .standard lastCatRefused).map
      (·.plan.fields.keys) = .ok [⟨"Owner", "mascot"⟩] := by cbv
  have hdogs : ((dogsFirst mascotOnly).compile .standard lastCatRefused).map
      (·.plan.fields.keys) = .ok [] := by decide +kernel
  obtain ⟨c, hc, hckeys⟩ := map_eq_ok_iff.mp hcats
  obtain ⟨d, hd, hdkeys⟩ := map_eq_ok_iff.mp hdogs
  refine ⟨catsFirst_reorders mascotOnly, c, d, hc, hd, hckeys, hdkeys, fun hagrees => ?_⟩
  have hplanned := Compilation.mem_keys_iff_of_get?_eq hagrees.instructions
  rw [hckeys, hdkeys] at hplanned
  exact List.not_mem_nil (hplanned.mp List.mem_cons_self)

end Gateway

end HydrationPlan
