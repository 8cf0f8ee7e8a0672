import HydrationPlan.Proofs.Declaration
import HydrationPlan.Proofs.Plan.Replacement

/-!
# Id hydrations as what they stand for

A field that is hydrated by an id stands for a field with one more hydration in front: the default
hydration of its type, with the id field as the only argument. A gateway compiles the same if the
one is written for the other, unless its host rules on literals by how hydrations are written.
-/

namespace HydrationPlan

/-- The hydration that an id field and a default hydration stand for. -/
def IdHydrated.expansion (h : IdHydrated) (d : DefaultHydration) : Hydrated where
  service := d.service
  field := d.field
  arguments := [⟨d.idArgument, .string ("$source." ++ h.idField)⟩]
  identifiedBy := h.identifiedBy <|> d.identifiedBy
  inputIdentifiedBy := []
  indexed := false
  batchSize := d.batchSize
  timeout := d.timeout
  condition := none

def Field.expanded (f : Field) (h : IdHydrated) (d : DefaultHydration) : Field :=
  { f with
    hydrated := h.expansion d :: f.hydrated
    idHydrated := none }

theorem Field.alike_expanded {f : Field} {h : IdHydrated} (hid : f.idHydrated = some h)
    (d : DefaultHydration) : f.Alike (f.expanded h d) :=
  ⟨rfl, rfl, rfl, by simp [isHydrated, expanded, hid]⟩

namespace Declaration

variable {d : DefaultHydration} {h : IdHydrated} {p q : Path}

/-- Both ways of lowering arrive at one declaration. -/
theorem ofHydrated_expansion (hid : Path.parse h.idField = .ok p)
    (hfield : Path.parse d.field = .ok q) :
    ofHydrated (h.expansion d) = ofDefault d h := by
  have hargument : DeclaredArgument.ofBinding ⟨d.idArgument, .string ("$source." ++ h.idField)⟩ =
      .ok ⟨d.idArgument, .sourceField p⟩ := by
    rw [DeclaredArgument.ofBinding, Supply.ofLiteral, Supply.ofText_source, hid]
    rfl
  have hbacking : backingPath? d.service d.field = .ok q := by
    rw [backingPath?, hfield]
    rfl
  unfold ofHydrated ofDefault IdHydrated.expansion
  rw [hbacking, hid]
  simp only [List.mapM_cons, List.mapM_nil, hargument]
  rfl

end Declaration

theorem Site.declarations_expanded {s t : Site} {i : IdHydrated} {d : DefaultHydration}
    {p q : Path} (hi : s.field.idHydrated = some i)
    (hd : s.engine.defaultHydration? s.field.type.namedType = some d)
    (hid : Path.parse i.idField = .ok p) (hpath : Path.parse d.field = .ok q)
    (hfield : t.field = s.field.expanded i d) : s.declarations = t.declarations := by
  have hs : s.field.annotations = .id i :: s.field.hydrated.map .backing := by
    rw [Field.annotations, hi]
    rfl
  have ht : t.field.annotations =
      .backing (i.expansion d) :: s.field.hydrated.map .backing := by
    rw [hfield]
    rfl
  have hhead : s.lower (.id i) = t.lower (.backing (i.expansion d)) := by
    rw [lower, hd]
    exact (Declaration.ofHydrated_expansion hid hpath).symm
  have hrest : (s.field.hydrated.map Annotation.backing).mapM s.lower =
      (s.field.hydrated.map Annotation.backing).mapM t.lower := by
    rw [List.mapM_map, List.mapM_map]
    rfl
  rw [declarations_eq_mapM, declarations_eq_mapM, hs, ht, List.mapM_cons, List.mapM_cons, hhead,
    hrest]

theorem Compilation.foldlM_addSite_congr {rules : LiteralRules} {sites sites' : List Site}
    (h : List.Forall₂ (Site.Matches Eq rules) sites sites') (c : Compilation) :
    sites.foldlM (addSite rules) c = sites'.foldlM (addSite rules) c := by
  induction h generalizing c with
  | nil => rfl
  | @cons s t _ _ hst _ ih =>
    have hstep : addSite rules c s = addSite rules c t := by
      rw [addSite, addSite, hst.compile_eq, hst.coordinates]
    rw [List.foldlM_cons, List.foldlM_cons, hstep, funext ih]

namespace Gateway

variable {g : Gateway} {typeName key : String} {f : Field} {i : IdHydrated} {d : DefaultHydration}
variable {p q : Path}

/-- Writing the expansion of an id hydration for it changes nothing of a compilation. -/
theorem compile_expanded (hf : g.engine.field? typeName key = some f) (hi : f.idHydrated = some i)
    (hd : g.engine.defaultHydration? f.type.namedType = some d)
    (hid : Path.parse i.idField = .ok p) (hpath : Path.parse d.field = .ok q) (config : Config) :
    (∀ rules : LiteralRules,
      rules g.engine = rules (g.replaceField typeName key (f.expanded i d)).engine →
        (g.replaceField typeName key (f.expanded i d)).compile config rules =
          g.compile config rules) ∧
    Literal.rules g.engine =
      Literal.rules (g.replaceField typeName key (f.expanded i d)).engine := by
  have halike : f.Alike (f.expanded i d) := Field.alike_expanded hi d
  refine ⟨fun rules hrules => ?_,
    Literal.rules_eq_of_alike (Schema.aligned_replaceField hf halike).alike⟩
  refine (Compilation.foldlM_addSite_congr ?_ .empty).symm
  refine (sites_replaceField hf halike hrules config).imp ?_
  rintro s t ⟨hst, rfl, hfield | ⟨-, rfl, hfield⟩⟩
  · exact hst.matches (fun _ => rfl) hfield
  · exact ⟨hst.coordinates_eq,
      hst.compile (Site.declarations_expanded hi hd hid hpath hfield) fun _ => rfl⟩

def petDefault : DefaultHydration := DefaultHydration.ofBacking "pets" "petById" "id"
  |>.withBatchSize 10

/-- The pet of an owner, as its id says. -/
def idPet : Field := Field.ofType "pet" (.nullable (.named "Pet"))
  |>.withIdHydrated ⟨"petId", none⟩

def ownersOf (owned : List Field) : Gateway :=
  let query := FieldedType.ofName "Query"
    |>.withField (Field.ofType "petById" (.nullable (.named "Pet"))
      |>.withArgument ⟨"id", none, .named "ID", none⟩)
  let pet := FieldedType.ofName "Pet"
    |>.withField (.ofType "id" (.named "ID"))
    |>.withDefaultHydration petDefault
  let fields := Field.ofType "petId" (.named "ID") :: owned
  let owner := { FieldedType.ofName "Owner" with
    fields := .ofList (fields.map fun f => (f.name, f)) }
  ofEngine (.build [.object query, .object pet, .object owner])
    |>.withService ⟨"pets", .build [.object query, .object pet]⟩

def idOwners : Gateway := ownersOf [idPet]

theorem idOwners_expanded :
    idOwners.engine.field? "Owner" "pet" = some idPet ∧
      idOwners.engine.defaultHydration? idPet.type.namedType = some petDefault ∧
      (idPet.expanded ⟨"petId", none⟩ petDefault).idHydrated = none ∧
      (idOwners.replaceField "Owner" "pet" (idPet.expanded ⟨"petId", none⟩ petDefault)).compile
        .standard Literal.rules = idOwners.compile .standard Literal.rules ∧
      (idOwners.compile .standard Literal.rules).map (fun c =>
        (c.plan.fields.keys, c.report.warnings.map (·.code))) =
          .ok ([⟨"Owner", "pet"⟩], ["W0001"]) := by
  have hfield : idOwners.engine.field? "Owner" "pet" = some idPet := by cbv
  have hdefault : idOwners.engine.defaultHydration? idPet.type.namedType = some petDefault := by
    decide +kernel
  have hid : Path.parse "petId" = .ok ⟨["petId"], by simp⟩ := by decide +kernel
  have hpath : Path.parse petDefault.field = .ok ⟨["petById"], by simp⟩ := by decide +kernel
  obtain ⟨hexpanded, hrules⟩ := compile_expanded hfield rfl hdefault hid hpath .standard
  exact ⟨hfield, hdefault, rfl, hexpanded Literal.rules hrules, by decide +kernel⟩

/-- Owners who have a mascot too, which is always the same. -/
def rexOwners : Gateway :=
  ownersOf [idPet, Field.ofType "mascot" (.nullable (.named "Pet"))
    |>.withHydrated (Hydrated.ofBacking "pets" "petById" |>.withArgument "id" (.string "rex"))]

/-- A host that refuses strings where the pet of an owner is not hydrated by an id. -/
def expansionRefused : LiteralRules := Literal.rulesRefusing fun s =>
  (s.field? "Owner" "pet").any fun f => f.idHydrated.isNone

/-- Such a host rules on the mascot by how the hydration of the pet is written. -/
theorem rexOwners_not_expanded :
    rexOwners.engine.field? "Owner" "pet" = some idPet ∧
      rexOwners.engine.defaultHydration? idPet.type.namedType = some petDefault ∧
      Path.parse "petId" = .ok ⟨["petId"], by simp⟩ ∧
      Path.parse petDefault.field = .ok ⟨["petById"], by simp⟩ ∧
      (rexOwners.compile .standard expansionRefused).map (·.plan.fields.keys) =
        .ok [⟨"Owner", "pet"⟩, ⟨"Owner", "mascot"⟩] ∧
      ((rexOwners.replaceField "Owner" "pet" (idPet.expanded ⟨"petId", none⟩ petDefault)).compile
        .standard expansionRefused).map (·.plan.fields.keys) = .ok [⟨"Owner", "pet"⟩] ∧
      (rexOwners.replaceField "Owner" "pet" (idPet.expanded ⟨"petId", none⟩ petDefault)).compile
        .standard expansionRefused ≠ rexOwners.compile .standard expansionRefused := by
  have hbefore : (rexOwners.compile .standard expansionRefused).map (·.plan.fields.keys) =
      .ok [⟨"Owner", "pet"⟩, ⟨"Owner", "mascot"⟩] := by cbv
  have hafter : ((rexOwners.replaceField "Owner" "pet"
      (idPet.expanded ⟨"petId", none⟩ petDefault)).compile .standard expansionRefused).map
        (·.plan.fields.keys) = .ok [⟨"Owner", "pet"⟩] := by decide +kernel
  refine ⟨by cbv, by decide +kernel, by decide +kernel, by decide +kernel, hbefore, hafter,
    fun hsame => ?_⟩
  rw [hsame, hbefore] at hafter
  simp at hafter

end Gateway

end HydrationPlan
