import HydrationPlan.Proofs.Hydration.Strictness
import HydrationPlan.Proofs.Plan.Replacement

/-!
# Stricter and laxer arguments

The check of types is monotone in strictness. So is a field in the strictness of the arguments that
it passes on: one of its own arguments may become stricter, and one of a field that backs it laxer.
-/

namespace HydrationPlan

open TypeRef

section Replaced

variable {g : Gateway} {typeName key : String} {f f' : Field}
variable (hf : g.engine.field? typeName key = some f)
include hf

theorem Gateway.similar_replaceField (h : f.Similar f') :
    g.Similar (g.replaceField typeName key f') :=
  ⟨Schema.related_replaceField hf Field.Similar.refl h, rfl⟩

/-- A backing field is the one it was, unless it is the one that was replaced. -/
theorem Backing.field_replaceField (h : f.Similar f') {d : Declaration} {b b' : Backing}
    (hb : resolve g d = .ok b) (hb' : resolve (g.replaceField typeName key f') d = .ok b') :
    b.field = b'.field ∨ b.field = f ∧ b'.field = f' := by
  have hsimilar : ∀ a a', a = a' ∨ a = f ∧ a' = f' → a.Similar a' := by
    rintro a a' (rfl | ⟨rfl, rfl⟩)
    · exact .refl a
    · exact h
  have hrelated := Schema.related_replaceField hf
    (R := fun a a' => a = a' ∨ a = f ∧ a' = f') (fun _ => .inl rfl) (.inr ⟨rfl, rfl⟩)
  have hresolved := resolve_related (k := g.replaceField typeName key f') hsimilar hrelated
    (fun _ => rfl) d
  rw [hb, hb'] at hresolved
  cases hresolved with
  | ok hbb => exact hbb.field

/-- The hydrated field itself becomes stricter. A field that backs itself becomes so on both sides,
and is left out. -/
theorem Site.relaxes_of_narrows (h : f.Narrows f') {config : Config}
    (hself : ∀ hs, hydrations ⟨g, config, typeName, f⟩ = .ok hs → ∀ x ∈ hs, x.backing.field ≠ f) :
    Relaxes ⟨g, config, typeName, f⟩ ⟨g.replaceField typeName key f', config, typeName, f'⟩ where
  narrows := ⟨Gateway.similar_replaceField hf h.similar, rfl, rfl, h⟩
  backings := by
    intro hs hhs x hx b hb
    have hx' := resolve_of_mem_hydrations hhs x hx
    rcases Backing.field_replaceField hf h.similar hx' hb with heq | ⟨hfield, -⟩
    · exact heq ▸ .refl _
    · exact absurd hfield (hself hs hhs x hx)

end Replaced

/-- A field that may back the hydrated field becomes laxer. -/
theorem Site.relaxes_of_widens {s : Site} {typeName key : String} {f f' : Field}
    (hf : s.gateway.engine.field? typeName key = some f) (h : f.Widens f') :
    s.Relaxes { s with gateway := s.gateway.replaceField typeName key f' } where
  narrows := ⟨Gateway.similar_replaceField hf h.similar, rfl, rfl, .refl _⟩
  backings := by
    intro hs hhs x hx b hb
    have hx' := resolve_of_mem_hydrations hhs x hx
    rcases Backing.field_replaceField hf h.similar hx' hb with heq | ⟨rfl, rfl⟩
    · exact heq ▸ .refl _
    · exact h

/-- The check is monotone in strictness, and refuses lists of other depths. A field that compiles
goes on to compile when one of its own arguments becomes stricter, exactly if the defaults that are
checked again are still values of their types, and in any case when a field that backs it takes
laxer arguments. -/
theorem Site.compile_relaxed (rules : LiteralRules) :
    (∀ (s : Schema) (c : Config) (kind : SupplyKind) (supplied required : TypeRef),
      kind ≠ .sourceField →
        (s.checkAssignable c false kind supplied required = .ok () →
          ∀ supplied' required', supplied.DropsTo supplied' → required'.DropsTo required →
            s.checkAssignable c false kind supplied' required' = .ok ()) ∧
        (supplied.listDepth ≠ required.listDepth →
          s.checkAssignable c false kind supplied required =
            .error (.incompatibleInputType supplied.text required.text))) ∧
    (∀ (s t : Site) (f : CompiledField), s.Relaxes t → rules.Lenient s.engine t.engine →
      s.compile rules = .ok f →
        ((∃ f', t.compile rules = .ok f') ↔ t.TakesDefaults rules) ∧
          (s.field = t.field → ∃ f', t.compile rules = .ok f')) ∧
    (∀ (g : Gateway) (config : Config) (typeName key : String) (f f' : Field),
      g.engine.field? typeName key = some f → f.Narrows f' →
        (∀ hs, hydrations ⟨g, config, typeName, f⟩ = .ok hs → ∀ h ∈ hs, h.backing.field ≠ f) →
          Relaxes ⟨g, config, typeName, f⟩
            ⟨g.replaceField typeName key f', config, typeName, f'⟩) ∧
    (∀ (s : Site) (typeName key : String) (f f' : Field),
      s.gateway.engine.field? typeName key = some f → f.Widens f' →
        s.Relaxes { s with gateway := s.gateway.replaceField typeName key f' }) ∧
    (∀ s t : Schema, s.Related Field.Similar t → LiteralRules.Lenient Literal.rules s t) ∧
    ∀ t u : TypeRef, t.Canonical → u.Canonical → t.DropsTo u → t.isList = u.isList := by
  refine ⟨fun s c kind supplied required hk => ⟨?_, ?_⟩, ?_, ?_, ?_, ?_, ?_⟩
  · intro hok supplied' required' hs hr
    exact Schema.checkAssignable_of_dropsTo hs hr hok
  · exact Schema.checkAssignable_of_listDepth_ne hk
  · intro s t f h hrules hf
    refine ⟨h.exists_compile_iff hrules hf, fun hfield => ?_⟩
    exact h.exists_compile hrules hf (h.takesDefaults hrules hf hfield)
  · exact fun g config typeName key f f' hf h hself => relaxes_of_narrows hf h hself
  · exact fun s typeName key f f' hf h => relaxes_of_widens hf h
  · exact fun s t h => Literal.lenient_rules h
  · exact fun t u ht hu h => h.isList_eq ht hu

/-- A pet that is found by the tags that are supplied. -/
def taggedPet (tags : InputValue) (supply : String) : Field :=
  Field.ofType "pet" (.nullable (.named "Pet"))
    |>.withArgument tags
    |>.withHydrated (Hydrated.ofBacking "pets" "petByTags"
      |>.withArgument "tags" (.string supply))

def petByTags (required : TypeRef) : Field :=
  Field.ofType "petByTags" (.nullable (.named "Pet")) |>.withArgument ⟨"tags", none, required, none⟩

/-- Houses with tags of their own and a pet. -/
def taggedHouses (pet : Field) (required : TypeRef) : Gateway :=
  let pets := FieldedType.ofName "Pet" |>.withField (.ofType "id" (.named "ID"))
  let query := FieldedType.ofName "Query" |>.withField (petByTags required)
  let house := FieldedType.ofName "House"
    |>.withField (.ofType "tags" (.list (.named "ID")))
    |>.withField pet
  Gateway.ofEngine (.build [.object query, .object pets, .object house])
    |>.withService ⟨"pets", .build [.object query, .object pets]⟩

/-- An argument for tags with a default. -/
def tagsOf (type : TypeRef) (tag : Literal) : InputValue := ⟨"tags", none, type, some (.list [tag])⟩

def taggedSite (pet : Field) (required : TypeRef) : Site :=
  ⟨taggedHouses pet required, .standard, "House", pet⟩

section Tagged

variable (tags : InputValue) (required : TypeRef)

theorem field?_taggedPet (supply : String) :
    (taggedHouses (taggedPet tags supply) required).engine.field? "House" "pet" =
      some (taggedPet tags supply) := by cbv

theorem field?_petByTags (supply : String) :
    (taggedHouses (taggedPet tags supply) required).engine.field? "Query" "petByTags" =
      some (petByTags required) := by cbv

theorem replaceField_taggedPet (tags' : InputValue) (supply : String) :
    (taggedHouses (taggedPet tags supply) required).replaceField "House" "pet"
      (taggedPet tags' supply) = taggedHouses (taggedPet tags' supply) required := rfl

/-- The pet of which the tags are passed on. -/
def passedSite : Site := taggedSite (taggedPet tags "$argument.tags") required

theorem hydrations_passedSite : ∃ h, (passedSite tags required).hydrations = .ok [h] ∧
    h.site = passedSite tags required ∧ h.backing.field.name = "petByTags" ∧
      h.declaration.arguments = [⟨"tags", .fieldArgument "tags"⟩] := by
  have hmap : (passedSite tags required).hydrations.map
      (·.map fun h => (h.backing.field.name, h.declaration.arguments)) =
        .ok [("petByTags", [⟨"tags", .fieldArgument "tags"⟩])] := by cbv
  obtain ⟨hs, hhs, hparts⟩ := map_eq_ok_iff.mp hmap
  obtain ⟨h, rfl, hh⟩ := List.map_eq_singleton_iff.mp hparts
  obtain ⟨hname, harguments⟩ := Prod.mk.inj hh
  exact ⟨h, hhs, Site.site_of_mem_hydrations hhs h (List.mem_singleton_self h), hname, harguments⟩

theorem takesDefaults_passedSite_iff {rules : LiteralRules} {type : TypeRef} {tag : Literal} :
    (passedSite (tagsOf type tag) required).TakesDefaults rules ↔
      rules.Accepts (passedSite (tagsOf type tag) required).engine (.list [tag]) type := by
  obtain ⟨h, hh, hsite, -, harguments⟩ := hydrations_passedSite (tagsOf type tag) required
  constructor
  · intro htakes
    have htags := htakes _ hh h (List.mem_singleton_self h) ⟨"tags", .fieldArgument "tags"⟩
    rw [harguments, Hydration.engine, hsite] at htags
    exact htags (List.mem_singleton_self _) "tags" rfl (tagsOf type tag) rfl (.list [tag]) rfl
  · intro haccepts hs hhs x hx d hd name hsupply a ha v hv
    cases hh.symm.trans hhs
    cases List.mem_singleton.mp hx
    rw [harguments] at hd
    cases List.mem_singleton.mp hd
    cases hsupply
    rw [hsite] at ha
    cases ha
    cases hv
    rw [Hydration.engine, hsite]
    exact haccepts

end Tagged

def idList : TypeRef := .list (.named "ID")

def nullableIdList : TypeRef := .list (.nullable (.named "ID"))

/-- The pet that is found by the tags of cats unless others are given. -/
def catSite (type required : TypeRef) : Site := passedSite (tagsOf type (.string "cat")) required

/-- The pet is found when its tags may no longer be null, and when they may be for the field that
finds it. -/
theorem catSite_relaxed :
    let s := catSite (.nullable idList) (.nullable idList)
    let lax := s.gateway.replaceField "Query" "petByTags" (petByTags (.nullable nullableIdList))
    (s.engine.checkAssignable .standard false .fieldArgument (.nullable idList) (.nullable idList) =
        .ok () ∧
      s.engine.checkAssignable .standard false .fieldArgument idList (.nullable nullableIdList) =
        .ok () ∧
      s.engine.checkAssignable .standard false .fieldArgument idList (.named "ID") =
        .error (.incompatibleInputType "[ID!]!" "ID!")) ∧
    (∃ f, s.compile Literal.rules = .ok f) ∧
    (∃ f, (catSite idList (.nullable idList)).compile Literal.rules = .ok f) ∧
    ∃ f, Site.compile Literal.rules { s with gateway := lax } = .ok f := by
  obtain ⟨hcheck, hcompile, hnarrowed, hwidened, hrules, -⟩ := Site.compile_relaxed Literal.rules
  have hids : (catSite (.nullable idList) (.nullable idList)).engine.checkAssignable .standard false
      .fieldArgument (.nullable idList) (.nullable idList) = .ok () := by cbv
  have hbefore : ∃ f, (catSite (.nullable idList) (.nullable idList)).compile Literal.rules =
      .ok f := ⟨_, by cbv⟩
  have htaken : LiteralRules.Accepts Literal.rules (catSite idList (.nullable idList)).engine
      (.list [.string "cat"]) idList := ⟨_, by cbv⟩
  have hstrict : (catSite (.nullable idList) (.nullable idList)).Relaxes
      (catSite idList (.nullable idList)) := by
    have hnarrows : (taggedPet (tagsOf (.nullable idList) (.string "cat")) "$argument.tags").Narrows
        (taggedPet (tagsOf idList (.string "cat")) "$argument.tags") :=
      ⟨⟨rfl, rfl⟩, rfl, .cons ⟨rfl, rfl, .single (.here _)⟩ .nil⟩
    have hedited := hnarrowed _ .standard "House" "pet" _ _
      (field?_taggedPet _ (.nullable idList) _) hnarrows ?_
    · rwa [replaceField_taggedPet] at hedited
    · intro hs hhs x hx heq
      obtain ⟨h, hh, -, hname, -⟩ := hydrations_passedSite _ (.nullable idList)
      cases hh.symm.trans hhs
      rw [List.mem_singleton.mp hx] at heq
      rw [heq] at hname
      have hother : "pet" ≠ "petByTags" := by decide
      exact hother hname
  have hlax := hwidened (catSite (.nullable idList) (.nullable idList)) "Query" "petByTags" _
    (petByTags (.nullable nullableIdList)) (field?_petByTags _ (.nullable idList) _)
    ⟨⟨rfl, rfl⟩, .cons ⟨rfl, rfl, rfl, .single (.nullable (.list (.here _))), rfl⟩ .nil⟩
  have hkind : SupplyKind.fieldArgument ≠ .sourceField := by decide
  obtain ⟨f, hf⟩ := hbefore
  refine ⟨⟨hids, ?_, ?_⟩, ⟨f, hf⟩, ?_, ?_⟩
  · refine (hcheck _ .standard .fieldArgument _ _ hkind).1 hids _ _ (.single (.here _)) ?_
    exact .single (.nullable (.list (.here _)))
  · exact (hcheck _ .standard .fieldArgument _ _ hkind).2 (by decide)
  · refine (hcompile _ _ f hstrict ?_ hf).1.mpr ?_
    · exact hrules _ _ hstrict.narrows.gateway.engine
    · exact (takesDefaults_passedSite_iff (.nullable idList)).mpr htaken
  · refine (hcompile _ _ f hlax ?_ hf).2 rfl
    exact hrules _ _ hlax.narrows.gateway.engine

/-- A default that holds null is refused where the tags may no longer be null. Tags that may be null
twice over are not seen as a list, so that those of a house are no longer passed as one. -/
theorem taggedSite_not_relaxed :
    ((TypeRef.nullable nullableIdList).Drops (.nullable idList) ∧
      (∃ f, (passedSite (tagsOf (.nullable nullableIdList) .null)
        (.nullable nullableIdList)).compile Literal.rules = .ok f) ∧
      Literal.rules (passedSite (tagsOf (.nullable idList) .null)
        (.nullable nullableIdList)).engine (.list [.null]) (.nullable idList) =
          .error (.nullForNonNull "ID!") ∧
      ¬ ∃ f, (passedSite (tagsOf (.nullable idList) .null)
        (.nullable nullableIdList)).compile Literal.rules = .ok f) ∧
    let ofHouse := taggedPet (tagsOf idList (.string "cat")) "$source.tags"
    (TypeRef.nullable (.nullable idList)).Drops (.nullable idList) ∧
      (∃ f, (taggedSite ofHouse (.nullable idList)).compile Literal.rules = .ok f) ∧
      (taggedSite ofHouse (.nullable (.nullable idList))).compile Literal.rules =
        .error (.rejected (.cannotSqueezeSourceList "tags" ⟨["tags"], by simp⟩)) := by
  have hrefused : Literal.rules (passedSite (tagsOf (.nullable idList) .null)
      (.nullable nullableIdList)).engine (.list [.null]) (.nullable idList) =
        .error (.nullForNonNull "ID!") := by cbv
  refine ⟨⟨.nullable (.list (.here _)), ⟨_, by cbv⟩, hrefused, ?_⟩, .here _, ⟨_, by cbv⟩, by cbv⟩
  rintro ⟨f, hf⟩
  obtain ⟨w, hw⟩ := (takesDefaults_passedSite_iff _).mp (Site.takesDefaults_of_compile hf)
  cases hrefused.symm.trans hw

end HydrationPlan
