import HydrationPlan.Proofs.Plan.Replacement

/-!
# One annotation at a time

A hydration reads the field, but none of the other annotations that the field carries, neither
directly nor through the types of the gateway. A field therefore compiles as its annotations do
alone, and what they share is checked on top.
-/

namespace HydrationPlan

/-- The field with one annotation in place of those that it carries. -/
def Field.carrying (f : Field) (a : Annotation) : Field :=
  { f with
    hydrated := match a with
      | .id _ => []
      | .backing h => [h]
    idHydrated := match a with
      | .id h => some h
      | .backing _ => none }

theorem Field.annotations_carrying (f : Field) (a : Annotation) :
    (f.carrying a).annotations = [a] := by
  cases a <;> rfl

theorem Field.alike_carrying {f : Field} (h : f.isHydrated = true) (a : Annotation) :
    f.Alike (f.carrying a) := by
  refine ⟨rfl, rfl, rfl, h.trans ?_⟩
  cases a <;> rfl

namespace Site

variable {rules : LiteralRules} {s : Site} {a : Annotation} {hs : List Hydration}

def carrying (s : Site) (a : Annotation) : Site := { s with field := s.field.carrying a }

def Declared (s : Site) (d : Declaration) : Prop := ∃ a ∈ s.field.annotations, s.lower a = .ok d

/-- A declaration of the field is backed so. -/
def Backed (s : Site) (b : Backing) : Prop :=
  ∃ d, s.Declared d ∧ Backing.resolve s.gateway d = .ok b

/-- What the declarations of a field must share. -/
structure Agrees (s : Site) : Prop where
  union : s.engine.isUnion s.field.type.namedType = true
  condition : ∀ d e, s.Declared d → s.Declared e → d.condition.isSome = e.condition.isSome
  indexed : ∀ d e, s.Declared d → s.Declared e → d.indexed = e.indexed
  batch : ∀ b c, s.Backed b → s.Backed c → b.isBatch = c.isBatch

theorem declared_iff (hg : List.Forall₂ s.Grounds s.field.annotations hs) {d : Declaration} :
    s.Declared d ↔ ∃ h ∈ hs, h.declaration = d := by
  constructor
  · rintro ⟨a, ha, hd⟩
    obtain ⟨h, hh, hah⟩ := exists_of_mem_left hg ha
    exact ⟨h, hh, Except.ok.inj (hah.declaration.symm.trans hd)⟩
  · rintro ⟨h, hh, rfl⟩
    obtain ⟨a, ha, hah⟩ := exists_of_mem_right hg hh
    exact ⟨a, ha, hah.declaration⟩

theorem backed_iff (hg : List.Forall₂ s.Grounds s.field.annotations hs) {b : Backing} :
    s.Backed b ↔ ∃ h ∈ hs, h.backing = b := by
  constructor
  · rintro ⟨d, hd, hb⟩
    obtain ⟨h, hh, rfl⟩ := (declared_iff hg).mp hd
    obtain ⟨a, -, hah⟩ := exists_of_mem_right hg hh
    exact ⟨h, hh, Except.ok.inj (hah.backing.symm.trans hb)⟩
  · rintro ⟨h, hh, rfl⟩
    obtain ⟨a, -, hah⟩ := exists_of_mem_right hg hh
    exact ⟨h.declaration, (declared_iff hg).mpr ⟨h, hh, rfl⟩, hah.backing⟩

theorem declared_agree_iff (hg : List.Forall₂ s.Grounds s.field.annotations hs)
    {f : Declaration → Bool} :
    (∀ d e, s.Declared d → s.Declared e → f d = f e) ↔
      allEqual (hs.map fun h => f h.declaration) = true := by
  simp only [allEqual_map_iff, declared_iff hg]
  constructor
  · exact fun hagree h hh k hk => hagree _ _ ⟨h, hh, rfl⟩ ⟨k, hk, rfl⟩
  · rintro hagree _ _ ⟨h, hh, rfl⟩ ⟨k, hk, rfl⟩
    exact hagree h hh k hk

theorem backed_agree_iff (hg : List.Forall₂ s.Grounds s.field.annotations hs)
    {f : Backing → Bool} :
    (∀ b c, s.Backed b → s.Backed c → f b = f c) ↔
      allEqual (hs.map fun h => f h.backing) = true := by
  simp only [allEqual_map_iff, backed_iff hg]
  constructor
  · exact fun hagree h hh k hk => hagree _ _ ⟨h, hh, rfl⟩ ⟨k, hk, rfl⟩
  · rintro hagree _ _ ⟨h, hh, rfl⟩ ⟨k, hk, rfl⟩
    exact hagree h hh k hk

theorem agrees_iff (hg : List.Forall₂ s.Grounds s.field.annotations hs) :
    s.Agrees ↔ s.engine.isUnion s.field.type.namedType = true ∧
      allEqual (hs.map (·.declaration.condition.isSome)) = true ∧
      allEqual (hs.map (·.declaration.indexed)) = true ∧
      allEqual (hs.map Hydration.isBatch) = true := by
  have hcondition := declared_agree_iff hg (f := (·.condition.isSome))
  have hindexed := declared_agree_iff hg (f := (·.indexed))
  have hbatch := backed_agree_iff hg (f := Backing.isBatch)
  constructor
  · intro h
    exact ⟨h.union, hcondition.mp h.condition, hindexed.mp h.indexed, hbatch.mp h.batch⟩
  · rintro ⟨hunion, hc, hi, hb⟩
    exact ⟨hunion, hcondition.mpr hc, hindexed.mpr hi, hbatch.mpr hb⟩

/-- No part of an instruction reads the annotations of the field. -/
theorem instruction_carrying (rules : LiteralRules) (s : Site) (a : Annotation) (d : Declaration)
    (b : Backing) :
    Hydration.instruction rules ⟨s.carrying a, d, b⟩ = Hydration.instruction rules ⟨s, d, b⟩ :=
  rfl

theorem hydrations_carrying_eq_ok_iff :
    (s.carrying a).hydrations = .ok hs ↔ ∃ h, s.Grounds a h ∧ s.field.type.isNullable = true ∧
      hs = [⟨s.carrying a, h.declaration, h.backing⟩] := by
  rw [hydrations_eq_ok_iff]
  have hannotations : (s.carrying a).field.annotations = [a] := s.field.annotations_carrying a
  rw [hannotations]
  constructor
  · rintro ⟨hg, hnull, -⟩
    cases hg with
    | cons hah hrest =>
      cases hrest
      rename_i h
      obtain ⟨hsite, hd, hb⟩ := hah
      refine ⟨⟨s, h.declaration, h.backing⟩, ⟨rfl, hd, hb⟩, hnull, ?_⟩
      rw [← hsite]
  · rintro ⟨h, ⟨hsite, hd, hb⟩, hnull, rfl⟩
    refine ⟨.cons ⟨rfl, hd, hb⟩ .nil, hnull, fun hlt => ?_, rfl, rfl, rfl⟩
    exact absurd hlt (by simp)

/-- An annotation alone compiles to the one instruction of its hydration. -/
theorem compile_carrying_eq_ok_iff {i : Instruction} {ws : List Diagnostic} :
    (s.carrying a).compile rules = .ok ⟨[i], ws⟩ ↔ s.field.type.isNullable = true ∧
      ∃ h, s.Grounds a h ∧ h.Yields rules i ∧ h.warnings = ws := by
  -- The hydration keeps its declaration and backing when it is moved to the smaller field.
  have hsame : ∀ h : Hydration, h.site = s →
      (Hydration.Yields rules ⟨s.carrying a, h.declaration, h.backing⟩ i ↔ h.Yields rules i) ∧
        Hydration.warnings ⟨s.carrying a, h.declaration, h.backing⟩ = h.warnings := by
    rintro h rfl
    rw [← Hydration.instruction_eq_ok_iff, ← Hydration.instruction_eq_ok_iff,
      instruction_carrying]
    exact ⟨Iff.rfl, rfl⟩
  simp only [compile_eq_ok_iff, hydrations_carrying_eq_ok_iff]
  constructor
  · rintro ⟨_, ⟨h, hg, hnull, rfl⟩, hyields, hwarnings⟩
    obtain ⟨hy, hw⟩ := hsame h hg.site
    cases hyields with
    | cons hi _ =>
      refine ⟨hnull, h, hg, hy.mp hi, ?_⟩
      rw [hwarnings, ← hw, List.flatMap_singleton]
  · rintro ⟨hnull, h, hg, hi, rfl⟩
    obtain ⟨hy, hw⟩ := hsame h hg.site
    refine ⟨_, ⟨h, hg, hnull, rfl⟩, .cons (hy.mpr hi) .nil, ?_⟩
    rw [List.flatMap_singleton, hw]

/-- One annotation has nothing to agree with. -/
theorem hydrations_eq_ok_iff_agrees :
    s.hydrations = .ok hs ↔ List.Forall₂ s.Grounds s.field.annotations hs ∧
      s.field.type.isNullable = true ∧ (1 < s.field.annotations.length → s.Agrees) := by
  rw [hydrations_eq_ok_iff]
  refine and_congr_right fun hg => and_congr_right fun _ => ?_
  rw [hg.length_eq, agrees_iff hg]
  by_cases hn : 1 < hs.length
  · simp only [hn, true_implies]
  · have hshort : ∀ f : Hydration → Bool, allEqual (hs.map f) = true := by
      intro f
      rcases hs with _ | ⟨h, _ | ⟨k, rest⟩⟩
      · rfl
      · rfl
      · simp at hn
    simp [hn, hshort]

theorem compile_eq_ok_iff_agrees {f : CompiledField} :
    s.compile rules = .ok f ↔
      (∃ hs, List.Forall₂ s.Grounds s.field.annotations hs ∧
        List.Forall₂ (Hydration.Yields rules) hs f.instructions ∧
        hs.flatMap Hydration.warnings = f.warnings) ∧
      s.field.type.isNullable = true ∧ (1 < s.field.annotations.length → s.Agrees) := by
  simp only [compile_eq_ok_iff, hydrations_eq_ok_iff_agrees]
  constructor
  · rintro ⟨hs, ⟨hg, hagrees⟩, hyields, hwarnings⟩
    exact ⟨⟨hs, hg, hyields, hwarnings.symm⟩, hagrees⟩
  · rintro ⟨⟨hs, hg, hyields, hwarnings⟩, hagrees⟩
    exact ⟨hs, ⟨hg, hagrees⟩, hyields, hwarnings.symm⟩

/-- A field compiles exactly if each annotation does alone and they agree. -/
theorem compile_iff_carrying (h : s.field.isHydrated = true) {is : List Instruction}
    {ws : List Diagnostic} :
    s.compile rules = .ok ⟨is, ws⟩ ↔
      (∃ parts : List (Instruction × List Diagnostic),
        List.Forall₂ (fun a p => (s.carrying a).compile rules = .ok ⟨[p.1], p.2⟩)
          s.field.annotations parts ∧
        parts.map Prod.fst = is ∧ parts.flatMap Prod.snd = ws) ∧
      (1 < s.field.annotations.length → s.Agrees) := by
  simp only [compile_carrying_eq_ok_iff]
  rw [compile_eq_ok_iff_agrees, exists_parts_iff, ← and_assoc]
  refine and_congr_left fun _ => ?_
  constructor
  · rintro ⟨⟨parts, hparts, hfst, hsnd⟩, hnull⟩
    exact ⟨parts, hparts.imp fun a p hp => ⟨hnull, hp⟩, hfst, hsnd⟩
  · rintro ⟨parts, hparts, hfst, hsnd⟩
    refine ⟨⟨parts, hparts.imp fun a p hp => hp.2, hfst, hsnd⟩, ?_⟩
    obtain ⟨a, ha⟩ := List.exists_mem_of_ne_nil _ ((Field.isHydrated_iff _).mp h)
    obtain ⟨p, -, hp⟩ := exists_of_mem_left hparts ha
    exact hp.1

end Site

/-- All instructions are batched or none is, all have a condition or none has, and all match by
index or none does. -/
structure Uniform (is : List Instruction) : Prop where
  batch : ∀ i ∈ is, ∀ j ∈ is, i.isBatch = j.isBatch
  condition : ∀ i ∈ is, ∀ j ∈ is, i.condition.isSome = j.condition.isSome
  index : ∀ i ∈ is, ∀ j ∈ is,
    i.strategy.matching? = some .index → j.strategy.matching? = some .index

theorem Site.uniform_of_compile {rules : LiteralRules} {s : Site} {f : CompiledField}
    (hf : s.compile rules = .ok f) : Uniform f.instructions := by
  obtain ⟨hs, hhs, hyields, -⟩ := compile_eq_ok_iff.mp hf
  obtain ⟨-, -, -, hcondition, hindexed, hbatch⟩ := hydrations_eq_ok_iff.mp hhs
  rw [allEqual_map_iff] at hcondition hindexed hbatch
  have hyielded : ∀ i ∈ f.instructions, ∃ h ∈ hs, h.Yields rules i :=
    fun i hi => exists_of_mem_right hyields hi
  constructor <;> intro i hi j hj
  all_goals
    obtain ⟨h, hh, hhi⟩ := hyielded i hi
    obtain ⟨k, hk, hkj⟩ := hyielded j hj
  case batch => rw [hhi.isBatch_eq, hkj.isBatch_eq, hbatch h hh k hk]
  case condition =>
    rw [hhi.condition_isSome_eq, hkj.condition_isSome_eq, hcondition h hh k hk]
  case index =>
    intro hindex
    have hi := Instruction.isBatch_of_matching? hindex
    have hj : j.isBatch = true := by
      rw [hkj.isBatch_eq, ← hbatch h hh k hk, ← hhi.isBatch_eq, hi]
    rw [hhi.matching_index_iff hi, hindexed h hh k hk] at hindex
    exact (hkj.matching_index_iff hj).mpr hindex

namespace Gateway

variable {g : Gateway} {rules : LiteralRules} {typeName key : String} {f : Field}

/-- The field with one of its annotations, in a gateway in which that is all it carries. -/
def alone (g : Gateway) (config : Config) (typeName key : String) (f : Field) (a : Annotation) :
    Site :=
  ⟨g.replaceField typeName key (f.carrying a), config, typeName, f.carrying a⟩

section Declared

variable (hf : g.engine.field? typeName key = some f) (h : f.isHydrated = true) (config : Config)
include hf h

theorem compile_alone {a : Annotation}
    (hrules : rules g.engine = rules (g.alone config typeName key f a).engine) :
    (g.alone config typeName key f a).compile rules =
      (Site.carrying ⟨g, config, typeName, f⟩ a).compile rules :=
  compile_replaceField hf (Field.alike_carrying h a) hrules config typeName (f.carrying a)

theorem compile_iff_alone
    (hrules : ∀ a ∈ f.annotations,
      rules g.engine = rules (g.alone config typeName key f a).engine)
    {is : List Instruction} {ws : List Diagnostic} :
    Site.compile rules ⟨g, config, typeName, f⟩ = .ok ⟨is, ws⟩ ↔
      (∃ parts : List (Instruction × List Diagnostic),
        List.Forall₂ (fun a p => (g.alone config typeName key f a).compile rules =
          .ok ⟨[p.1], p.2⟩) f.annotations parts ∧
        parts.map Prod.fst = is ∧ parts.flatMap Prod.snd = ws) ∧
      (1 < f.annotations.length → Site.Agrees ⟨g, config, typeName, f⟩) := by
  rw [Site.compile_iff_carrying (s := ⟨g, config, typeName, f⟩) h]
  refine and_congr_left fun _ => exists_congr fun parts => and_congr_left fun _ => ?_
  have hsame : ∀ a ∈ f.annotations, (g.alone config typeName key f a).compile rules =
      (Site.carrying ⟨g, config, typeName, f⟩ a).compile rules :=
    fun a ha => compile_alone hf h config (hrules a ha)
  constructor
  · exact forall₂_imp_of_mem fun a ha _ hp => (hsame a ha).trans hp
  · exact forall₂_imp_of_mem fun a ha _ hp => (hsame a ha).symm.trans hp

end Declared

theorem uniform_of_compile {config : Config} {c : Compilation}
    (hc : g.compile config rules = .ok c) : ∀ e ∈ c.plan.fields.entries, Uniform e.2 := by
  intro e he
  obtain ⟨s, -, hplanned⟩ := planned_of_compile hc he
  unfold Site.planned? at hplanned
  split at hplanned
  · rename_i f hf
    cases hplanned
    exact Site.uniform_of_compile hf
  · cases hplanned

/-- A hydrated field compiles as its annotations do one at a time, provided that they agree and that
literals are ruled alike in all these gateways. The rules of GraphQL do so. -/
theorem compile_pointwise (g : Gateway) (config : Config) :
    (∀ typeName key f, g.engine.field? typeName key = some f → f.isHydrated = true →
      (∀ rules : LiteralRules,
        (∀ a ∈ f.annotations, rules g.engine = rules (g.alone config typeName key f a).engine) →
        ∀ is ws, Site.compile rules ⟨g, config, typeName, f⟩ = .ok ⟨is, ws⟩ ↔
          (∃ parts : List (Instruction × List Diagnostic),
            List.Forall₂ (fun a p => (g.alone config typeName key f a).compile rules =
              .ok ⟨[p.1], p.2⟩) f.annotations parts ∧
            parts.map Prod.fst = is ∧ parts.flatMap Prod.snd = ws) ∧
          (1 < f.annotations.length → Site.Agrees ⟨g, config, typeName, f⟩)) ∧
      ∀ a ∈ f.annotations,
        Literal.rules g.engine = Literal.rules (g.alone config typeName key f a).engine) ∧
    ∀ (rules : LiteralRules) (c : Compilation), g.compile config rules = .ok c →
      ∀ e ∈ c.plan.fields.entries, Uniform e.2 := by
  refine ⟨fun typeName key f hf h => ⟨?_, ?_⟩, fun rules c hc => uniform_of_compile hc⟩
  · exact fun rules hrules is ws => compile_iff_alone hf h config hrules
  · exact fun a _ => Literal.rules_eq_of_alike
      (Schema.aligned_replaceField hf (Field.alike_carrying h a)).alike

/-- The pet of an owner is a cat or a dog, as its id tells. -/
def catOrDog : Field :=
  let fetched (name letter : String) := Hydrated.ofBacking "pets" name
    |>.withArgument "id" (.string "$source.petId")
    |>.withArgument "locale" (.string "en")
    |>.withCondition ⟨"petId", .startsWith letter⟩
  Field.ofType "pet" (.nullable (.named "Pet"))
    |>.withHydrated (fetched "catById" "c" |>.withBatchSize 10)
    |>.withHydrated (fetched "dogById" "d")

def owners : Gateway :=
  let animal (name : String) := FieldedType.ofName name |>.withField (.ofType "id" (.named "ID"))
  let byId (name type : String) := Field.ofType name (.named type)
    |>.withArgument ⟨"id", none, .named "ID", none⟩
    |>.withArgument ⟨"locale", none, .nullable (.named "String"), none⟩
  let query := FieldedType.ofName "Query"
    |>.withField (byId "catById" "Cat")
    |>.withField (byId "dogById" "Dog")
  let owner := FieldedType.ofName "Owner"
    |>.withField (.ofType "petId" (.named "ID"))
    |>.withField catOrDog
  ofEngine (.build [.object query, .object (animal "Cat"), .object (animal "Dog"), .object owner,
      .union "Pet" ["Cat", "Dog"]])
    |>.withService ⟨"pets", .build [.object query, .object (animal "Cat"), .object (animal "Dog")]⟩

theorem owners_pointwise :
    owners.engine.field? "Owner" "pet" = some catOrDog ∧ 1 < catOrDog.annotations.length ∧
      Site.Agrees ⟨owners, .standard, "Owner", catOrDog⟩ ∧
      ∃ is ws, Site.compile Literal.rules ⟨owners, .standard, "Owner", catOrDog⟩ =
          .ok ⟨is, ws⟩ ∧
        (∃ parts : List (Instruction × List Diagnostic),
          List.Forall₂ (fun a p => (owners.alone .standard "Owner" "pet" catOrDog a).compile
            Literal.rules = .ok ⟨[p.1], p.2⟩) catOrDog.annotations parts ∧
          parts.map Prod.fst = is ∧ parts.flatMap Prod.snd = ws) ∧
        ∃ c, owners.compile .standard Literal.rules = .ok c ∧
          c.plan.fields.entries = [(⟨"Owner", "pet"⟩, is)] ∧ Uniform is := by
  have hf : owners.engine.field? "Owner" "pet" = some catOrDog := by cbv
  obtain ⟨hpointwise, huniform⟩ := compile_pointwise owners .standard
  obtain ⟨hparts, hrules⟩ := hpointwise "Owner" "pet" catOrDog hf rfl
  have hsites : owners.sites .standard = [⟨owners, .standard, "Owner", catOrDog⟩] := by cbv
  have hsome : (Site.compile Literal.rules
      ⟨owners, .standard, "Owner", catOrDog⟩).toOption.isSome = true := by cbv
  obtain ⟨⟨is, ws⟩, hcompiled⟩ := Option.isSome_iff_exists.mp hsome
  rw [toOption_eq_some_iff] at hcompiled
  obtain ⟨hsingle, hagrees⟩ := (hparts Literal.rules hrules is ws).mp hcompiled
  obtain ⟨c, hc⟩ := compile_isOk (show owners.engine.ObjectsKeyed by decide +kernel) .standard
    Literal.rules
  have hentries : c.plan.fields.entries = [(⟨"Owner", "pet"⟩, is)] := by
    rw [fields_of_compile hc, hsites, List.filterMap_cons, Site.planned?, hcompiled]
    rfl
  have hmem : (⟨"Owner", "pet"⟩, is) ∈ c.plan.fields.entries := by
    rw [hentries]
    exact List.mem_singleton_self _
  exact ⟨hf, by decide, hagrees (by decide), is, ws, hcompiled, hsingle, c, hc, hentries,
    huniform Literal.rules c hc _ hmem⟩

/-- A host that refuses strings where the pet of an owner carries a single annotation. -/
def loneRefused : LiteralRules := Literal.rulesRefusing fun s =>
  (s.field? "Owner" "pet").any fun f => f.annotations.length = 1

/-- The pet compiles, but neither of its annotations does when the pet carries it alone. -/
theorem owners_not_pointwise :
    owners.engine.field? "Owner" "pet" = some catOrDog ∧
      (∃ is ws, Site.compile loneRefused ⟨owners, .standard, "Owner", catOrDog⟩ =
        .ok ⟨is, ws⟩) ∧
      ∀ a ∈ catOrDog.annotations, ¬ ∃ i ws,
        (owners.alone .standard "Owner" "pet" catOrDog a).compile loneRefused = .ok ⟨[i], ws⟩ := by
  have hsome : (Site.compile loneRefused
      ⟨owners, .standard, "Owner", catOrDog⟩).toOption.isSome = true := by cbv
  have hnone : (catOrDog.annotations.all fun a => ((owners.alone .standard "Owner" "pet" catOrDog
      a).compile loneRefused).toOption.isNone) = true := by decide +kernel
  obtain ⟨⟨is, ws⟩, hcompiled⟩ := Option.isSome_iff_exists.mp hsome
  refine ⟨by cbv, ⟨is, ws, toOption_eq_some_iff.mp hcompiled⟩, ?_⟩
  rintro a ha ⟨i, ws, hi⟩
  have hisNone := List.all_eq_true.mp hnone a ha
  rw [hi] at hisNone
  cases hisNone

end Gateway

end HydrationPlan
