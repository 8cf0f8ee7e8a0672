import HydrationPlan.Literal.Coercion
import HydrationPlan.Proofs.Canonical
import HydrationPlan.Proofs.Hydration.Backing
import HydrationPlan.Proofs.Hydration.Matching
import HydrationPlan.Proofs.Plan.Compilation

/-!
# Correlation keys of a plan

Whether a call is batched, which of its arguments is the key and whether that argument takes a list
is decided in different places, each with a notion of lists of its own. Where types are canonical
these agree, and every batched call has one key of the right shape.
-/

namespace HydrationPlan

namespace Hydration

variable {rules : LiteralRules} {h : Hydration} {i : Instruction}

/-- A call is batched as the wrappers of its backing field tell, and a batched call has one key: a
single list, by which results are matched as the declaration says. -/
structure Correlates (h : Hydration) (i : Instruction) : Prop where
  isBatch : i.isBatch = true ↔ 0 < h.backing.field.type.listDepth ∧
    ∃ a ∈ h.backing.field.arguments.values, 0 < a.type.listDepth
  key : i.isBatch = true → ∃ key, i.arguments.filterMap Argument.sourcePath? = [key] ∧
    ∃ m, i.strategy.matching? = some m ∧ Matching.Declared h.site h.declaration key m
  single : i.isBatch = true → ∀ a ∈ i.arguments, a.sourcePath?.isSome →
    a.backingType.listDepth = 1 ∧ a.backingType.IsSingleList

theorem isBatch_iff (hf : h.backing.field.type.Canonical)
    (ha : ∀ a ∈ h.backing.field.arguments.values, a.type.Canonical) :
    h.isBatch = true ↔ 0 < h.backing.field.type.listDepth ∧
      ∃ a ∈ h.backing.field.arguments.values, 0 < a.type.listDepth := by
  rw [isBatch, Backing.isBatch, Bool.and_eq_true, TypeRef.isList_iff_listDepth_pos hf,
    List.any_eq_true]
  refine and_congr_right fun _ => exists_congr fun a => and_congr_right fun hm => ?_
  exact TypeRef.isList_iff_listDepth_pos (ha a hm)

theorem batchKey?_of_resolveArguments {args : List Argument}
    (hargs : h.resolveArguments rules = .ok args) (hb : h.isBatch = true) :
    ∃ key, args.filterMap Argument.sourcePath? = [key] ∧ batchKey? args = some key := by
  obtain ⟨key, hkey⟩ := sourcePath_of_resolveArguments hargs hb
  exact ⟨key, hkey, batchKey?_eq_some hkey⟩

/-- What a batched call reads from the source passes the check of correlation keys. -/
theorem listDepth_of_resolveArguments {args : List Argument}
    (hargs : h.resolveArguments rules = .ok args) (hb : h.isBatch = true) {a : Argument}
    (ha : a ∈ args) (hsource : a.sourcePath?.isSome) : a.backingType.listDepth = 1 := by
  obtain ⟨path, hpath⟩ := Option.isSome_iff_exists.mp hsource
  obtain ⟨type, yieldsList, shape, hv⟩ := Argument.sourcePath?_eq_some_iff.mp hpath
  obtain ⟨-, hfits, -⟩ := source_of_resolveArguments hargs ha hv
  exact ((Schema.checkAssignable_eq_ok_iff_meeting ..).mp hfits).1 hb rfl

theorem Yields.declared_matching (hy : h.Yields rules i) (hb : h.isBatch = true) {key : Path}
    (hkey : batchKey? i.arguments = some key) :
    ∃ m, i.strategy.matching? = some m ∧ Matching.Declared h.site h.declaration key m := by
  obtain ⟨m, hm, hi⟩ := hy.exists_matching hb
  exact ⟨m, hi, (Matching.resolve_eq_ok_iff hkey).mp hm⟩

theorem Yields.correlates (hy : h.Yields rules i) (hf : h.backing.field.type.Canonical)
    (ha : ∀ a ∈ h.backing.field.arguments.values, a.type.Canonical) : h.Correlates i := by
  refine ⟨?_, ?_, ?_⟩
  · rw [hy.isBatch_eq]
    exact isBatch_iff hf ha
  · intro hb
    rw [hy.isBatch_eq] at hb
    obtain ⟨key, hpaths, hkey⟩ := batchKey?_of_resolveArguments hy.arguments hb
    exact ⟨key, hpaths, hy.declared_matching hb hkey⟩
  · intro hb a hm hsource
    rw [hy.isBatch_eq] at hb
    have hdepth := listDepth_of_resolveArguments hy.arguments hb hm hsource
    obtain ⟨b, hbm, htype⟩ := backingType_of_resolveArguments hy.arguments hm
    exact ⟨hdepth, TypeRef.isSingleList_of_listDepth (htype ▸ ha b hbm) hdepth⟩

/-- A batched call needs a way to match its results. -/
theorem not_yields_of_unmatched (hb : h.isBatch = true) (hindexed : h.declaration.indexed = false)
    (hpairs : h.declaration.inputIdentifiedBy = []) (hresult : h.declaration.identifiedBy = none) :
    ¬ h.Yields rules i := by
  intro hy
  obtain ⟨key, -, hkey⟩ := batchKey?_of_resolveArguments hy.arguments hb
  obtain ⟨m, -, hm⟩ := hy.declared_matching hb hkey
  cases hm with
  | index h => simp [hindexed] at h
  | identifiers _ h => exact h hpairs
  | identifier _ _ h => simp [hresult] at h

end Hydration

namespace Gateway

/-- If all types are canonical, the batched instructions of a plan have one well-formed key each. A
batched call that is not told how to match is refused, and the lack of a key is never the cause. -/
theorem compile_correlates {g : Gateway} (hg : g.engine.Canonical) (config : Config)
    (rules : LiteralRules) :
    (∀ c, g.compile config rules = .ok c → ∀ e ∈ c.plan.fields.entries,
      ∃ s ∈ g.sites config, s.coordinates = e.1 ∧
        List.Forall₂ (fun a i => ∃ h, s.Grounds a h ∧ i.target = h.target ∧ h.Correlates i)
          s.field.annotations e.2) ∧
      ∀ h : Hydration, h.isBatch = true →
        (h.declaration.indexed = false → h.declaration.inputIdentifiedBy = [] →
          h.declaration.identifiedBy = none → ∀ i, h.instruction rules ≠ .ok i) ∧
        ∀ args, h.resolveArguments rules = .ok args →
          Matching.resolve h.site h.declaration args ≠ .error .missingSourceField := by
  constructor
  · intro c hc e he
    obtain ⟨s, hs, hcoordinates, hall⟩ := yields_of_compile hc he
    refine ⟨s, hs, hcoordinates, hall.imp ?_⟩
    rintro a i ⟨h, hground, hyields⟩
    obtain ⟨name, hfield⟩ := Backing.field?_of_resolve hground.backing
    rw [(mem_sites_iff.mp hs).1] at hfield
    obtain ⟨htype, harguments⟩ := hg.of_field? hfield
    exact ⟨h, hground, hyields.target, hyields.correlates htype harguments⟩
  · intro h hb
    constructor
    · intro hindexed hpairs hresult i hi
      exact h.not_yields_of_unmatched hb hindexed hpairs hresult
        (Hydration.instruction_eq_ok_iff.mp hi)
    · intro args hargs
      obtain ⟨key, -, hkey⟩ := h.batchKey?_of_resolveArguments hargs hb
      exact Matching.resolve_ne_missingSourceField hkey

/-- Boards that refer to an item by its id and its site. Items are fetched by many references at
once, and it is open how they are matched. -/
def boards (matched : Hydrated → Hydrated) : Gateway :=
  let itemsByRefs : Field :=
    Field.ofType "itemsByRefs" (.nullable (.list (.nullable (.named "Item"))))
      |>.withArgument ⟨"refs", none, .list (.named "RefInput"), none⟩
  let query := FieldedType.ofName "Query" |>.withField itemsByRefs
  let item := FieldedType.ofName "Item"
    |>.withField (.ofType "id" (.named "ID"))
    |>.withField (.ofType "site" (.named "String"))
  let ref := FieldedType.ofName "Ref"
    |>.withField (.ofType "id" (.named "ID"))
    |>.withField (.ofType "site" (.named "String"))
  let refInput := InputType.ofName "RefInput"
    |>.withField ⟨"id", none, .named "ID", none⟩
    |>.withField ⟨"site", none, .nullable (.named "String"), none⟩
  let board := FieldedType.ofName "Board"
    |>.withField (.ofType "ref" (.named "Ref"))
    |>.withField (Field.ofType "item" (.nullable (.named "Item"))
      |>.withHydrated (matched (Hydrated.ofBacking "items" "itemsByRefs"
        |>.withArgument "refs" (.string "$source.ref")
        |>.withCondition ⟨"ref.site", .startsWith "eu"⟩)))
  ofEngine (.build [.object query, .object item, .object ref, .inputObject refInput, .object board])
    |>.withService ⟨"items", .build [.object query, .object item, .inputObject refInput]⟩

/-- Items are matched by their id and their site. -/
def pairedBoards : Gateway :=
  boards fun h => h |>.withIdentifierPair "ref.id" "id" |>.withIdentifierPair "ref.site" "site"

/-- Without the pairs the items are refused. -/
theorem pairedBoards_correlated :
    pairedBoards.engine.Canonical ∧ ∃ c, pairedBoards.compile .standard Literal.rules = .ok c ∧
      c.plan.fields.entries.map (fun e => (e.1, e.2.map (·.isBatch))) =
        [(⟨"Board", "item"⟩, [true])] ∧
      (∀ e ∈ c.plan.fields.entries, ∃ s ∈ pairedBoards.sites .standard, s.coordinates = e.1 ∧
        List.Forall₂ (fun a i => ∃ h, s.Grounds a h ∧ i.target = h.target ∧ h.Correlates i)
          s.field.annotations e.2) ∧
      ∃ s ∈ pairedBoards.sites .standard, ∃ h args, s.hydrations = .ok [h] ∧ h.isBatch = true ∧
        h.resolveArguments Literal.rules = .ok args ∧
        Matching.resolve s h.declaration args ≠ .error .missingSourceField ∧
        ∀ i, Hydration.instruction Literal.rules
          { h with declaration := { h.declaration with inputIdentifiedBy := [] } } ≠ .ok i := by
  have hcanonical : pairedBoards.engine.Canonical := by decide +kernel
  have hplan : (pairedBoards.compile .standard Literal.rules).map (fun c =>
      c.plan.fields.entries.map fun e => (e.1, e.2.map (·.isBatch))) =
      .ok [(⟨"Board", "item"⟩, [true])] := by cbv
  have hsite : (pairedBoards.sites .standard).map (fun s => s.hydrations.toOption.map fun hs =>
      hs.map fun h => (h.isBatch, h.declaration.indexed, h.declaration.identifiedBy,
        (h.resolveArguments Literal.rules).toOption.isSome)) =
      [some [(true, false, none, true)]] := by cbv
  obtain ⟨hcorrelates, hmatched⟩ := compile_correlates hcanonical .standard Literal.rules
  obtain ⟨c, hc, hentries⟩ := map_eq_ok_iff.mp hplan
  obtain ⟨s, hs, hvalues⟩ := List.map_eq_singleton_iff.mp hsite
  obtain ⟨hydrations, hhydrations, hsingle⟩ := Option.map_eq_some_iff.mp hvalues
  obtain ⟨h, rfl, hvalues⟩ := List.map_eq_singleton_iff.mp hsingle
  rw [toOption_eq_some_iff] at hhydrations
  simp only [Prod.mk.injEq] at hvalues
  obtain ⟨hb, hindexed, hresult, hresolved⟩ := hvalues
  obtain ⟨args, hargs⟩ := Option.isSome_iff_exists.mp hresolved
  rw [toOption_eq_some_iff] at hargs
  have hsame : h.site = s := Site.site_of_mem_hydrations hhydrations h List.mem_cons_self
  refine ⟨hcanonical, c, hc, hentries, hcorrelates c hc, s, ?_, h, args, hhydrations, hb, hargs,
    hsame ▸ (hmatched h hb).2 args hargs, ?_⟩
  · rw [hs]
    exact List.mem_singleton_self s
  · exact (hmatched { h with declaration := { h.declaration with inputIdentifiedBy := [] } } hb).1
      hindexed rfl hresult

end Gateway

end HydrationPlan
