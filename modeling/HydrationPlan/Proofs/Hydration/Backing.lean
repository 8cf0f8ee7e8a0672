import HydrationPlan.Hydration.Basic
import HydrationPlan.Proofs.Follow

/-!
# Where a backing field is found

A backing field is located by a walk that asks for an object or interface before every step. A path
that is read from the source is followed by another walk, which just fails at a type without fields.
Started at the query root, both find the same field, declared by the type that the rest of the path
has led to.
-/

namespace HydrationPlan

namespace Schema

variable {s : Schema} {typeName name parent : String} {rest path : List String} {f : Field}

theorem locate?_cons (h : rest ≠ []) :
    s.locate? typeName (name :: rest) = (s.field? typeName name).bind fun f =>
      if s.isFielded f.type.namedType then s.locate? f.type.namedType rest else none :=
  locate?.eq_3 _ _ _ _ h

theorem ne_nil_of_follow? {r : Reached} (h : s.follow? typeName path = some r) : path ≠ [] := by
  rintro rfl
  cases h

theorem field?_of_locate? (h : s.locate? typeName path = some (parent, f)) :
    ∃ name, s.field? parent name = some f := by
  induction typeName, path using locate?.induct with
  | case1 typeName => cases h
  | case2 typeName name =>
    rw [locate?, Option.map_eq_some_iff] at h
    obtain ⟨g, hg, heq⟩ := h
    cases heq
    exact ⟨name, hg⟩
  | case3 typeName name rest hrest ih =>
    rw [locate?_cons hrest, Option.bind_eq_some_iff] at h
    obtain ⟨g, _, hg⟩ := h
    split at hg
    · exact ih g hg
    · cases hg

theorem follow?_of_not_isFielded (h : s.isFielded typeName = false) (path : List String) :
    s.follow? typeName path = none := by
  have hfield : ∀ name, s.field? typeName name = none := by
    intro name
    rw [isFielded, Option.isSome_eq_false_iff, Option.isNone_iff_eq_none] at h
    rw [field?, fieldsOf?, h]
    rfl
  cases path with
  | nil => rfl
  | cons name rest =>
    cases rest with
    | nil => rw [follow?, hfield, Option.map_none]
    | cons next rest => rw [follow?_cons (List.cons_ne_nil next rest), hfield, Option.bind_none]

/-- The field that is located is the one that the path leads to. A type without fields on the way
ends both walks, the one at once and the other at its next step. -/
theorem locate?_map_snd :
    (s.locate? typeName path).map Prod.snd = (s.follow? typeName path).map (·.field) := by
  induction path generalizing typeName with
  | nil => rfl
  | cons name rest ih =>
    cases rest with
    | nil =>
      rw [locate?, follow?, Option.map_map, Option.map_map]
      rfl
    | cons next rest =>
      have hrest : next :: rest ≠ [] := List.cons_ne_nil next rest
      rw [locate?_cons hrest, follow?_cons hrest]
      cases s.field? typeName name with
      | none => rfl
      | some f =>
        rw [Option.bind_some, Option.bind_some, Option.map_map]
        cases hf : s.isFielded f.type.namedType with
        | true =>
          rw [if_pos rfl, ih]
          rfl
        | false =>
          rw [if_neg Bool.false_ne_true, follow?_of_not_isFielded hf]
          rfl

/-- The last field is declared where the path starts, or by the type that the rest leads to. -/
theorem parent_of_locate? (h : s.locate? typeName path = some (parent, f)) :
    path.dropLast = [] ∧ parent = typeName ∨
      ∃ r, s.follow? typeName path.dropLast = some r ∧ r.field.type.namedType = parent ∧
        s.isFielded parent = true := by
  induction path generalizing typeName with
  | nil => cases h
  | cons name rest ih =>
    cases rest with
    | nil =>
      obtain ⟨g, -, heq⟩ := Option.map_eq_some_iff.mp h
      cases heq
      exact .inl ⟨rfl, rfl⟩
    | cons next rest =>
      rw [locate?_cons (List.cons_ne_nil next rest)] at h
      obtain ⟨g, hg, hlocated⟩ := Option.bind_eq_some_iff.mp h
      split at hlocated
      · rename_i hfielded
        right
        rw [List.dropLast_cons_cons]
        rcases ih hlocated with ⟨hend, rfl⟩ | ⟨r, hr, hparent, hdeclares⟩
        · rw [hend, follow?, hg]
          exact ⟨_, rfl, rfl, hfielded⟩
        · rw [follow?_cons (ne_nil_of_follow? hr), hg, Option.bind_some, hr]
          exact ⟨_, rfl, hparent, hdeclares⟩
      · cases hlocated

/-- Locating a path follows it, and follows it again without its last segment. -/
theorem locate?_eq_some_iff :
    s.locate? typeName path = some (parent, f) ↔
      (s.follow? typeName path).map (·.field) = some f ∧
        (path.dropLast = [] → parent = typeName) ∧
        (path.dropLast ≠ [] → s.isFielded parent = true ∧
          (s.follow? typeName path.dropLast).map (·.field.type.namedType) = some parent) := by
  constructor
  · intro h
    refine ⟨?_, ?_⟩
    · rw [← locate?_map_snd, h, Option.map_some]
    · rcases parent_of_locate? h with ⟨hend, hparent⟩ | ⟨r, hr, hparent, hfielded⟩
      · exact ⟨fun _ => hparent, fun hne => absurd hend hne⟩
      · exact ⟨fun hnil => absurd hnil (ne_nil_of_follow? hr),
          fun _ => ⟨hfielded, by rw [hr, Option.map_some, hparent]⟩⟩
  · rintro ⟨hfield, hstart, hparent⟩
    rw [← locate?_map_snd] at hfield
    obtain ⟨⟨found, _⟩, hlocated, rfl⟩ := Option.map_eq_some_iff.mp hfield
    rw [hlocated]
    rcases parent_of_locate? hlocated with ⟨hend, hfound⟩ | ⟨r, hr, hfound, -⟩
    · rw [hfound, hstart hend]
    · obtain ⟨-, hsame⟩ := hparent (ne_nil_of_follow? hr)
      rw [hr, Option.map_some, Option.some.injEq, hfound] at hsame
      rw [hsame]

end Schema

theorem Path.parents_eq_nil_iff {p : Path} : p.parents = [] ↔ p.length = 1 := by
  have hpos : 0 < p.segments.length := List.length_pos_iff.mpr p.nonempty
  rw [parents, length, ← List.length_eq_zero_iff, List.length_dropLast]
  omega

namespace Backing

variable {g : Gateway} {d : Declaration} {b c : Backing}

theorem resolve_eq_ok_iff :
    resolve g d = .ok b ↔ ∃ service, g.service? d.service = some service ∧
      service.ownsRootField d.backingPath.first = true ∧
      g.engine.locate? g.engine.queryRoot d.backingPath.segments = some (b.parentType, b.field) ∧
      b.service = service.name ∧ b.path = d.backingPath := by
  unfold resolve
  cases hservice : g.service? d.service with
  | none => simp
  | some service =>
    dsimp only
    cases howns : service.ownsRootField d.backingPath.first with
    | false => simp [howns]
    | true =>
      rw [if_pos rfl]
      cases hlocated : g.engine.locate? g.engine.queryRoot d.backingPath.segments with
      | none => simp
      | some found =>
        obtain ⟨parent, field⟩ := found
        cases b
        simp only [Except.ok.injEq, mk.injEq, Option.some.injEq, Prod.mk.injEq, exists_eq_left',
          howns, true_and]
        constructor
        · rintro ⟨rfl, rfl, rfl, rfl⟩
          exact ⟨⟨rfl, rfl⟩, rfl, rfl⟩
        · rintro ⟨⟨rfl, rfl⟩, rfl, rfl⟩
          exact ⟨rfl, rfl, rfl, rfl⟩

theorem resolve_eq_error_iff {e : Rejection} :
    resolve g d = .error e ↔
      (g.service? d.service = none ∧ .serviceNotFound d.service = e) ∨
        ∃ service, g.service? d.service = some service ∧
          ¬ (service.ownsRootField d.backingPath.first = true ∧
            (g.engine.locate? g.engine.queryRoot d.backingPath.segments).isSome = true) ∧
          .backingFieldNotFound d.service d.backingPath.text = e := by
  unfold resolve
  cases hservice : g.service? d.service with
  | none => simp
  | some service =>
    dsimp only
    cases howns : service.ownsRootField d.backingPath.first with
    | false => simp [howns]
    | true =>
      rw [if_pos rfl]
      cases hlocated : g.engine.locate? g.engine.queryRoot d.backingPath.segments with
      | none => simp
      | some found => simp [howns]

theorem field?_of_resolve (h : resolve g d = .ok b) :
    ∃ name, g.engine.field? b.parentType name = some b.field := by
  obtain ⟨service, -, -, hlocated, -, -⟩ := resolve_eq_ok_iff.mp h
  exact Schema.field?_of_locate? hlocated

/-- The backing field is what the path of the declaration leads to, and stands where the rest of the
path has led. -/
structure Follows (root : Site) (d : Declaration) (b : Backing) : Prop where
  service : ∃ service, root.gateway.service? d.service = some service ∧
    service.ownsRootField d.backingPath.first = true ∧ b.service = service.name
  path : b.path = d.backingPath
  field : (root.sourceField? d.backingPath).map (·.field) = some b.field
  start : d.backingPath.length = 1 → b.parentType = root.parentType
  parent : ∀ q : Path, q.segments = d.backingPath.parents →
    root.engine.isFielded b.parentType = true ∧
      (root.sourceField? q).map (·.field.type.namedType) = some b.parentType

/-- Where a backing field is found is told by paths that are followed from the query root. The
service must exist and own the first segment; what else is missing, the path is reported. -/
theorem resolve_follows (g : Gateway) (d : Declaration) (config : Config) (field : Field) :
    let root : Site := ⟨g, config, g.engine.queryRoot, field⟩
    (∀ b, resolve g d = .ok b ↔ b.Follows root d) ∧
      ((∃ b, resolve g d = .ok b) ↔ ∃ service, g.service? d.service = some service ∧
        service.ownsRootField d.backingPath.first = true ∧
        (root.sourceField? d.backingPath).isSome = true) ∧
      ∀ e, resolve g d = .error e ↔
        (g.service? d.service = none ∧ .serviceNotFound d.service = e) ∨
          ∃ service, g.service? d.service = some service ∧
            ¬ (service.ownsRootField d.backingPath.first = true ∧
              (root.sourceField? d.backingPath).isSome = true) ∧
            .backingFieldNotFound d.service d.backingPath.text = e := by
  intro root
  have hsame : (g.engine.locate? g.engine.queryRoot d.backingPath.segments).isSome =
      (root.sourceField? d.backingPath).isSome := by
    have hfield : (g.engine.locate? g.engine.queryRoot d.backingPath.segments).map Prod.snd =
        (root.sourceField? d.backingPath).map (·.field) := Schema.locate?_map_snd
    have hsome := congrArg Option.isSome hfield
    rwa [Option.isSome_map, Option.isSome_map] at hsome
  refine ⟨fun b => ?_, ?_, fun e => ?_⟩
  · rw [resolve_eq_ok_iff, Schema.locate?_eq_some_iff]
    constructor
    · rintro ⟨service, hservice, howns, ⟨hfield, hstart, hparent⟩, hname, hpath⟩
      refine ⟨⟨service, hservice, howns, hname⟩, hpath, hfield, ?_, ?_⟩
      · exact fun hlength => hstart (Path.parents_eq_nil_iff.mpr hlength)
      · intro q hq
        have hne : d.backingPath.parents ≠ [] := hq ▸ q.nonempty
        rw [Site.sourceField?, hq]
        exact hparent hne
    · rintro ⟨⟨service, hservice, howns, hname⟩, hpath, hfield, hstart, hparent⟩
      refine ⟨service, hservice, howns, ⟨hfield, ?_, ?_⟩, hname, hpath⟩
      · exact fun hnil => hstart (Path.parents_eq_nil_iff.mp hnil)
      · exact fun hne => hparent ⟨d.backingPath.parents, hne⟩ rfl
  · rw [← hsame]
    simp only [resolve_eq_ok_iff]
    constructor
    · rintro ⟨b, service, hservice, howns, hlocated, -, -⟩
      exact ⟨service, hservice, howns, by rw [hlocated, Option.isSome_some]⟩
    · rintro ⟨service, hservice, howns, hlocated⟩
      obtain ⟨⟨parent, field⟩, hfound⟩ := Option.isSome_iff_exists.mp hlocated
      exact ⟨⟨service.name, parent, field, d.backingPath⟩, service, hservice, howns, hfound, rfl,
        rfl⟩
  · rw [resolve_eq_error_iff, hsame]

/-- Widgets are fields of their catalog. -/
def catalogs : Gateway :=
  let catalog := FieldedType.ofName "Catalog"
    |>.withField (.ofType "widget" (.nullable (.named "Widget")))
  let query := FieldedType.ofName "Query" |>.withField (.ofType "catalog" (.named "Catalog"))
  let schema := Schema.build [.object query, .object catalog, .object (.ofName "Widget")]
  .withService (.ofEngine schema) ⟨"widgets", schema⟩

def fromCatalog (service name : String) : Declaration where
  service := service
  backingPath := ⟨["catalog", name], by simp⟩
  arguments := []
  condition := none
  identifiedBy := none
  inputIdentifiedBy := []
  indexed := false
  batchSize := none
  timeoutMillis := none

/-- A catalog has widgets and no gadgets. -/
theorem widget_follows :
    (∃ b, resolve catalogs (fromCatalog "widgets" "widget") = .ok b ∧
      b.Follows ⟨catalogs, .standard, "Query", .ofType "featured" (.named "Widget")⟩
        (fromCatalog "widgets" "widget") ∧ b.parentType = "Catalog") ∧
      resolve catalogs (fromCatalog "widgets" "gadget") =
        .error (.backingFieldNotFound "widgets" "catalog.gadget") ∧
      resolve catalogs (fromCatalog "gadgets" "widget") = .error (.serviceNotFound "gadgets") := by
  let featured : Field := .ofType "featured" (.named "Widget")
  obtain ⟨hfollows, hfound, -⟩ :=
    resolve_follows catalogs (fromCatalog "widgets" "widget") .standard featured
  obtain ⟨-, -, hgadget⟩ :=
    resolve_follows catalogs (fromCatalog "widgets" "gadget") .standard featured
  obtain ⟨-, -, hservice⟩ :=
    resolve_follows catalogs (fromCatalog "gadgets" "widget") .standard featured
  obtain ⟨widgets, hwidgets⟩ : ∃ s, catalogs.service? "widgets" = some s := ⟨_, rfl⟩
  have howns : widgets.ownsRootField "catalog" = true := by
    cases hwidgets
    decide +kernel
  obtain ⟨b, hb⟩ := hfound.mpr ⟨widgets, hwidgets, howns, by decide +kernel⟩
  have hparent := ((hfollows b).mp hb).parent ⟨["catalog"], by simp⟩ rfl
  refine ⟨⟨b, hb, (hfollows b).mp hb, ?_⟩, ?_, ?_⟩
  · exact Option.some.inj (hparent.2.symm.trans rfl)
  · exact (hgadget _).mpr (.inr ⟨widgets, hwidgets, fun h => absurd h.2 (by decide +kernel),
      by decide +kernel⟩)
  · exact (hservice _).mpr (.inl ⟨by rfl, rfl⟩)

end Backing

end HydrationPlan
