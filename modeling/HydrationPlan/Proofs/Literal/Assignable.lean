import HydrationPlan.Proofs.Assignability.Decision
import HydrationPlan.Proofs.Hydration.ArgumentList
import HydrationPlan.Proofs.Literal.Normal

/-!
# Literals of assignable types

Types are compared by their names and wrappers, literals are coerced by their form. Where the
comparison lets a type stand for another one, a literal that was coerced to the first can be coerced
to the second. Two kinds of types are no part of this: objects of an input type may be filled with
defaults that are no values of their types, and the custom scalar `Long`, which may stand for an id,
takes literals of any form.
-/

namespace HydrationPlan

namespace Schema

variable {s : Schema} {name : String}

/-- No type is stored under the name of a scalar that every schema has. -/
def KeepsBuiltins (s : Schema) : Prop := ∀ name ∈ builtinScalars, s.type? name = none

instance (s : Schema) : Decidable s.KeepsBuiltins :=
  inferInstanceAs (Decidable (∀ name ∈ builtinScalars, s.type? name = none))

theorem KeepsBuiltins.ofName?_eq_none (hs : s.KeepsBuiltins) {d : TypeDefinition}
    (h : s.type? name = some d) : BuiltinScalar.ofName? name = none := by
  refine BuiltinScalar.ofName?_eq_none_iff.mpr fun hmem => ?_
  cases h.symm.trans (hs name hmem)

theorem enumType?_eq_some {a : EnumType} (h : s.enumType? name = some a) :
    s.type? name = some (.enum a) := by
  unfold enumType? at h
  split at h
  · rename_i htype
    cases h
    exact htype
  · cases h

/-- The named type is neither an input object nor the custom scalar `Long`. -/
structure IsSimple (s : Schema) (name : String) : Prop where
  input : s.inputType? name = none
  long : ∀ t, s.type? name = some (.scalar t) → name ≠ "Long"

theorem IsSimple.isScalar_long (h : s.IsSimple "Long") : s.isScalar "Long" = false := by
  have hbuiltin : builtinScalars.contains "Long" = false := by decide
  rw [isScalar, hbuiltin, Bool.false_or]
  split
  · rename_i t ht
    exact absurd rfl (h.long t ht)
  · rfl

end Schema

namespace Literal

variable {s : Schema} {c : Config} {v w : Literal} {t u : TypeRef} {x y : String}

theorem coerceNamed_enum (hs : s.KeepsBuiltins) {a : EnumType} (hx : s.enumType? x = some a) :
    coerceNamed s v x = coerceEnum x a v := by
  have htype := Schema.enumType?_eq_some hx
  simp only [coerceNamed, hs.ofName?_eq_none htype, htype]

theorem coerceNamed_fielded (hs : s.KeepsBuiltins) (hx : s.isFielded x) :
    coerceNamed s v x = .error (.notAnInputType x) := by
  obtain ⟨o, ho⟩ := Option.isSome_iff_exists.mp hx
  obtain ⟨d, hd, hfielded⟩ := Option.bind_eq_some_iff.mp ho
  cases d with
  | object t => simp only [coerceNamed, hs.ofName?_eq_none hd, hd]
  | interface t => simp only [coerceNamed, hs.ofName?_eq_none hd, hd]
  | _ => cases hfielded

theorem string_of_coerceBuiltin (h : coerceBuiltin x .string v = .ok w) :
    ∃ text, w = string text := by
  cases v with
  | string text =>
    cases h
    exact ⟨text, rfl⟩
  | _ => cases h

theorem string_of_coerceBuiltin_id (h : coerceBuiltin x .id v = .ok w) :
    ∃ text, w = string text := by
  cases v with
  | string text =>
    cases h
    exact ⟨text, rfl⟩
  | int n =>
    cases h
    exact ⟨toString n.toInt, rfl⟩
  | _ => cases h

theorem int_of_coerceBuiltin (h : coerceBuiltin x .int v = .ok w) : ∃ n, w = int n := by
  cases v with
  | int n =>
    rw [coerceBuiltin] at h
    split at h
    · cases h
      exact ⟨n, rfl⟩
    · cases h
  | _ => cases h

theorem exists_coerceEnum {a b : EnumType} (hsub : ∀ n ∈ a.values, n ∈ b.values)
    (h : coerceEnum x a v = .ok w) : ∃ w', coerceEnum y b w = .ok w' := by
  obtain ⟨n, -, hn, rfl⟩ := coerceEnum_eq_ok_iff.mp h
  exact ⟨enum n, coerceEnum_eq_ok_iff.mpr ⟨n, rfl, hsub n hn, rfl⟩⟩

/-- What is a value of a name is taken where the name stands for another one. -/
theorem exists_coerceNamed_of_leafFits (hs : s.KeepsBuiltins) (hc : c.enumOverrides = [])
    (hsimple : s.IsSimple x) {A : String → String → Prop} (hfits : s.LeafFits c A x y)
    (h : coerceNamed s v x = .ok w) : ∃ w', coerceNamed s w y = .ok w' := by
  cases hfits with
  | same => exact ⟨w, coerceNamed_of_coerced (fun _ => hsimple.input) h⟩
  | enums hx hy hsub =>
    rw [coerceNamed_enum hs hx] at h
    rw [coerceNamed_enum hs hy]
    refine exists_coerceEnum (hsub.resolve_left ?_) h
    simp [Config.isEnumOverride, hc]
  | builds hx =>
    -- An object may build an input object, but no literal is a value of the object.
    rw [coerceNamed_fielded hs hx] at h
    cases h
  | scalars henum hbuild hx hy hpair =>
    simp only [List.mem_cons, Prod.mk.injEq, List.not_mem_nil, or_false] at hpair
    rcases hpair with ⟨rfl, rfl⟩ | ⟨rfl, rfl⟩ | ⟨rfl, rfl⟩ | ⟨rfl, rfl⟩
    · rw [coerceNamed_builtin rfl] at h ⊢
      obtain ⟨text, rfl⟩ := string_of_coerceBuiltin h
      exact ⟨string text, rfl⟩
    · rw [coerceNamed_builtin rfl] at h ⊢
      obtain ⟨n, rfl⟩ := int_of_coerceBuiltin h
      exact ⟨string (toString n.toInt), rfl⟩
    · -- The only name of the four that a schema has to declare.
      rw [hsimple.isScalar_long] at hx
      cases hx
    · rw [coerceNamed_builtin rfl] at h ⊢
      obtain ⟨text, rfl⟩ := string_of_coerceBuiltin_id h
      exact ⟨string text, rfl⟩

/-- Wrappers that fit carry over what holds of the names below them. -/
theorem exists_coerce_of_fits {leaf : String → String → Prop} (hfits : TypeRef.Fits leaf t u)
    (hnamed : ∀ v w, coerceNamed s v t.namedType = .ok w →
      ∃ w', coerceNamed s w u.namedType = .ok w')
    (h : coerce s v t = .ok w) : ∃ w', coerce s w u = .ok w' := by
  induction hfits generalizing v w with
  | named =>
    obtain ⟨hv, hw⟩ := coerce_named_eq_ok_iff.mp h
    obtain ⟨w', hw'⟩ := hnamed v w hw
    exact ⟨w', coerce_named_eq_ok_iff.mpr ⟨isNull_of_coerceNamed hv hw, hw'⟩⟩
  | @list e f _ ih =>
    obtain ⟨-, ws, rfl, hws⟩ := coerce_list_eq_ok_iff.mp h
    have hitems : ∃ us, List.Forall₂ (fun w u => coerce s w f = .ok u) ws us := by
      refine exists_forall₂_iff.mpr fun w hw => ?_
      obtain ⟨v, -, hvw⟩ := exists_of_mem_right hws hw
      exact ih hnamed hvw
    obtain ⟨us, hus⟩ := hitems
    exact ⟨list us, coerce_list_eq_ok_iff.mpr ⟨rfl, us, rfl, hus⟩⟩
  | nullable _ ih =>
    rw [coerce_nullable] at h ⊢
    split at h
    · cases h
      exact ⟨null, rfl⟩
    · rename_i hv
      obtain ⟨w', hw'⟩ := ih hnamed h
      rw [isNull_of_coerce h, if_neg hv]
      exact ⟨w', hw'⟩
  | intoNullable _ ih =>
    rw [coerce_nullable]
    split
    · exact ⟨null, rfl⟩
    · exact ih hnamed h

theorem exists_coerce_of_checkAssignable (hs : s.KeepsBuiltins) (hc : c.enumOverrides = [])
    (hsimple : s.IsSimple t.namedType)
    (hcheck : s.checkAssignable c false .fieldArgument t u = .ok ())
    (h : coerce s v t = .ok w) : ∃ w', coerce s w u = .ok w' := by
  obtain ⟨-, x, y, hnames, hmeets⟩ := (Schema.checkAssignable_eq_ok_iff_meeting ..).mp hcheck
  -- What objects build plays no part, so the relation between them may be any.
  have hleaf : s.LeafFits c (fun _ _ => True) x y := by
    rw [Schema.tellsMeetings_true x y]
    exact hmeets.imp_right fun ⟨p, hp, _⟩ => ⟨p, hp, trivial⟩
  have hfits : TypeRef.Fits (s.LeafFits c fun _ _ => True) t u :=
    TypeRef.fits_iff_meet.mpr ⟨x, y, hnames, hleaf⟩
  refine exists_coerce_of_fits hfits (fun v w hw => ?_) h
  exact exists_coerceNamed_of_leafFits hs hc hsimple hfits.namedTypes hw

/-- A literal of a type is taken by every type that the type may be passed to. So the default of an
argument is taken by the backing argument to which the argument is passed on. -/
theorem exists_coerce_of_assignable (hs : s.KeepsBuiltins) (hc : c.enumOverrides = []) :
    (∀ supplied required, s.IsSimple supplied.namedType →
      s.checkAssignable c false .fieldArgument supplied required = .ok () →
        ∀ v w, coerce s v supplied = .ok w → ∃ w', coerce s w required = .ok w') ∧
      ∀ h : Hydration, h.engine = s → h.site.config = c → h.isBatch = false →
        ∀ args, h.resolveArguments rules = .ok args → ∀ a ∈ args, ∀ name type default,
          a.value = .fieldArgument name type (some default) → s.IsSimple type.namedType →
            ∃ w, coerce s default a.backingType = .ok w := by
  refine ⟨fun supplied required hsimple hcheck v w hw =>
    exists_coerce_of_checkAssignable hs hc hsimple hcheck hw, ?_⟩
  rintro h rfl rfl hbatch args hargs a ha name type default hvalue hsimple
  obtain ⟨hcheck, v, hv⟩ := Hydration.default_of_resolveArguments hargs ha hvalue
  rw [hbatch] at hcheck
  exact exists_coerce_of_checkAssignable hs hc hsimple hcheck hv

end Literal

/-- A shop that asks for its walls in some light shades, where colors are asked for. -/
def shadedShop : Hydration where
  site := {
    gateway := .ofEngine (.build [.enum "Shade" ["WHITE", "CREAM"],
      .enum "Color" ["BLACK", "CREAM", "WHITE"]])
    config := .standard
    parentType := "Shop"
    field := (Field.ofType "walls" (.nullable (.named "Wall"))).withArgument
      ⟨"shades", none, .list (.named "Shade"), some (.string "CREAM")⟩ }
  declaration := {
    service := "walls"
    backingPath := ⟨["wall"], by simp⟩
    arguments := [⟨"colors", .fieldArgument "shades"⟩]
    condition := none
    identifiedBy := none
    inputIdentifiedBy := []
    indexed := false
    batchSize := none
    timeoutMillis := none }
  backing := {
    service := "walls"
    parentType := "Query"
    field := (Field.ofType "wall" (.nullable (.named "Wall"))).withArgument
      ⟨"colors", none, .nullable (.list (.nullable (.named "Color"))), none⟩
    path := ⟨["wall"], by simp⟩ }

theorem shades_accepted :
    let s := shadedShop.engine
    let shades : TypeRef := .list (.named "Shade")
    let colors : TypeRef := .nullable (.list (.nullable (.named "Color")))
    let cream := Literal.list [.enum "CREAM"]
    s.KeepsBuiltins ∧ s.IsSimple "Shade" ∧ shadedShop.isBatch = false ∧
      (s.checkAssignable .standard false .fieldArgument shades colors = .ok () ∧
        Literal.coerce s (.string "CREAM") shades = .ok cream ∧
          ∃ w, Literal.coerce s cream colors = .ok w) ∧
      shadedShop.resolveArguments Literal.rules =
          .ok [⟨"colors", colors, .fieldArgument "shades" shades (some cream)⟩] ∧
        ∃ w, Literal.coerce s cream colors = .ok w := by
  intro s shades colors cream
  have hs : s.KeepsBuiltins := by decide +kernel
  have hsimple : s.IsSimple "Shade" := ⟨by rfl, fun _ _ => by decide⟩
  have hbatch : shadedShop.isBatch = false := by rfl
  have hcheck : s.checkAssignable .standard false .fieldArgument shades colors = .ok () := by rfl
  have hcream : Literal.coerce s (.string "CREAM") shades = .ok cream := by cbv
  have hargs : shadedShop.resolveArguments Literal.rules =
      .ok [⟨"colors", colors, .fieldArgument "shades" shades (some cream)⟩] := by cbv
  obtain ⟨haccepts, hdefault⟩ := Literal.exists_coerce_of_assignable (c := .standard) hs rfl
  refine ⟨hs, hsimple, hbatch, ⟨hcheck, hcream, ?_⟩, hargs, ?_⟩
  · exact haccepts shades colors hsimple hcheck _ _ hcream
  · exact hdefault shadedShop rfl rfl hbatch _ hargs _ List.mem_cons_self _ _ _ rfl hsimple

end HydrationPlan
