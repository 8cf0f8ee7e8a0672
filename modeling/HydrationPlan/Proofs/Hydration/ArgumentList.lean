import HydrationPlan.Proofs.Checked
import HydrationPlan.Proofs.Hydration.InputShape
import Mathlib.Data.Option.Basic

/-!
# Argument lists

What a resolved list of arguments owes to the declaration and to the backing field. Literals are
coerced by rules that are passed in; nothing is assumed about them.
-/

namespace HydrationPlan

theorem firstRepeated?_eq_none_iff {seen l : List String} :
    firstRepeated? seen l = none ↔ l.Nodup ∧ ∀ x ∈ l, x ∉ seen := by
  induction l generalizing seen with
  | nil => simp [firstRepeated?]
  | cons x l ih =>
    rw [firstRepeated?, List.nodup_cons]
    by_cases hx : x ∈ seen
    · simp [hx]
    · rw [if_neg (by simpa using hx), ih]
      simp only [List.mem_cons, not_or, forall_eq_or_imp]
      constructor
      · rintro ⟨hl, hseen⟩
        exact ⟨⟨fun hm => (hseen x hm).1 rfl, hl⟩, hx, fun y hy => (hseen y hy).2⟩
      · rintro ⟨⟨hm, hl⟩, _, hseen⟩
        exact ⟨hl, fun y hy => ⟨fun he => hm (he ▸ hy), hseen y hy⟩⟩

theorem Argument.sourcePath?_eq_some_iff {a : Argument} {path : Path} :
    a.sourcePath? = some path ↔
      ∃ type yieldsList shape, a.value = .sourceField path type yieldsList shape := by
  unfold sourcePath?
  cases a.value <;> simp

namespace Hydration

variable {rules : LiteralRules} {h : Hydration}

/-- The value that a supply gives to an argument of the required type, all checks passed. -/
inductive Supplies (rules : LiteralRules) (h : Hydration) (required : TypeRef) :
    Supply → ArgumentValue → Prop
  | sourceField {path : Path} {reached : Reached} {shape : Option InputShape}
      (hpath : h.site.sourceField? path = some reached)
      (hfits : h.engine.checkAssignable h.site.config h.isBatch .sourceField reached.field.type
        required = .ok ())
      (hshape : h.engine.inputShape reached.field.type required = .ok shape) :
      Supplies rules h required (.sourceField path)
        (.sourceField path reached.field.type reached.yieldsList shape)
  | fieldArgument {name : String} {argument : InputValue} {default : Option Literal}
      (hname : h.site.field.arguments.get? name = some argument)
      (hfits : h.engine.checkAssignable h.site.config h.isBatch .fieldArgument argument.type
        required = .ok ())
      (hdefault : Option.Rel (fun v w => rules h.engine v argument.type = .ok w)
        argument.defaultValue default) :
      Supplies rules h required (.fieldArgument name) (.fieldArgument name argument.type default)
  | static {value v : Literal} (hvalue : rules h.engine value required = .ok v) :
      Supplies rules h required (.static value) (.static v)
  | remainingArguments {names : List String} (hnames : names.Sublist h.site.field.arguments.keys)
      (hread : ∀ n ∈ h.site.field.arguments.keys,
        n ∈ names ↔ ∀ a ∈ h.declaration.arguments, a.supply ≠ .fieldArgument n) :
      Supplies rules h required .remainingArguments (.remainingArguments names)

/-- A complete list of checked arguments. -/
structure Supplied (rules : LiteralRules) (h : Hydration) (args : List Argument) : Prop where
  names : args.map (·.name) = h.declaration.arguments.map (·.name)
  nodup : (args.map (·.name)).Nodup
  backing : ∀ a ∈ args, ∃ b, h.backing.field.arguments.get? a.name = some b ∧
    b.name = a.name ∧ a.backingType = b.type
  required : ∀ b ∈ h.backing.field.arguments.values, b.type.isNullable = false →
    b.defaultValue = none → (args.map (·.name)).count b.name = 1
  values : List.Forall₂ (fun d a => h.Supplies rules a.backingType d.supply a.value)
    h.declaration.arguments args
  key : h.isBatch = true → ∃ path, args.filterMap Argument.sourcePath? = [path]

/-- No argument is targeted twice, none that is required is left out, and a batched field has one
correlation key. -/
theorem checkArgumentSet_eq_ok_iff :
    h.checkArgumentSet = .ok () ↔
      (h.declaration.arguments.map (·.name)).Nodup ∧
        (∀ b ∈ h.backing.field.arguments.values,
          b.isOptional ∨ b.name ∈ h.declaration.arguments.map (·.name)) ∧
        (h.isBatch = true → ∃ a, h.declaration.sourceArguments = [a]) := by
  have hrepeated : firstRepeated? [] (h.declaration.arguments.map (·.name)) = none ↔ _ :=
    firstRepeated?_eq_none_iff
  have hmissing : (h.backing.field.arguments.values.find? fun a =>
      !a.isOptional && !(h.declaration.arguments.map (·.name)).contains a.name) = none ↔
      ∀ b ∈ h.backing.field.arguments.values,
        b.isOptional ∨ b.name ∈ h.declaration.arguments.map (·.name) := by
    simp only [List.find?_eq_none, Bool.and_eq_true, Bool.not_eq_true', List.contains_eq_mem,
      decide_eq_false_iff_not, not_and, not_not]
    refine forall₂_congr fun b _ => ?_
    cases b.isOptional <;> simp
  simp only [List.not_mem_nil, not_false_eq_true, implies_true, and_true] at hrepeated
  rw [← hrepeated, ← hmissing]
  unfold checkArgumentSet
  dsimp only
  split
  · rename_i hr
    simp [hr]
  · rename_i hr
    rw [and_iff_right hr]
    split
    · rename_i hm
      simp only [hm, reduceCtorEq, false_and]
    · rename_i hm
      rw [and_iff_right hm]
      by_cases hb : h.isBatch = true
      · rw [if_pos hb]
        rcases h.declaration.sourceArguments with _ | ⟨a, _ | ⟨b, rest⟩⟩ <;> simp [hb]
      · simp [hb]

theorem default_coerced {s : Schema} {a : InputValue} {default : Option Literal}
    (hd : normalizedDefault rules s a = .ok default) :
    Option.Rel (fun v w => rules s v a.type = .ok w) a.defaultValue default := by
  unfold normalizedDefault at hd
  split at hd
  · rename_i hv
    cases hd
    rw [hv]
    exact .none
  · rename_i v hv
    split at hd
    · rename_i w hw
      cases hd
      rw [hv]
      exact .some hw
    · cases hd

theorem mem_remainingArguments {n : String} (hn : n ∈ h.site.field.arguments.keys) :
    n ∈ h.remainingArguments ↔ ∀ a ∈ h.declaration.arguments, a.supply ≠ .fieldArgument n := by
  have hname : ∀ a : DeclaredArgument,
      a.supply.argumentName? = some n ↔ a.supply = .fieldArgument n := by
    intro a
    cases a.supply <;> simp [Supply.argumentName?]
  simp [remainingArguments, hn, List.mem_filterMap, hname]

theorem supplies_of_resolveSupply {d : DeclaredArgument} {required : TypeRef} {v : ArgumentValue}
    (hv : h.resolveSupply rules d required = .ok v) : h.Supplies rules required d.supply v := by
  unfold resolveSupply at hv
  dsimp only at hv
  cases hs : d.supply with
  | sourceField path =>
    simp only [hs] at hv
    cases hr : h.site.sourceField? path with
    | none =>
      rw [hr] at hv
      exact absurd hv throw_ne_ok
    | some reached =>
      simp only [hr, bind_eq_ok_iff, liftM_eq_ok_iff, mapError_eq_ok_iff, pure_eq_ok_iff] at hv
      obtain ⟨_, hfits, shape, hshape, rfl⟩ := hv
      exact .sourceField hr hfits hshape
  | fieldArgument name =>
    simp only [hs] at hv
    cases hr : h.site.field.arguments.get? name with
    | none =>
      rw [hr] at hv
      exact absurd hv throw_ne_ok
    | some argument =>
      simp only [hr, bind_eq_ok_iff, liftM_eq_ok_iff, mapError_eq_ok_iff, pure_eq_ok_iff] at hv
      obtain ⟨_, hfits, default, hdefault, rfl⟩ := hv
      exact .fieldArgument hr hfits (default_coerced hdefault)
  | static value =>
    simp only [hs] at hv
    split at hv
    · rename_i w hw
      cases hv
      exact .static hw
    · exact absurd hv throw_ne_ok
  | remainingArguments =>
    simp only [hs] at hv
    cases hv
    exact .remainingArguments List.filter_sublist fun n hn => mem_remainingArguments hn

theorem resolveArgument_eq_ok {d : DeclaredArgument} {a : Argument}
    (ha : h.resolveArgument rules d = .ok a) :
    a.name = d.name ∧ ∃ b, h.backing.field.arguments.get? d.name = some b ∧
      a.backingType = b.type ∧ h.Supplies rules a.backingType d.supply a.value := by
  unfold resolveArgument at ha
  cases hb : h.backing.field.arguments.get? d.name with
  | none =>
    rw [hb] at ha
    exact absurd ha throw_ne_ok
  | some b =>
    simp only [hb, bind_eq_ok_iff, pure_eq_ok_iff] at ha
    obtain ⟨v, hv, rfl⟩ := ha
    exact ⟨rfl, b, rfl, rfl, supplies_of_resolveSupply hv⟩

theorem resolveArguments_eq_ok_iff {args : List Argument} :
    h.resolveArguments rules = .ok args ↔
      h.checkArgumentSet = .ok () ∧
        List.Forall₂ (fun d a => h.resolveArgument rules d = .ok a)
          h.declaration.arguments args := by
  simp only [resolveArguments, bind_eq_ok_iff, liftM_eq_ok_iff, mapM_eq_ok_iff]
  exact ⟨fun ⟨_, hset, hargs⟩ => ⟨hset, hargs⟩, fun ⟨hset, hargs⟩ => ⟨(), hset, hargs⟩⟩

theorem Supplies.sourcePath?_eq {required : TypeRef} {supply : Supply} {a : Argument}
    (hs : h.Supplies rules required supply a.value) : a.sourcePath? = supply.sourcePath? := by
  unfold Argument.sourcePath?
  generalize a.value = v at hs ⊢
  cases hs <;> rfl

theorem supplies_of_resolveArguments {args : List Argument}
    (hargs : h.resolveArguments rules = .ok args) :
    List.Forall₂ (fun d a => h.Supplies rules a.backingType d.supply a.value)
      h.declaration.arguments args := by
  refine (resolveArguments_eq_ok_iff.mp hargs).2.imp fun d a ha => ?_
  obtain ⟨-, b, -, -, hv⟩ := resolveArgument_eq_ok ha
  exact hv

theorem names_of_resolveArguments {args : List Argument}
    (hargs : h.resolveArguments rules = .ok args) :
    args.map (·.name) = h.declaration.arguments.map (·.name) ∧ (args.map (·.name)).Nodup := by
  obtain ⟨hset, hall⟩ := resolveArguments_eq_ok_iff.mp hargs
  have hnames : args.map (·.name) = h.declaration.arguments.map (·.name) :=
    map_eq_of_forall₂ (hall.imp fun d a ha => (resolveArgument_eq_ok ha).1)
  exact ⟨hnames, hnames ▸ (checkArgumentSet_eq_ok_iff.mp hset).1⟩

theorem backingType_of_resolveArguments {args : List Argument}
    (hargs : h.resolveArguments rules = .ok args) {a : Argument} (ha : a ∈ args) :
    ∃ b ∈ h.backing.field.arguments.values, a.backingType = b.type := by
  obtain ⟨d, -, hd⟩ := exists_of_mem_right (resolveArguments_eq_ok_iff.mp hargs).2 ha
  obtain ⟨-, b, hget, htype, -⟩ := resolveArgument_eq_ok hd
  exact ⟨b, Table.mem_values_of_mem ((Table.get?_eq_some_iff ..).mp hget), htype⟩

/-- What is read from the source was found there and passed the check. -/
theorem source_of_resolveArguments {args : List Argument}
    (hargs : h.resolveArguments rules = .ok args) {a : Argument} (ha : a ∈ args) {path : Path}
    {type : TypeRef} {yieldsList : Bool} {shape : Option InputShape}
    (hv : a.value = .sourceField path type yieldsList shape) :
    (∃ reached, h.site.sourceField? path = some reached ∧ reached.field.type = type) ∧
      h.engine.checkAssignable h.site.config h.isBatch .sourceField type a.backingType = .ok () ∧
      h.engine.inputShape type a.backingType = .ok shape := by
  obtain ⟨d, -, hs⟩ := exists_of_mem_right (supplies_of_resolveArguments hargs) ha
  rw [hv] at hs
  generalize d.supply = supply at hs
  cases hs with
  | sourceField hpath hfits hshape => exact ⟨⟨_, hpath, rfl⟩, hfits, hshape⟩

/-- What is passed on from the hydrated field passed the check, and its default was coerced. -/
theorem default_of_resolveArguments {args : List Argument}
    (hargs : h.resolveArguments rules = .ok args) {a : Argument} (ha : a ∈ args) {name : String}
    {type : TypeRef} {w : Literal} (hv : a.value = .fieldArgument name type (some w)) :
    h.engine.checkAssignable h.site.config h.isBatch .fieldArgument type a.backingType = .ok () ∧
      ∃ v, rules h.engine v type = .ok w := by
  obtain ⟨d, -, hs⟩ := exists_of_mem_right (supplies_of_resolveArguments hargs) ha
  rw [hv] at hs
  generalize d.supply = supply at hs
  cases hs with
  | @fieldArgument _ argument _ _ hfits hdefault =>
    generalize argument.defaultValue = value at hdefault
    cases hdefault with
    | some hw => exact ⟨hfits, _, hw⟩

theorem sourcePath_of_resolveArguments {args : List Argument}
    (hargs : h.resolveArguments rules = .ok args) (hb : h.isBatch = true) :
    ∃ path, args.filterMap Argument.sourcePath? = [path] := by
  have hset := (resolveArguments_eq_ok_iff.mp hargs).1
  obtain ⟨⟨d, path⟩, hsource⟩ := (checkArgumentSet_eq_ok_iff.mp hset).2.2 hb
  refine ⟨path, ?_⟩
  have hpaths : args.filterMap Argument.sourcePath? =
      h.declaration.arguments.filterMap (·.supply.sourcePath?) :=
    filterMap_eq_of_forall₂
      ((supplies_of_resolveArguments hargs).imp fun d a ha => ha.sourcePath?_eq)
  have hmap := congrArg (List.map Prod.snd) hsource
  rw [Declaration.sourceArguments, List.map_filterMap] at hmap
  simpa [hpaths, Option.map_map, Function.comp_def] using hmap

/-- Arguments that were resolved are a complete list of checked arguments. -/
theorem supplied_of_resolveArguments (hb : h.backing.field.arguments.NamedBy InputValue.name)
    {args : List Argument} (hargs : h.resolveArguments rules = .ok args) :
    h.Supplied rules args := by
  obtain ⟨hset, hall⟩ := resolveArguments_eq_ok_iff.mp hargs
  obtain ⟨-, hrequired, -⟩ := checkArgumentSet_eq_ok_iff.mp hset
  obtain ⟨hnames, hnodup⟩ := names_of_resolveArguments hargs
  have hresolved := hall.imp fun d a ha => resolveArgument_eq_ok ha
  refine ⟨hnames, hnodup, ?_, ?_, supplies_of_resolveArguments hargs,
    sourcePath_of_resolveArguments hargs⟩
  · intro a ha
    obtain ⟨d, -, hname, b, hget, htype, -⟩ := exists_of_mem_right hresolved ha
    rw [hname]
    exact ⟨b, hget, hb.name_eq hget, htype⟩
  · intro b hbm hnull hdefault
    apply List.count_eq_one_of_mem hnodup
    rw [hnames]
    refine (hrequired b hbm).resolve_left ?_
    simp [InputValue.isOptional, hnull, hdefault]

theorem gapless_resolveSupply (ho : h.engine.ObjectsKeyed) (d : DeclaredArgument)
    (required : TypeRef) : Gapless (h.resolveSupply rules d required) := by
  unfold resolveSupply
  dsimp only
  cases hs : d.supply with
  | sourceField path =>
    dsimp only
    split
    · exact gapless_rejected _
    · rename_i reached hr
      refine (gapless_liftM _).bind fun _ hfits => ?_
      rw [liftM_eq_ok_iff, mapError_eq_ok_iff] at hfits
      obtain ⟨shape, hshape, -⟩ := Schema.exists_inputShape ho hfits
      rw [hshape]
      exact gapless_pure _
  | fieldArgument name =>
    dsimp only
    split
    · exact gapless_rejected _
    · refine (gapless_liftM _).bind fun _ _ => ?_
      exact (gapless_liftM _).bind fun _ _ => gapless_pure _
  | static value =>
    dsimp only
    split
    · exact gapless_pure _
    · exact gapless_rejected _
  | remainingArguments => exact gapless_pure _

theorem gapless_resolveArguments (ho : h.engine.ObjectsKeyed) :
    Gapless (h.resolveArguments rules) := by
  refine (gapless_liftM _).bind fun _ _ => gapless_mapM fun d _ => ?_
  unfold resolveArgument
  split
  · exact gapless_rejected _
  · exact (gapless_resolveSupply ho d _).bind fun _ _ => gapless_pure _

end Hydration

end HydrationPlan
