import HydrationPlan.Proofs.Assignability.Strictness
import HydrationPlan.Proofs.Eased
import HydrationPlan.Proofs.Hydration.Alike
import HydrationPlan.Proofs.Hydration.Output
import HydrationPlan.Proofs.Hydration.Site
import HydrationPlan.Proofs.Literal.Normal

/-!
# A field under stricter arguments

The arguments of a hydrated field become stricter, and those of the fields that back it become
laxer, but are seen as lists as before. A field that compiled goes on to compile, provided that the
defaults that are passed on are still values of their types.
-/

namespace HydrationPlan

open TypeRef

/-- The rules take the literal as a value of the type. -/
def LiteralRules.Accepts (rules : LiteralRules) (s : Schema) (v : Literal) (t : TypeRef) : Prop :=
  ∃ w, rules s v t = .ok w

/-- What the rules take for a type in the one schema, they take for a laxer type in the other. -/
def LiteralRules.Lenient (rules : LiteralRules) (s t : Schema) : Prop :=
  ∀ v r r', DropsTo r' r → rules.Accepts s v r → rules.Accepts t v r'

structure InputValue.Narrows (a b : InputValue) : Prop where
  defaultValue : a.defaultValue = b.defaultValue
  type : a.type.DropsTo b.type

structure InputValue.Widens (a b : InputValue) : Prop where
  name : a.name = b.name
  defaultValue : a.defaultValue = b.defaultValue
  type : b.type.DropsTo a.type
  isList : a.type.isList = b.type.isList

/-- The same field, hydrated alike, with stricter arguments. -/
structure Field.Narrows (f g : Field) : Prop where
  similar : f.Similar g
  annotations : f.annotations = g.annotations
  arguments : f.arguments.Aligned InputValue.Narrows g.arguments

/-- The same field with laxer arguments. -/
structure Field.Widens (f g : Field) : Prop where
  similar : f.Similar g
  arguments : f.arguments.Aligned InputValue.Widens g.arguments

/-- The gateways have the same services, and engines with the same fields up to their arguments and
annotations. -/
structure Gateway.Similar (g k : Gateway) : Prop where
  engine : g.engine.Related Field.Similar k.engine
  services : g.services = k.services

structure Site.Narrows (s t : Site) : Prop where
  gateway : s.gateway.Similar t.gateway
  config : s.config = t.config
  parentType : s.parentType = t.parentType
  field : s.field.Narrows t.field

/-- Stricter arguments of the hydrated field, and laxer ones of the fields that back it. -/
structure Site.Relaxes (s t : Site) : Prop where
  narrows : s.Narrows t
  backings : ∀ hs, s.hydrations = .ok hs → ∀ h ∈ hs, ∀ b,
    Backing.resolve t.gateway h.declaration = .ok b → h.backing.field.Widens b.field

structure Hydration.Relaxes (h k : Hydration) : Prop where
  site : h.site.Narrows k.site
  declaration : h.declaration = k.declaration
  backing : h.backing.Related Field.Widens k.backing

/-- The default of each argument that is passed on is a value of its type. -/
def Hydration.TakesDefaults (rules : LiteralRules) (h : Hydration) : Prop :=
  ∀ d ∈ h.declaration.arguments, ∀ name, d.supply = .fieldArgument name →
    ∀ a, h.site.field.arguments.get? name = some a → ∀ v, a.defaultValue = some v →
      rules.Accepts h.engine v a.type

def Site.TakesDefaults (rules : LiteralRules) (s : Site) : Prop :=
  ∀ hs, s.hydrations = .ok hs → ∀ h ∈ hs, h.TakesDefaults rules

/-! ## Literals of laxer types -/

namespace Literal

variable {s t : Schema} {v w : Literal} {a b : TypeRef}

theorem coerce_of_fits (h : TypeRef.Fits Eq a b) (hw : coerce s v a = .ok w) :
    coerce s v b = .ok w := by
  induction h generalizing v w with
  | named hxy => exact hxy ▸ hw
  | list _ ih =>
    obtain ⟨hv, ws, rfl, hws⟩ := coerce_list_eq_ok_iff.mp hw
    exact coerce_list_eq_ok_iff.mpr ⟨hv, ws, rfl, hws.imp fun _ _ => ih⟩
  | nullable _ ih =>
    rw [coerce_nullable] at hw ⊢
    split
    · rename_i hv
      rwa [if_pos hv] at hw
    · rename_i hv
      rw [if_neg hv] at hw
      exact ih hw
  | intoNullable _ ih =>
    rw [coerce_nullable]
    split
    · rename_i hv
      have hnull : w.isNull = true := (isNull_of_coerce hw).trans hv
      cases w with
      | null => rfl
      | _ => cases hnull
    · exact ih hw

theorem lenient_rules {R : Field → Field → Prop} (h : s.Related R t) :
    LiteralRules.Lenient rules s t := by
  rintro v r r' hr ⟨w, hw⟩
  rw [LiteralRules.Accepts, ← rules_eq_of_related h]
  exact ⟨w, coerce_of_fits (dropsTo_iff_fits.mp hr) hw⟩

end Literal

/-! ## The checks of one hydration -/

section Backings

variable {f g : Field}

theorem Field.Narrows.refl (f : Field) : f.Narrows f :=
  ⟨.refl f, rfl, .refl (fun _ => ⟨rfl, .refl⟩) f.arguments⟩

theorem Field.Widens.refl (f : Field) : f.Widens f :=
  ⟨.refl f, .refl (fun _ => ⟨rfl, rfl, .refl, rfl⟩) f.arguments⟩

theorem Backing.isBatch_eq_of_widens {b d : Backing} (h : b.Related Field.Widens d) :
    b.isBatch = d.isBatch := by
  have hlists : b.field.arguments.values.map (·.type.isList) =
      d.field.arguments.values.map (·.type.isList) :=
    map_eq_map h.field.arguments.values fun _ _ ha => ha.isList
  have hany := congrArg (List.any · id) hlists
  simp only [List.any_map, Function.comp_def, id] at hany
  rw [isBatch, isBatch, h.field.similar.type, hany]

end Backings

theorem Schema.inputShape_of_dropsTo (s : Schema) {source required required' : TypeRef}
    (h : DropsTo required' required) :
    s.inputShape source required' = s.inputShape source required := by
  rw [inputShape, inputShape, h.namedType_eq]

/-- The arguments are named alike, read the same paths and fan out alike. -/
structure Argument.Routed (a b : Argument) : Prop where
  name : a.name = b.name
  sourcePath? : a.sourcePath? = b.sourcePath?
  fanOutPath? : a.fanOutPath? = b.fanOutPath?

theorem batchKey?_of_routed {args args' : List Argument}
    (h : List.Forall₂ Argument.Routed args args') : batchKey? args = batchKey? args' := by
  rw [batchKey?, batchKey?, ← List.head?_filterMap, ← List.head?_filterMap,
    filterMap_eq_filterMap h fun _ _ hab => hab.sourcePath?]

theorem Hydration.normalizedDefault_isOk_iff {rules : LiteralRules} {s : Schema} {a : InputValue} :
    (∃ default, normalizedDefault rules s a = .ok default) ↔
      ∀ v, a.defaultValue = some v → rules.Accepts s v a.type := by
  constructor
  · rintro ⟨default, hdefault⟩ v hv
    have hcoerced := default_coerced hdefault
    rw [hv] at hcoerced
    cases hcoerced with
    | some hw => exact ⟨_, hw⟩
  · intro h
    unfold normalizedDefault
    split
    · exact ⟨none, rfl⟩
    · rename_i v hv
      obtain ⟨w, hw⟩ := h v hv
      rw [hw]
      exact ⟨some w, rfl⟩

namespace Gateway.Similar

variable {g k : Gateway} (h : g.Similar k)
include h

theorem resolve (d : Declaration) : Corresponds Eq (Backing.Related Field.Similar)
    (Backing.resolve g d) (Backing.resolve k d) :=
  Backing.resolve_related (fun _ _ hfg => hfg) h.engine
    (fun name => by rw [service?, service?, h.services]) d

theorem checkOutput {declared backing : TypeRef} (hok : g.checkOutput declared backing = .ok ()) :
    k.checkOutput declared backing = .ok () := by
  have hvirtual : g.isVirtual = k.isVirtual := by
    funext name
    rw [isVirtual, isVirtual, h.engine.isSome_type?_eq, h.services]
  have hpossible : ∀ declared actual, (g.engine.possibleTypes declared).contains actual =
      (k.engine.possibleTypes declared).contains actual := by
    intro declared actual
    rw [Bool.eq_iff_iff, List.contains_iff_mem, List.contains_iff_mem,
      h.engine.mem_possibleTypes_iff]
  rw [checkOutput_eq_ok_iff] at hok ⊢
  intro actual hactual
  have hadmitted := hok actual ((h.engine.mem_possibleTypes_iff ..).mpr hactual)
  simpa only [admits, hvirtual, h.engine.isObject_eq, h.engine.isAbstract_eq, hpossible]
    using hadmitted

end Gateway.Similar

namespace Site.Narrows

variable {s t : Site} (h : s.Narrows t)
include h

theorem sourceField? (path : Path) :
    Option.Rel (Reached.Related Field.Similar) (s.sourceField? path) (t.sourceField? path) := by
  rw [Site.sourceField?, Site.sourceField?, ← h.parentType]
  exact h.gateway.engine.follow? (fun _ _ hfg => hfg) s.parentType path.segments

theorem reaches : s.Reaches t :=
  ⟨h.parentType, fun path => rel_imp (h.sourceField? path) fun _ _ hr =>
    ⟨hr.field.type, hr.yieldsList⟩⟩

theorem lower_eq : s.lower = t.lower := by
  funext a
  cases a with
  | id i => simp only [lower, h.field.similar.type, engine, h.gateway.engine.defaultHydration?_eq]
  | backing i => rfl

end Site.Narrows

namespace Hydration.Relaxes

variable {rules : LiteralRules} {h k : Hydration} (hr : h.Relaxes k)
include hr

theorem isBatch_eq : h.isBatch = k.isBatch := Backing.isBatch_eq_of_widens hr.backing

theorem checkArgumentSet (hok : h.checkArgumentSet = .ok ()) : k.checkArgumentSet = .ok () := by
  obtain ⟨hnodup, hrequired, hkey⟩ := checkArgumentSet_eq_ok_iff.mp hok
  rw [checkArgumentSet_eq_ok_iff, ← hr.declaration, ← hr.isBatch_eq]
  refine ⟨hnodup, fun b hb => ?_, hkey⟩
  obtain ⟨a, ha, hab⟩ := exists_of_mem_right hr.backing.field.arguments.values hb
  rw [← hab.name]
  refine (hrequired a ha).imp_left fun hoptional => ?_
  rw [InputValue.isOptional, Bool.or_eq_true] at hoptional ⊢
  rw [← hab.defaultValue]
  exact hoptional.imp_left hab.type.isNullable

theorem eased_check {argument : String} {kind : SupplyKind}
    {supplied supplied' required required' : TypeRef} (hs : DropsTo supplied supplied')
    (hreq : DropsTo required' required) :
    Eased (fun _ => True) Eq
      (liftM ((h.engine.checkAssignable h.site.config h.isBatch kind supplied required).mapError
        (Mismatch.rejection argument)) : Checked Unit)
      (liftM ((k.engine.checkAssignable k.site.config k.isBatch kind supplied' required').mapError
        (Mismatch.rejection argument)) : Checked Unit) := by
  refine .of_ok fun u hok => ⟨u, ?_, rfl⟩
  rw [liftM_eq_ok_iff, mapError_eq_ok_iff] at hok ⊢
  rw [← hr.site.config, ← hr.isBatch_eq, Hydration.engine, Site.engine,
    ← hr.site.gateway.engine.checkAssignable_eq fun _ _ hfg => hfg]
  exact Schema.checkAssignable_of_dropsTo hs hreq hok

theorem condition_eq {args args' : List Argument}
    (hargs : List.Forall₂ Argument.Routed args args') : h.condition args = k.condition args' := by
  simp only [condition, hr.declaration, hr.isBatch_eq, hr.site.reaches.resolveCondition_eq,
    batchKey?_of_routed hargs]

theorem strategy_eq {args args' : List Argument}
    (hargs : List.Forall₂ Argument.Routed args args') : h.strategy args = k.strategy args' := by
  have hfanning : args.filterMap (fun a => a.fanOutPath?.map (a.name, ·)) =
      args'.filterMap fun a => a.fanOutPath?.map (a.name, ·) :=
    filterMap_eq_filterMap hargs fun a b hab => by rw [hab.name, hab.fanOutPath?]
  have hmatching : Matching.resolve h.site k.declaration args =
      Matching.resolve k.site k.declaration args' := by
    rw [hr.site.reaches.resolveMatching_eq, Matching.resolve, Matching.resolve,
      batchKey?_of_routed hargs]
  simp only [strategy, hr.declaration, hr.isBatch_eq, hr.site.config, hr.site.field.similar.type,
    hmatching, FanOut.resolve, hfanning]

variable (hrules : rules.Lenient h.engine k.engine) (hdefaults : k.TakesDefaults rules)
include hrules hdefaults

theorem eased_resolveSupply {a : DeclaredArgument} (ha : a ∈ k.declaration.arguments)
    {required required' : TypeRef} (hreq : DropsTo required' required)
    (hlist : required.isList = required'.isList) :
    Eased (fun _ => True) (fun v w => Argument.Routed ⟨a.name, required, v⟩ ⟨a.name, required', w⟩)
      (h.resolveSupply rules a required) (k.resolveSupply rules a required') := by
  unfold resolveSupply
  dsimp only
  cases hsupply : a.supply with
  | sourceField path =>
    have hreached := hr.site.sourceField? path
    dsimp only
    generalize h.site.sourceField? path = x at hreached ⊢
    generalize k.site.sourceField? path = y at hreached ⊢
    cases hreached with
    | none => exact .lifted trivial _
    | @some r q hrq =>
      have hshape : h.engine.inputShape r.field.type required =
          k.engine.inputShape r.field.type required' := by
        rw [Schema.inputShape_of_dropsTo _ hreq]
        exact hr.site.gateway.engine.inputShape_eq _ _
      dsimp only
      rw [← hrq.field.type, ← hrq.yieldsList, hshape]
      refine (hr.eased_check .refl hreq).bind fun _ _ _ => ?_
      refine (Eased.refl _).bind ?_
      rintro shape _ rfl
      refine .ok ⟨rfl, rfl, ?_⟩
      simp only [Argument.fanOutPath?, hlist]
  | fieldArgument name =>
    have hargument := hr.site.field.arguments.get? name
    dsimp only
    generalize h.site.field.arguments.get? name = x at hargument ⊢
    generalize hy : k.site.field.arguments.get? name = y at hargument ⊢
    cases hargument with
    | none => exact .lifted trivial _
    | @some b c hbc =>
      refine (hr.eased_check hbc.type hreq).bind fun _ _ _ => ?_
      obtain ⟨default, hdefault⟩ :=
        normalizedDefault_isOk_iff.mpr (hdefaults a ha name hsupply c hy)
      rw [hdefault]
      refine .of_ok fun v hv => ⟨_, rfl, ?_⟩
      obtain ⟨_, -, hv⟩ := bind_eq_ok_iff.mp hv
      cases hv
      exact ⟨rfl, rfl, rfl⟩
  | static value =>
    dsimp only
    cases hv : rules h.engine value required with
    | error e => exact .lifted trivial _
    | ok v =>
      obtain ⟨w, hw⟩ := hrules value required required' hreq ⟨v, hv⟩
      rw [hw]
      exact .ok ⟨rfl, rfl, rfl⟩
  | remainingArguments => exact .ok ⟨rfl, rfl, rfl⟩

theorem eased_resolveArgument {a : DeclaredArgument} (ha : a ∈ k.declaration.arguments) :
    Eased (fun _ => True) Argument.Routed (h.resolveArgument rules a)
      (k.resolveArgument rules a) := by
  have hbacking := hr.backing.field.arguments.get? a.name
  unfold resolveArgument
  generalize h.backing.field.arguments.get? a.name = x at hbacking ⊢
  generalize k.backing.field.arguments.get? a.name = y at hbacking ⊢
  cases hbacking with
  | none => exact .lifted trivial _
  | some hbc =>
    refine (hr.eased_resolveSupply hrules hdefaults ha hbc.type hbc.isList).bind fun v w hvw => ?_
    exact .ok hvw

theorem eased_resolveArguments :
    Eased (fun _ => True) (List.Forall₂ Argument.Routed) (h.resolveArguments rules)
      (k.resolveArguments rules) := by
  have hset : Eased (fun _ => True) Eq (liftM h.checkArgumentSet : Checked Unit)
      (liftM k.checkArgumentSet) := by
    refine .of_ok fun u hok => ⟨u, ?_, rfl⟩
    rw [liftM_eq_ok_iff] at hok ⊢
    exact hr.checkArgumentSet hok
  refine hset.bind fun _ _ _ => ?_
  rw [hr.declaration]
  have hdeclared : List.Forall₂ (fun a b => a = b ∧ a ∈ k.declaration.arguments)
      k.declaration.arguments k.declaration.arguments :=
    List.forall₂_same.mpr fun a ha => ⟨rfl, ha⟩
  refine .mapM hdeclared ?_
  rintro a _ ⟨rfl, ha⟩
  exact hr.eased_resolveArgument hrules hdefaults ha

theorem eased_instruction :
    Eased (fun _ => True) (fun _ _ => True) (h.instruction rules) (k.instruction rules) := by
  refine (hr.eased_resolveArguments hrules hdefaults).bind fun args args' hargs => ?_
  rw [hr.condition_eq hargs, hr.strategy_eq hargs]
  refine (Eased.refl _).bind fun _ _ _ => ?_
  refine (Eased.refl _).bind fun _ _ _ => ?_
  have houtput : Eased (fun _ => True) Eq
      (liftM (h.site.gateway.checkOutput h.site.field.type h.backing.field.type) : Checked Unit)
      (liftM (k.site.gateway.checkOutput k.site.field.type k.backing.field.type)) := by
    refine .of_ok fun u hok => ⟨u, ?_, rfl⟩
    rw [liftM_eq_ok_iff] at hok ⊢
    rw [← hr.site.field.similar.type, ← hr.backing.field.similar.type]
    exact hr.site.gateway.checkOutput hok
  exact houtput.bind fun _ _ _ => .ok trivial

end Hydration.Relaxes

/-! ## The field as a whole -/

namespace Site

variable {rules : LiteralRules} {s t : Site}

/-- A field compiles only if it takes the defaults of the arguments that it passes on. -/
theorem takesDefaults_of_compile {f : CompiledField} (hf : s.compile rules = .ok f) :
    s.TakesDefaults rules := by
  intro hs hhs h hh d hd name hsupply a ha v hv
  obtain ⟨hs', hhs', hyields, -⟩ := compile_eq_ok_iff.mp hf
  cases hhs.symm.trans hhs'
  obtain ⟨i, -, hi⟩ := exists_of_mem_left hyields hh
  obtain ⟨b, -, hb⟩ := exists_of_mem_left (Hydration.supplies_of_resolveArguments hi.arguments) hd
  rw [hsupply] at hb
  generalize b.value = value at hb
  cases hb with
  | fieldArgument hget _ hdefault =>
    cases ha.symm.trans hget
    rw [hv] at hdefault
    cases hdefault with
    | some hw => exact ⟨_, hw⟩

namespace Relaxes

variable (h : s.Relaxes t)
include h

theorem exists_hydration {hs : List Hydration} (hhs : s.hydrations = .ok hs) {x : Hydration}
    (hx : x ∈ hs) : ∃ y, x.Relaxes y ∧ y.site = t ∧
      Backing.resolve t.gateway y.declaration = .ok y.backing := by
  have hresolved := h.narrows.gateway.resolve x.declaration
  rw [resolve_of_mem_hydrations hhs x hx] at hresolved
  generalize hb : Backing.resolve t.gateway x.declaration = y at hresolved
  cases hresolved with
  | @ok _ b hxb =>
    have hbacking : x.backing.Related Field.Widens b :=
      ⟨hxb.service, hxb.parentType, h.backings hs hhs x hx b hb, hxb.path⟩
    have hsite : x.site.Narrows t := site_of_mem_hydrations hhs x hx ▸ h.narrows
    exact ⟨⟨t, x.declaration, b⟩, ⟨hsite, rfl, hbacking⟩, rfl, hb⟩

/-- The declarations are placed as before, each next to a backing field with laxer arguments. -/
theorem exists_hydrations {hs : List Hydration} (hhs : s.hydrations = .ok hs) :
    ∃ ks, t.hydrations = .ok ks ∧ List.Forall₂ Hydration.Relaxes hs ks := by
  obtain ⟨hgrounds, hnull, hunion, hcondition, hindexed, hbatch⟩ := hydrations_eq_ok_iff.mp hhs
  obtain ⟨ks, hks⟩ := exists_forall₂_iff.mpr fun x hx => h.exists_hydration hhs (x := x) hx
  have hrelaxes : List.Forall₂ Hydration.Relaxes hs ks := hks.imp fun _ _ hxy => hxy.1
  have hconditions : ks.map (·.declaration.condition.isSome) =
      hs.map (·.declaration.condition.isSome) :=
    (map_eq_map hrelaxes fun _ _ hxy => by rw [hxy.declaration]).symm
  have hindices : ks.map (·.declaration.indexed) = hs.map (·.declaration.indexed) :=
    (map_eq_map hrelaxes fun _ _ hxy => by rw [hxy.declaration]).symm
  have hbatches : ks.map Hydration.isBatch = hs.map Hydration.isBatch :=
    (map_eq_map hrelaxes fun _ _ hxy => hxy.isBatch_eq).symm
  refine ⟨ks, hydrations_eq_ok_iff.mpr ⟨?_, ?_, ?_, ?_, ?_, ?_⟩, hrelaxes⟩
  · rw [← h.narrows.field.annotations]
    refine (forall₂_comp hgrounds hks).imp ?_
    rintro a y ⟨x, ha, hxy, hsite, hb⟩
    exact ⟨hsite, h.narrows.lower_eq ▸ hxy.declaration ▸ ha.declaration, hb⟩
  · rwa [← h.narrows.field.similar.type]
  · rw [← h.narrows.field.similar.type, ← hrelaxes.length_eq, Site.engine,
      ← h.narrows.gateway.engine.isUnion_eq]
    exact hunion
  · rwa [hconditions]
  · rwa [hindices]
  · rwa [hbatches]

variable (hrules : rules.Lenient s.engine t.engine) {f : CompiledField}
variable (hf : s.compile rules = .ok f)
include hrules hf

theorem exists_compile (hdefaults : t.TakesDefaults rules) : ∃ f', t.compile rules = .ok f' := by
  obtain ⟨hs, hhs, his, -⟩ := compile_eq_ok_iff.mp hf
  obtain ⟨ks, hks, hrelaxes⟩ := h.exists_hydrations hhs
  have hyields : ∃ is, List.Forall₂ (Hydration.Yields rules) ks is := by
    refine exists_forall₂_iff.mpr fun y hy => ?_
    obtain ⟨x, hx, hxy⟩ := exists_of_mem_right hrelaxes hy
    obtain ⟨i, -, hi⟩ := exists_of_mem_left his hx
    have hlenient : rules.Lenient x.engine y.engine := by
      rw [Hydration.engine, Hydration.engine, site_of_mem_hydrations hhs x hx,
        site_of_mem_hydrations hks y hy]
      exact hrules
    obtain ⟨j, hj, -⟩ := (hxy.eased_instruction hlenient (hdefaults ks hks y hy)).exists_ok
      (Hydration.instruction_eq_ok_iff.mpr hi)
    exact ⟨j, Hydration.instruction_eq_ok_iff.mp hj⟩
  obtain ⟨is, his'⟩ := hyields
  exact ⟨⟨is, ks.flatMap Hydration.warnings⟩, compile_eq_ok_iff.mpr ⟨ks, hks, his', rfl⟩⟩

theorem exists_compile_iff : (∃ f', t.compile rules = .ok f') ↔ t.TakesDefaults rules :=
  ⟨fun ⟨_, hf'⟩ => takesDefaults_of_compile hf', h.exists_compile hrules hf⟩

/-- Where only backing arguments change, the defaults are values of their types as before. -/
theorem takesDefaults (hfield : s.field = t.field) : t.TakesDefaults rules := by
  intro ks hks k hk d hd name hsupply a ha v hv
  obtain ⟨hs, hhs, -⟩ := compile_eq_ok_iff.mp hf
  obtain ⟨ks', hks', hrelaxes⟩ := h.exists_hydrations hhs
  cases hks.symm.trans hks'
  obtain ⟨x, hx, hxk⟩ := exists_of_mem_right hrelaxes hk
  have hsite : x.site = s := site_of_mem_hydrations hhs x hx
  have hsite' : k.site = t := site_of_mem_hydrations hks k hk
  rw [← hxk.declaration] at hd
  rw [hsite', ← hfield, ← hsite] at ha
  rw [Hydration.engine, hsite']
  have haccepts := takesDefaults_of_compile hf hs hhs x hx d hd name hsupply a ha v hv
  rw [Hydration.engine, hsite] at haccepts
  exact hrules v a.type a.type .refl haccepts

end Relaxes

end Site

end HydrationPlan
