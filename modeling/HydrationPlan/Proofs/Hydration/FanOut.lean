import HydrationPlan.Proofs.Canonical
import HydrationPlan.Proofs.Follow
import HydrationPlan.Proofs.Hydration.Instruction
import Mathlib.Data.List.Infix

/-!
# Which argument fans out

Whether an argument fans out is told by the lists that its path crosses and by the type that it
fills. Where types are canonical every notion of a list is the same, and an unbatched call fans out
over the one argument that does, if there is one.
-/

namespace HydrationPlan

section Canonical

variable {s : Schema} {typeName : String} {path : List String}

theorem Schema.field?_of_follow? {reached : Reached} (h : s.follow? typeName path = some reached) :
    ∃ parent name, s.field? parent name = some reached.field := by
  induction path generalizing typeName reached with
  | nil => cases h
  | cons name path ih =>
    cases path with
    | nil =>
      obtain ⟨f, hf, rfl⟩ := Option.map_eq_some_iff.mp h
      exact ⟨typeName, name, hf⟩
    | cons next path =>
      rw [follow?_cons (List.cons_ne_nil next path), Option.bind_eq_some_iff] at h
      obtain ⟨f, -, h⟩ := h
      obtain ⟨below, hbelow, rfl⟩ := Option.map_eq_some_iff.mp h
      obtain ⟨parent, last, hlast⟩ := ih hbelow
      exact ⟨parent, last, hlast⟩

theorem Schema.Canonical.listAt_iff (hs : s.Canonical) :
    s.ListAt typeName path ↔
      ∃ reached, s.follow? typeName path = some reached ∧ 0 < reached.field.type.listDepth := by
  refine exists_congr fun reached => and_congr_right fun h => ?_
  obtain ⟨parent, name, hfield⟩ := field?_of_follow? h
  exact TypeRef.isList_iff_listDepth_pos (hs.of_field? hfield).1

end Canonical

namespace Site

/-- Some field on the path, which may be its last one, is a list. -/
def Crosses (s : Site) (path : Path) : Prop :=
  ∃ part, part ≠ [] ∧ part <+: path.segments ∧ ∃ reached,
    s.engine.follow? s.parentType part = some reached ∧ 0 < reached.field.type.listDepth

instance (s : Site) : DecidablePred s.Crosses := fun path =>
  decidable_of_iff (∃ part ∈ path.segments.inits, part ≠ [] ∧
      ∃ reached ∈ s.engine.follow? s.parentType part, 0 < reached.field.type.listDepth) <| by
    simp only [Crosses, List.mem_inits, Option.mem_def]
    exact exists_congr fun _ => and_left_comm

/-- The argument takes a single value, and its path crosses a list. -/
def FansOut (s : Site) (a : Argument) : Prop :=
  ∃ path, a.sourcePath? = some path ∧ s.Crosses path ∧ a.backingType.listDepth = 0

instance (s : Site) : DecidablePred s.FansOut := fun a =>
  inferInstanceAs (Decidable
    (∃ path ∈ a.sourcePath?, s.Crosses path ∧ a.backingType.listDepth = 0))

/-- One argument fans out, and it alone has the name. -/
def FansAlone (s : Site) (args : List Argument) (name : String) : Prop :=
  ∃ before a after, args = before ++ a :: after ∧ s.FansOut a ∧ a.name = name ∧
    ∀ b ∈ before ++ after, ¬ s.FansOut b ∧ b.name ≠ name

/-- An unbatched call is made once if no argument fans out, and once for each value of the argument
that does. -/
structure FansAsNeeded (s : Site) (i : Instruction) : Prop where
  oneToOne : i.strategy = .single .oneToOne ↔ ∀ a ∈ i.arguments, ¬ s.FansOut a
  manyToOne (name : String) : i.strategy = .single (.manyToOne name) ↔
    s.FansAlone i.arguments name ∧ 0 < s.field.type.listDepth

theorem yieldsList_iff_crosses {s : Site} (hs : s.engine.Canonical) {path : Path}
    {reached : Reached} (h : s.sourceField? path = some reached) :
    reached.yieldsList = true ↔ s.Crosses path := by
  simp only [Schema.yieldsList_iff h, hs.listAt_iff, Crosses]

end Site

namespace FanOut

variable {P Q : Argument → Prop} {T U : Prop} {args : List Argument} {f : FanOut} {a : Argument}

/-- The choice between one call and many, if `P` tells which arguments fan out and `T` whether the
field takes many results. -/
inductive Chosen (P : Argument → Prop) (T : Prop) (args : List Argument) : FanOut → Prop
  | oneToOne (hnone : ∀ a ∈ args, ¬ P a) : Chosen P T args oneToOne
  | manyToOne {before after : List Argument} {a : Argument} (hargs : args = before ++ a :: after)
      (ha : P a) (hrest : ∀ b ∈ before ++ after, ¬ P b) (hlist : T) :
      Chosen P T args (manyToOne a.name)

theorem chosen_of_resolve {t : TypeRef} (h : resolve t args = .ok f) :
    Chosen (fun a => a.fanOutPath?.isSome = true) (t.isList = true) args f := by
  unfold resolve at h
  split at h
  · rename_i hnone
    cases h
    apply Chosen.oneToOne
    simpa [List.filterMap_eq_nil_iff] using hnone
  · rename_i name path hone
    split at h
    · rename_i hlist
      cases h
      obtain ⟨before, a, after, hargs, hbefore, ha, hafter⟩ := List.filterMap_eq_cons_iff.mp hone
      obtain ⟨path', hpath, hname⟩ := Option.map_eq_some_iff.mp ha
      cases hname
      refine .manyToOne hargs (Option.isSome_of_eq_some hpath) ?_ hlist
      intro b hb
      rw [List.filterMap_eq_nil_iff] at hafter
      have hnone := (List.mem_append.mp hb).elim (hbefore b) (hafter b)
      simpa using hnone
    · cases h
  · cases h

/-- There is a choice if at most one argument fans out, and none into a field that is no list. -/
theorem resolve_isOk_iff {t : TypeRef} :
    (∃ f, resolve t args = .ok f) ↔ args.countP (·.fanOutPath?.isSome) ≤ 1 ∧
      (1 ≤ args.countP (·.fanOutPath?.isSome) → t.isList = true) := by
  have hlength : (args.filterMap fun a => a.fanOutPath?.map (a.name, ·)).length =
      args.countP (·.fanOutPath?.isSome) := by
    rw [List.length_filterMap_eq_countP]
    simp only [Option.isSome_map]
  rw [← hlength, resolve]
  generalize args.filterMap (fun a => a.fanOutPath?.map (a.name, ·)) = fanning
  match fanning with
  | [] => exact iff_of_true ⟨_, rfl⟩ (by simp)
  | [(name, path)] =>
    cases hlist : t.isList with
    | false => simp
    | true => simp
  | _ :: _ :: _ => exact iff_of_false (fun ⟨_, h⟩ => nomatch h) (by simp)

namespace Chosen

theorem imp (h : Chosen P T args f) (hPQ : ∀ a ∈ args, P a ↔ Q a) (hTU : T → U) :
    Chosen Q U args f := by
  cases h with
  | oneToOne hnone => exact .oneToOne fun a ha => mt (hPQ a ha).mpr (hnone a ha)
  | @manyToOne before after a hargs ha hrest hlist =>
    have hmem : ∀ b ∈ before ++ after, b ∈ args := by
      intro b hb
      rw [hargs]
      exact (List.sublist_cons_self a after).append_left before |>.mem hb
    refine .manyToOne hargs ?_ (fun b hb => ?_) (hTU hlist)
    · exact (hPQ a (hargs ▸ List.mem_append_right before List.mem_cons_self)).mp ha
    · exact mt (hPQ b (hmem b hb)).mpr (hrest b hb)

theorem eq_oneToOne_iff (h : Chosen P T args f) : f = .oneToOne ↔ ∀ a ∈ args, ¬ P a := by
  cases h with
  | oneToOne hnone => exact iff_of_true rfl hnone
  | @manyToOne before after a hargs ha =>
    refine iff_of_false nofun fun hnone => hnone a ?_ ha
    exact hargs ▸ List.mem_append_right before List.mem_cons_self

theorem eq_manyToOne_iff (h : Chosen P T args f) (hnames : (args.map (·.name)).Nodup)
    {name : String} :
    f = .manyToOne name ↔
      (∃ before a after, args = before ++ a :: after ∧ P a ∧ a.name = name ∧
        ∀ b ∈ before ++ after, ¬ P b ∧ b.name ≠ name) ∧ T := by
  cases h with
  | oneToOne hnone =>
    refine iff_of_false nofun ?_
    rintro ⟨⟨before, a, after, hargs, ha, -⟩, -⟩
    exact hnone a (hargs ▸ List.mem_append_right before List.mem_cons_self) ha
  | @manyToOne before after a hargs ha hrest hlist =>
    constructor
    · intro hname
      cases hname
      refine ⟨⟨before, a, after, hargs, ha, rfl, fun b hb => ⟨hrest b hb, fun hba => ?_⟩⟩, hlist⟩
      rw [hargs, List.map_append, List.map_cons, List.nodup_middle, List.nodup_cons,
        ← List.map_append] at hnames
      exact hnames.1 (hba ▸ List.mem_map_of_mem hb)
    · rintro ⟨⟨before', a', after', hargs', ha', rfl, hrest'⟩, -⟩
      -- Both ways to part the list name the same argument, since no other fans out.
      have hmem : a ∈ before' ++ a' :: after' :=
        hargs' ▸ hargs ▸ List.mem_append_right before List.mem_cons_self
      rcases List.mem_append.mp hmem with hm | hm
      · exact absurd ha (hrest' a (List.mem_append_left after' hm)).1
      · rcases List.mem_cons.mp hm with rfl | hm
        · rfl
        · exact absurd ha (hrest' a (List.mem_append_right before' hm)).1

end Chosen

end FanOut

namespace Hydration

variable {rules : LiteralRules} {h : Hydration} {i : Instruction} {a : Argument}

/-- The declared argument takes a single value, and its path crosses a list. -/
def FansOut (h : Hydration) (d : DeclaredArgument) : Prop :=
  ∃ path ∈ d.supply.sourcePath?, ∃ b ∈ h.backing.field.arguments.get? d.name,
    h.site.Crosses path ∧ b.type.listDepth = 0

instance (h : Hydration) : DecidablePred h.FansOut := fun d =>
  inferInstanceAs (Decidable (∃ path ∈ d.supply.sourcePath?,
    ∃ b ∈ h.backing.field.arguments.get? d.name, h.site.Crosses path ∧ b.type.listDepth = 0))

def fanCount (h : Hydration) : Nat := h.declaration.arguments.countP h.FansOut

/-- The call would fan out over two arguments, or into a field that is no list. -/
def FansAmiss (h : Hydration) : Prop :=
  2 ≤ h.fanCount ∨ 1 ≤ h.fanCount ∧ h.site.field.type.listDepth = 0

instance : DecidablePred FansAmiss := fun h =>
  inferInstanceAs (Decidable (2 ≤ h.fanCount ∨ 1 ≤ h.fanCount ∧ h.site.field.type.listDepth = 0))

theorem Supplies.fanOutPath?_isSome_iff {required : TypeRef} {supply : Supply}
    (hs : h.Supplies rules required supply a.value) (hg : h.engine.Canonical)
    (ht : a.backingType.Canonical) : a.fanOutPath?.isSome = true ↔ h.site.FansOut a := by
  have hsingle : a.backingType.isList = false ↔ a.backingType.listDepth = 0 := by
    rw [← Bool.not_eq_true, TypeRef.isList_iff_listDepth_pos ht, Nat.not_lt, Nat.le_zero]
  unfold Argument.fanOutPath? Site.FansOut Argument.sourcePath?
  generalize a.value = v at hs
  cases hs with
  | @sourceField path reached shape hpath =>
    rw [← hsingle]
    simp only [Option.some.injEq, exists_eq_left', ← Site.yieldsList_iff_crosses hg hpath]
    cases reached.yieldsList <;> cases a.backingType.isList <;> simp
  | fieldArgument => simp
  | static => simp
  | remainingArguments => simp

section Resolved

variable {args : List Argument} (hargs : h.resolveArguments rules = .ok args)
include hargs

/-- Arguments fan out as they are declared to. -/
theorem countP_of_resolveArguments : args.countP h.site.FansOut = h.fanCount := by
  refine countP_eq_of_forall₂ ((resolveArguments_eq_ok_iff.mp hargs).2.imp ?_)
  intro d a ha
  obtain ⟨-, b, hb, htype, hs⟩ := resolveArgument_eq_ok ha
  apply decide_eq_decide.mpr
  simp only [Site.FansOut, FansOut, hs.sourcePath?_eq, hb, htype, Option.mem_def,
    Option.some.injEq, exists_eq_left']

variable (hg : h.engine.Canonical)
  (hb : ∀ b ∈ h.backing.field.arguments.values, b.type.Canonical)
include hg hb

theorem fanOutPath?_of_resolveArguments (ha : a ∈ args) :
    a.fanOutPath?.isSome = true ↔ h.site.FansOut a := by
  obtain ⟨d, -, hs⟩ := exists_of_mem_right (supplies_of_resolveArguments hargs) ha
  obtain ⟨b, hm, htype⟩ := backingType_of_resolveArguments hargs ha
  exact hs.fanOutPath?_isSome_iff hg (htype ▸ hb b hm)

/-- Once its arguments are resolved, an unbatched call is refused only if it fans out amiss. -/
theorem strategy_isOk_iff (hunbatched : h.isBatch = false) (ht : h.site.field.type.Canonical) :
    (∃ t, h.strategy args = .ok t) ↔ ¬ h.FansAmiss := by
  have hresolve : (∃ t, h.strategy args = .ok t) ↔
      ∃ f, FanOut.resolve h.site.field.type args = .ok f := by
    rw [strategy, if_neg (Bool.not_eq_true _ ▸ hunbatched)]
    constructor
    · rintro ⟨t, ht⟩
      obtain ⟨f, hf, -⟩ := map_eq_ok_iff.mp ht
      exact ⟨f, hf⟩
    · rintro ⟨f, hf⟩
      exact ⟨.single f, map_eq_ok_iff.mpr ⟨f, hf, rfl⟩⟩
  have hcount : args.countP (·.fanOutPath?.isSome) = h.fanCount := by
    rw [← countP_of_resolveArguments hargs]
    refine List.countP_congr fun a ha => ?_
    rw [fanOutPath?_of_resolveArguments hargs hg hb ha, decide_eq_true_eq]
  rw [hresolve, FanOut.resolve_isOk_iff, hcount, TypeRef.isList_iff_listDepth_pos ht, FansAmiss]
  omega

end Resolved

section Unbatched

variable (hy : h.Yields rules i) (hunbatched : h.isBatch = false) (hg : h.engine.Canonical)
  (ht : h.site.field.type.Canonical)
  (hb : ∀ b ∈ h.backing.field.arguments.values, b.type.Canonical)
include hy hunbatched hg ht hb

theorem Yields.exists_chosen :
    ∃ f, i.strategy = .single f ∧
      FanOut.Chosen h.site.FansOut (0 < h.site.field.type.listDepth) i.arguments f := by
  have hs := hy.strategy
  rw [Hydration.strategy, if_neg (Bool.not_eq_true _ ▸ hunbatched)] at hs
  obtain ⟨f, hf, hi⟩ := map_eq_ok_iff.mp hs
  refine ⟨f, hi.symm, (FanOut.chosen_of_resolve hf).imp ?_ ?_⟩
  · exact fun a ha => fanOutPath?_of_resolveArguments hy.arguments hg hb ha
  · exact (TypeRef.isList_iff_listDepth_pos ht).mp

theorem Yields.fansAsNeeded : h.site.FansAsNeeded i := by
  obtain ⟨f, hf, hchosen⟩ := hy.exists_chosen hunbatched hg ht hb
  have hnames := (names_of_resolveArguments hy.arguments).2
  constructor
  · rw [hf, Strategy.single.injEq]
    exact hchosen.eq_oneToOne_iff
  · intro name
    rw [hf, Strategy.single.injEq]
    exact hchosen.eq_manyToOne_iff hnames

theorem Yields.not_fansAmiss : ¬ h.FansAmiss :=
  (strategy_isOk_iff hy.arguments hg hb hunbatched ht).mp ⟨i.strategy, hy.strategy⟩

end Unbatched

end Hydration

end HydrationPlan
