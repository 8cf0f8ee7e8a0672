import HydrationPlan.Proofs.Assignability.Decision
import HydrationPlan.Proofs.Search
import HydrationPlan.Proofs.VirtualTypes

/-!
# Each pair is visited once

The check of two types and the tables of virtual types both search through pairs of types. They are
given here by rules that know no bound on what a search may meet. On every schema, whatever contains
what and whatever the types are stored under, each call has exactly one outcome by these rules. It
goes through the fields of no pair twice, and so of no more pairs than the definitions can form.
-/

namespace HydrationPlan

/-- A walk answers with the fault that ended it, or else with yes. -/
def Walk.answer {α ε : Type} (walk : Walk α ε) : Except ε Unit :=
  match walk.fault with
  | some e => .error e
  | none => .ok ()

namespace Schema

variable {s : Schema} {c : Config}

/-! ## How many pairs there are -/

def fieldedTypes (s : Schema) : List FieldedType := s.types.values.filterMap TypeDefinition.fielded?

def inputTypes (s : Schema) : List InputType := s.types.values.filterMap TypeDefinition.input?

theorem length_inputKeys (s : Schema) :
    s.inputKeys.length = s.fieldedTypes.length * s.inputTypes.length := by
  simp only [inputKeys, fieldedTypes, inputTypes, List.length_flatMap, List.length_map,
    List.map_const', List.sum_replicate_nat, List.length_filterMap_eq_countP]
  congr 1
  · exact List.countP_congr fun d _ => by simp
  · exact List.countP_congr fun d _ => by cases d <;> simp [TypeDefinition.input?]

theorem isFielded_of_mem {name : String} {d : TypeDefinition} (h : (name, d) ∈ s.types.entries) :
    s.isFielded name = d.fielded?.isSome := by
  have htype : s.type? name = some d := (s.types.get?_eq_some_iff name d).mpr h
  rw [isFielded, fielded?, htype]
  rfl

theorem length_fieldedNames (s : Schema) : s.fieldedNames.length = s.fieldedTypes.length := by
  rw [fieldedNames, Table.keys, List.filter_map, List.length_map, ← List.countP_eq_length_filter,
    fieldedTypes, Table.values, List.filterMap_map, List.length_filterMap_eq_countP]
  exact List.countP_congr fun e he => by simp [isFielded_of_mem he]

theorem length_pairKeys (s : Schema) (start : String × String) :
    (s.pairKeys start).length = 1 + s.fieldedTypes.length * s.fieldedTypes.length := by
  rw [pairKeys, List.length_cons, ← length_fieldedNames, Nat.add_comm]
  simp [List.length_flatMap]

/-! ## One call -/

/-- One call of the check: the pairs of object and input object whose fields it goes through, in
order, and its answer. -/
inductive Checks (s : Schema) (c : Config) (isBatch : Bool) (kind : SupplyKind)
    (supplied required : TypeRef) : List InputPair → Except Mismatch Unit → Prop
  | shape (hb : isBatch = true) (hk : kind = .sourceField) (hdepth : required.listDepth ≠ 1) :
      Checks s c isBatch kind supplied required [] (.error (.invalidBatchIdShape required.text))
  | wrappers (hkey : isBatch = true → kind = .sourceField → required.listDepth = 1)
      (hnames : comparedNames isBatch kind supplied required = none) :
      Checks s c isBatch kind supplied required []
        (.error (.incompatibleInputType supplied.text required.text))
  | clash {x y : String} (hkey : isBatch = true → kind = .sourceField → required.listDepth = 1)
      (hnames : comparedNames isBatch kind supplied required = some (x, y))
      (hm : s.meeting c x y = .clashes) :
      Checks s c isBatch kind supplied required []
        (.error (.incompatibleInputType supplied.text required.text))
  | fit {x y : String} (hkey : isBatch = true → kind = .sourceField → required.listDepth = 1)
      (hnames : comparedNames isBatch kind supplied required = some (x, y))
      (hm : s.meeting c x y = .fits) : Checks s c isBatch kind supplied required [] (.ok ())
  | build {x y : String} {p : InputPair} {walk : Walk InputPair Mismatch}
      (hkey : isBatch = true → kind = .sourceField → required.listDepth = 1)
      (hnames : comparedNames isBatch kind supplied required = some (x, y))
      (hm : s.meeting c x y = .builds p)
      (hsearch : Search InputPair.key (s.inputSteps c) ∅ [.ok p] walk) :
      Checks s c isBatch kind supplied required walk.visited walk.answer

/-- One call that fills the tables: the pairs of types whose fields it goes through, in order, and
the tables. -/
structure Pairs (s : Schema) (v b : String) (order : List (String × String))
    (tables : VirtualTypes) : Prop where
  visits : DepthFirst s.nestedPairs ∅ [(v, b)] order
  tables_eq : tables = .ofPairs order

theorem mem_inputKeys_of_meeting {x y : String} {p : InputPair} (h : s.meeting c x y = .builds p) :
    p.key ∈ s.inputKeys := by
  obtain ⟨o, i, hx, hy, rfl⟩ := meeting_builds h
  exact mem_inputKeys hx hy

/-- The keys that are counted for a walk are all that a search can meet. -/
theorem search_inputWalk {x y : String} {p : InputPair} (h : s.meeting c x y = .builds p) :
    Search InputPair.key (s.inputSteps c) ∅ [.ok p] (s.inputWalk c p) := by
  refine Walk.search_run (P := fun q => q.key ∈ s.inputKeys) ?_ ?_ ?_
  · intro a _ b hb
    obtain ⟨f, -, g, -, x, y, -, hm⟩ := exists_of_ok_mem_inputSteps hb
    exact mem_inputKeys_of_meeting hm
  · intro a ha
    cases List.mem_singleton.mp ha
    exact mem_inputKeys_of_meeting h
  · exact fun a ha => ⟨fun hm => hm.elim, fun hm => absurd ha hm⟩

theorem Checks.unique {isBatch : Bool} {kind : SupplyKind} {supplied required : TypeRef}
    {visited visited' : List InputPair} {answer answer' : Except Mismatch Unit}
    (h : s.Checks c isBatch kind supplied required visited answer)
    (h' : s.Checks c isBatch kind supplied required visited' answer') :
    visited = visited' ∧ answer = answer' := by
  cases h with
  | build _ hnames hm hsearch =>
    cases h' with
    | build _ hnames' hm' hsearch' =>
      cases hnames.symm.trans hnames'
      cases hm.symm.trans hm'
      cases hsearch.unique hsearch'
      exact ⟨rfl, rfl⟩
    | _ => simp_all
  | _ => cases h' <;> simp_all

theorem Pairs.unique {v b : String} {order order' : List (String × String)}
    {tables tables' : VirtualTypes} (h : s.Pairs v b order tables)
    (h' : s.Pairs v b order' tables') : order = order' ∧ tables = tables' := by
  have horder := h.visits.unique h'.visits
  exact ⟨horder, by rw [h.tables_eq, h'.tables_eq, horder]⟩

theorem pairs_pairWalk (s : Schema) (v b : String) :
    s.Pairs v b (s.pairWalk (v, b)).visited (s.virtualTypes v b) :=
  ⟨s.depthFirst_pairWalk (v, b), rfl⟩

theorem exists_checks (s : Schema) (c : Config) (isBatch : Bool) (kind : SupplyKind)
    (supplied required : TypeRef) :
    ∃ visited, s.Checks c isBatch kind supplied required visited
        (s.checkAssignable c isBatch kind supplied required) ∧
      (visited.map InputPair.key).Nodup ∧ visited.length ≤ s.inputKeys.length := by
  unfold checkAssignable
  dsimp only
  rw [← comparedNames]
  split
  · rename_i hshape
    simp only [Bool.and_eq_true, beq_iff_eq, bne_iff_ne] at hshape
    exact ⟨[], .shape hshape.1.1 hshape.1.2 hshape.2, .nil, Nat.zero_le _⟩
  · rename_i hshape
    have hkey : isBatch = true → kind = .sourceField → required.listDepth = 1 := by
      simpa [and_assoc] using hshape
    cases hnames : comparedNames isBatch kind supplied required with
    | none => exact ⟨[], .wrappers hkey hnames, .nil, Nat.zero_le _⟩
    | some names =>
      obtain ⟨x, y⟩ := names
      dsimp only
      cases hm : s.meeting c x y with
      | fits => exact ⟨[], .fit hkey hnames hm, .nil, Nat.zero_le _⟩
      | clashes => exact ⟨[], .clash hkey hnames hm, .nil, Nat.zero_le _⟩
      | builds p =>
        have hchecks := Checks.build hkey hnames hm (search_inputWalk hm)
        refine ⟨(s.inputWalk c p).visited, ?_, Walk.nodup_visited, Walk.length_visited_le⟩
        cases hfault : (s.inputWalk c p).fault <;> simpa only [Walk.answer, hfault] using hchecks

/-- On every schema each call comes to an end, in one way. It goes through the fields of no pair
twice: the check not through more than there are pairs of an object or interface with an input
object, and the tables not through more than there are pairs of objects or interfaces, and the pair
that they start with. -/
theorem visited_once (s : Schema) :
    (∀ (c : Config) (isBatch : Bool) (kind : SupplyKind) (supplied required : TypeRef),
      ∃ visited : List InputPair,
        (∀ order answer, s.Checks c isBatch kind supplied required order answer ↔
          order = visited ∧ answer = s.checkAssignable c isBatch kind supplied required) ∧
        (visited.map InputPair.key).Nodup ∧
        visited.length ≤ s.fieldedTypes.length * s.inputTypes.length) ∧
      ∀ v b : String, ∃ visited : List (String × String),
        (∀ order tables, s.Pairs v b order tables ↔
          order = visited ∧ tables = s.virtualTypes v b) ∧
        visited.Nodup ∧ visited.length ≤ 1 + s.fieldedTypes.length * s.fieldedTypes.length := by
  constructor
  · intro c isBatch kind supplied required
    obtain ⟨visited, hchecks, hnodup, hlength⟩ :=
      s.exists_checks c isBatch kind supplied required
    refine ⟨visited, fun order answer => ⟨fun h => h.unique hchecks, ?_⟩, hnodup, ?_⟩
    · rintro ⟨rfl, rfl⟩
      exact hchecks
    · exact s.length_inputKeys ▸ hlength
  · intro v b
    have hpairs := s.pairs_pairWalk v b
    have hnodup : ((s.pairWalk (v, b)).visited.map id).Nodup := Walk.nodup_visited
    rw [List.map_id] at hnodup
    refine ⟨_, fun order tables => ⟨fun h => h.unique hpairs, ?_⟩, hnodup, ?_⟩
    · rintro ⟨rfl, rfl⟩
      exact hpairs
    · exact s.length_pairKeys (v, b) ▸ Walk.length_visited_le

/-- Parents and children contain each other, and so do the input objects that they build. -/
example : (relatives.inputType? "ParentInput").map (fun i =>
    (relatives.inputWalk .standard ⟨"Parent", i⟩).visited.map InputPair.key) =
      some [("Parent", "ParentInput"), ("Child", "ChildInput")] := by cbv

end Schema

end HydrationPlan
