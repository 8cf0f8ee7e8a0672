import HydrationPlan.Proofs.DepthFirst
import HydrationPlan.Proofs.InOrder
import HydrationPlan.Proofs.NameKeyed
import HydrationPlan.VirtualTypes

/-!
# Which types are paired

Two types lead to the types below a field of the one and its counterpart on the other. The tables of
virtual types hold what can be reached in this way from the pair that they start with, whether or
not the types contain each other or one of them meets several others. A name that is met more than
once keeps the partner with which a depth-first search meets it first.
-/

namespace HydrationPlan

namespace Table

variable {κ α : Type} [DecidableEq κ] {t : Table κ α} {l : List (κ × α)}

/-- Under each key stands the value of the first entry with that key. -/
def TakesFirst (t : Table κ α) (l : List (κ × α)) : Prop :=
  ∀ k, t.get? k = (l.find? fun e => e.1 = k).map Prod.snd

theorem takesFirst_foldl_insertNew (l : List (κ × α)) :
    (l.foldl (fun t e => t.insertNew e.1 e.2) empty).TakesFirst l := by
  intro k
  rw [get?_foldl_insertNew]
  exact Option.none_or

theorem TakesFirst.mem_of_get? (h : t.TakesFirst l) {k : κ} {v : α} (hv : t.get? k = some v) :
    (k, v) ∈ l := by
  rw [h k, Option.map_eq_some_iff] at hv
  obtain ⟨e, he, rfl⟩ := hv
  have hk : e.1 = k := by simpa using List.find?_some he
  exact hk ▸ List.mem_of_find?_eq_some he

theorem TakesFirst.mem_keys_iff (h : t.TakesFirst l) (k : κ) :
    k ∈ t.keys ↔ ∃ v, (k, v) ∈ l := by
  rw [Table.mem_keys_iff]
  constructor
  · rintro ⟨v, hv⟩
    exact ⟨v, h.mem_of_get? hv⟩
  · rintro ⟨v, hv⟩
    have hfind : (l.find? fun e => e.1 = k).isSome :=
      List.find?_isSome.mpr ⟨(k, v), hv, decide_eq_true rfl⟩
    obtain ⟨e, he⟩ := Option.isSome_iff_exists.mp hfind
    exact ⟨e.2, by rw [h k, he, Option.map_some]⟩

theorem TakesFirst.mem_of_mem (h : t.TakesFirst l) : ∀ e ∈ t.entries, e ∈ l :=
  fun e he => h.mem_of_get? ((t.get?_eq_some_iff e.1 e.2).mpr he)

end Table

namespace VirtualTypes

variable {pairs : List (String × String)}

/-- On either side a name takes its partner from the first pair in which it stands there. -/
structure TakesFirst (m : VirtualTypes) (order : List (String × String)) : Prop where
  virtualToBacking : m.virtualToBacking.TakesFirst order
  backingToVirtual : m.backingToVirtual.TakesFirst (order.map Prod.swap)

theorem foldl_pair (pairs : List (String × String)) (m : VirtualTypes) :
    (pairs.foldl pair m).virtualToBacking =
        pairs.foldl (fun t p => t.insertNew p.1 p.2) m.virtualToBacking ∧
      (pairs.foldl pair m).backingToVirtual =
        (pairs.map Prod.swap).foldl (fun t p => t.insertNew p.1 p.2) m.backingToVirtual := by
  induction pairs generalizing m with
  | nil => exact ⟨rfl, rfl⟩
  | cons p rest ih => exact ih (m.pair p)

theorem takesFirst_ofPairs (pairs : List (String × String)) :
    (ofPairs pairs).TakesFirst pairs := by
  obtain ⟨hvirtual, hbacking⟩ := foldl_pair pairs empty
  constructor
  · rw [ofPairs, hvirtual]
    exact Table.takesFirst_foldl_insertNew pairs
  · rw [ofPairs, hbacking]
    exact Table.takesFirst_foldl_insertNew (pairs.map Prod.swap)

/-- Both tables hold pairs of the relation only, and each name of the relation has a partner. -/
structure Covers (m : VirtualTypes) (R : String × String → Prop) : Prop where
  virtualKeys (v : String) : v ∈ m.virtualToBacking.keys ↔ ∃ b, R (v, b)
  backingKeys (b : String) : b ∈ m.backingToVirtual.keys ↔ ∃ v, R (v, b)
  virtualEntries : ∀ e ∈ m.virtualToBacking.entries, R e
  backingEntries : ∀ e ∈ m.backingToVirtual.entries, R e.swap

theorem TakesFirst.covers {m : VirtualTypes} (h : m.TakesFirst pairs) :
    m.Covers (· ∈ pairs) := by
  have hswap : ∀ v b, (b, v) ∈ pairs.map Prod.swap ↔ (v, b) ∈ pairs := by simp
  constructor
  · exact h.virtualToBacking.mem_keys_iff
  · simpa only [hswap] using h.backingToVirtual.mem_keys_iff
  · exact h.virtualToBacking.mem_of_mem
  · exact fun e he => (hswap e.2 e.1).mp (h.backingToVirtual.mem_of_mem e he)

theorem TakesFirst.partners {m : VirtualTypes} {p : String × String}
    (h : m.TakesFirst (p :: pairs)) :
    m.backingType? p.1 = some p.2 ∧ m.virtualType? p.2 = some p.1 := by
  constructor
  · rw [backingType?, h.virtualToBacking]
    simp
  · rw [virtualType?, h.backingToVirtual]
    simp

end VirtualTypes

namespace Schema

variable {s : Schema}

theorem mem_fieldedNames {name : String} : name ∈ s.fieldedNames ↔ s.isFielded name = true := by
  rw [fieldedNames, List.mem_filter, and_iff_right_iff_imp]
  intro hf
  obtain ⟨d, hd⟩ := Option.isSome_iff_exists.mp hf
  obtain ⟨e, he, -⟩ := fielded?_eq_some hd
  exact Table.mem_keys_of_mem he

/-- The types below a field that is not hydrated and below its counterpart, with the index of the
field among the fields of the first type. All four types are objects or interfaces. -/
inductive NestsAt (s : Schema) : String × String → Nat → String × String → Prop
  | below {v b key : String} {fields backing : Table String Field} {f g : Field} {i : Nat}
      (hv : s.fieldsOf? v = some fields) (hb : s.fieldsOf? b = some backing)
      (hf : fields.entries[i]? = some (key, f)) (hhydrated : f.isHydrated = false)
      (hg : backing.get? f.name = some g) (hvirtual : s.isFielded f.type.namedType)
      (hbacking : s.isFielded g.type.namedType) :
      NestsAt s (v, b) i (f.type.namedType, g.type.namedType)

def Nests (s : Schema) (p q : String × String) : Prop := ∃ i, s.NestsAt p i q

/-- The pairs of types that are met at or below a pair. -/
def Reaches (s : Schema) : String × String → String × String → Prop :=
  Relation.ReflTransGen s.Nests

theorem nestedPair?_eq_some_iff {backing : Table String Field} {f : Field} {q : String × String} :
    s.nestedPair? backing f = some q ↔
      f.isHydrated = false ∧ ∃ g, backing.get? f.name = some g ∧
        s.isFielded f.type.namedType ∧ s.isFielded g.type.namedType ∧
        (f.type.namedType, g.type.namedType) = q := by
  unfold nestedPair?
  cases f.isHydrated with
  | true => simp
  | false => cases backing.get? f.name <;> simp [and_assoc]

theorem rightUnique_nestsAt (p : String × String) : Relator.RightUnique (s.NestsAt p) := by
  rintro i q r ⟨hv, hb, hf, -, hg, -, -⟩ h
  obtain ⟨hv', hb', hf', -, hg', -, -⟩ := h
  cases hv.symm.trans hv'
  cases hb.symm.trans hb'
  cases hf.symm.trans hf'
  cases hg.symm.trans hg'
  rfl

/-- The pairs below a pair come in the order of the fields. -/
theorem inOrder_nestedPairs (p : String × String) :
    InOrder (· < ·) (s.NestsAt p) (s.nestedPairs p) := by
  obtain ⟨v, b⟩ := p
  unfold nestedPairs
  split
  · rename_i fields backing hv hb
    rw [Table.values, List.filterMap_map]
    refine (InOrder.filterMap _ _).congr fun i q => ?_
    simp only [Function.comp_apply, nestedPair?_eq_some_iff]
    constructor
    · rintro ⟨⟨key, f⟩, hf, hhydrated, g, hg, hvirtual, hbacking, rfl⟩
      exact .below hv hb hf hhydrated hg hvirtual hbacking
    · rintro ⟨hv', hb', hf, hhydrated, hg, hvirtual, hbacking⟩
      cases hv.symm.trans hv'
      cases hb.symm.trans hb'
      exact ⟨_, hf, hhydrated, _, hg, hvirtual, hbacking, rfl⟩
  · rename_i hnone
    refine .nil ?_
    rintro i q ⟨hv, hb⟩
    exact hnone _ _ hv hb

theorem mem_nestedPairs_iff {p q : String × String} : q ∈ s.nestedPairs p ↔ s.Nests p q :=
  (s.inOrder_nestedPairs p).mem_iff (s.rightUnique_nestsAt p)

theorem mem_pairKeys_of_nests {start p q : String × String} (h : s.Nests p q) :
    q ∈ s.pairKeys start := by
  obtain ⟨_, _, _, _, _, _, hvirtual, hbacking⟩ := h
  refine List.mem_cons_of_mem _ (List.mem_flatMap.mpr ⟨_, mem_fieldedNames.mpr hvirtual, ?_⟩)
  exact List.mem_map.mpr ⟨_, mem_fieldedNames.mpr hbacking, rfl⟩

theorem depthFirst_pairWalk (start : String × String) :
    DepthFirst s.nestedPairs ∅ [start] (s.pairWalk start).visited := by
  have hstart : ∀ p ∈ [start], p ∈ s.pairKeys start :=
    List.forall_mem_singleton.mpr List.mem_cons_self
  refine Walk.depthFirst_run (P := (· ∈ s.pairKeys start)) ?_ hstart ?_
  · exact fun p _ q hq => mem_pairKeys_of_nests (mem_nestedPairs_iff.mp hq)
  · exact fun p hp => ⟨fun h => h.elim, fun h => (h hp).elim⟩

/-- The pairs at and below the first one, in the order in which a depth-first search meets them
that takes the fields of each type in their order. -/
def Meets (s : Schema) (start : String × String) (order : List (String × String)) : Prop :=
  ∃ next, (∀ p, InOrder (· < ·) (s.NestsAt p) (next p)) ∧ DepthFirst next ∅ [start] order

theorem meets_iff {start : String × String} {order : List (String × String)} :
    s.Meets start order ↔ DepthFirst s.nestedPairs ∅ [start] order := by
  constructor
  · rintro ⟨next, hnext, horder⟩
    have hpairs : next = s.nestedPairs := funext fun p =>
      (hnext p).unique (s.rightUnique_nestsAt p) (s.inOrder_nestedPairs p)
    exact hpairs ▸ horder
  · exact fun h => ⟨_, s.inOrder_nestedPairs, h⟩

/-- The tables pair the types that are reached from the first two, in both directions; every type
keeps the partner that a search in depth-first field order meets first. -/
theorem virtualTypes_reached (s : Schema) (v b : String) :
    (s.virtualTypes v b).Covers (s.Reaches (v, b)) ∧
      (s.virtualTypes v b).backingType? v = some b ∧
      (s.virtualTypes v b).virtualType? b = some v ∧
      (∃ order, s.Meets (v, b) order) ∧
      ∀ order, s.Meets (v, b) order → (s.virtualTypes v b).TakesFirst order := by
  have horder := s.depthFirst_pairWalk (v, b)
  have hfirst := VirtualTypes.takesFirst_ofPairs (s.pairWalk (v, b)).visited
  rw [← virtualTypes] at hfirst
  have hreached : (· ∈ (s.pairWalk (v, b)).visited) = s.Reaches (v, b) := by
    funext p
    rw [horder.mem_iff, Reaches]
    simp only [mem_nestedPairs_iff]
  obtain ⟨below, hbelow⟩ := horder.exists_below
  obtain ⟨hbacking, hvirtual⟩ := (hbelow ▸ hfirst).partners
  refine ⟨hreached ▸ hfirst.covers, hbacking, hvirtual, ⟨_, meets_iff.mpr horder⟩,
    fun order h => ?_⟩
  rwa [(meets_iff.mp h).unique horder]

end Schema

end HydrationPlan
