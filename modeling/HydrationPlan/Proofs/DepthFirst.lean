import HydrationPlan.Proofs.Search
import Mathlib.Logic.Relation

/-!
# Depth-first order

A depth-first search meets a node, then what is below it, then its siblings, and passes over what it
has met before. The rules below say no more than that. They give one order, which lists what can be
reached and nothing else, and it is the order in which a walk visits.
-/

namespace HydrationPlan

/-- The nodes at and below the `pending` ones in the order in which they are met, but for the nodes
that were seen before. -/
inductive DepthFirst {α : Type} (next : α → List α) : Set α → List α → List α → Prop
  | nil {seen : Set α} : DepthFirst next seen [] []
  | stale {seen : Set α} {a : α} {rest order : List α} (ha : a ∈ seen)
      (hrest : DepthFirst next seen rest order) : DepthFirst next seen (a :: rest) order
  | fresh {seen : Set α} {a : α} {rest below order : List α} (ha : a ∉ seen)
      (hbelow : DepthFirst next (insert a seen) (next a) below)
      (hrest : DepthFirst next (insert a seen ∪ {b | b ∈ below}) rest order) :
      DepthFirst next seen (a :: rest) (a :: (below ++ order))

namespace DepthFirst

variable {α : Type} {next : α → List α} {seen : Set α} {pending order : List α}

theorem unique {order' : List α} (h : DepthFirst next seen pending order)
    (h' : DepthFirst next seen pending order') : order = order' := by
  induction h generalizing order' with
  | nil =>
    cases h'
    rfl
  | stale ha _ ih =>
    cases h' with
    | stale _ hrest => exact ih hrest
    | fresh ha' => exact absurd ha ha'
  | fresh ha _ _ ihbelow ihrest =>
    cases h' with
    | stale ha' => exact absurd ha' ha
    | fresh _ hbelow hrest =>
      cases ihbelow hbelow
      rw [ihrest hrest]

theorem exists_reaching (h : DepthFirst next seen pending order) :
    ∀ b ∈ order, ∃ a ∈ pending, Relation.ReflTransGen (fun p q => q ∈ next p) a b := by
  induction h with
  | nil => exact fun b hb => absurd hb List.not_mem_nil
  | stale _ _ ih =>
    intro b hb
    obtain ⟨a, ha, hab⟩ := ih b hb
    exact ⟨a, List.mem_cons_of_mem _ ha, hab⟩
  | fresh _ _ _ ihbelow ihrest =>
    intro b hb
    rcases List.mem_cons.mp hb with rfl | hb
    · exact ⟨b, List.mem_cons_self, .refl⟩
    · rcases List.mem_append.mp hb with hb | hb
      · obtain ⟨c, hc, hcb⟩ := ihbelow b hb
        exact ⟨_, List.mem_cons_self, .head hc hcb⟩
      · obtain ⟨a, ha, hab⟩ := ihrest b hb
        exact ⟨a, List.mem_cons_of_mem _ ha, hab⟩

theorem mem_of_pending (h : DepthFirst next seen pending order) :
    ∀ a ∈ pending, a ∈ seen ∨ a ∈ order := by
  induction h with
  | nil => exact fun a ha => absurd ha List.not_mem_nil
  | stale ha _ ih =>
    intro b hb
    rcases List.mem_cons.mp hb with rfl | hb
    · exact .inl ha
    · exact ih b hb
  | fresh _ _ _ _ ihrest =>
    intro b hb
    rcases List.mem_cons.mp hb with rfl | hb
    · exact .inr List.mem_cons_self
    · rcases ihrest b hb with ((rfl | hseen) | hbelow) | horder
      · exact .inr List.mem_cons_self
      · exact .inl hseen
      · exact .inr (List.mem_cons_of_mem _ (List.mem_append_left _ hbelow))
      · exact .inr (List.mem_cons_of_mem _ (List.mem_append_right _ horder))

/-- A node that was passed over was met elsewhere, so that nothing below it is lost. -/
theorem mem_of_next (h : DepthFirst next seen pending order) :
    ∀ a ∈ order, ∀ b ∈ next a, b ∈ seen ∨ b ∈ order := by
  induction h with
  | nil => exact fun a ha => absurd ha List.not_mem_nil
  | stale _ _ ih => exact ih
  | @fresh seen a rest below order _ hbelow _ ihbelow ihrest =>
    have hmet : ∀ b, b ∈ insert a seen ∨ b ∈ below → b ∈ seen ∨ b ∈ a :: (below ++ order) := by
      rintro b ((rfl | hseen) | hb)
      · exact .inr List.mem_cons_self
      · exact .inl hseen
      · exact .inr (List.mem_cons_of_mem _ (List.mem_append_left _ hb))
    intro c hc b hb
    rcases List.mem_cons.mp hc with rfl | hc
    · exact hmet b (hbelow.mem_of_pending b hb)
    · rcases List.mem_append.mp hc with hc | hc
      · exact hmet b (ihbelow c hc b hb)
      · rcases ihrest c hc b hb with hb | hb
        · exact hmet b hb
        · exact .inr (List.mem_cons_of_mem _ (List.mem_append_right _ hb))

theorem exists_below {start : α} (h : DepthFirst next ∅ [start] order) :
    ∃ below, order = start :: below := by
  cases h with
  | stale hstart => exact hstart.elim
  | fresh _ _ _ => exact ⟨_, rfl⟩

/-- From one node a search meets exactly what can be reached. -/
theorem mem_iff {start b : α} (h : DepthFirst next ∅ [start] order) :
    b ∈ order ↔ Relation.ReflTransGen (fun p q => q ∈ next p) start b := by
  constructor
  · intro hb
    obtain ⟨a, ha, hab⟩ := h.exists_reaching b hb
    rwa [List.mem_singleton.mp ha] at hab
  · intro hb
    induction hb with
    | refl => exact (h.mem_of_pending start List.mem_cons_self).resolve_left id
    | tail _ hc ih => exact (h.mem_of_next _ ih _ hc).resolve_left id

end DepthFirst

theorem Search.depthFirst {α ε : Type} {next : α → List α} {seen : Set α} {pending : List α}
    {walk : Walk α ε}
    (h : Search id (fun a => (next a).map .ok) seen (pending.map .ok) walk) :
    walk.fault = none ∧ DepthFirst next seen pending walk.visited := by
  generalize hnodes : pending.map (Except.ok (ε := ε)) = nodes at h
  induction h generalizing pending with
  | nil =>
    rw [List.map_eq_nil_iff.mp hnodes]
    exact ⟨rfl, .nil⟩
  | error => cases pending <;> cases hnodes
  | stale ha _ ih =>
    obtain ⟨a, pending, rfl, hok, hrest⟩ := List.map_eq_cons_iff.mp hnodes
    cases hok
    obtain ⟨hfault, horder⟩ := ih hrest
    exact ⟨hfault, .stale ha horder⟩
  | stopped _ _ ih => cases (ih rfl).1
  | fresh ha _ _ ihbelow ihrest =>
    obtain ⟨a, pending, rfl, hok, hrest⟩ := List.map_eq_cons_iff.mp hnodes
    cases hok
    obtain ⟨hfault, horder⟩ := ihrest hrest
    rw [List.map_id] at horder
    exact ⟨hfault, .fresh ha (ihbelow rfl).2 horder⟩

/-- A walk visits in depth-first order. What it takes for seen need agree with its stale keys only
on nodes that it can come to. -/
theorem Walk.depthFirst_run {α ε : Type} [DecidableEq α] {next : α → List α} {P : α → Prop}
    (hnext : ∀ a, P a → ∀ b ∈ next a, P b) {seen : Set α} {fresh pending : List α}
    (hpending : ∀ a ∈ pending, P a) (hseen : ∀ a, P a → (a ∈ seen ↔ a ∉ fresh)) :
    DepthFirst next seen pending
      (run (ε := ε) id (fun a => (next a).map .ok) fresh (pending.map .ok)).visited := by
  have hok : ∀ {nodes : List α} {b : α}, (.ok b : Except ε α) ∈ nodes.map .ok → b ∈ nodes := by
    simp
  exact (search_run (fun a ha b hb => hnext a ha b (hok hb)) (fun a ha => hpending a (hok ha))
    hseen).depthFirst.2

end HydrationPlan
