import HydrationPlan.Proofs.Walk
import Mathlib.Data.Set.Insert

/-!
# Searches without a bound

A search remembers the keys that it has met and passes over a node whose key is among them. What is
below a node comes before the node's siblings, and the first fault ends the search. These rules
count nothing down. On a graph that has no end a search has no result; where all keys that it can
meet are fresh to a walk, the walk is its one result.
-/

namespace HydrationPlan

/-- What a search visits and the fault that ends it, but for the nodes whose keys were seen before.
-/
inductive Search {α ε κ : Type} (key : α → κ) (next : α → List (Except ε α)) :
    Set κ → List (Except ε α) → Walk α ε → Prop
  | nil {seen : Set κ} : Search key next seen [] ⟨[], none⟩
  | error {seen : Set κ} {e : ε} {rest : List (Except ε α)} :
      Search key next seen (.error e :: rest) ⟨[], some e⟩
  | stale {seen : Set κ} {a : α} {rest : List (Except ε α)} {walk : Walk α ε} (ha : key a ∈ seen)
      (hrest : Search key next seen rest walk) : Search key next seen (.ok a :: rest) walk
  | stopped {seen : Set κ} {a : α} {rest : List (Except ε α)} {below : List α} {e : ε}
      (ha : key a ∉ seen)
      (hbelow : Search key next (insert (key a) seen) (next a) ⟨below, some e⟩) :
      Search key next seen (.ok a :: rest) ⟨a :: below, some e⟩
  | fresh {seen : Set κ} {a : α} {rest : List (Except ε α)} {below : List α} {walk : Walk α ε}
      (ha : key a ∉ seen) (hbelow : Search key next (insert (key a) seen) (next a) ⟨below, none⟩)
      (hrest : Search key next (insert (key a) seen ∪ {k | k ∈ below.map key}) rest walk) :
      Search key next seen (.ok a :: rest) ⟨a :: (below ++ walk.visited), walk.fault⟩

namespace Search

variable {α ε κ : Type} {key : α → κ} {next : α → List (Except ε α)} {seen : Set κ}
variable {pending later : List (Except ε α)} {walk walk' : Walk α ε}

theorem unique (h : Search key next seen pending walk) (h' : Search key next seen pending walk') :
    walk = walk' := by
  induction h generalizing walk' with
  | nil =>
    cases h'
    rfl
  | error =>
    cases h'
    rfl
  | stale ha _ ih =>
    cases h' with
    | stale _ hrest => exact ih hrest
    | stopped ha' => exact absurd ha ha'
    | fresh ha' => exact absurd ha ha'
  | stopped ha _ ih =>
    cases h' with
    | stale ha' => exact absurd ha' ha
    | stopped _ hbelow =>
      cases ih hbelow
      rfl
    | fresh _ hbelow => cases ih hbelow
  | fresh ha _ _ ihbelow ihrest =>
    cases h' with
    | stale ha' => exact absurd ha' ha
    | stopped _ hbelow => cases ihbelow hbelow
    | fresh _ hbelow hrest =>
      cases ihbelow hbelow
      rw [ihrest hrest]

/-- A search of two lists ends in the first one, or goes on to the second. -/
theorem of_append (h : Search key next seen (pending ++ later) walk) :
    (∃ e, walk.fault = some e ∧ Search key next seen pending walk) ∨
      ∃ first rest, Search key next seen pending ⟨first, none⟩ ∧
        Search key next (seen ∪ {k | k ∈ first.map key}) later rest ∧
        walk = ⟨first ++ rest.visited, rest.fault⟩ := by
  induction pending generalizing seen walk with
  | nil => exact .inr ⟨[], walk, .nil, by simpa using h, rfl⟩
  | cons n pending ih =>
    cases h with
    | error => exact .inl ⟨_, rfl, .error⟩
    | stale ha hrest =>
      rcases ih hrest with ⟨e, he, hfirst⟩ | ⟨first, rest, hfirst, hlater, rfl⟩
      · exact .inl ⟨e, he, .stale ha hfirst⟩
      · exact .inr ⟨first, rest, .stale ha hfirst, hlater, rfl⟩
    | stopped ha hbelow => exact .inl ⟨_, rfl, .stopped ha hbelow⟩
    | @fresh _ a _ below _ ha hbelow hrest =>
      rcases ih hrest with ⟨e, he, hfirst⟩ | ⟨first, rest, hfirst, hlater, rfl⟩
      · exact .inl ⟨e, he, .fresh ha hbelow hfirst⟩
      · refine .inr ⟨a :: (below ++ first), rest, .fresh ha hbelow hfirst, ?_, by simp⟩
        have hseen : insert (key a) seen ∪ {k | k ∈ below.map key} ∪ {k | k ∈ first.map key} =
            seen ∪ {k | k ∈ (a :: (below ++ first)).map key} := by
          ext k
          simp [or_assoc, or_left_comm]
        rwa [hseen] at hlater

end Search

namespace Walk

variable {α ε κ : Type} [DecidableEq κ] {key : α → κ} {next : α → List (Except ε α)}
variable {fresh : List κ} {pending : List (Except ε α)}

/-- A walk is a search. What the search has seen need agree with the stale keys of the walk only on
nodes that it can come to. -/
theorem search_run {P : α → Prop} (hnext : ∀ a, P a → ∀ b, .ok b ∈ next a → P b) {seen : Set κ}
    (hpending : ∀ a, .ok a ∈ pending → P a)
    (hseen : ∀ a, P a → (key a ∈ seen ↔ key a ∉ fresh)) :
    Search key next seen pending (run key next fresh pending) := by
  induction fresh, pending using run.induct key next generalizing seen with
  | case1 fresh =>
    rw [run_nil]
    exact .nil
  | case2 fresh e rest =>
    rw [run_error]
    exact .error
  | case3 fresh a rest ha _ ih =>
    have haP : P a := hpending a List.mem_cons_self
    have hreached : ∀ b, .ok b ∈ next a ++ rest → P b := by
      intro b hb
      rcases List.mem_append.mp hb with hb | hb
      · exact hnext a haP b hb
      · exact hpending b (List.mem_cons_of_mem _ hb)
    have hstale : ∀ b, P b → (key b ∈ insert (key a) seen ↔ key b ∉ without (key a) fresh) := by
      intro b hb
      rw [Set.mem_insert_iff, hseen b hb, mem_without, not_and_or, not_ne_iff, or_comm]
    have hnew : key a ∉ seen := fun hm => (hseen a haP).mp hm ha
    -- The walk goes on with what is below `a` in front of the siblings of `a`.
    have hsearch := ih hreached hstale
    rw [run_fresh ha]
    generalize run key next (without (key a) fresh) (next a ++ rest) = walk at hsearch ⊢
    rcases hsearch.of_append with ⟨e, he, hbelow⟩ | ⟨below, siblings, hbelow, hrest, rfl⟩
    · obtain ⟨below, fault⟩ := walk
      cases he
      exact .stopped hnew hbelow
    · exact .fresh hnew hbelow hrest
  | case4 fresh a rest ha ih =>
    rw [run_stale ha]
    exact .stale ((hseen a (hpending a List.mem_cons_self)).mpr ha)
      (ih (fun b hb => hpending b (List.mem_cons_of_mem _ hb)) hseen)

end Walk

end HydrationPlan
