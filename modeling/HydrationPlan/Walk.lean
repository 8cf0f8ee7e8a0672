/-!
# Depth-first walks

A walk visits the nodes of a graph in depth-first order and stops at the first fault. Nodes are
told apart by their keys, and a node is visited only while its key is still fresh, so each key is
visited at most once and the walk ends.
-/

namespace HydrationPlan

/-- The nodes that were visited, in order, and the fault that ended the walk early. -/
structure Walk (α ε : Type) where
  visited : List α
  fault : Option ε

namespace Walk

variable {α ε κ : Type} [DecidableEq κ]

def without (k : κ) (fresh : List κ) : List κ := fresh.filter (· ≠ k)

theorem length_without_lt {k : κ} {fresh : List κ} (h : k ∈ fresh) :
    (without k fresh).length < fresh.length := by
  refine Nat.lt_of_le_of_ne (List.length_filter_le _ _) fun he => ?_
  simpa using (List.length_filter_eq_length_iff.1 he) k h

/-- `next` lists what a node leads to: further nodes and faults, in the order in which they are
met. `pending` is what remains to be met. -/
def run (key : α → κ) (next : α → List (Except ε α)) (fresh : List κ)
    (pending : List (Except ε α)) : Walk α ε :=
  match pending with
  | [] => ⟨[], none⟩
  | .error e :: _ => ⟨[], some e⟩
  | .ok a :: rest =>
    if h : key a ∈ fresh then
      have := length_without_lt h
      let walk := run key next (without (key a) fresh) (next a ++ rest)
      ⟨a :: walk.visited, walk.fault⟩
    else run key next fresh rest
termination_by (fresh.length, pending.length)

end Walk

end HydrationPlan
