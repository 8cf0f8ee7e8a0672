import HydrationPlan.Pattern.ByteRuns
import HydrationPlan.Pattern.Shape.Basic

/-!
# The room of an automaton

A pattern is searched by automata, which must fit a fixed room. Each state takes the same room, and
some hold references or transitions beside. States are numbered in the order in which they are
added.
-/

namespace HydrationPlan.Pattern

/-- The number of states and the bytes that they hold beside. -/
structure Room where
  states : Nat
  extra : Nat
deriving DecidableEq, Repr

namespace Room

def stateSize : Nat := 32

def referenceSize : Nat := 4

/-- The bytes of a transition in a state that has a list of them. -/
def transitionSize : Nat := 8

/-- The bytes that an automaton may take. -/
def limit : Nat := 10 * 1024 * 1024

def none : Room := ⟨0, 0⟩

def bytes (r : Room) : Nat := r.states * stateSize + r.extra

def plus (a b : Room) : Room := ⟨a.states + b.states, a.extra + b.extra⟩

def plain (states : Nat) : Room := ⟨states, 0⟩

def referring (states references : Nat) : Room := ⟨states, references * referenceSize⟩

def listing (states transitions : Nat) : Room := ⟨states, transitions * transitionSize⟩

def take? (r more : Room) : Option Room :=
  let r := r.plus more
  if r.bytes ≤ limit then some r else Option.none

/-- Takes the room of several copies, one after another. -/
def copies? (one : Room → Option Room) : Nat → Room → Option Room
  | 0, r => some r
  | n + 1, r =>
    match one r with
    | some r => copies? one n r
    | Option.none => Option.none

end Room

/-- Automata run forward or backward over the text. -/
inductive Direction
  | forward
  | backward
deriving DecidableEq, Repr

end HydrationPlan.Pattern
