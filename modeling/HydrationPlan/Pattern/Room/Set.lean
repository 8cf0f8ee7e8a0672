import HydrationPlan.Pattern.Room.Slots

/-!
# The room of character sets

The states for a set read the bytes of its characters. Forward, the byte sequences form a tree, and
equal subtrees are shared. Backward, each sequence is a chain of states, and chains share their
ends.
-/

namespace HydrationPlan.Pattern.Room

open Text (Ranges)

/-- The states for the rests of sequences, from the last bytes to the first; `target` is the state
behind them. The depth is the greatest number of bytes that are left. -/
def tree? (target : Nat) : Nat → List ByteRuns → Sharing → Option (Nat × Sharing)
  | 0, _, s => some (target, s)
  | depth + 1, sequences, s =>
    if sequences.all List.isEmpty then some (target, s)
    else do
      let groups := sequences.splitBy fun a b => a.head? == b.head?
      let add := fun ((reversed, s) : List Nat × Sharing) (group : List ByteRuns) => do
        let (next, s) ← tree? target depth (group.map List.tail) s
        let (low, high) ← group.head?.bind List.head?
        pure (next :: high :: low :: reversed, s)
      let (reversed, s) ← groups.foldlM add ([], s)
      s.state? reversed.reverse (listing 1 groups.length)

def forwardSlots : Nat := 10000

def forwardSet? (sequences : List ByteRuns) (r : Room) : Option Room := do
  let target := r.states
  let r ← r.take? (plain 1)
  let (_, s) ← tree? target 4 sequences ⟨r, .ofCount forwardSlots⟩
  pure s.room

/-- The states for a sequence, from its first bytes to the last, and a reference to it. -/
def chain? (target : Nat) (s : Sharing) (sequence : ByteRuns) : Option Sharing := do
  let add := fun ((state, s) : Nat × Sharing) ((low, high) : Nat × Nat) =>
    s.state? [state, low, high] (plain 1)
  let (_, s) ← sequence.foldlM add (target, s)
  (s.room.take? (referring 0 1)).map fun room => { s with room := room }

def backwardSlots : Nat := 1000

def backwardSet? (sequences : List ByteRuns) (r : Room) : Option Room := do
  let target := r.states + 1
  let r ← r.take? (plain 2)
  let s ← sequences.foldlM (chain? target) ⟨r, .ofCount backwardSlots⟩
  pure s.room

/-- ASCII characters are read by a single state. -/
def set? (d : Direction) (ranges : Ranges) (r : Room) : Option Room :=
  if ranges.all fun run => run.2 < 128 then r.take? (listing 2 ranges.length)
  else
    let sequences := ranges.flatMap encode
    match d with
    | .forward => forwardSet? sequences r
    | .backward => backwardSet? sequences r

end HydrationPlan.Pattern.Room
