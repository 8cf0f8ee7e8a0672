import Std.Data.HashMap
import HydrationPlan.Pattern.Room.Basic

/-!
# Shared states

States with the same content are shared as long as they are remembered. Memory has a fixed number
of slots; the content of a state determines its slot, where a later state takes the place of an
earlier one.
-/

namespace HydrationPlan.Pattern

/-- The states in memory with their contents, by slot. -/
structure Slots where
  count : Nat
  entries : Std.HashMap Nat (List Nat × Nat)

namespace Slots

def ofCount (count : Nat) : Slots := ⟨count, ∅⟩

/-- Spreads contents over the slots: each number is mixed into 64 bits, which are then multiplied
by a prime. -/
def spread (content : List Nat) : UInt64 :=
  content.foldl (fun bits n => (bits ^^^ n.toUInt64) * 1099511628211) 14695981039346656037

def slot (slots : Slots) (content : List Nat) : Nat := (spread content).toNat % slots.count

end Slots

/-- What has been built of a set: the room taken and the states in memory. -/
structure Sharing where
  room : Room
  slots : Slots

namespace Sharing

/-- The state with a content, which is new unless it is remembered. -/
def state? (s : Sharing) (content : List Nat) (size : Room) : Option (Nat × Sharing) :=
  let slot := s.slots.slot content
  let isKnown := fun (entry : List Nat × Nat) => entry.1 == content
  match s.slots.entries[slot]?.filter isKnown with
  | some (_, state) => some (state, s)
  | none =>
    let state := s.room.states
    let entries := s.slots.entries.insert slot (content, state)
    (s.room.take? size).map fun room => (state, ⟨room, { s.slots with entries := entries }⟩)

end Sharing

end HydrationPlan.Pattern
