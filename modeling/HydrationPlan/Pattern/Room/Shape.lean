import HydrationPlan.Pattern.Room.Set
import HydrationPlan.Pattern.Room.Words

/-!
# The room of shapes

The states that each shape adds to an automaton. A repetition is written out as often as it is
required, and once more for each further count. The backward automaton reads sequences from their
end and leaves captures out.
-/

namespace HydrationPlan.Pattern

/-- The words of branches that are a text each. -/
def words? : List Shape → Option (List Room.Word)
  | [] => some []
  | .text chars :: rest => (words? rest).map (chars.flatMap String.utf8EncodeChar :: ·)
  | _ => none

namespace Shape

/-- The states that lead into repetitions and out of them. -/
def forks (states : Nat) : Room := .referring states (2 * states)

mutual

def room? (d : Direction) : Shape → Room → Option Room
  | empty, r | place _, r => r.take? (.plain 1)
  | text chars, r => r.take? (.plain (utf8Length chars))
  | set _ ranges, r => Room.set? d ranges r
  | repetition count _ inner, r =>
    let one := room? d inner
    let further := fun r => (r.take? (forks 1)).bind one
    match count.least, count.greatest with
    | 0, some 1 => (further r).bind (·.take? (.plain 1))
    | 0, none =>
      if 0 < inner.minLength.getD 0 then further r
      else (one r).bind (·.take? ((forks 2).plus (.plain 1)))
    | n, none => (Room.copies? one n r).bind (·.take? (forks 1))
    | n, some m =>
      if n = m then Room.copies? one n r
      else
        let required := if n = 0 then r.take? (.plain 1) else Room.copies? one n r
        (required.bind (·.take? (.plain 1))).bind (Room.copies? further (m - n))
  | capture _ inner, r =>
    match d with
    | .forward => ((r.take? (.plain 1)).bind (room? d inner)).bind (·.take? (.plain 1))
    | .backward => room? d inner r
  | sequence parts, r => sequenceRoom? d parts r
  | choice branches, r =>
    match words? branches with
    | some words =>
      match d with
      | .forward => r.take? (Room.words words)
      | .backward => r.take? (Room.words (words.map List.reverse))
    | none => (branchRoom? d 1 branches r).bind (·.take? (.referring 0 branches.length))

def sequenceRoom? (d : Direction) : List Shape → Room → Option Room
  | [], r => some r
  | part :: parts, r =>
    match d with
    | .forward => (room? d part r).bind (sequenceRoom? d parts)
    | .backward => (sequenceRoom? d parts r).bind (room? d part)

/-- The states before and behind the branches are added with the second one. -/
def branchRoom? (d : Direction) (n : Nat) : List Shape → Room → Option Room
  | [], r => some r
  | branch :: branches, r =>
    let r := room? d branch r
    let r := if n = 2 then r.bind (·.take? (.plain 2)) else r
    r.bind (branchRoom? d (n + 1) branches)

end

/-- The states before a pattern. Unless matches are bound to an end of the text, they search for
the first byte. -/
def lead (isBound : Bool) : Room :=
  if isBound then .plain 1 else (Room.listing 2 1).plus (forks 1)

def forwardRoom? (s : Shape) : Option Room :=
  ((Room.none.take? (lead s.startsText)).bind (room? .forward (capture 0 s))).bind
    (·.take? (.plain 1))

def backwardRoom? (s : Shape) : Option Room :=
  ((Room.none.take? (lead s.endsText)).bind (room? .backward s)).bind (·.take? (.plain 1))

def fits (s : Shape) : Bool := s.forwardRoom?.isSome && s.backwardRoom?.isSome

end Shape

end HydrationPlan.Pattern
