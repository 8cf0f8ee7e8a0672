import HydrationPlan.Pattern.Room.Basic

/-!
# The room of choices between texts

A choice between texts is read byte by byte, and what they begin with is shared as far as it does
not change which of them is preferred: where a text ends, those behind it are read anew.
-/

namespace HydrationPlan.Pattern.Room

abbrev Word := List UInt8

/-- Several words that end where no other goes on are like one. -/
def endOnce : List Word → List Word
  | [] :: [] :: rest => endOnce ([] :: rest)
  | words => words

/-- The words between those that end. -/
def partsAtEnds : List Word → List (List Word)
  | [] => [[]]
  | [] :: rest => [] :: partsAtEnds rest
  | word :: rest =>
    match partsAtEnds rest with
    | [] => [[word]]
    | part :: parts => (word :: part) :: parts

def byFirst (words : List Word) : List (List Word) :=
  (words.filterMap List.head?).eraseDups.map fun first =>
    (words.filter fun word => word.head? == some first).map List.tail

/-- The room for the rests of words. The depth is greater than the length of each. -/
def rests : Nat → List Word → Room
  | 0, _ => none
  | depth + 1, words =>
    if words.all List.isEmpty then none
    else
      let parts := partsAtEnds (endOnce words)
      let groups := (parts.map byFirst).filter fun groups => !groups.isEmpty
      let own := groups.map fun groups =>
        if groups.length = 1 then plain 1 else listing 1 groups.length
      let union := referring 1 (groups.length + parts.length - 1)
      ((own ++ groups.flatten.map (rests depth)).foldl plus union)

def words (words : List Word) : Room :=
  (plain 1).plus (rests (words.flatten.length + 1) words)

end HydrationPlan.Pattern.Room
