import HydrationPlan.Pattern.Shape.Basic

/-!
# Building shapes

The functions that build shapes from simple ones, in the simple form.
-/

namespace HydrationPlan.Pattern.Shape

open Text (Ranges)

/-- A set of a single character is a text, and all empty sets are the same. -/
def ofRanges (unicode : Bool) : Ranges → Shape
  | [] => set false []
  | [(low, high)] => if low = high then text [Char.ofNat low] else set unicode [(low, high)]
  | ranges => set unicode ranges

/-- More copies of what matches only the empty text than one are no different from one. -/
def clamp (count : Count) : Count :=
  ⟨min count.least 1, some (min (count.greatest.getD 1) 1)⟩

def repeated (count : Count) (greedy : Bool) (inner : Shape) : Shape :=
  let count := if inner.onlyEmpty then clamp count else count
  if count = ⟨0, some 0⟩ then empty
  else if count = ⟨1, some 1⟩ then inner
  else repetition count greedy inner

def flattened : List Shape → List Shape
  | [] => []
  | sequence parts :: rest => parts ++ flattened rest
  | part :: rest => part :: flattened rest

/-- Drops what is empty and joins neighbouring texts. -/
def joined : List Shape → List Shape
  | [] => []
  | empty :: rest => joined rest
  | text a :: rest =>
    match joined rest with
    | text b :: rest => text (a ++ b) :: rest
    | rest => text a :: rest
  | part :: rest => part :: joined rest

def ofParts (parts : List Shape) : Shape :=
  match joined (flattened parts) with
  | [] => empty
  | [part] => part
  | parts => sequence parts

def flattenedBranches : List Shape → List Shape
  | [] => []
  | choice branches :: rest => branches ++ flattenedBranches rest
  | branch :: rest => branch :: flattenedBranches rest

/-- The characters of branches that are a single character each. -/
def characters? : List Shape → Option Ranges
  | [] => some []
  | text [c] :: rest => (characters? rest).map ((c.toNat, c.toNat) :: ·)
  | _ => none

/-- The members of branches that are sets each. -/
def sets? : List Shape → Option Ranges
  | [] => some []
  | set _ ranges :: rest => (sets? rest).map (ranges ++ ·)
  | _ => none

/-- A choice between branches that have no common beginning. -/
def ofDistinct (branches : List Shape) : Shape :=
  match flattenedBranches branches with
  | [branch] => branch
  | branches =>
    match characters? branches <|> sets? branches with
    | some ranges => ofRanges true ranges.normal
    | none => choice branches

def parts : Shape → List Shape
  | sequence parts => parts
  | _ => []

def commonLength : List Shape → List Shape → Nat
  | a :: as, b :: bs => if same a b then commonLength as bs + 1 else 0
  | _, _ => 0

/-- How many parts all branches begin with. Only sequences have a common beginning. -/
def commonBeginning : List Shape → Nat
  | [] => 0
  | first :: rest =>
    (rest.map fun branch => commonLength first.parts branch.parts).min?.getD 0

/-- What remains of the branches behind their common beginning has no common beginning, and neither
have the branches of a choice that was built before. -/
def ofBranches (branches : List Shape) : Shape :=
  let flat := flattenedBranches branches
  match flat, commonBeginning flat with
  | first :: _, n + 1 =>
    let rests := flat.map fun branch => ofParts (branch.parts.drop (n + 1))
    ofParts (first.parts.take (n + 1) ++ [ofDistinct rests])
  | _, _ => ofDistinct flat

end HydrationPlan.Pattern.Shape
