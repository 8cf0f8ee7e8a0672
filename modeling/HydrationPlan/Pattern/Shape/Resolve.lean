import HydrationPlan.Pattern.Members
import HydrationPlan.Pattern.Shape.Build

/-!
# The shape of an expression

Flags hold for what follows them in their group, over the branches of a choice too. An expression
has no shape if something in it is not permitted under its flags.
-/

namespace HydrationPlan.Pattern

open Text (Ranges)

namespace Mode

def place (mode : Mode) : Position → Place
  | .lineStart => if mode.multiLine then .lineStart mode.carriageReturns else .textStart
  | .lineEnd => if mode.multiLine then .lineEnd mode.carriageReturns else .textEnd
  | .textStart => .textStart
  | .textEnd => .textEnd
  | .word border => .word border mode.unicode

def notAnyChar (mode : Mode) : Ranges :=
  if mode.dotMatchesNewline then []
  else if mode.carriageReturns then [(0x0a, 0x0a), (0x0d, 0x0d)]
  else [(0x0a, 0x0a)]

def anyChar? (mode : Mode) : Option Shape :=
  if mode.unicode then some (.ofRanges true mode.notAnyChar.complement) else none

/-- A single character, or the set of its forms. With the flag `unicode` off a literal byte beyond
ASCII is refused. -/
def literal? (mode : Mode) (l : CharLiteral) : Option Shape :=
  if !mode.unicode ∧ l.isByte ∧ 128 ≤ l.char.toNat then none
  else some (.ofRanges mode.unicode (mode.fold (.single l.char.toNat)))

end Mode

namespace Expr

mutual

/-- The shape of an expression, and the mode behind it. -/
def shape? (mode : Mode) : Expr → Option (Shape × Mode)
  | flags change => some (.empty, mode.change change)
  | literal l => (mode.literal? l).map (·, mode)
  | anyChar => mode.anyChar?.map (·, mode)
  | position p => some (.place (mode.place p), mode)
  | set s => (s.members? mode).map fun ranges => (.ofRanges mode.unicode ranges, mode)
  | repetition count isLazy inner =>
    (shape? mode inner).map fun (s, mode) => (.repeated count (isLazy == mode.swapGreed) s, mode)
  | group capture change inner =>
    (shape? (mode.change change) inner).map fun (s, _) =>
      match capture with
      | some index => (.capture index s, mode)
      | none => (s, mode)
  | sequence parts => (shapes? mode parts).map fun (shapes, mode) => (.ofParts shapes, mode)
  | choice branches =>
    (shapes? mode branches).map fun (shapes, mode) => (.ofBranches shapes, mode)

def shapes? (mode : Mode) : List Expr → Option (List Shape × Mode)
  | [] => some ([], mode)
  | part :: parts =>
    match shape? mode part with
    | none => none
    | some (s, mode) => (shapes? mode parts).map fun (shapes, mode) => (s :: shapes, mode)

end

end Expr

end HydrationPlan.Pattern
