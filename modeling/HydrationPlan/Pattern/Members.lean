import HydrationPlan.Pattern.Property
import HydrationPlan.Text.CaseFolding

/-!
# The members of character sets

What a set holds depends on the flags. With `ignoreCase` it holds all forms of its letters, and what
is negated is taken after that. With the flag `unicode` off a set holds ASCII characters only: one
that may hold others is refused, since it would hold single bytes of their encodings.
-/

namespace HydrationPlan.Pattern

open Text (Ranges)

/-- The flags that change how a pattern is understood. -/
structure Mode where
  ignoreCase : Bool
  multiLine : Bool
  dotMatchesNewline : Bool
  swapGreed : Bool
  unicode : Bool
  carriageReturns : Bool

namespace Mode

/-- At first only `unicode` is on. -/
def start : Mode := ⟨false, false, false, false, true, false⟩

def change (mode : Mode) (change : FlagChange) : Mode :=
  { ignoreCase := change.apply .ignoreCase mode.ignoreCase
    multiLine := change.apply .multiLine mode.multiLine
    dotMatchesNewline := change.apply .dotMatchesNewline mode.dotMatchesNewline
    swapGreed := change.apply .swapGreed mode.swapGreed
    unicode := change.apply .unicode mode.unicode
    carriageReturns := change.apply .carriageReturns mode.carriageReturns }

def fold (mode : Mode) (ranges : Ranges) : Ranges :=
  if !mode.ignoreCase then ranges
  else if mode.unicode then ranges.foldCase
  else ranges.foldAscii

/-- The complement of a set, which may not be taken with the flag `unicode` off. -/
def negate? (mode : Mode) (negated : Bool) (ranges : Ranges) : Option Ranges :=
  if !negated then some ranges
  else if mode.unicode then some ranges.complement
  else none

end Mode

namespace AsciiSet

def ranges : AsciiSet → Ranges
  | alnum => [(0x30, 0x39), (0x41, 0x5a), (0x61, 0x7a)]
  | alpha => [(0x41, 0x5a), (0x61, 0x7a)]
  | ascii => [(0, 0x7f)]
  | blank => [(0x09, 0x09), (0x20, 0x20)]
  | cntrl => [(0, 0x1f), (0x7f, 0x7f)]
  | digit => [(0x30, 0x39)]
  | graph => [(0x21, 0x7e)]
  | lower => [(0x61, 0x7a)]
  | print => [(0x20, 0x7e)]
  | punct => [(0x21, 0x2f), (0x3a, 0x40), (0x5b, 0x60), (0x7b, 0x7e)]
  | space => [(0x09, 0x0d), (0x20, 0x20)]
  | upper => [(0x41, 0x5a)]
  | word => [(0x30, 0x39), (0x41, 0x5a), (0x5f, 0x5f), (0x61, 0x7a)]
  | xdigit => [(0x30, 0x39), (0x41, 0x46), (0x61, 0x66)]

end AsciiSet

/-- Word characters: the alphabetic ones, marks, decimal numbers, connectors and joiners. -/
def wordCharacters : Composed :=
  { names := []
    categories := Category.letters ++ Category.marks ++ [.nl, .nd, .pc]
    listed := [.otherLowercase, .otherUppercase, .otherAlphabetic, .joinControl] }

namespace Shorthand

def ascii : Shorthand → AsciiSet
  | digit => .digit
  | space => .space
  | word => .word

def ranges (mode : Mode) (set : Shorthand) : Ranges :=
  if !mode.unicode then set.ascii.ranges
  else
    match set with
    | digit => Category.nd.ranges
    | space => Listed.whiteSpace.ranges
    | word => wordCharacters.ranges

end Shorthand

namespace CharLiteral

def isMember (mode : Mode) (l : CharLiteral) : Bool := mode.unicode || l.char.toNat < 128

end CharLiteral

namespace SetOperation

def apply : SetOperation → Ranges → Ranges → Ranges
  | intersection => Ranges.inter
  | difference => Ranges.diff
  | symmetricDifference => Ranges.symmetricDiff

end SetOperation

namespace CharSet

mutual

/-- What a set holds; nothing is known of a set with an unknown property. -/
def members? (mode : Mode) : CharSet → Option Ranges
  | empty => some []
  | literal l => if l.isMember mode then some (.single l.char.toNat) else none
  | range first last =>
    if first.isMember mode ∧ last.isMember mode then
      some [(first.char.toNat, last.char.toNat)]
    else none
  | ascii set negated => mode.negate? negated (mode.fold set.ranges)
  | shorthand set negated => mode.negate? negated (set.ranges mode)
  | property query negated =>
    if mode.unicode then query.ranges?.bind fun ranges => mode.negate? negated (mode.fold ranges)
    else none
  | bracketed negated inner =>
    (members? mode inner).bind fun ranges => mode.negate? negated (mode.fold ranges)
  | union parts => (unionMembers? mode parts).map Ranges.normal
  | combined operation left right =>
    match members? mode left, members? mode right with
    | some a, some b => some (operation.apply (mode.fold a) (mode.fold b))
    | _, _ => none

/-- What the parts of a union hold, one after another. -/
def unionMembers? (mode : Mode) : List CharSet → Option Ranges
  | [] => some []
  | part :: parts =>
    match members? mode part, unionMembers? mode parts with
    | some a, some b => some (a ++ b)
    | _, _ => none

end

end CharSet

end HydrationPlan.Pattern
