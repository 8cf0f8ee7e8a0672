/-!
# Patterns

The expressions of regular expression patterns, as written. A pattern is a tree of characters,
character sets, positions, groups, sequences, choices and repetitions; flags change how what
follows them is read and understood.
-/

namespace HydrationPlan.Pattern

inductive Flag
  | ignoreCase
  | multiLine
  | dotMatchesNewline
  | swapGreed
  | unicode
  | carriageReturns
  | verbose
deriving DecidableEq, Repr

/-- The flags that are switched on and those that are switched off, in reverse order. -/
structure FlagChange where
  on : List Flag
  off : List Flag
deriving DecidableEq, Repr

namespace FlagChange

def none : FlagChange := ⟨[], []⟩

def apply (change : FlagChange) (flag : Flag) (before : Bool) : Bool :=
  if flag ∈ change.on then true
  else if flag ∈ change.off then false
  else before

end FlagChange

/-- A single character. Two hexadecimal digits write a byte where the flag `unicode` is off. -/
structure CharLiteral where
  char : Char
  isByte : Bool
deriving DecidableEq, Repr

/-- The sets with a letter of their own: digits, white space and word characters. -/
inductive Shorthand
  | digit
  | space
  | word
deriving DecidableEq, Repr

/-- A property of characters, by its name or by the name and the value. -/
inductive PropertyQuery
  | named (name : String)
  | valued (name value : String)
deriving DecidableEq, Repr

inductive AsciiSet
  | alnum
  | alpha
  | ascii
  | blank
  | cntrl
  | digit
  | graph
  | lower
  | print
  | punct
  | space
  | upper
  | word
  | xdigit
deriving DecidableEq, Repr

inductive SetOperation
  | intersection
  | difference
  | symmetricDifference
deriving DecidableEq, Repr

inductive CharSet
  | empty
  | literal (l : CharLiteral)
  | range (first last : CharLiteral)
  | ascii (set : AsciiSet) (negated : Bool)
  | shorthand (set : Shorthand) (negated : Bool)
  | property (query : PropertyQuery) (negated : Bool)
  | bracketed (negated : Bool) (inner : CharSet)
  | union (parts : List CharSet)
  | combined (operation : SetOperation) (left right : CharSet)

/-- How often something is repeated; without a greatest count, any number of times. -/
structure Count where
  least : Nat
  greatest : Option Nat
deriving DecidableEq, Repr

/-- The positions at the border of a word. -/
inductive WordBorder
  | either
  | neither
  | start
  | ending
  | startHalf
  | endHalf
deriving DecidableEq, Repr

/-- What is matched by a position in the text and not by characters. -/
inductive Position
  | lineStart
  | lineEnd
  | textStart
  | textEnd
  | word (border : WordBorder)
deriving DecidableEq, Repr

/-- A lazy repetition prefers fewer copies. Groups that capture are numbered. -/
inductive Expr
  | flags (change : FlagChange)
  | literal (l : CharLiteral)
  | anyChar
  | position (p : Position)
  | set (s : CharSet)
  | repetition (count : Count) (isLazy : Bool) (inner : Expr)
  | group (capture : Option Nat) (change : FlagChange) (inner : Expr)
  | sequence (parts : List Expr)
  | choice (branches : List Expr)

namespace CharSet

/-- A single part needs no union. -/
def ofParts : List CharSet → CharSet
  | [] => empty
  | [part] => part
  | parts => union parts

mutual

/-- How deep brackets, unions and operations are nested. -/
def depth : CharSet → Nat
  | bracketed _ inner => inner.depth + 1
  | union parts => depths parts + 1
  | combined _ left right => max left.depth right.depth + 1
  | _ => 0

def depths : List CharSet → Nat
  | [] => 0
  | part :: parts => max part.depth (depths parts)

end

end CharSet

namespace Expr

/-- A single part needs no sequence; no part at all is the empty sequence. -/
def ofParts : List Expr → Expr
  | [part] => part
  | parts => sequence parts

def ofBranches : List Expr → Expr
  | [branch] => branch
  | branches => choice branches

mutual

/-- How deep repetitions, groups, sequences, choices and sets are nested. -/
def depth : Expr → Nat
  | set s => s.depth
  | repetition _ _ inner => inner.depth + 1
  | group _ _ inner => inner.depth + 1
  | sequence [] => 0
  | sequence (part :: parts) => max part.depth (depths parts) + 1
  | choice branches => depths branches + 1
  | _ => 0

def depths : List Expr → Nat
  | [] => 0
  | part :: parts => max part.depth (depths parts)

end

end Expr

end HydrationPlan.Pattern
