import HydrationPlan.Pattern.Basic
import HydrationPlan.Text.Ranges

/-!
# Shapes

The shape of a pattern is what it matches, with the flags resolved and the sets spelled out. Shapes
are built in a simple form: neighbouring characters are one text, a choice between characters or
between sets is a set, and what all branches of a choice begin with stands before it.
-/

namespace HydrationPlan.Pattern

open Text (Ranges)

/-- A position with the flags resolved that it depends on. -/
inductive Place
  | textStart
  | textEnd
  | lineStart (carriageReturns : Bool)
  | lineEnd (carriageReturns : Bool)
  | word (border : WordBorder) (unicode : Bool)
deriving DecidableEq, Repr

/-- A set remembers whether it was written with the flag `unicode`. -/
inductive Shape
  | empty
  | text (chars : List Char)
  | set (unicode : Bool) (ranges : Ranges)
  | place (p : Place)
  | repetition (count : Count) (greedy : Bool) (inner : Shape)
  | capture (index : Nat) (inner : Shape)
  | sequence (parts : List Shape)
  | choice (branches : List Shape)

def utf8Length (chars : List Char) : Nat := chars.foldl (fun length c => length + c.utf8Size) 0

namespace Shape

mutual

def same : Shape → Shape → Bool
  | empty, empty => true
  | text a, text b => a == b
  | set u a, set v b => u == v && a == b
  | place p, place q => p == q
  | repetition m f a, repetition n g b => m == n && f == g && same a b
  | capture i a, capture j b => i == j && same a b
  | sequence a, sequence b => sameAll a b
  | choice a, choice b => sameAll a b
  | _, _ => false

def sameAll : List Shape → List Shape → Bool
  | [], [] => true
  | a :: as, b :: bs => same a b && sameAll as bs
  | _, _ => false

end

mutual

/-- The least number of bytes that are matched. None is known where nothing is matched. -/
def minLength : Shape → Option Nat
  | empty | place _ => some 0
  | text chars => some (utf8Length chars)
  | set _ ranges => ranges.head?.map fun run => (Char.ofNat run.1).utf8Size
  | repetition count _ inner => inner.minLength.map (· * count.least)
  | capture _ inner => inner.minLength
  | sequence parts => minLengths parts |>.map List.sum
  | choice branches => minLengths branches |>.bind List.min?

def minLengths : List Shape → Option (List Nat)
  | [] => some []
  | shape :: rest =>
    match minLength shape, minLengths rest with
    | some n, some ns => some (n :: ns)
    | _, _ => none

end

mutual

/-- The greatest number of bytes that are matched, if there is one. -/
def maxLength : Shape → Option Nat
  | empty | place _ => some 0
  | text chars => some (utf8Length chars)
  | set _ ranges => ranges.getLast?.map fun run => (Char.ofNat run.2).utf8Size
  | repetition count _ inner =>
    match inner.maxLength, count.greatest with
    | some n, some k => some (n * k)
    | _, _ => none
  | capture _ inner => inner.maxLength
  | sequence parts => maxLengths parts |>.map List.sum
  | choice branches => maxLengths branches |>.bind List.max?

def maxLengths : List Shape → Option (List Nat)
  | [] => some []
  | shape :: rest =>
    match maxLength shape, maxLengths rest with
    | some n, some ns => some (n :: ns)
    | _, _ => none

end

def onlyEmpty (s : Shape) : Bool := s.maxLength = some 0

mutual

/-- Whether a match can begin only where the text does. -/
def startsText : Shape → Bool
  | place p => p == .textStart
  | repetition count _ inner => 0 < count.least && startsText inner
  | capture _ inner => startsText inner
  | sequence parts => firstStartsText parts
  | choice branches => allStartText branches
  | _ => false

/-- Up to the first part that matches more than the empty text. -/
def firstStartsText : List Shape → Bool
  | [] => false
  | part :: parts => startsText part || (part.onlyEmpty && firstStartsText parts)

def allStartText : List Shape → Bool
  | [] => true
  | branch :: branches => startsText branch && allStartText branches

end

mutual

/-- Whether a match can end only where the text does. -/
def endsText : Shape → Bool
  | place p => p == .textEnd
  | repetition count _ inner => 0 < count.least && endsText inner
  | capture _ inner => endsText inner
  | sequence parts => lastEndsText parts
  | choice branches => allEndText branches
  | _ => false

/-- Back to the last part that matches more than the empty text. -/
def lastEndsText : List Shape → Bool
  | [] => false
  | part :: parts => lastEndsText parts || (parts.all onlyEmpty && endsText part)

def allEndText : List Shape → Bool
  | [] => true
  | branch :: branches => endsText branch && allEndText branches

end

end Shape

end HydrationPlan.Pattern
