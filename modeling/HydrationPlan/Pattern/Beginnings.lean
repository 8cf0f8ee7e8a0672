import HydrationPlan.Pattern.Shape.Basic

/-!
# The texts that matches begin with

A shape whose matches are few short texts is searched by comparing texts, so that no automaton is
needed. The texts are listed in the order in which they are preferred, within fixed limits: beyond
them a text is cut, or the list is given up.
-/

namespace HydrationPlan.Pattern

/-- The bytes that a match begins with, and whether they are the whole match. -/
structure Beginning where
  bytes : List UInt8
  whole : Bool
deriving DecidableEq, Repr

namespace Beginning

def cut (length : Nat) (b : Beginning) : Beginning :=
  if length < b.bytes.length then ⟨b.bytes.take length, false⟩ else b

def opened (b : Beginning) : Beginning := { b with whole := false }

end Beginning

/-- The beginnings of all matches, unless they are too many. -/
abbrev Beginnings := Option (List Beginning)

namespace Beginnings

/-- A set with more characters is not listed. -/
def setLimit : Nat := 10

/-- More copies of a repetition are not looked at. -/
def repetitionLimit : Nat := 10

def lengthLimit : Nat := 100

def countLimit : Nat := 250

def emptyText : Beginnings := some [⟨[], true⟩]

def joinEqual : List Beginning → List Beginning
  | [] => []
  | a :: rest =>
    match joinEqual rest with
    | [] => [a]
    | b :: rest =>
      if a.bytes = b.bytes then ⟨a.bytes, a.whole && b.whole⟩ :: rest else a :: b :: rest

def opened (b : Beginnings) : Beginnings := b.map (·.map Beginning.opened)

/-- Whether no beginning is a whole match, so that nothing behind them counts. -/
def isOpen (b : Beginnings) : Bool := (b.getD []).all fun b => !b.whole

/-- What matches of one shape and then of another begin with. -/
def followedBy (a b : Beginnings) : Beginnings :=
  match a with
  | none => none
  | some as =>
    match b.filter fun bs => as.length * bs.length ≤ countLimit with
    | none => if as.any fun a => a.bytes.isEmpty then none else opened a
    | some bs =>
      let all := as.flatMap fun a =>
        if a.whole then bs.map fun b => ⟨a.bytes ++ b.bytes, b.whole⟩ else [a]
      some ((joinEqual all).map (Beginning.cut lengthLimit))

/-- What matches of one shape or of another begin with. Where there are too many, only their first
bytes are kept. -/
def orElse (a b : Beginnings) : Beginnings :=
  match a, b with
  | some as, some bs =>
    if as.length + bs.length ≤ countLimit then some (joinEqual (as ++ bs))
    else
      let as := joinEqual (as.map (Beginning.cut 4))
      let bs := joinEqual (bs.map (Beginning.cut 4))
      if as.length + bs.length ≤ countLimit then some (joinEqual (as ++ bs)) else none
  | _, _ => none

/-- Copies one after another, as long as a beginning is a whole match. -/
def copies (one : Beginnings) : Nat → Beginnings → Beginnings
  | 0, b => b
  | n + 1, b => if isOpen b then b else copies one n (followedBy b one)

def ofText (chars : List Char) : Beginnings :=
  some [Beginning.cut lengthLimit ⟨chars.flatMap String.utf8EncodeChar, true⟩]

def ofSet (ranges : Text.Ranges) : Beginnings :=
  if setLimit < ranges.foldl (fun size run => size + (run.2 + 1 - run.1)) 0 then none
  else
    some <| ranges.flatMap fun (low, high) =>
      (List.range (high + 1 - low)).map fun i =>
        ⟨String.utf8EncodeChar (Char.ofNat (low + i)), true⟩

def ofRepetition (count : Count) (greedy : Bool) (one : Beginnings) : Beginnings :=
  if count.least = 0 then
    let some' := if count.greatest = some 1 then one else opened one
    if greedy then orElse some' emptyText else orElse emptyText some'
  else
    let all := copies one (min count.least repetitionLimit) emptyText
    if count.greatest = some count.least ∧ count.least ≤ repetitionLimit then all else opened all

end Beginnings

namespace Shape

open Beginnings

mutual

/-- What the matches of a shape begin with. Positions are left out of account. -/
def beginnings : Shape → Beginnings
  | empty | place _ => emptyText
  | text chars => ofText chars
  | set _ ranges => ofSet ranges
  | repetition count greedy inner => ofRepetition count greedy inner.beginnings
  | capture _ inner => inner.beginnings
  | sequence parts => sequenceBeginnings emptyText parts
  | choice branches => choiceBeginnings (some []) branches

def sequenceBeginnings (before : Beginnings) : List Shape → Beginnings
  | [] => before
  | part :: parts =>
    if isOpen before then before
    else sequenceBeginnings (followedBy before part.beginnings) parts

def choiceBeginnings (before : Beginnings) : List Shape → Beginnings
  | [] => before
  | branch :: branches =>
    if before = none then none
    else choiceBeginnings (orElse before branch.beginnings) branches

end

mutual

/-- Whether a shape has neither captures nor positions. -/
def isPlain : Shape → Bool
  | capture _ _ | place _ => false
  | repetition _ _ inner => isPlain inner
  | sequence parts => allPlain parts
  | choice branches => allPlain branches
  | _ => true

def allPlain : List Shape → Bool
  | [] => true
  | shape :: rest => isPlain shape && allPlain rest

end

end Shape

namespace Beginnings

/-- Leaves out what begins with a text that is preferred. -/
def preferred (all : List Beginning) : List Beginning :=
  all.foldl (fun kept b =>
    if kept.any fun k => k.bytes.isPrefixOf b.bytes then kept else kept ++ [b]) []

def commonLength (a b : List UInt8) : Nat :=
  match a, b with
  | x :: a, y :: b => if x = y then commonLength a b + 1 else 0
  | _, _ => 0

def common : List Beginning → List UInt8
  | [] => []
  | first :: rest =>
    rest.foldl (fun bytes b => bytes.take (commonLength bytes b.bytes)) first.bytes

def frequent : List Char := "\n\r (),-./0129:_abcdefghilmnoprstuvxy|".toList

/-- Bytes beyond ASCII count as frequent. -/
def isRare (byte : UInt8) : Bool :=
  byte.toNat < 128 && !frequent.contains (Char.ofNat byte.toNat)

/-- Cuts beginnings that all begin alike: to a rare first byte, if they share little else, or to all
that they share, if that is much. -/
def cutToCommon (written : Nat) (all : List Beginning) : List Beginning :=
  let shared := common all
  let isFew := all.all Beginning.whole && all.length ≤ 16
  if 1 < written ∧ shared.length ≤ 3 ∧ shared.head?.any isRare then
    joinEqual (all.map (Beginning.cut 1))
  else if 4 < shared.length ∨ (1 < shared.length ∧ !isFew) then
    joinEqual (all.map (Beginning.cut shared.length))
  else all

/-- The lengths to which many beginnings are cut, each with the number that is not too many. -/
def cuts : List (Nat × Nat) := [(5, 10), (4, 10), (3, 64), (2, 64), (1, 10)]

def cutMany : List (Nat × Nat) → List Beginning → List Beginning
  | [], all => all
  | (length, enough) :: cuts, all =>
    if all.length ≤ enough then all
    else cutMany cuts (preferred (all.map (Beginning.cut length)))

/-- Whether whole matches are searched as they are: if cutting them does not help, since some are
cut too short or still too many are left. -/
def areSearched (all : List Beginning) : Bool :=
  let fewer := cutMany cuts all
  all.all Beginning.whole &&
    (fewer.all Beginning.whole || (fewer.any fun b => b.bytes.length ≤ 2) || 64 < fewer.length)

end Beginnings

/-- Whether the matches of a shape are searched as texts. -/
def Shape.isTexts (s : Shape) : Bool :=
  s.isPlain &&
    match s.beginnings with
    | none => false
    | some all =>
      let all := Beginnings.joinEqual all
      !all.isEmpty && (all.all fun b => !b.bytes.isEmpty) &&
        Beginnings.areSearched (Beginnings.cutToCommon all.length (Beginnings.preferred all))

end HydrationPlan.Pattern
