/-!
# Shortest decimals

A positive binary number `m · 2^q` stands for every real that rounds to it. Among the decimals in
that interval `shortest` takes one with the fewest digits, and of two such the nearer one; the
caller says which of two equally near ones. All arithmetic is exact: the interval is scaled to
natural numbers first.
-/

namespace HydrationPlan

/-- The number `digits · 10^exponent`. -/
structure Decimal where
  digits : Nat
  exponent : Int
deriving DecidableEq, Repr

/-- Which of two neighbours to take if both are equally near: the even or the greater one. -/
inductive Decimal.Tie
  | even
  | up
deriving DecidableEq, Repr

def Decimal.Tie.takesLower (lower : Nat) : Decimal.Tie → Bool
  | .even => lower % 2 == 0
  | .up => false

/-- The positive number `significand · 2^exponent`. At a power of two the number below is only
half as far away as the number above; `narrow` marks these. -/
structure Binary where
  significand : Nat
  exponent : Int
  narrow : Bool

namespace Binary

/-- The value and both ends of its rounding interval, as numerators over one denominator. -/
structure Interval where
  low : Nat
  value : Nat
  high : Nat
  denominator : Nat
  closed : Bool

/-- The ends belong to the interval exactly if the significand is even. -/
def interval (b : Binary) : Interval :=
  let quarter := b.exponent - 2
  let scale := 1 <<< quarter.toNat
  { low := (4 * b.significand - if b.narrow then 1 else 2) * scale
    value := 4 * b.significand * scale
    high := (4 * b.significand + 2) * scale
    denominator := 1 <<< (-quarter).toNat
    closed := b.significand % 2 == 0 }

end Binary

namespace Binary.Interval

def digitCount (n : Nat) : Nat := (Nat.toDigits 10 n).length

/-- The `e` with `10^(e-1) ≤ value < 10^e`. -/
def magnitude (i : Interval) : Int :=
  if i.denominator ≤ i.value then digitCount (i.value / i.denominator)
  else 1 - digitCount ((i.denominator - 1) / i.value)

/-- All members of the interval as multiples of `10^exponent` over the same denominator. -/
def rescale (i : Interval) (exponent : Int) : Interval :=
  let up := Nat.pow 10 (-exponent).toNat
  { i with
    low := i.low * up
    value := i.value * up
    high := i.high * up
    denominator := i.denominator * Nat.pow 10 exponent.toNat }

def contains (i : Interval) (n : Nat) : Bool :=
  let x := n * i.denominator
  if i.closed then i.low ≤ x && x ≤ i.high else i.low < x && x < i.high

/-- The whole number next to the value that lies in the interval, of two the nearer. -/
def wholeNeighbour (tie : Decimal.Tie) (i : Interval) : Option Nat :=
  let below := i.value / i.denominator
  let above := below + 1
  let toBelow := i.value - below * i.denominator
  let toAbove := above * i.denominator - i.value
  match i.contains below, i.contains above with
  | true, true =>
    let isBelow := toBelow < toAbove || (toBelow == toAbove && tie.takesLower below)
    some (if isBelow then below else above)
  | true, false => some below
  | false, true => some above
  | false, false => none

/-- The first grid, from coarse to fine, with a point in the interval. -/
def firstHit (tie : Decimal.Tie) (i : Interval) : List Int → Decimal
  | [] => ⟨i.value / i.denominator, 0⟩
  | exponent :: finer =>
    match (i.rescale exponent).wholeNeighbour tie with
    | some digits => ⟨digits, exponent⟩
    | none => i.firstHit tie finer

end Binary.Interval

/-- Seventeen digits always suffice for a 53-bit significand. -/
def Binary.shortest (tie : Decimal.Tie) (b : Binary) : Decimal :=
  let i := b.interval
  i.firstHit tie ((List.range 18).map fun (n : Nat) => i.magnitude - n)

end HydrationPlan
