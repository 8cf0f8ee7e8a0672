import HydrationPlan.Json.Basic

/-!
# Numbers in JSON

A number without fraction and exponent is a whole number while it fits 64 bits. Every other number
is floating: as many leading digits as fit 64 bits, times a power of ten, each step rounded. One
that leaves the finite numbers is refused.
-/

namespace HydrationPlan.Json

def digitValue (c : Char) : Nat := c.toNat - '0'.toNat

/-- Appends digits to a significand as long as it fits 64 bits, and counts the digits left over. -/
def absorb (significand : Nat) : List Char → Nat × Nat
  | [] => (significand, 0)
  | c :: rest =>
    let next := significand * 10 + digitValue c
    if next < UInt64.size then absorb next rest else (significand, rest.length + 1)

def powerOfTen (n : Nat) : Float := Float.ofScientific 1 false n

/-- Division by a power of ten in steps of at most `10^308`. -/
def scaleDown (x : Float) (n : Nat) : Float :=
  if n ≤ 308 then x / powerOfTen n
  else if x == 0 then x
  else scaleDown (x / powerOfTen 308) (n - 308)
termination_by n

/-- There is no number beyond the largest finite one. -/
def scale? (x : Float) (exponent : Int) : Option Float :=
  if exponent < 0 then some (scaleDown x exponent.natAbs)
  else if exponent ≤ 308 then
    let scaled := x * powerOfTen exponent.toNat
    if scaled.isFinite then some scaled else none
  else if x == 0 then some x
  else none

def signed (negative : Bool) (x : Float) : Float := if negative then -x else x

/-- A whole number; zero with a sign is floating. -/
def wholeNumber (negative : Bool) (n : Nat) : Json :=
  if !negative then .int n
  else if 0 < n ∧ n ≤ UInt64.size / 2 then .int (-n)
  else .float (-(UInt64.ofNat n).toFloat)

def number (negative : Bool) (whole fraction : List Char) (exponent : Option Int) : Json :=
  let (head, dropped) := absorb 0 whole
  if fraction.isEmpty && exponent.isNone && dropped == 0 then wholeNumber negative head
  else
    let (significand, unused) := absorb head fraction
    let shift : Int := dropped - (fraction.length - unused : Nat) + exponent.getD 0
    match scale? (UInt64.ofNat significand).toFloat shift with
    | some x => .float (signed negative x)
    | none => .refused

end HydrationPlan.Json
