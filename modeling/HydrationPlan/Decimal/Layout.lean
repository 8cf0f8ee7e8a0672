import HydrationPlan.Decimal.Shortest

/-!
# Texts of floating-point numbers

A finite number is written with its shortest digits. A layout says which of two equally near
digits is taken, which numbers are written positionally, what follows a whole number, and what
stands before a positive exponent.
-/

namespace HydrationPlan

/-- `point` is the number of digits before the decimal point, which may be negative. -/
structure Decimal.Layout where
  tie : Tie
  positional : (point : Int) → Bool
  wholeSuffix : String
  plus : String

namespace Decimal

def text (layout : Layout) (d : Decimal) : String :=
  let digits := Nat.toDigits 10 d.digits
  let point := d.exponent + digits.length
  if layout.positional point then
    if 0 ≤ d.exponent then
      String.ofList (digits ++ List.replicate d.exponent.toNat '0') ++ layout.wholeSuffix
    else if 0 < point then
      String.ofList (digits.take point.toNat ++ '.' :: digits.drop point.toNat)
    else
      "0." ++ String.ofList (List.replicate (-point).toNat '0' ++ digits)
  else
    let exponent := (if 0 < point then layout.plus else "") ++ toString (point - 1)
    match digits with
    | [] => ""
    | [d] => String.ofList [d] ++ "e" ++ exponent
    | d :: rest => String.ofList (d :: '.' :: rest) ++ "e" ++ exponent

end Decimal

inductive FloatShape
  | notANumber
  | infinite
  | zero
  | finite (magnitude : Binary)

def FloatShape.ofBits (bits : Nat) : FloatShape :=
  let fraction : Nat := bits % (1 <<< 52)
  let biased : Nat := (bits >>> 52) % (1 <<< 11)
  if biased = 2047 then
    if fraction = 0 then .infinite else .notANumber
  else if biased = 0 then
    if fraction = 0 then .zero else .finite ⟨fraction, -1074, false⟩
  else
    .finite ⟨(1 <<< 52) + fraction, (biased : Int) - 1075, fraction == 0 && 1 < biased⟩

def Decimal.Layout.ofFloat (layout : Decimal.Layout) (x : Float) : String :=
  let bits := x.toBits.toNat
  let sign := if bits >>> 63 = 1 then "-" else ""
  match FloatShape.ofBits bits with
  | .notANumber => "NaN"
  | .infinite => sign ++ "inf"
  | .zero => sign ++ "0" ++ layout.wholeSuffix
  | .finite b => sign ++ (b.shortest layout.tie).text layout

end HydrationPlan
