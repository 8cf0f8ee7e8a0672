import HydrationPlan.Text.Hex

/-!
# Character ranges

A set of characters is given by the list of its runs of code points. Runs are normal if they are in
increasing order and do not touch; the operations on sets take and return normal runs. Surrogates
are not characters, so that of two runs of characters which they part neither goes on in the other.
-/

namespace HydrationPlan.Text

/-- The runs of a character set, both ends included. -/
abbrev Ranges := List (Nat × Nat)

namespace Ranges

def holds (ranges : Ranges) (n : Nat) : Bool :=
  ranges.any fun (low, high) => low ≤ n && n ≤ high

def contains (ranges : Ranges) (c : Char) : Bool := ranges.holds c.toNat

theorem holds_iff {ranges : Ranges} {n : Nat} :
    ranges.holds n = true ↔ ∃ run ∈ ranges, run.1 ≤ n ∧ n ≤ run.2 := by
  simp [holds]

theorem contains_iff {ranges : Ranges} {c : Char} :
    ranges.contains c = true ↔ ∃ run ∈ ranges, run.1 ≤ c.toNat ∧ c.toNat ≤ run.2 :=
  holds_iff

def single (n : Nat) : Ranges := [(n, n)]

/-- Merges runs that overlap or touch, given in the order of their starts. -/
def merge : Ranges → Ranges
  | (low, high) :: (low', high') :: rest =>
    if low' ≤ high + 1 then merge ((low, max high high') :: rest)
    else (low, high) :: merge ((low', high') :: rest)
  | ranges => ranges
termination_by ranges => ranges.length

def normal (ranges : Ranges) : Ranges := merge (ranges.mergeSort fun a b => a.1 ≤ b.1)

def union (a b : Ranges) : Ranges := normal (a ++ b)

def lastCharacter : Nat := 0x10ffff

def next (n : Nat) : Nat := if n = 0xd7ff then 0xe000 else n + 1

def previous (n : Nat) : Nat := if n = 0xe000 then 0xd7ff else n - 1

/-- The runs between normal runs, from `start` on. Between runs that the surrogates part, where no
character is left, stand the two characters beside them. -/
def gaps (start : Nat) : Ranges → Ranges
  | [] => if start ≤ lastCharacter then [(start, lastCharacter)] else []
  | (low, high) :: rest =>
    let last := previous low
    (if low = 0 then [] else [(min start last, max start last)]) ++ gaps (next high) rest

def complement (ranges : Ranges) : Ranges := gaps 0 ranges

def inter : Ranges → Ranges → Ranges
  | (low, high) :: a, (low', high') :: b =>
    let rest := if high < high' then inter a ((low', high') :: b) else inter ((low, high) :: a) b
    if max low low' ≤ min high high' then (max low low', min high high') :: rest else rest
  | _, _ => []
termination_by a b => a.length + b.length

def diff : Ranges → Ranges → Ranges
  | [], _ => []
  | a, [] => a
  | (low, high) :: a, (low', high') :: b =>
    if high' < low then diff ((low, high) :: a) b
    else if high < low' then (low, high) :: diff a ((low', high') :: b)
    else
      (if low < low' then [(low, previous low')] else []) ++
        if high' < high then diff ((next high', high) :: a) b
        else diff a ((low', high') :: b)
termination_by a b => a.length + b.length

def symmetricDiff (a b : Ranges) : Ranges := diff (union a b) (inter a b)

/-- Every `step`th code point of a run. -/
def progression (low high step : Nat) : Ranges :=
  (List.range ((high - low) / step + 1)).map fun i => (low + i * step, low + i * step)

/-- A word of a written set: `a` is a code point in hexadecimal, `a-b` a run, and `a-b/s` every
`s`th code point of one. -/
def ofWord (word : List Char) : Ranges :=
  let number := fun (digits : List Char) => ofDigits 16 (digits.filterMap hexValue?)
  match word.span (· ≠ '-') with
  | (low, []) => single (number low)
  | (low, _ :: rest) =>
    match rest.span (· ≠ '/') with
    | (high, []) => [(number low, number high)]
    | (high, _ :: step) => progression (number low) (number high) (number step)

/-- The set that a text writes, in words in increasing order. -/
def ofText (text : String) : Ranges :=
  (text.splitToList Char.isWhitespace).flatMap fun word =>
    if word.isEmpty then [] else ofWord word.toList

end Ranges

end HydrationPlan.Text
