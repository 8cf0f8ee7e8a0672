import HydrationPlan.Text.Ranges

/-!
# Character sets in UTF-8

A run of characters splits into sequences of byte runs, such that any choice of a byte from each
run is a character and every character is got once. The sequences of a set are in the order of
their bytes, and none begins with another.
-/

namespace HydrationPlan.Pattern

open Text (Ranges)

abbrev ByteRuns := List (Nat × Nat)

/-- The sequences for the numbers from `low` to `high`, with six bits in each of the `trailing`
bytes and the rest in a leading byte that starts at `lead`. -/
def byteRuns (lead : Nat) : Nat → Nat → Nat → List ByteRuns
  | 0, low, high => [[(lead + low, lead + high)]]
  | trailing + 1, low, high =>
    let block := 1 <<< (6 * (trailing + 1))
    let one := fun n low high =>
      (byteRuns 0x80 trailing low high).map ((lead + n, lead + n) :: ·)
    let first := low / block
    let last := high / block
    if first = last then one first (low % block) (high % block)
    else
      let startsInside := low % block ≠ 0
      let endsInside := high % block ≠ block - 1
      let firstWhole := if startsInside then first + 1 else first
      let pastWhole := if endsInside then last else last + 1
      let whole : List ByteRuns :=
        if firstWhole < pastWhole then
          [(lead + firstWhole, lead + pastWhole - 1) ::
            List.replicate (trailing + 1) (0x80, 0xbf)]
        else []
      (if startsInside then one first (low % block) (block - 1) else []) ++ whole ++
        (if endsInside then one last 0 (high % block) else [])

/-- The parts of the code space with one form of encoding each: the first and the last character,
the number of trailing bytes and the start of the leading byte. Surrogates have no encoding. -/
def encodings : List (Nat × Nat × Nat × Nat) :=
  [(0, 0x7f, 0, 0), (0x80, 0x7ff, 1, 0xc0), (0x800, 0xd7ff, 2, 0xe0), (0xe000, 0xffff, 2, 0xe0),
    (0x10000, 0x10ffff, 3, 0xf0)]

def encode (run : Nat × Nat) : List ByteRuns :=
  encodings.flatMap fun (first, last, trailing, lead) =>
    let low := max run.1 first
    let high := min run.2 last
    if low ≤ high then byteRuns lead trailing low high else []

end HydrationPlan.Pattern
