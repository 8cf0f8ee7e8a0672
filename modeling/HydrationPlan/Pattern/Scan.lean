import HydrationPlan.Text.Blank

/-!
# Scanning patterns

In a verbose pattern blanks are dropped, and so is what stands between a number sign and the end
of its line.
-/

namespace HydrationPlan.Pattern

open Text (isBlank)

def dropBlanks (inComment : Bool) : List Char → List Char
  | [] => []
  | c :: rest =>
    if inComment then dropBlanks (c ≠ '\n') rest
    else if isBlank c then dropBlanks false rest
    else if c = '#' then dropBlanks true rest
    else c :: rest

/-- The rest of a pattern behind blanks and comments. -/
def skipBlanks (verbose : Bool) (text : List Char) : List Char :=
  if verbose then dropBlanks false text else text

/-- What a step of a scan comes to: a new state, or the result. -/
inductive Progress (σ α : Type)
  | next (state : σ)
  | done (result : α)

/-- A scan of at most as many steps as `budget` has characters. -/
def scanWithin {σ α : Type} (step : σ → Char → List Char → Option (Progress σ α × List Char))
    (atEnd : σ → Option α) : (budget : List Char) → σ → List Char → Option (α × List Char)
  | _, state, [] => (atEnd state).map (·, [])
  | [], _, _ :: _ => none
  | _ :: budget, state, c :: text =>
    match step state c text with
    | none => none
    | some (.done result, rest) => some (result, rest)
    | some (.next state, rest) => scanWithin step atEnd budget state rest

/-- Scans a text from a state on. A step is given the next character and what follows it, and
returns what it has not consumed; it consumes at least the character, so that the text itself
bounds the number of steps. `atEnd` is the result where the text ends. -/
def scan {σ α : Type} (step : σ → Char → List Char → Option (Progress σ α × List Char))
    (atEnd : σ → Option α) (state : σ) (text : List Char) : Option (α × List Char) :=
  scanWithin step atEnd text state text

/-- The characters up to a closing brace, and what follows the brace. -/
def braced? (verbose : Bool) (text : List Char) : Option (List Char × List Char) :=
  scan (fun reversed c rest =>
      if c = '}' then some (.done reversed.reverse, rest)
      else some (.next (c :: reversed), skipBlanks verbose rest))
    (fun _ => none) [] (skipBlanks verbose text)

/-- The longest run of characters with a property, and what follows it. -/
def run (verbose : Bool) (p : Char → Bool) (text : List Char) : List Char × List Char :=
  (scan (fun reversed c rest =>
      if p c then some (.next (c :: reversed), skipBlanks verbose rest)
      else some (.done reversed.reverse, c :: rest))
    (fun reversed => some reversed.reverse) [] text).getD ([], text)

end HydrationPlan.Pattern
