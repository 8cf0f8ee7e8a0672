import HydrationPlan.Pattern.Basic
import HydrationPlan.Pattern.Property.Age
import HydrationPlan.Pattern.Property.Break
import HydrationPlan.Pattern.Property.Script

/-!
# Properties by name

The set of characters that a property names. Names are compared loosely: neither case nor blanks,
hyphens and underscores count, and neither does "is" at the start.
-/

namespace HydrationPlan.Pattern

open Text (Ranges)

def withoutIs : List Char → List Char × Bool
  | a :: b :: rest =>
    if a.toLower = 'i' ∧ b.toLower = 's' then (rest, true) else (a :: b :: rest, false)
  | name => (name, false)

/-- The form of a name in which it is compared. Of `isc` the start is kept: it is the name of
another property, and not of the general category `c`. -/
def looseName (name : String) : String :=
  let (rest, hadIs) := withoutIs name.toList
  let kept := rest.filter fun c => c.toNat < 128 && c != ' ' && c != '_' && c != '-'
  let loose := kept.map Char.toLower
  if hadIs ∧ loose = ['c'] then "isc" else String.ofList loose

/-- A name alone is that of a property that characters have or have not, of a general category or
of a script. -/
def namedSet? (name : String) : Option Ranges :=
  Composed.named? Composed.binary name <|> Listed.named? name <|> Category.named? name <|>
    (Script.named? name).map Script.ranges

def valuedSet? (name value : String) : Option Ranges :=
  match name with
  | "gc" | "generalcategory" => Category.named? value
  | "sc" | "script" => (Script.named? value).map Script.ranges
  | "scx" | "scriptextensions" => (Script.named? value).map Script.extended
  | "age" => Age.named? value
  | "gcb" | "graphemeclusterbreak" => Composed.named? Composed.graphemeBreaks value
  | "wb" | "wordbreak" => Composed.named? Composed.wordBreaks value
  | "sb" | "sentencebreak" => Composed.named? Composed.sentenceBreaks value
  | _ => none

def PropertyQuery.ranges? : PropertyQuery → Option Ranges
  | .named name => namedSet? (looseName name)
  | .valued name value => valuedSet? (looseName name) (looseName value)

end HydrationPlan.Pattern
