import HydrationPlan.Plan.Basic

/-!
# Plans as text
-/

namespace HydrationPlan

def ArgumentValue.text : ArgumentValue → String
  | .sourceField path .. => "$source." ++ path.text
  | .fieldArgument name _ none => "$argument." ++ name
  | .fieldArgument name _ (some default) => "$argument." ++ name ++ " = " ++ default.text
  | .static value => value.text
  | .remainingArguments names => "$argument.* [" ++ ", ".intercalate names ++ "]"

def Argument.text (a : Argument) : String :=
  a.name ++ ": " ++ a.backingType.text ++ " <- " ++ a.value.text

def Condition.text (c : Condition) : String :=
  match c.test with
  | .stringEquals value => c.path.text ++ " == " ++ Text.quoted value
  | .intEquals value => c.path.text ++ " == " ++ toString value.toInt
  | .startsWith text => c.path.text ++ " startsWith " ++ Text.quoted text
  | .matchesPattern pattern => c.path.text ++ " matches /" ++ pattern ++ "/"

def Identifier.text (i : Identifier) : String := i.sourceId.text ++ " = " ++ i.resultId

def Matching.text : Matching → String
  | .index => "Index"
  | .identifier id => "ObjectIdentifier(" ++ id.text ++ ")"
  | .identifiers ids =>
    "ObjectIdentifiers(" ++ ", ".intercalate (ids.map Identifier.text) ++ ")"

def FanOut.text : FanOut → String
  | .oneToOne => "OneToOne"
  | .manyToOne argument => "ManyToOne(" ++ argument ++ ")"

def Strategy.text : Strategy → String
  | .single fanOut => "non-batch " ++ fanOut.text
  | .batch matching size => "batch " ++ matching.text ++ ", size " ++ toString size.toNat

namespace Instruction

def headline (i : Instruction) : String :=
  i.location.text ++ " -> " ++ i.target.service ++ "." ++ i.target.path.text ++
    " [" ++ i.strategy.text ++ "]"

def lines (i : Instruction) : List String :=
  [i.headline] ++
  i.arguments.map (fun a => "  arg " ++ a.text) ++
  ["  source fields: " ++ ", ".intercalate (i.sourceFields.map Path.text)] ++
  i.condition.toList.map (fun c => "  when: " ++ c.text) ++
  i.timeoutMillis.toList.map (fun t => "  timeout: " ++ toString t.toNat ++ "ms") ++
  i.virtualTypes.toList.flatMap fun m =>
    m.virtualToBacking.entries.map fun e => "  maps " ++ e.1 ++ " -> " ++ e.2

/-- Every line is ended. -/
def text (i : Instruction) : String := String.join (i.lines.map (· ++ "\n"))

end Instruction

end HydrationPlan
