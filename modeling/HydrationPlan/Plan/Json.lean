import HydrationPlan.Json.Printer
import HydrationPlan.Literal.Json
import HydrationPlan.Plan.Basic
import HydrationPlan.Schema.Json.Definition

/-!
# Plans and reports in JSON
-/

namespace HydrationPlan

open Json (memberOf)

def Path.toJson (p : Path) : Json := Json.ofStrings p.segments

/-- A path is written as the list of its segments. -/
def Path.ofJson? (j : Json) : Option Path := do
  match Path.ofSegments (← j.asList? Json.asString?) with
  | .ok p => some p
  | .error _ => none

def Coordinates.toJson (c : Coordinates) : Json :=
  .obj [("typeName", .str c.typeName), ("fieldName", .str c.fieldName)]

def InputShape.toJson (s : InputShape) : Json :=
  .obj
    [("objectType", .str s.objectType), ("inputType", .str s.inputType),
      ("fields", Json.ofStrings s.fields)]

def ArgumentValue.toJson : ArgumentValue → Json
  | .sourceField path sourceType yieldsList shape =>
    .obj <|
      [("kind", .str "sourceField"), ("path", path.toJson), ("sourceType", sourceType.toJson),
        ("yieldsList", .bool yieldsList)] ++
      memberOf "inputShape" InputShape.toJson shape
  | .fieldArgument name type default =>
    .obj <|
      [("kind", .str "virtualFieldArgument"), ("name", .str name),
        ("argumentType", type.toJson)] ++
      memberOf "defaultValue" Literal.toJson default
  | .static value => .obj [("kind", .str "staticValue"), ("value", value.toJson)]
  | .remainingArguments names =>
    .obj [("kind", .str "remainingArguments"), ("names", Json.ofStrings names)]

def Argument.toJson (a : Argument) : Json :=
  .obj
    [("name", .str a.name), ("backingType", a.backingType.toJson), ("value", a.value.toJson)]

def Test.toJson : Test → Json
  | .stringEquals value => .obj [("kind", .str "stringEquals"), ("value", .str value)]
  | .intEquals value => .obj [("kind", .str "intEquals"), ("value", .int value.toInt)]
  | .startsWith text => .obj [("kind", .str "startsWith"), ("value", .str text)]
  | .matchesPattern pattern => .obj [("kind", .str "matches"), ("value", .str pattern)]

def Condition.toJson (c : Condition) : Json :=
  .obj [("path", c.path.toJson), ("predicate", c.test.toJson)]

def Identifier.toJson (i : Identifier) : Json :=
  .obj [("sourceId", i.sourceId.toJson), ("resultId", .str i.resultId)]

def Matching.toJson : Matching → Json
  | .index => .obj [("kind", .str "index")]
  | .identifier id => .obj [("kind", .str "objectIdentifier"), ("identifiers", id.toJson)]
  | .identifiers ids =>
    .obj [("kind", .str "objectIdentifiers"), ("identifiers", .arr (ids.map Identifier.toJson))]

def FanOut.toJson : FanOut → Json
  | .oneToOne => .obj [("kind", .str "oneToOne")]
  | .manyToOne argument =>
    .obj [("kind", .str "manyToOne"), ("inputArgument", .str argument)]

def Target.toJson (t : Target) : Json :=
  .obj
    [("service", .str t.service), ("backingFieldPath", t.path.toJson),
      ("backingFieldCoordinates", t.coordinates.toJson)]

def VirtualTypes.toJson (m : VirtualTypes) : Json :=
  .obj
    [("virtualToBacking", Json.ofTable .str m.virtualToBacking),
      ("backingToVirtual", Json.ofTable .str m.backingToVirtual)]

def Strategy.kind : Strategy → String
  | .single _ => "nonBatch"
  | .batch .. => "batch"

def Strategy.members : Strategy → List (String × Json)
  | .single fanOut => [("strategy", fanOut.toJson)]
  | .batch matching size =>
    [("matchStrategy", matching.toJson), ("batchSize", Json.ofUInt32 size)]

def Instruction.toJson (i : Instruction) : Json :=
  .obj <|
    [("kind", .str i.strategy.kind),
      ("location", i.location.toJson),
      ("target", i.target.toJson),
      ("arguments", .arr (i.arguments.map Argument.toJson)),
      ("sourceFields", .arr (i.sourceFields.map Path.toJson)),
      ("condition", Json.ofOption Condition.toJson i.condition),
      ("timeoutMillis", Json.ofOption Json.ofUInt64 i.timeoutMillis),
      ("virtualTypeMapping", Json.ofOption VirtualTypes.toJson i.virtualTypes)] ++
    i.strategy.members

/-- A plan is written as a list, since its keys are no texts. -/
def Plan.toJson (p : Plan) : Json :=
  .arr (p.fields.entries.map fun e =>
    .obj [("field", e.1.toJson), ("instructions", .arr (e.2.map Instruction.toJson))])

def Plan.document (p : Plan) : String := p.toJson.pretty

def Severity.toJson : Severity → Json
  | .error => .str "Error"
  | .warning => .str "Warning"

def Label.toJson (l : Label) : Json :=
  .obj [("coordinates", l.coordinates.toJson), ("message", .str l.message)]

def Diagnostic.toJson (d : Diagnostic) : Json :=
  .obj
    [("severity", d.severity.toJson), ("code", .str d.code), ("title", .str d.title),
      ("message", Json.ofOption .str d.message), ("labels", .arr (d.labels.map Label.toJson))]

end HydrationPlan
