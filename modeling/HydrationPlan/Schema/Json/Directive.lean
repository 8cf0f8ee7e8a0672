import HydrationPlan.Json.Record
import HydrationPlan.Literal.Json
import HydrationPlan.Schema.Directive

/-!
# Directives in JSON

Reading fails without saying why: a document either has the shape of a directive or not. Writing
leaves out optional values that are absent.
-/

namespace HydrationPlan

open Json (record? required optional defaulted memberOf)

namespace ArgumentBinding

def ofJson? (j : Json) : Option ArgumentBinding := do
  let r ← record? ["name", "value"] j
  let name ← required r "name" Json.asString?
  let value ← required r "value" Literal.ofJson?
  pure ⟨name, value⟩

def toJson (a : ArgumentBinding) : Json :=
  .obj [("name", .str a.name), ("value", a.value.toJson)]

end ArgumentBinding

namespace IdentifierPair

def ofJson? (j : Json) : Option IdentifierPair := do
  let r ← record? ["sourceId", "resultId"] j
  let sourceId ← required r "sourceId" Json.asString?
  let resultId ← required r "resultId" Json.asString?
  pure ⟨sourceId, resultId⟩

def toJson (p : IdentifierPair) : Json :=
  .obj [("sourceId", .str p.sourceId), ("resultId", .str p.resultId)]

end IdentifierPair

namespace Predicate

/-- A predicate is an object with one member, named for its kind. -/
def ofJson? : Json → Option Predicate
  | .obj [("equals", j)] => (Literal.ofJson? j).map .equals
  | .obj [("startsWith", j)] => j.asString?.map .startsWith
  | .obj [("matches", j)] => j.asString?.map .matchesPattern
  | _ => none

def toJson : Predicate → Json
  | .equals value => .obj [("equals", value.toJson)]
  | .startsWith text => .obj [("startsWith", .str text)]
  | .matchesPattern pattern => .obj [("matches", .str pattern)]

end Predicate

namespace When

def resultOfJson? (j : Json) : Option When := do
  let r ← record? ["sourceField", "predicate"] j
  let sourceField ← required r "sourceField" Json.asString?
  let predicate ← required r "predicate" Predicate.ofJson?
  pure ⟨sourceField, predicate⟩

def ofJson? (j : Json) : Option When := do
  let r ← record? ["result"] j
  required r "result" resultOfJson?

def toJson (w : When) : Json :=
  .obj [("result", .obj [("sourceField", .str w.sourceField), ("predicate", w.predicate.toJson)])]

end When

def Json.ofUInt32 (n : UInt32) : Json := .int n.toNat

def Json.ofUInt64 (n : UInt64) : Json := .int n.toNat

namespace Hydrated

def fieldNames : List String :=
  ["service", "field", "arguments", "identifiedBy", "inputIdentifiedBy", "indexed", "batchSize",
    "timeout", "when"]

def ofJson? (j : Json) : Option Hydrated := do
  let r ← record? fieldNames j
  let service ← required r "service" Json.asString?
  let field ← required r "field" Json.asString?
  let arguments ← defaulted r "arguments" [] (Json.asList? ArgumentBinding.ofJson?)
  let identifiedBy ← optional r "identifiedBy" Json.asString?
  let inputIdentifiedBy ←
    defaulted r "inputIdentifiedBy" [] (Json.asList? IdentifierPair.ofJson?)
  let indexed ← defaulted r "indexed" false Json.asBool?
  let batchSize ← optional r "batchSize" Json.asUInt32?
  let timeout ← optional r "timeout" Json.asUInt64?
  let condition ← optional r "when" When.ofJson?
  pure { service, field, arguments, identifiedBy, inputIdentifiedBy, indexed, batchSize, timeout,
         condition }

def toJson (h : Hydrated) : Json :=
  .obj <|
    [("service", .str h.service), ("field", .str h.field),
      ("arguments", .arr (h.arguments.map ArgumentBinding.toJson))] ++
    memberOf "identifiedBy" .str h.identifiedBy ++
    (if h.inputIdentifiedBy.isEmpty then []
      else [("inputIdentifiedBy", .arr (h.inputIdentifiedBy.map IdentifierPair.toJson))]) ++
    [("indexed", .bool h.indexed)] ++
    memberOf "batchSize" Json.ofUInt32 h.batchSize ++
    memberOf "timeout" Json.ofUInt64 h.timeout ++
    memberOf "when" When.toJson h.condition

end Hydrated

namespace DefaultHydration

def fieldNames : List String :=
  ["service", "field", "idArgument", "identifiedBy", "batchSize", "timeout"]

def ofJson? (j : Json) : Option DefaultHydration := do
  let r ← record? fieldNames j
  let service ← required r "service" Json.asString?
  let field ← required r "field" Json.asString?
  let idArgument ← required r "idArgument" Json.asString?
  let identifiedBy ← optional r "identifiedBy" Json.asString?
  let batchSize ← optional r "batchSize" Json.asUInt32?
  let timeout ← optional r "timeout" Json.asUInt64?
  pure { service, field, idArgument, identifiedBy, batchSize, timeout }

def toJson (d : DefaultHydration) : Json :=
  .obj <|
    [("service", .str d.service), ("field", .str d.field), ("idArgument", .str d.idArgument)] ++
    memberOf "identifiedBy" .str d.identifiedBy ++
    memberOf "batchSize" Json.ofUInt32 d.batchSize ++
    memberOf "timeout" Json.ofUInt64 d.timeout

end DefaultHydration

namespace IdHydrated

def ofJson? (j : Json) : Option IdHydrated := do
  let r ← record? ["idField", "identifiedBy"] j
  let idField ← required r "idField" Json.asString?
  let identifiedBy ← optional r "identifiedBy" Json.asString?
  pure ⟨idField, identifiedBy⟩

def toJson (h : IdHydrated) : Json :=
  .obj (("idField", .str h.idField) :: memberOf "identifiedBy" .str h.identifiedBy)

end IdHydrated

end HydrationPlan
