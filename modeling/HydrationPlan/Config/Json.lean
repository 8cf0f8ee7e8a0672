import HydrationPlan.Config
import HydrationPlan.Json.Record

/-!
# Configuration in JSON

Every member may be absent; it then has its standard value.
-/

namespace HydrationPlan

open Json (record? required optional defaulted)

namespace EnumOverride

def ofJson? (j : Json) : Option EnumOverride := do
  let r ← record? ["supplied", "required"] j
  let supplied ← Json.required r "supplied" Json.asString?
  let required ← Json.required r "required" Json.asString?
  pure ⟨supplied, required⟩

def toJson (o : EnumOverride) : Json :=
  .obj [("supplied", .str o.supplied), ("required", .str o.required)]

end EnumOverride

namespace Config

def fieldNames : List String :=
  ["enumCompatibilityOverrides", "parallel", "defaultBatchSize", "defaultTimeoutMillis"]

def ofJson? (j : Json) : Option Config := do
  let r ← record? fieldNames j
  let enumOverrides ←
    defaulted r "enumCompatibilityOverrides" standard.enumOverrides
      (Json.asList? EnumOverride.ofJson?)
  let parallel ← defaulted r "parallel" standard.parallel Json.asBool?
  let defaultBatchSize ← defaulted r "defaultBatchSize" standard.defaultBatchSize Json.asUInt32?
  let defaultTimeoutMillis ← optional r "defaultTimeoutMillis" Json.asUInt64?
  pure { enumOverrides, parallel, defaultBatchSize, defaultTimeoutMillis }

def toJson (c : Config) : Json :=
  .obj
    [("enumCompatibilityOverrides", .arr (c.enumOverrides.map EnumOverride.toJson)),
      ("parallel", .bool c.parallel),
      ("defaultBatchSize", .int c.defaultBatchSize.toNat),
      ("defaultTimeoutMillis", Json.ofOption (fun n => .int n.toNat) c.defaultTimeoutMillis)]

end Config

end HydrationPlan
