import HydrationPlan.Gateway
import HydrationPlan.Json.Printer
import HydrationPlan.Json.Reader
import HydrationPlan.Schema.Json.Definition

/-!
# Gateways in JSON

A gateway is loaded from the text of a document and written as one.
-/

namespace HydrationPlan

open Json (record? required defaulted)

namespace Service

def ofJson? (j : Json) : Option Service := do
  let r ← record? ["name", "schema"] j
  let name ← required r "name" Json.asString?
  let schema ← required r "schema" Schema.ofJson?
  pure { name, schema }

def toJson (s : Service) : Json := .obj [("name", .str s.name), ("schema", s.schema.toJson)]

end Service

namespace Gateway

def ofJson? (j : Json) : Option Gateway := do
  let r ← record? ["engine", "services"] j
  let engine ← required r "engine" Schema.ofJson?
  let services ← defaulted r "services" .empty (Json.asTable? Service.ofJson?)
  pure { engine, services }

def toJson (g : Gateway) : Json :=
  .obj [("engine", g.engine.toJson), ("services", Json.ofTable Service.toJson g.services)]

def load? (text : String) : Option Gateway := do
  ofJson? ((← Json.parse? text).within Json.deepest)

def document (g : Gateway) : String := g.toJson.compress

end Gateway

end HydrationPlan
