import HydrationPlan.Schema.Basic

/-!
# Gateways

A gateway serves one merged schema, its engine, and knows the schema that each service contributed
to it.
-/

namespace HydrationPlan

structure Service where
  name : String
  schema : Schema

def Service.ownsRootField (s : Service) (fieldName : String) : Bool :=
  (s.schema.field? s.schema.queryRoot fieldName).isSome

structure Gateway where
  engine : Schema
  services : Table String Service

namespace Gateway

def ofEngine (engine : Schema) : Gateway := ⟨engine, .empty⟩

instance : Inhabited Gateway := ⟨ofEngine .empty⟩

def service? (g : Gateway) (name : String) : Option Service := g.services.get? name

/-- A service is stored under its own name. -/
def withService (g : Gateway) (s : Service) : Gateway :=
  { g with services := g.services.insert s.name s }

/-- A virtual type is one that the engine has and no service defines. -/
def isVirtual (g : Gateway) (typeName : String) : Bool :=
  !builtinScalars.contains typeName && (g.engine.type? typeName).isSome &&
    !g.services.values.any fun s => (s.schema.type? typeName).isSome

end Gateway

end HydrationPlan
