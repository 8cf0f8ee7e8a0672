import HydrationPlan.Config
import HydrationPlan.Declaration.Basic
import HydrationPlan.Gateway
import HydrationPlan.Rejection
import HydrationPlan.Schema.Follow

/-!
# Hydrations in place

A field that is hydrated, where it stands in the gateway, and the field that backs one of its
declarations.
-/

namespace HydrationPlan

/-- A hydrated field and the type that declares it. -/
structure Site where
  gateway : Gateway
  config : Config
  parentType : String
  field : Field

namespace Site

def engine (s : Site) : Schema := s.gateway.engine

def coordinates (s : Site) : Coordinates := ⟨s.parentType, s.field.name⟩

def sourceField? (s : Site) (path : Path) : Option Reached :=
  s.engine.follow? s.parentType path.segments

end Site

/-- The field of a service that provides the value. -/
structure Backing where
  service : String
  parentType : String
  field : Field
  path : Path

namespace Backing

/-- A batched field takes many keys at once and returns a list. -/
def isBatch (b : Backing) : Bool :=
  b.field.type.isList && b.field.arguments.values.any (·.type.isList)

/-- The service must declare the first segment on its query root; the path is followed in the
engine. -/
def resolve (g : Gateway) (d : Declaration) : Except Rejection Backing :=
  match g.service? d.service with
  | none => .error (.serviceNotFound d.service)
  | some service =>
    let notFound : Except Rejection Backing :=
      .error (.backingFieldNotFound d.service d.backingPath.text)
    if service.ownsRootField d.backingPath.first then
      match g.engine.locate? g.engine.queryRoot d.backingPath.segments with
      | some (parentType, field) => .ok ⟨service.name, parentType, field, d.backingPath⟩
      | none => notFound
    else notFound

end Backing

/-- One declaration of a field with its backing field. -/
structure Hydration where
  site : Site
  declaration : Declaration
  backing : Backing

namespace Hydration

def isBatch (h : Hydration) : Bool := h.backing.isBatch

def engine (h : Hydration) : Schema := h.site.engine

end Hydration

end HydrationPlan
