import HydrationPlan.Declaration.Lowering
import HydrationPlan.Hydration.Output
import HydrationPlan.Plan.Basic

/-!
# Compiling a gateway

Every hydrated field of the engine is compiled on its own. Within a field the first failing check
decides; over all fields every rejection is reported.
-/

namespace HydrationPlan

namespace Site

/-- The declarations of a field: the expansion of its id hydration first. -/
def declarations (s : Site) : Except Rejection (List Declaration) := do
  let expanded ←
    match s.field.idHydrated with
    | none => pure []
    | some h =>
      let typeName := s.field.type.namedType
      match s.engine.defaultHydration? typeName with
      | none => throw (.missingDefaultHydration typeName)
      | some d => pure [← Declaration.ofDefault d h]
  let declared ← s.field.hydrated.mapM Declaration.ofHydrated
  pure (expanded ++ declared)

end Site

def allEqual : List Bool → Bool
  | [] => true
  | b :: rest => rest.all (· == b)

namespace Hydration

def isVirtual (h : Hydration) : Bool :=
  h.site.gateway.isVirtual h.site.field.type.namedType

def virtualTypes? (h : Hydration) : Option VirtualTypes :=
  if h.isVirtual then
    some (h.engine.virtualTypes h.site.field.type.namedType h.backing.field.type.namedType)
  else none

def target (h : Hydration) : Target where
  service := h.backing.service
  path := h.backing.path
  coordinates := ⟨h.backing.parentType, h.backing.field.name⟩

def strategy (h : Hydration) (arguments : List Argument) : Except Rejection Strategy :=
  if h.isBatch then
    (Matching.resolve h.site h.declaration arguments).map fun matching =>
      .batch matching (h.declaration.batchSize.getD h.site.config.defaultBatchSize)
  else (FanOut.resolve h.site.field.type arguments).map .single

def condition (h : Hydration) (arguments : List Argument) :
    Except Rejection (Option Condition) :=
  match h.declaration.condition with
  | none => .ok none
  | some w =>
    (Condition.resolve h.site w (if h.isBatch then batchKey? arguments else none)).map some

def instruction (rules : LiteralRules) (h : Hydration) : Checked Instruction := do
  let arguments ← h.resolveArguments rules
  let condition ← h.condition arguments
  let strategy ← h.strategy arguments
  h.site.gateway.checkOutput h.site.field.type h.backing.field.type
  pure
    { location := h.site.coordinates
      target := h.target
      arguments := arguments
      sourceFields :=
        h.engine.sourcePaths arguments strategy.matching? (condition.map (·.path))
      condition := condition
      timeoutMillis := h.declaration.timeoutMillis <|> h.site.config.defaultTimeoutMillis
      virtualTypes := h.virtualTypes?
      strategy := strategy }

def ignoredOption (h : Hydration) (code option : String) : Diagnostic :=
  ((Diagnostic.ofWarning code s!"ignored {option}").withMessage
    s!"`{h.backing.path.text}` is not a batch field; {option} has no effect").labelled
      h.site.coordinates "declared here"

/-- Options that only a batched field has a use for. -/
def warnings (h : Hydration) : List Diagnostic :=
  if h.isBatch then []
  else
    (if h.declaration.batchSize.isSome then [h.ignoredOption "W0001" "batchSize"] else []) ++
      if h.declaration.indexed then [h.ignoredOption "W0002" "indexed"] else []

end Hydration

structure CompiledField where
  instructions : List Instruction
  warnings : List Diagnostic

namespace Site

/-- The hydrations of a field, if its declarations agree with each other and with its type. -/
def hydrations (s : Site) : Except Rejection (List Hydration) := do
  let declarations ← s.declarations
  let declared := s.field.type
  if !declared.isNullable then throw (.mustBeNullable declared.text)
  if 1 < declarations.length && !s.engine.isUnion declared.namedType then
    throw (.polymorphicMustOutputUnion declared.text)
  if !allEqual (declarations.map (·.condition.isSome)) then throw .mixedConditionUsage
  if !allEqual (declarations.map (·.indexed)) then throw .mixedIndexUsage
  let hydrations ← declarations.mapM fun d => do pure ⟨s, d, ← Backing.resolve s.gateway d⟩
  if !allEqual (hydrations.map Hydration.isBatch) then throw .mixedBatchUsage
  pure hydrations

def compile (rules : LiteralRules) (s : Site) : Checked CompiledField := do
  let hydrations ← s.hydrations
  let instructions ← hydrations.mapM (Hydration.instruction rules)
  pure ⟨instructions, hydrations.flatMap Hydration.warnings⟩

end Site

namespace Gateway

/-- The hydrated fields of the engine, in schema order. -/
def sites (g : Gateway) (config : Config) : List Site :=
  g.engine.types.keys.flatMap fun typeName =>
    match g.engine.fieldsOf? typeName with
    | none => []
    | some fields =>
      (fields.values.filter Field.isHydrated).map fun field => ⟨g, config, typeName, field⟩

end Gateway

structure Compilation where
  plan : Plan
  rejections : List FieldRejection
  report : Report

namespace Compilation

def empty : Compilation := ⟨.empty, [], .empty⟩

def isOk (c : Compilation) : Bool := !c.report.hasErrors

def accept (c : Compilation) (coordinates : Coordinates) (f : CompiledField) : Compilation :=
  { c with
    plan := c.plan.insert coordinates f.instructions
    report := c.report.addAll f.warnings }

def reject (c : Compilation) (r : FieldRejection) : Compilation :=
  { c with
    rejections := c.rejections ++ [r]
    report := c.report.add r.diagnostic }

/-- Adds the outcome of one field. An input that cannot be shaped ends the compilation. -/
def addSite (rules : LiteralRules) (c : Compilation) (s : Site) : Except ShapeGap Compilation :=
  match s.compile rules with
  | .ok f => .ok (c.accept s.coordinates f)
  | .error (.rejected cause) => .ok (c.reject ⟨s.coordinates, cause⟩)
  | .error (.gap gap) => .error gap

def result (c : Compilation) : Except (List FieldRejection) Plan :=
  if c.rejections.isEmpty then .ok c.plan else .error c.rejections

def failureMessage (rejections : List FieldRejection) : String :=
  s!"hydration compilation failed with {rejections.length} error(s)"

end Compilation

namespace Gateway

def compile (g : Gateway) (config : Config) (rules : LiteralRules) :
    Except ShapeGap Compilation :=
  (g.sites config).foldlM (Compilation.addSite rules) .empty

end Gateway

end HydrationPlan
