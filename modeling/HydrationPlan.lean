import HydrationPlan.Config.Json
import HydrationPlan.Json.Reader
import HydrationPlan.Plan.Compile
import HydrationPlan.Plan.Json
import HydrationPlan.Plan.Text
import HydrationPlan.Schema.Json.Gateway
import HydrationPlan.Proofs.NameKeyed
import HydrationPlan.Proofs.Walk
import HydrationPlan.Proofs.DepthFirst
import HydrationPlan.Proofs.VirtualTypes
import HydrationPlan.Proofs.Assignability.Decision
import HydrationPlan.Proofs.Checked
import HydrationPlan.Proofs.Hydration.ArgumentList
import HydrationPlan.Proofs.Hydration.Backing
import HydrationPlan.Proofs.Hydration.Instruction
import HydrationPlan.Proofs.Hydration.Site
import HydrationPlan.Proofs.Plan.Accounting
import HydrationPlan.Proofs.Plan.Arguments
import HydrationPlan.Proofs.Plan.Pointwise
import HydrationPlan.Proofs.Canonical
import HydrationPlan.Proofs.Notation
import HydrationPlan.Proofs.Notation.Misspelling
import HydrationPlan.Proofs.Follow
import HydrationPlan.Proofs.Path
import HydrationPlan.Proofs.Pruning
import HydrationPlan.Proofs.Hydration.Condition
import HydrationPlan.Proofs.Hydration.Matching
import HydrationPlan.Proofs.Plan.Correlation
import HydrationPlan.Proofs.Plan.Projection
import HydrationPlan.Proofs.Plan.Shapes
import HydrationPlan.Proofs.Hydration.Output
import HydrationPlan.Proofs.Plan.Output
import HydrationPlan.Proofs.Correspondence
import HydrationPlan.Proofs.Schema.Alike
import HydrationPlan.Proofs.Literal.Coercion
import HydrationPlan.Proofs.Literal.Coerced
import HydrationPlan.Proofs.Literal.Normal
import HydrationPlan.Proofs.Literal.Accepted
import HydrationPlan.Proofs.Literal.Assignable
import HydrationPlan.Proofs.Hydration.Alike
import HydrationPlan.Proofs.Plan.Outcome
import HydrationPlan.Proofs.Plan.Order
import HydrationPlan.Proofs.Plan.Replacement
import HydrationPlan.Proofs.Plan.Independence
import HydrationPlan.Proofs.Plan.Expansion
import HydrationPlan.Proofs.Schema.Format.Gateway
import HydrationPlan.Proofs.Declaration
import HydrationPlan.Proofs.Assignability.Violation
import HydrationPlan.Proofs.Hydration.FanOut
import HydrationPlan.Proofs.Plan.FanOut
import HydrationPlan.Proofs.Plan.Containment
import HydrationPlan.Proofs.Path.RoundTrip
import HydrationPlan.Proofs.Eased
import HydrationPlan.Proofs.Assignability.Overrides
import HydrationPlan.Proofs.Hydration.Overrides
import HydrationPlan.Proofs.Plan.Overrides
import HydrationPlan.Proofs.Schema.Related
import HydrationPlan.Proofs.Assignability.Strictness
import HydrationPlan.Proofs.Hydration.Strictness
import HydrationPlan.Proofs.Plan.Strictness
import HydrationPlan.Proofs.Visits
import HydrationPlan.Proofs.Hydration.Source
import HydrationPlan.Proofs.Schema.Build
