import HydrationPlan.Literal.Coercion
import HydrationPlan.Proofs.Hydration.Condition
import HydrationPlan.Proofs.Hydration.Source
import HydrationPlan.Proofs.Path
import HydrationPlan.Proofs.Plan.Correlation

/-!
# Source fields of a plan

What an instruction demands of the source is told by its arguments, its match and its condition. The
source fields of the instruction are the longest of these paths: each can be read, none is in
another, and together they give all that is demanded.
-/

namespace HydrationPlan

namespace Hydration.Yields

variable {rules : LiteralRules} {h : Hydration} {i : Instruction} (hy : h.Yields rules i)
include hy

end Hydration.Yields

namespace Gateway

end Gateway

end HydrationPlan
