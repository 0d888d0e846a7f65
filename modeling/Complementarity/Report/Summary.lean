import Complementarity.Decimal.Layout
import Complementarity.Run.Status

/-!
The summary of a run as text.
-/

namespace Complementarity

/-- Status, iterations and residual, a line each. -/
def Outcome.text (outcome : Outcome Float) : String :=
  s!"Status: {outcome.status.name}\nIterations: {outcome.iterations}\n" ++
    s!"Residual: {Decimal.scientific outcome.residual}"

end Complementarity
