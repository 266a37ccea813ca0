import Vermyth.Casting.BasisMismatch
import Vermyth.Engine.DecisionReplay
import Vermyth.Engine.DivergenceLaws
import Vermyth.Engine.Progress

set_option autoImplicit false

namespace Vermyth

open Foundation

def zeros : List ℚ := [0, 0, 0, 0, 0, 0]

end Vermyth
