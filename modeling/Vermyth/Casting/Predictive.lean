import Vermyth.Casting.Lineage

set_option autoImplicit false

namespace Vermyth

open Foundation

namespace CastProcess

variable (process : CastProcess)

def BasisFits : Prop := ∃ value, sqlInteger process.registry.basisVersion = .ok value

end CastProcess

end Vermyth
