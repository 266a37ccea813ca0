import Mathlib.Data.List.MinMax
import Vermyth.Grimoire.Seeds

set_option autoImplicit false

namespace Vermyth

open Foundation

-- A row of crystallized_sigils, with sigil_json as its fields. The set is
-- walked alike for sigil_json and for aspect_pattern_json.
structure CrystallizedRow where
  name : String
  sigilName : String
  aspects : AspectSet
  effectClass : EffectClass
  resonanceCeiling : ℚ
  contradictionSeverity : ContradictionSeverity
  components : List ℚ
  componentsLength : 6 ≤ components.length
  sourceSeedId : String
  crystallizedAt : Datetime
  generation : Nat
  basisVersion : Nat

def CrystallizedRow.aspectPatternJson (row : CrystallizedRow) : List Char := namesJson row.aspects.names

abbrev CrystallizedTable := Table CrystallizedRow.name

def serializeCrystallizedSigil (crystal : CrystallizedSigil) : CrystallizedRow where
  name := crystal.name
  sigilName := crystal.sigil.name
  aspects := crystal.sigil.aspects
  effectClass := crystal.sigil.effectClass
  resonanceCeiling := crystal.sigil.resonanceCeiling
  contradictionSeverity := crystal.sigil.contradictionSeverity
  components := crystal.sigil.semanticVector.components
  componentsLength := crystal.sigil.semanticVector.atLeastSix
  sourceSeedId := crystal.sourceSeedId
  crystallizedAt := crystal.crystallizedAt
  generation := crystal.generation
  basisVersion := crystal.sigil.semanticVector.normalizedBasisVersion

def restoredSigil (order : SetOrder) (row : CrystallizedRow) : CrystallizedSigil where
  name := row.name
  sigil := { name := row.sigilName, aspects := row.aspects.rebuild order, effectClass := row.effectClass,
             resonanceCeiling := row.resonanceCeiling, contradictionSeverity := row.contradictionSeverity,
             semanticVector := { components := row.components, basisVersion := some row.basisVersion,
                                 atLeastSix := row.componentsLength } }
  sourceSeedId := row.sourceSeedId
  crystallizedAt := row.crystallizedAt
  generation := row.generation

def deserializeCrystallizedSigil (registry : AspectRegistry) (order : SetOrder) (row : CrystallizedRow) :
    Except PyError CrystallizedSigil := do
  let _ ← resolveNames registry row.aspects.names
  return restoredSigil order row

def writeCrystallizedSigil (crystal : CrystallizedSigil) (table : CrystallizedTable) :
    Except PyError CrystallizedTable := do
  let _ ← sqlInteger crystal.generation
  let _ ← sqlInteger crystal.sigil.semanticVector.normalizedBasisVersion
  return table.put (serializeCrystallizedSigil crystal)

-- WHERE aspect_pattern_json = ? ORDER BY generation DESC LIMIT 1
def selectCrystallized (aspects : AspectSet) (table : CrystallizedTable) : Option CrystallizedRow :=
  (table.rows.filter fun row => row.aspectPatternJson = namesJson aspects.names).argmax CrystallizedRow.generation

def crystallizedForAspects (registry : AspectRegistry) (order : SetOrder) (aspects : AspectSet)
    (table : CrystallizedTable) : Except PyError (Option CrystallizedSigil) :=
  match selectCrystallized aspects table with
  | none => .ok none
  | some row => (deserializeCrystallizedSigil registry order row).map some

end Vermyth
