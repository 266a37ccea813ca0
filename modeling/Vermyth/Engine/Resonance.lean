import Vermyth.Engine.Composition
import Vermyth.Engine.Vectors
import Vermyth.Schema.Policy

set_option autoImplicit false

namespace Vermyth

open Foundation

inductive ProjectionMethod where
  | full
  | partially
deriving DecidableEq, Repr

-- What a projection backend returns of an objective and a scope, or raises.
abbrev ProjectionBackend := String → String → Except PyError Json

structure IntentVector where
  vector : SemanticVector
  projectionMethod : ProjectionMethod
  constraintComponent : SemanticVector
  semanticComponent : Option SemanticVector
  confidence : ℚ

structure ScoredResonance where
  raw : ℚ
  adjusted : ℚ
  ceilingApplied : Bool
  proof : String
  rawInRange : InUnit raw
  adjustedInRange : InUnit adjusted
  proofFits : proof.length ≤ 300

-- schema.Verdict. The casting note and the reason of an incoherence are texts
-- that nothing reads.
structure EvaluatedVerdict where
  verdictType : VerdictType
  resonance : ScoredResonance
  effectDescription : String
  intentVector : IntentVector
  effectFits : effectDescription.length ≤ 300

structure SigilFace where
  name : String
  contradictionSeverity : ContradictionSeverity
  resonanceCeiling : ℚ
  semanticVector : SemanticVector

def ResolvedSigil.face (sigil : ResolvedSigil) : SigilFace where
  name := sigil.name
  contradictionSeverity := sigil.contradictionSeverity
  resonanceCeiling := sigil.resonanceCeiling
  semanticVector := sigil.semanticVector

def reversibilityPressures : ReversibilityClass → List ℚ
  | .irreversible => [8 / 10, -4 / 10, 0, 0, 7 / 10, -3 / 10]
  | .partially => [0, 0, 3 / 10, 2 / 10, 0, 0]
  | .reversible => [-5 / 10, 7 / 10, 0, 0, -4 / 10, 6 / 10]

def sideEffectPressures : SideEffectTolerance → List ℚ
  | .none => [-6 / 10, 6 / 10, 0, 0, -5 / 10, 5 / 10]
  | .low => [-2 / 10, 3 / 10, 0, 3 / 10, -2 / 10, 0]
  | .medium => [0, 0, 2 / 10, 2 / 10, 0, 0]
  | .high => [4 / 10, -3 / 10, 3 / 10, 0, 5 / 10, 0]

def pressureComponents (registry : AspectRegistry) (intent : Intent) : List ℚ :=
  (List.range registry.dimensionality).map fun i =>
    clipComponent (coeff (reversibilityPressures intent.reversibility) i +
      coeff (sideEffectPressures intent.sideEffectTolerance) i)

def buildConstraintVector (math : VectorMath) (registry : AspectRegistry) (intent : Intent) : SemanticVector :=
  normalizeUnit math registry (pressureComponents registry intent) (by
    rw [pressureComponents, List.length_map, List.length_range]
    exact registry.dimensionality_six)

def projectedComponent (item : Json) : Option ℚ :=
  match item.number? with
  | none => none
  | some x => if x < -1 ∨ 1 < x then none else some x

def projectedComponents : Except PyError Json → Option (List ℚ)
  | .ok (.arr items) => if items.length < 6 then none else items.mapM projectedComponent
  | _ => none

def paddedTo (dim : Nat) (components : List ℚ) : List ℚ :=
  components ++ List.replicate (dim - components.length) 0

theorem padded_six (registry : AspectRegistry) (components : List ℚ) :
    6 ≤ (paddedTo registry.dimensionality components).length := by
  have six := registry.dimensionality_six
  rw [paddedTo, List.length_append, List.length_replicate]
  omega

def buildSemanticVector (math : VectorMath) (backend : Option ProjectionBackend) (registry : AspectRegistry)
    (intent : Intent) : Option SemanticVector :=
  match backend with
  | none => none
  | some project =>
      match projectedComponents (project intent.objective intent.scope) with
      | none => none
      | some floats => some (normalizeUnit math registry (paddedTo registry.dimensionality floats)
          (padded_six registry floats))

def combinedComponents (constraint semantic : SemanticVector) : List ℚ :=
  (List.range constraint.components.length).map fun i =>
    coeff constraint.components i * (35 / 100) + coeff semantic.components i * (65 / 100)

def combineVectors (math : VectorMath) (constraint : SemanticVector) (semantic : Option SemanticVector) :
    SemanticVector × ProjectionMethod × ℚ :=
  match semantic with
  | none => (constraint, .partially, 6 / 10)
  | some semantic =>
      if l2Norm math (combinedComponents constraint semantic) = 0 then (constraint, .partially, 6 / 10)
      else
        ({ components := (combinedComponents constraint semantic).map fun c =>
             c / l2Norm math (combinedComponents constraint semantic)
           atLeastSix := by
             rw [List.length_map, combinedComponents, List.length_map, List.length_range]
             exact constraint.atLeastSix },
          .full, 1)

def buildIntentVector (math : VectorMath) (backend : Option ProjectionBackend) (registry : AspectRegistry)
    (intent : Intent) : IntentVector :=
  let constraint := buildConstraintVector math registry intent
  let semantic := buildSemanticVector math backend registry intent
  let (combined, method, confidence) := combineVectors math constraint semantic
  { vector := combined, projectionMethod := method, constraintComponent := constraint,
    semanticComponent := semantic, confidence := confidence }

def alignmentWord (cosine : ℚ) : String :=
  if 7 / 10 ≤ cosine then "strongly"
  else if 4 / 10 ≤ cosine then "moderately"
  else if 1 / 10 ≤ cosine then "weakly"
  else "opposingly"

def penaltyPhrase : ContradictionSeverity → String
  | .hard => "HARD contradiction penalised -0.40"
  | .soft => "SOFT contradiction penalised -0.18"
  | .none => "no contradiction penalty"

def contradictionPenalty : ContradictionSeverity → ℚ
  | .hard => 40 / 100
  | .soft => 18 / 100
  | .none => 0

def commonBasis (sigil intent : SemanticVector) : SemanticVector × SemanticVector × String :=
  if sigil.normalizedBasisVersion = intent.normalizedBasisVersion then (sigil, intent, "")
  else
    let targetBasis := max sigil.normalizedBasisVersion intent.normalizedBasisVersion
    let targetDim := max sigil.components.length intent.components.length
    (upsampleTo sigil targetBasis targetDim, upsampleTo intent targetBasis targetDim,
      " Basis v" ++ toString sigil.normalizedBasisVersion ++ " vs v" ++ toString intent.normalizedBasisVersion ++
        " upsampled to v" ++ toString targetBasis ++ ".")

def penalized (severity : ContradictionSeverity) (cosine : ℚ) : ℚ :=
  max 0 ((cosine + 1) / 2 - contradictionPenalty severity)

def adjustedBy (ceiling penalized : ℚ) : ℚ := min penalized ceiling

def ceilingApplied (ceiling penalized : ℚ) : Bool := adjustedBy ceiling penalized < penalized - 1 / 10 ^ 12

def ceilDesc (ceiling penalized : ℚ) : String :=
  if ceilingApplied ceiling penalized then "applied at " ++ fixedPoint 2 ceiling else "not reached"

def proofText (sigil : SigilFace) (cosine : ℚ) (basisNote : String) : String :=
  "Intent vector aligns " ++ alignmentWord cosine ++ " with " ++ sigil.name ++ " (cosine " ++ fixedPoint 3 cosine ++
    "); " ++ penaltyPhrase sigil.contradictionSeverity ++ "; ceiling " ++
    ceilDesc sigil.resonanceCeiling (penalized sigil.contradictionSeverity cosine) ++ "." ++ basisNote

-- ResonanceScore(...)
def ScoredResonance.make (raw adjusted : ℚ) (ceilingApplied : Bool) (proof : String) :
    Except PyError ScoredResonance :=
  if rawInRange : InUnit raw then
    if adjustedInRange : InUnit adjusted then
      if proofFits : proof.length ≤ 300 then
        .ok { raw, adjusted, ceilingApplied, proof, rawInRange, adjustedInRange, proofFits }
      else .error (invalid "ResonanceScore" "proof")
    else .error (invalid "ResonanceScore" "adjusted")
  else .error (invalid "ResonanceScore" "raw")

def computeResonance (math : VectorMath) (sigil : SigilFace) (intentVector : IntentVector) :
    Except PyError ScoredResonance := do
  let (sigilVec, intentVec, basisNote) := commonBasis sigil.semanticVector intentVector.vector
  let cosine ← cosineSimilarity math sigilVec intentVec
  let pen := penalized sigil.contradictionSeverity cosine
  ScoredResonance.make ((cosine + 1) / 2) (adjustedBy sigil.resonanceCeiling pen)
    (ceilingApplied sigil.resonanceCeiling pen) (proofText sigil cosine basisNote)

def verdictTypeOf (adjusted : ℚ) : VerdictType :=
  if 75 / 100 ≤ adjusted then .coherent else if 45 / 100 ≤ adjusted then .partially else .incoherent

def effectDescription (sigil : SigilFace) (verdictType : VerdictType) : String :=
  "Evaluation for " ++ sigil.name ++ " (" ++ verdictType.value ++ ")."

def evaluateWithIntentVector (math : VectorMath) (sigil : SigilFace) (intentVector : IntentVector) :
    Except PyError EvaluatedVerdict := do
  let resonance ← computeResonance math sigil intentVector
  let verdictType := verdictTypeOf resonance.adjusted
  if effectFits : (effectDescription sigil verdictType).length ≤ 300 then
    return { verdictType, resonance, effectDescription := effectDescription sigil verdictType, intentVector,
             effectFits }
  else throw (invalid "Verdict" "effect_description")

def zeroVector (registry : AspectRegistry) : SemanticVector where
  components := List.replicate registry.dimensionality 0
  atLeastSix := by
    rw [List.length_replicate]
    exact registry.dimensionality_six

def fallbackProof : String :=
  "Intent vector aligns opposingly with sigil (cosine 0.000); no contradiction penalty; ceiling not reached."

-- What evaluate returns where the evaluation raises.
def fallbackVerdict (registry : AspectRegistry) : EvaluatedVerdict where
  verdictType := .incoherent
  resonance :=
    { raw := 0, adjusted := 0, ceilingApplied := false, proof := fallbackProof, rawInRange := zero_in_unit,
      adjustedInRange := zero_in_unit, proofFits := by decide +kernel }
  effectDescription := "Evaluation failed; incoherent fallback."
  intentVector :=
    { vector := zeroVector registry, projectionMethod := .partially, constraintComponent := zeroVector registry,
      semanticComponent := none, confidence := 6 / 10 }
  effectFits := by decide +kernel

def evaluate (math : VectorMath) (backend : Option ProjectionBackend) (registry : AspectRegistry) (sigil : SigilFace)
    (intent : Intent) : EvaluatedVerdict :=
  match evaluateWithIntentVector math sigil (buildIntentVector math backend registry intent) with
  | .ok verdict => verdict
  | .error _ => fallbackVerdict registry

def EvaluatedVerdict.verdict (verdict : EvaluatedVerdict) : Verdict where
  verdictType := verdict.verdictType
  resonance := { adjusted := verdict.resonance.adjusted, inRange := verdict.resonance.adjustedInRange }

end Vermyth
