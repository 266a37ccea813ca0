import Vermyth.Casting.Fallback
import Vermyth.Typescript.CastRows

set_option autoImplicit false

namespace Vermyth.Typescript

open Foundation

abbrev ProjectionBackend := String → String → Except String Json

structure Contradiction where
  severity : Option ContradictionSeverity := none
  reason : Option String := none

structure CompositionEngine where
  table : SigilTable
  contradictions : List (String × Contradiction) := []

structure ResonanceEngine where
  math : VectorMath
  backend : Option ProjectionBackend
  composition : CompositionEngine
  registry : AspectRegistry
  platform : JsPlatform

def reversibilityPressures : ReversibilityClass → List ℚ
  | .irreversible => [8 / 10, -4 / 10, 0, 0, 7 / 10, -3 / 10]
  | .partially => [0, 0, 3 / 10, 2 / 10, 0, 0]
  | .reversible => [-5 / 10, 7 / 10, 0, 0, -4 / 10, 6 / 10]

def sideEffectPressures : SideEffectTolerance → List ℚ
  | .none => [-6 / 10, 6 / 10, 0, 0, -5 / 10, 5 / 10]
  | .low => [-2 / 10, 3 / 10, 0, 3 / 10, -2 / 10, 0]
  | .medium => [0, 0, 2 / 10, 2 / 10, 0, 0]
  | .high => [4 / 10, -3 / 10, 3 / 10, 0, 5 / 10, 0]

def clipComponent (x : ℚ) : ℚ := if 1 < x then 1 else if x < -1 then -1 else x

-- components.reduce((acc, c) => acc + c * c, 0)
def sumOfSquares (components : List ℚ) : ℚ := components.foldl (fun acc c => acc + c * c) 0

def l2Norm (math : VectorMath) (components : List ℚ) : ℚ := math.sqrt (sumOfSquares components)

def unit (math : VectorMath) (components : List ℚ) : List ℚ :=
  let norm := l2Norm math components
  if norm = 0 then components.map fun _ => 0 else components.map fun c => c / norm

def normalizeUnit (math : VectorMath) (registry : AspectRegistry) (components : List ℚ) :
    Except String SemanticVector :=
  createSemanticVector (unit math components) (some registry.basisVersion)

def normalizeForComposition (math : VectorMath) (vector : SemanticVector) : Except String SemanticVector :=
  createSemanticVector (unit math vector.components) vector.basisVersion

def upsampleSemanticVector (vector : SemanticVector) (targetVersion : ℚ) (targetDim : Nat) :
    Except String SemanticVector :=
  createSemanticVector (pad targetDim vector.components) (some (max 0 ⌊targetVersion⌋))

def cosineSimilarity (math : VectorMath) (a b : SemanticVector) : Except String ℚ :=
  let na := l2Norm math a.components
  let nb := l2Norm math b.components
  let dim := max a.components.length b.components.length
  let dot := (List.range dim).foldl (fun dot i => dot + coeff a.components i * coeff b.components i) 0
  let denom := na * nb
  if normalizedBasisVersion a ≠ normalizedBasisVersion b then
    .error ("incompatible basis versions: left=v" ++ toString ⌊normalizedBasisVersion a⌋ ++ " right=v" ++
      toString ⌊normalizedBasisVersion b⌋ ++ "; upsample explicitly first")
  else if na = 0 ∨ nb = 0 then .ok 0
  else if denom = 0 then .ok 0
  else if 1 < dot / denom then .ok 1
  else if dot / denom < -1 then .ok (-1)
  else .ok (dot / denom)

def toFixed (digits : Nat) (value : ℚ) : String :=
  let scaled := ⌊|value| * 10 ^ digits + 1 / 2⌋.toNat
  let fraction := toString (scaled % 10 ^ digits)
  (if value < 0 then "-" else "") ++ toString (scaled / 10 ^ digits) ++ "." ++
    String.ofList (List.replicate (digits - fraction.length) '0') ++ fraction

def jsSpace (c : Char) : Bool :=
  c.toNat ∈ [0x09, 0x0A, 0x0B, 0x0C, 0x0D, 0x20, 0xA0, 0x1680, 0x2000, 0x2001, 0x2002, 0x2003, 0x2004, 0x2005, 0x2006,
    0x2007, 0x2008, 0x2009, 0x200A, 0x2028, 0x2029, 0x202F, 0x205F, 0x3000, 0xFEFF]

def alignmentWord (cosine : ℚ) : String :=
  if 7 / 10 ≤ cosine then "strongly"
  else if 4 / 10 ≤ cosine then "moderately"
  else if 1 / 10 ≤ cosine then "weakly"
  else "opposingly"

def penaltyPhrase : ContradictionSeverity → String
  | .hard => "HARD contradiction penalised -0.40"
  | .soft => "SOFT contradiction penalised -0.18"
  | .none => "no contradiction penalty"

def penaltyOf : ContradictionSeverity → ℚ
  | .hard => 40 / 100
  | .soft => 18 / 100
  | .none => 0

def createIntentVector (vector : SemanticVector) (projectionMethod : ProjectionMethod)
    (constraintComponent : SemanticVector) (semanticComponent : Option SemanticVector) (confidence : ℚ) :
    Except String IntentVector :=
  if projectionMethod = .full ∧ semanticComponent.isNone then
    .error "semantic_component is required when projection_method is FULL"
  else if projectionMethod = .partially ∧ 65 / 100 < confidence then
    .error "confidence must be at most 0.65 when projection_method is PARTIAL"
  else .ok { vector, projectionMethod, constraintComponent, semanticComponent, confidence }

def projectedComponent : Json → Option ℚ
  | .float x => if x < -1 ∨ 1 < x then none else some x
  | _ => none

def projectedComponents : Except String Json → Option (List ℚ)
  | .ok (.arr items) => if items.length < 6 then none else items.mapM projectedComponent
  | _ => none

def combinedComponents (constraint semantic : SemanticVector) : List ℚ :=
  (List.range constraint.components.length).map fun i =>
    coeff constraint.components i * (35 / 100) + coeff semantic.components i * (65 / 100)

def combineVectors (math : VectorMath) (registry : AspectRegistry) (constraint : SemanticVector)
    (semantic : Option SemanticVector) : Except String (SemanticVector × ProjectionMethod × ℚ) :=
  match semantic with
  | none => .ok (constraint, .partially, 6 / 10)
  | some semantic => do
      let combined := combinedComponents constraint semantic
      let norm := l2Norm math combined
      if norm = 0 then return (constraint, .partially, 6 / 10)
      else
        let vector ← createSemanticVector (combined.map fun c => c / norm) (some registry.basisVersion)
        return (vector, .full, 1)

def commonBasis (sigil intent : SemanticVector) : Except String (SemanticVector × SemanticVector × String) :=
  if normalizedBasisVersion sigil = normalizedBasisVersion intent then .ok (sigil, intent, "")
  else do
    let targetBasis := max (normalizedBasisVersion sigil) (normalizedBasisVersion intent)
    let targetDim := max sigil.components.length intent.components.length
    let sigilVec ← upsampleSemanticVector sigil targetBasis targetDim
    let intentVec ← upsampleSemanticVector intent targetBasis targetDim
    return (sigilVec, intentVec, " Basis v" ++ toString ⌊normalizedBasisVersion sigil⌋ ++ " vs v" ++
      toString ⌊normalizedBasisVersion intent⌋ ++ " upsampled to v" ++ toString ⌊targetBasis⌋ ++ ".")

def verdictType (adjusted : ℚ) : VerdictType :=
  if 75 / 100 ≤ adjusted then .coherent else if 45 / 100 ≤ adjusted then .partially else .incoherent

def effectDescription (sigil : Sigil) (verdictType : VerdictType) : String :=
  "Evaluation for " ++ sigil.name ++ " (" ++ verdictType.value ++ ")."

def scoreOf (sigil : Sigil) (cosine : ℚ) (basisNote : String) : ResonanceScore :=
  let rawNorm := (cosine + 1) / 2
  let penalized := max 0 (rawNorm - penaltyOf sigil.contradictionSeverity)
  let adjusted := min penalized sigil.resonanceCeiling
  let ceilingApplied : Bool := adjusted < penalized - 1 / 10 ^ 12
  let ceilDesc := if ceilingApplied then "applied at " ++ toFixed 2 sigil.resonanceCeiling else "not reached"
  { raw := rawNorm, adjusted, ceilingApplied
    proof := "Intent vector aligns " ++ alignmentWord cosine ++ " with " ++ sigil.name ++ " (cosine " ++
      toFixed 3 cosine ++ "); " ++ penaltyPhrase sigil.contradictionSeverity ++ "; ceiling " ++ ceilDesc ++ "." ++
      basisNote }

def computeResonance (math : VectorMath) (sigil : Sigil) (intentVector : IntentVector) :
    Except String (ResonanceScore × ℚ) := do
  let (sigilVec, intentVec, basisNote) ← commonBasis sigil.semanticVector intentVector.vector
  let cosine ← cosineSimilarity math sigilVec intentVec
  return (scoreOf sigil cosine basisNote, cosine)

def zeroVector (registry : AspectRegistry) : SemanticVector where
  components := List.replicate registry.dimensionality 0
  basisVersion := none
  atLeastSix := by
    rw [List.length_replicate]
    exact full_order_six registry

-- What evaluate returns where the evaluation throws.
def fallbackVerdict (registry : AspectRegistry) : Verdict where
  verdictType := .incoherent
  resonance :=
    { raw := 0, adjusted := 0, ceilingApplied := false
      proof := "Intent vector aligns opposingly with sigil (cosine 0.000); no contradiction penalty; " ++
        "ceiling not reached." }
  effectDescription := "Evaluation failed; incoherent fallback."
  incoherenceReason := some "Evaluation raised an unexpected error; incoherent fallback applied."
  castingNote := castingNoteFallback .incoherent
  intentVector :=
    { vector := zeroVector registry, projectionMethod := .partially, constraintComponent := zeroVector registry
      semanticComponent := none, confidence := 6 / 10 }

namespace ResonanceEngine

variable (engine : ResonanceEngine)

def buildConstraintVector (intent : Intent) : Except String SemanticVector :=
  normalizeUnit engine.math engine.registry ((List.range engine.registry.dimensionality).map fun i =>
    clipComponent (coeff (reversibilityPressures intent.reversibility) i +
      coeff (sideEffectPressures intent.sideEffectTolerance) i))

def buildSemanticVector (intent : Intent) : Option SemanticVector := do
  let project ← engine.backend
  let floats ← projectedComponents (project intent.objective intent.scope)
  (normalizeUnit engine.math engine.registry (pad engine.registry.dimensionality floats)).toOption

def buildIntentVector (intent : Intent) : Except String IntentVector := do
  let constraint ← engine.buildConstraintVector intent
  let semantic := engine.buildSemanticVector intent
  let (combined, method, confidence) ← combineVectors engine.math engine.registry constraint semantic
  createIntentVector combined method constraint semantic confidence

def incoherenceReason (sigil : Sigil) (verdictType : VerdictType) (cosine : ℚ) : Option String :=
  let misaligned := "Geometric misalignment between intent projection and sigil semantic vector " ++
    "(cosine " ++ toFixed 3 cosine ++ ")."
  if verdictType = .coherent then none
  else
    match engine.composition.contradictions.lookup (canonicalAspectKey engine.registry sigil.aspects) with
    | none => some misaligned
    | some contradiction =>
        match contradiction.reason with
        | none => some misaligned
        | some reason =>
            if sigil.contradictionSeverity ≠ .none ∧ reason.toList.any (fun c => !jsSpace c) then some reason
            else some misaligned

-- The body of the try block of evaluate. The notes are those of the Python engine,
-- text for text.
def computeVerdict (sigil : Sigil) (intent : Intent) : Except String Verdict := do
  let intentVector ← engine.buildIntentVector intent
  let (resonance, cosine) ← computeResonance engine.math sigil intentVector
  let vt := verdictType resonance.adjusted
  return {
    verdictType := vt, resonance, effectDescription := effectDescription sigil vt
    incoherenceReason := engine.incoherenceReason sigil vt cosine
    castingNote := castingNote vt sigil.effectClass, intentVector }

def evaluate (sigil : Sigil) (intent : Intent) : Verdict :=
  match engine.computeVerdict sigil intent with
  | .ok verdict => verdict
  | .error _ => fallbackVerdict engine.registry

end ResonanceEngine

end Vermyth.Typescript
