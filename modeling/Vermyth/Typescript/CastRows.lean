import Vermyth.Protocol.JsonRoundTrip
import Vermyth.Typescript.Schema

set_option autoImplicit false

namespace Vermyth.Typescript

inductive IsJs : Json → Prop where
  | null : IsJs .null
  | bool (value : Bool) : IsJs (.bool value)
  | number (value : ℚ) : IsJs (.float value)
  | str (text : String) : IsJs (.str text)
  | arr (items : List Json) (each : ∀ item ∈ items, IsJs item) : IsJs (.arr items)
  | obj (fields : List (String × Json)) (keys : (fields.map Prod.fst).Nodup) (each : ∀ field ∈ fields, IsJs field.2) :
      IsJs (.obj fields)

def JsPlatform.Parses (platform : JsPlatform) : Prop :=
  ∀ value, IsJs value → platform.parse (platform.stringify value) = .ok value

-- A row of cast_results.
structure Row where
  castId : String
  timestamp : String
  intentJson : String
  sigilJson : String
  verdictJson : String
  lineageJson : Option String
  glyphSeedId : Option String
  semanticVectorJson : String
  verdictType : String
  effectClass : String
  adjustedResonance : ℚ
  branchId : Option String
  provenanceJson : Option String
  aspectPatternKey : String
  basisVersion : ℚ
  narrativeCoherence : Option ℚ
  causalRootCastId : Option String

def numbers (components : List ℚ) : Json := .arr (components.map .float)

def intentDocument (intent : Intent) : Json :=
  .obj [("objective", .str intent.objective), ("scope", .str intent.scope),
    ("reversibility", .str intent.reversibility.value),
    ("side_effect_tolerance", .str intent.sideEffectTolerance.value)]

def sigilDocument (sigil : Sigil) : Json :=
  .obj [("name", .str sigil.name), ("aspects", .arr (sigil.aspects.map fun aspect => .str aspect.name)),
    ("effect_class", .str sigil.effectClass.name), ("resonance_ceiling", .float sigil.resonanceCeiling),
    ("contradiction_severity", .str sigil.contradictionSeverity.name),
    ("semantic_fingerprint", .str sigil.semanticFingerprint),
    ("semantic_vector", numbers sigil.semanticVector.components),
    ("basis_version", .float (normalizedBasisVersion sigil.semanticVector)), ("polarity", .str sigil.polarity.name)]

def vectorDocument (vector : SemanticVector) : Json :=
  .obj [("components", numbers vector.components), ("basis_version", .float (normalizedBasisVersion vector))]

def resonanceDocument (resonance : ResonanceScore) : Json :=
  .obj [("raw", .float resonance.raw), ("adjusted", .float resonance.adjusted),
    ("ceiling_applied", .bool resonance.ceilingApplied), ("proof", .str resonance.proof)]

def intentVectorDocument (intent : IntentVector) : Json :=
  .obj [("vector", vectorDocument intent.vector), ("projection_method", .str intent.projectionMethod.name),
    ("constraint_component", vectorDocument intent.constraintComponent),
    ("semantic_component", orNull vectorDocument intent.semanticComponent), ("confidence", .float intent.confidence)]

def verdictDocument (verdict : Verdict) : Json :=
  .obj [("verdict_type", .str verdict.verdictType.value), ("resonance", resonanceDocument verdict.resonance),
    ("effect_description", .str verdict.effectDescription),
    ("incoherence_reason", orNull .str verdict.incoherenceReason), ("casting_note", .str verdict.castingNote),
    ("intent_vector", intentVectorDocument verdict.intentVector)]

def lineageDocument (lineage : Lineage) : Json :=
  .obj [("parent_cast_id", .str lineage.parentCastId), ("depth", .float lineage.depth),
    ("branch_id", .str lineage.branchId), ("divergence_vector", orNull vectorDocument lineage.divergenceVector)]

def provenanceDocument (provenance : CastProvenance) : Json :=
  .obj [("source", .str provenance.source.text),
    ("crystallized_sigil_name", orNull .str provenance.crystallizedSigilName),
    ("generation", orNull .float provenance.generation),
    ("narrative_coherence", orNull .float provenance.narrativeCoherence),
    ("causal_root_cast_id", orNull .str provenance.causalRootCastId)]

def serializeCastResultRow (platform : JsPlatform) (registry : AspectRegistry) (result : CastResult) : Row where
  castId := result.castId
  timestamp := platform.toISOString result.timestamp
  intentJson := platform.stringify (intentDocument result.intent)
  sigilJson := platform.stringify (sigilDocument result.sigil)
  verdictJson := platform.stringify (verdictDocument result.verdict)
  lineageJson := result.lineage.map fun lineage => platform.stringify (lineageDocument lineage)
  glyphSeedId := result.glyphSeedId
  semanticVectorJson := platform.stringify (numbers result.sigil.semanticVector.components)
  verdictType := result.verdict.verdictType.value
  effectClass := result.sigil.effectClass.name
  adjustedResonance := result.verdict.resonance.adjusted
  branchId := result.lineage.map Lineage.branchId
  provenanceJson := result.provenance.map fun provenance => platform.stringify (provenanceDocument provenance)
  aspectPatternKey := canonicalAspectKey registry result.sigil.aspects
  basisVersion := normalizedBasisVersion result.sigil.semanticVector
  narrativeCoherence := result.provenance.bind CastProvenance.narrativeCoherence
  causalRootCastId := result.provenance.bind CastProvenance.causalRootCastId

-- value[key]; what is not there is undefined.
def property (value : Json) (key : String) : Option Json :=
  match value with
  | .obj fields => fields.lookup key
  | _ => none

-- The casts of TypeScript check nothing: documents of other shapes than the
-- encoder writes are not followed further.
def badShape {α : Type} (key : String) : Except String α := .error ("unexpected shape: " ++ key)

def textAt (value : Json) (key : String) : Except String String :=
  match property value key with
  | some (.str text) => .ok text
  | _ => badShape key

def numberAt (value : Json) (key : String) : Except String ℚ :=
  match property value key with
  | some (.float number) => .ok number
  | _ => badShape key

def booleanAt (value : Json) (key : String) : Except String Bool :=
  match property value key with
  | some (.bool flag) => .ok flag
  | _ => badShape key

def objectAt (value : Json) (key : String) : Except String Json :=
  match property value key with
  | some (.obj fields) => .ok (.obj fields)
  | _ => badShape key

def textOrNullAt (value : Json) (key : String) : Except String (Option String) :=
  match property value key with
  | some (.str text) => .ok (some text)
  | some .null => .ok none
  | _ => badShape key

def numberOf (key : String) : Json → Except String ℚ
  | .float number => .ok number
  | _ => badShape key

def textOf (key : String) : Json → Except String String
  | .str text => .ok text
  | _ => badShape key

def numbersAt (value : Json) (key : String) : Except String (List ℚ) :=
  match property value key with
  | some (.arr items) => items.mapM (numberOf key)
  | _ => badShape key

def textsAt (value : Json) (key : String) : Except String (List String) :=
  match property value key with
  | some (.arr items) => items.mapM (textOf key)
  | _ => badShape key

def memberAt {α : Type} (members : List α) (name : α → String) (value : Json) (key : String) : Except String α :=
  match (property value key).bind (enum? members name) with
  | some own => .ok own
  | none => badShape key

def pad (dim : Nat) (components : List ℚ) : List ℚ := components ++ List.replicate (dim - components.length) 0

def readIntent (value : Json) : Except String Intent := do
  let objective ← textAt value "objective"
  let scope ← textAt value "scope"
  let reversibility ← memberAt ReversibilityClass.all ReversibilityClass.value value "reversibility"
  let sideEffectTolerance ← memberAt SideEffectTolerance.all SideEffectTolerance.value value "side_effect_tolerance"
  return { objective, scope, reversibility, sideEffectTolerance }

def buildSigil (platform : JsPlatform) (registry : AspectRegistry) (name : String) (aspects : List Aspect)
    (distinct : aspects.Nodup) (effectClass : EffectClass) (resonanceCeiling : ℚ)
    (contradictionSeverity : ContradictionSeverity) : Except String Sigil := do
  let semanticVector ← semanticVectorFromAspects registry aspects
  let semanticFingerprint :=
    platform.sha256Hex (joinPlus ((aspects.map Aspect.name).insertionSort fun a b => a ≤ b))
  return { name, aspects, distinct, effectClass, resonanceCeiling, contradictionSeverity, semanticFingerprint,
           semanticVector, polarity := polarityFromAspects aspects }

def readSigil (platform : JsPlatform) (registry : AspectRegistry) (value : Json) : Except String Sigil := do
  let names ← textsAt value "aspects"
  let resolved ← names.mapM (registry.resolve platform)
  let name ← textAt value "name"
  let effectClass ← memberAt EffectClass.all EffectClass.name value "effect_class"
  let resonanceCeiling ← numberAt value "resonance_ceiling"
  let contradictionSeverity ←
    memberAt ContradictionSeverity.all ContradictionSeverity.name value "contradiction_severity"
  let baseSigil ← buildSigil platform registry name (newSet resolved) (new_set_nodup resolved) effectClass
    resonanceCeiling contradictionSeverity
  let stored ← numbersAt value "semantic_vector"
  let basisVersion ← numberAt value "basis_version"
  let semanticVector ←
    if stored.length = 0 then .ok baseSigil.semanticVector
    else createSemanticVector (pad registry.dimensionality stored) (some basisVersion)
  let semanticFingerprint ← textAt value "semantic_fingerprint"
  return { baseSigil with semanticFingerprint, semanticVector }

def readVector (dim : Nat) (value : Json) : Except String SemanticVector := do
  let components ← numbersAt value "components"
  let basisVersion ← numberAt value "basis_version"
  createSemanticVector (pad dim components) (some basisVersion)

def readResonance (value : Json) : Except String ResonanceScore := do
  let raw ← numberAt value "raw"
  let adjusted ← numberAt value "adjusted"
  let ceilingApplied ← booleanAt value "ceiling_applied"
  let proof ← textAt value "proof"
  return { raw, adjusted, ceilingApplied, proof }

def readOptionalVector (dim : Nat) (value : Json) (key : String) : Except String (Option SemanticVector) :=
  match property value key with
  | some .null => .ok none
  | some own => (readVector dim own).map some
  | none => badShape key

def readIntentVector (dim : Nat) (value : Json) : Except String IntentVector := do
  let vector ← readVector dim (← objectAt value "vector")
  let projectionMethod ← memberAt ProjectionMethod.all ProjectionMethod.name value "projection_method"
  let constraintComponent ← readVector dim (← objectAt value "constraint_component")
  let semanticComponent ← readOptionalVector dim value "semantic_component"
  let confidence ← numberAt value "confidence"
  return { vector, projectionMethod, constraintComponent, semanticComponent, confidence }

def readVerdict (dim : Nat) (value : Json) : Except String Verdict := do
  let verdictType ← memberAt VerdictType.all VerdictType.value value "verdict_type"
  let resonance ← readResonance (← objectAt value "resonance")
  let effectDescription ← textAt value "effect_description"
  let incoherenceReason ← textOrNullAt value "incoherence_reason"
  let castingNote ← textAt value "casting_note"
  let intentVector ← readIntentVector dim (← objectAt value "intent_vector")
  return { verdictType, resonance, effectDescription, incoherenceReason, castingNote, intentVector }

structure ReadCast where
  castId : String
  timestamp : Int
  intent : Intent
  sigil : Sigil
  verdict : Verdict
  lineage : Option Json
  glyphSeedId : Option String
  provenance : Option Json

def parseOrNull (platform : JsPlatform) : Option String → Except String (Option Json)
  | none => .ok none
  | some text => (platform.parse text).map some

def deserializeCastResult (platform : JsPlatform) (registry : AspectRegistry) (row : Row) : Except String ReadCast := do
  let intent ← readIntent (← platform.parse row.intentJson)
  let sigil ← readSigil platform registry (← platform.parse row.sigilJson)
  let verdict ← readVerdict registry.dimensionality (← platform.parse row.verdictJson)
  let lineage ← parseOrNull platform row.lineageJson
  let provenance ← parseOrNull platform row.provenanceJson
  return { castId := row.castId, timestamp := platform.newDate row.timestamp, intent, sigil, verdict, lineage,
           glyphSeedId := row.glyphSeedId, provenance }

end Vermyth.Typescript
