import Vermyth.Casting.Store
import Vermyth.Schema.Documents

set_option autoImplicit false

namespace Vermyth

open Foundation

-- What the rows of casts rest on outside the repository: how json and pydantic
-- print and read a float, float(), str(), and how pydantic reads a scalar.
structure CastCodec where
  floatRepr : ℚ → String
  readFloat : List Char → Option ℚ
  pydanticRepr : ℚ → String
  pydanticRead : List Char → Option ℚ
  coerce : Coercions
  pyFloat : Json → Except PyError ℚ
  pyStr : Json → String

structure CastCodec.Standard (codec : CastCodec) : Prop where
  json : FloatText codec.floatRepr codec.readFloat
  pydantic : FloatText codec.pydanticRepr codec.pydanticRead
  keeps : codec.coerce.Keeps
  float : ∀ value, codec.pyFloat (.float value) = .ok value
  str : ∀ text, codec.pyStr (.str text) = text

def ProjectionMethod.all : List ProjectionMethod := [.full, .partially]

def ProjectionMethod.name : ProjectionMethod → String
  | .full => "FULL"
  | .partially => "PARTIAL"

def VerdictType.all : List VerdictType := [.coherent, .partially, .incoherent]

def ContradictionSeverity.all : List ContradictionSeverity := [.none, .soft, .hard]

structure IntentVector.Valid (intent : IntentVector) : Prop where
  confidence : InUnit intent.confidence
  full : intent.projectionMethod = .full → intent.semanticComponent.isSome = true
  part : intent.projectionMethod = .partially → intent.confidence ≤ 65 / 100

def IntentVector.make (intent : IntentVector) : Except PyError { own : IntentVector // own.Valid } :=
  if confidence : InUnit intent.confidence then
    if full : intent.projectionMethod = .full → intent.semanticComponent.isSome = true then
      if part : intent.projectionMethod = .partially → intent.confidence ≤ 65 / 100 then
        .ok ⟨intent, ⟨confidence, full, part⟩⟩
      else .error (invalid "IntentVector" "")
    else .error (invalid "IntentVector" "")
  else .error (invalid "IntentVector" "confidence")

structure FluidParts where
  sourceVector : SemanticVector
  nearestCanonical : String
  interpolationWeights : List (String × ℚ)

-- schema.Sigil and schema.FluidSigil, with all their fields.
structure WholeSigil extends ResolvedSigil where
  semanticFingerprint : String
  polarity : Polarity
  fluid : Option FluidParts := none

-- schema.Verdict, with all its fields.
structure WholeVerdict extends EvaluatedVerdict where
  incoherenceReason : Option String
  castingNote : String
  noteFits : castingNote.length ≤ 200
  intentVectorValid : intentVector.Valid

-- schema.CastResult, with all its fields.
structure WholeCast where
  castId : String
  timestamp : Datetime
  intent : BoundedIntent
  sigil : WholeSigil
  verdict : WholeVerdict
  lineage : Option Lineage := none
  glyphSeedId : Option String := none
  provenance : Option CastProvenance := none

-- A row of cast_results.
structure CastRow where
  castId : String
  timestamp : List Char
  intentJson : List Char
  sigilJson : List Char
  verdictJson : List Char
  lineageJson : Option (List Char)
  glyphSeedId : Option String
  semanticVectorJson : List Char
  verdictType : String
  effectClass : String
  adjustedResonance : ℚ
  branchId : Option String
  provenanceJson : Option (List Char)
  aspectPatternKey : String
  basisVersion : Option Int
  narrativeCoherence : Option ℚ
  causalRootCastId : Option String

def SemanticVector.document (vector : SemanticVector) : Json :=
  .obj [("components", .arr (vector.components.map .float)), ("basis_version", .int vector.normalizedBasisVersion)]

def IntentVector.document (intent : IntentVector) : Json :=
  .obj [("vector", intent.vector.document), ("projection_method", .str intent.projectionMethod.name),
    ("constraint_component", intent.constraintComponent.document),
    ("semantic_component", orNull SemanticVector.document intent.semanticComponent),
    ("confidence", .float intent.confidence)]

def ScoredResonance.document (resonance : ScoredResonance) : Json :=
  .obj [("raw", .float resonance.raw), ("adjusted", .float resonance.adjusted),
    ("ceiling_applied", .bool resonance.ceilingApplied), ("proof", .str resonance.proof)]

def WholeVerdict.document (verdict : WholeVerdict) : Json :=
  .obj [("verdict_type", .str verdict.verdictType.value), ("resonance", verdict.resonance.document),
    ("effect_description", .str verdict.effectDescription),
    ("incoherence_reason", orNull .str verdict.incoherenceReason), ("casting_note", .str verdict.castingNote),
    ("intent_vector", verdict.intentVector.document)]

def WholeSigil.document (sigil : WholeSigil) : Json :=
  .obj [("name", .str sigil.name), ("aspects", .arr (sigil.aspects.names.map .str)),
    ("effect_class", .str sigil.effectClass.name), ("resonance_ceiling", .float sigil.resonanceCeiling),
    ("contradiction_severity", .str sigil.contradictionSeverity.name),
    ("semantic_fingerprint", .str sigil.semanticFingerprint),
    ("semantic_vector", .arr (sigil.semanticVector.components.map .float)),
    ("basis_version", .int sigil.semanticVector.normalizedBasisVersion), ("polarity", .str sigil.polarity.name)]

namespace CastCodec

variable (codec : CastCodec)

-- json.dumps
def dumpsJson (value : Json) : List Char := dumps .default codec.floatRepr value

-- json.loads
def loadsJson (text : List Char) : Except PyError Json :=
  (loads codec.readFloat text).elim (.error (.valueError "Expecting value")) .ok

-- model_dump_json
def modelDumpJson (value : Json) : List Char := dumps .compact codec.pydanticRepr value

-- model_validate_json
def modelValidateJson {α : Type} (validate : Json → Except PyError α) (text : List Char) : Except PyError α :=
  (loads codec.pydanticRead text).elim (.error (.valueError "Invalid JSON")) validate

def serializeCastResult (registry : AspectRegistry) (result : WholeCast) : CastRow where
  castId := result.castId
  timestamp := result.timestamp.isoformat
  intentJson := codec.modelDumpJson result.intent.modelDump
  sigilJson := codec.dumpsJson result.sigil.document
  verdictJson := codec.dumpsJson result.verdict.document
  lineageJson := result.lineage.map fun lineage => codec.modelDumpJson lineage.modelDump
  glyphSeedId := result.glyphSeedId
  semanticVectorJson := codec.dumpsJson (.arr (result.sigil.semanticVector.components.map .float))
  verdictType := result.verdict.verdictType.value
  effectClass := result.sigil.effectClass.name
  adjustedResonance := result.verdict.resonance.adjusted
  branchId := result.lineage.map Lineage.branchId
  provenanceJson := result.provenance.map fun provenance => codec.modelDumpJson provenance.modelDump
  aspectPatternKey := canonicalAspectKey registry result.sigil.aspects
  basisVersion := some result.sigil.semanticVector.normalizedBasisVersion
  narrativeCoherence := result.provenance.bind CastProvenance.narrativeCoherence
  causalRootCastId := result.provenance.bind CastProvenance.causalRootCastId

-- AspectRegistry.get().resolve(n)
def resolveItem (registry : AspectRegistry) (value : Json) : Except PyError Aspect :=
  match value with
  | .str name => registry.resolve name
  | other => .error (.keyError other.typeName)

-- value.get(key)
def getItem (value : Json) (key : String) : Except PyError (Option Json) :=
  match value with
  | .obj fields => .ok (fields.lookup key)
  | other => .error (.attributeError ("'" ++ other.typeName ++ "' object has no attribute 'get'"))

-- SemanticVector(components=..., basis_version=...)
def vectorOf (components : List ℚ) (basisVersion : Int) : Except PyError SemanticVector := do
  let vector ← SemanticVector.make components (some basisVersion)
  if 0 ≤ basisVersion then return vector else throw (invalid "SemanticVector" "basis_version")

def readFloats (source : Json) : Except PyError (List ℚ) := do
  let values ← iterate source
  values.mapM codec.pyFloat

-- A component list that the sigil does not have is taken from its column.
def sigilComponents (row : CastRow) (sigil : Json) : Except PyError Json := do
  match ← getItem sigil "semantic_vector" with
  | some (.arr components) => return .arr components
  | _ => codec.loadsJson row.semanticVectorJson

-- Sigil.model_construct, which checks nothing. A row keeps no more of a fluid
-- sigil than of another one.
def readSigil (row : CastRow) (aspects : AspectSet) (castBasis : Int) (sigil : Json) : Except PyError WholeSigil := do
  let components ← codec.sigilComponents row sigil
  let name ← item sigil "name"
  let effectClass ← enumNamed EffectClass.all EffectClass.name (← item sigil "effect_class")
  let resonanceCeiling ← codec.pyFloat (← item sigil "resonance_ceiling")
  let contradictionSeverity ← enumNamed ContradictionSeverity.all ContradictionSeverity.name
    (← item sigil "contradiction_severity")
  let fingerprint ← getItem sigil "semantic_fingerprint"
  let semanticVector ← vectorOf (← codec.readFloats components) castBasis
  let polarity ← enumNamed Polarity.all Polarity.name (.str (codec.pyStr (← item sigil "polarity")))
  return { name := codec.pyStr name, aspects, effectClass, resonanceCeiling, contradictionSeverity, semanticVector,
           semanticFingerprint := ((fingerprint.filter Json.truthy).map codec.pyStr).getD "", polarity }

def validField {α : Type} (read : Json → Option α) (value : Json) (model field : String) : Except PyError α :=
  (read value).elim (.error (invalid model field)) .ok

def readResonance (resonance : Json) : Except PyError ScoredResonance := do
  let raw ← item resonance "raw"
  let adjusted ← item resonance "adjusted"
  let ceilingApplied ← item resonance "ceiling_applied"
  let proof ← item resonance "proof"
  let raw ← validField codec.coerce.float? raw "ResonanceScore" "raw"
  let adjusted ← validField codec.coerce.float? adjusted "ResonanceScore" "adjusted"
  let ceilingApplied ← validField codec.coerce.bool? ceilingApplied "ResonanceScore" "ceiling_applied"
  let proof ← validField Json.text? proof "ResonanceScore" "proof"
  ScoredResonance.make raw adjusted ceilingApplied proof

-- The components of a vector and its basis. One without a basis of its own has
-- that of the cast.
def vectorSource (castBasis : Int) : Json → Except PyError (Json × Int)
  | .obj fields => do
      let basisVersion ← (fields.lookup "basis_version").elim (.ok castBasis) pyInt
      return ((fields.lookup "components").getD (.arr []), basisVersion)
  | other => .ok (other, castBasis)

def paddedFloats (registry : AspectRegistry) (source : Json) : Except PyError (List ℚ) := do
  let components ← codec.readFloats source
  return components ++ List.replicate (registry.dimensionality - components.length) 0

def readSemanticComponent (registry : AspectRegistry) (castBasis : Int) :
    Json → Except PyError (Option SemanticVector)
  | .null => .ok none
  | raw => do
      let (source, basisVersion) ← vectorSource castBasis raw
      let components ← codec.paddedFloats registry source
      let vector ← vectorOf components basisVersion
      return some vector

def readIntentVector (registry : AspectRegistry) (castBasis : Int) (raw : Json) :
    Except PyError { own : IntentVector // own.Valid } := do
  let ofVector ← item raw "vector"
  let ofConstraint ← item raw "constraint_component"
  let (vectorValues, vectorBasis) ← vectorSource castBasis ofVector
  let (constraintValues, constraintBasis) ← vectorSource castBasis ofConstraint
  let vectorComponents ← codec.paddedFloats registry vectorValues
  let constraintComponents ← codec.paddedFloats registry constraintValues
  let vector ← vectorOf vectorComponents vectorBasis
  let constraintComponent ← vectorOf constraintComponents constraintBasis
  let semanticComponent ← codec.readSemanticComponent registry castBasis (← item raw "semantic_component")
  let projectionMethod ← enumNamed ProjectionMethod.all ProjectionMethod.name (← item raw "projection_method")
  let confidence ← item raw "confidence"
  let confidence ← validField codec.coerce.float? confidence "IntentVector" "confidence"
  IntentVector.make { vector, projectionMethod, constraintComponent, semanticComponent, confidence }

def verdictOf (verdictType : VerdictType) (resonance : ScoredResonance) (effectDescription : String)
    (incoherenceReason : Option String) (castingNote : String) (intent : { own : IntentVector // own.Valid }) :
    Except PyError WholeVerdict :=
  if effectFits : effectDescription.length ≤ 300 then
    if noteFits : castingNote.length ≤ 200 then
      .ok { verdictType, resonance, effectDescription, intentVector := intent.1, effectFits, incoherenceReason,
            castingNote, noteFits, intentVectorValid := intent.2 }
    else .error (invalid "Verdict" "casting_note")
  else .error (invalid "Verdict" "effect_description")

def readVerdict (registry : AspectRegistry) (castBasis : Int) (verdict : Json) : Except PyError WholeVerdict := do
  let resonance ← codec.readResonance (← item verdict "resonance")
  let intent ← codec.readIntentVector registry castBasis (← item verdict "intent_vector")
  let verdictType ← enumNamed VerdictType.all VerdictType.value (← item verdict "verdict_type")
  let effectDescription ← item verdict "effect_description"
  let incoherenceReason ← item verdict "incoherence_reason"
  let castingNote ← item verdict "casting_note"
  let effectDescription ← validField Json.text? effectDescription "Verdict" "effect_description"
  let incoherenceReason ← validField (nullable Json.text?) incoherenceReason "Verdict" "incoherence_reason"
  let castingNote ← validField Json.text? castingNote "Verdict" "casting_note"
  verdictOf verdictType resonance effectDescription incoherenceReason castingNote intent

def readProvenance (row : CastRow) : Except PyError (Option CastProvenance) :=
  match row.provenanceJson with
  | some text => (codec.modelValidateJson (CastProvenance.modelValidate codec.coerce) text).map some
  | none =>
      if row.narrativeCoherence.isSome || row.causalRootCastId.isSome then
        (CastProvenance.make .base none none row.narrativeCoherence row.causalRootCastId).map some
      else .ok none

def readLineage (drawn : String) : Option (List Char) → Except PyError (Option Lineage)
  | none => .ok none
  | some text => (codec.modelValidateJson (Lineage.modelValidate codec.coerce drawn) text).map some

def readTimestamp (text : List Char) : Except PyError Datetime :=
  (Datetime.fromisoformat text).elim (.error (.valueError ("Invalid isoformat string: '" ++ String.ofList text ++ "'")))
    .ok

def deserializeCastResult (registry : AspectRegistry) (order : SetOrder) (drawn : String) (row : CastRow) :
    Except PyError WholeCast := do
  let intent ← codec.modelValidateJson BoundedIntent.modelValidate row.intentJson
  let sigil ← codec.loadsJson row.sigilJson
  let named ← iterate (← item sigil "aspects")
  let aspects ← named.mapM (resolveItem registry)
  let castBasis := row.basisVersion.getD 0
  let sigil ← codec.readSigil row (.build order (aspects.map Aspect.name)) castBasis sigil
  let verdict ← codec.readVerdict registry castBasis (← codec.loadsJson row.verdictJson)
  let lineage ← codec.readLineage drawn row.lineageJson
  let provenance ← codec.readProvenance row
  let timestamp ← readTimestamp row.timestamp
  return { castId := row.castId, timestamp, intent, sigil, verdict, lineage, glyphSeedId := row.glyphSeedId,
           provenance }

end CastCodec

abbrev CastTable := Table CastRow.castId

namespace CastCodec

variable (codec : CastCodec)

def write (registry : AspectRegistry) (result : WholeCast) (table : CastTable) : Except PyError CastTable :=
  match table.insert? (codec.serializeCastResult registry result) with
  | none => .error (.valueError ("CastResult with cast_id '" ++ result.castId ++ "' already exists"))
  | some written => do
      let _ ← sqlInteger result.sigil.semanticVector.normalizedBasisVersion
      return written

def read (registry : AspectRegistry) (order : SetOrder) (drawn castId : String) (table : CastTable) :
    Except PyError WholeCast :=
  match table.find? castId with
  | none => .error (.keyError castId)
  | some row => codec.deserializeCastResult registry order drawn row

end CastCodec

def deleteCast (castId : String) (table : CastTable) : Except PyError CastTable :=
  if table.Has castId then .ok (table.only fun row => row.castId ≠ castId) else .error (.keyError castId)

end Vermyth
