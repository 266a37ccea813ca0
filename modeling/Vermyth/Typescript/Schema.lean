import Mathlib.Data.List.Sort
import Mathlib.Data.Rat.Floor
import Vermyth.Casting.CastRows

set_option autoImplicit false

namespace Vermyth.Typescript

-- The name that RegisteredAspectSchema asks for: [A-Z][A-Z0-9_]*
def upperName (name : String) : Bool :=
  match name.toList with
  | [] => false
  | first :: rest => first.isUpper && rest.all fun c => c.isUpper || c.isDigit || c = '_'

structure Aspect where
  canonical : Bool
  name : String
  polarity : Int
  entropyCoefficient : ℚ
  symbol : String
  upper : upperName name = true
deriving DecidableEq

def canonicalAspect (name : String) (upper : upperName name = true) (polarity : Int) (entropyCoefficient : ℚ)
    (symbol : String) : Aspect :=
  { canonical := true, name, polarity, entropyCoefficient, symbol, upper }

def Aspect.void : Aspect := canonicalAspect "VOID" (by decide) (-1) (95 / 100) "◯"

def Aspect.form : Aspect := canonicalAspect "FORM" (by decide) 1 (15 / 100) "⬡"

def Aspect.motion : Aspect := canonicalAspect "MOTION" (by decide) 1 (55 / 100) "⟳"

def Aspect.mind : Aspect := canonicalAspect "MIND" (by decide) 1 (35 / 100) "◈"

def Aspect.decay : Aspect := canonicalAspect "DECAY" (by decide) (-1) (85 / 100) "※"

def Aspect.light : Aspect := canonicalAspect "LIGHT" (by decide) 1 (5 / 100) "✦"

def canonicalAspects : List Aspect := [.void, .form, .motion, .mind, .decay, .light]

-- What the port rests on outside the repository: the JSON and the Date of
-- JavaScript, and SHA-256. A number of JavaScript is a float of Json.
structure JsPlatform where
  stringify : Json → String
  parse : String → Except String Json
  toISOString : Int → String
  newDate : String → Int
  sha256Hex : String → String

-- The module state of registry.ts.
structure AspectRegistry where
  registered : List Aspect := []
  basisVersion : ℚ := 0

namespace AspectRegistry

variable (registry : AspectRegistry)

def fullOrder : List Aspect := canonicalAspects ++ registry.registered

def dimensionality : Nat := registry.fullOrder.length

def resolve (platform : JsPlatform) (name : String) : Except String Aspect :=
  match registry.fullOrder.find? fun aspect => aspect.name = name with
  | some aspect => .ok aspect
  | none => .error ("unknown aspect: " ++ platform.stringify (.str name))

end AspectRegistry

-- new Set(aspects): what is there twice keeps its first place.
def newSet (aspects : List Aspect) : List Aspect := aspects.reverse.dedup.reverse

structure SemanticVector where
  components : List ℚ
  basisVersion : Option ℚ
  atLeastSix : 6 ≤ components.length

def createSemanticVector (components : List ℚ) (basisVersion : Option ℚ) : Except String SemanticVector :=
  if atLeastSix : 6 ≤ components.length then .ok { components, basisVersion, atLeastSix }
  else .error "components must contain at least six floats"

def normalizedBasisVersion (vector : SemanticVector) : ℚ :=
  match vector.basisVersion with
  | none => 0
  | some version => ⌊version⌋

def aspectComponent (aspects : List Aspect) (aspect : Aspect) : ℚ :=
  if aspect.name ∈ aspects.map Aspect.name then
    aspect.entropyCoefficient * (if aspect.polarity = 1 then 1 else -1)
  else 0

def semanticVectorFromAspects (registry : AspectRegistry) (aspects : List Aspect) : Except String SemanticVector :=
  createSemanticVector (registry.fullOrder.map (aspectComponent aspects)) (some registry.basisVersion)

def joinPlus (names : List String) : String := "+".intercalate names

def canonicalAspectKey (registry : AspectRegistry) (aspects : List Aspect) : String :=
  let index := fun aspect : Aspect => (registry.fullOrder.map Aspect.name).idxOf aspect.name
  joinPlus ((aspects.insertionSort fun a b => index a ≤ index b).map Aspect.name)

structure FluidParts where
  sourceVector : SemanticVector
  nearestCanonical : String
  interpolationWeights : List (String × ℚ)

structure Sigil where
  name : String
  aspects : List Aspect
  distinct : aspects.Nodup
  effectClass : EffectClass
  resonanceCeiling : ℚ
  contradictionSeverity : ContradictionSeverity
  semanticFingerprint : String
  semanticVector : SemanticVector
  polarity : Polarity
  fluid : Option FluidParts := none

def polarityFromAspects (aspects : List Aspect) : Polarity :=
  let net := (aspects.map Aspect.polarity).sum
  if 0 < net then .positive else if net < 0 then .negative else .neutral

structure IntentVector where
  vector : SemanticVector
  projectionMethod : ProjectionMethod
  constraintComponent : SemanticVector
  semanticComponent : Option SemanticVector
  confidence : ℚ

structure ResonanceScore where
  raw : ℚ
  adjusted : ℚ
  ceilingApplied : Bool
  proof : String

structure Verdict where
  verdictType : VerdictType
  resonance : ResonanceScore
  effectDescription : String
  incoherenceReason : Option String
  castingNote : String
  intentVector : IntentVector

structure Lineage where
  parentCastId : String
  depth : ℚ
  branchId : String
  divergenceVector : Option SemanticVector := none

structure CastProvenance where
  source : CastSource
  crystallizedSigilName : Option String := none
  generation : Option ℚ := none
  narrativeCoherence : Option ℚ := none
  causalRootCastId : Option String := none

-- null and undefined are one.
structure CastResult where
  castId : String
  timestamp : Int
  intent : Intent
  sigil : Sigil
  verdict : Verdict
  lineage : Option Lineage := none
  glyphSeedId : Option String := none
  provenance : Option CastProvenance := none

theorem full_order_six (registry : AspectRegistry) : 6 ≤ registry.dimensionality := by
  rw [AspectRegistry.dimensionality, AspectRegistry.fullOrder, List.length_append]
  exact Nat.le_add_right 6 _

theorem create_vector_ok (components : List ℚ) (basisVersion : Option ℚ) (atLeastSix : 6 ≤ components.length) :
    createSemanticVector components basisVersion = .ok { components, basisVersion, atLeastSix } := dif_pos atLeastSix

theorem resolve_name (registry : AspectRegistry) (platform : JsPlatform) (name : String) (aspect : Aspect)
    (resolved : registry.resolve platform name = .ok aspect) : aspect.name = name := by
  rw [AspectRegistry.resolve] at resolved
  cases found : registry.fullOrder.find? fun aspect => aspect.name = name with
  | none =>
      rw [found] at resolved
      contradiction
  | some own =>
      rw [found] at resolved
      obtain rfl := Except.ok.inj resolved
      have named := List.find?_some found
      simpa using named

@[simp] theorem mem_new_set (aspects : List Aspect) (aspect : Aspect) : aspect ∈ newSet aspects ↔ aspect ∈ aspects := by
  simp [newSet]

theorem new_set_nodup (aspects : List Aspect) : (newSet aspects).Nodup :=
  List.nodup_reverse.mpr (List.nodup_dedup _)

theorem new_set_distinct (aspects : List Aspect) (distinct : aspects.Nodup) : newSet aspects = aspects := by
  rw [newSet, (List.nodup_reverse.mpr distinct).dedup, List.reverse_reverse]

end Vermyth.Typescript
