import Vermyth.Casting.Interpolation
import Vermyth.Foundation.Agreeing
import Vermyth.Typescript.Resonance

set_option autoImplicit false

namespace Vermyth.Typescript

open Foundation

structure CastStamp where
  castId : String
  timestamp : Int

structure ChainStamps where
  cast : Nat → CastStamp
  branchId : String

-- An entry whose aspects are all canonical. They are those its key joins.
structure Anchor where
  key : String
  raw : SigilEntry
  aspects : List Aspect

structure Scored where
  sim : ℚ
  anchor : Anchor

structure Weighted where
  scored : Scored
  weight : ℚ

def canonicalOf : AspectID → Aspect
  | .void => .void
  | .form => .form
  | .motion => .motion
  | .mind => .mind
  | .decay => .decay
  | .light => .light

def severityForKey (contradictions : List (String × Contradiction)) (key : String) (raw : SigilEntry) :
    ContradictionSeverity :=
  match raw.contradictionSeverity with
  | some own => own
  | none => ((contradictions.lookup key).bind Contradiction.severity).getD .none

def anchorOf (slot : SigilSlot) : Option Anchor :=
  (anchorAspects slot.key).map fun ids =>
    { key := slot.key, raw := slot.entry, aspects := newSet (ids.map canonicalOf) }

def anchors (composition : CompositionEngine) : List Anchor := composition.table.rows.filterMap anchorOf

def scoreAnchor (math : VectorMath) (registry : AspectRegistry) (vec : SemanticVector) (anchor : Anchor) :
    Except String Scored := do
  let anchorVec ← semanticVectorFromAspects registry anchor.aspects
  let sim ← cosineSimilarity math anchorVec vec
  return { sim, anchor }

-- scored.sort((a, b) => b.sim - a.sim), which is stable
def nearest (k : Nat) (scored : List Scored) : List Scored := (scored.insertionSort fun a b => b.sim ≤ a.sim).take k

def softmax (math : VectorMath) (sims : List ℚ) : List ℚ :=
  let maxSim := sims.max?.getD 0
  let exps := sims.map fun s => math.exp (s - maxSim)
  let sum := exps.foldl (· + ·) 0
  let denom := if sum = 0 then 1 else sum
  exps.map fun e => e / denom

def weighNeighbors (math : VectorMath) (neighbors : List Scored) : List Weighted :=
  List.zipWith Weighted.mk neighbors (softmax math (neighbors.map Scored.sim))

def worstSeverity (contradictions : List (String × Contradiction)) (neighbors : List Weighted) :
    ContradictionSeverity :=
  neighbors.foldl (fun worst neighbor =>
    if 1 / 10 < neighbor.weight then
      let sev := severityForKey contradictions neighbor.scored.anchor.key neighbor.scored.anchor.raw
      if severityRank worst < severityRank sev then sev else worst
    else worst) .none

def unionAspects (best : Weighted) (neighbors : List Weighted) : List Aspect :=
  let union := newSet (neighbors.flatMap fun neighbor => neighbor.scored.anchor.aspects)
  if 3 < union.length then newSet best.scored.anchor.aspects else union

theorem union_distinct (best : Weighted) (neighbors : List Weighted) : (unionAspects best neighbors).Nodup := by
  rw [unionAspects]
  split_ifs
  · exact new_set_nodup _
  · exact new_set_nodup _

def meanCeiling (neighbors : List Weighted) : ℚ :=
  neighbors.foldl (fun mean neighbor => mean + neighbor.scored.anchor.raw.resonanceCeiling * neighbor.weight) 0

def weightByName (neighbors : List Weighted) : List (String × ℚ) :=
  neighbors.foldl (fun weights neighbor => addWeight weights neighbor.scored.anchor.raw.name neighbor.weight) []

def fluidPolarity (components : List ℚ) : Polarity :=
  let net := components.foldl (fun net c =>
    if 1 / 10 ^ 12 < c then net + 1 else if c < -(1 / 10 ^ 12) then net - 1 else net) (0 : Int)
  if 0 < net then .positive else if net < 0 then .negative else .neutral

def fluidFingerprint (platform : JsPlatform) (aspects : List Aspect) (components : List ℚ) : String :=
  platform.sha256Hex (platform.stringify (.str (joinPlus ((aspects.map Aspect.name).insertionSort (· ≤ ·)) ++ "|" ++
    ",".intercalate ((components.take 6).map (toFixed 6)))))

def buildFluidSigil (engine : ResonanceEngine) (vector vec : SemanticVector) (best : Weighted)
    (neighbors : List Weighted) : Sigil where
  name := "Fluid:" ++ best.scored.anchor.raw.name
  aspects := unionAspects best neighbors
  distinct := union_distinct best neighbors
  effectClass := best.scored.anchor.raw.effectClass
  resonanceCeiling := meanCeiling neighbors
  contradictionSeverity := worstSeverity engine.composition.contradictions neighbors
  semanticFingerprint := fluidFingerprint engine.platform (unionAspects best neighbors) vec.components
  semanticVector := vec
  polarity := fluidPolarity vec.components
  fluid := some
    { sourceVector := vector, nearestCanonical := best.scored.anchor.raw.name
      interpolationWeights := weightByName neighbors }

def mixedComponents (a : ℚ) (current target : List ℚ) : List ℚ :=
  (List.range (max current.length target.length)).map fun i => (1 - a) * coeff current i + a * coeff target i

def blendToward (math : VectorMath) (registry : AspectRegistry) (current target : SemanticVector) (alpha : ℚ) :
    Except String SemanticVector :=
  normalizeUnit math registry (mixedComponents (max 0 (min 1 alpha)) current.components target.components)

def divergence (child parent : List ℚ) : List ℚ :=
  (List.range (max child.length parent.length)).map fun i => coeff child i - coeff parent i

def fluidProvenance : CastProvenance where
  source := .fluid

def castResultWithLineage (base parent : CastResult) (branchId : String) : Except String CastResult := do
  let divergenceVector ←
    createSemanticVector (divergence base.sigil.semanticVector.components parent.sigil.semanticVector.components) none
  let depth := match parent.lineage with
    | some lineage => lineage.depth + 1
    | none => 1
  return { base with
    lineage := some { parentCastId := parent.castId, depth, branchId, divergenceVector := some divergenceVector }
    provenance := some fluidProvenance }

namespace ResonanceEngine

variable (engine : ResonanceEngine)

def compose (aspects : List Aspect) (distinct : aspects.Nodup) : Except String Sigil :=
  if aspects.length < 1 then .error "aspects must contain at least one AspectID"
  else if 3 < aspects.length then .error "aspects must contain at most three AspectIDs"
  else
    let key := canonicalAspectKey engine.registry aspects
    match engine.composition.table.find? key with
    | none => .error ("no defined resolution for aspect combination: " ++ engine.platform.stringify (.str key))
    | some slot =>
        buildSigil engine.platform engine.registry slot.entry.name aspects distinct slot.entry.effectClass
          slot.entry.resonanceCeiling (severityForKey engine.composition.contradictions key slot.entry)

def interpolate (vector : SemanticVector) (k : Nat) : Except String Sigil :=
  if k < 1 then .error "k must be >= 1"
  else do
    let vec ← normalizeForComposition engine.math vector
    let scored ← (anchors engine.composition).mapM (scoreAnchor engine.math engine.registry vec)
    match weighNeighbors engine.math (nearest k scored) with
    | [] => throw "no sigil anchors available for interpolation"
    | first :: rest =>
        return buildFluidSigil engine vector vec (scanBest Weighted.weight first rest) (first :: rest)

def cast (aspects : List Aspect) (distinct : aspects.Nodup) (intent : Intent) (stamp : CastStamp) :
    Except String CastResult := do
  let sigil ← engine.compose aspects distinct
  return { castId := stamp.castId, timestamp := stamp.timestamp, intent, sigil
           verdict := engine.evaluate sigil intent }

def fluidCast (vector : SemanticVector) (intent : Intent) (stamp : CastStamp) : Except String CastResult := do
  let sigil ← engine.interpolate vector 3
  return { castId := stamp.castId, timestamp := stamp.timestamp, intent, sigil
           verdict := engine.evaluate sigil intent, provenance := some fluidProvenance }

def chainResult (base : CastResult) (chain : List CastResult) (branchId : String) : Except String CastResult :=
  match chain.getLast? with
  | none => .ok base
  | some parent => castResultWithLineage base parent branchId

-- The loop of autoCast, with as many rounds to go as the first number says.
def autoRounds (intent : Intent) (targetResonance blendAlpha : ℚ) (stamps : ChainStamps) :
    Nat → SemanticVector → List CastResult → Except String (List CastResult)
  | 0, _, chain => .ok chain
  | rounds + 1, current, chain => do
      let base ← engine.fluidCast current intent (stamps.cast chain.length)
      let result ← chainResult base chain stamps.branchId
      if result.verdict.verdictType = .coherent ∧ targetResonance ≤ result.verdict.resonance.adjusted then
        return chain ++ [result]
      else
        let fluid ← engine.interpolate current 3
        let next ← blendToward engine.math engine.registry current fluid.semanticVector blendAlpha
        autoRounds intent targetResonance blendAlpha stamps rounds next (chain ++ [result])

-- The final cast and the chain. Where there is no cast, its verdict is read of undefined.
def autoCast (vector : SemanticVector) (intent : Intent) (maxDepth : Int) (targetResonance blendAlpha : ℚ)
    (stamps : ChainStamps) : Except String (CastResult × List CastResult) := do
  let chain ← engine.autoRounds intent targetResonance blendAlpha stamps maxDepth.toNat vector []
  match chain.getLast? with
  | none => throw "Cannot read properties of undefined (reading 'verdict')"
  | some final => return (final, chain)

end ResonanceEngine

end Vermyth.Typescript
