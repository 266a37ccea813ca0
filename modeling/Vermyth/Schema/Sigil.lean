import Vermyth.Schema.Aspect
import Vermyth.Schema.Datetime

set_option autoImplicit false

namespace Vermyth

inductive EffectClass where
  | erasure
  | manifestation
  | force
  | cognition
  | dissolution
  | revelation
  | containment
  | negation
  | corruption
  | acceleration
  | binding
  | emergence
deriving DecidableEq, Repr

def EffectClass.all : List EffectClass :=
  [.erasure, .manifestation, .force, .cognition, .dissolution, .revelation, .containment, .negation, .corruption,
    .acceleration, .binding, .emergence]

def EffectClass.name : EffectClass → String
  | .erasure => "ERASURE"
  | .manifestation => "MANIFESTATION"
  | .force => "FORCE"
  | .cognition => "COGNITION"
  | .dissolution => "DISSOLUTION"
  | .revelation => "REVELATION"
  | .containment => "CONTAINMENT"
  | .negation => "NEGATION"
  | .corruption => "CORRUPTION"
  | .acceleration => "ACCELERATION"
  | .binding => "BINDING"
  | .emergence => "EMERGENCE"

def EffectClass.named? (name : String) : Option EffectClass := EffectClass.all.find? fun own => own.name = name

inductive ContradictionSeverity where
  | none
  | soft
  | hard
deriving DecidableEq, Repr

def ContradictionSeverity.name : ContradictionSeverity → String
  | .none => "NONE"
  | .soft => "SOFT"
  | .hard => "HARD"

def ContradictionSeverity.named? (name : String) : Option ContradictionSeverity :=
  [ContradictionSeverity.none, .soft, .hard].find? fun own => own.name = name

-- schema.Sigil as compose resolves it. Its fingerprint and polarity follow from
-- the aspects and are left out.
structure ResolvedSigil where
  name : String
  aspects : AspectSet
  effectClass : EffectClass
  resonanceCeiling : ℚ
  contradictionSeverity : ContradictionSeverity
  semanticVector : SemanticVector
deriving DecidableEq

def ResolvedSigil.make (registry : AspectRegistry) (order : SetOrder) (name : String) (aspects : AspectSet)
    (effectClass : EffectClass) (resonanceCeiling : ℚ) (contradictionSeverity : ContradictionSeverity) :
    Except PyError ResolvedSigil :=
  if 1 ≤ aspects.names.length ∧ aspects.names.length ≤ 3 then
    if 0 ≤ resonanceCeiling ∧ resonanceCeiling ≤ 1 then
      .ok { name := name, aspects := aspects.rebuild order, effectClass := effectClass,
            resonanceCeiling := resonanceCeiling, contradictionSeverity := contradictionSeverity,
            semanticVector := fromAspects registry aspects }
    else .error (invalid "Sigil" "resonance_ceiling")
  else .error (invalid "Sigil" "aspects")

structure GlyphSeed where
  seedId : String
  aspectPattern : AspectSet
  observedCount : Nat := 0
  meanResonance : ℚ := 0
  coherenceRate : ℚ := 0
  candidateEffectClass : Option EffectClass := none
  crystallized : Bool := false
  generation : Nat := 1
  semanticVector : SemanticVector
deriving DecidableEq

-- GlyphSeed(...), with the id it draws.
def GlyphSeed.make (registry : AspectRegistry) (order : SetOrder) (seedId : String) (aspectPattern : AspectSet)
    (observedCount : Int) (meanResonance coherenceRate : ℚ) (candidateEffectClass : Option EffectClass)
    (crystallized : Bool) (generation : Int) : Except PyError GlyphSeed :=
  if ¬ (1 ≤ aspectPattern.names.length ∧ aspectPattern.names.length ≤ 3) then
    .error (invalid "GlyphSeed" "aspect_pattern")
  else if observedCount < 0 then .error (invalid "GlyphSeed" "observed_count")
  else if ¬ (0 ≤ meanResonance ∧ meanResonance ≤ 1) then .error (invalid "GlyphSeed" "mean_resonance")
  else if ¬ (0 ≤ coherenceRate ∧ coherenceRate ≤ 1) then .error (invalid "GlyphSeed" "coherence_rate")
  else if generation < 1 then .error (invalid "GlyphSeed" "generation")
  else .ok
    { seedId := seedId, aspectPattern := aspectPattern.rebuild order, observedCount := observedCount.toNat,
      meanResonance := meanResonance, coherenceRate := coherenceRate, candidateEffectClass := candidateEffectClass,
      crystallized := crystallized, generation := generation.toNat,
      semanticVector := fromAspects registry aspectPattern }

structure CrystallizedSigil where
  name : String
  sigil : ResolvedSigil
  sourceSeedId : String
  crystallizedAt : Datetime
  generation : Nat := 1
deriving DecidableEq

end Vermyth
