import Vermyth.Typescript.Casting

set_option autoImplicit false

namespace Vermyth.Typescript

open Foundation

-- A value of the port and the one of the Python engine that it stands for.
structure VectorPorts (vector : SemanticVector) (own : Vermyth.SemanticVector) : Prop where
  components : vector.components = own.components
  basisVersion : vector.basisVersion = own.basisVersion.map (Nat.cast : Nat → ℚ)

def Aspect.traits (aspect : Aspect) : String × Int × ℚ := (aspect.name, aspect.polarity, aspect.entropyCoefficient)

def traitsOf (aspect : Vermyth.Aspect) : String × Int × ℚ := (aspect.name, aspect.polarity, aspect.entropyCoefficient)

structure RegistryPorts (registry : AspectRegistry) (own : Vermyth.AspectRegistry) : Prop where
  registered : registry.registered.map Aspect.traits =
    own.registered.map fun aspect => traitsOf (.registered aspect)
  basisVersion : registry.basisVersion = own.basisVersion
  distinct : own.Distinct

def BackendPorts (backend : Option ProjectionBackend) (own : Option Vermyth.ProjectionBackend) : Prop :=
  Option.Rel (fun project projectOwn => ∀ objective scope : String,
    projectedComponents (project objective scope) = Vermyth.projectedComponents (projectOwn objective scope))
      backend own

structure ContradictionsPort (contradictions : List (String × Contradiction))
    (own : List (String × ContradictionSeverity)) : Prop where
  severity : ∀ key, ((contradictions.lookup key).bind Contradiction.severity).getD .none =
    (own.lookup key).getD .none

structure EnginePorts (engine : ResonanceEngine) (own : Vermyth.ResonanceEngine) : Prop where
  math : engine.math = own.math
  backend : BackendPorts engine.backend own.backend
  table : engine.composition.table = own.composition.table
  contradictions : ContradictionsPort engine.composition.contradictions own.composition.contradictions
  registry : RegistryPorts engine.registry own.registry

structure FacePorts (sigil : Sigil) (own : SigilFace) : Prop where
  name : sigil.name = own.name
  contradictionSeverity : sigil.contradictionSeverity = own.contradictionSeverity
  resonanceCeiling : sigil.resonanceCeiling = own.resonanceCeiling
  semanticVector : VectorPorts sigil.semanticVector own.semanticVector

-- The combined vector is of the basis of the registry in the port, and of no basis
-- in the Python engine where the projection is full.
structure IntentPorts (registry : AspectRegistry) (intent : IntentVector) (own : Vermyth.IntentVector) : Prop where
  vector : intent.vector.components = own.vector.components
  basisVersion : intent.vector.basisVersion = some registry.basisVersion
  projectionMethod : intent.projectionMethod = own.projectionMethod
  constraintComponent : VectorPorts intent.constraintComponent own.constraintComponent
  semanticComponent : Option.Rel VectorPorts intent.semanticComponent own.semanticComponent
  confidence : intent.confidence = own.confidence

def Verdict.reading (verdict : Verdict) : VerdictReading where
  raw := verdict.resonance.raw
  adjusted := verdict.resonance.adjusted
  ceilingApplied := verdict.resonance.ceilingApplied
  verdictType := verdict.verdictType
  projectionMethod := verdict.intentVector.projectionMethod
  confidence := verdict.intentVector.confidence

structure VerdictPorts (registry : AspectRegistry) (effectClass : EffectClass) (verdict : Verdict)
    (own : EvaluatedVerdict) : Prop where
  reading : verdict.reading = own.reading
  effectDescription : verdict.effectDescription = own.effectDescription
  castingNote : verdict.castingNote = castingNote own.verdictType effectClass
  intentVector : IntentPorts registry verdict.intentVector own.intentVector

theorem fold_sum {α : Type} (value : α → ℚ) (items : List α) :
    items.foldl (fun acc item => acc + value item) 0 = (items.map value).sum := by
  rw [List.sum_eq_foldl, List.foldl_map]

theorem l2_norm_same (math : VectorMath) (components : List ℚ) :
    l2Norm math components = Vermyth.l2Norm math components :=
  congrArg math.sqrt (fold_sum _ components)

theorem unit_same (math : VectorMath) (components : List ℚ) :
    unit math components = unitComponents math components := by
  rw [unit, unitComponents, l2_norm_same]

theorem full_order_traits (registry : AspectRegistry) (own : Vermyth.AspectRegistry)
    (ports : RegistryPorts registry own) :
    registry.fullOrder.map Aspect.traits = own.fullOrder.map traitsOf := by
  have canonical : canonicalAspects.map Aspect.traits =
      (aspectCanonicalOrder.map Vermyth.Aspect.canonical).map traitsOf := rfl
  have registered : (own.registered.map Vermyth.Aspect.registered).map traitsOf =
      own.registered.map fun aspect => traitsOf (.registered aspect) := List.map_map
  rw [AspectRegistry.fullOrder, Vermyth.AspectRegistry.fullOrder, List.map_append, List.map_append, canonical,
    ports.registered, registered]

theorem dimensionality_same (registry : AspectRegistry) (own : Vermyth.AspectRegistry)
    (ports : RegistryPorts registry own) : registry.dimensionality = own.dimensionality := by
  have lengths := congrArg List.length (full_order_traits registry own ports)
  rwa [List.length_map, List.length_map] at lengths

theorem normalize_unit_ports (math : VectorMath) (registry : AspectRegistry) (own : Vermyth.AspectRegistry)
    (ports : RegistryPorts registry own) (components : List ℚ) (atLeastSix : 6 ≤ components.length) :
    ∃ vector, normalizeUnit math registry components = .ok vector ∧
      VectorPorts vector (Vermyth.normalizeUnit math own components atLeastSix) := by
  rw [normalizeUnit, unit_same]
  refine ⟨_, create_vector_ok _ _ (by rwa [unit_components_length]), rfl, ?_⟩
  exact congrArg some ports.basisVersion

theorem basis_ports (vector : SemanticVector) (own : Vermyth.SemanticVector) (ports : VectorPorts vector own) :
    normalizedBasisVersion vector = own.normalizedBasisVersion := by
  rw [normalizedBasisVersion, ports.basisVersion, Vermyth.SemanticVector.normalizedBasisVersion]
  cases own.basisVersion with
  | none => exact Nat.cast_zero.symm
  | some version =>
      have whole : (⌊(version : ℚ)⌋ : ℚ) = version := by rw [Int.floor_natCast, Int.cast_natCast]
      exact whole

theorem cosine_same_basis (math : VectorMath) (a b : SemanticVector)
    (same : normalizedBasisVersion a = normalizedBasisVersion b) :
    cosineSimilarity math a b = .ok (cosine math a.components b.components) := by
  have dot : (List.range (max a.components.length b.components.length)).foldl
      (fun dot i => dot + coeff a.components i * coeff b.components i) 0 = dotProduct a.components b.components :=
    fold_sum _ _
  simp only [cosineSimilarity, ne_eq, same, not_true_eq_false, if_false, dot, l2_norm_same, cosine,
    Vermyth.clipComponent]
  split_ifs <;> rfl

theorem cosine_alike (math : VectorMath) (a b : SemanticVector) (own other : Vermyth.SemanticVector)
    (left : VectorPorts a own) (right : VectorPorts b other) :
    Agreeing Eq (cosineSimilarity math a b) (Vermyth.cosineSimilarity math own other) := by
  have bases : normalizedBasisVersion a = normalizedBasisVersion b ↔
      own.normalizedBasisVersion = other.normalizedBasisVersion := by
    rw [basis_ports a own left, basis_ports b other right]
    exact Nat.cast_inj
  rw [Vermyth.cosineSimilarity]
  by_cases same : own.normalizedBasisVersion = other.normalizedBasisVersion
  · rw [if_pos same, cosine_same_basis math a b (bases.mpr same), left.components, right.components]
    exact .ok _ _ rfl
  · rw [if_neg same, cosineSimilarity]
    simp only [if_pos fun equal => same (bases.mp equal)]
    exact .error _ _

theorem pad_same (dim : Nat) (components : List ℚ) : SameCoeffs (pad dim components) components :=
  coeff_zeros components _

theorem upsample_ok (vector : SemanticVector) (targetVersion : ℚ) (targetDim : Nat) :
    ∃ upsampled, upsampleSemanticVector vector targetVersion targetDim = .ok upsampled ∧
      upsampled.basisVersion = some (max 0 (⌊targetVersion⌋ : ℚ)) ∧
        SameCoeffs upsampled.components vector.components := by
  refine ⟨_, create_vector_ok _ _ ?_, rfl, pad_same targetDim vector.components⟩
  rw [pad, List.length_append]
  exact le_trans vector.atLeastSix (Nat.le_add_right _ _)

theorem common_basis_compares (math : VectorMath) (sigil intent : SemanticVector) :
    ∃ sigilVec intentVec note, commonBasis sigil intent = .ok (sigilVec, intentVec, note) ∧
      cosineSimilarity math sigilVec intentVec = .ok (cosine math sigil.components intent.components) := by
  rw [commonBasis]
  by_cases same : normalizedBasisVersion sigil = normalizedBasisVersion intent
  · rw [if_pos same]
    exact ⟨_, _, _, rfl, cosine_same_basis math sigil intent same⟩
  · rw [if_neg same]
    obtain ⟨sigilVec, sigilUp, sigilBasis, sigilSame⟩ := upsample_ok sigil
      (max (normalizedBasisVersion sigil) (normalizedBasisVersion intent))
      (max sigil.components.length intent.components.length)
    obtain ⟨intentVec, intentUp, intentBasis, intentSame⟩ := upsample_ok intent
      (max (normalizedBasisVersion sigil) (normalizedBasisVersion intent))
      (max sigil.components.length intent.components.length)
    simp only [sigilUp, intentUp, bind, Except.bind]
    refine ⟨_, _, _, rfl, ?_⟩
    have bases : normalizedBasisVersion sigilVec = normalizedBasisVersion intentVec := by
      rw [normalizedBasisVersion, normalizedBasisVersion, sigilBasis, intentBasis]
    rw [cosine_same_basis math sigilVec intentVec bases, same_cosine math _ _ _ _ sigilSame intentSame]

theorem related_some {α β : Type} (related : α → β → Prop) (a : Option α) (b : Option β)
    (same : Option.Rel related a b) : a.isSome = b.isSome := by
  cases same <;> rfl

section Intents

variable (engine : ResonanceEngine) (own : Vermyth.ResonanceEngine) (ports : EnginePorts engine own) (intent : Intent)

include ports

theorem constraint_ports : ∃ vector, engine.buildConstraintVector intent = .ok vector ∧
    VectorPorts vector (Vermyth.buildConstraintVector own.math own.registry intent) := by
  have pressures : ((List.range engine.registry.dimensionality).map fun i =>
      clipComponent (coeff (reversibilityPressures intent.reversibility) i +
        coeff (sideEffectPressures intent.sideEffectTolerance) i)) = pressureComponents own.registry intent := by
    rw [dimensionality_same _ _ ports.registry]
    rfl
  rw [ResonanceEngine.buildConstraintVector, pressures, ports.math]
  exact normalize_unit_ports own.math engine.registry own.registry ports.registry _ _

theorem semantic_ports : Option.Rel VectorPorts (engine.buildSemanticVector intent)
    (Vermyth.buildSemanticVector own.math own.backend own.registry intent) := by
  have backends := ports.backend
  rw [ResonanceEngine.buildSemanticVector]
  generalize engine.backend = backend at backends
  generalize own.backend = backendOwn at backends
  cases backends with
  | none => exact .none
  | @some project projectOwn same =>
      simp only [Vermyth.buildSemanticVector, bind, Option.bind, same intent.objective intent.scope]
      cases Vermyth.projectedComponents (projectOwn intent.objective intent.scope) with
      | none => exact .none
      | some floats =>
          obtain ⟨vector, made, vectorPorts⟩ := normalize_unit_ports own.math engine.registry own.registry
            ports.registry (paddedTo own.registry.dimensionality floats) (padded_six own.registry floats)
          have padded : pad engine.registry.dimensionality floats = paddedTo own.registry.dimensionality floats := by
            rw [dimensionality_same _ _ ports.registry]
            rfl
          simp only [ports.math, padded, made]
          exact .some vectorPorts

omit ports in
theorem combine_ports (math : VectorMath) (registry : AspectRegistry) (constraint : SemanticVector)
    (basis : constraint.basisVersion = some registry.basisVersion) (semantic : Option SemanticVector)
    (constraintOwn : Vermyth.SemanticVector) (semanticOwn : Option Vermyth.SemanticVector)
    (left : VectorPorts constraint constraintOwn) (right : Option.Rel VectorPorts semantic semanticOwn) :
    ∃ combined method confidence,
      combineVectors math registry constraint semantic = .ok (combined, method, confidence) ∧
      combined.basisVersion = some registry.basisVersion ∧
      combined.components = (Vermyth.combineVectors math constraintOwn semanticOwn).1.components ∧
      method = (Vermyth.combineVectors math constraintOwn semanticOwn).2.1 ∧
      confidence = (Vermyth.combineVectors math constraintOwn semanticOwn).2.2 := by
  cases right with
  | none => exact ⟨_, _, _, rfl, basis, left.components, rfl, rfl⟩
  | @some vector vectorOwn vectors =>
      have same : combinedComponents constraint vector = Vermyth.combinedComponents constraintOwn vectorOwn := by
        rw [combinedComponents, Vermyth.combinedComponents, left.components, vectors.components]
      simp only [combineVectors, Vermyth.combineVectors, same, l2_norm_same]
      by_cases zero : Vermyth.l2Norm math (Vermyth.combinedComponents constraintOwn vectorOwn) = 0
      · simp only [if_pos zero]
        exact ⟨_, _, _, rfl, basis, left.components, rfl, rfl⟩
      · have long : 6 ≤ ((Vermyth.combinedComponents constraintOwn vectorOwn).map fun c =>
            c / Vermyth.l2Norm math (Vermyth.combinedComponents constraintOwn vectorOwn)).length := by
          rw [List.length_map, Vermyth.combinedComponents, List.length_map, List.length_range]
          exact constraintOwn.atLeastSix
        simp only [if_neg zero, create_vector_ok _ _ long]
        exact ⟨_, _, _, rfl, rfl, rfl, rfl, rfl⟩

theorem intent_ports : ∃ vector, engine.buildIntentVector intent = .ok vector ∧
    IntentPorts engine.registry vector (own.intentVector intent) := by
  obtain ⟨constraint, made, constraintPorts⟩ := constraint_ports engine own ports intent
  have semantics := semantic_ports engine own ports intent
  have basis : constraint.basisVersion = some engine.registry.basisVersion := by
    rw [constraintPorts.basisVersion, ports.registry.basisVersion]
    rfl
  obtain ⟨combined, method, confidence, joined, combinedBasis, components, sameMethod, sameConfidence⟩ :=
    combine_ports own.math engine.registry constraint basis _ _ _ constraintPorts semantics
  obtain ⟨-, full, part⟩ := combined_valid own.math (Vermyth.buildConstraintVector own.math own.registry intent)
    (Vermyth.buildSemanticVector own.math own.backend own.registry intent)
  rw [← sameMethod] at full part
  rw [← sameConfidence] at part
  have some : (engine.buildSemanticVector intent).isSome =
      (Vermyth.buildSemanticVector own.math own.backend own.registry intent).isSome := related_some _ _ _ semantics
  have hasSemantic : ¬ (method = .full ∧ (engine.buildSemanticVector intent).isNone) := by
    rintro ⟨isFull, none⟩
    rw [← some] at full
    rw [Option.isNone_iff_eq_none.mp none] at full
    exact absurd (full isFull) Bool.false_ne_true
  have sure : ¬ (method = .partially ∧ 65 / 100 < confidence) := fun both => absurd both.2 (not_lt.mpr (part both.1))
  rw [ResonanceEngine.buildIntentVector, made, ports.math]
  simp only [bind, Except.bind, joined, createIntentVector, if_neg hasSemantic, if_neg sure]
  exact ⟨_, rfl, components, combinedBasis, sameMethod, constraintPorts, semantics, sameConfidence⟩

omit ports in
theorem score_reading (sigil : Sigil) (face : SigilFace) (facePorts : FacePorts sigil face) (x : ℚ) (note : String) :
    (scoreOf sigil x note).raw = (x + 1) / 2 ∧
      (scoreOf sigil x note).adjusted = adjustedBy face.resonanceCeiling (penalized face.contradictionSeverity x) ∧
      (scoreOf sigil x note).ceilingApplied =
        ceilingApplied face.resonanceCeiling (penalized face.contradictionSeverity x) := by
  have penalty : penaltyOf sigil.contradictionSeverity = contradictionPenalty face.contradictionSeverity := by
    rw [facePorts.contradictionSeverity]
    cases face.contradictionSeverity <;> rfl
  refine ⟨rfl, ?_, ?_⟩
  · simp only [scoreOf, penalty, facePorts.resonanceCeiling]
    rfl
  · simp only [scoreOf, penalty, facePorts.resonanceCeiling]
    rfl

omit ports in
theorem effect_same (sigil : Sigil) (face : SigilFace) (name : sigil.name = face.name) (verdictType : VerdictType) :
    effectDescription sigil verdictType = Vermyth.effectDescription face verdictType := by
  unfold effectDescription Vermyth.effectDescription
  rw [name]

theorem port_computes (sigil : Sigil) (face : SigilFace) (facePorts : FacePorts sigil face) :
    ∃ verdict, engine.computeVerdict sigil intent = .ok verdict ∧
      verdict.reading = readingAt face (own.intentVector intent) (cosine own.math face.semanticVector.components
        (own.intentVector intent).vector.components) ∧
      verdict.effectDescription = Vermyth.effectDescription face verdict.verdictType ∧
      verdict.castingNote = castingNote verdict.verdictType sigil.effectClass ∧
      IntentPorts engine.registry verdict.intentVector (own.intentVector intent) := by
  obtain ⟨vector, made, intentPorts⟩ := intent_ports engine own ports intent
  obtain ⟨sigilVec, intentVec, note, common, compared⟩ :=
    common_basis_compares engine.math sigil.semanticVector vector.vector
  rw [facePorts.semanticVector.components, intentPorts.vector, ports.math] at compared
  obtain ⟨raw, adjusted, ceiling⟩ := score_reading sigil face facePorts
    (cosine own.math face.semanticVector.components (own.intentVector intent).vector.components) note
  have scored : computeResonance engine.math sigil vector = .ok (scoreOf sigil
      (cosine own.math face.semanticVector.components (own.intentVector intent).vector.components) note,
      cosine own.math face.semanticVector.components (own.intentVector intent).vector.components) := by
    rw [computeResonance, common, ports.math]
    simp only [bind, Except.bind, compared]
    rfl
  rw [ResonanceEngine.computeVerdict, made]
  simp only [bind, Except.bind, scored]
  refine ⟨_, rfl, ?_, ?_, rfl, intentPorts⟩
  · simp only [Verdict.reading, readingAt, raw, adjusted, ceiling, intentPorts.projectionMethod, intentPorts.confidence]
    rfl
  · exact effect_same sigil face facePorts.name _

omit ports in
theorem evaluated_fields (math : VectorMath) (face : SigilFace) (vector : Vermyth.IntentVector)
    (verdict : EvaluatedVerdict) (evaluated : evaluateWithIntentVector math face vector = .ok verdict) :
    verdict.intentVector = vector ∧ verdict.effectDescription = Vermyth.effectDescription face verdict.verdictType := by
  rw [evaluateWithIntentVector] at evaluated
  obtain ⟨resonance, -, evaluated⟩ := (bind_ok _ _ _).mp evaluated
  by_cases fits : (Vermyth.effectDescription face (verdictTypeOf resonance.adjusted)).length ≤ 300
  · simp only [dif_pos fits] at evaluated
    obtain rfl := Except.ok.inj evaluated
    exact ⟨rfl, rfl⟩
  · simp only [dif_neg fits] at evaluated
    contradiction

theorem verdict_ports (sigil : Sigil) (face : SigilFace) (facePorts : FacePorts sigil face)
    (valid : CeilingValid face.resonanceCeiling)
    (fits : NameFits own.math face (own.intentVector intent).vector) :
    VerdictPorts engine.registry sigil.effectClass (engine.evaluate sigil intent)
      (Vermyth.evaluate own.math own.backend own.registry face intent) := by
  obtain ⟨verdict, computed, reading, described, noted, intentPorts⟩ :=
    port_computes engine own ports intent sigil face facePorts
  obtain ⟨verdictOwn, evaluated, readingOwn⟩ := evaluation_fits own.math face valid (own.intentVector intent) fits
  obtain ⟨vectorOwn, describedOwn⟩ := evaluated_fields own.math face _ verdictOwn evaluated
  have whole : Vermyth.evaluate own.math own.backend own.registry face intent = verdictOwn := by
    rw [Vermyth.evaluate, ← Vermyth.ResonanceEngine.intentVector, evaluated]
  have same := reading.trans readingOwn.symm
  have types : verdict.verdictType = verdictOwn.verdictType := congrArg VerdictReading.verdictType same
  rw [ResonanceEngine.evaluate, computed, whole]
  refine ⟨same, ?_, ?_, ?_⟩
  · rw [described, describedOwn, types]
  · rw [noted, types]
  · rwa [vectorOwn]

end Intents

end Vermyth.Typescript
