import Mathlib.Tactic.NormNum.Basic
import Vermyth.Engine.Resonance
import Vermyth.Grimoire.Replay

set_option autoImplicit false

namespace Vermyth

open Foundation

inductive AspectsRegistered : AspectRegistry → AspectRegistry → Prop where
  | nothing (registry : AspectRegistry) : AspectsRegistered registry registry
  | more (registry middle after : AspectRegistry) (aspect : RegisteredAspect) (version : Nat) :
      AspectsRegistered registry middle → middle.register aspect = .ok after →
        AspectsRegistered registry (after.setBasisVersion version)

def AspectRegistry.Extends (later earlier : AspectRegistry) : Prop :=
  ∃ news : List RegisteredAspect, later.registered = earlier.registered ++ news ∧
    ∀ aspect ∈ news, AspectRegistry.isCanonical aspect.name = false

theorem registered_extends (earlier later : AspectRegistry) (registered : AspectsRegistered earlier later) :
    later.Extends earlier := by
  induction registered with
  | nothing => exact ⟨[], by simp⟩
  | more middle after aspect version before registers ih =>
      obtain ⟨news, same, uncanonical⟩ := ih
      obtain ⟨notCanonical, -, rfl⟩ := (AspectRegistry.register_ok middle after aspect).mp registers
      refine ⟨news ++ [aspect], ?_, ?_⟩
      · rw [AspectRegistry.setBasisVersion, same, List.append_assoc]
      · intro own member
        rcases List.mem_append.mp member with old | last
        · exact uncanonical own old
        · rw [List.mem_singleton.mp last]
          exact notCanonical

theorem tool_register_aspect_registered (aspectId : String) (polarity : Int) (entropyCoefficient : ℚ)
    (symbol : String) (earlier : AspectRegistry) (process after : VermythProcess)
    (before : AspectsRegistered earlier process.registry)
    (done : toolRegisterAspect aspectId polarity entropyCoefficient symbol process = .ok after) :
    AspectsRegistered earlier after.registry ∧ after.engine = process.engine := by
  cases made : RegisteredAspect.make aspectId polarity entropyCoefficient symbol with
  | error raised => simp [toolRegisterAspect, made, bind, Except.bind] at done
  | ok aspect =>
      cases registers : process.registry.register aspect with
      | error raised => simp [toolRegisterAspect, made, registers, bind, Except.bind] at done
      | ok registry =>
          by_cases taken : process.grimoire.registeredAspects.Has aspect.name
          · simp [toolRegisterAspect, made, registers, write_registered_aspect_taken _ _ _ _ taken, bind,
              Except.bind] at done
          · simp only [toolRegisterAspect, made, registers, write_registered_aspect_fresh _ _ _ _ taken, bind,
              Except.bind, pure, Except.pure, Except.ok.injEq] at done
            subst done
            exact ⟨.more earlier process.registry registry aspect _ before registers, rfl⟩

def AspectSet.Canonical (aspects : AspectSet) : Prop :=
  ∀ name ∈ aspects.names, AspectRegistry.isCanonical name = true

theorem canonical_known (registry : AspectRegistry) (aspects : AspectSet) (canonical : aspects.Canonical) :
    ∀ name ∈ aspects.names, name ∈ registry.names := by
  intro name member
  obtain ⟨id, known, same⟩ := List.any_eq_true.mp (canonical name member)
  rw [registry_names, List.mem_append]
  exact Or.inl (List.mem_map.mpr ⟨id, known, of_decide_eq_true same⟩)

theorem from_aspects_components (registry : AspectRegistry) (aspects : AspectSet) :
    (fromAspects registry aspects).components =
      (aspectCanonicalOrder.map Aspect.canonical ++ registry.registered.map Aspect.registered).map fun aspect =>
        if aspect.name ∈ aspects.names then aspect.entropyCoefficient * (if aspect.polarity = 1 then 1 else -1)
        else 0 := rfl

section Extension

variable (math : VectorMath) (earlier later : AspectRegistry) (extension : later.Extends earlier)

include extension

theorem extension_key (aspects : AspectSet) (canonical : aspects.Canonical) :
    canonicalAspectKey later aspects = canonicalAspectKey earlier aspects := by
  obtain ⟨news, same, uncanonical⟩ := extension
  have names : later.names = earlier.names ++ news.map RegisteredAspect.name := by
    rw [registry_names, registry_names, same, List.map_append, List.append_assoc]
  have newOnly : ((news.map RegisteredAspect.name).filter fun name => name ∈ aspects.names) = [] := by
    rw [List.filter_eq_nil_iff]
    intro name isNew inSet
    obtain ⟨aspect, member, rfl⟩ := List.mem_map.mp isNew
    have known := canonical _ (of_decide_eq_true inSet)
    rw [uncanonical aspect member] at known
    contradiction
  rw [canonical_key_known earlier aspects (canonical_known earlier aspects canonical),
    canonical_key_known later aspects (canonical_known later aspects canonical), names, List.filter_append, newOnly,
    List.append_nil]

theorem extension_aspects (aspects : AspectSet) (canonical : aspects.Canonical) :
    SameCoeffs (fromAspects later aspects).components (fromAspects earlier aspects).components := by
  obtain ⟨news, same, uncanonical⟩ := extension
  have zeros : (fromAspects later aspects).components =
      (fromAspects earlier aspects).components ++ List.replicate news.length 0 := by
    have order : aspectCanonicalOrder.map Aspect.canonical ++ later.registered.map Aspect.registered =
        (aspectCanonicalOrder.map Aspect.canonical ++ earlier.registered.map Aspect.registered) ++
          news.map Aspect.registered := by
      rw [same, List.map_append, List.append_assoc]
    rw [from_aspects_components, from_aspects_components, order,
      List.map_append, List.append_cancel_left_eq, List.map_map,
      List.eq_replicate_iff]
    refine ⟨List.length_map _, ?_⟩
    intro component member
    obtain ⟨aspect, isNew, rfl⟩ := List.mem_map.mp member
    refine if_neg fun inSet => ?_
    have known := canonical _ inSet
    rw [Aspect.name, uncanonical aspect isNew] at known
    contradiction
  rw [zeros]
  exact coeff_zeros _ _

end Extension

-- The pressures stop after six dimensions.
theorem pressure_coeff (registry : AspectRegistry) (intent : Intent) (i : Nat) :
    coeff (pressureComponents registry intent) i =
      clipComponent (coeff (reversibilityPressures intent.reversibility) i +
        coeff (sideEffectPressures intent.sideEffectTolerance) i) := by
  rw [pressureComponents, coeff_range]
  by_cases inside : i < registry.dimensionality
  · rw [if_pos inside]
  · have six := registry.dimensionality_six
    have reversibility : (reversibilityPressures intent.reversibility).length = 6 := by
      cases intent.reversibility <;> rfl
    have sideEffects : (sideEffectPressures intent.sideEffectTolerance).length = 6 := by
      cases intent.sideEffectTolerance <;> rfl
    rw [if_neg inside, coeff_past _ i (by omega), coeff_past _ i (by omega), add_zero]
    exact (by decide +kernel : (0 : ℚ) = clipComponent 0)

theorem constraint_same (math : VectorMath) (earlier later : AspectRegistry) (intent : Intent) :
    SameCoeffs (buildConstraintVector math later intent).components
      (buildConstraintVector math earlier intent).components := by
  apply same_unit
  intro i
  rw [pressure_coeff, pressure_coeff]

def SixComponents (backend : Option ProjectionBackend) : Prop :=
  ∀ project ∈ backend, ∃ items : List Json, items.length = 6 ∧
    ∀ objective scope, project objective scope = .ok (.arr items)

theorem map_m_length (items : List Json) (floats : List ℚ) (mapped : items.mapM projectedComponent = some floats) :
    floats.length = items.length := by
  induction items generalizing floats with
  | nil =>
      obtain rfl : [] = floats := by simpa using mapped
      rfl
  | cons first rest ih =>
      obtain ⟨x, -, floats, isRest, rfl⟩ : ∃ x, projectedComponent first = some x ∧ ∃ more,
          rest.mapM projectedComponent = some more ∧ x :: more = floats := by
        simpa [List.mapM_cons, Option.bind_eq_some_iff] using mapped
      rw [List.length_cons, List.length_cons, ih floats isRest]

theorem projected_six (items : List Json) (six : items.length = 6) (floats : List ℚ)
    (projected : projectedComponents (.ok (.arr items)) = some floats) : floats.length = 6 := by
  have enough : ¬ items.length < 6 := by omega
  rw [projectedComponents, if_neg enough] at projected
  rw [map_m_length items floats projected, six]

theorem semantic_cases (math : VectorMath) (backend : Option ProjectionBackend) (six : SixComponents backend)
    (intent : Intent) :
    (∀ registry, buildSemanticVector math backend registry intent = none) ∨
      ∃ floats : List ℚ, floats.length = 6 ∧ ∀ registry, buildSemanticVector math backend registry intent =
        some (normalizeUnit math registry (paddedTo registry.dimensionality floats) (padded_six registry floats)) := by
  cases backend with
  | none => exact Or.inl fun _ => rfl
  | some project =>
      obtain ⟨items, length, answers⟩ := six project rfl
      cases projected : projectedComponents (.ok (.arr items)) with
      | none =>
          refine Or.inl fun registry => ?_
          simp only [buildSemanticVector, answers, projected]
      | some floats =>
          refine Or.inr ⟨floats, projected_six items length floats projected, fun registry => ?_⟩
          simp only [buildSemanticVector, answers, projected]

theorem constraint_length (math : VectorMath) (registry : AspectRegistry) (intent : Intent) :
    (buildConstraintVector math registry intent).components.length = registry.dimensionality := by
  rw [buildConstraintVector, normalizeUnit, unit_components_length, pressureComponents, List.length_map,
    List.length_range]

theorem combined_coeff (constraint semantic : SemanticVector)
    (shorter : semantic.components.length ≤ constraint.components.length) (i : Nat) :
    coeff (combinedComponents constraint semantic) i =
      coeff constraint.components i * (35 / 100) + coeff semantic.components i * (65 / 100) := by
  rw [combinedComponents, coeff_range]
  by_cases inside : i < constraint.components.length
  · rw [if_pos inside]
  · rw [if_neg inside, coeff_past _ i (by omega), coeff_past _ i (by omega), zero_mul, zero_mul, add_zero]

structure SameIntent (intent again : IntentVector) : Prop where
  vector : SameCoeffs intent.vector.components again.vector.components
  projectionMethod : intent.projectionMethod = again.projectionMethod
  confidence : intent.confidence = again.confidence

theorem intent_vector_same (math : VectorMath) (backend : Option ProjectionBackend) (six : SixComponents backend)
    (earlier later : AspectRegistry) (intent : Intent) :
    SameIntent (buildIntentVector math backend later intent) (buildIntentVector math backend earlier intent) := by
  have constraint := constraint_same math earlier later intent
  rcases semantic_cases math backend six intent with absent | ⟨floats, length, projected⟩
  · rw [buildIntentVector, buildIntentVector, absent, absent]
    exact ⟨constraint, rfl, rfl⟩
  · have combined : SameCoeffs
        (combinedComponents (buildConstraintVector math later intent)
          (normalizeUnit math later (paddedTo later.dimensionality floats) (padded_six later floats)))
        (combinedComponents (buildConstraintVector math earlier intent)
          (normalizeUnit math earlier (paddedTo earlier.dimensionality floats) (padded_six earlier floats))) := by
      intro i
      have semantic : SameCoeffs (unitComponents math (paddedTo later.dimensionality floats))
          (unitComponents math (paddedTo earlier.dimensionality floats)) := by
        apply same_unit
        intro i
        rw [paddedTo, paddedTo, coeff_zeros, coeff_zeros]
      rw [combined_coeff, combined_coeff, constraint i]
      · exact congrArg _ (congrArg (· * (65 / 100)) (semantic i))
      · rw [constraint_length, normalizeUnit, unit_components_length, paddedTo, List.length_append,
          List.length_replicate, length]
        have least := earlier.dimensionality_six
        omega
      · rw [constraint_length, normalizeUnit, unit_components_length, paddedTo, List.length_append,
          List.length_replicate, length]
        have least := later.dimensionality_six
        omega
    have norms := same_norm math _ _ combined
    rw [buildIntentVector, buildIntentVector, projected, projected]
    simp only [combineVectors, norms]
    split
    · exact ⟨constraint, rfl, rfl⟩
    · exact ⟨same_map (fun c => c / _) (zero_div _) _ _ combined, rfl, rfl⟩

end Vermyth
