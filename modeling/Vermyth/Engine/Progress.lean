import Vermyth.Engine.AutoChain
import Vermyth.Foundation.Raises

set_option autoImplicit false

namespace Vermyth

open Foundation

def VectorMath.RootsPositive (math : VectorMath) : Prop := ∀ x, 0 < x → 0 < math.sqrt x

def asReal (items : List ℚ) : List ℝ := items.map fun x : ℚ => (x : ℝ)

noncomputable def realCosine (a b : SemanticVector) : ℝ :=
  cosineBy Real.sqrt (asReal a.components) (asReal b.components)

def ResonanceEngine.nearestVector (engine : ResonanceEngine) (vector : SemanticVector) : Option SemanticVector :=
  (engine.best vector 3).map fun best => fromAspects engine.registry best.scored.anchor.aspects

def MakesProgress (engine : ResonanceEngine) (vector : SemanticVector) (blendAlpha : ℚ) (chain : List CastRecord) : Prop :=
  ∀ i current next nearest, i + 1 < chain.length → engine.stepVector blendAlpha vector i = .ok current →
    engine.stepVector blendAlpha vector (i + 1) = .ok next → engine.nearestVector vector = some nearest →
      realCosine current nearest < realCosine next nearest

theorem unit_same_direction (math : VectorMath) (roots : math.RootsPositive) (components : List ℚ) :
    SameDirection components (unitComponents math components) := by
  have norm : l2Norm math components = math.sqrt (squares components) := rfl
  by_cases zero : squares components = 0
  · have none : ∀ i, coeff components i = 0 := by
      have each := (squares_zero_iff components).mp zero
      intro i
      by_cases inside : i < components.length
      · rw [coeff, List.getD_eq_getElem _ _ inside]
        exact each _ (List.getElem_mem inside)
      · exact coeff_past components i (not_lt.mp inside)
    refine ⟨1, one_pos, fun i => ?_⟩
    rw [unitComponents]
    by_cases empty : l2Norm math components = 0
    · rw [if_pos empty, coeff_map (fun _ => (0 : ℚ)) rfl, none, mul_zero]
    · rw [if_neg empty, coeff_map (fun c => c / l2Norm math components) (zero_div _), none, mul_zero, zero_div]
  · have positive : 0 < l2Norm math components :=
      norm ▸ roots _ (lt_of_le_of_ne (squares_nonneg components) (Ne.symm zero))
    refine ⟨(l2Norm math components)⁻¹, inv_pos.mpr positive, fun i => ?_⟩
    rw [unitComponents, if_neg positive.ne', coeff_map (fun c => c / l2Norm math components) (zero_div _),
      div_eq_inv_mul]

theorem mixed_coeff (share : ℚ) (current target : List ℚ) (i : Nat) :
    coeff (mixedComponents share current target) i = (1 - share) * coeff current i + share * coeff target i := by
  rw [mixedComponents, coeff_range]
  by_cases inside : i < max current.length target.length
  · rw [if_pos inside]
  · have past := not_lt.mp inside
    rw [if_neg inside, coeff_past current i (le_trans (Nat.le_max_left _ _) past),
      coeff_past target i (le_trans (Nat.le_max_right _ _) past), mul_zero, mul_zero, add_zero]

theorem mixed_same_direction (share : ℚ) (least : 0 ≤ share) (most : share ≤ 1) (current target : List ℚ)
    (same : SameDirection current target) : SameDirection current (mixedComponents share current target) := by
  obtain ⟨scale, positive, each⟩ := same
  refine ⟨(1 - share) + share * scale, ?_, fun i => ?_⟩
  · rcases most.lt_or_eq with below | rfl
    · exact add_pos_of_pos_of_nonneg (sub_pos.mpr below) (mul_nonneg least positive.le)
    · rw [sub_self, zero_add, one_mul]
      exact positive
  · rw [mixed_coeff, each]
    ring

-- What a step blends with is the unit vector of its own vector.
theorem next_vector_direction (engine : ResonanceEngine) (roots : engine.math.RootsPositive) (blendAlpha : ℚ)
    (current next : SemanticVector) (went : engine.nextVector blendAlpha current = .ok next) :
    SameDirection current.components next.components := by
  obtain ⟨fluid, made, went⟩ := (bind_ok _ _ _).mp went
  obtain rfl := Except.ok.inj went
  rw [interpolate_vector engine current 3 fluid made]
  refine same_direction_trans _ _ _ ?_ (unit_same_direction engine.math roots _)
  apply mixed_same_direction
  · exact le_max_left _ _
  · exact max_le zero_le_one (min_le_left _ _)
  · exact unit_same_direction engine.math roots current.components

theorem step_vector_direction (engine : ResonanceEngine) (roots : engine.math.RootsPositive) (blendAlpha : ℚ)
    (vector current : SemanticVector) (step : Nat) (reached : engine.stepVector blendAlpha vector step = .ok current) :
    SameDirection vector.components current.components := by
  induction step generalizing current with
  | zero =>
      obtain rfl := Except.ok.inj reached
      exact same_direction_refl _
  | succ step ih =>
      obtain ⟨before, earlier, went⟩ := (bind_ok _ _ _).mp reached
      exact same_direction_trans _ _ _ (ih before earlier)
        (next_vector_direction engine roots blendAlpha before current went)

theorem as_real_direction (items others : List ℚ) (same : SameDirection items others) :
    SameDirection (asReal items) (asReal others) := by
  obtain ⟨scale, positive, each⟩ := same
  refine ⟨scale, by exact_mod_cast positive, fun i => ?_⟩
  rw [asReal, asReal, coeff_map _ Rat.cast_zero, coeff_map _ Rat.cast_zero, each, Rat.cast_mul]

theorem step_vector_cosine (engine : ResonanceEngine) (roots : engine.math.RootsPositive) (blendAlpha : ℚ)
    (vector current sigil : SemanticVector) (step : Nat)
    (reached : engine.stepVector blendAlpha vector step = .ok current) :
    realCosine current sigil = realCosine vector sigil :=
  same_direction_cosine sqrt_homogeneous _ _ _
    (as_real_direction _ _ (step_vector_direction engine roots blendAlpha vector current step reached))

theorem auto_cast_done (engine : ResonanceEngine) (vector : SemanticVector) (intent : Intent) (maxDepth : Int)
    (targetResonance blendAlpha : ℚ) (stamps : ChainStamps) (final : CastRecord) (chain : List CastRecord)
    (cast : engine.autoCast vector intent maxDepth targetResonance blendAlpha stamps = .ok (final, chain)) :
    ∃ done, ChainDone engine vector intent targetResonance blendAlpha stamps maxDepth.toNat done ∧
      done.final = final ∧ done.chain = chain := by
  rw [← diagnosed_cast_same] at cast
  obtain ⟨done, went, own⟩ := (map_ok _ _ _).mp cast
  obtain ⟨rfl, rfl⟩ := Prod.mk.inj own
  exact ⟨done, diagnosed_cast_done engine vector intent targetResonance blendAlpha stamps maxDepth done went, rfl, rfl⟩

theorem one_cast_iff (engine : ResonanceEngine) (vector : SemanticVector) (intent : Intent) (maxDepth : Int)
    (targetResonance blendAlpha : ℚ) (stamps : ChainStamps) (final : CastRecord) (chain : List CastRecord)
    (cast : engine.autoCast vector intent maxDepth targetResonance blendAlpha stamps = .ok (final, chain)) :
    chain.length ≤ 1 ↔ maxDepth ≤ 1 ∨ engine.FirstReaches vector intent targetResonance stamps := by
  obtain ⟨done, held, rfl, rfl⟩ :=
    auto_cast_done engine vector intent maxDepth targetResonance blendAlpha stamps final chain cast
  obtain ⟨first, rest, split⟩ := List.exists_cons_of_ne_nil
    (List.ne_nil_of_mem (List.mem_of_getLast? held.last))
  have begins : done.chain[0]? = some first := by
    rw [split]
    rfl
  obtain ⟨current, base, reached, made, own⟩ := held.run.each 0 first begins
  obtain rfl := Except.ok.inj reached
  have ofFirst : engine.FirstReaches vector intent targetResonance stamps ↔ first.verdict.Reaches targetResonance := by
    rw [own]
    constructor
    · exact fun reaches => reaches base made
    · intro reaches other again
      obtain rfl := Except.ok.inj (made.symm.trans again)
      exact reaches
  rw [ofFirst]
  constructor
  · intro single
    have none : rest = [] := by
      rw [split, List.length_cons] at single
      exact List.eq_nil_of_length_eq_zero (by omega)
    have isFinal : done.final = first := by
      have last := held.last
      rw [split, none] at last
      exact (Option.some.inj last).symm
    by_cases reaches : first.verdict.Reaches targetResonance
    · exact Or.inr reaches
    · have full := held.full (isFinal ▸ reaches)
      exact Or.inl (by omega)
  · rintro (shallow | reaches)
    · have bounded := held.bounded
      omega
    · cases rest with
      | nil => rw [split, List.length_singleton]
      | cons second more =>
          refine absurd reaches (held.missed first ?_)
          rw [split, List.dropLast_cons_cons]
          exact List.mem_cons_self

theorem second_step_stays (engine : ResonanceEngine) (roots : engine.math.RootsPositive) (vector : SemanticVector)
    (intent : Intent) (maxDepth : Int) (targetResonance blendAlpha : ℚ) (stamps : ChainStamps) (final : CastRecord)
    (chain : List CastRecord)
    (cast : engine.autoCast vector intent maxDepth targetResonance blendAlpha stamps = .ok (final, chain))
    (long : 1 < chain.length) : ¬ MakesProgress engine vector blendAlpha chain := by
  intro progress
  obtain ⟨done, held, rfl, rfl⟩ :=
    auto_cast_done engine vector intent maxDepth targetResonance blendAlpha stamps final chain cast
  have second : done.chain[1]? = some done.chain[1] := List.getElem?_eq_getElem long
  obtain ⟨next, -, reached, -, -⟩ := held.run.each 1 _ second
  obtain ⟨current, started, went⟩ := (bind_ok _ _ _).mp reached
  obtain rfl := Except.ok.inj started
  obtain ⟨fluid, made, -⟩ := (bind_ok _ _ _).mp went
  obtain ⟨-, -, best, chosen, -⟩ := interpolate_found engine vector 3 fluid made
  have nearest : engine.nearestVector vector = some (fromAspects engine.registry best.scored.anchor.aspects) := by
    rw [ResonanceEngine.nearestVector, chosen]
    rfl
  have nearer := progress 0 vector next _ long rfl reached nearest
  rw [step_vector_cosine engine roots blendAlpha vector next _ 1 reached] at nearer
  exact lt_irrefl _ nearer

theorem auto_cast_progress_iff (engine : ResonanceEngine) (roots : engine.math.RootsPositive) (vector : SemanticVector)
    (intent : Intent) (maxDepth : Int) (targetResonance blendAlpha : ℚ) (stamps : ChainStamps) (final : CastRecord)
    (chain : List CastRecord)
    (cast : engine.autoCast vector intent maxDepth targetResonance blendAlpha stamps = .ok (final, chain)) :
    MakesProgress engine vector blendAlpha chain ↔
      maxDepth ≤ 1 ∨ engine.FirstReaches vector intent targetResonance stamps := by
  rw [← one_cast_iff engine vector intent maxDepth targetResonance blendAlpha stamps final chain cast]
  constructor
  · intro progress
    by_contra long
    exact second_step_stays engine roots vector intent maxDepth targetResonance blendAlpha stamps final chain cast
      (not_le.mp long) progress
  · intro short i current next nearest inside
    omega

theorem square_roots_positive : squareRoots.RootsPositive := by
  intro x positive
  have num : 0 < Nat.sqrt x.num.toNat := Nat.sqrt_pos.mpr (by have := Rat.num_pos.mpr positive; omega)
  have den : 0 < Nat.sqrt x.den := Nat.sqrt_pos.mpr x.den_pos
  exact div_pos (Nat.cast_pos.mpr num) (Nat.cast_pos.mpr den)

theorem hollow_chain : ∃ final chain,
    lowCeiling.autoCast tilted cautious 3 (3 / 4) (35 / 100) numberedStamps = .ok (final, chain) ∧ chain.length = 3 := by
  obtain ⟨done, cast, length⟩ := hollow_cast
  refine ⟨done.final, done.chain, ?_, length⟩
  rw [← diagnosed_cast_same, cast]
  rfl

theorem auto_cast_progress_hollow : ∃ final chain,
    lowCeiling.autoCast tilted cautious 3 (3 / 4) (35 / 100) numberedStamps = .ok (final, chain) ∧
      (MakesProgress lowCeiling tilted (35 / 100) chain ↔
        (3 : Int) ≤ 1 ∨ lowCeiling.FirstReaches tilted cautious (3 / 4) numberedStamps) := by
  obtain ⟨final, chain, cast, -⟩ := hollow_chain
  exact ⟨final, chain, cast, auto_cast_progress_iff lowCeiling square_roots_positive tilted cautious 3 (3 / 4)
    (35 / 100) numberedStamps final chain cast⟩

theorem hollow_apart : ∀ nearest ∈ lowCeiling.nearestVector tilted, ¬ Parallel tilted.components nearest.components := by
  have own : (lowCeiling.nearestVector tilted).map SemanticVector.components = some [-95 / 100, 0, 0, 0, 0, 0] := by
    decide +kernel
  intro nearest isNearest
  rw [Option.mem_def.mp isNearest] at own
  have components : nearest.components = [-95 / 100, 0, 0, 0, 0, 0] := Option.some.inj own
  rw [components]
  rintro ⟨scale, each⟩
  have second : (0 : ℚ) = scale * (8 / 10) := each 1
  have first : (-95 / 100 : ℚ) = scale * (-6 / 10) := each 0
  linarith

theorem hollow_chain_stays :
    (∃ final chain, lowCeiling.autoCast tilted cautious 3 (3 / 4) (35 / 100) numberedStamps = .ok (final, chain) ∧
      chain.length = 3 ∧ ¬ MakesProgress lowCeiling tilted (35 / 100) chain) ∧
    ¬ ∀ (engine : ResonanceEngine) (vector : SemanticVector) (intent : Intent) (maxDepth : Int)
      (targetResonance blendAlpha : ℚ) (stamps : ChainStamps) (final : CastRecord) (chain : List CastRecord),
      engine.math.RootsPositive → 0 < blendAlpha → blendAlpha ≤ 1 → squares vector.components ≠ 0 →
        (∀ nearest ∈ engine.nearestVector vector, ¬ Parallel vector.components nearest.components) →
          engine.autoCast vector intent maxDepth targetResonance blendAlpha stamps = .ok (final, chain) →
            MakesProgress engine vector blendAlpha chain := by
  obtain ⟨final, chain, cast, length⟩ := hollow_chain
  have stays := second_step_stays lowCeiling square_roots_positive tilted cautious 3 (3 / 4) (35 / 100) numberedStamps
    final chain cast (by omega)
  refine ⟨⟨final, chain, cast, length, stays⟩, ?_⟩
  intro always
  have positive : (0 : ℚ) < 35 / 100 ∧ (35 / 100 : ℚ) ≤ 1 ∧ squares tilted.components ≠ 0 := by decide +kernel
  exact stays (always lowCeiling tilted cautious 3 (3 / 4) (35 / 100) numberedStamps final chain square_roots_positive
    positive.1 positive.2.1 positive.2.2 hollow_apart cast)

end Vermyth
