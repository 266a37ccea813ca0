import Mathlib.Algebra.Order.Floor.Ring
import Mathlib.Data.Rat.Floor
import Vermyth.Engine.SeedStatistic
import Vermyth.Grimoire.Accumulation
import Vermyth.Grimoire.Replay
import Vermyth.Schema.Policy

set_option autoImplicit false

namespace Vermyth

open Foundation

theorem sql_integer_small (value : Nat) (small : value < 2 ^ 63) : sqlInteger value = .ok (value : Int) := by
  rw [sqlInteger, if_pos]
  omega

theorem running_mean_unit (mean value : ℚ) (n : Nat) (ofMean : InUnit mean) (ofValue : InUnit value) :
    InUnit (runningMean mean n value) := by
  have count : (0 : ℚ) ≤ n := Nat.cast_nonneg n
  have positive : (0 : ℚ) < (n + 1 : Nat) := by exact_mod_cast Nat.succ_pos n
  have sum : mean * n ≤ 1 * n := mul_le_mul_of_nonneg_right ofMean.2 count
  constructor
  · exact div_nonneg (add_nonneg (mul_nonneg ofMean.1 count) ofValue.1) positive.le
  · rw [runningMean, div_le_one positive, Nat.cast_add, Nat.cast_one]
    linarith [ofValue.2]

theorem round_hundredths_unit (value : ℚ) (unit : InUnit value) : InUnit (roundHundredths value) := by
  obtain ⟨atLeast, atMost⟩ := unit
  have low : (0 : ℚ) ≤ (value * 100).floor := by
    have floor : 0 ≤ (value * 100).floor := Rat.le_floor_iff.mpr (by push_cast; linarith)
    exact_mod_cast floor
  have below : ((value * 100).floor : ℚ) ≤ value * 100 := Rat.floor_le (value * 100)
  rw [roundHundredths]
  split_ifs with down
  · exact ⟨by positivity, by linarith⟩
  · refine ⟨by positivity, ?_⟩
    -- what is rounded up is below the next hundredth
    have under : (value * 100).floor < 100 := by
      by_contra above
      have whole : (100 : ℚ) ≤ (value * 100).floor := by exact_mod_cast not_lt.mp above
      exact down (Or.inl (by linarith))
    have next : ((value * 100).floor : ℚ) + 1 ≤ 100 := by exact_mod_cast under
    linarith

structure SoundSeed (seed : GlyphSeed) : Prop where
  sized : seed.aspectPattern.Sized
  mean : InUnit seed.meanResonance
  rate : InUnit seed.coherenceRate
  generation : 1 ≤ seed.generation
  observations : seed.observedCount + 1 < 2 ^ 63
  generations : seed.generation + 1 < 2 ^ 63

theorem members_sized (a b : AspectSet) (same : a.members = b.members) (sized : a.Sized) : b.Sized := by
  have count := ((members_eq a b).mp same).length_eq
  rw [AspectSet.Sized, ← count]
  exact sized

structure GrownSound (registry : AspectRegistry) (pattern : Finset String) (seed : GlyphSeed) : Prop where
  own : seed.aspectPattern.members = pattern
  mean : InUnit seed.meanResonance
  observations : seed.observedCount < 2 ^ 63
  generations : seed.generation + 1 < 2 ^ 63
  basis : seed.semanticVector.normalizedBasisVersion = registry.basisVersion

theorem glyph_seed_made (registry : AspectRegistry) (order : SetOrder) (seedId : String) (aspectPattern : AspectSet)
    (observedCount : Nat) (meanResonance coherenceRate : ℚ) (candidate : Option EffectClass) (crystallized : Bool)
    (generation : Nat) (sized : aspectPattern.Sized) (mean : InUnit meanResonance) (rate : InUnit coherenceRate)
    (first : 1 ≤ generation) (observations : observedCount < 2 ^ 63) (generations : generation + 1 < 2 ^ 63) :
    ∃ seed, GlyphSeed.make registry order seedId aspectPattern observedCount meanResonance coherenceRate candidate
      crystallized generation = .ok seed ∧ GrownSound registry aspectPattern.members seed := by
  refine ⟨{ seedId := seedId, aspectPattern := aspectPattern.rebuild order, observedCount := observedCount,
            meanResonance := meanResonance, coherenceRate := coherenceRate, candidateEffectClass := candidate,
            crystallized := crystallized, generation := generation,
            semanticVector := fromAspects registry aspectPattern }, ?_, ?_⟩
  · have sizes : ¬ ¬ (1 ≤ aspectPattern.names.length ∧ aspectPattern.names.length ≤ 3) := not_not.mpr sized
    have means : ¬ ¬ (0 ≤ meanResonance ∧ meanResonance ≤ 1) := not_not.mpr mean
    have rates : ¬ ¬ (0 ≤ coherenceRate ∧ coherenceRate ≤ 1) := not_not.mpr rate
    rw [GlyphSeed.make, if_neg sizes, if_neg (by omega), if_neg means, if_neg rates, if_neg (by omega)]
    rfl
  · exact ⟨rebuild_members order aspectPattern, mean, observations, generations, rfl⟩

theorem accumulate_sound (registry : AspectRegistry) (order : SetOrder) (drawn : String) (result : SeedCast)
    (seeds : List GlyphSeed) (sized : result.aspects.Sized) (sound : ∀ seed ∈ seeds, SoundSeed seed) :
    ∃ made, accumulate registry order drawn result seeds = .ok made ∧
      ∀ seed ∈ made, GrownSound registry result.aspects.members seed := by
  rw [accumulate]
  cases found : seeds.find? fun seed => seed.aspectPattern.members = result.aspects.members with
  | none =>
      by_cases incoherent : result.verdict.verdictType = .incoherent
      · refine ⟨none, ?_, fun seed made => absurd made (Option.not_mem_none seed)⟩
        simp only [if_pos incoherent]
      · obtain ⟨seed, made, grown⟩ := glyph_seed_made registry order drawn result.aspects 1 result.adjusted
          (cohIncrement result) (some result.effectClass) false 1 sized result.verdict.resonance.inRange
          (coh_increment_unit result) le_rfl (by norm_num) (by norm_num)
        refine ⟨some seed, ?_, ?_⟩
        · simp only [if_neg incoherent]
          exact congrArg (Except.map some) made
        · intro own isOwn
          obtain rfl := Option.some.inj isOwn
          exact grown
  | some matching =>
      have ofPattern : matching.aspectPattern.members = result.aspects.members := by
        simpa using List.find?_some found
      have own := sound matching (List.mem_of_find?_eq_some found)
      obtain ⟨seed, made, grown⟩ := glyph_seed_made registry order drawn matching.aspectPattern
        (matching.observedCount + 1) (runningMean matching.meanResonance matching.observedCount result.adjusted)
        (runningMean matching.coherenceRate matching.observedCount (cohIncrement result))
        (some (matching.candidateEffectClass.getD result.effectClass)) false matching.generation own.sized
        (running_mean_unit _ _ _ own.mean result.verdict.resonance.inRange)
        (running_mean_unit _ _ _ own.rate (coh_increment_unit result)) own.generation own.observations own.generations
      refine ⟨some seed, congrArg (Except.map some) made, ?_⟩
      intro other isOther
      obtain rfl := Option.some.inj isOther
      exact ofPattern ▸ grown

theorem write_seed_small (seed : GlyphSeed) (table : SeedTable) (observations : seed.observedCount < 2 ^ 63)
    (generations : seed.generation < 2 ^ 63)
    (basis : ∃ value, sqlInteger seed.semanticVector.normalizedBasisVersion = .ok value) :
    ∃ after, writeSeed seed table = .ok after := by
  obtain ⟨value, isValue⟩ := basis
  refine ⟨table.put (serializeGlyphSeed seed), ?_⟩
  simp only [writeSeed, sql_integer_small _ observations, sql_integer_small _ generations, isValue]
  rfl

theorem compose_members (engine : CompositionEngine) (registry : AspectRegistry) (order : SetOrder) (a b : AspectSet)
    (same : a.members = b.members) (sized : a.Sized) (known : ∀ name ∈ a.names, name ∈ registry.names)
    (sigil : ResolvedSigil) (composed : engine.compose registry order a = .ok sigil) :
    ∃ own, engine.compose registry order b = .ok own := by
  have report := compose_report engine registry order a sized
  rw [canonical_key_members registry a b same known,
    ← compose_report engine registry order b (members_sized a b same sized), composed] at report
  cases composes : engine.compose registry order b with
  | error raised =>
      rw [composes] at report
      contradiction
  | ok own => exact ⟨own, rfl⟩

theorem crystallize_sound (env : SeedEnv) (result : SeedCast) (seed : GlyphSeed)
    (grown : GrownSound env.registry result.aspects.members seed) (sized : result.aspects.Sized)
    (known : ∀ name ∈ result.aspects.names, name ∈ env.registry.names) (sigil : ResolvedSigil)
    (composed : env.engine.compose env.registry env.order result.aspects = .ok sigil) :
    ∃ made, crystallize env.registry env.order env.engine seed = .ok made ∧
      ∀ own ∈ made, own.semanticVector.normalizedBasisVersion = env.registry.basisVersion := by
  have nothing : ∀ own ∈ (none : Option ResolvedSigil),
      own.semanticVector.normalizedBasisVersion = env.registry.basisVersion :=
    fun own made => absurd made (Option.not_mem_none own)
  obtain ⟨base, composes⟩ :=
    compose_members env.engine env.registry env.order _ _ grown.own.symm sized known sigil composed
  have patternSized := members_sized _ _ grown.own.symm sized
  rw [crystallize]
  split_ifs
  · exact ⟨none, rfl, nothing⟩
  · exact ⟨none, rfl, nothing⟩
  · cases seed.candidateEffectClass with
    | none => exact ⟨none, rfl, nothing⟩
    | some effectClass =>
        obtain ⟨own, made, ofBasis⟩ : ∃ own, ResolvedSigil.make env.registry env.order ("Glyph:" ++ base.name)
            seed.aspectPattern effectClass (roundHundredths seed.meanResonance) base.contradictionSeverity = .ok own ∧
              own.semanticVector.normalizedBasisVersion = env.registry.basisVersion :=
          ⟨_, (resolved_sigil_ok _ _ _ _ _ _ _ _).mpr ⟨patternSized, round_hundredths_unit _ grown.mean, rfl⟩, rfl⟩
        refine ⟨some own, ?_, ?_⟩
        · simp only [composes, bind, Except.bind, made]
          rfl
        · intro other isOther
          obtain rfl := Option.some.inj isOther
          exact ofBasis

theorem generation_of_small (seed : GlyphSeed) (generations : seed.generation + 1 < 2 ^ 63) :
    generationOf seed + 1 < 2 ^ 63 := by
  rw [generationOf]
  split_ifs
  · norm_num
  · exact generations

theorem write_crystallized_small (crystal : CrystallizedSigil) (table : CrystallizedTable)
    (generations : crystal.generation < 2 ^ 63)
    (basis : ∃ value, sqlInteger crystal.sigil.semanticVector.normalizedBasisVersion = .ok value) :
    ∃ after, writeCrystallizedSigil crystal table = .ok after := by
  obtain ⟨value, isValue⟩ := basis
  refine ⟨table.put (serializeCrystallizedSigil crystal), ?_⟩
  simp only [writeCrystallizedSigil, sql_integer_small _ generations, isValue]
  rfl

theorem reset_seed_written (registry : AspectRegistry) (pattern : Finset String) (seed : GlyphSeed) (table : SeedTable)
    (grown : GrownSound registry pattern seed) (basis : ∃ value, sqlInteger registry.basisVersion = .ok value) :
    ∃ after, writeSeed (resetSeed seed) table = .ok after := by
  have small := generation_of_small seed grown.generations
  have ofBasis : (resetSeed seed).semanticVector.normalizedBasisVersion = registry.basisVersion := grown.basis
  have none : (resetSeed seed).observedCount = 0 := rfl
  have next : (resetSeed seed).generation = generationOf seed + 1 := rfl
  generalize resetSeed seed = reset at ofBasis none next
  apply write_seed_small
  · omega
  · omega
  · rw [ofBasis]
    exact basis

theorem crystallize_seed_sound (env : SeedEnv) (result : SeedCast) (seed : GlyphSeed) (now : Datetime)
    (grimoire : Grimoire) (grown : GrownSound env.registry result.aspects.members seed) (sized : result.aspects.Sized)
    (known : ∀ name ∈ result.aspects.names, name ∈ env.registry.names) (sigil : ResolvedSigil)
    (composed : env.engine.compose env.registry env.order result.aspects = .ok sigil)
    (basis : ∃ value, sqlInteger env.registry.basisVersion = .ok value) :
    (crystallizeSeed env seed now grimoire).1 = .ok () := by
  obtain ⟨made, crystallizes, ofBasis⟩ := crystallize_sound env result seed grown sized known sigil composed
  rw [crystallizeSeed, crystallizes]
  cases made with
  | none => rfl
  | some own =>
      have small : (crystalRow own seed now).generation < 2 ^ 63 := by
        have next := generation_of_small seed grown.generations
        have same : (crystalRow own seed now).generation = generationOf seed := rfl
        omega
      have ownBasis : (crystalRow own seed now).sigil.semanticVector.normalizedBasisVersion =
          env.registry.basisVersion := ofBasis own rfl
      obtain ⟨crystallized, written⟩ :=
        write_crystallized_small (crystalRow own seed now) grimoire.crystallized small (by rw [ownBasis]; exact basis)
      obtain ⟨after, reset⟩ := reset_seed_written env.registry _ seed grimoire.seeds grown basis
      simp only []
      generalize writeCrystallizedSigil (crystalRow own seed now) grimoire.crystallized = wrote at written ⊢
      generalize writeSeed (resetSeed seed) grimoire.seeds = again at reset ⊢
      rw [written, reset]

theorem accumulate_seed_sound (env : SeedEnv) (asked : AspectSet) (result : SeedCast) (draw : SeedDraw)
    (store : SeedStore) (same : asked.members = result.aspects.members) (sized : result.aspects.Sized)
    (known : ∀ name ∈ result.aspects.names, name ∈ env.registry.names)
    (sound : ∀ row ∈ store.grimoire.seeds.rows, row.aspectPattern.names = asked.names →
      SoundSeed (restoredSeed env.registry env.order row))
    (sigil : ResolvedSigil) (composed : env.engine.compose env.registry env.order result.aspects = .ok sigil)
    (basis : ∃ value, sqlInteger env.registry.basisVersion = .ok value) :
    (accumulateSeed env asked result draw store).1 = .ok () := by
  obtain ⟨seeds, asks, sounds⟩ : ∃ seeds, querySeeds env.registry env.order (some asked) none store.grimoire.seeds =
      .ok seeds ∧ ∀ seed ∈ seeds, SoundSeed seed := by
    rw [querySeeds, select_seeds_pattern]
    refine ⟨_, map_m_ok _ (restoredSeed env.registry env.order) _ ?_, ?_⟩
    · intro row selected
      have names : row.aspectPattern.names = asked.names := of_decide_eq_true (List.mem_filter.mp selected).2
      apply deserialize_seed_known
      intro name member
      have inResult : name ∈ result.aspects.names := by
        rw [← mem_members, ← same, mem_members, ← names]
        exact member
      exact (resolve_known env.registry name).mpr (known name inResult)
    · intro seed member
      obtain ⟨row, selected, rfl⟩ := List.mem_map.mp member
      obtain ⟨stored, names⟩ := List.mem_filter.mp selected
      exact sound row stored (of_decide_eq_true names)
  obtain ⟨made, accumulates, growth⟩ :=
    accumulate_sound env.registry env.order draw.seedId result seeds sized sounds
  rw [accumulateSeed, asks]
  simp only [accumulates]
  cases made with
  | none => rfl
  | some seed =>
      have grown := growth seed rfl
      have kept : GrownSound env.registry result.aspects.members (keptId seeds seed) := by
        rw [keptId]
        split
        · exact grown
        · exact ⟨grown.own, grown.mean, grown.observations, grown.generations, grown.basis⟩
      obtain ⟨table, wrote⟩ := write_seed_small (keptId seeds seed) store.grimoire.seeds kept.observations
        (by have small := kept.generations; omega) (kept.basis ▸ basis)
      simp only [wrote]
      exact crystallize_seed_sound env result (keptId seeds seed) draw.now _ kept sized known sigil composed basis

end Vermyth
