import Mathlib.Algebra.Order.Field.Rat
import Vermyth.Engine.Seeds
import Vermyth.Foundation.RunningMean
import Vermyth.Schema.Policy

set_option autoImplicit false

namespace Vermyth

open Foundation

structure SeedOf (pattern : Finset String) (generation : Nat) (effectClass : EffectClass) (counted : List SeedCast)
    (seed : GlyphSeed) : Prop where
  pattern : seed.aspectPattern.members = pattern
  sized : seed.aspectPattern.Sized
  observed : seed.observedCount = counted.length
  mean : seed.meanResonance = meanOf (counted.map SeedCast.adjusted)
  coherence : seed.coherenceRate = meanOf (counted.map cohIncrement)
  candidate : seed.candidateEffectClass = some effectClass
  crystallized : seed.crystallized = false
  generation : seed.generation = generation

theorem running_mean_snoc (values : List ℚ) (value : ℚ) (n : Nat) (count : n = values.length) :
    runningMean (meanOf values) n value = meanOf (values ++ [value]) := by
  rw [runningMean, count]
  exact mean_snoc values value

theorem coh_increment_unit (result : SeedCast) : InUnit (cohIncrement result) := by
  rw [cohIncrement]
  split_ifs
  · exact ⟨zero_le_one, le_rfl⟩
  · exact ⟨le_rfl, zero_le_one⟩

theorem adjusted_mean_unit (counted : List SeedCast) : InUnit (meanOf (counted.map SeedCast.adjusted)) := by
  refine mean_in_unit _ fun value member => ?_
  obtain ⟨cast, -, rfl⟩ := List.mem_map.mp member
  exact cast.verdict.resonance.inRange

theorem coherence_mean_unit (counted : List SeedCast) : InUnit (meanOf (counted.map cohIncrement)) := by
  refine mean_in_unit _ fun value member => ?_
  obtain ⟨cast, -, rfl⟩ := List.mem_map.mp member
  exact coh_increment_unit cast

theorem seed_made (registry : AspectRegistry) (order : SetOrder) (drawn : String) (pattern : AspectSet)
    (sized : pattern.Sized) (effectClass : EffectClass) (generation : Nat) (first : 1 ≤ generation)
    (counted : List SeedCast) :
    ∃ seed, GlyphSeed.make registry order drawn pattern counted.length (meanOf (counted.map SeedCast.adjusted))
      (meanOf (counted.map cohIncrement)) (some effectClass) false generation = .ok seed ∧
        SeedOf pattern.members generation effectClass counted seed := by
  refine ⟨{ seedId := drawn, aspectPattern := pattern.rebuild order, observedCount := counted.length,
            meanResonance := meanOf (counted.map SeedCast.adjusted), coherenceRate := meanOf (counted.map cohIncrement),
            candidateEffectClass := some effectClass, crystallized := false, generation := generation,
            semanticVector := fromAspects registry pattern }, ?_, ?_⟩
  · have sizes : ¬ ¬ (1 ≤ pattern.names.length ∧ pattern.names.length ≤ 3) := not_not.mpr sized
    have means := not_not.mpr (adjusted_mean_unit counted)
    have rates := not_not.mpr (coherence_mean_unit counted)
    rw [InUnit] at means rates
    rw [GlyphSeed.make, if_neg sizes, if_neg (by omega), if_neg means, if_neg rates, if_neg (by omega)]
    rfl
  · exact ⟨rebuild_members order pattern, (rebuild_sized order pattern).mpr sized, rfl, rfl, rfl, rfl, rfl, rfl⟩

section Accumulate

variable (registry : AspectRegistry) (order : SetOrder) (drawn : String) (result : SeedCast) (seeds : List GlyphSeed)

def seedFor (pattern : Finset String) (seeds : List GlyphSeed) : Option GlyphSeed :=
  seeds.find? fun seed => seed.aspectPattern.members = pattern

theorem accumulate_nothing (unmatched : seedFor result.aspects.members seeds = none)
    (incoherent : result.verdict.verdictType = .incoherent) :
    accumulate registry order drawn result seeds = .ok none := by
  rw [seedFor] at unmatched
  rw [accumulate, unmatched]
  exact if_pos incoherent

theorem accumulate_first (sized : result.aspects.Sized) (unmatched : seedFor result.aspects.members seeds = none)
    (coherent : result.verdict.verdictType ≠ .incoherent) :
    ∃ seed, accumulate registry order drawn result seeds = .ok (some seed) ∧
      SeedOf result.aspects.members 1 result.effectClass [result] seed := by
  obtain ⟨seed, made, own⟩ := seed_made registry order drawn result.aspects sized result.effectClass 1 le_rfl [result]
  rw [List.map_singleton, List.map_singleton, mean_singleton, mean_singleton] at made
  refine ⟨seed, ?_, own⟩
  rw [seedFor] at unmatched
  rw [accumulate, unmatched]
  exact (if_neg coherent).trans (congrArg (Except.map some) made)

theorem accumulate_first_made (unmatched : seedFor result.aspects.members seeds = none) (seed : GlyphSeed)
    (made : accumulate registry order drawn result seeds = .ok (some seed)) :
    SeedOf result.aspects.members 1 result.effectClass [result] seed := by
  by_cases incoherent : result.verdict.verdictType = .incoherent
  · rw [accumulate_nothing registry order drawn result seeds unmatched incoherent] at made
    cases made
  · by_cases sized : result.aspects.Sized
    · obtain ⟨own, again, stands⟩ := accumulate_first registry order drawn result seeds sized unmatched incoherent
      obtain rfl := Option.some.inj (Except.ok.inj (made.symm.trans again))
      exact stands
    · rw [seedFor] at unmatched
      rw [accumulate, unmatched] at made
      simp only [if_neg incoherent, map_ok] at made
      obtain ⟨own, fresh, -⟩ := made
      rw [AspectSet.Sized] at sized
      rw [GlyphSeed.make, if_pos sized] at fresh
      contradiction

theorem accumulate_next (generation : Nat) (first : 1 ≤ generation) (effectClass : EffectClass)
    (counted : List SeedCast) (matching : GlyphSeed) (found : seedFor result.aspects.members seeds = some matching)
    (own : SeedOf result.aspects.members generation effectClass counted matching) :
    ∃ seed, accumulate registry order drawn result seeds = .ok (some seed) ∧
      SeedOf result.aspects.members generation effectClass (counted ++ [result]) seed := by
  obtain ⟨seed, made, grown⟩ := seed_made registry order drawn matching.aspectPattern own.sized effectClass generation
    first (counted ++ [result])
  rw [List.map_append, List.map_append, List.map_singleton, List.map_singleton,
    ← running_mean_snoc _ _ matching.observedCount (by rw [own.observed, List.length_map]),
    ← running_mean_snoc _ _ matching.observedCount (by rw [own.observed, List.length_map]), ← own.mean,
    ← own.coherence, List.length_append, List.length_singleton, ← own.observed, ← own.generation] at made
  refine ⟨seed, ?_, own.pattern ▸ grown⟩
  rw [seedFor] at found
  rw [accumulate, found]
  simp only [own.candidate, Option.getD_some]
  exact congrArg (Except.map some) made

end Accumulate

def replaceSeed (seeds : List GlyphSeed) (seed : GlyphSeed) : List GlyphSeed :=
  seeds.filter (fun old => old.aspectPattern.members ≠ seed.aspectPattern.members) ++ [seed]

def accumulateAll (registry : AspectRegistry) (order : SetOrder) (casts : List (String × SeedCast)) :
    Except PyError (List GlyphSeed) :=
  casts.foldlM (fun seeds cast =>
    (accumulate registry order cast.1 cast.2 seeds).map fun grown => grown.elim seeds (replaceSeed seeds)) []

def countedOf (pattern : Finset String) (casts : List SeedCast) : List SeedCast :=
  (casts.filter fun cast => cast.aspects.members = pattern).dropWhile fun cast =>
    cast.verdict.verdictType = .incoherent

theorem counted_other (pattern : Finset String) (casts : List SeedCast) (cast : SeedCast)
    (other : cast.aspects.members ≠ pattern) : countedOf pattern (casts ++ [cast]) = countedOf pattern casts := by
  rw [countedOf, countedOf, List.filter_append, List.filter_cons_of_neg (by simpa using other), List.filter_nil,
    List.append_nil]

theorem counted_snoc (casts : List SeedCast) (cast : SeedCast) :
    countedOf cast.aspects.members (casts ++ [cast]) =
      if countedOf cast.aspects.members casts = [] ∧ cast.verdict.verdictType = .incoherent then []
      else countedOf cast.aspects.members casts ++ [cast] := by
  rw [countedOf, List.filter_append, List.filter_cons_of_pos (by simp), List.filter_nil, List.dropWhile_append,
    ← countedOf]
  by_cases none : countedOf cast.aspects.members casts = []
  · rw [if_pos (by rw [none]; rfl), none]
    by_cases incoherent : cast.verdict.verdictType = .incoherent
    · rw [if_pos ⟨rfl, incoherent⟩, List.dropWhile_cons_of_pos (by simpa using incoherent), List.dropWhile_nil]
    · rw [if_neg fun both => incoherent both.2, List.dropWhile_cons_of_neg (by simpa using incoherent), List.nil_append]
  · rw [if_neg (by simpa using none), if_neg fun both => none both.1]

theorem seed_for_replaced (seeds : List GlyphSeed) (seed : GlyphSeed) :
    seedFor seed.aspectPattern.members (replaceSeed seeds seed) = some seed := by
  rw [seedFor, replaceSeed, List.find?_append, List.find?_eq_none.mpr, Option.none_or]
  · exact List.find?_cons_of_pos (by simp)
  · intro old member same
    exact of_decide_eq_true (List.mem_filter.mp member).2 (of_decide_eq_true same)

theorem seed_for_other (pattern : Finset String) (seeds : List GlyphSeed) (seed : GlyphSeed)
    (other : seed.aspectPattern.members ≠ pattern) :
    seedFor pattern (replaceSeed seeds seed) = seedFor pattern seeds := by
  have last : [seed].find? (fun own => own.aspectPattern.members = pattern) = none :=
    List.find?_cons_of_neg (by simpa using other)
  rw [seedFor, seedFor, replaceSeed, List.find?_append, last, Option.or_none, List.find?_filter]
  congr 1
  funext own
  by_cases same : own.aspectPattern.members = pattern
  · simp [same, other.symm]
  · simp [same]

def SeedsCount (casts : List SeedCast) (seeds : List GlyphSeed) : Prop :=
  ∀ pattern, (seedFor pattern seeds).elim (countedOf pattern casts = []) fun seed =>
    ∃ first, (countedOf pattern casts).head? = some first ∧
      SeedOf pattern 1 first.effectClass (countedOf pattern casts) seed

theorem seeds_count_snoc (registry : AspectRegistry) (order : SetOrder) (drawn : String) (casts : List SeedCast)
    (seeds : List GlyphSeed) (count : SeedsCount casts seeds) (cast : SeedCast) (sized : cast.aspects.Sized) :
    ∃ grown, accumulate registry order drawn cast seeds = .ok grown ∧
      SeedsCount (casts ++ [cast]) (grown.elim seeds (replaceSeed seeds)) := by
  have own := count cast.aspects.members
  have split := counted_snoc casts cast
  cases found : seedFor cast.aspects.members seeds with
  | none =>
      rw [found] at own
      have none : countedOf cast.aspects.members casts = [] := own
      by_cases incoherent : cast.verdict.verdictType = .incoherent
      · refine ⟨_, accumulate_nothing registry order drawn cast seeds found incoherent, fun pattern => ?_⟩
        by_cases same : cast.aspects.members = pattern
        · subst same
          rw [Option.elim_none, found, split, if_pos ⟨none, incoherent⟩]
          rfl
        · rw [counted_other pattern casts cast same]
          exact count pattern
      · obtain ⟨seed, made, grown⟩ := accumulate_first registry order drawn cast seeds sized found incoherent
        refine ⟨_, made, fun pattern => ?_⟩
        by_cases same : cast.aspects.members = pattern
        · subst same
          have again := seed_for_replaced seeds seed
          rw [grown.pattern] at again
          rw [Option.elim_some, again, split, if_neg fun both => incoherent both.2, none, List.nil_append]
          exact ⟨cast, rfl, grown⟩
        · rw [counted_other pattern casts cast same, Option.elim_some,
            seed_for_other pattern seeds seed (by rwa [grown.pattern])]
          exact count pattern
  | some matching =>
      rw [found] at own
      obtain ⟨first, head, stands⟩ := own
      have some : countedOf cast.aspects.members casts ≠ [] := by
        intro none
        rw [none] at head
        contradiction
      obtain ⟨seed, made, grown⟩ := accumulate_next registry order drawn cast seeds 1 le_rfl first.effectClass _ matching
        found stands
      refine ⟨_, made, fun pattern => ?_⟩
      by_cases same : cast.aspects.members = pattern
      · subst same
        have again := seed_for_replaced seeds seed
        rw [grown.pattern] at again
        rw [Option.elim_some, again, split, if_neg fun both => some both.1]
        refine ⟨first, ?_, grown⟩
        rw [List.head?_append, head]
        rfl
      · rw [counted_other pattern casts cast same, Option.elim_some,
          seed_for_other pattern seeds seed (by rwa [grown.pattern])]
        exact count pattern

theorem accumulate_all_counts (registry : AspectRegistry) (order : SetOrder) (casts : List (String × SeedCast))
    (sized : ∀ cast ∈ casts, cast.2.aspects.Sized) :
    ∃ seeds, accumulateAll registry order casts = .ok seeds ∧ SeedsCount (casts.map Prod.snd) seeds := by
  induction casts using List.reverseRecOn with
  | nil => exact ⟨[], rfl, fun pattern => rfl⟩
  | append_singleton casts cast ih =>
      obtain ⟨seeds, all, count⟩ := ih fun own member => sized own (List.mem_append_left _ member)
      obtain ⟨grown, made, again⟩ := seeds_count_snoc registry order cast.1 _ seeds count cast.2
        (sized cast (List.mem_append_right _ (List.mem_singleton_self cast)))
      refine ⟨grown.elim seeds (replaceSeed seeds), ?_, ?_⟩
      · rw [accumulateAll] at all
        rw [accumulateAll, List.foldlM_append, all]
        change ((accumulate registry order cast.1 cast.2 seeds).map _).bind _ = _
        rw [made]
        rfl
      · rw [List.map_append, List.map_singleton]
        exact again

end Vermyth
