import Vermyth.Engine.Composition

set_option autoImplicit false

namespace Vermyth

structure SeedCast where
  aspects : AspectSet
  effectClass : EffectClass
  verdict : Verdict
deriving DecidableEq

def SeedCast.adjusted (result : SeedCast) : ℚ := result.verdict.resonance.adjusted

def cohIncrement (result : SeedCast) : ℚ := if result.verdict.verdictType = .coherent then 1 else 0

def runningMean (mean : ℚ) (n : Nat) (value : ℚ) : ℚ := (mean * n + value) / (n + 1 : Nat)

def accumulate (registry : AspectRegistry) (order : SetOrder) (drawn : String) (result : SeedCast)
    (seeds : List GlyphSeed) : Except PyError (Option GlyphSeed) :=
  match seeds.find? fun seed => seed.aspectPattern.members = result.aspects.members with
  | some matching =>
      (GlyphSeed.make registry order drawn matching.aspectPattern (matching.observedCount + 1 : Nat)
        (runningMean matching.meanResonance matching.observedCount result.adjusted)
        (runningMean matching.coherenceRate matching.observedCount (cohIncrement result))
        (some (matching.candidateEffectClass.getD result.effectClass)) false matching.generation).map some
  | none =>
      if result.verdict.verdictType = .incoherent then .ok none
      else (GlyphSeed.make registry order drawn result.aspects 1 result.adjusted (cohIncrement result)
        (some result.effectClass) false 1).map some

-- round(x, 2)
def roundHundredths (value : ℚ) : ℚ :=
  let low := (value * 100).floor
  let rest := value * 100 - low
  if rest < 1 / 2 ∨ (rest = 1 / 2 ∧ low % 2 = 0) then low / 100 else (low + 1) / 100

structure CrystalBar where
  count : Nat
  mean : ℚ
  coherence : ℚ

def crystalBar (generation : Nat) : CrystalBar :=
  let above := (if generation = 0 then 1 else generation) - 1
  { count := min 50 (10 + 5 * above), mean := min (95 / 100) (70 / 100 + 5 / 100 * above),
    coherence := min (90 / 100) (65 / 100 + 5 / 100 * above) }

def crystallize (registry : AspectRegistry) (order : SetOrder) (engine : CompositionEngine) (seed : GlyphSeed) :
    Except PyError (Option ResolvedSigil) :=
  let required := crystalBar seed.generation
  if seed.crystallized then .ok none
  else if seed.observedCount < required.count ∨ seed.meanResonance < required.mean ∨
      seed.coherenceRate < required.coherence then .ok none
  else
    match seed.candidateEffectClass with
    | none => .ok none
    | some effectClass => do
        let base ← engine.compose registry order seed.aspectPattern
        let sigil ← ResolvedSigil.make registry order ("Glyph:" ++ base.name) seed.aspectPattern effectClass
          (roundHundredths seed.meanResonance) base.contradictionSeverity
        return some sigil

inductive Grown (result : SeedCast) (drawn : String) (seeds : List GlyphSeed) : Option GlyphSeed → Prop where
  | nothing (incoherent : result.verdict.verdictType = .incoherent)
      (unmatched : ∀ seed ∈ seeds, seed.aspectPattern.members ≠ result.aspects.members) :
      Grown result drawn seeds none
  | first (seed : GlyphSeed) (unmatched : ∀ seed ∈ seeds, seed.aspectPattern.members ≠ result.aspects.members)
      (coherent : result.verdict.verdictType ≠ .incoherent)
      (id : seed.seedId = drawn) (pattern : seed.aspectPattern.members = result.aspects.members)
      (count : seed.observedCount = 1) (mean : seed.meanResonance = result.adjusted) :
      Grown result drawn seeds (some seed)
  | next (seed matching : GlyphSeed)
      (found : (seeds.find? fun seed => seed.aspectPattern.members = result.aspects.members) = some matching)
      (pattern : seed.aspectPattern.members = result.aspects.members)
      (count : seed.observedCount = matching.observedCount + 1)
      (mean : seed.meanResonance = runningMean matching.meanResonance matching.observedCount result.adjusted) :
      Grown result drawn seeds (some seed)

theorem glyph_seed_make_ok (registry : AspectRegistry) (order : SetOrder) (seedId : String)
    (aspectPattern : AspectSet) (observedCount : Int) (meanResonance coherenceRate : ℚ)
    (candidate : Option EffectClass) (crystallized : Bool) (generation : Int) (seed : GlyphSeed)
    (made : GlyphSeed.make registry order seedId aspectPattern observedCount meanResonance coherenceRate candidate
      crystallized generation = .ok seed) :
    seed.seedId = seedId ∧ seed.aspectPattern.members = aspectPattern.members ∧
      seed.observedCount = observedCount.toNat ∧ seed.meanResonance = meanResonance := by
  rw [GlyphSeed.make] at made
  split_ifs at made
  obtain rfl := Except.ok.inj made
  exact ⟨rfl, rebuild_members order aspectPattern, rfl, rfl⟩

theorem accumulate_grown (registry : AspectRegistry) (order : SetOrder) (drawn : String) (result : SeedCast)
    (seeds : List GlyphSeed) (made : Option GlyphSeed)
    (ok : accumulate registry order drawn result seeds = .ok made) : Grown result drawn seeds made := by
  rw [accumulate] at ok
  cases found : seeds.find? fun seed => seed.aspectPattern.members = result.aspects.members with
  | none =>
      have unmatched : ∀ seed ∈ seeds, seed.aspectPattern.members ≠ result.aspects.members := by
        simpa using found
      simp only [found] at ok
      by_cases incoherent : result.verdict.verdictType = .incoherent
      · rw [if_pos incoherent] at ok
        obtain rfl := Except.ok.inj ok
        exact .nothing incoherent unmatched
      · rw [if_neg incoherent, Foundation.map_ok] at ok
        obtain ⟨seed, fresh, rfl⟩ := ok
        obtain ⟨id, pattern, count, mean⟩ := glyph_seed_make_ok _ _ _ _ _ _ _ _ _ _ seed fresh
        exact .first seed unmatched incoherent id pattern count mean
  | some matching =>
      have same : matching.aspectPattern.members = result.aspects.members := by
        simpa using List.find?_some found
      simp only [found] at ok
      rw [Foundation.map_ok] at ok
      obtain ⟨seed, grown, rfl⟩ := ok
      obtain ⟨-, pattern, count, mean⟩ := glyph_seed_make_ok _ _ _ _ _ _ _ _ _ _ seed grown
      exact .next seed matching found (pattern.trans same) count mean

theorem running_mean_total (mean value : ℚ) (n : Nat) :
    runningMean mean n value * (n + 1 : Nat) = mean * n + value := by
  have positive : ((n + 1 : Nat) : ℚ) ≠ 0 := by exact_mod_cast Nat.succ_ne_zero n
  rw [runningMean, Rat.div_mul_cancel positive]

end Vermyth
