import Vermyth.Grimoire.SoundSeeds

set_option autoImplicit false

namespace Vermyth

open Foundation

structure SeedLedger where
  observed : List SeedCast := []
  resets : Nat := 0

def SeedLedger.counts (ledger : SeedLedger) (cast : SeedCast) (before after : SeedTable) : SeedLedger :=
  if after.rows = before.rows then ledger
  else if after.rows.any (fun row => row.observedCount = 0) then { observed := [], resets := ledger.resets + 1 }
  else { ledger with observed := ledger.observed ++ [cast] }

structure Ripe (generation : Nat) (observed : List SeedCast) : Prop where
  count : min 50 (10 + 5 * (generation - 1)) ≤ observed.length
  mean : min (95 / 100 : ℚ) (70 / 100 + 5 / 100 * (generation - 1 : Nat)) ≤
    (observed.map SeedCast.adjusted).sum / observed.length
  coherence : min (90 / 100 : ℚ) (65 / 100 + 5 / 100 * (generation - 1 : Nat)) ≤
    observed.countP (fun cast => cast.verdict.verdictType = .coherent) / observed.length

theorem coherence_share (observed : List SeedCast) : meanOf (observed.map cohIncrement) =
    observed.countP (fun cast => cast.verdict.verdictType = .coherent) / observed.length := by
  rw [← mean_indicator]
  refine congrArg meanOf (List.map_congr_left fun cast _ => ?_)
  rw [cohIncrement]
  simp only [decide_eq_true_eq]

inductive SeedKept (env : SeedEnv) (pattern : Finset String) : SeedLedger → SeedTable → Prop
  | none (table : SeedTable) (rows : table.rows = []) : SeedKept env pattern {} table
  | one (ledger : SeedLedger) (table : SeedTable) (row : GlyphSeedRow) (effectClass : EffectClass)
      (rows : table.rows = [row])
      (own : SeedOf pattern (ledger.resets + 1) effectClass ledger.observed
        (restoredSeed env.registry env.order row)) : SeedKept env pattern ledger table

section Stored

variable {env : SeedEnv} {pattern : Finset String} {generation : Nat} {effectClass : EffectClass}
  {observed : List SeedCast} {seed : GlyphSeed}

theorem seed_of_stored (own : SeedOf pattern generation effectClass observed seed) :
    SeedOf pattern generation effectClass observed
      (restoredSeed env.registry env.order (serializeGlyphSeed seed)) where
  pattern := (rebuild_members env.order seed.aspectPattern).trans own.pattern
  sized := (rebuild_sized env.order seed.aspectPattern).mpr own.sized
  observed := own.observed
  mean := own.mean
  coherence := own.coherence
  candidate := own.candidate
  crystallized := own.crystallized
  generation := own.generation

theorem seed_of_kept (seeds : List GlyphSeed) (own : SeedOf pattern generation effectClass observed seed) :
    SeedOf pattern generation effectClass observed (keptId seeds seed) := by
  rw [keptId]
  split
  · exact own
  · exact ⟨own.pattern, own.sized, own.observed, own.mean, own.coherence, own.candidate, own.crystallized,
      own.generation⟩

theorem generation_of_seed (own : SeedOf pattern (generation + 1) effectClass observed seed) :
    generationOf seed = generation + 1 := by
  rw [generationOf, own.generation, if_neg (Nat.succ_ne_zero generation)]

theorem seed_of_reset (own : SeedOf pattern (generation + 1) effectClass observed seed) :
    SeedOf pattern (generation + 2) effectClass [] (resetSeed seed) where
  pattern := own.pattern
  sized := own.sized
  observed := rfl
  mean := by
    rw [List.map_nil, mean_nil]
    rfl
  coherence := by
    rw [List.map_nil, mean_nil]
    rfl
  candidate := own.candidate
  crystallized := rfl
  generation := by
    change generationOf seed + 1 = generation + 2
    rw [generation_of_seed own]

end Stored

theorem crystallize_some (registry : AspectRegistry) (order : SetOrder) (engine : CompositionEngine) (seed : GlyphSeed)
    (sigil : ResolvedSigil) (made : crystallize registry order engine seed = .ok (some sigil)) :
    (crystalBar seed.generation).count ≤ seed.observedCount ∧ (crystalBar seed.generation).mean ≤ seed.meanResonance ∧
      (crystalBar seed.generation).coherence ≤ seed.coherenceRate := by
  rw [crystallize] at made
  by_cases already : seed.crystallized = true
  · rw [if_pos already] at made
    cases made
  · by_cases below : seed.observedCount < (crystalBar seed.generation).count ∨
        seed.meanResonance < (crystalBar seed.generation).mean ∨
          seed.coherenceRate < (crystalBar seed.generation).coherence
    · rw [if_neg already, if_pos below] at made
      cases made
    · obtain ⟨count, rest⟩ := not_or.mp below
      obtain ⟨mean, coherence⟩ := not_or.mp rest
      exact ⟨not_lt.mp count, not_lt.mp mean, not_lt.mp coherence⟩

theorem crystal_bar_next (generation : Nat) :
    crystalBar (generation + 1) =
      { count := min 50 (10 + 5 * generation), mean := min (95 / 100) (70 / 100 + 5 / 100 * generation),
        coherence := min (90 / 100) (65 / 100 + 5 / 100 * generation) } := by
  rw [crystalBar, if_neg (Nat.succ_ne_zero generation), Nat.add_sub_cancel]

theorem seed_ripe (pattern : Finset String) (generation : Nat) (effectClass : EffectClass) (observed : List SeedCast)
    (seed : GlyphSeed) (own : SeedOf pattern (generation + 1) effectClass observed seed)
    (bar : (crystalBar seed.generation).count ≤ seed.observedCount ∧
      (crystalBar seed.generation).mean ≤ seed.meanResonance ∧
        (crystalBar seed.generation).coherence ≤ seed.coherenceRate) :
    Ripe (generation + 1) observed := by
  rw [own.generation, own.observed, own.mean, own.coherence, coherence_share, crystal_bar_next,
    meanOf, List.length_map] at bar
  constructor
  · exact bar.1
  · rw [Nat.add_sub_cancel]
    exact bar.2.1
  · rw [Nat.add_sub_cancel]
    exact bar.2.2

theorem crystallize_seed_cases (env : SeedEnv) (seed : GlyphSeed) (now : Datetime) (grimoire : Grimoire)
    (fits : ∃ table, writeSeed seed grimoire.seeds = .ok table) :
    ((crystallizeSeed env seed now grimoire).2.seeds = grimoire.seeds ∧
        (crystallizeSeed env seed now grimoire).2.crystallized = grimoire.crystallized) ∨
      ∃ sigil row, crystallize env.registry env.order env.engine seed = .ok (some sigil) ∧
        row.generation = generationOf seed ∧
        (crystallizeSeed env seed now grimoire).2.crystallized = grimoire.crystallized.put row ∧
          ((crystallizeSeed env seed now grimoire).2.seeds =
              grimoire.seeds.put (serializeGlyphSeed (resetSeed seed)) ∨
            ((crystallizeSeed env seed now grimoire).2.seeds = grimoire.seeds ∧ 2 ^ 63 ≤ generationOf seed + 1)) := by
  rw [crystallizeSeed]
  cases crystallize env.registry env.order env.engine seed with
  | error raised => exact Or.inl ⟨rfl, rfl⟩
  | ok made =>
      cases made with
      | none => exact Or.inl ⟨rfl, rfl⟩
      | some sigil =>
          simp only []
          cases wrote : writeCrystallizedSigil (crystalRow sigil seed now) grimoire.crystallized with
          | error raised => exact Or.inl ⟨rfl, rfl⟩
          | ok crystallized =>
              obtain ⟨_, -, written⟩ := (bind_ok _ _ _).mp wrote
              obtain ⟨_, -, written⟩ := (bind_ok _ _ _).mp written
              obtain rfl := Except.ok.inj written
              cases reset : writeSeed (resetSeed seed) grimoire.seeds with
              | ok seeds =>
                  obtain rfl := write_seed_ok _ _ _ reset
                  exact Or.inr ⟨sigil, _, rfl, rfl, rfl, Or.inl rfl⟩
              | error raised =>
                  refine Or.inr ⟨sigil, _, rfl, rfl, rfl, Or.inr ⟨rfl, ?_⟩⟩
                  by_contra small
                  obtain ⟨table, fits⟩ := fits
                  obtain ⟨_, -, fits⟩ := (bind_ok _ _ _).mp fits
                  obtain ⟨_, -, fits⟩ := (bind_ok _ _ _).mp fits
                  obtain ⟨basis, isBasis, -⟩ := (bind_ok _ _ _).mp fits
                  have generation := sql_integer_small (generationOf seed + 1) (not_le.mp small)
                  have none := sql_integer_small 0 (by decide)
                  have written : writeSeed (resetSeed seed) grimoire.seeds =
                      .ok (grimoire.seeds.put (serializeGlyphSeed (resetSeed seed))) := by
                    rw [writeSeed, bind_ok]
                    refine ⟨_, none, (bind_ok _ _ _).mpr ⟨_, generation, (bind_ok _ _ _).mpr ⟨_, isBasis, rfl⟩⟩⟩
                  rw [written] at reset
                  contradiction

structure LedgerStep (env : SeedEnv) (pattern : Finset String) (ledger : SeedLedger) (cast : SeedCast)
    (before after : Grimoire) : Prop where
  kept : SeedKept env pattern (ledger.counts cast before.seeds after.seeds) after.seeds
  crystals : (after.crystallized = before.crystallized ∧
      (ledger.counts cast before.seeds after.seeds).resets = ledger.resets) ∨
    ∃ row, after.crystallized = before.crystallized.put row ∧ row.generation = ledger.resets + 1 ∧
      Ripe (ledger.resets + 1) (ledger.observed ++ [cast]) ∧
        (ledger.counts cast before.seeds after.seeds = { observed := [], resets := ledger.resets + 1 } ∨
          (2 ^ 63 ≤ ledger.resets + 2 ∧ (ledger.counts cast before.seeds after.seeds).resets = ledger.resets))

theorem ledger_step_same (env : SeedEnv) (pattern : Finset String) (ledger : SeedLedger) (cast : SeedCast)
    (grimoire : Grimoire) (kept : SeedKept env pattern ledger grimoire.seeds) :
    LedgerStep env pattern ledger cast grimoire grimoire := by
  have same : ledger.counts cast grimoire.seeds grimoire.seeds = ledger := if_pos rfl
  constructor
  · rw [same]
    exact kept
  · rw [same]
    exact Or.inl ⟨rfl, rfl⟩

theorem put_only (seeds : SeedTable) (row : GlyphSeedRow)
    (only : seeds.rows = [] ∨ ∃ old, seeds.rows = [old] ∧ old.seedId = row.seedId) : (seeds.put row).rows = [row] := by
  change seeds.rows.filter (fun old => old.seedId ≠ row.seedId) ++ [row] = [row]
  obtain none | ⟨old, one, same⟩ := only
  · rw [none, List.filter_nil, List.nil_append]
  · rw [one, List.filter_cons_of_neg (by simpa using same), List.filter_nil, List.nil_append]

theorem write_seed_fits (seed : GlyphSeed) (table other : SeedTable) (fits : ∃ after, writeSeed seed table = .ok after) :
    ∃ after, writeSeed seed other = .ok after := by
  obtain ⟨after, wrote⟩ := fits
  obtain ⟨_, count, wrote⟩ := (bind_ok _ _ _).mp wrote
  obtain ⟨_, generation, wrote⟩ := (bind_ok _ _ _).mp wrote
  obtain ⟨_, basis, -⟩ := (bind_ok _ _ _).mp wrote
  exact ⟨other.put (serializeGlyphSeed seed), (bind_ok _ _ _).mpr ⟨_, count, (bind_ok _ _ _).mpr ⟨_, generation,
    (bind_ok _ _ _).mpr ⟨_, basis, rfl⟩⟩⟩⟩

theorem ledger_step_written (env : SeedEnv) (pattern : Finset String) (ledger : SeedLedger) (cast : SeedCast)
    (effectClass : EffectClass) (seed : GlyphSeed) (now : Datetime) (before : Grimoire)
    (only : before.seeds.rows = [] ∨ ∃ old, before.seeds.rows = [old] ∧ old.seedId = seed.seedId ∧
      old.observedCount = ledger.observed.length ∧ old.generation = ledger.resets + 1)
    (own : SeedOf pattern (ledger.resets + 1) effectClass (ledger.observed ++ [cast]) seed)
    (fits : ∃ table, writeSeed seed before.seeds = .ok table) :
    LedgerStep env pattern ledger cast before
      (crystallizeSeed env seed now { before with seeds := before.seeds.put (serializeGlyphSeed seed) }).2 := by
  have rows : (before.seeds.put (serializeGlyphSeed seed)).rows = [serializeGlyphSeed seed] := by
    refine put_only _ _ ?_
    obtain none | ⟨old, one, same, -⟩ := only
    · exact Or.inl none
    · exact Or.inr ⟨old, one, same⟩
  have again : ((before.seeds.put (serializeGlyphSeed seed)).put (serializeGlyphSeed (resetSeed seed))).rows =
      [serializeGlyphSeed (resetSeed seed)] := put_only _ _ (Or.inr ⟨_, rows, rfl⟩)
  have observed : (serializeGlyphSeed seed).observedCount = ledger.observed.length + 1 := by
    rw [serializeGlyphSeed, own.observed, List.length_append, List.length_singleton]
  have grown : (serializeGlyphSeed seed).observedCount ≠ 0 := by
    rw [observed]
    exact Nat.succ_ne_zero _
  have differs : [serializeGlyphSeed seed] ≠ before.seeds.rows := by
    obtain none | ⟨old, one, -, count, -⟩ := only
    · simp [none]
    · rw [one]
      intro same
      rw [(List.cons.inj same).1, count] at observed
      exact absurd observed (Nat.ne_of_lt (Nat.lt_succ_self _))
  have counted (after : SeedTable) (left : after = before.seeds.put (serializeGlyphSeed seed)) :
      ledger.counts cast before.seeds after = { ledger with observed := ledger.observed ++ [cast] } := by
    rw [SeedLedger.counts, left, rows, if_neg differs, if_neg]
    simpa using grown
  have kept (after : SeedTable) (left : after = before.seeds.put (serializeGlyphSeed seed)) :
      SeedKept env pattern (ledger.counts cast before.seeds after) after := by
    rw [counted after left, left]
    exact .one _ _ _ effectClass rows (seed_of_stored own)
  have generation := generation_of_seed own
  obtain ⟨left, same⟩ | ⟨sigil, row, made, isRow, crystals, either⟩ := crystallize_seed_cases env seed now
    { before with seeds := before.seeds.put (serializeGlyphSeed seed) } (write_seed_fits seed _ _ fits)
  · refine ⟨kept _ left, Or.inl ⟨same, ?_⟩⟩
    rw [counted _ left]
  · have ripe := seed_ripe pattern ledger.resets effectClass _ seed own (crystallize_some _ _ _ seed sigil made)
    obtain reset | ⟨left, wide⟩ := either
    · have resets : ledger.counts cast before.seeds (crystallizeSeed env seed now
          { before with seeds := before.seeds.put (serializeGlyphSeed seed) }).2.seeds =
            { observed := [], resets := ledger.resets + 1 } := by
        rw [SeedLedger.counts, reset, again, if_neg, if_pos]
        · rfl
        · intro same
          obtain none | ⟨old, one, -, -, earlier⟩ := only
          · rw [none] at same
            contradiction
          · rw [one] at same
            have later : old.generation = generationOf seed + 1 := by rw [← (List.cons.inj same).1]; rfl
            rw [earlier, generation] at later
            exact absurd later (Nat.ne_of_lt (Nat.lt_succ_self _))
      constructor
      · rw [resets, reset]
        exact .one _ _ _ effectClass again (seed_of_stored (seed_of_reset own))
      · exact Or.inr ⟨row, crystals, isRow.trans generation, ripe, Or.inl resets⟩
    · refine ⟨kept _ left, Or.inr ⟨row, crystals, isRow.trans generation, ripe, Or.inr ⟨?_, ?_⟩⟩⟩
      · rwa [generation] at wide
      · rw [counted _ left]

def LookupExact (asked : AspectSet) (seeds : SeedTable) : Prop :=
  selectSeeds (some asked) none seeds = seeds.rows.filter fun row => row.aspectPattern.members = asked.members

theorem accumulate_ledger (env : SeedEnv) (ledger : SeedLedger) (asked : AspectSet) (cast : SeedCast) (draw : SeedDraw)
    (store : SeedStore) (kept : SeedKept env asked.members ledger store.grimoire.seeds)
    (same : asked.members = cast.aspects.members) (finds : LookupExact asked store.grimoire.seeds) :
    LedgerStep env asked.members ledger cast store.grimoire (accumulateSeed env asked cast draw store).2.grimoire := by
  obtain left | ⟨seeds, seed, asks, made, fits, grimoire, isCrystal, after⟩ := accumulate_seed_writes store
  · rw [left]
    exact ledger_step_same env asked.members ledger cast store.grimoire kept
  · have rows := query_seeds_ok _ _ _ _ _ asks
    rw [← select_seeds_pattern, finds] at rows
    rw [after, isCrystal]
    cases kept with
    | none table none =>
        rw [none, List.filter_nil, List.map_nil] at rows
        have own := accumulate_first_made _ _ _ cast seeds (by rw [rows]; rfl) seed made
        rw [← same] at own
        exact ledger_step_written env asked.members {} cast cast.effectClass _ draw.now store.grimoire (Or.inl none)
          (seed_of_kept seeds own) fits
    | one ledger table row effectClass one stands =>
        have ofPattern : row.aspectPattern.members = asked.members :=
          (restored_members env.registry env.order row).symm.trans stands.pattern
        rw [one, List.filter_cons_of_pos (by simpa using ofPattern), List.filter_nil, List.map_singleton] at rows
        have found : seedFor cast.aspects.members seeds = some (restoredSeed env.registry env.order row) := by
          rw [rows, ← same]
          exact List.find?_cons_of_pos (by simpa using stands.pattern)
        rw [same] at stands
        obtain ⟨own, again, grown⟩ := accumulate_next env.registry env.order draw.seedId cast seeds _
          (Nat.succ_le_succ (Nat.zero_le _)) effectClass ledger.observed _ found stands
        obtain rfl := Option.some.inj (Except.ok.inj (made.symm.trans again))
        obtain ⟨prev, isPrev, -, id⟩ := kept_id_some seeds seed (restoredSeed env.registry env.order row)
          (rows ▸ List.mem_singleton_self _) (stands.pattern.trans grown.pattern.symm)
        rw [rows] at isPrev
        obtain rfl := List.mem_singleton.mp isPrev
        rw [← same] at grown
        exact ledger_step_written env asked.members ledger cast effectClass _ draw.now store.grimoire
          (Or.inr ⟨row, one, id.symm, stands.observed, stands.generation⟩) (seed_of_kept seeds grown) fits

end Vermyth
