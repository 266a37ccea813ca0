import Vermyth.Engine.Seeds
import Vermyth.Grimoire.Registration
import Vermyth.Grimoire.Swarm

set_option autoImplicit false

namespace Vermyth

open Foundation

structure SeedEnv where
  gossip : GossipEnv
  engine : CompositionEngine

def SeedEnv.registry (env : SeedEnv) : AspectRegistry := env.gossip.registry

def SeedEnv.order (env : SeedEnv) : SetOrder := env.gossip.order

structure Accumulation where
  pattern : Finset String
  adjusted : ℚ
  before : SeedTable
  after : SeedTable
  crystallized : Bool

-- The store, with the accumulations so far, which the code does not keep.
structure SeedStore where
  grimoire : Grimoire
  history : List Accumulation := []

structure SeedDraw where
  seedId : String
  now : Datetime

def keptId (seeds : List GlyphSeed) (seed : GlyphSeed) : GlyphSeed :=
  match seeds.reverse.find? fun prev => prev.aspectPattern.members = seed.aspectPattern.members with
  | none => seed
  | some prev => { seed with seedId := prev.seedId }

def generationOf (seed : GlyphSeed) : Nat := if seed.generation = 0 then 1 else seed.generation

def crystalRow (sigil : ResolvedSigil) (seed : GlyphSeed) (now : Datetime) : CrystallizedSigil where
  name := sigil.name
  sigil := sigil
  sourceSeedId := seed.seedId
  crystallizedAt := now
  generation := generationOf seed

def resetSeed (seed : GlyphSeed) : GlyphSeed :=
  { seed with
    observedCount := 0
    meanResonance := 0
    coherenceRate := 0
    crystallized := false
    generation := generationOf seed + 1 }

def crystallizes (env : SeedEnv) (seed : GlyphSeed) : Bool :=
  match crystallize env.registry env.order env.engine seed with
  | .ok (some _) => true
  | _ => false

def crystallizeSeed (env : SeedEnv) (seed : GlyphSeed) (now : Datetime) (grimoire : Grimoire) :
    Except PyError Unit × Grimoire :=
  match crystallize env.registry env.order env.engine seed with
  | .error raised => (.error raised, grimoire)
  | .ok none => (.ok (), grimoire)
  | .ok (some sigil) =>
      match writeCrystallizedSigil (crystalRow sigil seed now) grimoire.crystallized with
      | .error raised => (.error raised, grimoire)
      | .ok crystallized =>
          match writeSeed (resetSeed seed) grimoire.seeds with
          | .error raised => (.error raised, { grimoire with crystallized := crystallized })
          | .ok seeds => (.ok (), { grimoire with crystallized := crystallized, seeds := seeds })

def accumulateSeed (env : SeedEnv) (asked : AspectSet) (result : SeedCast) (draw : SeedDraw) (store : SeedStore) :
    Except PyError Unit × SeedStore :=
  match querySeeds env.registry env.order (some asked) none store.grimoire.seeds with
  | .error raised => (.error raised, store)
  | .ok seeds =>
      match accumulate env.registry env.order draw.seedId result seeds with
      | .error raised => (.error raised, store)
      | .ok none => (.ok (), store)
      | .ok (some grown) =>
          let seed := keptId seeds grown
          match writeSeed seed store.grimoire.seeds with
          | .error raised => (.error raised, store)
          | .ok table =>
              let crystal := crystallizeSeed env seed draw.now { store.grimoire with seeds := table }
              let accumulation : Accumulation :=
                { pattern := result.aspects.members, adjusted := result.adjusted, before := store.grimoire.seeds,
                  after := crystal.2.seeds, crystallized := crystallizes env seed }
              (crystal.1, { grimoire := crystal.2, history := store.history ++ [accumulation] })

def castSigil (env : SeedEnv) (asked : AspectSet) (chained : Bool) (crystals : CrystallizedTable) :
    Except PyError ResolvedSigil :=
  if chained then env.engine.compose env.registry env.order asked
  else
    match crystallizedForAspects env.registry env.order asked crystals with
    | .error raised => .error raised
    | .ok (some crystal) => .ok crystal.sigil
    | .ok none => env.engine.compose env.registry env.order asked

def castResult (env : SeedEnv) (asked : AspectSet) (chained : Bool) (evaluate : ResolvedSigil → Except PyError Verdict)
    (crystals : CrystallizedTable) : Except PyError SeedCast := do
  let sigil ← castSigil env asked chained crystals
  let verdict ← evaluate sigil
  return { aspects := sigil.aspects, effectClass := sigil.effectClass, verdict := verdict }

def askedSet (env : SeedEnv) (names : List String) : Except PyError AspectSet := do
  let resolved ← names.mapM fun name => requestAspect env.registry (.str name)
  return .build env.order (resolved.map Aspect.name)

-- evaluate is what the engine makes of the sigil for the intent of the call. It
-- raises too where the call ends before the seeds are asked for.
def toolCast (env : SeedEnv) (names : List String) (chained : Bool) (evaluate : ResolvedSigil → Except PyError Verdict)
    (draw : SeedDraw) (store : SeedStore) : Except PyError Unit × SeedStore :=
  match askedSet env names with
  | .error raised => (.error raised, store)
  | .ok asked =>
      match castResult env asked chained evaluate store.grimoire.crystallized with
      | .error raised => (.error raised, store)
      | .ok result => accumulateSeed env asked result draw store

-- _write_fluid_result_to_grimoire of each result of the chain.
def writeChain (env : SeedEnv) : List (SeedCast × SeedDraw) → SeedStore → Except PyError Unit × SeedStore
  | [], store => (.ok (), store)
  | (result, draw) :: rest, store =>
      match accumulateSeed env result.aspects result draw store with
      | (.error raised, store) => (.error raised, store)
      | (.ok _, store) => writeChain env rest store

inductive SeedCall where
  | cast (names : List String) (chained : Bool) (evaluate : ResolvedSigil → Except PyError Verdict) (draw : SeedDraw)
  | fluidCast (answer : Except PyError SeedCast) (draw : SeedDraw)
  | autoCast (answer : Except PyError (List (SeedCast × SeedDraw)))
  | gossip (payload : GossipPayload) (draws : Draws)

def seedCall (env : SeedEnv) (store : SeedStore) : SeedCall → SeedStore
  | .cast names chained evaluate draw => (toolCast env names chained evaluate draw store).2
  | .fluidCast (.ok result) draw => (accumulateSeed env result.aspects result draw store).2
  | .autoCast (.ok chain) => (writeChain env chain store).2
  | .gossip payload draws =>
      { store with grimoire := (applyGossipSync env.gossip draws payload store.grimoire).2.grimoire }
  | .fluidCast (.error _) _ | .autoCast (.error _) => store

def OneSeedEach (seeds : SeedTable) : Prop := (seeds.rows.map fun row => row.aspectPattern.members).Nodup

instance (seeds : SeedTable) : Decidable (OneSeedEach seeds) := inferInstanceAs (Decidable (List.Nodup _))

def observedIn (pattern : Finset String) (row : GlyphSeedRow) : Nat :=
  if row.aspectPattern.members = pattern then row.observedCount else 0

def resonanceIn (pattern : Finset String) (row : GlyphSeedRow) : ℚ :=
  if row.aspectPattern.members = pattern then row.meanResonance * row.observedCount else 0

def observedOf (pattern : Finset String) (seeds : SeedTable) : Nat := seeds.total (observedIn pattern)

def resonanceOf (pattern : Finset String) (seeds : SeedTable) : ℚ := seeds.total (resonanceIn pattern)

structure Accumulation.Exact (own : Accumulation) : Prop where
  observed : observedOf own.pattern own.after = observedOf own.pattern own.before + 1
  resonance : resonanceOf own.pattern own.after = resonanceOf own.pattern own.before + own.adjusted
  others : ∀ row : GlyphSeedRow, row.aspectPattern.members ≠ own.pattern →
    (row ∈ own.after.rows ↔ row ∈ own.before.rows)

structure SeedInvariant (store : SeedStore) : Prop where
  one : OneSeedEach store.grimoire.seeds
  throughout : ∀ own ∈ store.history, OneSeedEach own.before ∧ OneSeedEach own.after
  exact : ∀ own ∈ store.history, own.crystallized = false → own.Exact

end Vermyth
