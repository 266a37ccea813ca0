import Vermyth.Casting.Predictive
import Vermyth.Grimoire.SoundSeeds

set_option autoImplicit false

namespace Vermyth

open Foundation

theorem channel_state_ok (branchId : String) (castCount : Nat) (cumulativeResonance meanResonance : ℚ)
    (coherenceStreak : Nat) (lastVerdictType : VerdictType) (status : ChannelStatus) (lastCastId : String)
    (constraintVector : Option SemanticVector) (updatedAt : Datetime) (state : ChannelState)
    (made : ChannelState.make branchId castCount cumulativeResonance meanResonance coherenceStreak lastVerdictType
      status lastCastId constraintVector updatedAt = .ok state) :
    state.branchId = branchId ∧ state.castCount = castCount := by
  rw [ChannelState.make] at made
  split_ifs at made
  rw [← Except.ok.inj made]
  exact ⟨rfl, rfl⟩

theorem channel_after_ok (channel : Option ChannelState) (result : CastRecord) (stamp : ChannelStamp)
    (state : ChannelState) (made : ResonanceEngine.channelAfter channel result stamp = .ok state) :
    state.branchId = (channel.map ChannelState.branchId).getD stamp.branchId ∧
      state.castCount = (channel.map ChannelState.castCount).getD 0 + 1 :=
  channel_state_ok _ _ _ _ _ _ _ _ _ _ state made

theorem chained_cast_ok (engine : ResonanceEngine) (asked : AspectSet) (intent : Intent)
    (channel : Option ChannelState) (force : Bool) (stamp : CastStamp) (channelStamp : ChannelStamp)
    (result : CastRecord) (state : ChannelState)
    (cast : engine.chainedCast asked intent channel force stamp channelStamp = .ok (result, state)) :
    result.castId = stamp.castId ∧ engine.composition.compose engine.registry engine.order asked = .ok result.sigil ∧
      ResonanceEngine.channelAfter channel result channelStamp = .ok state := by
  rw [ResonanceEngine.chainedCast] at cast
  split at cast
  · contradiction
  · obtain ⟨sigil, composed, cast⟩ := (bind_ok _ _ _).mp cast
    obtain ⟨verdict, -, cast⟩ := (bind_ok _ _ _).mp cast
    obtain ⟨updated, makes, cast⟩ := (bind_ok _ _ _).mp cast
    obtain ⟨rfl, rfl⟩ := Prod.mk.inj (Except.ok.inj cast)
    exact ⟨rfl, composed, makes⟩

theorem compose_basis (engine : CompositionEngine) (registry : AspectRegistry) (order : SetOrder)
    (aspects : AspectSet) (sigil : ResolvedSigil) (ok : engine.compose registry order aspects = .ok sigil) :
    sigil.semanticVector.normalizedBasisVersion = registry.basisVersion := by
  rw [CompositionEngine.compose] at ok
  split_ifs at ok
  simp only [] at ok
  generalize engine.entry? (canonicalAspectKey registry aspects) = entry at ok
  cases entry with
  | none => contradiction
  | some raw =>
      obtain ⟨-, -, rfl⟩ := (resolved_sigil_ok _ _ _ _ _ _ _ sigil).mp ok
      rfl

namespace CastProcess

variable (process : CastProcess)

theorem write_channel_ok (state : ChannelState) (written : CastProcess)
    (wrote : process.writeChannelState state = .ok written) :
    written = { process with channels := process.channels.upsert state } := by
  obtain ⟨_, -, wrote⟩ := (bind_ok _ _ _).mp wrote
  obtain ⟨_, -, wrote⟩ := (bind_ok _ _ _).mp wrote
  obtain ⟨_, -, wrote⟩ := (bind_ok _ _ _).mp wrote
  exact (Except.ok.inj wrote).symm

theorem find_channel (branchId : String) (channel : ChannelState)
    (found : process.channelState? branchId = some channel) :
    ∃ row, process.channels.find? branchId = some row ∧ channel.branchId = branchId ∧
      channel.castCount = row.castCount := by
  obtain ⟨row, isRow, rfl⟩ := Option.map_eq_some_iff.mp found
  exact ⟨row, isRow, Table.find_key process.channels branchId row isRow, rfl⟩

def ParentRead (arguments : CastArguments) : Prop :=
  ∀ parentCastId ∈ arguments.parentCastId, ∃ parent, process.readCast parentCastId = .ok parent

def SeedsKept (asked : AspectSet) (result : CastRecord) (draw : SeedDraw) : Prop :=
  let grown := (accumulateSeed process.env asked result.seedCast draw process.seeds).2.grimoire
  grown.seeds = process.seeds.grimoire.seeds ∧ grown.crystallized = process.seeds.grimoire.crystallized

-- A chained call reads the parent it gives, and what the growth of the seed
-- raises it raises before anything is written.
def CastOrderly (arguments : CastArguments) (draws : CallDraws) : Prop :=
  ∀ asked result begun, process.beginCast arguments draws = .ok (asked, result, begun) →
    (arguments.chained = true → process.ParentRead arguments) ∧
      (process.ParentRead arguments →
        (accumulateSeed process.env asked result.seedCast (draws.seed 0) process.seeds).1 = .ok () ∨
          (arguments.chained = false ∧ arguments.parentCastId = none ∧
            process.SeedsKept asked result (draws.seed 0)))

theorem keep_cast_grown (asked : AspectSet) (result : CastRecord) (draw : SeedDraw)
    (grows : (accumulateSeed process.env asked result.seedCast draw process.seeds).1 = .ok ())
    (fresh : ¬ process.casts.Has result.castId)
    (basis : ∃ value, sqlInteger result.sigil.semanticVector.normalizedBasisVersion = .ok value) :
    ∃ kept, (process.keepCast asked result draw).1 = .ok kept := by
  obtain ⟨value, isValue⟩ := basis
  refine ⟨result, ?_⟩
  rw [keepCast, growSeed]
  simp only [grows, writeCast, Table.insert_fresh process.casts result fresh, isValue, bind, Except.bind]
  rfl

theorem keep_cast_failed (asked : AspectSet) (result : CastRecord) (draw : SeedDraw) (raised : PyError)
    (grows : (accumulateSeed process.env asked result.seedCast draw process.seeds).1 = .error raised) :
    process.keepCast asked result draw =
      (.error raised,
        { process with seeds := (accumulateSeed process.env asked result.seedCast draw process.seeds).2 }) := by
  rw [keepCast, growSeed]
  simp only [grows]

end CastProcess

structure SoundStore (process : CastProcess) : Prop where
  seeds : ∀ row ∈ process.seeds.grimoire.seeds.rows,
    SoundSeed (restoredSeed process.env.registry process.env.order row)
  crystals : ∀ row ∈ process.seeds.grimoire.crystallized.rows,
    ∃ sigil, process.env.engine.compose process.env.registry process.env.order row.aspects = .ok sigil

theorem composed_sized (engine : CompositionEngine) (registry : AspectRegistry) (order : SetOrder)
    (aspects : AspectSet) (sigil : ResolvedSigil) (ok : engine.compose registry order aspects = .ok sigil) :
    aspects.Sized := by
  rw [CompositionEngine.compose] at ok
  split_ifs at ok with empty many
  exact ⟨by omega, by omega⟩

namespace CastProcess

variable (process : CastProcess)

theorem base_cast_composes (sound : SoundStore process) (asked : AspectSet) (intent : Intent) (stamp : CastStamp)
    (known : ∀ name ∈ asked.names, name ∈ process.env.registry.names) (result : CastRecord)
    (cast : process.baseCast asked intent stamp = .ok result) :
    ∃ sigil, process.env.engine.compose process.env.registry process.env.order asked = .ok sigil := by
  obtain ⟨crystal, selected, cast⟩ := (bind_ok _ _ _).mp cast
  cases crystal with
  | none =>
      obtain ⟨sigil, composed, -⟩ := (bind_ok _ _ _).mp cast
      exact ⟨sigil, composed⟩
  | some crystal =>
      obtain ⟨row, stored, names, -⟩ := crystallized_row _ _ _ asked crystal selected
      obtain ⟨sigil, composed⟩ := sound.crystals row stored
      exact compose_members _ _ _ row.aspects asked (congrArg List.toFinset names)
        (composed_sized _ _ _ _ sigil composed) (names ▸ known) sigil composed

theorem begin_cast_composes (sound : SoundStore process) (arguments : CastArguments) (draws : CallDraws)
    (asked : AspectSet) (result : CastRecord) (begun : CastProcess)
    (begins : process.beginCast arguments draws = .ok (asked, result, begun)) :
    asked.members = result.sigil.aspects.members ∧ (∀ name ∈ asked.names, name ∈ process.env.registry.names) ∧
      ∃ sigil, process.env.engine.compose process.env.registry process.env.order asked = .ok sigil := by
  obtain ⟨intent, asks, ⟨chained, casts⟩ | ⟨unchained, rfl, casts⟩⟩ :=
    process.begin_cast_cases arguments draws asked result begun begins
  · have known := asked_known process.env arguments.aspects asked asks
    have members := (process.chained_result_ok asked intent _ _ draws result begun casts).1.2
    obtain ⟨⟨own, state⟩, chain, -⟩ := (bind_ok _ _ _).mp casts
    obtain ⟨-, composed, -⟩ := chained_cast_ok process.engine asked intent _ _ _ _ own state chain
    exact ⟨members, known, own.sigil, composed⟩
  · have known := asked_known process.env arguments.aspects asked asks
    exact ⟨(process.base_cast_ok asked intent draws.stamp result casts).2, known,
      process.base_cast_composes sound asked intent draws.stamp known result casts⟩

theorem cast_orderly_sound (sound : SoundStore process) (basis : process.BasisFits) (arguments : CastArguments)
    (draws : CallDraws) : process.CastOrderly arguments draws ↔
      ∀ begun, process.beginCast arguments draws = .ok begun → arguments.chained = true →
        process.ParentRead arguments := by
  constructor
  · rintro orderly ⟨asked, result, begun⟩ begins
    exact (orderly asked result begun begins).1
  · intro reads asked result begun begins
    refine ⟨reads _ begins, fun _ => Or.inl ?_⟩
    obtain ⟨same, known, sigil, composed⟩ :=
      process.begin_cast_composes sound arguments draws asked result begun begins
    have sized := composed_sized _ _ _ asked sigil composed
    obtain ⟨own, composes⟩ := compose_members _ _ _ asked result.sigil.aspects same sized known sigil composed
    exact accumulate_seed_sound process.env asked result.seedCast (draws.seed 0) process.seeds same
      (members_sized asked _ same sized) (same_members_known process.registry asked _ same known)
      (fun row stored _ => sound.seeds row stored) own composes basis

end CastProcess

end Vermyth
