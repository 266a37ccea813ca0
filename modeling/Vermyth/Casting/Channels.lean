import Vermyth.Casting.CastAtomicity

set_option autoImplicit false

namespace Vermyth

open Foundation

def bestSeed (seeds : List GlyphSeed) : Option GlyphSeed := seeds.argmax GlyphSeed.meanResonance

def ResonanceEngine.anchorSigil (engine : ResonanceEngine) (seeds : List GlyphSeed) :
    Except PyError (Option ResolvedSigil) :=
  match bestSeed seeds with
  | none => .ok none
  | some best => crystallize engine.registry engine.order engine.composition best

def ResonanceEngine.syncChannel (engine : ResonanceEngine) (channel : ChannelState) (seeds : List GlyphSeed)
    (updatedAt : Datetime) : Except PyError ChannelState := do
  let sigil ← engine.anchorSigil seeds
  return { channel with
    coherenceStreak := 0
    status := .coherent
    constraintVector := (sigil.map ResolvedSigil.semanticVector).or channel.constraintVector
    updatedAt := updatedAt }

namespace CastProcess

variable (process : CastProcess)

def syncSteps (branchId : String) (draws : CallDraws) : Except PyError (ChannelState × CastProcess) :=
  match process.channelState? branchId with
  | none => .error (.keyError branchId)
  | some state => do
      let seeds ← querySeeds process.env.registry process.env.order none none process.seeds.grimoire.seeds
      let synced ← process.engine.syncChannel state seeds draws.now
      let written ← process.writeChannelState synced
      return (synced, written)

def toolSyncChannel (branchId : String) (draws : CallDraws) : CallOutcome ChannelState :=
  match process.syncSteps branchId draws with
  | .error raised => (.error raised, process)
  | .ok (synced, written) => (.ok synced, written)

end CastProcess

structure ChannelTally where
  castCount : Nat
  cumulative : ℚ
  mean : ℚ
  streak : Nat
  status : ChannelStatus

def ChannelState.tally (state : ChannelState) : ChannelTally where
  castCount := state.castCount
  cumulative := state.cumulativeResonance
  mean := state.meanResonance
  streak := state.coherenceStreak
  status := state.status

namespace ChannelTally

def afterCast (before : Option ChannelTally) (verdictType : VerdictType) (adjusted : ℚ) : ChannelTally :=
  let castCount := (before.map ChannelTally.castCount).getD 0 + 1
  let cumulative := (before.map ChannelTally.cumulative).getD 0 + adjusted
  { castCount := castCount
    cumulative := cumulative
    mean := cumulative / castCount
    streak := if verdictType = .coherent then (before.map ChannelTally.streak).getD 0 + 1 else 0
    status := channelStatus (cumulative / castCount) }

def afterSync (before : ChannelTally) : ChannelTally := { before with streak := 0, status := .coherent }

end ChannelTally

theorem channel_made (branchId : String) (castCount : Nat) (cumulative mean : ℚ) (streak : Nat)
    (lastVerdictType : VerdictType) (status : ChannelStatus) (lastCastId : String)
    (constraintVector : Option SemanticVector) (updatedAt : Datetime) (state : ChannelState)
    (made : ChannelState.make branchId castCount cumulative mean streak lastVerdictType status lastCastId
      constraintVector updatedAt = .ok state) :
    state.tally = { castCount, cumulative, mean, streak, status } ∧ state.constraintVector = constraintVector := by
  rw [ChannelState.make] at made
  split_ifs at made
  rw [← Except.ok.inj made]
  exact ⟨rfl, rfl⟩

theorem channel_after_fields (channel : Option ChannelState) (result : CastRecord) (stamp : ChannelStamp)
    (state : ChannelState) (made : ResonanceEngine.channelAfter channel result stamp = .ok state) :
    state.tally = .afterCast (channel.map ChannelState.tally) result.verdict.verdictType
        result.verdict.resonance.adjusted ∧
      state.constraintVector = some result.sigil.semanticVector := by
  obtain ⟨fields, constraint⟩ := channel_made _ _ _ _ _ _ _ _ _ _ state made
  refine ⟨?_, constraint⟩
  rw [fields]
  cases channel <;> rfl

theorem chained_cast_verdict (engine : ResonanceEngine) (asked : AspectSet) (intent : Intent)
    (channel : Option ChannelState) (force : Bool) (stamp : CastStamp) (channelStamp : ChannelStamp)
    (result : CastRecord) (state : ChannelState)
    (cast : engine.chainedCast asked intent channel force stamp channelStamp = .ok (result, state)) :
    result.verdict.verdictType = verdictTypeOf result.verdict.resonance.adjusted := by
  rw [ResonanceEngine.chainedCast] at cast
  split at cast
  · contradiction
  · obtain ⟨sigil, -, cast⟩ := (bind_ok _ _ _).mp cast
    obtain ⟨verdict, evaluated, cast⟩ := (bind_ok _ _ _).mp cast
    obtain ⟨updated, -, cast⟩ := (bind_ok _ _ _).mp cast
    obtain ⟨rfl, rfl⟩ := Prod.mk.inj (Except.ok.inj cast)
    obtain ⟨resonance, -, evaluated⟩ := (bind_ok _ _ _).mp evaluated
    dsimp only at evaluated
    split_ifs at evaluated
    rw [← Except.ok.inj evaluated]

namespace CastProcess

variable (process : CastProcess)

def tally? (branchId : String) : Option ChannelTally := (process.channelState? branchId).map ChannelState.tally

theorem tally_row (branchId : String) :
    process.tally? branchId = (process.channels.find? branchId).map ChannelState.tally := by
  rw [tally?, channelState?, Option.map_map]
  rfl

theorem tally_channels (other : CastProcess) (branchId : String) (same : other.channels = process.channels) :
    other.tally? branchId = process.tally? branchId := by
  rw [tally_row, tally_row, same]

theorem tally_written (state : ChannelState) (written : CastProcess)
    (wrote : process.writeChannelState state = .ok written) (branchId : String) (own : state.branchId = branchId) :
    written.tally? branchId = some state.tally := by
  rw [tally_row, process.write_channel_ok state written wrote]
  dsimp only
  rw [Table.find_upsert, if_pos own]
  rfl

theorem written_basis (state : ChannelState) (written : CastProcess)
    (wrote : process.writeChannelState state = .ok written) (vector : SemanticVector)
    (constraint : state.constraintVector = some vector) :
    ∃ value, sqlInteger vector.normalizedBasisVersion = .ok value := by
  obtain ⟨_, -, wrote⟩ := (bind_ok _ _ _).mp wrote
  obtain ⟨_, -, wrote⟩ := (bind_ok _ _ _).mp wrote
  obtain ⟨value, fits, -⟩ := (bind_ok _ _ _).mp wrote
  rw [constraint] at fits
  exact ⟨value, fits⟩

theorem written_count (state : ChannelState) (written : CastProcess)
    (wrote : process.writeChannelState state = .ok written) : state.castCount < 2 ^ 63 := by
  obtain ⟨value, fits, -⟩ := (bind_ok _ _ _).mp wrote
  rw [sqlInteger] at fits
  split_ifs at fits with inside
  omega

def Admitted (branchId : String) (force : Bool) : Prop :=
  ∀ tally, process.tally? branchId = some tally → tally.status = .decoherent → force = true

structure Counted (branchId : String) (force : Bool) (draws : CallDraws) (result : CastRecord) (begun : CastProcess) :
    Prop where
  admitted : process.Admitted branchId force
  castId : result.castId = draws.stamp.castId
  basis : ∃ value, sqlInteger result.sigil.semanticVector.normalizedBasisVersion = .ok value
  channels : ∃ channels, begun = { process with channels := channels }
  verdict : result.verdict.verdictType = verdictTypeOf result.verdict.resonance.adjusted
  fits : ((process.tally? branchId).map ChannelTally.castCount).getD 0 + 1 < 2 ^ 63
  tally : begun.tally? branchId = some (.afterCast (process.tally? branchId) result.verdict.verdictType
    result.verdict.resonance.adjusted)

theorem refused_channel (channel : ChannelState) (force : Bool) (decoherent : channel.status = .decoherent)
    (unforced : ¬ force = true) :
    (some channel).filter (fun state => state.status = .decoherent && !force) = some channel := by
  rw [Bool.not_eq_true] at unforced
  simp [decoherent, unforced]

theorem chained_result_counted (asked : AspectSet) (intent : Intent) (branchId : String) (force : Bool)
    (draws : CallDraws) (result : CastRecord) (written : CastProcess)
    (cast : process.chainedResult asked intent (some branchId) force draws = .ok (result, written)) :
    process.Counted branchId force draws result written := by
  obtain ⟨⟨own, state⟩, chained, cast⟩ := (bind_ok _ _ _).mp cast
  obtain ⟨after, wrote, cast⟩ := (bind_ok _ _ _).mp cast
  obtain ⟨rfl, rfl⟩ := Prod.mk.inj (Except.ok.inj cast)
  obtain ⟨isDrawn, -, made⟩ := chained_cast_ok process.engine asked intent _ force _ _ own state chained
  obtain ⟨fields, constraint⟩ := channel_after_fields _ own _ state made
  obtain ⟨ownBranch, -⟩ := channel_after_ok _ own _ state made
  have admitted : process.Admitted branchId force := by
    intro tally isTally decoherent
    obtain ⟨channel, isChannel, rfl⟩ := Option.map_eq_some_iff.mp isTally
    by_contra unforced
    rw [ResonanceEngine.chainedCast, Option.bind_some, isChannel, refused_channel channel force decoherent unforced]
      at chained
    contradiction
  have found : Option.bind (some branchId) process.channelState? = process.channelState? branchId := rfl
  rw [found] at fields ownBranch wrote
  have renamed : ∃ kept : ChannelState, process.writeChannelState kept = .ok after ∧ kept.branchId = branchId ∧
      kept.tally = state.tally ∧ kept.constraintVector = some own.sigil.semanticVector := by
    cases known : process.channelState? branchId with
    | none =>
        rw [known] at wrote
        exact ⟨_, wrote, rfl, rfl, constraint⟩
    | some channel =>
        rw [known] at wrote ownBranch
        obtain ⟨-, -, isBranch, -⟩ := process.find_channel branchId channel known
        exact ⟨state, wrote, ownBranch.trans isBranch, rfl, constraint⟩
  obtain ⟨kept, wroteKept, keptBranch, keptTally, keptConstraint⟩ := renamed
  refine ⟨admitted, isDrawn, process.written_basis kept after wroteKept _ keptConstraint,
    ⟨_, process.write_channel_ok kept after wroteKept⟩,
    chained_cast_verdict process.engine asked intent _ force _ _ own state chained, ?_, ?_⟩
  · have count : kept.castCount = ((process.tally? branchId).map ChannelTally.castCount).getD 0 + 1 :=
      congrArg ChannelTally.castCount (keptTally.trans fields)
    rw [← count]
    exact process.written_count kept after wroteKept
  · rw [process.tally_written kept after wroteKept branchId keptBranch, keptTally, fields]
    rfl

theorem begin_chained (arguments : CastArguments) (draws : CallDraws) (branchId : String)
    (chained : arguments.chained = true) (branch : arguments.branchId = some branchId) (asked : AspectSet)
    (result : CastRecord) (begun : CastProcess)
    (begins : process.beginCast arguments draws = .ok (asked, result, begun)) :
    process.Counted branchId arguments.force draws result begun := by
  obtain ⟨intent, -, ⟨-, casts⟩ | ⟨unchained, -⟩⟩ :=
    process.begin_cast_cases arguments draws asked result begun begins
  · rw [branch] at casts
    exact process.chained_result_counted asked intent branchId arguments.force draws result begun casts
  · rw [chained] at unchained
    contradiction

theorem write_cast_channels (record : CastRecord) (written : CastProcess)
    (wrote : process.writeCast record = .ok written) :
    ¬ process.casts.Has record.castId ∧ written.channels = process.channels := by
  rw [writeCast] at wrote
  by_cases taken : process.casts.Has record.castId
  · rw [Table.insert_taken process.casts record taken] at wrote
    contradiction
  · rw [Table.insert_fresh process.casts record taken] at wrote
    obtain ⟨_, -, wrote⟩ := (bind_ok _ _ _).mp wrote
    obtain rfl := Except.ok.inj wrote
    exact ⟨taken, rfl⟩

theorem keep_cast_cases (asked : AspectSet) (result : CastRecord) (draw : SeedDraw)
    (basis : ∃ value, sqlInteger result.sigil.semanticVector.normalizedBasisVersion = .ok value) :
    (process.keepCast asked result draw).2.channels = process.channels ∧
      (∀ kept, (process.keepCast asked result draw).1 = .ok kept → kept = result) ∧
      ((∃ kept, (process.keepCast asked result draw).1 = .ok kept) ↔
        ¬ process.casts.Has result.castId ∧
          (accumulateSeed process.env asked result.seedCast draw process.seeds).1 = .ok ()) := by
  cases grows : (accumulateSeed process.env asked result.seedCast draw process.seeds).1 with
  | error raised =>
      rw [process.keep_cast_failed asked result draw raised grows]
      refine ⟨rfl, fun kept same => by contradiction, iff_of_false ?_ fun both => by cases both.2⟩
      rintro ⟨kept, same⟩
      contradiction
  | ok _ =>
      rw [keepCast, growSeed]
      simp only [grows, and_true]
      cases wrote : writeCast _ result with
      | error raised =>
          refine ⟨rfl, fun kept same => by contradiction, iff_of_false ?_ ?_⟩
          · rintro ⟨kept, same⟩
            contradiction
          intro fresh
          obtain ⟨kept, keeps⟩ := process.keep_cast_grown asked result draw grows fresh basis
          rw [keepCast, growSeed] at keeps
          simp only [grows, wrote] at keeps
          contradiction
      | ok written =>
          obtain ⟨fresh, channels⟩ := write_cast_channels _ result written wrote
          exact ⟨channels, fun kept same => (Except.ok.inj same).symm, iff_of_true ⟨result, rfl⟩ fresh⟩

theorem attach_parent_channels (result child : CastRecord) (parentCastId branchId : Option String) (draws : CallDraws)
    (attached : CastProcess)
    (attaches : process.attachParent result parentCastId branchId draws = .ok (child, attached)) :
    child.verdict = result.verdict ∧ child.sigil = result.sigil ∧ attached.channels = process.channels := by
  cases parentCastId with
  | none =>
      obtain ⟨rfl, rfl⟩ := Prod.mk.inj (Except.ok.inj attaches)
      exact ⟨rfl, rfl, rfl⟩
  | some parentCastId =>
      obtain ⟨parent, -, attaches⟩ := (bind_ok _ _ _).mp attaches
      obtain ⟨report, -, attaches⟩ := (bind_ok _ _ _).mp attaches
      obtain ⟨rfl, rfl⟩ := Prod.mk.inj (Except.ok.inj attaches)
      exact ⟨rfl, rfl, rfl⟩

theorem tool_cast_ok (arguments : CastArguments) (draws : CallDraws) (result : CastRecord) :
    (process.toolCast arguments draws).1 = .ok result ↔ (process.castSteps arguments draws).1 = .ok result := by
  rw [toolCast, wrapped]
  cases (process.castSteps arguments draws).1 with
  | error raised => exact iff_of_false (fun same => by contradiction) (fun same => by contradiction)
  | ok own => exact Iff.rfl

theorem chained_cast_counts (arguments : CastArguments) (draws : CallDraws) (branchId : String)
    (chained : arguments.chained = true) (branch : arguments.branchId = some branchId) (result : CastRecord)
    (ok : (process.toolCast arguments draws).1 = .ok result) :
    process.Admitted branchId arguments.force ∧
      result.verdict.verdictType = verdictTypeOf result.verdict.resonance.adjusted ∧
      ((process.tally? branchId).map ChannelTally.castCount).getD 0 + 1 < 2 ^ 63 ∧
      (process.toolCast arguments draws).2.tally? branchId = some (.afterCast (process.tally? branchId)
        result.verdict.verdictType result.verdict.resonance.adjusted) := by
  rw [tool_cast_ok, castSteps] at ok
  change _ ∧ _ ∧ _ ∧ (process.castSteps arguments draws).2.tally? branchId = _
  rw [castSteps]
  cases begins : process.beginCast arguments draws with
  | error raised =>
      rw [begins] at ok
      contradiction
  | ok stage =>
      obtain ⟨asked, own, begun⟩ := stage
      have counted := process.begin_chained arguments draws branchId chained branch asked own begun begins
      simp only [begins] at ok ⊢
      cases attaches : begun.attachParent own arguments.parentCastId arguments.branchId draws with
      | error raised =>
          rw [attaches] at ok
          contradiction
      | ok stage =>
          obtain ⟨child, attached⟩ := stage
          obtain ⟨verdict, sigil, channels⟩ := begun.attach_parent_channels own child _ _ draws attached attaches
          simp only [attaches] at ok ⊢
          obtain ⟨kept, isChild, -⟩ := attached.keep_cast_cases asked child (draws.seed 0) (sigil ▸ counted.basis)
          obtain rfl := isChild result ok
          rw [verdict, ← counted.tally]
          exact ⟨counted.admitted, counted.verdict, counted.fits, begun.tally_channels _ branchId (kept.trans channels)⟩

theorem chained_cast_refused (arguments : CastArguments) (draws : CallDraws) (branchId : String)
    (chained : arguments.chained = true) (branch : arguments.branchId = some branchId)
    (refused : ¬ process.Admitted branchId arguments.force) :
    (∃ raised, (process.toolCast arguments draws).1 = .error raised) ∧
      (process.toolCast arguments draws).2 = process := by
  rw [toolCast, wrapped, castSteps]
  cases begins : process.beginCast arguments draws with
  | error raised => exact ⟨⟨_, rfl⟩, rfl⟩
  | ok stage =>
      obtain ⟨asked, own, begun⟩ := stage
      exact absurd (process.begin_chained arguments draws branchId chained branch asked own begun begins).admitted refused

end CastProcess

end Vermyth
