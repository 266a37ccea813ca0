import Vermyth.Casting.ChannelHistory
import Vermyth.Engine.ScoringLaws

set_option autoImplicit false

namespace Vermyth

open Foundation

inductive CoherentCasts (branchId : String) : CastProcess → List CastRecord → CastProcess → Prop
  | nil (process : CastProcess) : CoherentCasts branchId process [] process
  | cons (process : CastProcess) (arguments : CastProcess.CastArguments) (draws : CallDraws) (result : CastRecord)
      (rest : List CastRecord) (after : CastProcess) (chained : arguments.chained = true)
      (branch : arguments.branchId = some branchId) (unforced : arguments.force = false)
      (ok : (process.toolCast arguments draws).1 = .ok result) (coherent : result.verdict.verdictType = .coherent)
      (later : CoherentCasts branchId (process.toolCast arguments draws).2 rest after) :
      CoherentCasts branchId process (result :: rest) after

def syncRequired (branchId : String) : PyError :=
  .runtimeError ("channel " ++ branchId ++ " is DECOHERENT; sync required")

def CastProcess.Casts (process : CastProcess) (branchId : String) : Prop :=
  ∃ state, process.channelState? branchId = some state ∧ state.status ≠ .decoherent ∧
    ∀ asked intent stamp channelStamp,
      process.engine.chainedCast asked intent (some state) false stamp channelStamp ≠ .error (syncRequired state.branchId)

def CastProcess.SyncRecovers (process : CastProcess) (branchId : String) : Prop :=
  ∀ draws synced, (process.toolSyncChannel branchId draws).1 = .ok synced → ∀ results after,
    CoherentCasts branchId (process.toolSyncChannel branchId draws).2 results after → after.Casts branchId

def ValueRaised (raised : PyError) : Prop := ∃ text, raised = .valueError text

theorem compose_raises (composition : CompositionEngine) (registry : AspectRegistry) (order : SetOrder)
    (aspects : AspectSet) : OnlyRaises ValueRaised (composition.compose registry order aspects) := by
  rw [CompositionEngine.compose]
  apply raises_ite
  · exact fun _ => raises_error ValueRaised _ ⟨_, rfl⟩
  · intro _
    apply raises_ite
    · exact fun _ => raises_error ValueRaised _ ⟨_, rfl⟩
    · intro _
      cases held : composition.entry? (canonicalAspectKey registry aspects) with
      | none =>
          simp only [held]
          exact raises_error ValueRaised _ ⟨_, rfl⟩
      | some raw =>
          simp only [held, ResolvedSigil.make]
          split_ifs
          all_goals first | exact raises_error ValueRaised _ ⟨_, rfl⟩ | exact raises_ok ValueRaised _

theorem evaluate_raises (math : VectorMath) (sigil : SigilFace) (intentVector : IntentVector) :
    OnlyRaises ValueRaised (evaluateWithIntentVector math sigil intentVector) := by
  apply raises_bind
  · apply raises_bind
    · rw [cosineSimilarity]
      apply raises_ite
      · exact fun _ => raises_ok ValueRaised _
      · exact fun _ => raises_error ValueRaised _ ⟨_, rfl⟩
    · intro similar _
      simp only [ScoredResonance.make]
      split_ifs
      all_goals first | exact raises_error ValueRaised _ ⟨_, rfl⟩ | exact raises_ok ValueRaised _
  · intro resonance _
    dsimp only
    split_ifs
    all_goals first | exact raises_error ValueRaised _ ⟨_, rfl⟩ | exact raises_ok ValueRaised _

theorem channel_after_raises (channel : Option ChannelState) (result : CastRecord) (stamp : ChannelStamp) :
    OnlyRaises ValueRaised (ResonanceEngine.channelAfter channel result stamp) := by
  simp only [ResonanceEngine.channelAfter, ChannelState.make]
  split_ifs
  all_goals first | exact raises_error ValueRaised _ ⟨_, rfl⟩ | exact raises_ok ValueRaised _

theorem sync_not_required (engine : ResonanceEngine) (asked : AspectSet) (intent : Intent) (channel : ChannelState)
    (force : Bool) (stamp : CastStamp) (channelStamp : ChannelStamp) (open_ : channel.status ≠ .decoherent) :
    engine.chainedCast asked intent (some channel) force stamp channelStamp ≠ .error (syncRequired channel.branchId) := by
  have passes : (some channel).filter (fun state => state.status = .decoherent && !force) = none := by
    simp [open_]
  have raises : OnlyRaises ValueRaised
      (engine.chainedCast asked intent (some channel) force stamp channelStamp) := by
    rw [ResonanceEngine.chainedCast, passes]
    apply raises_bind
    · exact compose_raises _ _ _ _
    · intro sigil _
      apply raises_bind
      · exact evaluate_raises _ _ _
      · intro verdict _
        apply raises_bind
        · exact channel_after_raises _ _ _
        · exact fun updated _ => raises_ok ValueRaised _
  intro refused
  obtain ⟨text, same⟩ := raises _ refused
  contradiction

theorem status_open (mean : ℚ) (enough : 40 / 100 ≤ mean) : channelStatus mean ≠ .decoherent := by
  rw [channelStatus, if_pos enough]
  split <;> decide

theorem status_shut (mean : ℚ) (low : mean < 40 / 100) : channelStatus mean = .decoherent := by
  have lower : ¬ 65 / 100 ≤ mean := by
    intro high
    exact absurd (low.trans_le' high) (by decide +kernel)
  rw [channelStatus, if_neg lower, if_neg (not_le.mpr low)]

structure ChannelTally.Afloat (tally : ChannelTally) : Prop where
  open_ : tally.status ≠ .decoherent
  lift : tally.castCount + 1 < 2 ^ 63 → (40 / 100 : ℚ) * (tally.castCount + 1) ≤ tally.cumulative + 75 / 100

theorem after_cast_afloat (before : ChannelTally) (afloat : before.Afloat) (room : before.castCount + 1 < 2 ^ 63)
    (adjusted : ℚ) (high : 75 / 100 ≤ adjusted) :
    (ChannelTally.afterCast (some before) .coherent adjusted).Afloat := by
  have lift := afloat.lift room
  have positive : (0 : ℚ) < (before.castCount + 1 : Nat) := Nat.cast_pos.mpr (Nat.succ_pos _)
  have count : ((before.castCount + 1 : Nat) : ℚ) = before.castCount + 1 := Nat.cast_succ _
  constructor
  · apply status_open
    change 40 / 100 ≤ (before.cumulative + adjusted) / ((before.castCount + 1 : Nat) : ℚ)
    rw [le_div_iff₀ positive, count]
    linarith
  · intro _
    change (40 / 100 : ℚ) * (((before.castCount + 1 : Nat) : ℚ) + 1) ≤ before.cumulative + adjusted + 75 / 100
    rw [count]
    linarith

theorem coherent_casts_afloat (branchId : String) (process after : CastProcess) (results : List CastRecord)
    (casts : CoherentCasts branchId process results after) (tally : ChannelTally)
    (known : process.tally? branchId = some tally) (afloat : tally.Afloat) :
    ∃ last, after.tally? branchId = some last ∧ last.Afloat := by
  induction casts generalizing tally with
  | nil process => exact ⟨tally, known, afloat⟩
  | cons process arguments draws result rest after chained branch unforced ok coherent later ih =>
      obtain ⟨-, verdict, room, counted⟩ := process.chained_cast_counts arguments draws branchId chained branch result ok
      rw [known] at room counted
      have high := coherent_adjusted _ (verdict.symm.trans coherent)
      rw [coherent] at counted
      exact ih _ counted (after_cast_afloat tally afloat room _ high)

theorem casts_of_open (process : CastProcess) (branchId : String) (tally : ChannelTally)
    (known : process.tally? branchId = some tally) (open_ : tally.status ≠ .decoherent) : process.Casts branchId := by
  obtain ⟨state, isState, rfl⟩ := Option.map_eq_some_iff.mp known
  refine ⟨state, isState, open_, ?_⟩
  intro asked intent stamp channelStamp
  exact sync_not_required process.engine asked intent state false stamp channelStamp open_

theorem sync_recovers (process : CastProcess) (branchId : String) (state : ChannelState)
    (known : process.channelState? branchId = some state)
    (lift : state.castCount + 1 < 2 ^ 63 →
      (40 / 100 : ℚ) * (state.castCount + 1) ≤ state.cumulativeResonance + 75 / 100) :
    process.SyncRecovers branchId := by
  intro draws synced ok results after casts
  obtain ⟨before, isBefore, isSynced⟩ := process.sync_channel_ok branchId draws synced ok
  rw [CastProcess.tally?, known] at isBefore
  obtain rfl := Option.some.inj isBefore
  have afloat : state.tally.afterSync.Afloat := ⟨fun same => by contradiction, lift⟩
  obtain ⟨last, isLast, lastAfloat⟩ := coherent_casts_afloat branchId _ after results casts _ isSynced afloat
  exact casts_of_open after branchId last isLast lastAfloat.open_

theorem chained_cast_unconstrained (engine : ResonanceEngine) (asked : AspectSet) (intent : Intent)
    (stamp : CastStamp) (channelStamp : ChannelStamp) (result : CastRecord) (other : ChannelState)
    (casts : engine.chainedCast asked intent none false stamp channelStamp = .ok (result, other))
    (channel : ChannelState) (open_ : channel.status ≠ .decoherent) (free : channel.constraintVector = none)
    (updated : ChannelState) (counts : ResonanceEngine.channelAfter (some channel) result channelStamp = .ok updated) :
    engine.chainedCast asked intent (some channel) false stamp channelStamp = .ok (result, updated) := by
  have passes : (some channel).filter (fun state => state.status = .decoherent && !false) = none := by
    simp [open_]
  have sameIntent : engine.chainedIntent intent (some channel) = engine.chainedIntent intent none := by
    rw [ResonanceEngine.chainedIntent, Option.bind_some, free]
    rfl
  obtain ⟨sigil, composed, casts⟩ := (bind_ok _ _ _).mp casts
  obtain ⟨verdict, evaluated, casts⟩ := (bind_ok _ _ _).mp casts
  obtain ⟨first, -, casts⟩ := (bind_ok _ _ _).mp casts
  obtain ⟨rfl, rfl⟩ := Prod.mk.inj (Except.ok.inj casts)
  rw [ResonanceEngine.chainedCast, passes]
  apply (bind_ok _ _ _).mpr
  refine ⟨sigil, composed, ?_⟩
  apply (bind_ok _ _ _).mpr
  refine ⟨verdict, sameIntent ▸ evaluated, ?_⟩
  exact (bind_ok _ _ _).mpr ⟨updated, counts, rfl⟩

theorem channel_make_ok (branchId : String) (castCount : Nat) (cumulative mean : ℚ) (streak : Nat)
    (lastVerdictType : VerdictType) (status : ChannelStatus) (lastCastId : String)
    (constraintVector : Option SemanticVector) (updatedAt : Datetime) (nonneg : 0 ≤ cumulative)
    (inUnit : InUnit mean) : ∃ state, ChannelState.make branchId castCount cumulative mean streak lastVerdictType
      status lastCastId constraintVector updatedAt = .ok state := by
  rw [ChannelState.make, dif_pos nonneg, dif_pos inUnit]
  exact ⟨_, rfl⟩

def bareProcess (channels : Table ChannelState.branchId) : CastProcess := { newProcess {} with channels := channels }

def formArguments : CastProcess.CastArguments := ChannelCall.arguments "B" ["FORM"] (.ok cautious) false

def formSet : AspectSet where
  names := ["FORM"]
  distinct := List.nodup_singleton _

theorem form_cast_lowest : ∃ result other,
    (newProcess {}).engine.chainedCast formSet cautious none false (drawsNamed "F").stamp (drawsNamed "F").channel =
      .ok (result, other) ∧
    result.verdict.resonance.adjusted = 3 / 4 ∧ result.verdict.verdictType = .coherent ∧
    result.sigil.semanticVector.normalizedBasisVersion = 0 ∧
    (accumulateSeed (newProcess {}).env formSet result.seedCast ((drawsNamed "F").seed 0) { grimoire := {} }).1 = .ok () := by
  let cast := (newProcess {}).engine.chainedCast formSet cautious none false (drawsNamed "F").stamp
    (drawsNamed "F").channel
  have outcome : (cast.toOption.map fun made => (made.1.verdict.resonance.adjusted, made.1.verdict.verdictType,
      made.1.sigil.semanticVector.normalizedBasisVersion,
      (accumulateSeed (newProcess {}).env formSet made.1.seedCast ((drawsNamed "F").seed 0)
        { grimoire := {} }).1.toOption)) = some (3 / 4, .coherent, 0, some ()) := by
    decide +kernel
  cases made : cast with
  | error raised =>
      rw [made] at outcome
      contradiction
  | ok pair =>
      obtain ⟨result, other⟩ := pair
      rw [made] at outcome
      obtain ⟨adjusted, rest⟩ := Prod.mk.inj (Option.some.inj outcome)
      obtain ⟨verdict, rest⟩ := Prod.mk.inj rest
      obtain ⟨basis, grows⟩ := Prod.mk.inj rest
      refine ⟨result, other, made, adjusted, verdict, basis, ?_⟩
      cases grown : (accumulateSeed (newProcess {}).env formSet result.seedCast ((drawsNamed "F").seed 0)
          { grimoire := {} }).1 with
      | error raised =>
          rw [grown] at grows
          contradiction
      | ok _ => rfl

def ChannelState.synced (state : ChannelState) (now : Datetime) : ChannelState :=
  { state with coherenceStreak := 0, status := .coherent, updatedAt := now }

theorem bare_sync (channels : Table ChannelState.branchId) (branchId : String) (state : ChannelState)
    (known : (bareProcess channels).channelState? branchId = some state) (free : state.constraintVector = none)
    (fits : state.castCount < 2 ^ 63) (draws : CallDraws) :
    (bareProcess channels).toolSyncChannel branchId draws =
      (.ok (state.synced draws.now), bareProcess (channels.upsert (state.synced draws.now))) := by
  have synced : (bareProcess channels).engine.syncChannel state [] draws.now = .ok (state.synced draws.now) := by
    change Except.ok { state with
      coherenceStreak := 0, status := .coherent, constraintVector := state.constraintVector, updatedAt := draws.now } = _
    rfl
  have seedless : querySeeds (bareProcess channels).env.registry (bareProcess channels).env.order none none
      (bareProcess channels).seeds.grimoire.seeds = .ok [] := rfl
  have writes : (bareProcess channels).writeChannelState (state.synced draws.now) =
      .ok (bareProcess (channels.upsert (state.synced draws.now))) := by
    have count : sqlInteger (state.synced draws.now).castCount = .ok (state.castCount : Int) :=
      sql_integer_small _ fits
    have constraint : (state.synced draws.now).constraintVector = none := free
    rw [CastProcess.writeChannelState, count, constraint]
    rfl
  have steps : (bareProcess channels).syncSteps branchId draws =
      .ok (state.synced draws.now, bareProcess (channels.upsert (state.synced draws.now))) := by
    rw [CastProcess.syncSteps, known]
    apply (bind_ok _ _ _).mpr
    refine ⟨[], seedless, ?_⟩
    apply (bind_ok _ _ _).mpr
    refine ⟨state.synced draws.now, synced, ?_⟩
    exact (bind_ok _ _ _).mpr ⟨_, writes, rfl⟩
  rw [CastProcess.toolSyncChannel, steps]

theorem bare_written (channels : Table ChannelState.branchId) (state : ChannelState) (free : state.constraintVector = none) :
    (bareProcess (channels.upsert state)).channelState? state.branchId = some state := by
  rw [CastProcess.channelState?]
  change Option.map _ ((channels.upsert state).find? state.branchId) = _
  rw [Table.find_upsert, if_pos rfl, Option.map_some, free]
  congr 1
  cases state
  simp only at free
  subst free
  rfl

theorem bare_form_cast (channels : Table ChannelState.branchId) (state : ChannelState)
    (known : (bareProcess channels).channelState? "B" = some state) (free : state.constraintVector = none)
    (open_ : state.status ≠ .decoherent) (streakless : state.coherenceStreak = 0) (fits : state.castCount + 1 < 2 ^ 63)
    (mean : InUnit ((state.cumulativeResonance + 3 / 4) / ((state.castCount + 1 : Nat) : ℚ))) :
    ∃ result, ((bareProcess channels).toolCast formArguments (drawsNamed "F")).1 = .ok result ∧
      result.verdict.resonance.adjusted = 3 / 4 ∧ result.verdict.verdictType = .coherent := by
  obtain ⟨result, other, casts, adjusted, coherent, basis, grows⟩ := form_cast_lowest
  have nonneg : 0 ≤ state.cumulativeResonance + result.verdict.resonance.adjusted :=
    add_nonneg state.cumulativeRange result.verdict.resonance.adjustedInRange.1
  obtain ⟨updated, counts⟩ : ∃ updated,
      ResonanceEngine.channelAfter (some state) result (drawsNamed "F").channel = .ok updated := by
    apply channel_make_ok
    · exact nonneg
    · rw [adjusted]
      exact mean
  have chained := chained_cast_unconstrained (newProcess {}).engine formSet cautious _ _ result other casts state open_
    free updated counts
  have made := channel_after_fields (some state) result (drawsNamed "F").channel updated counts
  have tally := made.1
  have constraint := made.2
  have writes : ∃ written, (bareProcess channels).writeChannelState updated = .ok written := by
    have count : updated.castCount = state.castCount + 1 := congrArg ChannelTally.castCount tally
    have streak : updated.coherenceStreak = 1 := by
      have counted : updated.coherenceStreak = if result.verdict.verdictType = .coherent then state.coherenceStreak + 1 else 0 :=
        congrArg ChannelTally.streak tally
      rw [counted, if_pos coherent, streakless]
    have small : sqlInteger updated.castCount = .ok (updated.castCount : Int) := by
      apply sql_integer_small
      rw [count]
      exact fits
    rw [CastProcess.writeChannelState, small, streak, constraint, Option.map_some, Option.getD_some, basis]
    exact ⟨_, rfl⟩
  obtain ⟨written, wrote⟩ := writes
  have chains : (bareProcess channels).chainedResult formSet cautious (some "B") false (drawsNamed "F") =
      .ok (result, written) := by
    rw [CastProcess.chainedResult, Option.bind_some, known]
    apply (bind_ok _ _ _).mpr
    refine ⟨(result, updated), chained, ?_⟩
    exact (bind_ok _ _ _).mpr ⟨written, wrote, rfl⟩
  have begins : (bareProcess channels).beginCast formArguments (drawsNamed "F") = .ok (formSet, result, written) := by
    apply (bind_ok _ _ _).mpr
    refine ⟨formSet, rfl, ?_⟩
    apply (bind_ok _ _ _).mpr
    refine ⟨cautious, rfl, ?_⟩
    exact (bind_ok _ _ _).mpr ⟨(result, written), chains, rfl⟩
  obtain ⟨-, isResult, comesOut⟩ := (bareProcess channels).chained_cast_cases formArguments (drawsNamed "F") "B" rfl rfl rfl
    formSet result written begins
  obtain ⟨kept, keeps⟩ := comesOut.mpr ⟨List.not_mem_nil, grows⟩
  obtain rfl := isResult kept keeps
  exact ⟨kept, keeps, adjusted, coherent⟩

theorem sunk_channel (state : ChannelState) (own : state.branchId = "B") (free : state.constraintVector = none)
    (room : state.castCount + 1 < 2 ^ 63)
    (sunk : state.cumulativeResonance + 75 / 100 < (40 / 100 : ℚ) * (state.castCount + 1)) :
    ¬ (bareProcess (Table.empty.upsert state)).SyncRecovers "B" := by
  have positive : (0 : ℚ) < (state.castCount + 1 : Nat) := Nat.cast_pos.mpr (Nat.succ_pos _)
  have count : ((state.castCount + 1 : Nat) : ℚ) = state.castCount + 1 := Nat.cast_succ _
  have nonneg := state.cumulativeRange
  have low : (state.cumulativeResonance + 3 / 4) / ((state.castCount + 1 : Nat) : ℚ) < 40 / 100 := by
    rw [div_lt_iff₀ positive, count]
    linarith
  have mean : InUnit ((state.cumulativeResonance + 3 / 4) / ((state.castCount + 1 : Nat) : ℚ)) := by
    constructor
    · exact div_nonneg (by linarith) positive.le
    · linarith
  let synced := state.synced sampleTime
  have known := own ▸ bare_written Table.empty state free
  have sync := bare_sync (Table.empty.upsert state) "B" state known free (by omega) (drawsNamed "S")
  have knownSynced : (bareProcess ((Table.empty.upsert state).upsert synced)).channelState? "B" = some synced :=
    own ▸ bare_written (Table.empty.upsert state) synced free
  obtain ⟨result, casts, adjusted, coherent⟩ := bare_form_cast _ synced knownSynced free (fun same => nomatch same) rfl
    room mean
  intro recovers
  have later : CoherentCasts "B" ((bareProcess (Table.empty.upsert state)).toolSyncChannel "B" (drawsNamed "S")).2
      [result] ((bareProcess ((Table.empty.upsert state).upsert synced)).toolCast formArguments (drawsNamed "F")).2 := by
    rw [sync]
    exact .cons _ formArguments (drawsNamed "F") result [] _ rfl rfl rfl casts coherent (.nil _)
  obtain ⟨last, isLast, open_, -⟩ := recovers (drawsNamed "S") synced (congrArg Prod.fst sync) _ _ later
  obtain ⟨-, -, -, counted⟩ := CastProcess.chained_cast_counts _ formArguments (drawsNamed "F") "B" rfl rfl result casts
  rw [CastProcess.tally?, isLast, CastProcess.tally?, knownSynced, adjusted] at counted
  have status : last.status = channelStatus ((state.cumulativeResonance + 3 / 4) / ((state.castCount + 1 : Nat) : ℚ)) :=
    congrArg ChannelTally.status (Option.some.inj counted)
  exact open_ (status.trans (status_shut _ low))

theorem sync_recovers_iff (castCount : Nat) (cumulative : ℚ) :
    (∀ (process : CastProcess) (branchId : String) (state : ChannelState),
      process.channelState? branchId = some state → state.castCount = castCount →
        state.cumulativeResonance = cumulative → process.SyncRecovers branchId) ↔
    (0 ≤ cumulative → castCount + 1 < 2 ^ 63 → (40 / 100 : ℚ) * (castCount + 1) ≤ cumulative + 75 / 100) := by
  constructor
  · intro recovers nonneg room
    by_contra sunk
    have low := not_le.mp sunk
    have inUnit : InUnit (cumulative / castCount) := by
      constructor
      · exact div_nonneg nonneg (Nat.cast_nonneg _)
      · apply div_le_one_of_le₀ _ (Nat.cast_nonneg _)
        have count : (0 : ℚ) ≤ castCount := Nat.cast_nonneg _
        linarith
    obtain ⟨state, made⟩ := channel_make_ok "B" castCount cumulative (cumulative / castCount) 0 .incoherent .decoherent
      "L" none sampleTime nonneg inUnit
    obtain ⟨fields, free⟩ := channel_made _ _ _ _ _ _ _ _ _ _ state made
    have own : state.branchId = "B" := (channel_state_ok _ _ _ _ _ _ _ _ _ _ state made).1
    have isCount : state.castCount = castCount := congrArg ChannelTally.castCount fields
    have isCumulative : state.cumulativeResonance = cumulative := congrArg ChannelTally.cumulative fields
    refine sunk_channel state own free ?_ ?_ (recovers _ "B" state ?_ isCount isCumulative)
    · rw [isCount]
      exact room
    · rw [isCount, isCumulative]
      exact low
    · exact own ▸ bare_written Table.empty state free
  · intro lift process branchId state known isCount isCumulative
    apply sync_recovers process branchId state known
    rw [isCount, isCumulative]
    exact lift (isCumulative ▸ state.cumulativeRange)

def reckless : Intent := { cautious with sideEffectTolerance := .high }

def sinkingCalls : List ChannelCall :=
  [.chained ["VOID"] (.ok reckless) false (drawsNamed "A"), .chained ["DECAY"] (.ok reckless) true (drawsNamed "C"),
   .chained ["VOID"] (.ok reckless) true (drawsNamed "D")]

def sunkProcess : CastProcess := (run (BranchState.take "B") { process := newProcess {} } sinkingCalls).process

theorem synced_channel_refuses : ¬ sunkProcess.SyncRecovers "B" := by
  let synced := sunkProcess.toolSyncChannel "B" (drawsNamed "S")
  let cast := synced.2.toolCast formArguments (drawsNamed "F")
  have outcome : (synced.1.toOption.isSome, cast.1.toOption.map fun result => result.verdict.verdictType,
      (cast.2.tally? "B").map ChannelTally.status) = (true, some .coherent, some .decoherent) := by
    decide +kernel
  obtain ⟨syncs, rest⟩ := Prod.mk.inj outcome
  obtain ⟨verdict, status⟩ := Prod.mk.inj rest
  cases answered : synced.1 with
  | error raised =>
      rw [answered] at syncs
      contradiction
  | ok state =>
      cases casts : cast.1 with
      | error raised =>
          rw [casts] at verdict
          contradiction
      | ok result =>
          rw [casts] at verdict
          intro recovers
          have later : CoherentCasts "B" synced.2 [result] cast.2 :=
            .cons _ formArguments (drawsNamed "F") result [] _ rfl rfl rfl casts (Option.some.inj verdict) (.nil _)
          obtain ⟨last, isLast, open_, -⟩ := recovers (drawsNamed "S") state answered _ _ later
          rw [CastProcess.tally?, isLast] at status
          exact open_ (Option.some.inj status)

end Vermyth
