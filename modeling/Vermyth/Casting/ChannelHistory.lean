import Mathlib.Algebra.BigOperators.Group.List.Basic
import Vermyth.Casting.Channels

set_option autoImplicit false

namespace Vermyth

open Foundation

inductive BranchEvent where
  | cast (verdictType : VerdictType) (adjusted : ℚ)
  | sync

def BranchEvent.adjusted? : BranchEvent → Option ℚ
  | .cast _ adjusted => some adjusted
  | .sync => none

def BranchEvent.coherent : BranchEvent → Bool
  | .cast .coherent _ => true
  | _ => false

def BranchEvent.isSync : BranchEvent → Bool
  | .cast _ _ => false
  | .sync => true

abbrev BranchHistory := List BranchEvent

namespace BranchHistory

def casts (history : BranchHistory) : List ℚ := history.filterMap BranchEvent.adjusted?

def streak (history : BranchHistory) : Nat := (history.takeWhile BranchEvent.coherent).length

def justSynced (history : BranchHistory) : Bool := history.head?.any BranchEvent.isSync

end BranchHistory

namespace ChannelTally

structure Tells (tally : ChannelTally) (history : BranchHistory) : Prop where
  castCount : tally.castCount = history.casts.length
  counted : tally.castCount ≠ 0
  cumulative : tally.cumulative = history.casts.sum
  mean : tally.mean = tally.cumulative / tally.castCount
  streak : tally.streak = history.streak
  status : tally.status = if history.justSynced then .coherent else channelStatus tally.mean

def Known (history : BranchHistory) : Option ChannelTally → Prop
  | none => history = []
  | some tally => tally.Tells history

theorem after_cast_tells (history : BranchHistory) (before : Option ChannelTally) (known : Known history before)
    (verdictType : VerdictType) (adjusted : ℚ) :
    (afterCast before verdictType adjusted).Tells (.cast verdictType adjusted :: history) := by
  have old : (before.map ChannelTally.castCount).getD 0 = history.casts.length ∧
      (before.map ChannelTally.cumulative).getD 0 = history.casts.sum ∧
      (before.map ChannelTally.streak).getD 0 = history.streak := by
    cases before with
    | none =>
        obtain rfl : history = [] := known
        exact ⟨rfl, rfl, rfl⟩
    | some tally =>
        have tells : tally.Tells history := known
        exact ⟨tells.castCount, tells.cumulative, tells.streak⟩
  obtain ⟨castCount, cumulative, streak⟩ := old
  refine ⟨?_, Nat.succ_ne_zero _, ?_, rfl, ?_, rfl⟩
  · exact congrArg (· + 1) castCount
  · change _ + adjusted = (adjusted :: history.casts).sum
    rw [cumulative, List.sum_cons, add_comm]
  · cases verdictType with
    | coherent => exact congrArg (· + 1) streak
    | partially => rfl
    | incoherent => rfl

theorem after_sync_tells (history : BranchHistory) (before : ChannelTally) (tells : before.Tells history) :
    before.afterSync.Tells (.sync :: history) :=
  ⟨tells.castCount, tells.counted, tells.cumulative, tells.mean, rfl, rfl⟩

theorem after_cast_unknown (history : BranchHistory) (before : Option ChannelTally) (known : Known history before)
    (verdictType : VerdictType) (adjusted : ℚ) : ¬ (afterCast before verdictType adjusted).Tells history := by
  intro tells
  have counted : (before.map ChannelTally.castCount).getD 0 + 1 = history.casts.length := tells.castCount
  cases before with
  | none =>
      obtain rfl : history = [] := known
      exact absurd counted (Nat.succ_ne_zero _)
  | some tally =>
      have old : tally.castCount = history.casts.length := Tells.castCount known
      rw [Option.map_some, Option.getD_some] at counted
      omega

end ChannelTally

namespace CastProcess

variable (process : CastProcess)

theorem sync_channel_ok (branchId : String) (draws : CallDraws) (synced : ChannelState)
    (ok : (process.toolSyncChannel branchId draws).1 = .ok synced) :
    ∃ before, process.tally? branchId = some before ∧
      (process.toolSyncChannel branchId draws).2.tally? branchId = some before.afterSync := by
  rw [toolSyncChannel] at ok ⊢
  cases steps : process.syncSteps branchId draws with
  | error raised =>
      rw [steps] at ok
      contradiction
  | ok stage =>
      obtain ⟨own, written⟩ := stage
      rw [syncSteps] at steps
      cases known : process.channelState? branchId with
      | none =>
          rw [known] at steps
          contradiction
      | some state =>
          rw [known] at steps
          obtain ⟨seeds, -, steps⟩ := (bind_ok _ _ _).mp steps
          obtain ⟨made, syncs, steps⟩ := (bind_ok _ _ _).mp steps
          obtain ⟨after, wrote, steps⟩ := (bind_ok _ _ _).mp steps
          obtain ⟨rfl, rfl⟩ := Prod.mk.inj (Except.ok.inj steps)
          obtain ⟨sigil, -, syncs⟩ := (bind_ok _ _ _).mp syncs
          obtain rfl := Except.ok.inj syncs
          obtain ⟨-, -, isBranch, -⟩ := process.find_channel branchId state known
          refine ⟨state.tally, by rw [tally?, known, Option.map_some], ?_⟩
          exact process.tally_written _ after wrote branchId isBranch

theorem sync_channel_error (branchId : String) (draws : CallDraws) (raised : PyError)
    (error : (process.toolSyncChannel branchId draws).1 = .error raised) :
    (process.toolSyncChannel branchId draws).2 = process := by
  rw [toolSyncChannel] at error ⊢
  cases steps : process.syncSteps branchId draws with
  | error other => rfl
  | ok stage =>
      rw [steps] at error
      contradiction

theorem geometric_request_admitted (arguments : GeometricArguments) (branchId : String)
    (branch : arguments.branchId = some branchId) (request : SemanticVector × Intent)
    (requested : process.geometricRequest arguments = .ok request) : process.Admitted branchId arguments.force := by
  obtain ⟨packet, -, requested⟩ := (bind_ok _ _ _).mp requested
  by_cases proved : packet.Proved
  · simp only [if_pos proved, branch, Option.bind_some] at requested
    intro tally isTally decoherent
    obtain ⟨channel, isChannel, rfl⟩ := Option.map_eq_some_iff.mp isTally
    by_contra unforced
    rw [isChannel, refused_channel channel arguments.force decoherent unforced] at requested
    contradiction
  · rw [if_neg proved] at requested
    contradiction

theorem geometric_cast_cases (arguments : GeometricArguments) (draws : CallDraws) (branchId : String)
    (branch : arguments.branchId = some branchId) :
    (∀ result, (process.toolGeometricCast arguments draws).1 = .ok result →
        process.Admitted branchId arguments.force ∧
        (process.toolGeometricCast arguments draws).2.tally? branchId = some (.afterCast (process.tally? branchId)
          result.verdict.verdictType result.verdict.resonance.adjusted)) ∧
      ∀ raised, (process.toolGeometricCast arguments draws).1 = .error raised →
        (process.toolGeometricCast arguments draws).2.tally? branchId = process.tally? branchId := by
  rw [toolGeometricCast]
  cases begins : process.beginGeometric arguments draws with
  | error raised => exact ⟨fun result same => by contradiction, fun _ _ => rfl⟩
  | ok result =>
      dsimp only
      obtain ⟨request, requested, -⟩ := (bind_ok _ _ _).mp begins
      have admitted := process.geometric_request_admitted arguments branchId branch request requested
      cases wrote : process.writeCast result with
      | error raised => exact ⟨fun result same => by contradiction, fun _ _ => rfl⟩
      | ok written =>
          obtain ⟨-, channels⟩ := process.write_cast_channels result written wrote
          have same := process.tally_channels written branchId channels
          dsimp only
          cases channelled : written.geometricChannel arguments result draws with
          | error raised => exact ⟨fun result failed => by contradiction, fun _ _ => same⟩
          | ok after =>
              refine ⟨?_, fun raised failed => by contradiction⟩
              intro own ok
              obtain rfl := Except.ok.inj ok
              refine ⟨admitted, ?_⟩
              rw [geometricChannel, branch] at channelled
              obtain ⟨state, made, writes⟩ := (bind_ok _ _ _).mp channelled
              obtain ⟨fields, -⟩ := channel_after_fields _ result _ state made
              obtain ⟨ownBranch, -⟩ := channel_after_ok _ result _ state made
              have isBranch : state.branchId = branchId := by
                rw [ownBranch]
                cases known : written.channelState? branchId with
                | none => rfl
                | some channel => exact (written.find_channel branchId channel known).choose_spec.2.1
              rw [written.tally_written state after writes branchId isBranch, fields, ← same]
              rfl

theorem geometric_cast_refused (arguments : GeometricArguments) (draws : CallDraws) (branchId : String)
    (branch : arguments.branchId = some branchId) (refused : ¬ process.Admitted branchId arguments.force) :
    (∃ raised, (process.toolGeometricCast arguments draws).1 = .error raised) ∧
      (process.toolGeometricCast arguments draws).2 = process := by
  rw [toolGeometricCast]
  cases begins : process.beginGeometric arguments draws with
  | error raised => exact ⟨⟨_, rfl⟩, rfl⟩
  | ok result =>
      obtain ⟨request, requested, -⟩ := (bind_ok _ _ _).mp begins
      exact absurd (process.geometric_request_admitted arguments branchId branch request requested) refused

end CastProcess

namespace CastProcess

variable (process : CastProcess)

theorem chained_cast_cases (arguments : CastArguments) (draws : CallDraws) (branchId : String)
    (chained : arguments.chained = true) (branch : arguments.branchId = some branchId)
    (parentless : arguments.parentCastId = none) (asked : AspectSet) (result : CastRecord) (begun : CastProcess)
    (begins : process.beginCast arguments draws = .ok (asked, result, begun)) :
    (process.toolCast arguments draws).2.tally? branchId = some (.afterCast (process.tally? branchId)
        result.verdict.verdictType result.verdict.resonance.adjusted) ∧
      (∀ kept, (process.toolCast arguments draws).1 = .ok kept → kept = result) ∧
      ((∃ kept, (process.toolCast arguments draws).1 = .ok kept) ↔ ¬ process.casts.Has draws.stamp.castId ∧
        (accumulateSeed process.env asked result.seedCast (draws.seed 0) process.seeds).1 = .ok ()) := by
  have counted := process.begin_chained arguments draws branchId chained branch asked result begun begins
  obtain ⟨channels, isBegun⟩ := counted.channels
  have steps : process.castSteps arguments draws = begun.keepCast asked result (draws.seed 0) := by
    rw [castSteps, begins, parentless]
    rfl
  have tool : (process.toolCast arguments draws).2 = (begun.keepCast asked result (draws.seed 0)).2 := by
    rw [toolCast, wrapped, steps]
  obtain ⟨same, isResult, comesOut⟩ := begun.keep_cast_cases asked result (draws.seed 0) counted.basis
  simp only [process.tool_cast_ok, steps]
  rw [tool, begun.tally_channels _ branchId same, counted.tally]
  refine ⟨rfl, isResult, ?_⟩
  rw [comesOut, isBegun, counted.castId]

end CastProcess

inductive ChannelCall where
  | chained (aspects : List String) (intent : Except PyError Intent) (force : Bool) (draws : CallDraws)
  | geometric (payload : List ℚ) (version : Int) (force : Bool) (draws : CallDraws)
  | sync (draws : CallDraws)

def CastRecord.event (result : CastRecord) : BranchEvent :=
  .cast result.verdict.verdictType result.verdict.resonance.adjusted

namespace ChannelCall

def arguments (branchId : String) (aspects : List String) (intent : Except PyError Intent) (force : Bool) :
    CastProcess.CastArguments where
  aspects := aspects
  intent := intent
  branchId := some branchId
  chained := true
  force := force

def answer (branchId : String) (process : CastProcess) : ChannelCall → CallOutcome BranchEvent
  | .chained aspects intent force draws =>
      let outcome := process.toolCast (arguments branchId aspects intent force) draws
      (outcome.1.map CastRecord.event, outcome.2)
  | .geometric payload version force draws =>
      let outcome := process.toolGeometricCast { payload, version, branchId := some branchId, force } draws
      (outcome.1.map CastRecord.event, outcome.2)
  | .sync draws =>
      let outcome := process.toolSyncChannel branchId draws
      (outcome.1.map fun _ => .sync, outcome.2)

def IsCast (force : Bool) : ChannelCall → Prop
  | .chained _ _ own _ => own = force
  | .geometric _ _ own _ => own = force
  | .sync _ => False

-- A chained cast that gets as far as its channel also grows its seed, and its
-- id is new.
def Completes (branchId : String) (process : CastProcess) : ChannelCall → Prop
  | .chained aspects intent force draws => ∀ asked result begun,
      process.beginCast (arguments branchId aspects intent force) draws = .ok (asked, result, begun) →
        ¬ process.casts.Has draws.stamp.castId ∧
          (accumulateSeed process.env asked result.seedCast (draws.seed 0) process.seeds).1 = .ok ()
  | _ => True

end ChannelCall

structure BranchState where
  process : CastProcess
  history : BranchHistory := []

def BranchState.take (branchId : String) (reached : BranchState) (call : ChannelCall) : BranchState :=
  match call.answer branchId reached.process with
  | (.ok event, process) => { process, history := event :: reached.history }
  | (.error _, process) => { process, history := reached.history }

structure ChannelInvariant (branchId : String) (reached : BranchState) : Prop where
  missing : reached.process.channelState? branchId = none → reached.history = []
  tells : ∀ state, reached.process.channelState? branchId = some state →
    state.tally.Tells reached.history ∧ InUnit state.meanResonance
  refuses : ∀ state, reached.process.channelState? branchId = some state → state.status = .decoherent →
    ∀ call : ChannelCall, call.IsCast false → (∃ raised, (call.answer branchId reached.process).1 = .error raised) ∧
      (call.answer branchId reached.process).2.channelState? branchId = some state

def BranchState.Known (branchId : String) (reached : BranchState) : Prop :=
  ChannelTally.Known reached.history (reached.process.tally? branchId)

theorem channel_invariant_known (branchId : String) (reached : BranchState) :
    ChannelInvariant branchId reached ↔
      reached.Known branchId := by
  constructor
  · intro holds
    rw [BranchState.Known]
    cases known : reached.process.channelState? branchId with
    | none =>
        rw [CastProcess.tally?, known]
        exact holds.missing known
    | some state =>
        rw [CastProcess.tally?, known]
        exact (holds.tells state known).1
  · intro known
    refine ⟨?_, ?_, ?_⟩
    · intro missing
      rwa [BranchState.Known, CastProcess.tally?, missing] at known
    · intro state found
      rw [BranchState.Known, CastProcess.tally?, found] at known
      exact ⟨known, state.meanRange⟩
    · intro state found decoherent call unforced
      have refused : ¬ reached.process.Admitted branchId false := by
        intro admitted
        have forced := admitted state.tally (by rw [CastProcess.tally?, found, Option.map_some]) decoherent
        contradiction
      cases call with
      | chained aspects intent force draws =>
          obtain rfl : force = false := unforced
          obtain ⟨⟨raised, raises⟩, same⟩ := reached.process.chained_cast_refused
            (ChannelCall.arguments branchId aspects intent false) draws branchId rfl rfl refused
          exact ⟨⟨raised, by rw [ChannelCall.answer, raises]; rfl⟩, by rw [ChannelCall.answer, same, found]⟩
      | geometric payload version force draws =>
          obtain rfl : force = false := unforced
          obtain ⟨⟨raised, raises⟩, same⟩ := reached.process.geometric_cast_refused
            { payload, version, branchId := some branchId, force := false } draws branchId rfl refused
          exact ⟨⟨raised, by rw [ChannelCall.answer, raises]; rfl⟩, by rw [ChannelCall.answer, same, found]⟩
      | sync draws => exact unforced.elim

theorem take_ok (branchId : String) (reached : BranchState) (call : ChannelCall) (event : BranchEvent)
    (ok : (call.answer branchId reached.process).1 = .ok event) : reached.take branchId call =
      { process := (call.answer branchId reached.process).2, history := event :: reached.history } := by
  rw [BranchState.take]
  split
  · rename_i own process answered
    rw [answered] at ok ⊢
    rw [Except.ok.inj ok]
  · rename_i raised process answered
    rw [answered] at ok
    contradiction

theorem take_error (branchId : String) (reached : BranchState) (call : ChannelCall) (raised : PyError)
    (error : (call.answer branchId reached.process).1 = .error raised) : reached.take branchId call =
      { process := (call.answer branchId reached.process).2, history := reached.history } := by
  rw [BranchState.take]
  split
  · rename_i own process answered
    rw [answered] at error
    contradiction
  · rename_i other process answered
    rw [answered]

theorem chained_take_known (branchId : String) (reached : BranchState) (aspects : List String)
    (intent : Except PyError Intent) (force : Bool) (draws : CallDraws) (known : reached.Known branchId) :
    (reached.take branchId (.chained aspects intent force draws)).Known branchId ↔
      (ChannelCall.chained aspects intent force draws).Completes branchId reached.process := by
  let arguments := ChannelCall.arguments branchId aspects intent force
  cases begins : reached.process.beginCast arguments draws with
  | error raised =>
      have error : reached.process.toolCast arguments draws = (.error (wrapRaised "cast" raised), reached.process) := by
        rw [CastProcess.toolCast, wrapped, CastProcess.castSteps, begins]
        rfl
      refine iff_of_true ?_ fun asked result begun ok => absurd (begins.symm.trans ok) (by simp)
      rw [take_error branchId reached _ (wrapRaised "cast" raised) (by rw [ChannelCall.answer, error]; rfl),
        ChannelCall.answer, error]
      exact known
  | ok stage =>
      obtain ⟨asked, result, begun⟩ := stage
      obtain ⟨counted, isResult, comesOut⟩ :=
        reached.process.chained_cast_cases arguments draws branchId rfl rfl rfl asked result begun begins
      have completes : (ChannelCall.chained aspects intent force draws).Completes branchId reached.process ↔
          ∃ kept, (reached.process.toolCast arguments draws).1 = .ok kept := by
        rw [comesOut]
        constructor
        · exact fun all => all asked result begun begins
        · intro both own other after ok
          obtain ⟨rfl, rest⟩ := Prod.mk.inj (Except.ok.inj (begins.symm.trans ok))
          obtain ⟨rfl, rfl⟩ := Prod.mk.inj rest
          exact both
      rw [completes]
      cases answered : (reached.process.toolCast arguments draws).1 with
      | ok kept =>
          obtain rfl := isResult kept answered
          refine iff_of_true ?_ ⟨kept, rfl⟩
          rw [take_ok branchId reached _ kept.event (by rw [ChannelCall.answer, answered]; rfl), BranchState.Known]
          change ChannelTally.Known _ ((reached.process.toolCast arguments draws).2.tally? branchId)
          rw [counted]
          exact ChannelTally.after_cast_tells reached.history _ known _ _
      | error raised =>
          refine iff_of_false ?_ fun ok => absurd ok.choose_spec (by simp)
          rw [take_error branchId reached _ raised (by rw [ChannelCall.answer, answered]; rfl), BranchState.Known]
          change ¬ ChannelTally.Known _ ((reached.process.toolCast arguments draws).2.tally? branchId)
          rw [counted]
          exact ChannelTally.after_cast_unknown reached.history _ known _ _

theorem geometric_take_known (branchId : String) (reached : BranchState) (payload : List ℚ) (version : Int)
    (force : Bool) (draws : CallDraws) (known : reached.Known branchId) :
    (reached.take branchId (.geometric payload version force draws)).Known branchId := by
  let arguments : CastProcess.GeometricArguments := { payload, version, branchId := some branchId, force }
  obtain ⟨ok, error⟩ := reached.process.geometric_cast_cases arguments draws branchId rfl
  cases answered : (reached.process.toolGeometricCast arguments draws).1 with
  | ok result =>
      rw [take_ok branchId reached _ result.event (by rw [ChannelCall.answer, answered]; rfl), BranchState.Known]
      change ChannelTally.Known _ ((reached.process.toolGeometricCast arguments draws).2.tally? branchId)
      rw [(ok result answered).2]
      exact ChannelTally.after_cast_tells reached.history _ known _ _
  | error raised =>
      rw [take_error branchId reached _ raised (by rw [ChannelCall.answer, answered]; rfl), BranchState.Known]
      change ChannelTally.Known _ ((reached.process.toolGeometricCast arguments draws).2.tally? branchId)
      rw [error raised answered]
      exact known

theorem sync_take_known (branchId : String) (reached : BranchState) (draws : CallDraws)
    (known : reached.Known branchId) : (reached.take branchId (.sync draws)).Known branchId := by
  cases answered : (reached.process.toolSyncChannel branchId draws).1 with
  | ok synced =>
      obtain ⟨before, isBefore, after⟩ := reached.process.sync_channel_ok branchId draws synced answered
      rw [take_ok branchId reached _ .sync (by rw [ChannelCall.answer, answered]; rfl), BranchState.Known]
      change ChannelTally.Known _ ((reached.process.toolSyncChannel branchId draws).2.tally? branchId)
      rw [after]
      rw [BranchState.Known, isBefore] at known
      exact ChannelTally.after_sync_tells reached.history before known
  | error raised =>
      have same := reached.process.sync_channel_error branchId draws raised answered
      rw [take_error branchId reached _ raised (by rw [ChannelCall.answer, answered]; rfl), BranchState.Known]
      change ChannelTally.Known _ ((reached.process.toolSyncChannel branchId draws).2.tally? branchId)
      rw [same]
      exact known

theorem channel_invariant_step (branchId : String) (reached : BranchState) (call : ChannelCall)
    (holds : ChannelInvariant branchId reached) :
    ChannelInvariant branchId (reached.take branchId call) ↔ call.Completes branchId reached.process := by
  have known := (channel_invariant_known branchId reached).mp holds
  rw [channel_invariant_known]
  cases call with
  | chained aspects intent force draws => exact chained_take_known branchId reached aspects intent force draws known
  | geometric payload version force draws =>
      exact iff_of_true (geometric_take_known branchId reached payload version force draws known) trivial
  | sync draws => exact iff_of_true (sync_take_known branchId reached draws known) trivial

theorem channel_invariant_iff (branchId : String) (process : CastProcess) (new : ¬ process.channels.Has branchId)
    (calls : List ChannelCall) :
    (∀ pre, pre <+: calls → ChannelInvariant branchId (run (BranchState.take branchId) { process } pre)) ↔
      Along (BranchState.take branchId) (fun reached call => call.Completes branchId reached.process) { process }
        calls := by
  apply always_iff_along
  · exact fun reached call holds => channel_invariant_step branchId reached call holds
  · rw [channel_invariant_known, BranchState.Known, CastProcess.tally_row]
    have missing : process.channels.find? branchId = none := by
      rw [Table.find?, List.find?_eq_none]
      intro row member same
      exact new (of_decide_eq_true same ▸ Table.has_row process.channels row member)
    rw [missing]
    rfl

theorem completes_sound (branchId : String) (process : CastProcess) (sound : SoundStore process)
    (aspects : List String) (intent : Except PyError Intent) (force : Bool) (draws : CallDraws)
    (fresh : ¬ process.casts.Has draws.stamp.castId) :
    (ChannelCall.chained aspects intent force draws).Completes branchId process := by
  intro asked result begun begins
  let arguments := ChannelCall.arguments branchId aspects intent force
  have fits : process.BasisFits := by
    obtain ⟨own, -, ⟨-, casts⟩ | ⟨unchained, -⟩⟩ := process.begin_cast_cases arguments draws asked result begun begins
    · have counted := process.chained_result_counted asked own branchId force draws result begun casts
      obtain ⟨⟨cast, state⟩, chained, casts⟩ := (bind_ok _ _ _).mp casts
      obtain ⟨after, -, casts⟩ := (bind_ok _ _ _).mp casts
      obtain ⟨rfl, -⟩ := Prod.mk.inj (Except.ok.inj casts)
      obtain ⟨-, composed, -⟩ := chained_cast_ok process.engine asked own _ force _ _ cast state chained
      have basis := counted.basis
      rw [compose_basis _ _ _ asked cast.sigil composed] at basis
      exact basis
    · contradiction
  have orderly := (process.cast_orderly_sound sound fits arguments draws).mpr fun _ _ _ parent given =>
    absurd given (Option.not_mem_none parent)
  have read : process.ParentRead arguments := fun parent given => absurd given (Option.not_mem_none parent)
  refine ⟨fresh, ?_⟩
  obtain grows | ⟨unchained, -⟩ := (orderly asked result begun begins).2 read
  · exact grows
  · contradiction

def voidChained : ChannelCall := .chained ["VOID"] (.ok cautious) false (drawsNamed "A")

theorem first_chained_cast_iff : (∀ pre, pre <+: [voidChained] →
    ChannelInvariant "B" (run (BranchState.take "B") { process := newProcess {} } pre)) ↔
      Along (BranchState.take "B") (fun reached call => call.Completes "B" reached.process)
        { process := newProcess {} } [voidChained] :=
  channel_invariant_iff "B" (newProcess {}) List.not_mem_nil [voidChained]

def fullSeed : GlyphSeedRow where
  seedId := "S"
  aspectPattern := { names := ["VOID"], distinct := List.nodup_singleton _ }
  observedCount := 9223372036854775807
  meanResonance := 1 / 2
  coherenceRate := 0
  candidateEffectClass := none
  crystallized := false
  generation := 1
  components := [1, 0, 0, 0, 0, 0]
  basisVersion := 0

def fullSeedStore : CastProcess :=
  { newProcess {} with seeds := { grimoire := { seeds := Table.empty.append fullSeed (by decide) } } }

theorem failed_cast_counted :
    ¬ ChannelInvariant "B" (run (BranchState.take "B") { process := fullSeedStore } [voidChained]) := by
  have outcome : ((voidChained.answer "B" fullSeedStore).1.toOption.isNone,
      ((voidChained.answer "B" fullSeedStore).2.tally? "B").map ChannelTally.castCount) = (true, some 1) := by
    decide +kernel
  obtain ⟨raises, counts⟩ := Prod.mk.inj outcome
  intro holds
  have known : BranchState.Known "B" (BranchState.take "B" { process := fullSeedStore } voidChained) :=
    (channel_invariant_known _ _).mp holds
  cases answered : (voidChained.answer "B" fullSeedStore).1 with
  | ok event =>
      rw [answered] at raises
      contradiction
  | error raised =>
      rw [take_error "B" { process := fullSeedStore } voidChained raised answered, BranchState.Known] at known
      obtain ⟨tally, isTally, one⟩ := Option.map_eq_some_iff.mp counts
      simp only [isTally] at known
      have none : tally.castCount = 0 := known.castCount
      omega

end Vermyth
