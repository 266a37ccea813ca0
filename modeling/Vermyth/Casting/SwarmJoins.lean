import Vermyth.Casting.SwarmLaws

set_option autoImplicit false

namespace Vermyth

open Foundation CastProcess

theorem replicate_six (registry : AspectRegistry) : 6 ≤ (List.replicate registry.dimensionality (0 : ℚ)).length := by
  rw [List.length_replicate]
  exact registry.dimensionality_six

-- SemanticVector(components=tuple(0.0 for _ in range(dim)))
def joinVector (registry : AspectRegistry) : SemanticVector where
  components := List.replicate registry.dimensionality 0
  atLeastSix := replicate_six registry

structure JoinArguments where
  swarmId : String
  sessionId : String
  consensusThreshold : ℚ := 75 / 100

def joinKey (arguments : JoinArguments) : String × String := (arguments.swarmId, arguments.sessionId)

def joinedRow (registry : AspectRegistry) (arguments : JoinArguments) : SwarmMember where
  swarmId := arguments.swarmId
  sessionId := arguments.sessionId
  vector := joinVector registry
  coherenceStreak := 0

def CastProcess.joinState (process : CastProcess) (arguments : JoinArguments) (now : Datetime) :
    Except PyError CastProcess :=
  match process.readSwarmState arguments.swarmId with
  | .ok _ => .ok process
  | .error (.keyError _) => do
      let state ← SwarmState.make arguments.swarmId arguments.consensusThreshold .strained
        (joinVector process.registry) none now
      return process.writeSwarmState state
  | .error raised => .error raised

def CastProcess.toolSwarmJoin (process : CastProcess) (arguments : JoinArguments) (now : Datetime) : CallOutcome Unit :=
  match process.joinState arguments now with
  | .error raised => (.error raised, process)
  | .ok stated =>
      match stated.upsertSwarmMember (joinedRow process.registry arguments) with
      | .error raised => (.error raised, stated)
      | .ok joined => (.ok (), joined)

inductive SwarmAction where
  | join (arguments : JoinArguments) (now : Datetime)
  | cast (call : CastedSwarm)

def swarmAction (process : CastProcess) : SwarmAction → CastProcess
  | .join arguments now => (process.toolSwarmJoin arguments now).2
  | .cast call => swarmStep process call

def MembersOfSwarms (process : CastProcess) : Prop :=
  ∀ key, process.swarmMembers.Has key → process.swarms.Has key.1

theorem read_swarm_has (process : CastProcess) (swarmId : String) (known : process.swarms.Has swarmId) :
    ∃ state, process.readSwarmState swarmId = .ok state := by
  obtain ⟨state, member, rfl⟩ := List.mem_map.mp known
  exact ⟨state, by rw [readSwarmState, process.swarms.find_row state member]⟩

theorem read_swarm_none (process : CastProcess) (swarmId : String) (unknown : ¬ process.swarms.Has swarmId) :
    process.readSwarmState swarmId = .error (.keyError swarmId) := by
  cases found : process.swarms.find? swarmId with
  | none => rw [readSwarmState, found]
  | some state =>
      have has := process.swarms.has_row state (process.swarms.find_mem _ state found)
      rw [process.swarms.find_key _ state found] at has
      exact absurd has unknown

theorem join_known (process : CastProcess) (arguments : JoinArguments) (now : Datetime)
    (known : process.swarms.Has arguments.swarmId) : (process.toolSwarmJoin arguments now).2 =
      { process with swarmMembers := process.swarmMembers.upsert (joinedRow process.registry arguments) } := by
  obtain ⟨state, reads⟩ := read_swarm_has process arguments.swarmId known
  rw [toolSwarmJoin, joinState, reads]
  rfl

theorem join_unknown (process : CastProcess) (arguments : JoinArguments) (now : Datetime)
    (unknown : ¬ process.swarms.Has arguments.swarmId) : (process.toolSwarmJoin arguments now).2 = process ∨
      ∃ state : SwarmState, state.swarmId = arguments.swarmId ∧ (process.toolSwarmJoin arguments now).2 =
        { process with
          swarms := process.swarms.upsert state
          swarmMembers := process.swarmMembers.upsert (joinedRow process.registry arguments) } := by
  rw [toolSwarmJoin, joinState, read_swarm_none process arguments.swarmId unknown]
  by_cases range : InUnit arguments.consensusThreshold
  · right
    rw [SwarmState.make, dif_pos range]
    exact ⟨_, rfl, rfl⟩
  · left
    rw [SwarmState.make, dif_neg range]
    rfl

theorem join_keeps_swarms (process : CastProcess) (arguments : JoinArguments) (now : Datetime)
    (members : MembersOfSwarms process) : MembersOfSwarms (process.toolSwarmJoin arguments now).2 := by
  by_cases known : process.swarms.Has arguments.swarmId
  · rw [join_known process arguments now known]
    intro key has
    obtain old | rfl := (Table.has_upsert _ _ key).mp has
    · exact members key old
    · exact known
  · obtain left | ⟨state, swarm, joined⟩ := join_unknown process arguments now known
    · rwa [left]
    · rw [joined]
      intro key has
      apply (Table.has_upsert _ state key.1).mpr
      obtain old | rfl := (Table.has_upsert _ _ key).mp has
      · exact Or.inl (members key old)
      · exact Or.inr swarm.symm

theorem cast_keeps_swarms (process : CastProcess) (call : CastedSwarm) (members : MembersOfSwarms process) :
    MembersOfSwarms (swarmStep process call) := by
  obtain ⟨written, table, _, _, _, swarm, states⟩ := swarm_writes process call
  intro key has
  apply states
  rw [table, Table.has_upserts] at has
  obtain old | fresh := has
  · exact members key old
  · obtain ⟨member, isMember, rfl⟩ := List.mem_map.mp fresh
    exact swarm member isMember

theorem reached_swarms (start : CastProcess) (none : start.swarmMembers.rows = []) (actions : List SwarmAction) :
    MembersOfSwarms (run swarmAction start actions) := by
  refine run_invariant MembersOfSwarms start actions ?_ ?_
  · intro key has
    rw [Table.Has, none] at has
    exact absurd has List.not_mem_nil
  · intro before action _ members
    cases action with
    | join arguments now => exact join_keeps_swarms before arguments now members
    | cast call => exact cast_keeps_swarms before call members

structure JoinKeeps (process after : CastProcess) : Prop where
  members : after.swarmMembers.rows = process.swarmMembers.rows
  states : after.swarms.rows = process.swarms.rows
  aggregate : ∀ call : CastedSwarm, (after.beginSwarm call.1 call.2).map SwarmCast.aggregated =
    (process.beginSwarm call.1 call.2).map SwarmCast.aggregated

theorem join_keeps_iff (process : CastProcess) (members : MembersOfSwarms process) (arguments : JoinArguments)
    (now : Datetime) (isMember : process.swarmMembers.Has (joinKey arguments)) :
    JoinKeeps process (process.toolSwarmJoin arguments now).2 ↔
      process.swarmMembers.find? (joinKey arguments) = some (joinedRow process.registry arguments) := by
  rw [join_known process arguments now (members _ isMember)]
  constructor
  · intro keeps
    have found := Table.find_upsert process.swarmMembers (joinedRow process.registry arguments) (joinKey arguments)
    have same : (process.swarmMembers.upsert (joinedRow process.registry arguments)).rows = process.swarmMembers.rows :=
      keeps.members
    rw [Table.find?, same] at found
    exact found.trans (if_pos rfl)
  · intro held
    have same : process.swarmMembers.upsert (joinedRow process.registry arguments) = process.swarmMembers :=
      Table.upsert_same process.swarmMembers _ held
    rw [same]
    exact ⟨rfl, rfl, fun _ => rfl⟩

theorem swarm_join_keeps_iff (start : CastProcess) (none : start.swarmMembers.rows = []) (actions : List SwarmAction)
    (arguments : JoinArguments) (now : Datetime)
    (isMember : (run swarmAction start actions).swarmMembers.Has (joinKey arguments)) :
    JoinKeeps (run swarmAction start actions) ((run swarmAction start actions).toolSwarmJoin arguments now).2 ↔
      (run swarmAction start actions).swarmMembers.find? (joinKey arguments) =
        some (joinedRow (run swarmAction start actions).registry arguments) :=
  join_keeps_iff _ (reached_swarms start none actions) arguments now isMember

def joinFirst : JoinArguments := { swarmId := "S", sessionId := "a" }

def castFirst : CastedSwarm :=
  ({ swarmId := "S", sessionId := "a", components := [1, 0, 0, 0, 0, 0], intent := .ok cautious }, drawsNamed "A")

def joinedProcess : CastProcess := run swarmAction (newProcess {}) [.join joinFirst sampleTime]

theorem joined_process_member : joinedProcess.swarmMembers.Has (joinKey joinFirst) := by decide +kernel

theorem swarm_join_keeps_iff_joined : joinedProcess.swarmMembers.Has (joinKey joinFirst) ∧
    (JoinKeeps joinedProcess (joinedProcess.toolSwarmJoin joinFirst sampleTime).2 ↔
      joinedProcess.swarmMembers.find? (joinKey joinFirst) = some (joinedRow joinedProcess.registry joinFirst)) :=
  ⟨joined_process_member,
    swarm_join_keeps_iff (newProcess {}) rfl [.join joinFirst sampleTime] joinFirst sampleTime joined_process_member⟩

theorem cast_first_returns : SwarmReturns joinedProcess castFirst := by
  unfold SwarmReturns
  decide +kernel

theorem join_again_forgets : (swarmStep joinedProcess castFirst).swarmMembers.Has (joinKey joinFirst) ∧
    ¬ JoinKeeps (swarmStep joinedProcess castFirst)
      ((swarmStep joinedProcess castFirst).toolSwarmJoin joinFirst sampleTime).2 := by
  have submits : submitted castFirst = some firstAxis := rfl
  have stored : memberVector (swarmStep joinedProcess castFirst) (joinKey joinFirst) = some firstAxis := by
    obtain ⟨_, quiet⟩ | ⟨_, stored⟩ := swarm_step_vector joinedProcess castFirst (joinKey joinFirst)
    · exact absurd ⟨rfl, cast_first_returns⟩ quiet
    · exact stored.trans submits
  obtain ⟨member, found, vector⟩ := Option.map_eq_some_iff.mp stored
  have key := Table.find_key _ _ member found
  have isMember : (swarmStep joinedProcess castFirst).swarmMembers.Has (joinKey joinFirst) :=
    key ▸ Table.has_row _ member (Table.find_mem _ _ member found)
  refine ⟨isMember, ?_⟩
  intro keeps
  have members := cast_keeps_swarms joinedProcess castFirst
    (reached_swarms (newProcess {}) rfl [.join joinFirst sampleTime])
  have held := (join_keeps_iff _ members joinFirst sampleTime isMember).mp keeps
  rw [found] at held
  rw [Option.some.inj held] at vector
  have components : List.replicate _ (0 : ℚ) = [1, 0, 0, 0, 0, 0] := congrArg SemanticVector.components vector
  have one : (1 : ℚ) ∈ List.replicate _ (0 : ℚ) := components ▸ List.mem_cons_self
  exact one_ne_zero (List.eq_of_mem_replicate one)

end Vermyth
