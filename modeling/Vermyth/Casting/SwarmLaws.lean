import Mathlib.Algebra.BigOperators.Fin
import Mathlib.Data.List.AList
import Vermyth.Casting.Lineage
import Vermyth.Foundation.WeightedMean

set_option autoImplicit false

namespace Vermyth

open Foundation CastProcess

abbrev Streaks := AList fun _ : String => Int

-- new_streaks[sid] = streak
def keepStreak (streaks : Streaks) (member : SwarmMember) : Streaks :=
  streaks.insert member.sessionId member.coherenceStreak

structure SwarmOutcome where
  result : CastRecord
  aggregated : SemanticVector
  status : SwarmStatus
  newStreaks : Streaks

-- The sums are exact. Those of doubles depend on the order of the members.
def ResonanceEngine.swarmCast (engine : ResonanceEngine) (intent : Intent) (members : List SwarmMember)
    (consensusThreshold : ℚ) (stamp : CastStamp) : Except PyError SwarmOutcome :=
  if members = [] then .error (.valueError "swarm requires at least one member")
  else do
    let aggregated := aggregateVector engine members
    let result ← engine.fluidCast aggregated intent stamp
    let status := swarmStatus result.verdict consensusThreshold
    return { result, aggregated, status, newStreaks := (members.map (streakAfter status)).foldl keepStreak ∅ }

theorem member_weight_range (member : SwarmMember) (nonneg : 0 ≤ member.coherenceStreak) :
    1 ≤ memberWeight member ∧ memberWeight member ≤ 2 := by
  have low : (0 : ℚ) ≤ (min 100 member.coherenceStreak : Int) := by exact_mod_cast le_min (by decide) nonneg
  have high : ((min 100 member.coherenceStreak : Int) : ℚ) ≤ 100 := by exact_mod_cast min_le_left _ _
  rw [memberWeight]
  constructor <;> linarith

theorem total_weight_positive (members : List SwarmMember) (some : members ≠ [])
    (nonneg : ∀ member ∈ members, 0 ≤ member.coherenceStreak) : 0 < (members.map memberWeight).sum := by
  apply List.sum_pos
  · intro weight member
    obtain ⟨own, isOwn, rfl⟩ := List.mem_map.mp member
    exact lt_of_lt_of_le one_pos (member_weight_range own (nonneg own isOwn)).1
  · rwa [ne_eq, List.map_eq_nil_iff]

def meanComponents (dimensionality : Nat) (members : List SwarmMember) : List ℚ :=
  (List.range dimensionality).map fun i =>
    weightedMean (fun j : Fin members.length => memberWeight members[j.1])
      fun j => coeff members[j.1].vector.components i

theorem aggregate_mean (engine : ResonanceEngine) (members : List SwarmMember) (some : members ≠ [])
    (nonneg : ∀ member ∈ members, 0 ≤ member.coherenceStreak) :
    (aggregateVector engine members).components =
      unitComponents engine.math (meanComponents engine.registry.dimensionality members) := by
  have positive := total_weight_positive members some nonneg
  have mean (i : Nat) : weightedMean (fun j : Fin members.length => memberWeight members[j.1])
      (fun j => coeff members[j.1].vector.components i) =
        (members.map fun member => memberWeight member * coeff member.vector.components i).sum /
          if (members.map memberWeight).sum ≤ 0 then 1 else (members.map memberWeight).sum := by
    rw [if_neg (not_le.mpr positive), weightedMean, ← Fin.sum_univ_fun_getElem members memberWeight,
      ← Fin.sum_univ_fun_getElem members fun member => memberWeight member * coeff member.vector.components i]
  rw [meanComponents, funext mean]
  rfl

theorem aggregate_perm (engine : ResonanceEngine) (members others : List SwarmMember) (perm : members.Perm others) :
    aggregateVector engine members = aggregateVector engine others := by
  have weights : (members.map memberWeight).sum = (others.map memberWeight).sum := (perm.map memberWeight).sum_eq
  have axis (i : Nat) : (members.map fun member => memberWeight member * coeff member.vector.components i).sum =
      (others.map fun member => memberWeight member * coeff member.vector.components i).sum := (perm.map _).sum_eq
  simp only [aggregateVector, weights, axis]

section Streaks

theorem keep_streaks_lookup (members : List SwarmMember) (sessionId : String) :
    (members.foldl keepStreak ∅).lookup sessionId =
      (members.reverse.find? fun member => member.sessionId = sessionId).map SwarmMember.coherenceStreak := by
  induction members using List.reverseRecOn with
  | nil => rfl
  | append_singleton members last ih =>
      rw [List.foldl_append, List.foldl_cons, List.foldl_nil, keepStreak, List.reverse_append, List.reverse_singleton,
        List.singleton_append, List.find?_cons]
      by_cases same : last.sessionId = sessionId
      · subst same
        rw [AList.lookup_insert, decide_eq_true rfl]
        rfl
      · rw [AList.lookup_insert_ne fun other => same other.symm, ih, decide_eq_false same]

theorem streak_after_same (status : SwarmStatus) (member : SwarmMember) :
    (streakAfter status member).key = member.key ∧ (streakAfter status member).vector = member.vector := by
  cases status <;> exact ⟨rfl, rfl⟩

theorem streak_after_session (status : SwarmStatus) (member : SwarmMember) :
    (streakAfter status member).sessionId = member.sessionId :=
  congrArg Prod.snd (streak_after_same status member).1

theorem streak_after_cast (verdict : EvaluatedVerdict) (threshold : ℚ) (member : SwarmMember) :
    (streakAfter (swarmStatus verdict threshold) member).coherenceStreak =
      if verdict.Reaches threshold then member.coherenceStreak + 1
      else if verdict.verdictType = .incoherent then 0 else member.coherenceStreak := by
  rw [swarmStatus]
  split_ifs <;> rfl

variable (members : List SwarmMember) (distinct : (members.map SwarmMember.sessionId).Nodup) (status : SwarmStatus)

theorem streak_lookup_none (sessionId : String) (absent : sessionId ∉ members.map SwarmMember.sessionId) :
    ((members.map (streakAfter status)).foldl keepStreak ∅).lookup sessionId = none := by
  rw [keep_streaks_lookup, Option.map_eq_none_iff, List.find?_eq_none]
  intro member isMember same
  obtain ⟨own, isOwn, rfl⟩ := List.mem_map.mp (List.mem_reverse.mp isMember)
  rw [decide_eq_true_eq, streak_after_session] at same
  exact absent (same ▸ List.mem_map_of_mem isOwn)

include distinct in
theorem streak_lookup (member : SwarmMember) (isMember : member ∈ members) :
    ((members.map (streakAfter status)).foldl keepStreak ∅).lookup member.sessionId =
      some (streakAfter status member).coherenceStreak := by
  have sessions : (members.map (streakAfter status)).reverse.map SwarmMember.sessionId =
      (members.map SwarmMember.sessionId).reverse := by
    rw [List.map_reverse, List.map_map]
    exact congrArg List.reverse (List.map_congr_left fun own _ => streak_after_session status own)
  let table : Table SwarmMember.sessionId :=
    { rows := (members.map (streakAfter status)).reverse
      distinct := by
        rw [sessions, List.nodup_reverse]
        exact distinct }
  have found := table.find_row (streakAfter status member) (List.mem_reverse.mpr (List.mem_map_of_mem isMember))
  rw [streak_after_session] at found
  rw [keep_streaks_lookup]
  exact congrArg (Option.map SwarmMember.coherenceStreak) found

include distinct in
theorem streak_lookup_perm (others : List SwarmMember) (perm : members.Perm others) (sessionId : String) :
    ((others.map (streakAfter status)).foldl keepStreak ∅).lookup sessionId =
      ((members.map (streakAfter status)).foldl keepStreak ∅).lookup sessionId := by
  have sessions := perm.map SwarmMember.sessionId
  by_cases known : sessionId ∈ members.map SwarmMember.sessionId
  · obtain ⟨member, isMember, rfl⟩ := List.mem_map.mp known
    rw [streak_lookup members distinct status member isMember,
      streak_lookup others (sessions.nodup_iff.mp distinct) status member (perm.mem_iff.mp isMember)]
  · rw [streak_lookup_none members status sessionId known,
      streak_lookup_none others status sessionId fun here => known (sessions.mem_iff.mpr here)]

end Streaks

theorem fluid_cast_restamped (engine : ResonanceEngine) (vector : SemanticVector) (intent : Intent)
    (stamp other : CastStamp) (result : CastRecord) (casts : engine.fluidCast vector intent stamp = .ok result) :
    engine.fluidCast vector intent other =
      .ok { result with castId := other.castId, timestamp := other.timestamp } := by
  obtain ⟨sigil, made, casts⟩ := (bind_ok _ _ _).mp casts
  obtain rfl := Except.ok.inj casts
  exact (bind_ok _ _ _).mpr ⟨sigil, made, rfl⟩

structure SwarmCastLaws (engine : ResonanceEngine) (intent : Intent) (members : List SwarmMember) (threshold : ℚ)
    (out : SwarmOutcome) : Prop where
  weights : ∀ member ∈ members, memberWeight member = 1 + 1 / 100 * (min 100 member.coherenceStreak : Int) ∧
    1 ≤ memberWeight member ∧ memberWeight member ≤ 2
  mean : out.aggregated.components =
    unitComponents engine.math (meanComponents engine.registry.dimensionality members)
  streaks : ∀ member ∈ members, out.newStreaks.lookup member.sessionId =
    some (if out.result.verdict.Reaches threshold then member.coherenceStreak + 1
      else if out.result.verdict.verdictType = .incoherent then 0 else member.coherenceStreak)
  reordered : ∀ others stamp, members.Perm others →
    ∃ again, engine.swarmCast intent others threshold stamp = .ok again ∧ again.aggregated = out.aggregated ∧
      again.result.sigil = out.result.sigil ∧ again.result.verdict = out.result.verdict ∧ again.status = out.status ∧
      ∀ sessionId, again.newStreaks.lookup sessionId = out.newStreaks.lookup sessionId

theorem swarm_cast_laws (engine : ResonanceEngine) (intent : Intent) (members : List SwarmMember) (threshold : ℚ)
    (stamp : CastStamp) (distinct : (members.map SwarmMember.sessionId).Nodup)
    (nonneg : ∀ member ∈ members, 0 ≤ member.coherenceStreak) (out : SwarmOutcome)
    (casts : engine.swarmCast intent members threshold stamp = .ok out) :
    SwarmCastLaws engine intent members threshold out := by
  rw [ResonanceEngine.swarmCast] at casts
  split_ifs at casts with none
  obtain ⟨result, fluid, casts⟩ := (bind_ok _ _ _).mp casts
  obtain rfl := Except.ok.inj casts
  refine ⟨?_, aggregate_mean engine members none nonneg, ?_, ?_⟩
  · exact fun member isMember => ⟨rfl, member_weight_range member (nonneg member isMember)⟩
  · intro member isMember
    rw [← streak_after_cast]
    exact streak_lookup members distinct _ member isMember
  · intro others later perm
    have some : others ≠ [] := fun empty => none (List.perm_nil.mp (empty ▸ perm))
    have restamped := fluid_cast_restamped engine _ intent stamp later result fluid
    rw [aggregate_perm engine members others perm] at restamped
    have made : engine.swarmCast intent others threshold later = .ok
        { result := { result with castId := later.castId, timestamp := later.timestamp }
          aggregated := aggregateVector engine others
          status := swarmStatus result.verdict threshold
          newStreaks := (others.map (streakAfter (swarmStatus result.verdict threshold))).foldl keepStreak ∅ } := by
      rw [ResonanceEngine.swarmCast, if_neg some]
      exact (bind_ok _ _ _).mpr ⟨_, restamped, rfl⟩
    exact ⟨_, made, (aggregate_perm engine members others perm).symm, rfl, rfl, rfl,
      streak_lookup_perm members distinct _ others perm⟩

abbrev CastedSwarm := SwarmArguments × CallDraws

def callKey (call : CastedSwarm) : String × String := (call.1.swarmId, call.1.sessionId)

-- The vector a call submits; with less than six components it raises.
def submitted (call : CastedSwarm) : Option SemanticVector := (SemanticVector.make call.1.components none).toOption

def swarmStep (process : CastProcess) (call : CastedSwarm) : CastProcess := (process.toolSwarmCast call.1 call.2).2

def SwarmReturns (process : CastProcess) (call : CastedSwarm) : Prop := (process.toolSwarmCast call.1 call.2).1.isOk = true

def memberVector (process : CastProcess) (key : String × String) : Option SemanticVector :=
  (process.swarmMembers.find? key).map SwarmMember.vector

section Tool

variable (process : CastProcess) (call : CastedSwarm)

theorem swarm_input_cases (vector : SemanticVector) (member : SwarmMember)
    (isMember : member ∈ process.swarmInputs call.1 vector) : member.swarmId = call.1.swarmId ∧
      ((member.sessionId = call.1.sessionId ∧ member.vector = vector) ∨
        (member ∈ process.swarmMembers.rows ∧ member.sessionId ≠ call.1.sessionId)) := by
  rw [swarmInputs, List.mem_insertionSort] at isMember
  have queried (old : SwarmMember) (isOld : old ∈ process.querySwarmMembers call.1.swarmId) :
      old ∈ process.swarmMembers.rows ∧ old.swarmId = call.1.swarmId := by
    rw [querySwarmMembers, List.mem_insertionSort, List.mem_filter] at isOld
    exact ⟨isOld.1, of_decide_eq_true isOld.2⟩
  split_ifs at isMember with known
  · obtain ⟨old, isOld, rfl⟩ := List.mem_map.mp isMember
    obtain ⟨stored, swarm⟩ := queried old isOld
    by_cases own : old.sessionId = call.1.sessionId
    · rw [if_pos own]
      exact ⟨swarm, Or.inl ⟨own, rfl⟩⟩
    · rw [if_neg own]
      exact ⟨swarm, Or.inr ⟨stored, own⟩⟩
  · obtain old | fresh := List.mem_append.mp isMember
    · obtain ⟨stored, swarm⟩ := queried member old
      refine ⟨swarm, Or.inr ⟨stored, fun own => known ?_⟩⟩
      exact List.any_eq_true.mpr ⟨member, old, decide_eq_true own⟩
    · rw [List.mem_singleton.mp fresh]
      exact ⟨rfl, Or.inl ⟨rfl, rfl⟩⟩

theorem swarm_input_own (vector : SemanticVector) :
    ∃ member ∈ process.swarmInputs call.1 vector, member.sessionId = call.1.sessionId := by
  simp only [swarmInputs, List.mem_insertionSort]
  split_ifs with known
  · obtain ⟨old, isOld, own⟩ := List.any_eq_true.mp known
    refine ⟨_, List.mem_map_of_mem isOld, ?_⟩
    rw [if_pos (of_decide_eq_true own)]
    exact of_decide_eq_true own
  · exact ⟨_, List.mem_append_right _ List.mem_cons_self, rfl⟩

theorem begin_swarm_casts (cast : SwarmCast) (begins : process.beginSwarm call.1 call.2 = .ok cast) :
    ∃ vector intent, submitted call = some vector ∧ call.1.intent = .ok intent ∧
      cast.members = process.swarmInputs call.1 vector ∧
      process.engine.swarmCast intent cast.members cast.threshold call.2.stamp = .ok
        { result := cast.result
          aggregated := cast.aggregated
          status := cast.status
          newStreaks := (cast.members.map (streakAfter cast.status)).foldl keepStreak ∅ } := by
  rw [beginSwarm] at begins
  split_ifs at begins with six
  obtain ⟨intent, asked, begins⟩ := (bind_ok _ _ _).mp begins
  obtain ⟨state, _, begins⟩ := (bind_ok _ _ _).mp begins
  obtain ⟨result, casts, begins⟩ := (bind_ok _ _ _).mp begins
  obtain rfl := Except.ok.inj begins
  refine ⟨_, intent, ?_, asked, rfl, ?_⟩
  · rw [submitted, SemanticVector.make, dif_pos six]
    rfl
  · rw [ResonanceEngine.swarmCast, if_neg]
    · exact (bind_ok _ _ _).mpr ⟨result, casts, rfl⟩
    · intro none
      obtain ⟨member, isMember, _⟩ := swarm_input_own process call
        { components := call.1.components, atLeastSix := six }
      exact List.ne_nil_of_mem isMember none

theorem upsert_members_written (members : List SwarmMember) :
    ∃ written, written <+: members ∧ (upsertMembers members process).2 =
        { process with swarmMembers := written.foldl Table.upsert process.swarmMembers } ∧
      ((upsertMembers members process).1.isOk = true → written = members) := by
  induction members generalizing process with
  | nil => exact ⟨[], List.prefix_refl [], rfl, fun _ => rfl⟩
  | cons member rest ih =>
      rw [upsertMembers]
      cases wrote : process.upsertSwarmMember member with
      | error raised =>
          refine ⟨[], List.nil_prefix, rfl, ?_⟩
          intro returned
          contradiction
      | ok joined =>
          obtain ⟨_, -, joins⟩ := (bind_ok _ _ _).mp wrote
          obtain rfl := Except.ok.inj joins
          obtain ⟨written, front, after, whole⟩ := ih { process with swarmMembers := process.swarmMembers.upsert member }
          refine ⟨member :: written, (List.prefix_cons_inj member).mpr front, after, ?_⟩
          intro returned
          rw [whole returned]

structure SwarmWrites (written : List SwarmMember) : Prop where
  table : (swarmStep process call).swarmMembers = written.foldl Table.upsert process.swarmMembers
  own : ∀ member ∈ written, member.key = callKey call → submitted call = some member.vector
  others : ∀ member ∈ written, member.key ≠ callKey call → memberVector process member.key = some member.vector
  returned : SwarmReturns process call → ∃ member ∈ written, member.key = callKey call
  swarm : ∀ member ∈ written, process.swarms.Has member.swarmId
  states : ∀ swarmId, process.swarms.Has swarmId → (swarmStep process call).swarms.Has swarmId

theorem swarm_member_written (cast : SwarmCast) (begins : process.beginSwarm call.1 call.2 = .ok cast)
    (member : SwarmMember) (isMember : member ∈ cast.members.map (streakAfter cast.status)) :
    (member.key = callKey call → submitted call = some member.vector) ∧
      (member.key ≠ callKey call → memberVector process member.key = some member.vector) ∧
      member.swarmId = call.1.swarmId := by
  obtain ⟨vector, intent, submits, _, inputs, _⟩ := begin_swarm_casts process call cast begins
  obtain ⟨input, isInput, rfl⟩ := List.mem_map.mp isMember
  obtain ⟨sameKey, sameVector⟩ := streak_after_same cast.status input
  have sameSwarm : (streakAfter cast.status input).swarmId = input.swarmId := congrArg Prod.fst sameKey
  rw [sameKey, sameVector]
  rw [inputs] at isInput
  obtain ⟨swarm, ⟨session, isVector⟩ | ⟨stored, other⟩⟩ := swarm_input_cases process call vector input isInput
  · refine ⟨fun _ => isVector.symm ▸ submits, fun differs => absurd ?_ differs, sameSwarm.trans swarm⟩
    exact Prod.ext swarm session
  · refine ⟨fun own => absurd (congrArg Prod.snd own) other, fun _ => ?_, sameSwarm.trans swarm⟩
    rw [memberVector, process.swarmMembers.find_row input stored]
    rfl

theorem begin_swarm_known (cast : SwarmCast) (begins : process.beginSwarm call.1 call.2 = .ok cast) :
    process.swarms.Has call.1.swarmId := by
  rw [beginSwarm] at begins
  split_ifs at begins
  obtain ⟨_, _, begins⟩ := (bind_ok _ _ _).mp begins
  obtain ⟨state, reads, _⟩ := (bind_ok _ _ _).mp begins
  rw [readSwarmState] at reads
  cases found : process.swarms.find? call.1.swarmId with
  | none =>
      rw [found] at reads
      contradiction
  | some own =>
      have has := process.swarms.has_row own (process.swarms.find_mem _ own found)
      rwa [process.swarms.find_key _ own found] at has

theorem swarm_step_tables (cast : SwarmCast) (begins : process.beginSwarm call.1 call.2 = .ok cast) :
    (swarmStep process call).swarmMembers =
        (upsertMembers (cast.members.map (streakAfter cast.status)) process).2.swarmMembers ∧
      ∀ swarmId, (upsertMembers (cast.members.map (streakAfter cast.status)) process).2.swarms.Has swarmId →
        (swarmStep process call).swarms.Has swarmId := by
  rw [swarmStep, toolSwarmCast, begins]
  dsimp only
  cases upsertMembers (cast.members.map (streakAfter cast.status)) process with
  | mk outcome joined =>
      cases outcome with
      | error raised => exact ⟨rfl, fun _ => id⟩
      | ok _ =>
          dsimp only
          cases SwarmState.make call.1.swarmId cast.threshold cast.status cast.aggregated
              (some cast.result.castId) call.2.now with
          | error raised => exact ⟨rfl, fun _ => id⟩
          | ok state =>
              have kept : ∀ swarmId, joined.swarms.Has swarmId → (joined.writeSwarmState state).swarms.Has swarmId :=
                fun swarmId had => (Table.has_upsert _ state swarmId).mpr (Or.inl had)
              dsimp only
              cases wrote : (joined.writeSwarmState state).writeCast cast.result with
              | error raised => exact ⟨rfl, kept⟩
              | ok last =>
                  obtain ⟨casts, rfl⟩ := write_cast_only _ cast.result last wrote
                  exact ⟨rfl, kept⟩

theorem swarm_writes : ∃ written, SwarmWrites process call written := by
  cases begins : process.beginSwarm call.1 call.2 with
  | error raised =>
      have left : process.toolSwarmCast call.1 call.2 = (.error raised, process) := by rw [toolSwarmCast, begins]
      refine ⟨[], by rw [swarmStep, left]; rfl, by simp, by simp, ?_, by simp, by rw [swarmStep, left]; exact fun _ => id⟩
      intro returned
      rw [SwarmReturns, left] at returned
      contradiction
  | ok cast =>
      obtain ⟨written, front, after, whole⟩ :=
        upsert_members_written process (cast.members.map (streakAfter cast.status))
      have rows := fun member isMember => swarm_member_written process call cast begins member (front.subset isMember)
      obtain ⟨table, states⟩ := swarm_step_tables process call cast begins
      refine ⟨written, table.trans (congrArg swarmMembers after), fun member isMember => (rows member isMember).1,
        fun member isMember => (rows member isMember).2.1, ?_, ?_, ?_⟩
      · intro returned
        rw [SwarmReturns, toolSwarmCast, begins] at returned
        dsimp only at returned
        cases upserts : upsertMembers (cast.members.map (streakAfter cast.status)) process with
        | mk outcome joined =>
            rw [upserts] at whole returned
            cases outcome with
            | error raised => contradiction
            | ok _ =>
                rw [whole rfl]
                obtain ⟨vector, intent, _, _, inputs, _⟩ := begin_swarm_casts process call cast begins
                obtain ⟨member, isMember, session⟩ := swarm_input_own process call vector
                have swarm := (swarm_input_cases process call vector member isMember).1
                refine ⟨_, List.mem_map_of_mem (inputs ▸ isMember), ?_⟩
                rw [(streak_after_same cast.status member).1]
                exact Prod.ext swarm session
      · intro member isMember
        rw [(rows member isMember).2.2]
        exact begin_swarm_known process call cast begins
      · intro swarmId had
        exact states swarmId ((congrArg swarms after).symm ▸ had)

theorem swarm_step_vector (key : String × String) :
    (memberVector (swarmStep process call) key = memberVector process key ∧ ¬ (callKey call = key ∧ SwarmReturns process call)) ∨
      (callKey call = key ∧ memberVector (swarmStep process call) key = submitted call) := by
  obtain ⟨written, table, own, others, returned, _, _⟩ := swarm_writes process call
  have found : memberVector (swarmStep process call) key =
      ((written.reverse.find? fun row => row.key = key).map SwarmMember.vector).or (memberVector process key) := by
    rw [memberVector, table, Table.find_upserts, Option.map_or]
    rfl
  cases last : written.reverse.find? fun row => row.key = key with
  | none =>
      rw [last] at found
      refine Or.inl ⟨found, ?_⟩
      rintro ⟨isOwn, returns⟩
      obtain ⟨member, isMember, sameKey⟩ := returned returns
      exact List.find?_eq_none.mp last member (List.mem_reverse.mpr isMember) (decide_eq_true (sameKey.trans isOwn))
  | some member =>
      rw [last, Option.map_some, Option.some_or] at found
      have isMember := List.mem_reverse.mp (List.mem_of_find?_eq_some last)
      have sameKey : member.key = key := by simpa using List.find?_some last
      by_cases isOwn : callKey call = key
      · exact Or.inr ⟨isOwn, found.trans (own member isMember (sameKey.trans isOwn.symm)).symm⟩
      · have kept := others member isMember (fun same => isOwn (same.symm.trans sameKey))
        exact Or.inl ⟨found.trans (sameKey ▸ kept).symm, fun both => isOwn both.1⟩

end Tool

def LastKept (start : CastProcess) (calls : List CastedSwarm) (key : String × String) : Prop :=
  (memberVector (run swarmStep start calls) key = memberVector start key ∧
    ∀ before call, Taken swarmStep start calls before call → callKey call = key → ¬ SwarmReturns before call) ∨
  ∃ pre call post, calls = pre ++ call :: post ∧ callKey call = key ∧
    memberVector (run swarmStep start calls) key = submitted call ∧
    ∀ before later, Taken swarmStep (run swarmStep start (pre ++ [call])) post before later → callKey later = key →
      ¬ SwarmReturns before later

theorem last_kept (start : CastProcess) (calls : List CastedSwarm) (key : String × String) :
    LastKept start calls key := by
  induction calls using List.reverseRecOn with
  | nil =>
      refine Or.inl ⟨rfl, ?_⟩
      rintro before call ⟨pre, post, split, _⟩
      exact absurd split (by simp)
  | append_singleton calls last ih =>
      rw [LastKept, run_concat]
      obtain ⟨same, quiet⟩ | ⟨isOwn, stored⟩ := swarm_step_vector (run swarmStep start calls) last key
      · rw [same]
        obtain ⟨kept, silent⟩ | ⟨pre, call, post, split, isOwn, stored, silent⟩ := ih
        · refine Or.inl ⟨kept, ?_⟩
          intro before call taken isKey returns
          obtain earlier | ⟨rfl, rfl⟩ := (taken_concat _ _ _ _ _).mp taken
          · exact silent before call earlier isKey returns
          · exact quiet ⟨isKey, returns⟩
        · refine Or.inr ⟨pre, call, post ++ [last], by rw [split]; simp, isOwn, stored, ?_⟩
          intro before later taken isKey returns
          obtain earlier | ⟨rfl, rfl⟩ := (taken_concat _ _ _ _ _).mp taken
          · exact silent before later earlier isKey returns
          · rw [← run_append, List.append_assoc, List.singleton_append, ← split] at returns
            exact quiet ⟨isKey, returns⟩
      · refine Or.inr ⟨calls, last, [], rfl, isOwn, stored, ?_⟩
        rintro before later ⟨pre, post, split, _⟩
        exact absurd split (by simp)

theorem last_submitted (start : CastProcess) (calls : List CastedSwarm) (key : String × String)
    (returned : ∀ before call, Taken swarmStep start calls before call → SwarmReturns before call) :
    memberVector (run swarmStep start calls) key =
      (calls.reverse.find? fun call => callKey call = key).elim (memberVector start key) submitted := by
  induction calls using List.reverseRecOn with
  | nil => rfl
  | append_singleton calls last ih =>
      have earlier := ih fun before call taken => returned before call ((taken_concat _ _ _ _ _).mpr (Or.inl taken))
      have returns := returned _ last ((taken_concat _ _ _ _ _).mpr (Or.inr ⟨rfl, rfl⟩))
      rw [run_concat, List.reverse_append, List.reverse_singleton, List.singleton_append, List.find?_cons]
      obtain ⟨same, quiet⟩ | ⟨isOwn, stored⟩ := swarm_step_vector (run swarmStep start calls) last key
      · have other : callKey last ≠ key := fun isKey => quiet ⟨isKey, returns⟩
        rw [same, earlier, decide_eq_false other]
      · rw [stored, decide_eq_true isOwn]
        rfl

-- A call that the tool accepts, whose swarm_cast returns and whose numbers fit
-- their columns.
structure ValidSwarmCall (process : CastProcess) (call : CastedSwarm) : Prop where
  six : 6 ≤ call.1.components.length
  intent : ∃ intent, call.1.intent = .ok intent
  swarm : process.swarms.Has call.1.swarmId
  threshold : ∀ threshold ∈ call.1.consensusThreshold, InUnit threshold
  casts : ∀ intent vector, call.1.intent = .ok intent → submitted call = some vector → ∃ threshold out,
    process.engine.swarmCast intent (process.swarmInputs call.1 vector) threshold call.2.stamp = .ok out
  streaks : ∀ member ∈ process.swarmMembers.rows, member.swarmId = call.1.swarmId →
    0 ≤ member.coherenceStreak ∧ member.coherenceStreak < 9223372036854775807
  basis : process.registry.basisVersion ≤ 9223372036854775807
  fresh : ¬ process.casts.Has call.2.stamp.castId

section Valid

variable (process : CastProcess) (call : CastedSwarm)

theorem swarm_input_streak (holds : Int → Prop) (joins : holds 0)
    (stored : ∀ member ∈ process.swarmMembers.rows, member.swarmId = call.1.swarmId → holds member.coherenceStreak)
    (vector : SemanticVector) (member : SwarmMember) (isMember : member ∈ process.swarmInputs call.1 vector) :
    holds member.coherenceStreak := by
  rw [swarmInputs, List.mem_insertionSort] at isMember
  have queried (old : SwarmMember) (isOld : old ∈ process.querySwarmMembers call.1.swarmId) :
      holds old.coherenceStreak := by
    rw [querySwarmMembers, List.mem_insertionSort, List.mem_filter] at isOld
    exact stored old isOld.1 (of_decide_eq_true isOld.2)
  split_ifs at isMember with known
  · obtain ⟨old, isOld, rfl⟩ := List.mem_map.mp isMember
    split_ifs
    · exact queried old isOld
    · exact queried old isOld
  · obtain old | fresh := List.mem_append.mp isMember
    · exact queried member old
    · rw [List.mem_singleton.mp fresh]
      exact joins

theorem streak_after_fits (status : SwarmStatus) (member : SwarmMember)
    (fits : 0 ≤ member.coherenceStreak ∧ member.coherenceStreak < 9223372036854775807) :
    -9223372036854775808 ≤ (streakAfter status member).coherenceStreak ∧
      (streakAfter status member).coherenceStreak ≤ 9223372036854775807 := by
  cases status with
  | coherent =>
      change _ ≤ member.coherenceStreak + 1 ∧ member.coherenceStreak + 1 ≤ _
      omega
  | strained =>
      change _ ≤ member.coherenceStreak ∧ member.coherenceStreak ≤ _
      omega
  | decoherent =>
      change _ ≤ (0 : Int) ∧ (0 : Int) ≤ _
      decide

theorem upsert_members_fit (members : List SwarmMember)
    (fits : ∀ member ∈ members, -9223372036854775808 ≤ member.coherenceStreak ∧
      member.coherenceStreak ≤ 9223372036854775807) :
    upsertMembers members process =
      (.ok (), { process with swarmMembers := members.foldl Table.upsert process.swarmMembers }) := by
  induction members generalizing process with
  | nil => rfl
  | cons member rest ih =>
      rw [List.forall_mem_cons] at fits
      have wrote : process.upsertSwarmMember member =
          .ok { process with swarmMembers := process.swarmMembers.upsert member } := by
        rw [upsertSwarmMember, sqlInteger, if_pos fits.1]
        rfl
      rw [upsertMembers, wrote]
      exact ih _ fits.2

theorem valid_call_begins (valid : ValidSwarmCall process call) : ∃ cast, process.beginSwarm call.1 call.2 = .ok cast ∧
    InUnit cast.threshold ∧ cast.result.castId = call.2.stamp.castId ∧
      cast.result.sigil.semanticVector.normalizedBasisVersion = process.registry.basisVersion ∧
      ∀ member ∈ cast.members, 0 ≤ member.coherenceStreak ∧ member.coherenceStreak < 9223372036854775807 := by
  obtain ⟨intent, asked⟩ := valid.intent
  obtain ⟨state, isState, named⟩ := List.mem_map.mp valid.swarm
  have reads : process.readSwarmState call.1.swarmId = .ok state := by
    rw [readSwarmState, ← named, process.swarms.find_row state isState]
  have submits : submitted call = some { components := call.1.components, atLeastSix := valid.six } := by
    rw [submitted, SemanticVector.make, dif_pos valid.six]
    rfl
  obtain ⟨threshold, out, casts⟩ := valid.casts intent _ asked submits
  rw [ResonanceEngine.swarmCast] at casts
  split_ifs at casts
  obtain ⟨result, fluid, -⟩ := (bind_ok _ _ _).mp casts
  obtain ⟨castId, -, interpolated⟩ := fluid_cast_ok process.engine _ intent _ result fluid
  let vector : SemanticVector := { components := call.1.components, atLeastSix := valid.six }
  let settled := call.1.consensusThreshold.getD state.consensusThreshold
  let cast : SwarmCast :=
    { members := process.swarmInputs call.1 vector
      aggregated := aggregateVector process.engine (process.swarmInputs call.1 vector)
      status := swarmStatus result.verdict settled
      threshold := settled
      result := result }
  have begins : process.beginSwarm call.1 call.2 = .ok cast := by
    rw [beginSwarm, dif_pos valid.six]
    refine (bind_ok _ _ _).mpr ⟨intent, asked, (bind_ok _ _ _).mpr ⟨state, reads, ?_⟩⟩
    exact (bind_ok _ _ _).mpr ⟨result, fluid, rfl⟩
  refine ⟨cast, begins, ?_, castId, interpolated.basis, ?_⟩
  · change InUnit (call.1.consensusThreshold.getD state.consensusThreshold)
    cases given : call.1.consensusThreshold with
    | none => exact state.thresholdRange
    | some own => exact valid.threshold own given
  · exact swarm_input_streak process call (fun streak => 0 ≤ streak ∧ streak < 9223372036854775807) (by decide)
      valid.streaks vector

theorem valid_call_returns (valid : ValidSwarmCall process call) :
    SwarmReturns process call ∧ (swarmStep process call).casts.Has call.2.stamp.castId := by
  obtain ⟨cast, begins, threshold, castId, basis, streaks⟩ := valid_call_begins process call valid
  have fits : ∀ member ∈ cast.members.map (streakAfter cast.status), -9223372036854775808 ≤ member.coherenceStreak ∧
      member.coherenceStreak ≤ 9223372036854775807 := by
    intro member isMember
    obtain ⟨input, isInput, rfl⟩ := List.mem_map.mp isMember
    exact streak_after_fits cast.status input (streaks input isInput)
  have fresh : ¬ process.casts.Has cast.result.castId := castId ▸ valid.fresh
  have version : -9223372036854775808 ≤ (process.registry.basisVersion : Int) ∧
      (process.registry.basisVersion : Int) ≤ 9223372036854775807 := by
    have bound := valid.basis
    omega
  have wrote (joined : CastProcess) (same : joined.casts = process.casts) :
      joined.writeCast cast.result = .ok { joined with casts := process.casts.append cast.result fresh } := by
    rw [writeCast, same, Table.insert_fresh process.casts cast.result fresh, basis, sqlInteger, if_pos version]
    rfl
  let joined : CastProcess :=
    { process with
      swarmMembers := (cast.members.map (streakAfter cast.status)).foldl Table.upsert process.swarmMembers }
  have upserts : upsertMembers (cast.members.map (streakAfter cast.status)) process = (.ok (), joined) :=
    upsert_members_fit process _ fits
  obtain ⟨state, made⟩ : ∃ state, SwarmState.make call.1.swarmId cast.threshold cast.status cast.aggregated
      (some cast.result.castId) call.2.now = .ok state := ⟨_, dif_pos threshold⟩
  have tool : process.toolSwarmCast call.1 call.2 = (.ok cast.result,
      { joined.writeSwarmState state with casts := process.casts.append cast.result fresh }) := by
    rw [toolSwarmCast, begins]
    dsimp only
    rw [upserts]
    dsimp only
    rw [made]
    dsimp only
    rw [wrote (joined.writeSwarmState state) rfl]
  rw [SwarmReturns, swarmStep, tool, ← castId]
  exact ⟨rfl, (Table.has_append process.casts cast.result fresh _).mpr (Or.inr rfl)⟩

theorem valid_call_stores (valid : ValidSwarmCall process call) :
    ∃ vector, submitted call = some vector ∧ memberVector (swarmStep process call) (callKey call) = some vector := by
  have submits : submitted call = some { components := call.1.components, atLeastSix := valid.six } := by
    rw [submitted, SemanticVector.make, dif_pos valid.six]
    rfl
  obtain ⟨-, quiet⟩ | ⟨-, stored⟩ := swarm_step_vector process call (callKey call)
  · exact absurd ⟨rfl, (valid_call_returns process call valid).1⟩ quiet
  · exact ⟨_, submits, stored.trans submits⟩

end Valid

theorem swarm_aggregation_laws (engine : ResonanceEngine) (intent : Intent) (members : List SwarmMember) (threshold : ℚ)
    (stamp : CastStamp) (distinct : (members.map SwarmMember.sessionId).Nodup)
    (nonneg : ∀ member ∈ members, 0 ≤ member.coherenceStreak) (out : SwarmOutcome)
    (casts : engine.swarmCast intent members threshold stamp = .ok out) :
    SwarmCastLaws engine intent members threshold out ∧
      (∀ (process : CastProcess) (call : CastedSwarm) cast, process.beginSwarm call.1 call.2 = .ok cast →
        ∃ intent, call.1.intent = .ok intent ∧
          process.engine.swarmCast intent cast.members cast.threshold call.2.stamp = .ok
            { result := cast.result
              aggregated := cast.aggregated
              status := cast.status
              newStreaks := (cast.members.map (streakAfter cast.status)).foldl keepStreak ∅ }) ∧
      (∀ start calls key, LastKept start calls key ∧
        ((∀ before call, Taken swarmStep start calls before call → SwarmReturns before call) →
          memberVector (run swarmStep start calls) key =
            (calls.reverse.find? fun call => callKey call = key).elim (memberVector start key) submitted)) ∧
      (∀ process call, ValidSwarmCall process call →
        SwarmReturns process call ∧ (swarmStep process call).casts.Has call.2.stamp.castId ∧
          ∃ vector, submitted call = some vector ∧
            memberVector (swarmStep process call) (callKey call) = some vector) ∧
      ∀ start calls key, (∀ before call, Taken swarmStep start calls before call → ValidSwarmCall before call) →
        memberVector (run swarmStep start calls) key =
          (calls.reverse.find? fun call => callKey call = key).elim (memberVector start key) submitted := by
  refine ⟨swarm_cast_laws engine intent members threshold stamp distinct nonneg out casts, ?_, ?_, ?_, ?_⟩
  · intro process call cast begins
    obtain ⟨_, intent, _, asked, _, same⟩ := begin_swarm_casts process call cast begins
    exact ⟨intent, asked, same⟩
  · exact fun start calls key => ⟨last_kept start calls key, last_submitted start calls key⟩
  · intro process call valid
    obtain ⟨returns, stored⟩ := valid_call_returns process call valid
    exact ⟨returns, stored, valid_call_stores process call valid⟩
  · intro start calls key valid
    exact last_submitted start calls key fun before call taken =>
      (valid_call_returns before call (valid before call taken)).1

theorem swarm_cast_returns (engine : ResonanceEngine) (anchored : Anchored engine) (intent : Intent)
    (members : List SwarmMember) (some : members ≠ []) (threshold : ℚ) (stamp : CastStamp) :
    ∃ out, engine.swarmCast intent members threshold stamp = .ok out := by
  obtain ⟨result, casts⟩ := fluid_cast_same engine anchored (aggregateVector engine members) intent stamp rfl
  rw [ResonanceEngine.swarmCast, if_neg some]
  exact ⟨_, (bind_ok _ _ _).mpr ⟨result, casts, rfl⟩⟩

def firstMember : SwarmMember := { swarmId := "S", sessionId := "a", vector := firstAxis, coherenceStreak := 0 }

def longMember : SwarmMember := { swarmId := "S", sessionId := "b", vector := leaning, coherenceStreak := 150 }

def pairProcess : CastProcess :=
  { newProcess {} with
    swarms := Table.empty.upsert
      { swarmId := "S", consensusThreshold := 3 / 4, status := .strained, aggregatedVector := firstAxis,
        lastCastId := none, updatedAt := sampleTime, thresholdRange := by decide +kernel }
    swarmMembers := (Table.empty.upsert firstMember).upsert longMember }

def pairCall : CastedSwarm :=
  ({ swarmId := "S", sessionId := "a", components := leaning.components, intent := .ok cautious }, drawsNamed "A")

theorem pair_call_valid : ValidSwarmCall pairProcess pairCall where
  six := leaning.atLeastSix
  intent := ⟨cautious, rfl⟩
  swarm := by decide
  threshold := fun _ given => absurd given (Option.not_mem_none _)
  casts := by
    intro intent vector _ _
    obtain ⟨_, isMember, -⟩ := swarm_input_own pairProcess pairCall vector
    obtain ⟨out, casts⟩ := swarm_cast_returns pairProcess.engine (canonical_anchored _ rfl) intent
      (pairProcess.swarmInputs pairCall.1 vector) (List.ne_nil_of_mem isMember) (3 / 4) pairCall.2.stamp
    exact ⟨3 / 4, out, casts⟩
  streaks := by decide
  basis := by decide
  fresh := by decide

theorem swarm_aggregation_laws_pair : (∃ out,
    (newProcess {}).engine.swarmCast cautious [firstMember, longMember] (3 / 4) (drawsNamed "A").stamp = .ok out ∧
      SwarmCastLaws (newProcess {}).engine cautious [firstMember, longMember] (3 / 4) out) ∧
    SwarmReturns pairProcess pairCall ∧
      memberVector (swarmStep pairProcess pairCall) ("S", "a") = submitted pairCall := by
  obtain ⟨out, casts⟩ := swarm_cast_returns (newProcess {}).engine (canonical_anchored _ rfl) cautious
    [firstMember, longMember] (List.cons_ne_nil _ _) (3 / 4) (drawsNamed "A").stamp
  obtain ⟨laws, -, -, valid, -⟩ := swarm_aggregation_laws (newProcess {}).engine cautious [firstMember, longMember]
    (3 / 4) (drawsNamed "A").stamp (by decide) (by decide) out casts
  obtain ⟨returns, -, vector, submits, stored⟩ := valid pairProcess pairCall pair_call_valid
  exact ⟨⟨out, casts, laws⟩, returns, stored.trans submits.symm⟩

end Vermyth
