import Vermyth.Casting.SwarmLaws

set_option autoImplicit false

namespace Vermyth

open Foundation CastProcess

section Arithmetic

-- The sums of swarm_cast and normalize_unit over the numbers of α, in the
-- order of the loops.
variable {α : Type} [Add α] [Mul α] [Div α] [OfScientific α] [LE α] [DecidableLE α] [BEq α]

-- 1.0 + 0.01 * min(100, int(streak))
def streakWeight (ofInt : Int → α) (streak : Int) : α := 1.0 + 0.01 * ofInt (min 100 streak)

def accumulated (terms : List α) : α := terms.foldl (· + ·) 0.0

def swarmMean (ofInt : Int → α) (dimensionality : Nat) (members : List (List α × Int)) : List α :=
  let weights := accumulated (members.map fun member => streakWeight ofInt member.2)
  (List.range dimensionality).map fun i =>
    accumulated (members.map fun member => streakWeight ofInt member.2 * member.1.getD i 0.0) /
      if weights ≤ 0.0 then 1.0 else weights

def unitOf (sqrt : α → α) (components : List α) : List α :=
  let norm := sqrt (accumulated (components.map fun c => c * c))
  if norm == 0.0 then components.map fun _ => 0.0 else components.map fun c => c / norm

omit [LE α] [DecidableLE α] in
theorem unit_of_length (sqrt : α → α) (components : List α) : (unitOf sqrt components).length = components.length := by
  rw [unitOf]
  split <;> rw [List.length_map]

omit [BEq α] in
theorem swarm_mean_length (ofInt : Int → α) (dimensionality : Nat) (members : List (List α × Int)) :
    (swarmMean ofInt dimensionality members).length = dimensionality := by
  rw [swarmMean, List.length_map, List.length_range]

end Arithmetic

theorem accumulated_sum (terms : List ℚ) : accumulated terms = terms.sum := by
  rw [List.sum_eq_foldl, accumulated]
  norm_num

theorem streak_weight_exact (member : SwarmMember) :
    streakWeight Int.cast member.coherenceStreak = memberWeight member := by
  rw [streakWeight, memberWeight]
  norm_num

theorem exact_aggregate (engine : ResonanceEngine) (members : List SwarmMember) :
    unitOf engine.math.sqrt (swarmMean Int.cast engine.registry.dimensionality
      (members.map fun member => (member.vector.components, member.coherenceStreak))) =
        (aggregateVector engine members).components := by
  have zero : (0.0 : ℚ) = 0 := by norm_num
  have one : (1.0 : ℚ) = 1 := by norm_num
  have means : swarmMean Int.cast engine.registry.dimensionality
      (members.map fun member => (member.vector.components, member.coherenceStreak)) =
        (List.range engine.registry.dimensionality).map fun i =>
          (members.map fun member => memberWeight member * coeff member.vector.components i).sum /
            if (members.map memberWeight).sum ≤ 0 then 1 else (members.map memberWeight).sum := by
    simp only [swarmMean, accumulated_sum, List.map_map, Function.comp_def, streak_weight_exact, zero, one]
    rfl
  rw [means]
  simp only [unitOf, accumulated_sum, zero, beq_iff_eq]
  rfl

-- The value of a finite double: its sign, its exponent and its fraction.
def doubleValue (x : Float) : ℚ :=
  let bits : Nat := x.toBits.toNat
  let exponent : Nat := bits / 2 ^ 52 % 2 ^ 11
  let fraction : Nat := bits % 2 ^ 52
  let magnitude : ℚ := if exponent = 0 then fraction else (2 ^ 52 + fraction) * 2 ^ (exponent - 1)
  (if bits / 2 ^ 63 = 0 then magnitude else -magnitude) / 2 ^ 1074

structure DoubleMember where
  swarmId : String
  sessionId : String
  components : List Float
  coherenceStreak : Int
  atLeastSix : 6 ≤ components.length

def DoubleMember.exact (member : DoubleMember) : SwarmMember where
  swarmId := member.swarmId
  sessionId := member.sessionId
  vector :=
    { components := member.components.map doubleValue
      atLeastSix := by
        rw [List.length_map]
        exact member.atLeastSix }
  coherenceStreak := member.coherenceStreak

def aggregateDoubles (registry : AspectRegistry) (members : List DoubleMember) : List Float :=
  unitOf Float.sqrt (swarmMean Float.ofInt registry.dimensionality
    (members.map fun member => (member.components, member.coherenceStreak)))

def aggregatedDoubles (registry : AspectRegistry) (members : List DoubleMember) : SemanticVector where
  components := (aggregateDoubles registry members).map doubleValue
  basisVersion := some registry.basisVersion
  atLeastSix := by
    rw [List.length_map, aggregateDoubles, unit_of_length, swarm_mean_length]
    exact registry.dimensionality_six

-- The members are aggregated in doubles, and what comes of it is cast exactly.
def ResonanceEngine.swarmCastDoubles (engine : ResonanceEngine) (intent : Intent) (members : List DoubleMember)
    (consensusThreshold : ℚ) (stamp : CastStamp) : Except PyError SwarmOutcome :=
  if members = [] then .error (.valueError "swarm requires at least one member")
  else do
    let aggregated := aggregatedDoubles engine.registry members
    let result ← engine.fluidCast aggregated intent stamp
    let status := swarmStatus result.verdict consensusThreshold
    return { result, aggregated, status,
             newStreaks := (members.map fun member => streakAfter status member.exact).foldl keepStreak ∅ }

theorem swarm_cast_doubles_returns (engine : ResonanceEngine) (anchored : Anchored engine) (intent : Intent)
    (members : List DoubleMember) (some : members ≠ []) (threshold : ℚ) (stamp : CastStamp) :
    ∃ out, engine.swarmCastDoubles intent members threshold stamp = .ok out ∧
      out.aggregated = aggregatedDoubles engine.registry members := by
  obtain ⟨result, casts⟩ := fluid_cast_same engine anchored (aggregatedDoubles engine.registry members) intent stamp rfl
  rw [ResonanceEngine.swarmCastDoubles, if_neg some]
  exact ⟨_, (bind_ok _ _ _).mpr ⟨result, casts, rfl⟩, rfl⟩

def doubleMember (sessionId : String) (x : Float) : DoubleMember where
  swarmId := "S"
  sessionId := sessionId
  components := [x, 0.0, 0.0, 0.0, 0.0, 0.0]
  coherenceStreak := 0
  atLeastSix := le_refl 6

def doubleSwarm : List DoubleMember := [doubleMember "a" 0.1, doubleMember "b" 0.5, doubleMember "c" (-0.6)]

def turnedSwarm : List DoubleMember := [doubleMember "b" 0.5, doubleMember "c" (-0.6), doubleMember "a" 0.1]

-- 0.1 + 0.5 - 0.6 is zero and 0.5 - 0.6 + 0.1 is not, and what is left of it is
-- made a unit vector.
theorem doubles_reordered : doubleSwarm.Perm turnedSwarm ∧ (doubleSwarm.map DoubleMember.sessionId).Nodup ∧
    (∀ member ∈ doubleSwarm, 0 ≤ member.coherenceStreak) ∧ ∃ out again,
      (newProcess {}).engine.swarmCastDoubles cautious doubleSwarm (3 / 4) (drawsNamed "A").stamp = .ok out ∧
        (newProcess {}).engine.swarmCastDoubles cautious turnedSwarm (3 / 4) (drawsNamed "A").stamp = .ok again ∧
        out.aggregated.components = [0, 0, 0, 0, 0, 0] ∧ again.aggregated.components = [1, 0, 0, 0, 0, 0] := by
  have anchored := canonical_anchored (newProcess {}).engine rfl
  obtain ⟨out, casts, aggregated⟩ := swarm_cast_doubles_returns (newProcess {}).engine anchored cautious doubleSwarm
    (List.cons_ne_nil _ _) (3 / 4) (drawsNamed "A").stamp
  obtain ⟨again, castsAgain, aggregatedAgain⟩ := swarm_cast_doubles_returns (newProcess {}).engine anchored cautious
    turnedSwarm (List.cons_ne_nil _ _) (3 / 4) (drawsNamed "A").stamp
  have turned := List.perm_append_singleton (doubleMember "a" 0.1) [doubleMember "b" 0.5, doubleMember "c" (-0.6)]
  refine ⟨turned.symm, by decide, by decide, out, again, casts, castsAgain, ?_, ?_⟩
  · rw [aggregated]
    decide +kernel
  · rw [aggregatedAgain]
    decide +kernel

end Vermyth
