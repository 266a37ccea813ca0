import Vermyth.Casting.Quiet
import Vermyth.Engine.CanonicalSigils
import Vermyth.Engine.Execute
import Vermyth.Grimoire.SeedInvariant

set_option autoImplicit false

namespace Vermyth

open Foundation CastProcess

def CastProcess.programEngine (process : CastProcess) (base : Engine) (stamps : Call → ChainStamps) : Engine :=
  { base with
    fluidCast := fun call vector intent =>
      (process.engine.fluidCast vector intent ((stamps call).cast 0)).map CastRecord.result
    autoCast := fun call vector intent =>
      (process.engine.autoCast vector intent 5 (75 / 100) (35 / 100) (stamps call)).map fun cast =>
        (cast.1.result, cast.2.map CastRecord.result) }

-- The calls that may hand a vector to the engine.
inductive VectorCall where
  | tool (call : CastCall)
  | programNode (base : Engine) (stamps : Call → ChainStamps) (node : CastNode) (attempt : Nat)

def VectorCall.Valid (process : CastProcess) : VectorCall → Prop
  | .tool (.fluidCast components intent _ _) => ∃ request, requestFluid components intent = .ok request
  | .tool (.autoCast arguments) => ∃ request, requestFluid arguments.components arguments.intent = .ok request
  | .tool (.geometricCast arguments) =>
      ∃ packet, GeometricPacket.make arguments.payload arguments.version = .ok packet ∧ packet.Proved
  | .tool (.decide arguments) => ∃ request, process.decideRequest arguments = .ok request ∧ request.vector ≠ none
  | .tool _ => False
  | .programNode _ _ node _ => node.nodeType = .fluidCast ∨ node.nodeType = .autoCast

def VectorCall.handed (process : CastProcess) : VectorCall → Option SemanticVector
  | .tool (.fluidCast components intent _ _) => (requestFluid components intent).toOption.map Prod.fst
  | .tool (.autoCast arguments) =>
      if 1 ≤ arguments.maxDepth then
        (requestFluid arguments.components arguments.intent).toOption.map Prod.fst
      else none
  | .tool (.geometricCast arguments) => (process.geometricRequest arguments).toOption.map Prod.fst
  | .tool (.decide arguments) =>
      (process.decideRequest arguments).toOption.bind fun request =>
        if request.aspects.isSome then none else request.vector
  | .tool _ => none
  | .programNode _ _ node _ => node.vector

def VectorCall.NeverMismatches (process : CastProcess) (draws : CallDraws) : VectorCall → Prop
  | .tool call => OnlyRaises Quiet (castCall process draws call).1
  | .programNode base stamps node attempt =>
      OnlyRaises Quiet (castNode (process.programEngine base stamps) node attempt)

theorem mismatch_loud (a b : SemanticVector) {α : Type} :
    ¬ OnlyRaises Quiet (.error (basisMismatch a b) : Except PyError α) := fun quiet => quiet _ rfl a b rfl

theorem fluid_cast_quiet_iff (engine : ResonanceEngine) (anchored : Anchored engine) (vector : SemanticVector)
    (intent : Intent) (stamp : CastStamp) :
    OnlyRaises Quiet (engine.fluidCast vector intent stamp) ↔
      vector.normalizedBasisVersion = engine.registry.basisVersion := by
  by_cases same : vector.normalizedBasisVersion = engine.registry.basisVersion
  · obtain ⟨result, cast⟩ := fluid_cast_same engine anchored vector intent stamp same
    rw [cast]
    exact iff_of_true (raises_ok Quiet result) same
  · obtain ⟨a, b, refused⟩ := fluid_cast_other engine anchored vector intent stamp same
    rw [refused]
    exact iff_of_false (mismatch_loud a b) same

theorem auto_cast_quiet_iff (engine : ResonanceEngine) (anchored : Anchored engine) (vector : SemanticVector)
    (intent : Intent) (maxDepth : Int) (targetResonance blendAlpha : ℚ) (stamps : ChainStamps) :
    OnlyRaises Quiet (engine.autoCast vector intent maxDepth targetResonance blendAlpha stamps) ↔
      (1 ≤ maxDepth → vector.normalizedBasisVersion = engine.registry.basisVersion) := by
  by_cases some : 1 ≤ maxDepth
  · by_cases same : vector.normalizedBasisVersion = engine.registry.basisVersion
    · obtain ⟨cast, made⟩ :=
        auto_cast_same engine anchored vector intent maxDepth targetResonance blendAlpha stamps some same
      rw [made]
      exact iff_of_true (raises_ok Quiet cast) fun _ => same
    · obtain ⟨a, b, refused⟩ :=
        auto_cast_other engine anchored vector intent maxDepth targetResonance blendAlpha stamps some same
      rw [refused]
      exact iff_of_false (mismatch_loud a b) fun all => same (all some)
  · have none : maxDepth.toNat = 0 := by omega
    refine iff_of_true ?_ fun positive => absurd positive some
    rw [ResonanceEngine.autoCast, none]
    apply raises_error
    intro a b same
    cases same

theorem quiet_of_wrapped (tool : String) (raised : PyError) (quiet : Quiet (wrapRaised tool raised)) :
    Quiet raised := by
  intro a b same
  rw [same] at quiet
  exact quiet a b rfl

theorem wrapped_quiet_iff {α : Type} (tool : String) (outcome : CallOutcome α) :
    OnlyRaises Quiet (wrapped tool outcome).1 ↔ OnlyRaises Quiet outcome.1 := by
  constructor
  · intro own raised failed
    apply quiet_of_wrapped tool
    apply own
    rw [wrapped, failed]
    rfl
  · exact raises_map_error Quiet _ _ (quiet_wrapped tool)

namespace CastProcess

variable (process : CastProcess) (anchored : Anchored process.engine) (draws : CallDraws)

include anchored

theorem fluid_tool_quiet_iff (components : List ℚ) (intent : Except PyError Intent)
    (parentCastId branchId : Option String) (request : SemanticVector × Intent)
    (valid : requestFluid components intent = .ok request) :
    OnlyRaises Quiet (process.toolFluidCast components intent parentCastId branchId draws).1 ↔
      request.1.normalizedBasisVersion = process.registry.basisVersion := by
  have begins : OnlyRaises Quiet (process.beginFluid components intent draws) ↔
      request.1.normalizedBasisVersion = process.registry.basisVersion := by
    rw [beginFluid, valid]
    exact fluid_cast_quiet_iff process.engine anchored request.1 request.2 draws.stamp
  rw [toolFluidCast, wrapped_quiet_iff]
  cases begun : process.beginFluid components intent draws with
  | error raised =>
      rw [begun] at begins
      exact begins
  | ok result =>
      rw [begun] at begins
      refine iff_of_true ?_ (begins.mp (raises_ok Quiet result))
      dsimp only
      cases attached : process.attachParent result parentCastId branchId draws with
      | error raised =>
          exact raises_error Quiet _ (process.attach_parent_quiet result parentCastId branchId draws raised attached)
      | ok child => exact keep_cast_quiet _ _ _ _

theorem auto_tool_quiet_iff (arguments : AutoArguments) (request : SemanticVector × Intent)
    (valid : requestFluid arguments.components arguments.intent = .ok request) :
    OnlyRaises Quiet (process.toolAutoCast arguments draws).1 ↔
      (1 ≤ arguments.maxDepth → request.1.normalizedBasisVersion = process.registry.basisVersion) := by
  have begins : OnlyRaises Quiet (process.beginAuto arguments draws) ↔
      (1 ≤ arguments.maxDepth → request.1.normalizedBasisVersion = process.registry.basisVersion) := by
    rw [beginAuto, valid]
    exact auto_cast_quiet_iff process.engine anchored request.1 request.2 _ _ _ _
  rw [toolAutoCast]
  cases begun : process.beginAuto arguments draws with
  | error raised =>
      rw [begun, raises_error_iff] at begins
      exact (raises_error_iff Quiet raised).trans begins
  | ok cast =>
      rw [begun] at begins
      refine iff_of_true ?_ (begins.mp (raises_ok Quiet cast))
      exact raises_map Quiet _ _ (process.write_results_quiet draws cast.2 0)

theorem geometric_tool_quiet_iff (arguments : GeometricArguments) (packet : GeometricPacket)
    (made : GeometricPacket.make arguments.payload arguments.version = .ok packet) (proved : packet.Proved) :
    OnlyRaises Quiet (process.toolGeometricCast arguments draws).1 ↔
      ∀ request, process.geometricRequest arguments = .ok request →
        request.1.normalizedBasisVersion = process.registry.basisVersion := by
  have begins : OnlyRaises Quiet (process.beginGeometric arguments draws) ↔
      ∀ request, process.geometricRequest arguments = .ok request →
        request.1.normalizedBasisVersion = process.registry.basisVersion := by
    rw [beginGeometric]
    cases requested : process.geometricRequest arguments with
    | error raised =>
        refine iff_of_true (raises_error Quiet raised ?_) fun _ same => nomatch same
        simp only [geometricRequest, made, bind, Except.bind, if_pos proved] at requested
        split at requested
        · cases requested
          exact quiet_text "channel is DECOHERENT; sync required" "" 'c' (by decide) (by decide)
        · contradiction
    | ok request =>
        have cast := fluid_cast_quiet_iff process.engine anchored request.1 request.2 draws.stamp
        constructor
        · rintro quiet other same
          cases same
          exact cast.mp quiet
        · exact fun all => cast.mpr (all request rfl)
  rw [toolGeometricCast]
  cases begun : process.beginGeometric arguments draws with
  | error raised =>
      rw [begun] at begins
      exact begins
  | ok result =>
      rw [begun] at begins
      refine iff_of_true ?_ (begins.mp (raises_ok Quiet result))
      dsimp only
      cases wrote : process.writeCast result with
      | error raised => exact raises_error Quiet _ (process.write_cast_quiet result raised wrote)
      | ok written =>
          dsimp only
          cases channelled : written.geometricChannel arguments result draws with
          | error raised =>
              exact raises_error Quiet _ (written.geometric_channel_quiet arguments result draws raised channelled)
          | ok after => exact raises_ok Quiet _

theorem decide_tool_quiet_iff (arguments : DecideArguments) (request : DecideRequest) (vector : SemanticVector)
    (valid : process.decideRequest arguments = .ok request) (given : request.vector = some vector) :
    OnlyRaises Quiet (process.toolDecide arguments draws).1 ↔
      (request.aspects = none → vector.normalizedBasisVersion = process.registry.basisVersion) := by
  have casts : OnlyRaises Quiet (process.decideCast request draws) ↔
      (request.aspects = none → vector.normalizedBasisVersion = process.registry.basisVersion) := by
    rw [decideCast, given]
    cases request.aspects with
    | none =>
        rw [imp_iff_right rfl]
        exact fluid_cast_quiet_iff process.engine anchored vector request.intent draws.stamp
    | some aspects =>
        refine iff_of_true ?_ fun none => nomatch none
        exact raises_error Quiet _
          (quiet_text "pass either aspects or vector, not both" "" 'p' (by decide) (by decide))
  have begins : OnlyRaises Quiet (process.beginDecide arguments draws) ↔
      (request.aspects = none → vector.normalizedBasisVersion = process.registry.basisVersion) := by
    rw [← casts, beginDecide, valid]
    constructor
    · exact raises_first Quiet (process.decideCast request draws) _
    · intro quiet
      apply raises_bind Quiet (process.decideCast request draws) _ quiet
      intro result _
      apply raises_bind
      · exact process.decide_status_quiet arguments result draws
      · intro status _
        apply raises_bind
        · exact policy_decision_quiet _ _ _ _ _ _ _
        · intro decision _
          exact raises_ok Quiet _
  rw [toolDecide]
  cases begun : process.beginDecide arguments draws with
  | error raised =>
      rw [begun, raises_error_iff] at begins
      exact (raises_error_iff Quiet raised).trans begins
  | ok decided =>
      rw [begun] at begins
      refine iff_of_true ?_ (begins.mp (raises_ok Quiet decided))
      dsimp only
      cases wrote : process.writeCast decided.2 with
      | error raised => exact raises_error Quiet _ (process.write_cast_quiet decided.2 raised wrote)
      | ok written =>
          dsimp only
          cases recorded : written.writePolicyDecision decided.1 with
          | error raised => exact raises_error Quiet _ (written.write_decision_quiet decided.1 raised recorded)
          | ok after => exact raises_ok Quiet _

theorem fluid_node_quiet_iff (base : Engine) (stamps : Call → ChainStamps) (node : CastNode) (attempt : Nat)
    (vector : SemanticVector) (given : node.vector = some vector)
    (casts : node.nodeType = .fluidCast ∨ node.nodeType = .autoCast) :
    OnlyRaises Quiet (castNode (process.programEngine base stamps) node attempt) ↔
      vector.normalizedBasisVersion = process.registry.basisVersion := by
  rcases casts with fluid | auto
  · simp only [castNode, fluid, given, programEngine]
    rw [raises_map_iff]
    exact fluid_cast_quiet_iff process.engine anchored vector node.intent _
  · simp only [castNode, auto, given, programEngine]
    rw [raises_map_iff, raises_map_iff, auto_cast_quiet_iff process.engine anchored vector node.intent]
    exact imp_iff_right (by decide)

end CastProcess

theorem request_vector_basis (components : List ℚ) (intent : Except PyError Intent) (request : SemanticVector × Intent)
    (requested : requestFluid components intent = .ok request) : request.1.normalizedBasisVersion = 0 := by
  cases made : requestVector components with
  | error raised =>
      rw [requestFluid, made] at requested
      contradiction
  | ok vector =>
      cases intent with
      | error raised =>
          rw [requestFluid, made] at requested
          contradiction
      | ok intent =>
          rw [requestFluid, made] at requested
          cases requested
          rw [requestVector] at made
          split_ifs at made
          cases made
          rfl

theorem blend_channel_basis (math : VectorMath) (packet : GeometricPacket) (channel : Option ChannelState) :
    (blendChannel math packet.aspectVector channel).normalizedBasisVersion = 0 := by
  rw [blendChannel]
  cases channel.bind ChannelState.constraintVector with
  | none => rfl
  | some constraint => rfl

theorem geometric_vector_basis (process : CastProcess) (arguments : GeometricArguments)
    (request : SemanticVector × Intent) (requested : process.geometricRequest arguments = .ok request) :
    request.1.normalizedBasisVersion = 0 := by
  rw [geometricRequest] at requested
  cases made : GeometricPacket.make arguments.payload arguments.version with
  | error raised =>
      rw [made] at requested
      contradiction
  | ok packet =>
      simp only [made, bind, Except.bind] at requested
      by_cases proved : packet.Proved
      · rw [if_pos proved] at requested
        split at requested
        · contradiction
        · cases requested
          exact blend_channel_basis process.math packet _
      · rw [if_neg proved] at requested
        contradiction

theorem decide_vector_basis (process : CastProcess) (arguments : DecideArguments) (request : DecideRequest)
    (requested : process.decideRequest arguments = .ok request) :
    ∀ vector ∈ request.vector, vector.normalizedBasisVersion = 0 := by
  intro vector given
  rw [decideRequest] at requested
  split_ifs at requested
  obtain ⟨intent, -, requested⟩ := (bind_ok _ _ _).mp requested
  obtain ⟨aspects, -, requested⟩ := (bind_ok _ _ _).mp requested
  obtain ⟨made, makes, requested⟩ := (bind_ok _ _ _).mp requested
  obtain ⟨settings, -, requested⟩ := (bind_ok _ _ _).mp requested
  cases requested
  dsimp only at given
  cases offered : arguments.vector with
  | none =>
      rw [offered] at makes
      cases makes
      contradiction
  | some components =>
      rw [offered] at makes
      by_cases six : 6 ≤ components.length
      · simp only [Option.mapM_some, SemanticVector.make, dif_pos six] at makes
        cases makes
        obtain rfl := Option.some.inj given
        rfl
      · simp only [Option.mapM_some, SemanticVector.make, dif_neg six] at makes
        contradiction

theorem tool_vector_basis (process : CastProcess) (call : CastCall) :
    ∀ vector ∈ VectorCall.handed process (.tool call), vector.normalizedBasisVersion = 0 := by
  intro vector isHanded
  cases call with
  | fluidCast components intent parentCastId branchId =>
      obtain ⟨request, requested, rfl⟩ := Option.map_eq_some_iff.mp isHanded
      exact request_vector_basis components intent request ((to_option_some _ _).mp requested)
  | autoCast arguments =>
      by_cases some : 1 ≤ arguments.maxDepth
      · rw [VectorCall.handed, if_pos some] at isHanded
        obtain ⟨request, requested, rfl⟩ := Option.map_eq_some_iff.mp isHanded
        exact request_vector_basis arguments.components arguments.intent request ((to_option_some _ _).mp requested)
      · rw [VectorCall.handed, if_neg some] at isHanded
        contradiction
  | geometricCast arguments =>
      obtain ⟨request, requested, rfl⟩ := Option.map_eq_some_iff.mp isHanded
      exact geometric_vector_basis process arguments request ((to_option_some _ _).mp requested)
  | decide arguments =>
      obtain ⟨request, requested, given⟩ := Option.bind_eq_some_iff.mp isHanded
      by_cases both : request.aspects.isSome
      · rw [if_pos both] at given
        contradiction
      · rw [if_neg both] at given
        exact decide_vector_basis process arguments request ((to_option_some _ _).mp requested) vector given
  | cast arguments => contradiction
  | swarmCast arguments => contradiction
  | predictiveCast rootCastId intent => contradiction

theorem never_mismatches_iff (process : CastProcess) (anchored : Anchored process.engine) (draws : CallDraws)
    (call : VectorCall) (valid : call.Valid process) :
    call.NeverMismatches process draws ↔
      ∀ vector ∈ call.handed process, vector.normalizedBasisVersion = process.registry.basisVersion := by
  cases call with
  | tool call =>
      cases call with
      | fluidCast components intent parentCastId branchId =>
          obtain ⟨request, requested⟩ := valid
          have quiet := process.fluid_tool_quiet_iff anchored draws components intent parentCastId branchId request
            requested
          simpa only [VectorCall.NeverMismatches, castCall, VectorCall.handed, requested, Except.toOption,
            Option.map_some, Option.mem_some_iff, forall_eq'] using quiet
      | autoCast arguments =>
          obtain ⟨request, requested⟩ := valid
          have quiet := process.auto_tool_quiet_iff anchored draws arguments request requested
          by_cases rounds : 1 ≤ arguments.maxDepth
          · simpa only [VectorCall.NeverMismatches, castCall, VectorCall.handed, requested, Except.toOption,
              rounds, if_true, forall_true_left, Option.map_some, Option.mem_some_iff, forall_eq'] using quiet
          · simpa only [VectorCall.NeverMismatches, castCall, VectorCall.handed, rounds, if_false,
              false_imp_iff, Option.not_mem_none, implies_true] using quiet
      | geometricCast arguments =>
          obtain ⟨packet, made, proved⟩ := valid
          have quiet := process.geometric_tool_quiet_iff anchored draws arguments packet made proved
          rw [VectorCall.NeverMismatches, castCall, quiet]
          constructor
          · intro all vector isHanded
            obtain ⟨request, requested, rfl⟩ := Option.map_eq_some_iff.mp isHanded
            exact all request ((to_option_some _ _).mp requested)
          · intro all request requested
            exact all request.1 (Option.map_eq_some_iff.mpr ⟨request, (to_option_some _ _).mpr requested, rfl⟩)
      | decide arguments =>
          obtain ⟨request, requested, offered⟩ := valid
          obtain ⟨vector, given⟩ := Option.ne_none_iff_exists'.mp offered
          have quiet := process.decide_tool_quiet_iff anchored draws arguments request vector requested given
          cases aspects : request.aspects with
          | none =>
              simpa [VectorCall.NeverMismatches, castCall, VectorCall.handed, requested, Except.toOption, aspects,
                given] using quiet
          | some asked =>
              simpa [VectorCall.NeverMismatches, castCall, VectorCall.handed, requested, Except.toOption, aspects]
                using quiet
      | cast arguments => contradiction
      | swarmCast arguments => contradiction
      | predictiveCast rootCastId intent => contradiction
  | programNode base stamps node attempt =>
      have payload := node.payloadValid
      obtain ⟨vector, given⟩ : ∃ vector, node.vector = some vector := by
        rcases valid with fluid | auto
        · rw [fluid] at payload
          exact Option.isSome_iff_exists.mp payload.1
        · rw [auto] at payload
          exact Option.isSome_iff_exists.mp payload.1
      have quiet := process.fluid_node_quiet_iff anchored base stamps node attempt vector given valid
      simpa only [VectorCall.NeverMismatches, VectorCall.handed, given, Option.mem_some_iff, forall_eq'] using quiet

theorem tool_never_mismatches_iff (process : CastProcess) (anchored : Anchored process.engine) (draws : CallDraws)
    (call : CastCall) (valid : (VectorCall.tool call).Valid process)
    (hands : (VectorCall.handed process (.tool call)).isSome) :
    (VectorCall.tool call).NeverMismatches process draws ↔ process.registry.basisVersion = 0 := by
  obtain ⟨vector, isHanded⟩ := Option.isSome_iff_exists.mp hands
  have basis := tool_vector_basis process call vector isHanded
  rw [never_mismatches_iff process anchored draws _ valid]
  constructor
  · intro all
    rw [← all vector isHanded, basis]
  · intro first other isOther
    rw [tool_vector_basis process call other isOther, first]

theorem basis_mismatch_iff (process : CastProcess) (anchored : Anchored process.engine) (draws : CallDraws)
    (call : VectorCall) (valid : call.Valid process) :
    (call.NeverMismatches process draws ↔
      ∀ vector ∈ call.handed process, vector.normalizedBasisVersion = process.registry.basisVersion) ∧
    ∀ vector, (∃ sigil, process.engine.interpolate vector 3 = .ok sigil) ↔
      vector.normalizedBasisVersion = process.registry.basisVersion := by
  refine ⟨never_mismatches_iff process anchored draws call valid, ?_⟩
  intro vector
  exact interpolate_ok_iff process.engine anchored vector

def stampsNamed (name : String) : ChainStamps where
  cast := fun index => { castId := name ++ "-" ++ toString index, timestamp := sampleTime }
  branchId := name ++ "-branch"

def drawsNamed (name : String) : CallDraws where
  casts := stampsNamed name
  channel := { branchId := name ++ "-channel", updatedAt := sampleTime }
  lineageBranch := name ++ "-lineage"
  now := sampleTime
  seed := fun index => drawnAs (name ++ "-seed-" ++ toString index)
  edge := fun index => { edgeId := name ++ "-edge-" ++ toString index, createdAt := sampleTime }
  decisionId := name ++ "-decision"

-- A process with the table of the data files and an empty store.
def newProcess (registry : AspectRegistry) : CastProcess where
  env := { gossip := { gossipEnv with registry := registry }, engine := canonicalComposition }
  math := squareRoots
  seeds := { grimoire := {} }

def voidCall : VectorCall := .tool (.fluidCast [1, 0, 0, 0, 0, 0] (.ok cautious) none none)

theorem void_call_mismatch_iff : voidCall.Valid (newProcess withHarmony) ∧
    (voidCall.NeverMismatches (newProcess withHarmony) (drawsNamed "A") ↔
      ∀ vector ∈ voidCall.handed (newProcess withHarmony),
        vector.normalizedBasisVersion = (newProcess withHarmony).registry.basisVersion) ∧
    ∀ vector, (∃ sigil, (newProcess withHarmony).engine.interpolate vector 3 = .ok sigil) ↔
      vector.normalizedBasisVersion = (newProcess withHarmony).registry.basisVersion := by
  have valid : voidCall.Valid (newProcess withHarmony) := ⟨_, rfl⟩
  exact ⟨valid, basis_mismatch_iff (newProcess withHarmony) (canonical_anchored _ rfl) (drawsNamed "A") voidCall valid⟩

theorem registered_then_mismatch : AspectsRegistered {} withHarmony ∧ voidCall.Valid (newProcess withHarmony) ∧
    ¬ voidCall.NeverMismatches (newProcess withHarmony) (drawsNamed "A") ∧
    (castCall (newProcess withHarmony) (drawsNamed "A")
        (.fluidCast [1, 0, 0, 0, 0, 0] (.ok cautious) none none)).1.map (fun _ => ()) =
      .error (.valueError "incompatible basis versions: left=v1 right=v0; upsample explicitly first") := by
  have valid : voidCall.Valid (newProcess withHarmony) := ⟨_, rfl⟩
  refine ⟨harmony_registered, valid, ?_, by decide +kernel⟩
  intro quiet
  have first := (tool_never_mismatches_iff (newProcess withHarmony) (canonical_anchored _ rfl) (drawsNamed "A") _ valid
    rfl).mp quiet
  contradiction

end Vermyth
