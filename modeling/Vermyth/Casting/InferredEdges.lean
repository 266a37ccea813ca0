import Vermyth.Casting.Lineage
import Vermyth.Engine.CausalInference
import Vermyth.Foundation.LeastOrder

set_option autoImplicit false

namespace Vermyth

open Foundation

namespace CastProcess

variable (process : CastProcess)

def toolInferCausalEdge (sourceCastId targetCastId : String) (stamp : EdgeStamp) : CallOutcome (Option CausalEdge) :=
  match process.readCast sourceCastId with
  | .error raised => (.error raised, process)
  | .ok source =>
      match process.readCast targetCastId with
      | .error raised => (.error raised, process)
      | .ok target =>
          match inferCausalEdge process.math source target stamp with
          | .error raised => (.error raised, process)
          | .ok none => (.ok none, process)
          | .ok (some edge) => (.ok (some edge), process.writeCausalEdge edge)

end CastProcess

inductive CausalCall where
  | write (record : CastRecord)
  | adopt (env : SeedEnv)
  | infer (sourceCastId targetCastId : String) (stamp : EdgeStamp)

-- A call that raises changes nothing.
def causalStep (process : CastProcess) : CausalCall → CastProcess
  | .write record => (process.writeCast record).toOption.getD process
  | .adopt env => { process with env := env }
  | .infer sourceCastId targetCastId stamp => (process.toolInferCausalEdge sourceCastId targetCastId stamp).2

namespace CastProcess

variable (process : CastProcess)

def Joined (sourceCastId targetCastId : String) : Prop :=
  (∃ edge ∈ process.causalEdges.rows, edge.sourceCastId = sourceCastId ∧ edge.targetCastId = targetCastId) ∨
    ∃ source target stamp edge, process.readCast sourceCastId = .ok source ∧
      process.readCast targetCastId = .ok target ∧ inferCausalEdge process.math source target stamp = .ok (some edge)

def Earlier (sourceCastId targetCastId : String) : Prop :=
  ∃ source target, process.casts.find? sourceCastId = some source ∧ process.casts.find? targetCastId = some target ∧
    source.Before target

def EdgesForward : Prop :=
  ∀ edge ∈ process.causalEdges.rows, process.Earlier edge.sourceCastId edge.targetCastId

def castInstant (castId : String) : Int :=
  ((process.casts.find? castId).map fun record => record.timestamp.instant).getD 0

theorem read_cast_row (castId : String) (read : CastRecord) (reads : process.readCast castId = .ok read) :
    ∃ row, process.casts.find? castId = some row ∧ read.castId = castId ∧ read.timestamp = row.timestamp := by
  obtain ⟨row, aspects, found, isKey, rfl⟩ := process.read_cast_restored castId read reads
  exact ⟨row, found, isKey, rfl⟩

theorem inferred_earlier (sourceCastId targetCastId : String) (source target : CastRecord) (stamp : EdgeStamp)
    (edge : CausalEdge) (readsSource : process.readCast sourceCastId = .ok source)
    (readsTarget : process.readCast targetCastId = .ok target)
    (inferred : inferCausalEdge process.math source target stamp = .ok (some edge)) :
    edge.sourceCastId = sourceCastId ∧ edge.targetCastId = targetCastId ∧
      process.Earlier sourceCastId targetCastId := by
  obtain ⟨sourceRow, foundSource, sourceId, sourceTime⟩ := process.read_cast_row sourceCastId source readsSource
  obtain ⟨targetRow, foundTarget, targetId, targetTime⟩ := process.read_cast_row targetCastId target readsTarget
  obtain ⟨before, fromId, toId, -⟩ := infer_some process.math source target stamp edge inferred
  refine ⟨fromId.trans sourceId, toId.trans targetId, sourceRow, targetRow, foundSource, foundTarget, ?_⟩
  rw [CastRecord.Before, ← sourceTime, ← targetTime]
  exact before

theorem tool_infer_cases (sourceCastId targetCastId : String) (stamp : EdgeStamp) :
    (process.toolInferCausalEdge sourceCastId targetCastId stamp).2 = process ∨
      ∃ edge, (process.toolInferCausalEdge sourceCastId targetCastId stamp).2 = process.writeCausalEdge edge ∧
        process.Earlier edge.sourceCastId edge.targetCastId := by
  rw [toolInferCausalEdge]
  cases readsSource : process.readCast sourceCastId with
  | error raised => exact Or.inl rfl
  | ok source =>
      dsimp only
      cases readsTarget : process.readCast targetCastId with
      | error raised => exact Or.inl rfl
      | ok target =>
          dsimp only
          cases inferred : inferCausalEdge process.math source target stamp with
          | error raised => exact Or.inl rfl
          | ok found =>
              cases found with
              | none => exact Or.inl rfl
              | some edge =>
                  obtain ⟨fromId, toId, earlier⟩ := process.inferred_earlier sourceCastId targetCastId source target
                    stamp edge readsSource readsTarget inferred
                  refine Or.inr ⟨edge, rfl, ?_⟩
                  rw [fromId, toId]
                  exact earlier

theorem tool_infer_mismatch (sourceCastId targetCastId : String) (source target : CastRecord) (stamp : EdgeStamp)
    (readsSource : process.readCast sourceCastId = .ok source)
    (readsTarget : process.readCast targetCastId = .ok target) (before : source.Before target)
    (other : source.vector.normalizedBasisVersion ≠ target.vector.normalizedBasisVersion) :
    process.toolInferCausalEdge sourceCastId targetCastId stamp =
      (.error (basisMismatch source.vector target.vector), process) := by
  rw [toolInferCausalEdge, readsSource]
  dsimp only
  rw [readsTarget]
  dsimp only
  rw [infer_other process.math source target stamp before other]

theorem write_cast_finds (record : CastRecord) (written : CastProcess) (wrote : process.writeCast record = .ok written)
    (castId : String) (row : CastRecord) (found : process.casts.find? castId = some row) :
    written.casts.find? castId = some row := by
  rw [Table.find?] at found
  rw [Table.find?, process.write_cast_rows record written wrote, List.find?_append, found]
  rfl

theorem write_cast_edges (record : CastRecord) (written : CastProcess)
    (wrote : process.writeCast record = .ok written) : written.causalEdges = process.causalEdges := by
  obtain ⟨casts, rfl⟩ := process.write_cast_only record written wrote
  rfl

end CastProcess

theorem causal_step_forward (process : CastProcess) (call : CausalCall) (forward : process.EdgesForward) :
    (causalStep process call).EdgesForward := by
  cases call with
  | write record =>
      rw [causalStep]
      cases wrote : process.writeCast record with
      | error raised => exact forward
      | ok written =>
          intro edge member
          change edge ∈ written.causalEdges.rows at member
          rw [process.write_cast_edges record written wrote] at member
          obtain ⟨source, target, foundSource, foundTarget, before⟩ := forward edge member
          exact ⟨source, target, process.write_cast_finds record written wrote _ _ foundSource,
            process.write_cast_finds record written wrote _ _ foundTarget, before⟩
  | adopt env => exact forward
  | infer sourceCastId targetCastId stamp =>
      rw [causalStep]
      obtain same | ⟨edge, wrote, earlier⟩ := process.tool_infer_cases sourceCastId targetCastId stamp
      · rw [same]
        exact forward
      · rw [wrote]
        intro own member
        obtain ⟨old, -⟩ | rfl := (Table.mem_upsert process.causalEdges edge own).mp member
        · exact forward own old
        · exact earlier

theorem causal_run_forward (start : CastProcess) (empty : start.causalEdges.rows = []) (calls : List CausalCall) :
    (run causalStep start calls).EdgesForward := by
  apply run_invariant CastProcess.EdgesForward start calls
  · intro edge member
    rw [empty] at member
    exact absurd member List.not_mem_nil
  · intro before call _ forward
    exact causal_step_forward before call forward

theorem joined_acyclic (process : CastProcess) (forward : process.EdgesForward) : ¬ Cyclic process.Joined := by
  apply ranked_acyclic process.castInstant
  intro sourceCastId targetCastId joined
  have earlier : process.Earlier sourceCastId targetCastId := by
    obtain ⟨edge, member, rfl, rfl⟩ | ⟨source, target, stamp, edge, readsSource, readsTarget, inferred⟩ := joined
    · exact forward edge member
    · exact (process.inferred_earlier sourceCastId targetCastId source target stamp edge readsSource readsTarget
        inferred).2.2
  obtain ⟨source, target, foundSource, foundTarget, before⟩ := earlier
  rw [CastProcess.castInstant, CastProcess.castInstant, foundSource, foundTarget]
  exact before

theorem causal_inference_iff (start : CastProcess) (empty : start.causalEdges.rows = []) (calls : List CausalCall) :
    (∀ sourceCastId targetCastId source target, (run causalStep start calls).readCast sourceCastId = .ok source →
      (run causalStep start calls).readCast targetCastId = .ok target → ∀ left right,
        Reexpressed source.vector left → Reexpressed target.vector right →
          (InfersFreely (run causalStep start calls).math source target left right ↔
            (source.timestamp.instant < target.timestamp.instant → BasesAgree source target left right))) ∧
      ¬ Cyclic (run causalStep start calls).Joined := by
  refine ⟨?_, joined_acyclic _ (causal_run_forward start empty calls)⟩
  intro sourceCastId targetCastId source target _ _ left right ofLeft ofRight
  exact infers_freely_iff _ source target left right ofLeft ofRight

def formAsked : CastCall := .cast { aspects := ["FORM"], intent := .ok cautious }

def nextYearDraws : CallDraws :=
  { drawsNamed "B" with
    casts := { stampsNamed "B" with
      cast := fun index => { castId := "B-" ++ toString index, timestamp := .newYear 2027 (Eq.refl true) } } }

def castTwice : CastProcess :=
  castStep { castStep (newProcess {}) (drawsNamed "A", formAsked) with env := (newProcess withHarmony).env }
    (nextYearDraws, formAsked)

def sampleEdge : EdgeStamp where
  edgeId := "E"
  createdAt := sampleTime

def readPair (process : CastProcess) (sourceCastId targetCastId : String) : Except PyError (CastRecord × CastRecord) := do
  let source ← process.readCast sourceCastId
  let target ← process.readCast targetCastId
  return (source, target)

theorem read_pair_ok (process : CastProcess) (sourceCastId targetCastId : String) (pair : CastRecord × CastRecord)
    (reads : readPair process sourceCastId targetCastId = .ok pair) :
    process.readCast sourceCastId = .ok pair.1 ∧ process.readCast targetCastId = .ok pair.2 := by
  obtain ⟨source, readsSource, reads⟩ := (bind_ok _ _ _).mp reads
  obtain ⟨target, readsTarget, reads⟩ := (bind_ok _ _ _).mp reads
  obtain rfl := Except.ok.inj reads
  exact ⟨readsSource, readsTarget⟩

theorem cast_twice_checked : castTwice.causalEdges.rows = [] ∧
    (readPair castTwice "A-0" "B-0").toOption.any (fun pair =>
      pair.1.Before pair.2 ∧ pair.1.vector.normalizedBasisVersion = 0 ∧
        pair.2.vector.normalizedBasisVersion = 1) = true := by
  decide +kernel

theorem cast_twice_apart : ∃ source target, castTwice.readCast "A-0" = .ok source ∧
    castTwice.readCast "B-0" = .ok target ∧ source.Before target ∧ source.vector.normalizedBasisVersion = 0 ∧
      target.vector.normalizedBasisVersion = 1 := by
  obtain ⟨pair, reads, checked⟩ := ok_where _ _ cast_twice_checked.2
  obtain ⟨readsSource, readsTarget⟩ := read_pair_ok castTwice "A-0" "B-0" pair reads
  exact ⟨pair.1, pair.2, readsSource, readsTarget, of_decide_eq_true checked⟩

theorem twice_inference_iff : castTwice.causalEdges.rows = [] ∧ ∃ source target,
    castTwice.readCast "A-0" = .ok source ∧ castTwice.readCast "B-0" = .ok target ∧
      (InfersFreely castTwice.math source target source.vector target.vector ↔
        (source.timestamp.instant < target.timestamp.instant →
          BasesAgree source target source.vector target.vector)) ∧
      ¬ Cyclic (run causalStep castTwice [.adopt (newProcess {}).env, .infer "B-0" "A-0" sampleEdge]).Joined := by
  have empty := cast_twice_checked.1
  obtain ⟨source, target, readsSource, readsTarget, -⟩ := cast_twice_apart
  have stands := (causal_inference_iff castTwice empty []).1
  rw [run_nil] at stands
  refine ⟨empty, source, target, readsSource, readsTarget, ?_, ?_⟩
  · exact stands "A-0" "B-0" source target readsSource readsTarget source.vector target.vector .same .same
  · exact (causal_inference_iff castTwice empty _).2

theorem registration_breaks_inference : AspectsRegistered {} withHarmony ∧ ∃ source target,
    castTwice.readCast "A-0" = .ok source ∧ castTwice.readCast "B-0" = .ok target ∧
      castTwice.toolInferCausalEdge "A-0" "B-0" sampleEdge =
        (.error (.valueError "incompatible basis versions: left=v0 right=v1; upsample explicitly first"), castTwice) ∧
      ¬ InfersFreely castTwice.math source target source.vector target.vector := by
  obtain ⟨source, target, readsSource, readsTarget, before, first, second⟩ := cast_twice_apart
  have other : source.vector.normalizedBasisVersion ≠ target.vector.normalizedBasisVersion := by
    rw [first, second]
    decide
  have text : basisMismatch source.vector target.vector =
      .valueError "incompatible basis versions: left=v0 right=v1; upsample explicitly first" := by
    rw [basisMismatch, first, second]
    decide
  have raises := castTwice.tool_infer_mismatch "A-0" "B-0" source target sampleEdge readsSource readsTarget before other
  rw [text] at raises
  refine ⟨harmony_registered, source, target, readsSource, readsTarget, raises, ?_⟩
  rintro ⟨total, -⟩
  obtain ⟨inferred, ok⟩ := total sampleEdge
  rw [infer_other castTwice.math source target sampleEdge before other] at ok
  contradiction

end Vermyth
