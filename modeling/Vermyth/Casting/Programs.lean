import Vermyth.Casting.Lineage
import Vermyth.Engine.ExecutionResults

set_option autoImplicit false

namespace Vermyth

open Foundation

def ProgramStore.writeProgram (store : ProgramStore) (program : SemanticProgram) : ProgramStore :=
  { store with programs := Function.update store.programs program.programId (some program) }

-- The payload as model_validate takes or refuses it.
def toolCompileProgram (payload : Except PyError SemanticProgram) (store : ProgramStore) :
    Except PyError SemanticProgram × ProgramStore :=
  match payload with
  | .error raised => (.error raised, store)
  | .ok program =>
      match compileProgram program with
      | .error raised => (.error raised, store)
      | .ok compiled => (.ok compiled, store.writeProgram compiled)

structure ProgramProcess where
  casting : CastProcess
  stored : ProgramStore

inductive ProgramCall where
  | compile (payload : Except PyError SemanticProgram)
  | execute (engine : Engine) (runtime : Runtime) (programId : String)

def programStep (process : ProgramProcess) : ProgramCall → ProgramProcess
  | .compile payload => { process with stored := (toolCompileProgram payload process.stored).2 }
  | .execute engine runtime programId =>
      { process with stored := (toolExecuteProgram engine runtime programId process.stored).2 }

def CastProcess.Retrievable (process : CastProcess) (castId : String) : Prop :=
  ∃ cast, process.readCast castId = .ok cast ∧
    ∀ lineage ∈ cast.lineage, ∃ parent, process.readCast lineage.parentCastId = .ok parent

def ResultsRetrievable (process : ProgramProcess) : Prop :=
  ∀ executionId execution, process.stored.executions executionId = some execution →
    ∀ nodeId castId, castId ∈ execution.nodeResults.lookup nodeId → process.casting.Retrievable castId

def RecordsCast (process : ProgramProcess) : ProgramCall → Prop
  | .compile _ => False
  | .execute engine runtime programId =>
      ∃ program compiled, process.stored.programs programId = some program ∧ compileProgram program = .ok compiled ∧
        Finishes engine runtime compiled ∧ LeavesResult engine compiled runtime.branchId

def DrawsNewIds (casting : CastProcess) : ProgramCall → Prop
  | .compile _ => True
  | .execute engine _ _ => ∀ castId, Hands engine castId → ¬ casting.casts.Has castId

theorem compile_keeps_executions (payload : Except PyError SemanticProgram) (store : ProgramStore) :
    (toolCompileProgram payload store).2.executions = store.executions := by
  cases payload with
  | error raised => rfl
  | ok program =>
      simp only [toolCompileProgram]
      cases compileProgram program <;> rfl

theorem execute_tool_cases (engine : Engine) (runtime : Runtime) (programId : String) (store : ProgramStore) :
    (toolExecuteProgram engine runtime programId store).2 = store ∨
      ∃ program execution receipt, store.programs programId = some program ∧
        executeProgram engine runtime program = .ok (execution, receipt) ∧
        (toolExecuteProgram engine runtime programId store).2.executions =
          Function.update store.executions execution.executionId (some execution) := by
  cases found : store.programs programId with
  | none =>
      left
      simp only [toolExecuteProgram, found]
  | some program =>
      cases returned : executeProgram engine runtime program with
      | error raised =>
          left
          simp only [toolExecuteProgram, found, returned]
      | ok out =>
          obtain ⟨execution, receipt⟩ := out
          right
          refine ⟨program, execution, receipt, rfl, returned, ?_⟩
          simp only [toolExecuteProgram, found, returned]
          rfl

theorem step_casting (process : ProgramProcess) (call : ProgramCall) :
    (programStep process call).casting = process.casting := by
  cases call <;> rfl

theorem run_casting (start : ProgramProcess) (calls : List ProgramCall) :
    (run programStep start calls).casting = start.casting := by
  apply run_invariant fun process : ProgramProcess => process.casting = start.casting
  · rfl
  · intro before call _ same
    rw [step_casting, same]

theorem step_keeps_results (process : ProgramProcess) (call : ProgramCall) (idle : ¬ RecordsCast process call)
    (kept : ResultsRetrievable process) : ResultsRetrievable (programStep process call) := by
  intro executionId stored held nodeId castId listed
  rw [step_casting]
  cases call with
  | compile payload =>
      simp only [programStep, compile_keeps_executions] at held
      exact kept executionId stored held nodeId castId listed
  | execute engine runtime programId =>
      rcases execute_tool_cases engine runtime programId process.stored with same | wrote
      · simp only [programStep, same] at held
        exact kept executionId stored held nodeId castId listed
      · obtain ⟨program, execution, receipt, found, returned, after⟩ := wrote
        simp only [programStep, after] at held
        by_cases isNew : executionId = execution.executionId
        · rw [isNew, Function.update_self] at held
          obtain rfl := Option.some.inj held
          obtain ⟨compiled, accepted⟩ := executed_compiles engine runtime program _ returned
          have finishes := (finishes_iff engine runtime program compiled accepted).mp ⟨_, returned⟩
          have leaves := (execution_leaves_result engine runtime program compiled accepted execution receipt
            returned).mp ⟨nodeId, castId, listed⟩
          exact absurd ⟨program, compiled, found, accepted, finishes, leaves⟩ idle
        · rw [Function.update_of_ne isNew] at held
          exact kept executionId stored held nodeId castId listed

theorem unstored_unreadable (process : CastProcess) (castId : String) (absent : ¬ process.casts.Has castId) :
    ¬ process.Retrievable castId := by
  rintro ⟨cast, reads, _⟩
  obtain ⟨row, member, isKey, _⟩ := process.read_cast_ok castId cast reads
  exact absent (isKey ▸ List.mem_map_of_mem member)

theorem step_loses_results (process : ProgramProcess) (call : ProgramCall) (records : RecordsCast process call)
    (new : DrawsNewIds process.casting call) : ¬ ResultsRetrievable (programStep process call) := by
  cases call with
  | compile payload => exact records.elim
  | execute engine runtime programId =>
      obtain ⟨program, compiled, found, accepted, finishes, leaves⟩ := records
      obtain ⟨⟨execution, receipt⟩, returned⟩ := (finishes_iff engine runtime program compiled accepted).mpr finishes
      obtain ⟨nodeId, castId, listed⟩ :=
        (execution_leaves_result engine runtime program compiled accepted execution receipt returned).mpr leaves
      have handed := execution_results_handed engine runtime program compiled accepted execution receipt returned
        nodeId castId listed
      have held : (programStep process (.execute engine runtime programId)).stored.executions execution.executionId =
          some execution := by
        simp [programStep, toolExecuteProgram, found, returned, ProgramStore.writeExecution,
          ProgramStore.writeExecutionReceipt]
      intro kept
      exact unstored_unreadable process.casting castId (new castId handed)
        (kept execution.executionId execution held nodeId castId listed)

theorem results_retrievable_iff (start : ProgramProcess) (calls : List ProgramCall)
    (initially : ResultsRetrievable start) :
    ((∀ before call, Taken programStep start calls before call → ¬ RecordsCast before call) →
      ∀ reached, reached <+: calls → ResultsRetrievable (run programStep start reached)) ∧
    ((∀ call ∈ calls, DrawsNewIds start.casting call) →
      (∀ reached, reached <+: calls → ResultsRetrievable (run programStep start reached)) →
        ∀ before call, Taken programStep start calls before call → ¬ RecordsCast before call) := by
  constructor
  · rintro idle reached ⟨rest, rfl⟩
    apply run_invariant ResultsRetrievable start reached initially
    intro before call taken kept
    exact step_keeps_results before call (idle before call (taken_front start reached rest before call taken)) kept
  · rintro new kept before call ⟨pre, post, rfl, rfl⟩ records
    have drawn := new call (List.mem_append_right _ List.mem_cons_self)
    rw [← run_casting start pre] at drawn
    have after := kept (pre ++ [call]) ⟨post, by simp⟩
    rw [run_concat] at after
    exact step_loses_results _ call records drawn after

def oneCast : SemanticProgram where
  programId := "one-cast"
  nodes := [castOf "a" []]
  entryNodeIds := ["a"]
  nodesNonempty := by simp
  entriesNonempty := entered
  distinctIds := by decide
  entriesKnown := by decide

def newPrograms : ProgramProcess where
  casting := newProcess {}
  stored := { programs := fun _ => none, executions := fun _ => none, receipts := fun _ => none }

def compileAndExecute : List ProgramCall :=
  [.compile (.ok oneCast), .execute agreeing sampleRuntime "one-cast"]

theorem new_programs_retrievable : ResultsRetrievable newPrograms := by
  intro executionId execution held
  cases held

theorem results_retrievable_iff_one_cast : ResultsRetrievable newPrograms ∧
    (∀ call ∈ compileAndExecute, DrawsNewIds newPrograms.casting call) ∧
    ((∀ reached, reached <+: compileAndExecute → ResultsRetrievable (run programStep newPrograms reached)) →
      ∀ before call, Taken programStep newPrograms compileAndExecute before call → ¬ RecordsCast before call) := by
  have new : ∀ call ∈ compileAndExecute, DrawsNewIds newPrograms.casting call := by
    intro call member
    cases call with
    | compile payload => trivial
    | execute engine runtime programId =>
        intro castId _ stored
        cases stored
  exact ⟨new_programs_retrievable, new,
    (results_retrievable_iff newPrograms compileAndExecute new_programs_retrievable).2 new⟩

theorem executed_cast_unreadable : ResultsRetrievable newPrograms ∧
    ¬ ResultsRetrievable (run programStep newPrograms compileAndExecute) := by
  refine ⟨new_programs_retrievable, ?_⟩
  intro kept
  have named : (((run programStep newPrograms compileAndExecute).stored.executions "execution").bind
      fun execution => execution.nodeResults.lookup "a") = some "cast-a" := by
    decide +kernel
  obtain ⟨execution, held, listed⟩ := Option.bind_eq_some_iff.mp named
  refine unstored_unreadable _ "cast-a" ?_ (kept "execution" execution held "a" "cast-a" listed)
  rw [run_casting]
  decide +kernel

end Vermyth
