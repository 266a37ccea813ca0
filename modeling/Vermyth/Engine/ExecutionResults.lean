import Vermyth.Engine.Totality

set_option autoImplicit false

namespace Vermyth

open Foundation

def LeavesResult (engine : Engine) (program : SemanticProgram) (branchId : String) : Prop :=
  ∃ node state, ComesTo engine program branchId node state ∧ StartsUnfed node state ∧ Succeeds engine node

def Finishes (engine : Engine) (runtime : Runtime) (program : SemanticProgram) : Prop :=
  ¬ Refused runtime program ∧ SignerLoads runtime ∧
    ∀ node state, ComesTo engine program runtime.branchId node state → node.nodeId ∉ state.blocked →
      Evaluates engine node (predResults program node state)

def Hands (engine : Engine) (castId : String) : Prop :=
  ∃ node attempt base, castNode engine node attempt = .ok base ∧ base.castId = castId

section Run

variable (engine : Engine) (program : SemanticProgram) (branchId : String) (acyclic : program.Acyclic)
  (seen : List Visit) (run : RunOf engine program branchId seen)

include acyclic run

theorem visit_ordered (visit : Visit) (member : visit ∈ seen) : visit.nodeId ∈ program.order :=
  acyclic.complete.mem_iff.mpr
    (List.mem_map_of_mem (run_node engine program branchId seen run.toVisitsOf visit member))

theorem run_results_handed (nodeId castId : String) (listed : castId ∈ (tables seen).nodeResults.lookup nodeId) :
    Hands engine castId := by
  have handed : ∀ nodeId ∈ program.order, ∀ castId ∈ (tables seen).nodeResults.lookup nodeId,
      Hands engine castId := by
    apply topo_induction program.order acyclic.sorted
    intro nodeId _ ih castId listed
    obtain ⟨visit, member, rfl, result, found, rfl⟩ :=
      (run_has_result engine program branchId acyclic seen run nodeId castId).mp listed
    obtain ⟨state, comes, _, observed⟩ := visit_comes_to engine program branchId acyclic seen run visit member
    by_cases isMerge : visit.node.nodeType = .merge
    · obtain ⟨source, link, before⟩ :=
        run_merged_from engine program branchId acyclic seen run visit.node comes.1 isMerge result.castId listed
      exact ih source link result.castId before
    · generalize visit.outcome = outcome at observed found
      generalize decide (visit.nodeId ∈ state.blocked) = isBlocked at observed
      cases observed with
      | merged pre merged evaluated passed type => exact absurd type isMerge
      | ran pre post base evaluated passed type succeeded =>
          obtain ⟨attempt, cast⟩ := retry_value _ _ base succeeded
          refine ⟨visit.node, attempt, base, cast, ?_⟩
          simp only [Outcome.result?, Option.some.injEq] at found
          rw [← found, withParent]
          split <;> rfl
      | _ => cases found
  obtain ⟨visit, member, rfl, _⟩ :=
    (run_has_result engine program branchId acyclic seen run nodeId castId).mp listed
  exact handed visit.nodeId (visit_ordered engine program branchId acyclic seen run visit member) castId listed

theorem run_idle (idle : ¬ LeavesResult engine program branchId) :
    ∀ nodeId ∈ program.order, ¬ ∃ visit ∈ seen, visit.nodeId = nodeId ∧ visit.outcome.status? = some .ok := by
  apply topo_induction program.order acyclic.sorted
  rintro nodeId _ ih ⟨visit, member, rfl, ok⟩
  obtain ⟨state, comes, results, observed⟩ := visit_comes_to engine program branchId acyclic seen run visit member
  have unfed : predResults program visit.node state = [] := by
    rw [results]
    exact run_unfed engine program branchId acyclic seen run visit.node ih
  have starts := (observed_unfed engine program branchId visit.node state visit.outcome unfed observed).1.mp ok
  exact idle ⟨visit.node, state, comes, starts⟩

theorem run_leaves_result :
    (∃ nodeId castId, castId ∈ (tables seen).nodeResults.lookup nodeId) ↔ LeavesResult engine program branchId := by
  constructor
  · rintro ⟨nodeId, castId, listed⟩
    by_contra idle
    obtain ⟨visit, member, sameId, result, found, _⟩ :=
      (run_has_result engine program branchId acyclic seen run nodeId castId).mp listed
    have ordered := visit_ordered engine program branchId acyclic seen run visit member
    have ok := run_result_ok engine program branchId acyclic seen run visit member result found
    exact run_idle engine program branchId acyclic seen run idle visit.nodeId ordered ⟨visit, member, rfl, ok⟩
  · rintro ⟨node, state, comes, starts⟩
    by_contra none
    have absent : ∀ nodeId, (tables seen).resultsByNode nodeId = Option.none := by
      intro nodeId
      cases held : (tables seen).resultsByNode nodeId with
      | none => rfl
      | some result =>
          refine absurd ⟨nodeId, result.castId, ?_⟩ none
          rw [tables_node_results, held]
          rfl
    obtain ⟨visit, member, sameNode, results, observed⟩ :=
      comes_to_visit engine program branchId acyclic seen run node state comes
    have unfed : predResults program node state = [] := by
      rw [results, predResults, List.filterMap_eq_nil_iff]
      exact fun source _ => absent source
    have ok := (observed_unfed engine program branchId node state visit.outcome unfed observed).1.mpr starts
    have noGate : node.nodeType ≠ .gate := by
      intro isGate
      have isCast := starts.1.1
      rw [isGate] at isCast
      contradiction
    obtain ⟨result, found⟩ := Option.isSome_iff_exists.mp
      ((observed_result engine branchId node _ _ visit.outcome observed).mpr ⟨noGate, ok⟩)
    have held := run_result engine program branchId acyclic seen run visit member
    rw [absent, found] at held
    contradiction

end Run

theorem executed_compiles (engine : Engine) (runtime : Runtime) (program : SemanticProgram)
    (out : ProgramExecution × ExecutionReceipt) (returned : executeProgram engine runtime program = .ok out) :
    ∃ compiled, compileProgram program = .ok compiled := by
  by_cases already : program.status = .compiled
  · simp only [executeProgram, compiledProgram, already, if_true] at returned
    split at returned
    · contradiction
    · cases linked : linkNodes program.nodeIds (fun _ succ => .keyError succ) program.nodes (fun _ => []) with
      | error raised => simp [linked] at returned
      | ok table =>
          have closed : program.Closed := link_nodes_ok _ _ _ _ _ linked
          have isTable : table = program.predecessors :=
            Except.ok.inj (linked.symm.trans (link_program program closed _))
          rcases topological_order_cases program closed with cyclic | ⟨_, acyclic⟩
          · simp [linked, isTable, cyclic] at returned
          · exact ⟨_, compile_program_complete program acyclic⟩
  · cases compiled : compileProgram program with
    | ok result => exact ⟨result, rfl⟩
    | error raised => simp [executeProgram, compiledProgram, if_neg already, compiled] at returned

section Accepted

variable (engine : Engine) (runtime : Runtime) (program compiled : SemanticProgram)
  (accepted : compileProgram program = .ok compiled)

include accepted

theorem finishes_iff : (∃ out, executeProgram engine runtime program = .ok out) ↔ Finishes engine runtime compiled := by
  have acyclic := compiled_acyclic program compiled accepted
  by_cases refused : Refused runtime compiled
  · refine iff_of_false ?_ fun finishes => finishes.1 refused
    rintro ⟨out, returned⟩
    rw [execute_accepted engine runtime program compiled accepted,
      execute_program_eq engine runtime compiled acyclic (compiled_status program compiled accepted)] at returned
    unfold Refused at refused
    rw [if_pos refused] at returned
    contradiction
  · rw [execution_returns engine runtime program compiled accepted refused, Finishes,
      node_loop_ok engine compiled runtime.branchId acyclic]
    exact (and_iff_right refused).symm

variable (execution : ProgramExecution) (receipt : ExecutionReceipt)
  (returned : executeProgram engine runtime program = .ok (execution, receipt))

include returned

theorem execution_leaves_result : (∃ nodeId castId, castId ∈ execution.nodeResults.lookup nodeId) ↔
    LeavesResult engine compiled runtime.branchId := by
  obtain ⟨seen, run, rfl, _⟩ := accepted_run engine runtime program compiled accepted execution receipt returned
  exact run_leaves_result engine compiled runtime.branchId (compiled_acyclic program compiled accepted) seen run

theorem execution_results_handed (nodeId castId : String) (listed : castId ∈ execution.nodeResults.lookup nodeId) :
    Hands engine castId := by
  obtain ⟨seen, run, rfl, _⟩ := accepted_run engine runtime program compiled accepted execution receipt returned
  exact run_results_handed engine compiled runtime.branchId (compiled_acyclic program compiled accepted) seen run
    nodeId castId listed

end Accepted

end Vermyth
