import Vermyth.Engine.Containment

set_option autoImplicit false

namespace Vermyth

open Foundation

def Started (execution : ProgramExecution) (receipt : ExecutionReceipt) (nodeId : String) : Prop :=
  nodeId ∈ execution.nodeResults ∨ ∃ entry ∈ receipt.nodes, entry.nodeId = nodeId ∧
    (entry.status = .ok ∨ entry.status = .failed)

def SemanticProgram.Entered (program : SemanticProgram) (nodeId : String) : Prop :=
  ReachableFrom program.Edge program.entryNodeIds nodeId

def EntryGoverned (program : SemanticProgram) (execution : ProgramExecution) (receipt : ExecutionReceipt) : Prop :=
  ∀ nodeId, Started execution receipt nodeId → program.Entered nodeId

section Run

variable (engine : Engine) (program : SemanticProgram) (branchId : String) (acyclic : program.Acyclic)
  (seen : List Visit) (run : RunOf engine program branchId seen)

include acyclic run

theorem run_started (execution : ProgramExecution) (receipt : ExecutionReceipt) (runtime : Runtime)
    (executionEq : execution = executionOf runtime program (tables seen))
    (nodesEq : receipt.nodes = (tables seen).receiptNodes) (nodeId : String) :
    Started execution receipt nodeId ↔ ∃ visit ∈ seen, visit.nodeId = nodeId ∧
      (visit.outcome.status? = some .ok ∨ visit.outcome.status? = some .failed) := by
  have executed := run_executed engine program branchId acyclic seen run execution receipt runtime executionEq
    nodesEq nodeId
  have failed := run_entry engine program branchId seen run nodeId .failed (by decide)
  rw [← nodesEq] at failed
  have split : Started execution receipt nodeId ↔ Executed execution receipt nodeId ∨
      ∃ entry ∈ receipt.nodes, entry.nodeId = nodeId ∧ entry.status = .failed := by
    simp only [Started, Executed, or_assoc, ← exists_or, ← and_or_left]
  rw [split, executed, failed, ← exists_or]
  simp only [and_or_left]

end Run

theorem sources_enter (program : SemanticProgram) (acyclic : program.Acyclic)
    (declared : ∀ nodeId ∈ program.nodeIds, Source program.Edge nodeId → nodeId ∈ program.entryNodeIds) :
    ∀ nodeId ∈ program.nodeIds, program.Entered nodeId := by
  intro nodeId known
  refine topo_induction program.order acyclic.sorted program.Entered ?_ nodeId
    (acyclic.complete.mem_iff.mpr known)
  intro nodeId member ih
  by_cases first : Source program.Edge nodeId
  · exact ⟨nodeId, declared nodeId (acyclic.complete.mem_iff.mp member) first, Relation.ReflTransGen.refl⟩
  · obtain ⟨source, link⟩ := not_forall_not.mp first
    exact reachable_successor program.entryNodeIds source nodeId (ih source link) link

-- The executor never looks at the entries. A node they do not reach runs only
-- if some cast they do not reach starts without predecessor results.
theorem entry_governed (engine : Engine) (runtime : Runtime) (program compiled : SemanticProgram)
    (accepted : compileProgram program = .ok compiled) (execution : ProgramExecution) (receipt : ExecutionReceipt)
    (returned : executeProgram engine runtime program = .ok (execution, receipt)) :
    (EntryGoverned compiled execution receipt ↔
      ∀ node state, ComesTo engine compiled runtime.branchId node state → ¬ compiled.Entered node.nodeId →
        predResults compiled node state = [] → ¬ StartsUnfed node state) ∧
    ((∀ nodeId ∈ compiled.nodeIds, Source compiled.Edge nodeId → nodeId ∈ compiled.entryNodeIds) →
      EntryGoverned compiled execution receipt) := by
  have acyclic := compiled_acyclic program compiled accepted
  obtain ⟨seen, run, executionEq, nodesEq, _⟩ :=
    accepted_run engine runtime program compiled accepted execution receipt returned
  have started := run_started engine compiled runtime.branchId acyclic seen run execution receipt runtime
    executionEq nodesEq
  have unfed := run_unfed engine compiled runtime.branchId acyclic seen run
  have outside : ∀ node source, ¬ compiled.Entered node → compiled.Edge source node → ¬ compiled.Entered source :=
    fun node source out link inside => out (reachable_successor compiled.entryNodeIds source node inside link)
  have observed_started : ∀ node state (outcome : Outcome), predResults compiled node state = [] →
      Observed engine runtime.branchId node (predResults compiled node state)
        (decide (node.nodeId ∈ state.blocked)) outcome →
      ((outcome.status? = some .ok ∨ outcome.status? = some .failed) ↔ StartsUnfed node state) := by
    intro node state outcome empty observed
    obtain ⟨ok, failed⟩ := observed_unfed engine compiled runtime.branchId node state outcome empty observed
    rw [ok, failed, ← and_or_left, and_iff_left (Classical.em _)]
  refine ⟨⟨?_, ?_⟩, ?_⟩
  · intro governed node state comes out empty starts
    obtain ⟨visit, member, sameNode, _, observed⟩ :=
      comes_to_visit engine compiled runtime.branchId acyclic seen run node state comes
    have status := (observed_started node state visit.outcome empty observed).mpr starts
    exact out (governed node.nodeId
      ((started node.nodeId).mpr ⟨visit, member, congrArg CastNode.nodeId sameNode, status⟩))
  · intro quiet nodeId isStarted
    -- induction down the order: outside the entries' reach nothing starts
    have silent : ∀ nodeId ∈ compiled.order, ¬ compiled.Entered nodeId →
        ¬ ∃ visit ∈ seen, visit.nodeId = nodeId ∧
          (visit.outcome.status? = some .ok ∨ visit.outcome.status? = some .failed) := by
      apply topo_induction compiled.order acyclic.sorted
      rintro nodeId known ih out ⟨visit, member, sameId, status⟩
      obtain ⟨state, comes, results, observed⟩ :=
        visit_comes_to engine compiled runtime.branchId acyclic seen run visit member
      have isId : visit.node.nodeId = nodeId := sameId
      have empty : predResults compiled visit.node state = [] := by
        rw [results]
        apply unfed visit.node
        rintro source link ⟨other, inSeen, otherId, ok⟩
        rw [isId] at link
        exact ih source link (outside nodeId source out link) ⟨other, inSeen, otherId, Or.inl ok⟩
      have starts := (observed_started visit.node state visit.outcome empty observed).mp status
      exact quiet visit.node state comes (isId ▸ out) empty starts
    obtain ⟨visit, member, sameId, status⟩ := (started nodeId).mp isStarted
    have known : nodeId ∈ compiled.order := by
      rw [acyclic.complete.mem_iff, ← sameId]
      exact List.mem_map_of_mem (run_node engine compiled runtime.branchId seen run.toVisitsOf visit member)
    by_contra out
    exact silent nodeId known out ⟨visit, member, sameId, status⟩
  · intro declared nodeId isStarted
    obtain ⟨visit, member, sameId, _⟩ := (started nodeId).mp isStarted
    have known : nodeId ∈ compiled.nodeIds := by
      rw [← sameId]
      exact List.mem_map_of_mem (run_node engine compiled runtime.branchId seen run.toVisitsOf visit member)
    exact sources_enter compiled acyclic declared nodeId known

def strayCast : SemanticProgram where
  programId := "stray-cast"
  nodes := [castOf "a" [], castOf "z" []]
  entryNodeIds := ["a"]
  nodesNonempty := by simp
  entriesNonempty := entered
  distinctIds := by decide
  entriesKnown := by decide

theorem stray_cast_run : ∃ execution receipt,
    executeProgram agreeing sampleRuntime strayCast = .ok (execution, receipt) ∧
      receipt.nodes.map NodeExecutionReceipt.entry = [("a", .ok), ("z", .ok)] := by
  have ran : (executeProgram agreeing sampleRuntime strayCast).map
      (fun out => out.2.nodes.map NodeExecutionReceipt.entry) = .ok [("a", .ok), ("z", .ok)] := by
    decide +kernel
  cases returned : executeProgram agreeing sampleRuntime strayCast with
  | error raised => simp [returned, Except.map] at ran
  | ok out =>
      simp only [returned, Except.map, Except.ok.injEq] at ran
      exact ⟨out.1, out.2, rfl, ran⟩

theorem entry_governed_stray_cast : ∃ execution receipt,
    executeProgram agreeing sampleRuntime strayCast = .ok (execution, receipt) ∧
      (EntryGoverned { strayCast with status := .compiled } execution receipt ↔
        ∀ node state, ComesTo agreeing { strayCast with status := .compiled } sampleRuntime.branchId node state →
          ¬ SemanticProgram.Entered { strayCast with status := .compiled } node.nodeId →
          predResults { strayCast with status := .compiled } node state = [] → ¬ StartsUnfed node state) := by
  obtain ⟨execution, receipt, returned, _⟩ := stray_cast_run
  exact ⟨execution, receipt, returned, (entry_governed agreeing sampleRuntime strayCast _
    (compile_of_ok strayCast (by decide +kernel)) execution receipt returned).1⟩

theorem stray_cast_runs :
    compileProgram strayCast = .ok { strayCast with status := .compiled } ∧
      ∃ execution receipt, executeProgram agreeing sampleRuntime strayCast = .ok (execution, receipt) ∧
        ¬ EntryGoverned { strayCast with status := .compiled } execution receipt := by
  refine ⟨compile_of_ok strayCast (by decide +kernel), ?_⟩
  obtain ⟨execution, receipt, returned, entries⟩ := stray_cast_run
  refine ⟨execution, receipt, returned, ?_⟩
  intro governed
  have listed : ("z", NodeExecutionStatus.ok) ∈ receipt.nodes.map NodeExecutionReceipt.entry := by
    rw [entries]
    decide
  obtain ⟨entry, inReceipt, pairEq⟩ := List.mem_map.mp listed
  obtain ⟨sameId, ok⟩ := Prod.mk.inj pairEq
  obtain ⟨source, isEntry, path⟩ := governed "z" (Or.inr ⟨entry, inReceipt, sameId, Or.inl ok⟩)
  rcases path.cases_tail with same | ⟨last, _, link⟩
  · subst same
    exact absurd isEntry (by decide)
  · have none : last ∈ ([] : List String) := (mem_predecessors strayCast last "z").mpr link
    exact absurd none List.not_mem_nil

end Vermyth
