import Vermyth.Engine.Totality

set_option autoImplicit false

namespace Vermyth

open Foundation

def quarantined : List EffectType := [.write, .exec, .network]

structure BanishmentSpec where
  defaultRollback : RollbackStrategy := .compensate
  strict : Bool := false
  quarantineEffectTypes : List EffectType := quarantined

def banishNode (ban : BanishmentSpec) (node : CastNode) : CastNode :=
  let needs := node.effects.any fun effect => effect.effectType ∈ ban.quarantineEffectTypes
  if needs && lacksRollback node.rollback then { node with rollback := some ban.defaultRollback } else node

theorem banish_node_blind {β : Type} (ban : BanishmentSpec) (view : CastNode → β)
    (blind : ∀ node rollback, view { node with rollback := rollback } = view node) (node : CastNode) :
    view (banishNode ban node) = view node := by
  rw [banishNode]
  split_ifs
  · exact blind node _
  · rfl

theorem banish_node_id (ban : BanishmentSpec) (node : CastNode) : (banishNode ban node).nodeId = node.nodeId :=
  banish_node_blind ban CastNode.nodeId (fun _ _ => rfl) node

theorem banish_node_successors (ban : BanishmentSpec) (node : CastNode) :
    (banishNode ban node).successors = node.successors :=
  banish_node_blind ban CastNode.successors (fun _ _ => rfl) node

theorem banish_node_ids (ban : BanishmentSpec) (nodes : List CastNode) :
    (nodes.map (banishNode ban)).map CastNode.nodeId = nodes.map CastNode.nodeId := by
  rw [List.map_map]
  exact List.map_congr_left fun node _ => banish_node_id ban node

def applyBanishmentToProgram (program : SemanticProgram) (ban : BanishmentSpec) : SemanticProgram :=
  if ban.strict = false then program
  else
    { program with
      nodes := program.nodes.map (banishNode ban)
      nodesNonempty := fun empty => program.nodesNonempty (List.map_eq_nil_iff.mp empty)
      distinctIds := (banish_node_ids ban program.nodes).symm ▸ program.distinctIds
      entriesKnown := (banish_node_ids ban program.nodes).symm ▸ program.entriesKnown }

section Strict

variable (ban : BanishmentSpec) (strict : ban.strict = true)

include strict in
theorem banished_nodes (program : SemanticProgram) :
    (applyBanishmentToProgram program ban).nodes = program.nodes.map (banishNode ban) := by
  rw [applyBanishmentToProgram, if_neg (by rw [strict]; decide)]

include strict in
theorem banished_program (program : SemanticProgram) :
    (applyBanishmentToProgram program ban).programId = program.programId ∧
      (applyBanishmentToProgram program ban).status = program.status ∧
      (applyBanishmentToProgram program ban).entryNodeIds = program.entryNodeIds ∧
      (applyBanishmentToProgram program ban).metadata = program.metadata := by
  rw [applyBanishmentToProgram, if_neg (by rw [strict]; decide)]
  exact ⟨rfl, rfl, rfl, rfl⟩

theorem program_ext (a b : SemanticProgram) (ids : a.programId = b.programId) (statuses : a.status = b.status)
    (nodes : a.nodes = b.nodes) (entries : a.entryNodeIds = b.entryNodeIds) (metadata : a.metadata = b.metadata) :
    a = b := by
  cases a
  cases b
  simp only at ids statuses nodes entries metadata
  subst ids statuses nodes entries metadata
  rfl

section Warnings

def WantsRollback (text : String) : Prop := " without rollback strategy".toList <:+ text.toList

instance (text : String) : Decidable (WantsRollback text) := inferInstanceAs (Decidable (_ <:+ _))

def keptWarnings (warnings : List String) : List String := warnings.filter fun text => ¬ WantsRollback text

theorem effect_warning_wants (node : CastNode) (text : String) (warned : text ∈ effectWarnings node) :
    WantsRollback text := by
  obtain ⟨effect, _, rfl⟩ := List.mem_map.mp warned
  rw [WantsRollback, String.toList_append]
  exact List.suffix_append _ _

theorem kept_effect_warnings (node : CastNode) : keptWarnings (effectWarnings node) = [] := by
  rw [keptWarnings, List.filter_eq_nil_iff]
  intro text warned
  simpa using effect_warning_wants node text warned

theorem kept_warning (front ending : String) (letter : Char) (ends : ending.toList.getLast? = some letter)
    (other : letter ≠ 'y') (warned : Prop) [Decidable warned] :
    keptWarnings (if warned then [front ++ ending] else []) = if warned then [front ++ ending] else [] := by
  have kept : ¬ WantsRollback (front ++ ending) := by
    rintro ⟨start, same⟩
    have last := congrArg List.getLast? same
    rw [String.toList_append, List.getLast?_append, List.getLast?_append, ends] at last
    exact other (Option.some.inj last).symm
  split_ifs
  · rw [keptWarnings, List.filter_cons_of_pos (by simpa using kept), List.filter_nil]
  · rfl

theorem kept_append (front back : List String) : keptWarnings (front ++ back) = keptWarnings front ++ keptWarnings back :=
  List.filter_append front back

theorem kept_dead_ends (node : CastNode) : keptWarnings (deadEndWarnings node) = deadEndWarnings node := by
  rw [deadEndWarnings]
  exact kept_warning _ _ ')' rfl (by decide) _

theorem banished_dead_ends (node : CastNode) : deadEndWarnings (banishNode ban node) = deadEndWarnings node :=
  banish_node_blind ban deadEndWarnings (fun _ _ => rfl) node

variable (strategy : ban.defaultRollback ≠ .none)

include strategy

theorem banished_has_rollback (node : CastNode) (effect : Effect) (member : effect ∈ node.effects)
    (isQuarantined : effect.effectType ∈ ban.quarantineEffectTypes) :
    lacksRollback (banishNode ban node).rollback = false := by
  have needs : (node.effects.any fun effect => effect.effectType ∈ ban.quarantineEffectTypes) = true :=
    List.any_eq_true.mpr ⟨effect, member, by simpa using isQuarantined⟩
  rw [banishNode, needs, Bool.true_and]
  cases lacks : lacksRollback node.rollback with
  | false => simpa using lacks
  | true => simpa [lacksRollback] using strategy

variable (quarantine : ban.quarantineEffectTypes = quarantined)

include quarantine

theorem banished_effect_warnings (node : CastNode) : effectWarnings (banishNode ban node) = [] := by
  have sameEffects : (banishNode ban node).effects = node.effects :=
    banish_node_blind ban CastNode.effects (fun _ _ => rfl) node
  rw [effectWarnings, List.map_eq_nil_iff, List.filter_eq_nil_iff, sameEffects]
  intro effect member warned
  have isDestructive : destructive effect.effectType = true := by
    simp only [Bool.and_eq_true] at warned
    exact warned.1.1
  have isQuarantined : effect.effectType ∈ ban.quarantineEffectTypes := by
    rw [quarantine]
    cases type : effect.effectType <;> rw [type] at isDestructive <;> first | decide | contradiction
  simp [banished_has_rollback ban strategy node effect member isQuarantined] at warned

theorem banished_node_warnings (node : CastNode) :
    (validateNode (banishNode ban node)).warnings = keptWarnings (validateNode node).warnings := by
  have sameId := banish_node_id ban node
  have samePolicy : (banishNode ban node).retryPolicy = node.retryPolicy :=
    banish_node_blind ban CastNode.retryPolicy (fun _ _ => rfl) node
  have samePosts : (banishNode ban node).postconditions = node.postconditions :=
    banish_node_blind ban CastNode.postconditions (fun _ _ => rfl) node
  simp only [validateNode, banished_effect_warnings ban strategy quarantine node, sameId, samePolicy, samePosts,
    kept_append, kept_effect_warnings]
  rw [kept_warning _ _ 's' rfl (by decide), kept_warning _ _ 's' rfl (by decide)]

include strict in
theorem banished_warnings (program : SemanticProgram) :
    (validateProgram (applyBanishmentToProgram program ban)).warnings =
      keptWarnings (validateProgram program).warnings := by
  rw [validate_program_warnings, validate_program_warnings, banished_nodes ban strict, kept_append, keptWarnings,
    keptWarnings, List.filter_flatMap, List.filter_flatMap, List.flatMap_map, List.flatMap_map]
  congr 1
  · exact List.flatMap_congr fun node _ => banished_node_warnings ban strategy quarantine node
  · exact List.flatMap_congr fun node _ => (banished_dead_ends ban node).trans (kept_dead_ends node).symm

end Warnings

section Graph

include strict

theorem banished_node_ids (program : SemanticProgram) :
    (applyBanishmentToProgram program ban).nodeIds = program.nodeIds := by
  rw [SemanticProgram.nodeIds, banished_nodes ban strict]
  exact banish_node_ids ban program.nodes

theorem banished_lookup (program : SemanticProgram) (nodeId : String) :
    (applyBanishmentToProgram program ban).node? nodeId = (program.node? nodeId).map (banishNode ban) := by
  rw [SemanticProgram.node?, SemanticProgram.node?, banished_nodes ban strict, List.find?_map]
  congr 2
  funext node
  exact congrArg (fun own => own == nodeId) (banish_node_id ban node)

theorem banished_successors (program : SemanticProgram) :
    (applyBanishmentToProgram program ban).successors = program.successors := by
  funext nodeId
  rw [SemanticProgram.successors, SemanticProgram.successors, banished_lookup ban strict, Option.map_map]
  congr 2
  funext node
  exact banish_node_successors ban node

omit strict in
theorem banished_links (known : List String) (missing : CastNode → String → PyError)
    (blind : ∀ node, missing (banishNode ban node) = missing node) (nodes : List CastNode) (predecessors : Predecessors) :
    linkNodes known missing (nodes.map (banishNode ban)) predecessors = linkNodes known missing nodes predecessors := by
  induction nodes generalizing predecessors with
  | nil => rfl
  | cons node rest ih =>
      rw [List.map_cons, linkNodes, linkNodes, blind node, banish_node_id, banish_node_successors]
      split
      · rfl
      · exact ih _

theorem banished_predecessors (program : SemanticProgram) (missing : CastNode → String → PyError)
    (blind : ∀ node, missing (banishNode ban node) = missing node) :
    linkNodes (applyBanishmentToProgram program ban).nodeIds missing (applyBanishmentToProgram program ban).nodes
        (fun _ => []) = linkNodes program.nodeIds missing program.nodes fun _ => [] := by
  rw [banished_node_ids ban strict, banished_nodes ban strict, banished_links ban _ missing blind]

theorem banished_order (program : SemanticProgram) (predecessors : Predecessors) :
    topologicalOrder (applyBanishmentToProgram program ban) predecessors = topologicalOrder program predecessors := by
  rw [topologicalOrder, topologicalOrder, banished_successors ban strict, banished_node_ids ban strict,
    banished_nodes ban strict, List.length_map]

theorem banished_status (program : SemanticProgram) (status : ProgramStatus) :
    applyBanishmentToProgram { program with status := status } ban =
      { applyBanishmentToProgram program ban with status := status } := by
  obtain ⟨ids, _, entries, metadata⟩ := banished_program ban strict program
  obtain ⟨ownIds, statuses, ownEntries, ownMetadata⟩ := banished_program ban strict { program with status := status }
  apply program_ext
  · exact ownIds.trans ids.symm
  · exact statuses
  · rw [banished_nodes ban strict]
    exact (banished_nodes ban strict program).symm
  · exact ownEntries.trans entries.symm
  · exact ownMetadata.trans metadata.symm

theorem banished_compile (program : SemanticProgram) :
    compileProgram (applyBanishmentToProgram program ban) =
      (compileProgram program).map fun compiled => applyBanishmentToProgram compiled ban := by
  have links := banished_predecessors ban strict program unknownSuccessor
    (banish_node_blind ban unknownSuccessor fun _ _ => rfl)
  simp only [compileProgram, validate_program_errors, ne_eq, not_true_eq_false, if_false, links,
    banished_order ban strict]
  cases linkNodes program.nodeIds unknownSuccessor program.nodes fun _ => [] with
  | error raised => rfl
  | ok predecessors =>
      cases ordered : topologicalOrder program predecessors with
      | error raised => simp only [ordered]; rfl
      | ok order =>
          simp only [ordered]
          exact congrArg Except.ok (banished_status ban strict program .compiled).symm

theorem banished_compiled (program : SemanticProgram) :
    compiledProgram (applyBanishmentToProgram program ban) =
      (compiledProgram program).map fun compiled => applyBanishmentToProgram compiled ban := by
  rw [compiledProgram, compiledProgram, (banished_program ban strict program).2.1, banished_compile ban strict]
  split_ifs <;> rfl

end Graph

section Execution

def unworded (entry : NodeExecutionReceipt) : NodeExecutionReceipt :=
  if entry.status = .rolledBack then { entry with error := none } else entry

def ExecutionReceipt.unworded (receipt : ExecutionReceipt) : ExecutionReceipt :=
  { receipt with nodes := receipt.nodes.map Vermyth.unworded, signature := none }

def outline (result : Except PyError (ProgramExecution × ExecutionReceipt)) :
    Except PyError (ProgramExecution × ExecutionReceipt) :=
  result.map fun out => (out.1, out.2.unworded)

structure Shadows (state shadow : RunState) : Prop where
  blocked : shadow.blocked = state.blocked
  results : shadow.resultsByNode = state.resultsByNode
  status : shadow.status = state.status
  nodeResults : shadow.nodeResults = state.nodeResults
  queue : shadow.rollbackQueue = state.rollbackQueue.map (banishNode ban)
  receipts : shadow.receiptNodes.map unworded = state.receiptNodes.map unworded

theorem rollback_unworded (node : CastNode) :
    unworded (rollbackReceipt (banishNode ban node)) = unworded (rollbackReceipt node) :=
  banish_node_blind ban (fun node => unworded (rollbackReceipt node)) (fun _ _ => rfl) node

theorem banished_record (state shadow : RunState) (same : Shadows ban state shadow) (node : CastNode) (outcome : Outcome) :
    Shadows ban (recordVisit state ⟨node, outcome⟩) (recordVisit shadow ⟨banishNode ban node, outcome⟩) := by
  obtain ⟨blocked, results, status, nodeResults, queue, receipts⟩ := same
  have sameId := banish_node_id ban node
  have sameNext := banish_node_successors ban node
  have sameEffects : (banishNode ban node).effects = node.effects :=
    banish_node_blind ban CastNode.effects (fun _ _ => rfl) node
  cases outcome with
  | blocked => exact ⟨blocked, results, status, nodeResults, queue, receipts⟩
  | nothingToMerge => exact ⟨blocked, results, status, nodeResults, queue, receipts⟩
  | preconditionFailed pre =>
      refine ⟨?_, results, status, nodeResults, queue, ?_⟩
      · simp only [recordVisit, skipNode, blocked, sameNext]
      · simp only [recordVisit, skipNode, skipReceipt, List.map_append, receipts, sameId, sameEffects]
  | gate pre ok =>
      refine ⟨?_, results, status, nodeResults, queue, ?_⟩
      · simp only [recordVisit, blocked, sameNext]
      · simp only [recordVisit, gateReceipt, List.map_append, receipts, sameId, sameEffects]
  | merged pre result =>
      refine ⟨blocked, ?_, status, ?_, queue, ?_⟩
      · simp only [recordVisit, results, sameId]
      · simp only [recordVisit, nodeResults, sameId]
      · simp only [recordVisit, mergeReceipt, List.map_append, receipts, sameId, sameEffects]
  | failed pre retries error =>
      refine ⟨blocked, results, rfl, nodeResults, queue, ?_⟩
      simp only [recordVisit, failNode, failReceipt, List.map_append, receipts, sameId, sameEffects, queue,
        ← List.map_reverse, List.map_map]
      congr 1
      exact List.map_congr_left fun prev _ => rollback_unworded ban prev
  | ran pre post retries result =>
      refine ⟨blocked, ?_, status, ?_, ?_, ?_⟩
      · simp only [recordVisit, finishNode, results, sameId]
      · simp only [recordVisit, finishNode, nodeResults, sameId]
      · simp only [recordVisit, finishNode, queue, List.map_append, List.map_cons, List.map_nil]
      · simp only [recordVisit, finishNode, okReceipt, List.map_append, receipts, sameId, sameEffects]

theorem banished_observed (engine : Engine) (branchId : String) (node : CastNode) (isBlocked : Bool)
    (predResults : List CastResult) :
    observe engine branchId (banishNode ban node) isBlocked predResults =
      observe engine branchId node isBlocked predResults :=
  banish_node_blind ban (fun node => observe engine branchId node isBlocked predResults) (fun _ _ => rfl) node

include strict

theorem banished_step (engine : Engine) (program : SemanticProgram) (predecessors : Predecessors) (branchId : String)
    (state shadow : RunState) (nodeId : String) (same : Shadows ban state shadow) :
    SameFlow (Shadows ban) (processNode engine program predecessors branchId state nodeId)
      (processNode engine (applyBanishmentToProgram program ban) predecessors branchId shadow nodeId) := by
  have lookup := banished_lookup ban strict program nodeId
  cases found : program.node? nodeId with
  | none =>
      rw [found, Option.map_none] at lookup
      by_cases isBlocked : nodeId ∈ state.blocked
      · rw [processNode, processNode, same.blocked, if_pos isBlocked, if_pos isBlocked]
        exact .yield state shadow same
      · simp only [processNode, same.blocked, if_neg isBlocked, found, lookup]
        exact .raised _
  | some node =>
      obtain ⟨_, rfl⟩ := node_lookup_some program nodeId node found
      rw [found, Option.map_some, ← banish_node_id ban node] at lookup
      have body := process_node_eq engine (applyBanishmentToProgram program ban) predecessors branchId shadow
        (banishNode ban node) lookup
      rw [banished_observed, banish_node_id, same.blocked, same.results] at body
      rw [process_node_eq engine program predecessors branchId state node found, body]
      cases observe engine branchId node (decide (node.nodeId ∈ state.blocked))
          ((predecessors node.nodeId).filterMap state.resultsByNode) with
      | error raised => exact .raised raised
      | ok outcome =>
          have recorded := banished_record ban state shadow same node outcome
          rw [bodyOf, bodyOf, flowOf, flowOf, Visit.fails, Visit.fails]
          cases outcome.fails with
          | true => exact .done _ _ recorded
          | false => exact .yield _ _ recorded

theorem banished_sweep (engine : Engine) (program : SemanticProgram) (predecessors : Predecessors) (branchId : String)
    (order : List String) :
    SameFlow (Shadows ban) (sweep (processNode engine program predecessors branchId) order {})
      (sweep (processNode engine (applyBanishmentToProgram program ban) predecessors branchId) order {}) :=
  sweep_same (Shadows ban) _ _ (banished_step ban strict engine program predecessors branchId) order {} {}
    ⟨rfl, rfl, rfl, rfl, rfl, rfl⟩

omit strict in
theorem sign_unworded (signer : Option Signer) (receipt shadow : ExecutionReceipt)
    (same : shadow.unworded = receipt.unworded) :
    (signReceiptIfConfigured signer shadow).map ExecutionReceipt.unworded =
      (signReceiptIfConfigured signer receipt).map ExecutionReceipt.unworded := by
  cases signer with
  | none => exact congrArg Except.ok same
  | some signer =>
      rw [signReceiptIfConfigured, signReceiptIfConfigured]
      cases signer.privateKey with
      | error raised => rfl
      | ok sign =>
          have relabel (other : ExecutionReceipt) :
              ({ other with signature := some (sign other), signingKeyId := some signer.keyId } : ExecutionReceipt).unworded =
                { other.unworded with signingKeyId := some signer.keyId } := rfl
          exact congrArg Except.ok (by rw [relabel, relabel, same])

-- What execute_program returns once the node loop has left a final state.
def signedRun (runtime : Runtime) (compiled : SemanticProgram) (final : RunState) :
    Except PyError (ProgramExecution × ExecutionReceipt) :=
  match signReceiptIfConfigured runtime.signer (receiptOf runtime compiled final) with
  | .error raised => .error raised
  | .ok receipt => .ok (executionOf runtime compiled final, receipt)

theorem banished_signed (runtime : Runtime) (compiled : SemanticProgram) (final shadow : RunState)
    (same : Shadows ban final shadow) :
    outline (signedRun runtime (applyBanishmentToProgram compiled ban) shadow) =
      outline (signedRun runtime compiled final) := by
  obtain ⟨ids, _, _, metadata⟩ := banished_program ban strict compiled
  have execution : executionOf runtime (applyBanishmentToProgram compiled ban) shadow =
      executionOf runtime compiled final := by
    rw [executionOf, executionOf, ids, same.status, same.nodeResults]
  have receipt : (receiptOf runtime (applyBanishmentToProgram compiled ban) shadow).unworded =
      (receiptOf runtime compiled final).unworded := by
    simp only [receiptOf, ExecutionReceipt.unworded, arcaneProvenance, ids, metadata, same.status, same.receipts]
  have signed := sign_unworded runtime.signer _ _ receipt
  rw [signedRun, signedRun, execution]
  cases own : signReceiptIfConfigured runtime.signer (receiptOf runtime compiled final) with
  | error raised =>
      cases other : signReceiptIfConfigured runtime.signer
          (receiptOf runtime (applyBanishmentToProgram compiled ban) shadow) with
      | error alike =>
          rw [own, other] at signed
          exact congrArg Except.error (Except.error.inj signed)
      | ok receipt =>
          rw [own, other] at signed
          contradiction
  | ok receipt =>
      cases other : signReceiptIfConfigured runtime.signer
          (receiptOf runtime (applyBanishmentToProgram compiled ban) shadow) with
      | error raised =>
          rw [own, other] at signed
          contradiction
      | ok alike =>
          rw [own, other] at signed
          exact congrArg (fun receipt => Except.ok (executionOf runtime compiled final, receipt)) (Except.ok.inj signed)

omit strict in
theorem compiled_warnings (program compiled : SemanticProgram) (ok : compiledProgram program = .ok compiled) :
    (validateProgram compiled).warnings = (validateProgram program).warnings := by
  rw [compiledProgram] at ok
  split_ifs at ok
  · rw [Except.ok.inj ok]
  · rw [(compile_program_ok program compiled ok).2]
    rfl

omit strict in
theorem execute_refused (engine : Engine) (runtime : Runtime) (program : SemanticProgram)
    (refused : Refused runtime program) : ∃ raised, executeProgram engine runtime program = .error raised := by
  rw [executeProgram]
  cases compiled : compiledProgram program with
  | error raised => exact ⟨raised, rfl⟩
  | ok own =>
      rw [Refused, ← compiled_warnings program own compiled] at refused
      exact ⟨_, if_pos refused⟩

omit strict in
theorem execute_allowed (engine : Engine) (runtime : Runtime) (program : SemanticProgram)
    (allowed : ¬ Refused runtime program) :
    executeProgram engine runtime program = executeProgram engine { runtime with denyWarnings := false } program := by
  rw [executeProgram, executeProgram]
  cases compiled : compiledProgram program with
  | error raised => rfl
  | ok own =>
      rw [Refused, ← compiled_warnings program own compiled] at allowed
      simp only [if_neg allowed, Bool.false_eq_true, and_false, if_false]
      rfl

theorem banished_allowed (engine : Engine) (runtime : Runtime) (program : SemanticProgram)
    (allowed : runtime.denyWarnings = false) :
    outline (executeProgram engine runtime (applyBanishmentToProgram program ban)) =
      outline (executeProgram engine runtime program) := by
  rw [executeProgram, executeProgram, banished_compiled ban strict]
  cases compiledProgram program with
  | error raised => rfl
  | ok compiled =>
      have links := banished_predecessors ban strict compiled (fun _ succ => PyError.keyError succ) fun _ => rfl
      simp only [Except.map, allowed, Bool.false_eq_true, and_false, if_false, links, banished_order ban strict]
      cases linkNodes compiled.nodeIds (fun _ succ => PyError.keyError succ) compiled.nodes fun _ => [] with
      | error raised => rfl
      | ok predecessors =>
          cases ordered : topologicalOrder compiled predecessors with
          | error raised => simp only [ordered]
          | ok order =>
              have flows := banished_sweep ban strict engine compiled predecessors runtime.branchId order
              simp only [ordered]
              generalize sweep (processNode engine compiled predecessors runtime.branchId) order {} = flow,
                sweep (processNode engine (applyBanishmentToProgram compiled ban) predecessors runtime.branchId) order {} =
                  shadow at flows
              cases flows with
              | raised error => rfl
              | done state other same => exact banished_signed ban strict runtime compiled state other same
              | yield state other same => exact banished_signed ban strict runtime compiled state other same

end Execution

end Strict

def executedNodes (result : Except PyError (ProgramExecution × ExecutionReceipt)) : List String :=
  result.toOption.elim [] fun out =>
    (out.2.nodes.filter fun entry => entry.status = .ok ∨ entry.status = .failed).map NodeExecutionReceipt.nodeId

theorem unworded_status (entry : NodeExecutionReceipt) : (unworded entry).status = entry.status := by
  rw [unworded]
  split_ifs <;> rfl

theorem unworded_node_id (entry : NodeExecutionReceipt) : (unworded entry).nodeId = entry.nodeId := by
  rw [unworded]
  split_ifs <;> rfl

theorem executed_outline (result : Except PyError (ProgramExecution × ExecutionReceipt)) :
    executedNodes (outline result) = executedNodes result := by
  cases result with
  | error raised => rfl
  | ok out =>
      change ((out.2.nodes.map unworded).filter _).map NodeExecutionReceipt.nodeId = _
      rw [List.filter_map, List.map_map]
      simp only [Function.comp_def, unworded_status, unworded_node_id]
      rfl

theorem banish_node_idempotent (ban : BanishmentSpec) (node : CastNode) :
    banishNode ban (banishNode ban node) = banishNode ban node := by
  by_cases needs : (node.effects.any fun effect => effect.effectType ∈ ban.quarantineEffectTypes) = true ∧
      lacksRollback node.rollback = true
  · have given : banishNode ban node = { node with rollback := some ban.defaultRollback } :=
      if_pos (Bool.and_eq_true_iff.mpr needs)
    rw [given, banishNode]
    split_ifs <;> rfl
  · have same : banishNode ban node = node := if_neg fun both => needs (Bool.and_eq_true_iff.mp both)
    rw [same, same]

theorem banish_node_frame (ban : BanishmentSpec) (node : CastNode) :
    (∃ rollback, banishNode ban node = { node with rollback := rollback }) ∧
      (lacksRollback node.rollback = false → banishNode ban node = node) := by
  constructor
  · rw [banishNode]
    split_ifs
    · exact ⟨_, rfl⟩
    · exact ⟨node.rollback, rfl⟩
  · intro own
    rw [banishNode, own, Bool.and_false, if_neg Bool.false_ne_true]

structure Discharges (ban : BanishmentSpec) (program banished : SemanticProgram) : Prop where
  discharged : ∀ text ∈ (validateProgram banished).warnings, ¬ WantsRollback text
  warnings : (validateProgram banished).warnings = keptWarnings (validateProgram program).warnings
  errors : (validateProgram banished).errors = (validateProgram program).errors
  idempotent : applyBanishmentToProgram banished ban = banished
  fields : banished.programId = program.programId ∧ banished.status = program.status ∧
    banished.entryNodeIds = program.entryNodeIds ∧ banished.metadata = program.metadata
  nodes : List.Forall₂ (fun node after => (∃ rollback, after = { node with rollback := rollback }) ∧
    (lacksRollback node.rollback = false → after = node)) program.nodes banished.nodes
  ids : banished.nodeIds = program.nodeIds
  successors : banished.successors = program.successors
  predecessors : linkNodes banished.nodeIds unknownSuccessor banished.nodes (fun _ => []) =
    linkNodes program.nodeIds unknownSuccessor program.nodes fun _ => []
  order : ∀ predecessors, topologicalOrder banished predecessors = topologicalOrder program predecessors
  compiles : compileProgram banished = (compileProgram program).map fun compiled => applyBanishmentToProgram compiled ban
  executes : ∀ engine runtime, ¬ Refused runtime program →
    outline (executeProgram engine runtime banished) = outline (executeProgram engine runtime program) ∧
      executedNodes (executeProgram engine runtime banished) = executedNodes (executeProgram engine runtime program)
  refused : ∀ engine runtime, Refused runtime program →
    (∃ raised, executeProgram engine runtime program = .error raised) ∧
      (Refused runtime banished → ∃ raised, executeProgram engine runtime banished = .error raised) ∧
      (¬ Refused runtime banished → outline (executeProgram engine runtime banished) =
        outline (executeProgram engine { runtime with denyWarnings := false } program))

theorem kept_not_refused (runtime : Runtime) (program banished : SemanticProgram)
    (warnings : (validateProgram banished).warnings = keptWarnings (validateProgram program).warnings)
    (allowed : ¬ Refused runtime program) : ¬ Refused runtime banished := by
  rintro ⟨warned, denied⟩
  refine allowed ⟨?_, denied⟩
  intro none
  rw [warnings, none] at warned
  exact warned rfl

theorem banishment_discharges (ban : BanishmentSpec) (strict : ban.strict = true)
    (quarantine : ban.quarantineEffectTypes = quarantined) (strategy : ban.defaultRollback ≠ .none)
    (program : SemanticProgram) : Discharges ban program (applyBanishmentToProgram program ban) where
  discharged := by
    rw [banished_warnings ban strict strategy quarantine]
    intro text kept
    exact of_decide_eq_true (List.mem_filter.mp kept).2
  warnings := banished_warnings ban strict strategy quarantine program
  errors := (validate_program_errors _).trans (validate_program_errors program).symm
  idempotent := by
    obtain ⟨ids, statuses, entries, metadata⟩ := banished_program ban strict (applyBanishmentToProgram program ban)
    refine program_ext _ _ ids statuses ?_ entries metadata
    rw [banished_nodes ban strict, banished_nodes ban strict, List.map_map]
    exact List.map_congr_left fun node _ => banish_node_idempotent ban node
  fields := banished_program ban strict program
  nodes := by
    rw [banished_nodes ban strict, List.forall₂_map_right_iff, List.forall₂_same]
    exact fun node _ => banish_node_frame ban node
  ids := banished_node_ids ban strict program
  successors := banished_successors ban strict program
  predecessors := banished_predecessors ban strict program unknownSuccessor
    (banish_node_blind ban unknownSuccessor fun _ _ => rfl)
  order := banished_order ban strict program
  compiles := banished_compile ban strict program
  executes := by
    intro engine runtime allowed
    have kept := kept_not_refused runtime program _ (banished_warnings ban strict strategy quarantine program) allowed
    have same : outline (executeProgram engine runtime (applyBanishmentToProgram program ban)) =
        outline (executeProgram engine runtime program) := by
      rw [execute_allowed engine runtime program allowed, execute_allowed engine runtime _ kept]
      exact banished_allowed ban strict engine _ program rfl
    refine ⟨same, ?_⟩
    rw [← executed_outline, same, executed_outline]
  refused := by
    intro engine runtime denied
    refine ⟨execute_refused engine runtime program denied, execute_refused engine runtime _, ?_⟩
    intro allowed
    rw [execute_allowed engine runtime _ allowed]
    exact banished_allowed ban strict engine _ program rfl

def strictBanishment : BanishmentSpec := { strict := true }

def writingCast : SemanticProgram where
  programId := "writing-cast"
  nodes := [{ castOf "a" [] with effects := [{ effectType := .write }] }]
  entryNodeIds := ["a"]
  nodesNonempty := List.cons_ne_nil _ _
  entriesNonempty := entered
  distinctIds := List.nodup_singleton _
  entriesKnown := by decide

theorem banishment_discharges_writing :
    (strictBanishment.strict = true ∧ strictBanishment.quarantineEffectTypes = quarantined ∧
      strictBanishment.defaultRollback ≠ .none) ∧
      Discharges strictBanishment writingCast (applyBanishmentToProgram writingCast strictBanishment) :=
  ⟨⟨rfl, rfl, by decide⟩, banishment_discharges strictBanishment rfl rfl (by decide) writingCast⟩

theorem banishment_lifts_refusal :
    executedNodes (executeProgram agreeing { sampleRuntime with denyWarnings := true } writingCast) = [] ∧
      executedNodes (executeProgram agreeing { sampleRuntime with denyWarnings := true }
        (applyBanishmentToProgram writingCast strictBanishment)) = ["a"] := by
  decide +kernel

end Vermyth
