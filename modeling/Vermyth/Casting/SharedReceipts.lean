import Vermyth.Casting.SharedModel

set_option autoImplicit false

namespace Vermyth

open Foundation

variable (requests : Nat → ToolRequest)

def OwnReceipt (request : ToolRequest) (execution : ProgramExecution) (receipt : ExecutionReceipt) : Prop :=
  ∃ engine runtime programId, request = .execute engine runtime programId ∧ receipt.receiptId = runtime.receiptId ∧
    receipt.executionId = execution.executionId

-- What a step does to the programs, to _last_execution_receipt and to what its
-- request holds of them.
inductive ReceiptEffect (request : ToolRequest) (shared : SharedTools) (phase : ToolPhase)
    (after : SharedTools × ToolPhase) : Prop where
  | none (programs : after.1.programs = shared.programs) (last : after.1.lastReceipt = shared.lastReceipt)
      (awaited : after.2.awaited? = phase.awaited?) (unpaired : after.2.unpaired? = phase.unpaired?)
      (fetched : ∀ execution receipt, after.2 = .fetched execution receipt → phase = .fetched execution receipt)
      (ended : ∀ returned, phase = .done returned → after.2 = .done returned)
  | runs (execution : ProgramExecution) (receipt : ExecutionReceipt) (draws : OwnReceipt request execution receipt)
      (stands : phase = .arrived) (becomes : after = ({ shared with lastReceipt := some receipt }, .executed execution))
  | stores (execution : ProgramExecution) (stands : phase = .executed execution) (becomes : after =
      ({ shared with programs := shared.programs.writeExecution execution }, .stored execution))
  | fetches (execution : ProgramExecution) (stands : phase = .stored execution)
      (becomes : after = (shared, .fetched execution shared.lastReceipt))
  | drops (execution : ProgramExecution) (stands : phase = .fetched execution Option.none)
      (becomes : after = (shared, .done (.ok (.execution execution))))
  | pairs (execution : ProgramExecution) (receipt : ExecutionReceipt) (stands : phase = .fetched execution (some receipt))
      (becomes : after = ({ shared with programs := shared.programs.writeExecutionReceipt receipt },
        .done (.ok (.execution execution))))

theorem signed_ids (signer : Option Signer) (receipt signed : ExecutionReceipt)
    (signs : signReceiptIfConfigured signer receipt = .ok signed) :
    signed.receiptId = receipt.receiptId ∧ signed.executionId = receipt.executionId := by
  unfold signReceiptIfConfigured at signs
  cases signer with
  | none =>
      obtain rfl := Except.ok.inj signs
      exact ⟨rfl, rfl⟩
  | some signer =>
      cases loaded : signer.privateKey with
      | error raised => simp [loaded] at signs
      | ok sign =>
          simp only [loaded, Except.ok.injEq] at signs
          subst signs
          exact ⟨rfl, rfl⟩

theorem executed_receipt (engine : Engine) (runtime : Runtime) (program : SemanticProgram)
    (execution : ProgramExecution) (receipt : ExecutionReceipt)
    (returned : executeProgram engine runtime program = .ok (execution, receipt)) :
    receipt.receiptId = runtime.receiptId ∧ receipt.executionId = execution.executionId := by
  rw [executeProgram] at returned
  cases accepted : compiledProgram program with
  | error raised => simp [accepted] at returned
  | ok compiled =>
      simp only [accepted] at returned
      split_ifs at returned
      cases linked : linkNodes compiled.nodeIds (fun _ succ => .keyError succ) compiled.nodes (fun _ => []) with
      | error raised => simp [linked] at returned
      | ok predecessors =>
          simp only [linked] at returned
          cases ordered : topologicalOrder compiled predecessors with
          | error raised => simp [ordered] at returned
          | ok order =>
              simp only [ordered] at returned
              cases swept : sweep (processNode engine compiled predecessors runtime.branchId) order {} with
              | error raised => simp [swept] at returned
              | ok flow =>
                  simp only [swept] at returned
                  cases signed : signReceiptIfConfigured runtime.signer (receiptOf runtime compiled (exitState flow)) with
                  | error raised => simp [signed] at returned
                  | ok own =>
                      simp only [signed, Except.ok.injEq, Prod.mk.injEq] at returned
                      obtain ⟨rfl, rfl⟩ := returned
                      exact signed_ids _ _ _ signed

theorem receipt_quiet (request : ToolRequest) (shared changed : SharedTools) (phase after : ToolPhase)
    (programs : changed.programs = shared.programs) (last : changed.lastReceipt = shared.lastReceipt)
    (awaited : after.awaited? = phase.awaited?) (unpaired : after.unpaired? = phase.unpaired?)
    (working : ∀ returned, phase ≠ .done returned) (unfetched : ∀ execution receipt, after ≠ .fetched execution receipt) :
    ReceiptEffect request shared phase (changed, after) :=
  .none programs last awaited unpaired (fun _ _ fetched => absurd fetched (unfetched _ _))
    fun _ ended => absurd ended (working _)

theorem decide_receipts (call : DecideCall) (shared : SharedTools) (phase : ToolPhase) :
    ReceiptEffect (.decide call) shared phase (decideStep call shared phase) := by
  have same : ∀ phase : ToolPhase, ReceiptEffect (.decide call) shared phase (shared, phase) :=
    fun phase => .none rfl rfl rfl rfl (fun _ _ => id) fun _ => id
  cases phase with
  | arrived =>
      rw [decideStep]
      cases shared.casting.decideRequest call.arguments <;>
        exact receipt_quiet _ _ _ _ _ rfl rfl rfl rfl (by simp) (by simp)
  | saved previous request =>
      rw [decideStep]
      cases call.selection with
      | error raised => exact receipt_quiet _ _ _ _ _ rfl rfl rfl rfl (by simp) (by simp)
      | ok chosen => cases chosen <;> exact receipt_quiet _ _ _ _ _ rfl rfl rfl rfl (by simp) (by simp)
  | selected previous request =>
      rw [decideStep]
      cases shared.casting.judge shared.casting.policyModel call.arguments request call.draws <;>
        exact receipt_quiet _ _ _ _ _ rfl rfl rfl rfl (by simp) (by simp)
  | restored outcome => cases outcome <;> exact receipt_quiet _ _ _ _ _ rfl rfl rfl rfl (by simp) (by simp)
  | ruled previous decision result => exact receipt_quiet _ _ _ _ _ rfl rfl rfl rfl (by simp) (by simp)
  | named previous decision result => exact receipt_quiet _ _ _ _ _ rfl rfl rfl rfl (by simp) (by simp)
  | judged previous outcome => exact receipt_quiet _ _ _ _ _ rfl rfl rfl rfl (by simp) (by simp)
  | _ => exact same _

theorem execute_receipts (engine : Engine) (runtime : Runtime) (programId : String) (shared : SharedTools)
    (phase : ToolPhase) : ReceiptEffect (.execute engine runtime programId) shared phase
      (executeStep engine runtime programId shared phase) := by
  have same : ∀ phase : ToolPhase, ReceiptEffect (.execute engine runtime programId) shared phase (shared, phase) :=
    fun phase => .none rfl rfl rfl rfl (fun _ _ => id) fun _ => id
  cases phase with
  | arrived =>
      rw [executeStep]
      cases shared.programs.programs programId with
      | none => exact receipt_quiet _ _ _ _ _ rfl rfl rfl rfl (by simp) (by simp)
      | some program =>
          simp only []
          cases returned : executeProgram engine runtime program with
          | error raised => exact receipt_quiet _ _ _ _ _ rfl rfl rfl rfl (by simp) (by simp)
          | ok out =>
              obtain ⟨execution, receipt⟩ := out
              obtain ⟨drawn, pairs⟩ := executed_receipt engine runtime program execution receipt returned
              exact .runs execution receipt ⟨engine, runtime, programId, rfl, drawn, pairs⟩ rfl rfl
  | executed execution => exact .stores execution rfl rfl
  | stored execution => exact .fetches execution rfl rfl
  | fetched execution receipt =>
      cases receipt with
      | none => exact .drops execution rfl rfl
      | some receipt => exact .pairs execution receipt rfl rfl
  | _ => exact same _

theorem tool_receipts (i : Nat) (shared : SharedTools) (phase : ToolPhase) :
    ReceiptEffect (requests i) shared phase (toolStep requests i shared phase) := by
  rw [toolStep]
  cases requests i with
  | decide call => exact decide_receipts call shared phase
  | execute engine runtime programId => exact execute_receipts engine runtime programId shared phase

theorem execution_after (store : ProgramStore) (execution : ProgramExecution) (executionId : String) :
    (store.writeExecution execution).executions executionId =
      if executionId = execution.executionId then some execution else store.executions executionId :=
  Function.update_apply ..

theorem receipt_after (store : ProgramStore) (receipt : ExecutionReceipt) (receiptId : String) :
    (store.writeExecutionReceipt receipt).receipts receiptId =
      if receiptId = receipt.receiptId then some receipt else store.receipts receiptId :=
  Function.update_apply ..

-- What holds of _last_execution_receipt where the runs that leave one are
-- alone.
structure ReceiptsKept (parties : ToolParties) : Prop where
  exclusive : Exclusive ToolPhase.Awaits (fun _ _ => True) parties
  awaiting : ∀ i execution, (parties.phases i).awaited? = some execution →
    ∃ receipt, parties.shared.lastReceipt = some receipt ∧ OwnReceipt (requests i) execution receipt
  fetched : ∀ i execution receipt, parties.phases i = .fetched execution receipt →
    ∃ own, receipt = some own ∧ OwnReceipt (requests i) execution own
  unwritten : ∀ i engine runtime programId, requests i = .execute engine runtime programId →
    (∀ returned, parties.phases i ≠ .done returned) → parties.shared.programs.receipts runtime.receiptId = none
  paired : ∀ executionId, (parties.shared.programs.executions executionId).isSome →
    HasReceipt parties.shared.programs executionId ∨
      ∃ i execution, (parties.phases i).unpaired? = some execution ∧ execution.executionId = executionId

section Receipts

variable (start : SharedTools) (configured : PolicyModel) (parties : ToolParties) (i : Nat)
  (kept : ReceiptsKept requests parties)

theorem done_stays (j : Nat) (returned : Except PyError ToolReturn) (ended : parties.phases j = .done returned) :
    (act (toolStep requests) parties i).phases j = .done returned := by
  by_cases own : j = i
  · subst own
    rw [act_self]
    cases tool_receipts requests j parties.shared (parties.phases j) with
    | none programs last awaited unpaired fetched stays => exact stays returned ended
    | runs ran left draws stands becomes => rw [stands] at ended; contradiction
    | stores ran stands becomes => rw [stands] at ended; contradiction
    | fetches ran stands becomes => rw [stands] at ended; contradiction
    | drops ran stands becomes => rw [stands] at ended; contradiction
    | pairs ran left stands becomes => rw [stands] at ended; contradiction
  · rw [act_other _ _ _ own]
    exact ended

theorem enters_await (apart : Apart requests configured parties i) (outside : ¬ (parties.phases i).Awaits)
    (inside : (toolStep requests i parties.shared (parties.phases i)).2.Awaits) :
    Vacant ToolPhase.Awaits (fun _ _ => True) parties i := by
  have arrived : parties.phases i = .arrived := by
    cases tool_receipts requests i parties.shared (parties.phases i) with
    | none programs last awaited unpaired fetched ended =>
        rw [ToolPhase.Awaits, awaited] at inside
        exact absurd inside outside
    | runs execution receipt draws stands becomes => exact stands
    | stores execution stands becomes => exact absurd (by rw [stands]; rfl) outside
    | fetches execution stands becomes => exact absurd (by rw [stands]; rfl) outside
    | drops execution stands becomes =>
        rw [becomes] at inside
        contradiction
    | pairs execution receipt stands becomes =>
        rw [becomes] at inside
        contradiction
  exact (apart arrived).2 (by rw [act_self]; exact inside)

theorem unpaired_carried (executionId : String) (after : Option ProgramExecution)
    (becomes : (toolStep requests i parties.shared (parties.phases i)).2.unpaired? = after)
    (keeps : ∀ execution, (parties.phases i).unpaired? = some execution → after = some execution)
    (before : ∃ j execution, (parties.phases j).unpaired? = some execution ∧ execution.executionId = executionId) :
    ∃ j execution, ((act (toolStep requests) parties i).phases j).unpaired? = some execution ∧
      execution.executionId = executionId := by
  obtain ⟨j, execution, unpaired, same⟩ := before
  refine ⟨j, execution, ?_, same⟩
  by_cases own : j = i
  · subst own
    rw [act_self, becomes]
    exact keeps execution unpaired
  · rw [act_other _ _ _ own]
    exact unpaired

include kept

theorem awaiting_act (apart : Apart requests configured parties i) (j : Nat) (execution : ProgramExecution)
    (awaits : ((act (toolStep requests) parties i).phases j).awaited? = some execution) :
    ∃ receipt, (act (toolStep requests) parties i).shared.lastReceipt = some receipt ∧
      OwnReceipt (requests j) execution receipt := by
  rw [act_shared]
  by_cases own : j = i
  · subst own
    rw [act_self] at awaits
    cases tool_receipts requests j parties.shared (parties.phases j) with
    | none programs last awaited unpaired fetched ended =>
        rw [last]
        exact kept.awaiting j execution (awaited ▸ awaits)
    | runs ran receipt draws stands becomes =>
        rw [becomes] at awaits ⊢
        obtain rfl := Option.some.inj awaits
        exact ⟨receipt, rfl, draws⟩
    | stores ran stands becomes =>
        rw [becomes] at awaits ⊢
        exact kept.awaiting j execution (by rw [stands]; exact awaits)
    | fetches ran stands becomes =>
        rw [becomes] at awaits
        contradiction
    | drops ran stands becomes =>
        rw [becomes] at awaits
        contradiction
    | pairs ran receipt stands becomes =>
        rw [becomes] at awaits
        contradiction
  · rw [act_other _ _ _ own] at awaits
    have before := kept.awaiting j execution awaits
    cases tool_receipts requests i parties.shared (parties.phases i) with
    | none programs last awaited unpaired fetched ended =>
        rw [last]
        exact before
    | runs ran receipt draws stands becomes =>
        have vacant := enters_await requests configured parties i apart (by rw [stands]; exact Bool.false_ne_true)
          (by rw [becomes]; rfl)
        exact absurd (by rw [ToolPhase.Awaits, awaits]; rfl) (vacant j trivial)
    | stores ran stands becomes => rw [becomes]; exact before
    | fetches ran stands becomes => rw [becomes]; exact before
    | drops ran stands becomes => rw [becomes]; exact before
    | pairs ran receipt stands becomes => rw [becomes]; exact before

theorem fetched_act (j : Nat) (execution : ProgramExecution) (receipt : Option ExecutionReceipt)
    (fetches : (act (toolStep requests) parties i).phases j = .fetched execution receipt) :
    ∃ own, receipt = some own ∧ OwnReceipt (requests j) execution own := by
  by_cases own : j = i
  · subst own
    rw [act_self] at fetches
    cases tool_receipts requests j parties.shared (parties.phases j) with
    | none programs last awaited unpaired fetched ended =>
        exact kept.fetched j execution receipt (fetched execution receipt fetches)
    | runs ran left draws stands becomes => rw [becomes] at fetches; contradiction
    | stores ran stands becomes => rw [becomes] at fetches; contradiction
    | fetches ran stands becomes =>
        rw [becomes] at fetches
        obtain ⟨rfl, rfl⟩ := ToolPhase.fetched.inj fetches
        exact kept.awaiting j ran (by rw [stands]; rfl)
    | drops ran stands becomes => rw [becomes] at fetches; contradiction
    | pairs ran left stands becomes => rw [becomes] at fetches; contradiction
  · rw [act_other _ _ _ own] at fetches
    exact kept.fetched j execution receipt fetches

theorem unwritten_act (fresh : FreshStart requests start) (j : Nat) (engine : Engine) (runtime : Runtime)
    (programId : String) (served : requests j = .execute engine runtime programId)
    (working : ∀ returned, (act (toolStep requests) parties i).phases j ≠ .done returned) :
    (act (toolStep requests) parties i).shared.programs.receipts runtime.receiptId = none := by
  rw [act_shared]
  have before : parties.shared.programs.receipts runtime.receiptId = none := by
    refine kept.unwritten j engine runtime programId served ?_
    intro returned ended
    exact working returned (done_stays requests parties i j returned ended)
  cases tool_receipts requests i parties.shared (parties.phases i) with
  | none programs last awaited unpaired fetched ended =>
      rw [programs]
      exact before
  | runs ran left draws stands becomes => rw [becomes]; exact before
  | stores ran stands becomes => rw [becomes]; exact before
  | fetches ran stands becomes => rw [becomes]; exact before
  | drops ran stands becomes => rw [becomes]; exact before
  | pairs ran left stands becomes =>
      have other : j ≠ i := by
        rintro rfl
        exact working (.ok (.execution ran)) (by rw [act_self, becomes])
      obtain ⟨own, isOwn, engine', runtime', programId', served', drawn, -⟩ := kept.fetched i ran _ stands
      obtain rfl := Option.some.inj isOwn
      rw [becomes, receipt_after, if_neg, before]
      intro same
      exact other (fresh.own j i engine engine' runtime runtime' programId programId' served served'
        (same.trans drawn))

theorem paired_act (executionId : String)
    (stored : ((act (toolStep requests) parties i).shared.programs.executions executionId).isSome) :
    HasReceipt (act (toolStep requests) parties i).shared.programs executionId ∨
      ∃ j execution, ((act (toolStep requests) parties i).phases j).unpaired? = some execution ∧
        execution.executionId = executionId := by
  rw [act_shared] at stored ⊢
  cases tool_receipts requests i parties.shared (parties.phases i) with
  | none programs last awaited unpaired fetched ended =>
      rw [programs] at stored ⊢
      exact (kept.paired executionId stored).imp_right
        (unpaired_carried requests parties i executionId _ unpaired fun _ => id)
  | runs ran left draws stands becomes =>
      rw [becomes] at stored ⊢
      refine (kept.paired executionId stored).imp_right (unpaired_carried requests parties i executionId none
        (by rw [becomes]; rfl) ?_)
      intro execution unpaired
      rw [stands] at unpaired
      contradiction
  | stores ran stands becomes =>
      by_cases own : executionId = ran.executionId
      · exact Or.inr ⟨i, ran, by rw [act_self, becomes]; rfl, own.symm⟩
      · rw [becomes] at stored ⊢
        rw [execution_after, if_neg own] at stored
        refine (kept.paired executionId stored).imp_right (unpaired_carried requests parties i executionId (some ran)
          (by rw [becomes]; rfl) ?_)
        intro execution unpaired
        rw [stands] at unpaired
        contradiction
  | fetches ran stands becomes =>
      rw [becomes] at stored ⊢
      refine (kept.paired executionId stored).imp_right (unpaired_carried requests parties i executionId (some ran)
        (by rw [becomes]; rfl) ?_)
      intro execution unpaired
      rw [stands] at unpaired
      exact unpaired
  | drops ran stands becomes =>
      obtain ⟨own, isOwn, -⟩ := kept.fetched i ran none stands
      contradiction
  | pairs ran left stands becomes =>
      obtain ⟨own, isOwn, engine, runtime, programId, served, drawn, pairs⟩ := kept.fetched i ran _ stands
      obtain rfl := Option.some.inj isOwn
      rw [becomes] at stored ⊢
      obtain ⟨receiptId, receipt, written, same⟩ | ⟨j, execution, unpaired, same⟩ := kept.paired executionId stored
      · refine Or.inl ⟨receiptId, receipt, ?_, same⟩
        rw [receipt_after, if_neg, written]
        rintro rfl
        rw [drawn, kept.unwritten i engine runtime programId served (by rw [stands]; simp)] at written
        contradiction
      · by_cases isRun : j = i
        · subst isRun
          rw [stands] at unpaired
          obtain rfl := Option.some.inj unpaired
          refine Or.inl ⟨left.receiptId, left, ?_, pairs.trans same⟩
          rw [receipt_after, if_pos rfl]
        · exact Or.inr ⟨j, execution, by rw [act_other _ _ _ isRun]; exact unpaired, same⟩

theorem receipts_kept_act (fresh : FreshStart requests start) (apart : Apart requests configured parties i) :
    ReceiptsKept requests (act (toolStep requests) parties i) where
  exclusive := exclusive_act _ _ (fun _ _ _ => trivial) parties i kept.exclusive
    (enters_await requests configured parties i apart)
  awaiting := awaiting_act requests configured parties i kept apart
  fetched := fetched_act requests parties i kept
  unwritten := unwritten_act requests start parties i kept fresh
  paired := paired_act requests parties i kept

end Receipts

def Reached (start : SharedTools) (events : List Nat) (process : CastProcess) : Prop :=
  ∃ pre, pre <+: events ∧ process = (run (act (toolStep requests)) (newParties start) pre).shared.casting

structure RunKept (start : SharedTools) (events : List Nat) (parties : ToolParties) : Prop where
  model : ModelKept requests start.casting.policyModel parties
  decisions : DecisionsMade requests (Reached requests start events) start parties
  receipts : ReceiptsKept requests parties

theorem run_kept_new (start : SharedTools) (events : List Nat) (fresh : FreshStart requests start) :
    RunKept requests start events (newParties start) where
  model :=
    { exclusive := fun _ _ _ inside _ => by contradiction
      saved := fun _ _ saved => by contradiction
      swapped := Or.inl rfl
      own := fun _ reads => absurd reads id }
  decisions :=
    { asked := fun _ _ asks => by contradiction
      made := fun _ _ made => by contradiction
      rows := fun _ member => Or.inl member }
  receipts :=
    { exclusive := fun _ _ _ inside _ => by contradiction
      awaiting := fun _ _ awaits => by contradiction
      fetched := fun _ _ _ fetched => by contradiction
      unwritten := fun i engine runtime programId served _ => fresh.unwritten i engine runtime programId served
      paired := fun executionId stored => Or.inl (fresh.paired executionId stored) }

theorem apart_unleaked (start : SharedTools) (fresh : FreshStart requests start) (events : List Nat)
    (apart : ∀ parties i, Taken (act (toolStep requests)) (newParties start) events parties i →
      Apart requests start.casting.policyModel parties i) :
    Unleaked requests (Reached requests start events) start
      (run (act (toolStep requests)) (newParties start) events) := by
  have kept : RunKept requests start events (run (act (toolStep requests)) (newParties start) events) := by
    refine run_invariant (RunKept requests start events) _ events (run_kept_new requests start events fresh) ?_
    intro parties i taken kept
    have alone := apart parties i taken
    obtain ⟨pre, post, split, isReached⟩ := taken
    have seen : Reached requests start events parties.shared.casting :=
      ⟨pre, ⟨i :: post, split.symm⟩, by rw [isReached]⟩
    exact {
      model := model_kept_act requests _ parties i kept.model alone
      decisions := decisions_made_act requests _ start parties i kept.decisions seen kept.model
      receipts := receipts_kept_act requests start _ parties i kept.receipts fresh alone }
  refine ⟨kept.decisions.rows, kept.receipts.paired, ?_⟩
  intro idle
  refine kept.model.swapped.resolve_right ?_
  rintro ⟨i, -, inside⟩
  have rests := idle i
  cases phase : (run (act (toolStep requests)) (newParties start) events).phases i with
  | arrived => rw [phase] at inside; contradiction
  | done returned => rw [phase] at inside; contradiction
  | _ => rw [phase] at rests; exact rests

def plainDecide : DecideCall where
  arguments := { intent := .ok revealing, aspects := some ["MIND"] }
  draws := drawsNamed "plain"

def tunedDecide : DecideCall where
  arguments := { intent := .ok revealing, aspects := some ["MIND"] }
  selection := .ok (some { name := "threshold_tuned" })
  draws := drawsNamed "tuned"

def tunedFirst (i : Nat) : ToolRequest := if i = 0 then .decide tunedDecide else .decide plainDecide

def newTools : SharedTools where
  casting := newProcess {}
  programs := newPrograms.stored

theorem plain_asked : ∃ request, (newProcess {}).decideRequest plainDecide.arguments = .ok request := by
  have asks : ((newProcess {}).decideRequest plainDecide.arguments).isOk = true := by decide +kernel
  exact is_ok _ asks

def decideAndExecute (i : Nat) : ToolRequest :=
  if i = 0 then .decide tunedDecide
  else if i = 1 then .execute agreeing sampleRuntime "one-cast" else .decide plainDecide

def programTools : SharedTools where
  casting := newProcess {}
  programs := storeOf oneCast

theorem decide_and_execute_fresh : FreshStart decideAndExecute programTools where
  own := by
    have second : ∀ i engine runtime programId, decideAndExecute i = .execute engine runtime programId → i = 1 := by
      intro i engine runtime programId served
      rw [decideAndExecute] at served
      split_ifs at served with _ isSecond
      exact isSecond
    intro i j engine engine' runtime runtime' programId programId' served served' _
    rw [second i _ _ _ served, second j _ _ _ served']
  unwritten := by
    intro i engine runtime programId served
    rfl
  paired := by
    intro executionId stored
    cases stored

theorem apart_unleaked_overlapping :
    Unleaked decideAndExecute (Reached decideAndExecute programTools [0, 1]) programTools
      (run (act (toolStep decideAndExecute)) (newParties programTools) [0, 1]) := by
  refine apart_unleaked decideAndExecute programTools decide_and_execute_fresh [0, 1] (along_taken _ _ _ ?_)
  refine ⟨?_, ?_, trivial⟩
  · intro _
    exact ⟨fun _ j _ inside => by contradiction, fun _ j _ inside => by contradiction⟩
  · intro _
    obtain ⟨request, asked⟩ := plain_asked
    have saves : act (toolStep decideAndExecute) (newParties programTools) 0 =
        { shared := programTools, phases := Function.update (fun _ => .arrived) 0 (.saved {} request) } :=
      act_eq _ 0 _ _ (decide_saves decideAndExecute tunedDecide 0 rfl programTools request asked)
    constructor
    · intro inside
      rw [act_self, saves] at inside
      change (executeStep agreeing sampleRuntime "one-cast" programTools .arrived).2.InSwap at inside
      rw [executeStep, show programTools.programs.programs "one-cast" = some oneCast from rfl] at inside
      simp only [] at inside
      cases returned : executeProgram agreeing sampleRuntime oneCast <;> simp [returned] at inside <;> contradiction
    · intro _ j _
      rw [saves]
      by_cases first : j = 0
      · subst first
        exact Bool.false_ne_true
      · simp only [Function.update_of_ne first]
        exact Bool.false_ne_true

def tunedModel : PolicyModel := { name := "threshold_tuned" }

def interleavedDecides : List Nat := [0, 0, 1] ++ List.replicate 5 0 ++ [1] ++ List.replicate 5 1

-- The second request saves the model that the first one has put in, and
-- restores it after the first has ended.
theorem tuned_model_stays : (∀ i, ((run (act (toolStep tunedFirst)) (newParties newTools) interleavedDecides).phases
      i).Idle) ∧
    (run (act (toolStep tunedFirst)) (newParties newTools) interleavedDecides).shared.casting.policyModel =
      tunedModel := by
  obtain ⟨request, asked⟩ := plain_asked
  have first : act (toolStep tunedFirst) (newParties newTools) 0 =
      { shared := newTools, phases := Function.update (fun _ => .arrived) 0 (.saved {} request) } :=
    act_eq _ 0 _ _ (decide_saves tunedFirst tunedDecide 0 rfl newTools request asked)
  have second : run (act (toolStep tunedFirst)) (newParties newTools) [0, 0] =
      { shared := newTools.select tunedModel,
        phases := Function.update (fun _ => .arrived) 0 (.selected {} request) } := by
    change act (toolStep tunedFirst) (act (toolStep tunedFirst) (newParties newTools) 0) 0 = _
    rw [first, act_eq _ 0 (newTools.select tunedModel) (.selected {} request) rfl, Function.update_idem]
  have third : run (act (toolStep tunedFirst)) (newParties newTools) [0, 0, 1] =
      { shared := newTools.select tunedModel,
        phases := Function.update (Function.update (fun _ => .arrived) 0 (.selected {} request)) 1
          (.saved tunedModel request) } := by
    change act (toolStep tunedFirst) (run (act (toolStep tunedFirst)) (newParties newTools) [0, 0]) 1 = _
    rw [second]
    exact act_eq _ 1 _ _ (decide_saves tunedFirst plainDecide 1 rfl (newTools.select tunedModel) request asked)
  obtain ⟨restored, ⟨_, ended⟩, others⟩ := decide_ends tunedFirst tunedDecide 0 rfl
    (run (act (toolStep tunedFirst)) (newParties newTools) [0, 0, 1]) {} request (by rw [third]; rfl)
  rw [third, ← third] at restored ended others
  generalize isAlone : run (act (toolStep tunedFirst)) (run (act (toolStep tunedFirst)) (newParties newTools) [0, 0, 1])
    (List.replicate 5 0) = freed at restored ended others
  have waits : freed.phases 1 = .saved tunedModel request := by
    rw [others 1 (by decide), third]
    rfl
  have fourth : act (toolStep tunedFirst) freed 1 =
      { shared := freed.shared, phases := Function.update freed.phases 1 (.selected tunedModel request) } :=
    act_eq freed 1 _ _ (by rw [waits]; rfl)
  obtain ⟨left, ⟨_, ended'⟩, others'⟩ := decide_ends tunedFirst plainDecide 1 rfl
    (act (toolStep tunedFirst) freed 1) tunedModel request (by rw [fourth]; rfl)
  rw [interleavedDecides, run_append, run_append, run_append, isAlone]
  refine ⟨?_, left⟩
  intro i
  by_cases isSecond : i = 1
  · subst isSecond
    exact ended' ▸ trivial
  · have before := others' i isSecond
    rw [act_other _ _ _ isSecond] at before
    change ((run (act (toolStep tunedFirst)) (act (toolStep tunedFirst) freed 1) (List.replicate 5 1)).phases i).Idle
    rw [before]
    by_cases isFirst : i = 0
    · subst isFirst
      rw [ended]
      trivial
    · rw [others i isFirst, third]
      simp only [Function.update_of_ne isSecond, Function.update_of_ne isFirst]
      trivial

theorem tuned_first_fresh : FreshStart tunedFirst newTools where
  own := by
    intro i j engine engine' runtime runtime' programId programId' served
    rw [tunedFirst] at served
    split_ifs at served
  unwritten := by
    intro i engine runtime programId served
    rfl
  paired := by
    intro executionId stored
    cases stored

theorem tuned_model_leaks : ¬ ∀ (requests : Nat → ToolRequest) (start : SharedTools) (events : List Nat),
    FreshStart requests start → Unleaked requests (Reached requests start events) start
      (run (act (toolStep requests)) (newParties start) events) := by
  intro unleaked
  obtain ⟨idle, left⟩ := tuned_model_stays
  have restored := (unleaked tunedFirst newTools interleavedDecides tuned_first_fresh).model idle
  rw [left] at restored
  exact absurd (congrArg PolicyModel.name restored) (by decide)

end Vermyth
