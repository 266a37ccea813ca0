import Vermyth.Casting.ConcurrentTools

set_option autoImplicit false

namespace Vermyth

open Foundation

variable (requests : Nat → ToolRequest)

def ToolPhase.Reads : ToolPhase → Prop
  | .selected _ _ => True
  | .ruled _ _ _ => True
  | .named _ _ _ => True
  | _ => False

-- What a step does to _policy_model and to what its request holds of it.
inductive ModelEffect (request : ToolRequest) (shared : SharedTools) (phase : ToolPhase)
    (after : SharedTools × ToolPhase) : Prop where
  | none (same : after.1.casting.policyModel = shared.casting.policyModel)
      (saves : ∀ previous, after.2.saved? = some previous → phase.saved? = some previous ∨
        (phase = .arrived ∧ previous = shared.casting.policyModel))
      (reads : after.2.Reads → phase.Reads ∨ (phase.InSwap ∧ request.selection = .ok none))
      (leaves : phase.InSwap → after.2.InSwap)
  | selects (model : PolicyModel) (selection : request.selection = .ok (some model)) (inside : phase.InSwap)
      (becomes : after.1.casting.policyModel = model) (saves : after.2.saved? = phase.saved?)
  | restores (previous : PolicyModel) (saved : phase.saved? = some previous)
      (becomes : after.1.casting.policyModel = previous) (outside : after.2.saved? = none) (idle : ¬ after.2.Reads)

theorem effect_of_same (request : ToolRequest) (shared : SharedTools) (phase after : ToolPhase) (changed : SharedTools)
    (same : changed.casting.policyModel = shared.casting.policyModel) (saves : after.saved? = phase.saved?)
    (reads : after.Reads → phase.Reads) : ModelEffect request shared phase (changed, after) := by
  refine .none same ?_ (fun inside => Or.inl (reads inside)) ?_
  · intro previous saved
    exact Or.inl (saves ▸ saved)
  · intro inside
    rw [ToolPhase.InSwap] at inside ⊢
    exact saves ▸ inside

theorem decide_effect (call : DecideCall) (shared : SharedTools) (phase : ToolPhase) :
    ModelEffect (.decide call) shared phase (decideStep call shared phase) := by
  cases phase with
  | arrived =>
      rw [decideStep]
      cases shared.casting.decideRequest call.arguments with
      | error raised => exact effect_of_same _ _ _ _ _ rfl rfl id
      | ok request =>
          refine .none rfl ?_ (fun reads => absurd reads id) fun inside => by contradiction
          intro previous saved
          exact Or.inr ⟨rfl, (Option.some.inj saved).symm⟩
  | saved previous request =>
      rw [decideStep]
      cases selection : call.selection with
      | error raised => exact effect_of_same _ _ _ _ _ rfl rfl fun reads => absurd reads id
      | ok chosen =>
          cases chosen with
          | none =>
              refine .none rfl (fun _ saved => Or.inl saved) ?_ fun _ => rfl
              exact fun _ => Or.inr ⟨rfl, selection⟩
          | some model => exact .selects model selection rfl rfl rfl
  | selected previous request =>
      rw [decideStep]
      cases shared.casting.judge shared.casting.policyModel call.arguments request call.draws with
      | error raised => exact effect_of_same _ _ _ _ _ rfl rfl fun _ => trivial
      | ok made => exact effect_of_same _ _ _ _ _ rfl rfl fun _ => trivial
  | ruled previous decision result => exact effect_of_same _ _ _ _ _ rfl rfl fun _ => trivial
  | named previous decision result => exact effect_of_same _ _ _ _ _ rfl rfl fun _ => trivial
  | judged previous outcome => exact .restores previous rfl rfl rfl id
  | restored outcome =>
      cases outcome with
      | error raised => exact effect_of_same _ _ _ _ _ rfl rfl id
      | ok made => exact effect_of_same _ _ _ _ _ (keep_decision_model _ _ _) rfl id
  | executed execution => exact effect_of_same _ _ _ _ _ rfl rfl id
  | stored execution => exact effect_of_same _ _ _ _ _ rfl rfl id
  | fetched execution receipt => exact effect_of_same _ _ _ _ _ rfl rfl id
  | done returned => exact effect_of_same _ _ _ _ _ rfl rfl id

theorem execute_keeps_casting (engine : Engine) (runtime : Runtime) (programId : String) (shared : SharedTools)
    (phase : ToolPhase) : (executeStep engine runtime programId shared phase).1.casting = shared.casting := by
  cases phase with
  | arrived =>
      rw [executeStep]
      cases shared.programs.programs programId with
      | none => rfl
      | some program =>
          simp only []
          cases executeProgram engine runtime program <;> rfl
  | fetched execution receipt => cases receipt <;> rfl
  | _ => rfl

theorem execute_effect (engine : Engine) (runtime : Runtime) (programId : String) (shared : SharedTools)
    (phase : ToolPhase) : ModelEffect (.execute engine runtime programId) shared phase
      (executeStep engine runtime programId shared phase) := by
  have same := congrArg CastProcess.policyModel (execute_keeps_casting engine runtime programId shared phase)
  cases phase with
  | arrived =>
      rw [executeStep]
      cases shared.programs.programs programId with
      | none => exact effect_of_same _ _ _ _ _ rfl rfl id
      | some program =>
          simp only []
          cases executeProgram engine runtime program <;> exact effect_of_same _ _ _ _ _ rfl rfl id
  | fetched execution receipt => cases receipt <;> exact effect_of_same _ _ _ _ _ same rfl id
  | _ => exact effect_of_same _ _ _ _ _ same rfl id

theorem tool_effect (i : Nat) (shared : SharedTools) (phase : ToolPhase) :
    ModelEffect (requests i) shared phase (toolStep requests i shared phase) := by
  rw [toolStep]
  cases requests i with
  | decide call => exact decide_effect call shared phase
  | execute engine runtime programId => exact execute_effect engine runtime programId shared phase

-- What holds of _policy_model where decides that put another one in are alone.
structure ModelKept (configured : PolicyModel) (parties : ToolParties) : Prop where
  exclusive : Exclusive ToolPhase.InSwap (SwapsClash requests configured) parties
  saved : ∀ i previous, (parties.phases i).saved? = some previous → previous = configured
  swapped : parties.shared.casting.policyModel = configured ∨
    ∃ i, Swaps requests configured i ∧ (parties.phases i).InSwap
  own : ∀ i, (parties.phases i).Reads → parties.shared.casting.policyModel = (requests i).own configured

theorem reads_in_swap (phase : ToolPhase) (reads : phase.Reads) : phase.InSwap := by
  cases phase with
  | selected previous request => rfl
  | ruled previous decision result => rfl
  | named previous decision result => rfl
  | _ => exact absurd reads id

theorem own_of_plain (configured : PolicyModel) (request : ToolRequest)
    (plain : ¬ ∃ model, request.selection = .ok (some model) ∧ model ≠ configured) :
    request.own configured = configured := by
  rw [ToolRequest.own]
  cases selection : request.selection with
  | error raised => rfl
  | ok chosen =>
      cases chosen with
      | none => rfl
      | some model =>
          by_contra other
          exact plain ⟨model, selection, other⟩

theorem swaps_clash_symm (configured : PolicyModel) (i j : Nat) (clash : SwapsClash requests configured i j) :
    SwapsClash requests configured j i := clash.symm

section Model

variable (configured : PolicyModel) (parties : ToolParties) (i : Nat) (kept : ModelKept requests configured parties)

include kept

theorem plain_sees_configured (inside : (parties.phases i).InSwap) (plain : ¬ Swaps requests configured i) :
    parties.shared.casting.policyModel = configured := by
  refine kept.swapped.resolve_right ?_
  rintro ⟨j, swaps, within⟩
  obtain rfl := kept.exclusive i j (Or.inr swaps) inside within
  exact plain swaps

omit kept in
theorem enters_swap (apart : Apart requests configured parties i) (outside : ¬ (parties.phases i).InSwap)
    (inside : (toolStep requests i parties.shared (parties.phases i)).2.InSwap) :
    Vacant ToolPhase.InSwap (SwapsClash requests configured) parties i := by
  obtain ⟨previous, saved⟩ := Option.isSome_iff_exists.mp inside
  cases tool_effect requests i parties.shared (parties.phases i) with
  | none same saves reads leaves =>
      obtain already | ⟨arrived, -⟩ := saves previous saved
      · exact absurd (by rw [ToolPhase.InSwap, already]; rfl) outside
      · exact (apart arrived).1 (by rw [act_self]; exact inside)
  | selects model selection within becomes saves => exact absurd within outside
  | restores previous' saved' becomes gone idle =>
      rw [gone] at saved
      contradiction

theorem saved_act (apart : Apart requests configured parties i) (j : Nat) (previous : PolicyModel)
    (saved : ((act (toolStep requests) parties i).phases j).saved? = some previous) : previous = configured := by
  by_cases own : j = i
  · subst own
    rw [act_self] at saved
    cases tool_effect requests j parties.shared (parties.phases j) with
    | none same saves reads leaves =>
        obtain already | ⟨arrived, rfl⟩ := saves previous saved
        · exact kept.saved j previous already
        · refine kept.swapped.resolve_right ?_
          rintro ⟨k, swaps, within⟩
          have vacant := enters_swap requests configured parties j apart (by rw [arrived]; exact Bool.false_ne_true)
            (by rw [ToolPhase.InSwap, saved]; rfl)
          exact vacant k (Or.inr swaps) within
    | selects model selection within becomes saves => exact kept.saved j previous (saves ▸ saved)
    | restores previous' saved' becomes gone idle =>
        rw [gone] at saved
        contradiction
  · rw [act_other _ _ _ own] at saved
    exact kept.saved j previous saved

theorem swapped_act : (act (toolStep requests) parties i).shared.casting.policyModel = configured ∨
    ∃ j, Swaps requests configured j ∧ ((act (toolStep requests) parties i).phases j).InSwap := by
  rw [act_shared]
  cases tool_effect requests i parties.shared (parties.phases i) with
  | none same saves reads leaves =>
      rw [same]
      obtain unchanged | ⟨j, swaps, within⟩ := kept.swapped
      · exact Or.inl unchanged
      · refine Or.inr ⟨j, swaps, ?_⟩
        by_cases own : j = i
        · subst own
          rw [act_self]
          exact leaves within
        · rw [act_other _ _ _ own]
          exact within
  | selects model selection within becomes saves =>
      rw [becomes]
      by_cases same : model = configured
      · exact Or.inl same
      · refine Or.inr ⟨i, ⟨model, selection, same⟩, ?_⟩
        rw [act_self, ToolPhase.InSwap, saves]
        exact within
  | restores previous saved becomes gone idle =>
      rw [becomes]
      exact Or.inl (kept.saved i previous saved)

theorem own_act (j : Nat) (reads : ((act (toolStep requests) parties i).phases j).Reads) :
    (act (toolStep requests) parties i).shared.casting.policyModel = (requests j).own configured := by
  rw [act_shared]
  by_cases own : j = i
  · subst own
    rw [act_self] at reads
    cases tool_effect requests j parties.shared (parties.phases j) with
    | none same saves continues leaves =>
        rw [same]
        obtain before | ⟨inside, selection⟩ := continues reads
        · exact kept.own j before
        · have plain : ¬ Swaps requests configured j := by
            rintro ⟨model, chosen, -⟩
            rw [selection] at chosen
            cases Except.ok.inj chosen
          rw [plain_sees_configured requests configured parties j kept inside plain,
            own_of_plain configured (requests j) plain]
    | selects model selection within becomes saves => rw [becomes, ToolRequest.own, selection]
    | restores previous saved becomes gone idle => exact absurd reads idle
  · rw [act_other _ _ _ own] at reads
    have inside := reads_in_swap _ reads
    -- the other request puts no model in while this one does
    have plain : (parties.phases i).InSwap → (requests j).own configured = configured := by
      intro within
      refine own_of_plain configured (requests j) ?_
      intro swaps
      exact own (kept.exclusive i j (Or.inr swaps) within inside).symm
    cases tool_effect requests i parties.shared (parties.phases i) with
    | none same saves continues leaves =>
        rw [same]
        exact kept.own j reads
    | selects model selection within becomes saves =>
        rw [becomes, plain within]
        by_contra other
        exact own (kept.exclusive i j (Or.inl ⟨model, selection, other⟩) within inside).symm
    | restores previous saved becomes gone idle =>
        rw [becomes, kept.saved i previous saved, plain (by rw [ToolPhase.InSwap, saved]; rfl)]

theorem model_kept_act (apart : Apart requests configured parties i) :
    ModelKept requests configured (act (toolStep requests) parties i) where
  exclusive := exclusive_act _ _ (swaps_clash_symm requests configured) parties i kept.exclusive
    (enters_swap requests configured parties i apart)
  saved := saved_act requests configured parties i kept apart
  swapped := swapped_act requests configured parties i kept
  own := own_act requests configured parties i kept

end Model

def ToolPhase.request? : ToolPhase → Option CastProcess.DecideRequest
  | .saved _ request => some request
  | .selected _ request => some request
  | _ => none

def ToolPhase.decision? : ToolPhase → Option PolicyDecision
  | .ruled _ decision _ => some decision
  | .named _ decision _ => some decision
  | .judged _ (.ok (decision, _)) => some decision
  | .restored (.ok (decision, _)) => some decision
  | _ => none

structure DecisionsMade (reached : CastProcess → Prop) (start : SharedTools) (parties : ToolParties) : Prop where
  asked : ∀ i request, (parties.phases i).request? = some request → ∃ call first, requests i = .decide call ∧
    reached first ∧ first.decideRequest call.arguments = .ok request
  made : ∀ i decision, (parties.phases i).decision? = some decision → ∃ call, requests i = .decide call ∧
    MadeByOwn reached start.casting.policyModel call decision
  rows : ∀ row ∈ parties.shared.casting.decisions.rows, row ∈ start.casting.decisions.rows ∨
    ∃ i call decision, requests i = .decide call ∧
      MadeByOwn reached start.casting.policyModel call decision ∧ row = decision.row

theorem made_by_own_model (reached : CastProcess → Prop) (configured : PolicyModel) (call : DecideCall)
    (decision : PolicyDecision) (made : MadeByOwn reached configured call decision) :
    decision.modelName = ((ToolRequest.decide call).own configured).name ∧
      decision.modelVersion = some ((ToolRequest.decide call).own configured).version := by
  obtain ⟨_, later, request, result, -, -, -, judged⟩ := made
  exact judged_model later _ _ _ _ decision result judged

theorem decide_asks (call : DecideCall) (shared : SharedTools) (phase : ToolPhase)
    (request : CastProcess.DecideRequest) (holds : (decideStep call shared phase).2.request? = some request) :
    phase.request? = some request ∨ shared.casting.decideRequest call.arguments = .ok request := by
  cases phase with
  | arrived =>
      rw [decideStep] at holds
      cases asked : shared.casting.decideRequest call.arguments with
      | error raised => simp [asked, ToolPhase.request?] at holds
      | ok given =>
          simp only [asked, ToolPhase.request?, Option.some.injEq] at holds
          exact Or.inr (by rw [holds])
  | saved previous given =>
      rw [decideStep] at holds
      cases selection : call.selection with
      | error raised => simp [selection, ToolPhase.request?] at holds
      | ok chosen =>
          cases chosen <;> exact Or.inl (by simpa [selection, ToolPhase.request?] using holds)
  | selected previous given =>
      rw [decideStep] at holds
      cases judged : shared.casting.judge shared.casting.policyModel call.arguments given call.draws <;>
        simp [judged, ToolPhase.request?] at holds
  | restored outcome => cases outcome <;> simp [decideStep, ToolPhase.request?] at holds
  | _ => simp [decideStep, ToolPhase.request?] at holds

theorem decide_judges (call : DecideCall) (shared : SharedTools) (phase : ToolPhase) (decision : PolicyDecision)
    (holds : (decideStep call shared phase).2.decision? = some decision) :
    (phase.Reads ∧ ∃ request result, phase.request? = some request ∧
      shared.casting.judge shared.casting.policyModel call.arguments request call.draws = .ok (decision, result)) ∨
    (phase.Reads ∧ ∃ earlier, phase.decision? = some earlier ∧
      (decision = { earlier with modelName := shared.casting.policyModel.name } ∨
        decision = { earlier with modelVersion := some shared.casting.policyModel.version })) ∨
    phase.decision? = some decision := by
  cases phase with
  | arrived =>
      rw [decideStep] at holds
      cases asked : shared.casting.decideRequest call.arguments <;> simp [asked, ToolPhase.decision?] at holds
  | saved previous given =>
      rw [decideStep] at holds
      cases selection : call.selection with
      | error raised => simp [selection, ToolPhase.decision?] at holds
      | ok chosen => cases chosen <;> simp [selection, ToolPhase.decision?] at holds
  | selected previous given =>
      rw [decideStep] at holds
      cases judged : shared.casting.judge shared.casting.policyModel call.arguments given call.draws with
      | error raised => simp [judged, ToolPhase.decision?] at holds
      | ok made =>
          obtain ⟨ruled, result⟩ := made
          simp only [judged, ToolPhase.decision?, Option.some.injEq] at holds
          exact Or.inl ⟨trivial, given, result, rfl, by rw [← holds, judged]⟩
  | ruled previous earlier result =>
      exact Or.inr (Or.inl ⟨trivial, earlier, rfl, Or.inl (Option.some.inj holds).symm⟩)
  | named previous earlier result =>
      exact Or.inr (Or.inl ⟨trivial, earlier, rfl, Or.inr (Option.some.inj holds).symm⟩)
  | judged previous outcome =>
      refine Or.inr (Or.inr ?_)
      cases outcome <;> exact holds
  | restored outcome => cases outcome <;> simp [decideStep, ToolPhase.decision?] at holds
  | executed execution => simp [decideStep, ToolPhase.decision?] at holds
  | stored execution => simp [decideStep, ToolPhase.decision?] at holds
  | fetched execution receipt => simp [decideStep, ToolPhase.decision?] at holds
  | done returned => simp [decideStep, ToolPhase.decision?] at holds

theorem decide_rows (call : DecideCall) (shared : SharedTools) (phase : ToolPhase) :
    ∀ row ∈ (decideStep call shared phase).1.casting.decisions.rows, row ∈ shared.casting.decisions.rows ∨
      ∃ decision, phase.decision? = some decision ∧ row = decision.row := by
  intro row member
  cases phase with
  | arrived =>
      rw [decideStep] at member
      cases asked : shared.casting.decideRequest call.arguments <;> exact Or.inl (by simpa [asked] using member)
  | saved previous given =>
      rw [decideStep] at member
      cases selection : call.selection with
      | error raised => exact Or.inl (by simpa [selection] using member)
      | ok chosen => cases chosen <;> exact Or.inl (by simpa [selection, SharedTools.select] using member)
  | selected previous given =>
      rw [decideStep] at member
      cases judged : shared.casting.judge shared.casting.policyModel call.arguments given call.draws <;>
        exact Or.inl (by simpa [judged] using member)
  | restored outcome =>
      cases outcome with
      | error raised => exact Or.inl member
      | ok made =>
          obtain ⟨decision, result⟩ := made
          obtain ⟨casts, decisions, after, origin⟩ := keep_decision_only shared.casting decision result
          simp only [decideStep, after] at member
          exact (origin row member).imp_right fun isNew => ⟨decision, rfl, isNew⟩
  | _ => exact Or.inl member

theorem execute_asks_nothing (engine : Engine) (runtime : Runtime) (programId : String) (shared : SharedTools)
    (phase : ToolPhase) :
    (∀ request, (executeStep engine runtime programId shared phase).2.request? = some request →
      phase.request? = some request) ∧
    (∀ decision, (executeStep engine runtime programId shared phase).2.decision? = some decision →
      phase.decision? = some decision) := by
  cases phase with
  | arrived =>
      rw [executeStep]
      cases shared.programs.programs programId with
      | none => simp [ToolPhase.request?, ToolPhase.decision?]
      | some program =>
          simp only []
          cases executeProgram engine runtime program <;> simp [ToolPhase.request?, ToolPhase.decision?]
  | fetched execution receipt => cases receipt <;> simp [executeStep, ToolPhase.request?, ToolPhase.decision?]
  | executed execution => simp [executeStep, ToolPhase.request?, ToolPhase.decision?]
  | stored execution => simp [executeStep, ToolPhase.request?, ToolPhase.decision?]
  | _ => exact ⟨fun _ => id, fun _ => id⟩

section Decisions

variable (reached : CastProcess → Prop) (start : SharedTools) (parties : ToolParties) (i : Nat)
  (recorded : DecisionsMade requests reached start parties)

include recorded

theorem asked_act (seen : reached parties.shared.casting) (j : Nat) (request : CastProcess.DecideRequest)
    (holds : ((act (toolStep requests) parties i).phases j).request? = some request) :
    ∃ call first, requests j = .decide call ∧ reached first ∧ first.decideRequest call.arguments = .ok request := by
  by_cases own : j = i
  · subst own
    rw [act_self, toolStep] at holds
    cases served : requests j with
    | decide call =>
        rw [served] at holds
        obtain before | asked := decide_asks call parties.shared (parties.phases j) request holds
        · exact served ▸ recorded.asked j request before
        · exact ⟨call, parties.shared.casting, rfl, seen, asked⟩
    | execute engine runtime programId =>
        rw [served] at holds
        exact served ▸ recorded.asked j request ((execute_asks_nothing _ _ _ _ _).1 request holds)
  · rw [act_other _ _ _ own] at holds
    exact recorded.asked j request holds

theorem made_act (seen : reached parties.shared.casting) (kept : ModelKept requests start.casting.policyModel parties)
    (j : Nat) (decision : PolicyDecision)
    (holds : ((act (toolStep requests) parties i).phases j).decision? = some decision) :
    ∃ call, requests j = .decide call ∧ MadeByOwn reached start.casting.policyModel call decision := by
  by_cases own : j = i
  · subst own
    rw [act_self, toolStep] at holds
    cases served : requests j with
    | decide call =>
        rw [served] at holds
        obtain ⟨reads, request, result, asks, judged⟩ | ⟨reads, earlier, before, same⟩ | before :=
          decide_judges call parties.shared (parties.phases j) decision holds
        · obtain ⟨call', first, served', visited, asked⟩ := recorded.asked j request asks
          obtain rfl := ToolRequest.decide.inj (served.symm.trans served')
          rw [kept.own j reads, served] at judged
          exact ⟨call, rfl, first, parties.shared.casting, request, result, visited, seen, asked, judged⟩
        · obtain ⟨call', served', made⟩ := recorded.made j earlier before
          obtain rfl := ToolRequest.decide.inj (served.symm.trans served')
          refine ⟨call, rfl, ?_⟩
          obtain ⟨name, version⟩ := made_by_own_model reached start.casting.policyModel call earlier made
          rw [kept.own j reads, served, ← name, ← version] at same
          obtain rfl | rfl := same
          · exact made
          · exact made
        · exact served ▸ recorded.made j decision before
    | execute engine runtime programId =>
        rw [served] at holds
        exact served ▸ recorded.made j decision ((execute_asks_nothing _ _ _ _ _).2 decision holds)
  · rw [act_other _ _ _ own] at holds
    exact recorded.made j decision holds

theorem rows_act : ∀ row ∈ (act (toolStep requests) parties i).shared.casting.decisions.rows,
    row ∈ start.casting.decisions.rows ∨ ∃ j call decision, requests j = .decide call ∧
      MadeByOwn reached start.casting.policyModel call decision ∧ row = decision.row := by
  intro row member
  rw [act_shared, toolStep] at member
  cases served : requests i with
  | decide call =>
      rw [served] at member
      obtain older | ⟨decision, holds, isRow⟩ := decide_rows call parties.shared (parties.phases i) row member
      · exact recorded.rows row older
      · obtain ⟨call, own, made⟩ := recorded.made i decision holds
        exact Or.inr ⟨i, call, decision, own, made, isRow⟩
  | execute engine runtime programId =>
      rw [served] at member
      simp only [execute_keeps_casting] at member
      exact recorded.rows row member

theorem decisions_made_act (seen : reached parties.shared.casting)
    (kept : ModelKept requests start.casting.policyModel parties) :
    DecisionsMade requests reached start (act (toolStep requests) parties i) where
  asked := asked_act requests reached start parties i recorded seen
  made := made_act requests reached start parties i recorded seen kept
  rows := rows_act requests reached start parties i recorded

end Decisions

end Vermyth
