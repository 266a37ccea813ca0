import Vermyth.Engine.BasisVerdict
import Vermyth.Engine.Chain

set_option autoImplicit false

namespace Vermyth

open Foundation

-- What auto_cast notes of a cast: one of its diagnostics_steps.
structure DiagnosticStep where
  adjusted : ℚ
  raw : ℚ
  blendAlpha : ℚ
deriving DecidableEq

def diagnosticStep (blendAlpha : ℚ) (result : CastRecord) : DiagnosticStep where
  adjusted := result.verdict.resonance.adjusted
  raw := result.verdict.resonance.raw
  blendAlpha := blendAlpha

structure AutoCastDiagnostics where
  steps : List DiagnosticStep
  converged : Bool
  finalAdjusted : ℚ
  finalInRange : InUnit finalAdjusted

def AutoCastDiagnostics.at (steps : List DiagnosticStep) (converged : Bool) (final : CastRecord) :
    AutoCastDiagnostics where
  steps := steps
  converged := converged
  finalAdjusted := final.verdict.resonance.adjusted
  finalInRange := final.verdict.resonance.adjustedInRange

-- auto_cast with_diagnostics: the final cast, the chain and the diagnostics.
structure DiagnosedCast where
  final : CastRecord
  chain : List CastRecord
  diagnostics : AutoCastDiagnostics

namespace ResonanceEngine

def diagnosedRounds (engine : ResonanceEngine) (intent : Intent) (targetResonance blendAlpha : ℚ)
    (stamps : ChainStamps) :
    Nat → SemanticVector → List CastRecord → List DiagnosticStep → Except PyError DiagnosedCast
  | 0, _, chain, steps =>
      match chain.getLast? with
      | none => .error (.indexError "list index out of range")
      | some final => .ok { final, chain, diagnostics := .at steps false final }
  | rounds + 1, current, chain, steps => do
      let base ← engine.fluidCast current intent (stamps.cast chain.length)
      let result := chainResult base chain stamps.branchId
      let noted := steps ++ [diagnosticStep blendAlpha result]
      if result.verdict.Reaches targetResonance then
        return { final := result, chain := chain ++ [result], diagnostics := .at noted true result }
      else
        let fluid ← engine.interpolate current 3
        diagnosedRounds engine intent targetResonance blendAlpha stamps rounds
          (engine.blendToward current fluid.semanticVector blendAlpha) (chain ++ [result]) noted

def diagnosedCast (engine : ResonanceEngine) (vector : SemanticVector) (intent : Intent) (maxDepth : Int)
    (targetResonance blendAlpha : ℚ) (stamps : ChainStamps) : Except PyError DiagnosedCast :=
  engine.diagnosedRounds intent targetResonance blendAlpha stamps maxDepth.toNat vector [] []

-- The vector that a step of auto_cast hands to the next one, and that of a step.
def nextVector (engine : ResonanceEngine) (blendAlpha : ℚ) (current : SemanticVector) :
    Except PyError SemanticVector := do
  let fluid ← engine.interpolate current 3
  return engine.blendToward current fluid.semanticVector blendAlpha

def stepVector (engine : ResonanceEngine) (blendAlpha : ℚ) (vector : SemanticVector) : Nat → Except PyError SemanticVector
  | 0 => .ok vector
  | step + 1 => do
      let current ← engine.stepVector blendAlpha vector step
      engine.nextVector blendAlpha current

end ResonanceEngine

theorem step_vector_next (engine : ResonanceEngine) (vector : SemanticVector) (blendAlpha : ℚ) (step : Nat)
    (current : SemanticVector) (reached : engine.stepVector blendAlpha vector step = .ok current) :
    engine.stepVector blendAlpha vector (step + 1) = engine.nextVector blendAlpha current := by
  rw [ResonanceEngine.stepVector, reached]
  rfl

theorem next_vector_ok (engine : ResonanceEngine) (blendAlpha : ℚ) (current : SemanticVector) (fluid : FluidSigil)
    (made : engine.interpolate current 3 = .ok fluid) :
    engine.nextVector blendAlpha current = .ok (engine.blendToward current fluid.semanticVector blendAlpha) := by
  rw [ResonanceEngine.nextVector, made]
  rfl

theorem diagnosed_rounds_same (engine : ResonanceEngine) (intent : Intent) (targetResonance blendAlpha : ℚ)
    (stamps : ChainStamps) (rounds : Nat) (current : SemanticVector) (chain : List CastRecord)
    (steps : List DiagnosticStep) :
    (engine.diagnosedRounds intent targetResonance blendAlpha stamps rounds current chain steps).map
        (fun diagnosed => (diagnosed.final, diagnosed.chain)) =
      (engine.autoRounds intent targetResonance blendAlpha stamps rounds current chain).bind fun chain =>
        (chain.getLast?).elim (.error (.indexError "list index out of range")) fun final => .ok (final, chain) := by
  induction rounds generalizing current chain steps with
  | zero =>
      rw [ResonanceEngine.diagnosedRounds, ResonanceEngine.autoRounds, Except.bind]
      cases chain.getLast? <;> rfl
  | succ rounds ih =>
      rw [ResonanceEngine.diagnosedRounds, ResonanceEngine.autoRounds]
      cases engine.fluidCast current intent (stamps.cast chain.length) with
      | error raised => rfl
      | ok base =>
          simp only [bind, Except.bind]
          by_cases reaches : (ResonanceEngine.chainResult base chain stamps.branchId).verdict.Reaches targetResonance
          · rw [if_pos reaches, if_pos reaches]
            simp [pure, Except.pure, Except.map]
          · rw [if_neg reaches, if_neg reaches]
            cases engine.interpolate current 3 with
            | error raised => rfl
            | ok fluid => exact ih _ _ _

theorem diagnosed_cast_same (engine : ResonanceEngine) (vector : SemanticVector) (intent : Intent) (maxDepth : Int)
    (targetResonance blendAlpha : ℚ) (stamps : ChainStamps) :
    (engine.diagnosedCast vector intent maxDepth targetResonance blendAlpha stamps).map
        (fun diagnosed => (diagnosed.final, diagnosed.chain)) =
      engine.autoCast vector intent maxDepth targetResonance blendAlpha stamps := by
  rw [ResonanceEngine.diagnosedCast, diagnosed_rounds_same, ResonanceEngine.autoCast]
  refine congrArg _ (funext fun chain => ?_)
  cases chain.getLast? <;> rfl

section Run

variable (engine : ResonanceEngine) (vector : SemanticVector) (intent : Intent) (targetResonance blendAlpha : ℚ)
  (stamps : ChainStamps)

def CastAt (chain : List CastRecord) (i : Nat) (result : CastRecord) : Prop :=
  ∃ current base, engine.stepVector blendAlpha vector i = .ok current ∧
    engine.fluidCast current intent (stamps.cast i) = .ok base ∧
      result = ResonanceEngine.chainResult base (chain.take i) stamps.branchId

structure ChainRun (chain : List CastRecord) (steps : List DiagnosticStep) : Prop where
  each : ∀ i result, chain[i]? = some result → CastAt engine vector intent blendAlpha stamps chain i result
  noted : steps = chain.map (diagnosticStep blendAlpha)

-- A chain that auto_cast returns: it stopped at the first cast that reaches the
-- target, or where it had no rounds left.
structure ChainDone (rounds : Nat) (done : DiagnosedCast) : Prop where
  run : ChainRun engine vector intent blendAlpha stamps done.chain done.diagnostics.steps
  last : done.chain.getLast? = some done.final
  missed : ∀ result ∈ done.chain.dropLast, ¬ result.verdict.Reaches targetResonance
  converged : done.diagnostics.converged = true ↔ done.final.verdict.Reaches targetResonance
  finalAdjusted : done.diagnostics.finalAdjusted = done.final.verdict.resonance.adjusted
  bounded : done.chain.length ≤ rounds
  full : ¬ done.final.verdict.Reaches targetResonance → done.chain.length = rounds

theorem chain_run_nil : ChainRun engine vector intent blendAlpha stamps [] [] where
  each := fun i result held => by simp at held
  noted := rfl

theorem chain_run_more (chain : List CastRecord) (steps : List DiagnosticStep) (current : SemanticVector)
    (base : CastRecord) (run : ChainRun engine vector intent blendAlpha stamps chain steps)
    (reached : engine.stepVector blendAlpha vector chain.length = .ok current)
    (cast : engine.fluidCast current intent (stamps.cast chain.length) = .ok base) :
    ChainRun engine vector intent blendAlpha stamps
      (chain ++ [ResonanceEngine.chainResult base chain stamps.branchId])
      (steps ++ [diagnosticStep blendAlpha (ResonanceEngine.chainResult base chain stamps.branchId)]) := by
  constructor
  · intro i result held
    rcases Nat.lt_trichotomy i chain.length with inside | rfl | past
    · rw [List.getElem?_append_left inside] at held
      obtain ⟨own, first, step, made, rfl⟩ := run.each i result held
      exact ⟨own, first, step, made, by rw [List.take_append_of_le_length inside.le]⟩
    · rw [List.getElem?_concat_length] at held
      obtain rfl := Option.some.inj held
      exact ⟨current, base, reached, cast, by rw [List.take_left]⟩
    · have none : (chain ++ [ResonanceEngine.chainResult base chain stamps.branchId])[i]? = none := by
        rw [List.getElem?_eq_none_iff, List.length_append, List.length_singleton]
        exact past
      rw [none] at held
      contradiction
  · rw [run.noted, List.map_append]
    rfl

theorem diagnosed_rounds_done (rounds : Nat) (current : SemanticVector) (chain : List CastRecord)
    (steps : List DiagnosticStep) (done : DiagnosedCast)
    (run : ChainRun engine vector intent blendAlpha stamps chain steps)
    (missed : ∀ result ∈ chain, ¬ result.verdict.Reaches targetResonance)
    (reached : engine.stepVector blendAlpha vector chain.length = .ok current)
    (went : engine.diagnosedRounds intent targetResonance blendAlpha stamps rounds current chain steps = .ok done) :
    ChainDone engine vector intent targetResonance blendAlpha stamps (chain.length + rounds) done := by
  induction rounds generalizing current chain steps with
  | zero =>
      rw [ResonanceEngine.diagnosedRounds] at went
      cases last : chain.getLast? with
      | none =>
          rw [last] at went
          contradiction
      | some final =>
          rw [last] at went
          obtain rfl := Except.ok.inj went
          have misses := missed final (List.mem_of_getLast? last)
          exact
            { run := run
              last := last
              missed := fun result member => missed result (List.mem_of_mem_dropLast member)
              converged := iff_of_false Bool.false_ne_true misses
              finalAdjusted := rfl
              bounded := le_rfl
              full := fun _ => rfl }
  | succ rounds ih =>
      obtain ⟨base, cast, went⟩ := (bind_ok _ _ _).mp went
      have more := chain_run_more engine vector intent blendAlpha stamps chain steps current base run reached cast
      have longer : (chain ++ [ResonanceEngine.chainResult base chain stamps.branchId]).length = chain.length + 1 :=
        List.length_append
      by_cases reaches : (ResonanceEngine.chainResult base chain stamps.branchId).verdict.Reaches targetResonance
      · simp only [if_pos reaches] at went
        obtain rfl := Except.ok.inj went
        exact
          { run := more
            last := List.getLast?_concat
            missed := by
              rw [List.dropLast_concat]
              exact missed
            converged := iff_of_true rfl reaches
            finalAdjusted := rfl
            bounded := by
              rw [longer]
              omega
            full := fun misses => absurd reaches misses }
      · simp only [if_neg reaches] at went
        obtain ⟨fluid, made, went⟩ := (bind_ok _ _ _).mp went
        have next : engine.stepVector blendAlpha vector
            (chain ++ [ResonanceEngine.chainResult base chain stamps.branchId]).length =
              .ok (engine.blendToward current fluid.semanticVector blendAlpha) := by
          rw [longer, step_vector_next engine vector blendAlpha chain.length current reached]
          exact next_vector_ok engine blendAlpha current fluid made
        have done := ih _ _ _ more (by
          intro result member
          rcases List.mem_append.mp member with old | new
          · exact missed result old
          · rw [List.mem_singleton.mp new]
            exact reaches) next went
        rw [longer] at done
        rwa [Nat.add_assoc, Nat.add_comm 1] at done

theorem diagnosed_cast_done (maxDepth : Int) (done : DiagnosedCast)
    (cast : engine.diagnosedCast vector intent maxDepth targetResonance blendAlpha stamps = .ok done) :
    ChainDone engine vector intent targetResonance blendAlpha stamps maxDepth.toNat done := by
  have whole := diagnosed_rounds_done engine vector intent targetResonance blendAlpha stamps maxDepth.toNat vector [] []
    done (chain_run_nil engine vector intent blendAlpha stamps) (fun _ member => absurd member List.not_mem_nil) rfl cast
  rwa [List.length_nil, Nat.zero_add] at whole

variable {chain : List CastRecord} {steps : List DiagnosticStep}

theorem cast_at_id (i : Nat) (result : CastRecord)
    (at_place : CastAt engine vector intent blendAlpha stamps chain i result) :
    result.castId = (stamps.cast i).castId := by
  obtain ⟨current, base, -, cast, rfl⟩ := at_place
  have own := (fluid_cast_ok engine current intent _ base cast).1
  rw [ResonanceEngine.chainResult]
  cases (chain.take i).getLast? with
  | none => exact own
  | some parent => exact own

theorem chain_ids (run : ChainRun engine vector intent blendAlpha stamps chain steps) :
    chain.map CastRecord.castId = (List.range chain.length).map fun i => (stamps.cast i).castId := by
  apply List.ext_getElem?
  intro i
  rw [List.getElem?_map, List.getElem?_map]
  cases held : chain[i]? with
  | none =>
      rw [List.getElem?_eq_none (by simpa using List.getElem?_eq_none_iff.mp held)]
      rfl
  | some result =>
      have inside := (List.getElem?_eq_some_iff.mp held).1
      rw [List.getElem?_range inside]
      exact congrArg some (cast_at_id engine vector intent blendAlpha stamps i result (run.each i result held))

theorem chain_root (run : ChainRun engine vector intent blendAlpha stamps chain steps) (first : CastRecord)
    (held : chain[0]? = some first) : first.lineage = none := by
  obtain ⟨current, base, -, cast, own⟩ := run.each 0 first held
  rw [own]
  exact (fluid_cast_ok engine current intent _ base cast).2.1

structure LinkedAt (i : Nat) (parent child : CastRecord) (lineage : Lineage) (divergence : SemanticVector) : Prop where
  own : child.lineage = some lineage
  parentCastId : lineage.parentCastId = parent.castId
  depth : lineage.depth = i + 1
  branchId : lineage.branchId = stamps.branchId
  apart : lineage.divergenceVector = some divergence
  length : divergence.components.length =
    max child.sigil.semanticVector.components.length parent.sigil.semanticVector.components.length
  difference : ∀ j, coeff divergence.components j =
    coeff child.sigil.semanticVector.components j - coeff parent.sigil.semanticVector.components j

theorem chain_linked (run : ChainRun engine vector intent blendAlpha stamps chain steps) (i : Nat)
    (parent child : CastRecord) (above : chain[i]? = some parent) (below : chain[i + 1]? = some child) :
    ∃ lineage divergence, LinkedAt stamps i parent child lineage divergence := by
  have lineage_of (i : Nat) (parent child : CastRecord) (above : chain[i]? = some parent)
      (below : chain[i + 1]? = some child) : ∃ base : CastRecord, child = base.withLineage parent stamps.branchId := by
    obtain ⟨current, base, -, -, rfl⟩ := run.each (i + 1) child below
    have last : (chain.take (i + 1)).getLast? = some parent := by
      rw [List.getLast?_take, if_neg (Nat.succ_ne_zero i), Nat.add_sub_cancel, above]
      rfl
    rw [ResonanceEngine.chainResult, last]
    exact ⟨base, rfl⟩
  have depth_of : lineageDepth parent.result = i + 1 := by
    induction i generalizing parent child with
    | zero =>
        have root : parent.result.lineage = none := chain_root engine vector intent blendAlpha stamps run parent above
        rw [lineageDepth, root]
    | succ i ih =>
        obtain ⟨grand, higher⟩ : ∃ grand, chain[i]? = some grand := by
          have inside := (List.getElem?_eq_some_iff.mp above).1
          exact ⟨_, List.getElem?_eq_getElem (by omega)⟩
        have own := ih grand parent higher above
        obtain ⟨base, rfl⟩ := lineage_of i grand parent higher above
        have deeper : lineageDepth (base.withLineage grand stamps.branchId).result = lineageDepth grand.result + 1 := rfl
        rw [deeper, own]
  obtain ⟨base, rfl⟩ := lineage_of i parent child above below
  exact ⟨_, _,
    { own := rfl
      parentCastId := rfl
      depth := depth_of
      branchId := rfl
      apart := rfl
      length := divergence_components_length _ _
      difference := divergence_coeff _ _ }⟩

-- What auto_cast returns with its diagnostics.
structure AutoCastChain (maxDepth : Int) (done : DiagnosedCast) : Prop where
  least : 1 ≤ done.chain.length
  most : (done.chain.length : Int) ≤ maxDepth
  distinct : (done.chain.map CastRecord.castId).Nodup
  last : done.chain.getLast? = some done.final
  root : ∀ first, done.chain[0]? = some first → first.lineage = none
  linked : ∀ (i : Nat) (parent child : CastRecord), done.chain[i]? = some parent → done.chain[i + 1]? = some child →
    ∃ lineage divergence, LinkedAt stamps i parent child lineage divergence
  missed : ∀ result ∈ done.chain.dropLast, ¬ result.verdict.Reaches targetResonance
  noted : done.diagnostics.steps = done.chain.map (diagnosticStep blendAlpha)
  finalAdjusted : done.diagnostics.finalAdjusted = done.final.verdict.resonance.adjusted
  converged : done.diagnostics.converged = true ↔ done.final.verdict.Reaches targetResonance

theorem auto_cast_structure (distinct : Function.Injective fun i => (stamps.cast i).castId) (maxDepth : Int) :
    (engine.autoCast vector intent maxDepth targetResonance blendAlpha stamps =
      (engine.diagnosedCast vector intent maxDepth targetResonance blendAlpha stamps).map
        fun done => (done.final, done.chain)) ∧
    ∀ done, engine.diagnosedCast vector intent maxDepth targetResonance blendAlpha stamps = .ok done →
      AutoCastChain targetResonance blendAlpha stamps maxDepth done := by
  refine ⟨(diagnosed_cast_same engine vector intent maxDepth targetResonance blendAlpha stamps).symm, ?_⟩
  intro done cast
  have held := diagnosed_cast_done engine vector intent targetResonance blendAlpha stamps maxDepth done cast
  have least : 1 ≤ done.chain.length := List.length_pos_of_mem (List.mem_of_getLast? held.last)
  have bounded := held.bounded
  exact
    { least := least
      most := by omega
      distinct := by
        rw [chain_ids engine vector intent blendAlpha stamps held.run]
        exact List.nodup_range.map distinct
      last := held.last
      root := chain_root engine vector intent blendAlpha stamps held.run
      linked := chain_linked engine vector intent blendAlpha stamps held.run
      missed := held.missed
      noted := held.run.noted
      finalAdjusted := held.finalAdjusted
      converged := held.converged }

end Run

def lowCeiling : ResonanceEngine where
  math := squareRoots
  backend := none
  composition :=
    { table := Table.empty.upsert
        { key := "VOID", entry := { name := "Hollow", effectClass := .erasure, resonanceCeiling := 1 / 2 } } }
  registry := {}
  order := listOrder

theorem tilted_six : 6 ≤ [(-6 / 10 : ℚ), 8 / 10, 0, 0, 0, 0].length := le_rfl

def tilted : SemanticVector where
  components := [-6 / 10, 8 / 10, 0, 0, 0, 0]
  atLeastSix := tilted_six

def numberedStamps : ChainStamps where
  cast := fun i => { castId := String.ofList (List.replicate i 'x'), timestamp := Datetime.newYear 2026 (Eq.refl true) }
  branchId := "branch"

theorem numbered_distinct : Function.Injective fun i => (numberedStamps.cast i).castId := by
  intro i j same
  have lengths := congrArg String.length same
  simpa [numberedStamps] using lengths

theorem hollow_cast : ∃ done,
    lowCeiling.diagnosedCast tilted cautious 3 (3 / 4) (35 / 100) numberedStamps = .ok done ∧ done.chain.length = 3 := by
  have ran : (lowCeiling.diagnosedCast tilted cautious 3 (3 / 4) (35 / 100) numberedStamps).toOption.map
      (fun done => done.chain.length) = some 3 := by decide +kernel
  cases cast : lowCeiling.diagnosedCast tilted cautious 3 (3 / 4) (35 / 100) numberedStamps with
  | error raised =>
      rw [cast] at ran
      contradiction
  | ok done =>
      rw [cast] at ran
      exact ⟨done, rfl, Option.some.inj ran⟩

theorem auto_cast_structure_hollow : ∃ done,
    lowCeiling.diagnosedCast tilted cautious 3 (3 / 4) (35 / 100) numberedStamps = .ok done ∧ done.chain.length = 3 ∧
      AutoCastChain (3 / 4) (35 / 100) numberedStamps 3 done := by
  obtain ⟨done, cast, length⟩ := hollow_cast
  exact ⟨done, cast, length, (auto_cast_structure lowCeiling tilted cautious (3 / 4) (35 / 100) numberedStamps
    numbered_distinct 3).2 done cast⟩

end Vermyth
