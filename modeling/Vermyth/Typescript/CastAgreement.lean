import Vermyth.Typescript.EngineAgreement
import Vermyth.Typescript.Lineage

set_option autoImplicit false

namespace Vermyth.Typescript

open Foundation

structure LineagePorts (lineage : Lineage) (own : Vermyth.Lineage) : Prop where
  parentCastId : lineage.parentCastId = own.parentCastId
  depth : lineage.depth = own.depth
  branchId : lineage.branchId = own.branchId
  divergenceVector : Option.Rel VectorPorts lineage.divergenceVector own.divergenceVector

-- The Python engine gives up the verdict of a sigil whose name leaves no room for
-- the proof text, and the port never does.
structure CastPorts (engine : ResonanceEngine) (own : Vermyth.ResonanceEngine) (result : CastResult)
    (record : CastRecord) : Prop where
  castId : result.castId = record.castId
  intent : result.intent = record.intent
  sigil : SigilPorts result.sigil record.sigil
  reading : result.verdict.reading = readingAt record.sigil.face (own.intentVector record.intent)
    (cosine own.math record.sigil.semanticVector.components (own.intentVector record.intent).vector.components)
  verdict : NameFits own.math record.sigil.face (own.intentVector record.intent).vector →
    VerdictPorts engine.registry result.sigil.effectClass result.verdict record.verdict
  fallback : ¬ NameFits own.math record.sigil.face (own.intentVector record.intent).vector →
    record.verdict = Vermyth.fallbackVerdict own.registry
  lineage : Option.Rel LineagePorts result.lineage record.lineage

structure StampsPort (stamps : ChainStamps) (own : Vermyth.ChainStamps) : Prop where
  castId : ∀ i, (stamps.cast i).castId = (own.cast i).castId
  branchId : stamps.branchId = own.branchId

def Roomy (own : Vermyth.ResonanceEngine) (intent : Intent) : Prop :=
  ∀ sigil, Resolves own sigil → NameFits own.math sigil.face (own.intentVector intent).vector

structure Chained (engine : ResonanceEngine) (own : Vermyth.ResonanceEngine) (intent : Intent) (result : CastResult)
    (record : CastRecord) : Prop where
  cast : CastPorts engine own result record
  resolves : Resolves own record.sigil
  intent : record.intent = intent

def ChainPorts (engine : ResonanceEngine) (own : Vermyth.ResonanceEngine) (intent : Intent)
    (chain : CastResult × List CastResult) (record : CastRecord × List CastRecord) : Prop :=
  Chained engine own intent chain.1 record.1 ∧ List.Forall₂ (Chained engine own intent) chain.2 record.2

theorem divergence_ports (child parent : SemanticVector) (childOwn parentOwn : Vermyth.SemanticVector)
    (left : VectorPorts child childOwn) (right : VectorPorts parent parentOwn) :
    ∃ vector, createSemanticVector (divergence child.components parent.components) none = .ok vector ∧
      VectorPorts vector (divergenceVector childOwn parentOwn) := by
  have same : divergence child.components parent.components =
      divergenceComponents childOwn.components parentOwn.components := by
    rw [divergence, left.components, right.components]
    rfl
  rw [same]
  refine ⟨_, create_vector_ok _ _ ?_, rfl, rfl⟩
  exact (divergenceVector childOwn parentOwn).atLeastSix

theorem lineage_ports (engine : ResonanceEngine) (own : Vermyth.ResonanceEngine) (intent : Intent)
    (base parent : CastResult) (baseOwn parentOwn : CastRecord) (bases : Chained engine own intent base baseOwn)
    (parents : Chained engine own intent parent parentOwn) (branchId : String) :
    ∃ result, castResultWithLineage base parent branchId = .ok result ∧
      Chained engine own intent result (baseOwn.withLineage parentOwn branchId) := by
  obtain ⟨vector, made, vectorPorts⟩ := divergence_ports base.sigil.semanticVector parent.sigil.semanticVector _ _
    bases.cast.sigil.semanticVector parents.cast.sigil.semanticVector
  rw [castResultWithLineage, made]
  refine ⟨_, rfl, ⟨bases.cast.castId, bases.cast.intent, bases.cast.sigil, bases.cast.reading, bases.cast.verdict,
    bases.cast.fallback, .some ⟨parents.cast.castId, ?_, rfl, .some vectorPorts⟩⟩, bases.resolves, bases.intent⟩
  have lineages := parents.cast.lineage
  simp only [lineageDepth, CastRecord.result]
  generalize parent.lineage = left at lineages ⊢
  generalize parentOwn.lineage = right at lineages ⊢
  cases lineages with
  | none => exact Nat.cast_one.symm
  | some lineage =>
      simp only [lineage.depth]
      push_cast
      rfl

theorem chain_result_ports (engine : ResonanceEngine) (own : Vermyth.ResonanceEngine) (intent : Intent)
    (base : CastResult) (baseOwn : CastRecord) (bases : Chained engine own intent base baseOwn)
    (chain : List CastResult) (chainOwn : List CastRecord)
    (each : List.Forall₂ (Chained engine own intent) chain chainOwn) (branchId : String) :
    ∃ result, ResonanceEngine.chainResult base chain branchId = .ok result ∧
      Chained engine own intent result (Vermyth.ResonanceEngine.chainResult baseOwn chainOwn branchId) := by
  have last := related_last (Chained engine own intent) chain chainOwn each
  rw [ResonanceEngine.chainResult, Vermyth.ResonanceEngine.chainResult]
  generalize chain.getLast? = left at last ⊢
  generalize chainOwn.getLast? = right at last ⊢
  cases last with
  | none => exact ⟨base, rfl, bases⟩
  | some parents => exact lineage_ports engine own intent base _ baseOwn _ bases parents branchId

section Agreement

variable (engine : ResonanceEngine) (own : Vermyth.ResonanceEngine) (ports : EnginePorts engine own)
  (ceilings : CeilingsValid own.composition.table)

include ports

theorem evaluated_ports (sigil : Sigil) (resolved : ResolvedSigil) (sigilPorts : SigilPorts sigil resolved)
    (valid : CeilingValid resolved.resonanceCeiling) (intent : Intent) (castId : String) (timestamp : Int)
    (timestampOwn : Datetime) (provenance : Option CastProvenance) :
    CastPorts engine own
      { castId, timestamp, intent, sigil, verdict := engine.evaluate sigil intent, provenance }
      { castId, timestamp := timestampOwn, intent, sigil := resolved, verdict := own.evaluate resolved intent } := by
  have face := sigil_face sigil resolved sigilPorts
  obtain ⟨verdict, computed, reading, -⟩ := port_computes engine own ports intent sigil resolved.face face
  have whole : engine.evaluate sigil intent = verdict := by rw [ResonanceEngine.evaluate, computed]
  refine ⟨rfl, rfl, sigilPorts, whole ▸ reading, ?_, ?_, .none⟩
  · exact verdict_ports engine own ports intent sigil resolved.face face valid
  · intro cramped
    have raised := evaluation_cramped own.math resolved.face valid _ cramped
    rw [Vermyth.ResonanceEngine.intentVector] at raised
    simp only [Vermyth.ResonanceEngine.evaluate, Vermyth.evaluate, raised]

include ceilings

theorem cast_alike (aspects : List Aspect) (distinct : aspects.Nodup) (set : AspectSet)
    (aspectPorts : AspectsPort engine.registry aspects set) (intent : Intent) (stamp : CastStamp)
    (stampOwn : Vermyth.CastStamp) (ids : stamp.castId = stampOwn.castId) :
    Agreeing (CastPorts engine own) (engine.cast aspects distinct intent stamp) (own.cast set intent stampOwn) := by
  have composed := compose_alike engine own ports ceilings aspects distinct set aspectPorts
  rw [ResonanceEngine.cast, Vermyth.ResonanceEngine.cast, ids]
  cases made : own.composition.compose own.registry own.order set with
  | error raised =>
      rw [made] at composed
      generalize engine.compose aspects distinct = refused at composed ⊢
      cases composed
      exact .error _ _
  | ok resolved =>
      have valid := resolves_ceiling own resolved (.composed set resolved made)
      rw [made] at composed
      generalize engine.compose aspects distinct = result at composed ⊢
      cases composed with
      | ok sigil _ sigilPorts =>
          exact .ok _ _ (evaluated_ports engine own ports sigil resolved sigilPorts valid intent _ _ _ _)

theorem fluid_cast_alike (vector : SemanticVector) (vectorOwn : Vermyth.SemanticVector)
    (vectors : VectorPorts vector vectorOwn) (intent : Intent) (stamp : CastStamp) (stampOwn : Vermyth.CastStamp)
    (ids : stamp.castId = stampOwn.castId) :
    Agreeing (Chained engine own intent) (engine.fluidCast vector intent stamp)
      (own.fluidCast vectorOwn intent stampOwn) := by
  have interpolated := interpolate_alike engine own ports ceilings vector vectorOwn vectors 3
  rw [ResonanceEngine.fluidCast, Vermyth.ResonanceEngine.fluidCast, ids]
  cases made : own.interpolate vectorOwn 3 with
  | error raised =>
      rw [made] at interpolated
      generalize engine.interpolate vector 3 = refused at interpolated ⊢
      cases interpolated
      exact .error _ _
  | ok fluid =>
      have resolves : Resolves own fluid.toResolvedSigil := .interpolated vectorOwn 3 fluid made
      rw [made] at interpolated
      generalize engine.interpolate vector 3 = result at interpolated ⊢
      cases interpolated with
      | ok sigil _ fluidPorts =>
          refine .ok _ _ ⟨?_, resolves, rfl⟩
          have valid := resolves_ceiling own _ resolves
          exact evaluated_ports engine own ports sigil _ fluidPorts.resolved valid intent _ _ _ _

omit ceilings in
theorem blend_ports (current target : SemanticVector) (currentOwn targetOwn : Vermyth.SemanticVector)
    (left : VectorPorts current currentOwn) (right : VectorPorts target targetOwn) (alpha : ℚ) :
    ∃ vector, blendToward engine.math engine.registry current target alpha = .ok vector ∧
      VectorPorts vector (own.blendToward currentOwn targetOwn alpha) := by
  rw [blendToward, left.components, right.components, ports.math]
  exact normalize_unit_ports own.math engine.registry own.registry ports.registry _ _

theorem auto_rounds_alike (intent : Intent) (roomy : Roomy own intent) (targetResonance blendAlpha : ℚ)
    (stamps : ChainStamps) (stampsOwn : Vermyth.ChainStamps) (stampPorts : StampsPort stamps stampsOwn) (rounds : Nat)
    (current : SemanticVector) (currentOwn : Vermyth.SemanticVector) (vectors : VectorPorts current currentOwn)
    (chain : List CastResult) (chainOwn : List CastRecord)
    (each : List.Forall₂ (Chained engine own intent) chain chainOwn) :
    Agreeing (List.Forall₂ (Chained engine own intent))
      (engine.autoRounds intent targetResonance blendAlpha stamps rounds current chain)
      (own.autoRounds intent targetResonance blendAlpha stampsOwn rounds currentOwn chainOwn) := by
  induction rounds generalizing current currentOwn chain chainOwn with
  | zero => exact .ok _ _ each
  | succ rounds ih =>
      rw [ResonanceEngine.autoRounds, Vermyth.ResonanceEngine.autoRounds, each.length_eq]
      refine alike_bind _ _ _ _ _ _ (fluid_cast_alike engine own ports ceilings current currentOwn vectors intent _ _
        (stampPorts.castId chainOwn.length)) fun base baseOwn bases => ?_
      obtain ⟨result, made, results⟩ :=
        chain_result_ports engine own intent base baseOwn bases chain chainOwn each stampsOwn.branchId
      have fits := roomy _ results.resolves
      rw [← results.intent] at fits
      have reading := (results.cast.verdict fits).reading
      have types : result.verdict.verdictType = _ := congrArg VerdictReading.verdictType reading
      have adjusted : result.verdict.resonance.adjusted = _ := congrArg VerdictReading.adjusted reading
      have chained := List.rel_append each (.cons results .nil)
      have reaches : (result.verdict.verdictType = .coherent ∧ targetResonance ≤ result.verdict.resonance.adjusted) ↔
          (Vermyth.ResonanceEngine.chainResult baseOwn chainOwn stampsOwn.branchId).verdict.Reaches
            targetResonance := by
        rw [types, adjusted]
        exact Iff.rfl
      simp only [stampPorts.branchId, made, bind, Except.bind]
      by_cases stops : result.verdict.verdictType = .coherent ∧ targetResonance ≤ result.verdict.resonance.adjusted
      · simp only [if_pos stops, if_pos (reaches.mp stops)]
        exact .ok _ _ chained
      · simp only [if_neg stops, if_neg fun stopsOwn => stops (reaches.mpr stopsOwn)]
        refine alike_bind _ _ _ _ _ _ (interpolate_alike engine own ports ceilings current currentOwn vectors 3)
          fun fluid fluidOwn fluids => ?_
        obtain ⟨next, blended, nextPorts⟩ := blend_ports engine own ports current fluid.semanticVector currentOwn
          fluidOwn.semanticVector vectors fluids.resolved.semanticVector blendAlpha
        rw [blended]
        exact ih next _ nextPorts _ _ chained

theorem auto_cast_alike (vector : SemanticVector) (vectorOwn : Vermyth.SemanticVector)
    (vectors : VectorPorts vector vectorOwn) (intent : Intent) (roomy : Roomy own intent) (maxDepth : Int)
    (targetResonance blendAlpha : ℚ) (stamps : ChainStamps) (stampsOwn : Vermyth.ChainStamps)
    (stampPorts : StampsPort stamps stampsOwn) :
    Agreeing (ChainPorts engine own intent) (engine.autoCast vector intent maxDepth targetResonance blendAlpha stamps)
      (own.autoCast vectorOwn intent maxDepth targetResonance blendAlpha stampsOwn) := by
  refine alike_bind _ _ _ _ _ _ (auto_rounds_alike engine own ports ceilings intent roomy targetResonance blendAlpha
    stamps stampsOwn stampPorts maxDepth.toNat vector vectorOwn vectors [] [] .nil) fun chain chainOwn each => ?_
  have last := related_last _ chain chainOwn each
  generalize chain.getLast? = left at last ⊢
  generalize chainOwn.getLast? = right at last ⊢
  cases last with
  | none => exact .error _ _
  | some final => exact .ok _ _ ⟨final, each⟩

end Agreement

theorem short_names_roomy (own : Vermyth.ResonanceEngine) (within : NamesWithin 178 own.composition) (intent : Intent)
    (partly : (own.intentVector intent).projectionMethod = .partially) : Roomy own intent := by
  intro sigil resolves
  have name := resolves_name own sigil resolves 178 within
  have intentBasis : (own.intentVector intent).vector.normalizedBasisVersion = own.registry.basisVersion := by
    have constraint : (own.intentVector intent).vector = buildConstraintVector own.math own.registry intent :=
      partial_constraint own.math _ _ partly
    rw [constraint]
    rfl
  have sigilBasis : sigil.semanticVector.normalizedBasisVersion = own.registry.basisVersion := by
    cases resolves with
    | composed aspects sigil made =>
        obtain ⟨-, raw, -, made⟩ := (compose_ok _ _ _ _ _).mp made
        obtain ⟨-, -, rfl⟩ := (resolved_sigil_ok _ _ _ _ _ _ _ _).mp made
        rfl
    | interpolated vector k sigil made =>
        obtain ⟨-, basis, best, -, made⟩ := interpolate_found own vector k sigil made
        obtain ⟨-, rfl⟩ := (fluid_sigil_fields own _ _ best _ sigil).mp made
        exact basis
  have note : basisNote sigil.semanticVector (own.intentVector intent).vector = "" := by
    rw [basisNote, Vermyth.commonBasis, if_pos (sigilBasis.trans intentBasis.symm)]
  refine short_name_fits own.math sigil.face (resolves_ceiling own sigil resolves) _ ?_
  have room : (basisNote sigil.face.semanticVector (own.intentVector intent).vector).length = 0 :=
    congrArg String.length note
  rw [room]
  exact name

theorem engines_agree (engine : ResonanceEngine) (own : Vermyth.ResonanceEngine) (ports : EnginePorts engine own)
    (ceilings : CeilingsValid own.composition.table) (intent : Intent) :
    (∀ aspects distinct set stamp stampOwn, AspectsPort engine.registry aspects set →
      stamp.castId = stampOwn.castId → Agreeing (CastPorts engine own) (engine.cast aspects distinct intent stamp)
        (own.cast set intent stampOwn)) ∧
    ∀ vector vectorOwn, VectorPorts vector vectorOwn →
      (∀ stamp stampOwn, stamp.castId = stampOwn.castId → Agreeing (CastPorts engine own)
        (engine.fluidCast vector intent stamp) (own.fluidCast vectorOwn intent stampOwn)) ∧
      (Roomy own intent → ∀ maxDepth targetResonance blendAlpha stamps stampsOwn, StampsPort stamps stampsOwn →
        Agreeing (ChainPorts engine own intent)
          (engine.autoCast vector intent maxDepth targetResonance blendAlpha stamps)
          (own.autoCast vectorOwn intent maxDepth targetResonance blendAlpha stampsOwn)) := by
  refine ⟨fun aspects distinct set stamp stampOwn aspectPorts ids => ?_, fun vector vectorOwn vectors => ⟨?_, ?_⟩⟩
  · exact cast_alike engine own ports ceilings aspects distinct set aspectPorts intent stamp stampOwn ids
  · intro stamp stampOwn ids
    exact (fluid_cast_alike engine own ports ceilings vector vectorOwn vectors intent stamp stampOwn ids).mono
      fun _ _ chained => chained.cast
  · intro roomy maxDepth targetResonance blendAlpha stamps stampsOwn stampPorts
    exact auto_cast_alike engine own ports ceilings vector vectorOwn vectors intent roomy maxDepth targetResonance
      blendAlpha stamps stampsOwn stampPorts

def hollowPort : ResonanceEngine where
  math := lowCeiling.math
  backend := none
  composition := { table := lowCeiling.composition.table }
  registry := {}
  platform := plainPlatform

theorem hollow_ports : EnginePorts hollowPort lowCeiling where
  math := rfl
  backend := .none
  table := rfl
  contradictions := ⟨fun _ => rfl⟩
  registry :=
    { registered := rfl, basisVersion := Nat.cast_zero.symm
      distinct := by
        rw [Vermyth.AspectRegistry.Distinct]
        decide }

theorem hollow_ceilings : CeilingsValid lowCeiling.composition.table := by
  intro slot member
  obtain rfl := List.mem_singleton.mp member
  decide +kernel

theorem hollow_roomy : Roomy lowCeiling cautious := by
  refine short_names_roomy lowCeiling ?_ cautious rfl
  intro slot member
  obtain rfl := List.mem_singleton.mp member
  decide

def tiltedPort : SemanticVector where
  components := tilted.components
  basisVersion := none
  atLeastSix := tilted_six

def portStamps : ChainStamps where
  cast := fun i => { castId := (numberedStamps.cast i).castId, timestamp := 0 }
  branchId := "branch"

theorem engines_agree_hollow : ∃ result record,
    hollowPort.autoCast tiltedPort cautious 3 (3 / 4) (35 / 100) portStamps = .ok result ∧
      lowCeiling.autoCast tilted cautious 3 (3 / 4) (35 / 100) numberedStamps = .ok record ∧
        record.2.length = 3 ∧ ChainPorts hollowPort lowCeiling cautious result record := by
  have ran : (lowCeiling.autoCast tilted cautious 3 (3 / 4) (35 / 100) numberedStamps).toOption.map
      (fun cast => cast.2.length) = some 3 := by decide +kernel
  have alike := ((engines_agree hollowPort lowCeiling hollow_ports hollow_ceilings cautious).2 tiltedPort tilted
    ⟨rfl, rfl⟩).2 hollow_roomy 3 (3 / 4) (35 / 100) portStamps numberedStamps ⟨fun _ => rfl, rfl⟩
  cases cast : lowCeiling.autoCast tilted cautious 3 (3 / 4) (35 / 100) numberedStamps with
  | error raised =>
      rw [cast] at ran
      contradiction
  | ok record =>
      rw [cast] at ran alike
      obtain ⟨result, made, same⟩ := alike_ok _ _ _ alike
      exact ⟨result, record, made, rfl, Option.some.inj ran, same⟩

end Vermyth.Typescript
