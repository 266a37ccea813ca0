import Vermyth.Typescript.CastRoundTrip

set_option autoImplicit false

namespace Vermyth.Typescript

structure VectorAgrees (vector read : SemanticVector) : Prop where
  components : ∃ zeros, read.components = vector.components ++ List.replicate zeros 0
  basisVersion : read.basisVersion = vector.basisVersion

structure SigilAgrees (sigil read : Sigil) : Prop where
  name : read.name = sigil.name
  aspects : ∀ aspect, aspect ∈ read.aspects ↔ aspect ∈ sigil.aspects
  effectClass : read.effectClass = sigil.effectClass
  resonanceCeiling : read.resonanceCeiling = sigil.resonanceCeiling
  contradictionSeverity : read.contradictionSeverity = sigil.contradictionSeverity
  semanticFingerprint : read.semanticFingerprint = sigil.semanticFingerprint
  semanticVector : VectorAgrees sigil.semanticVector read.semanticVector
  polarity : read.polarity = sigil.polarity
  fluid : read.fluid = sigil.fluid

structure VerdictAgrees (verdict read : Verdict) : Prop where
  verdictType : read.verdictType = verdict.verdictType
  resonance : read.resonance = verdict.resonance
  effectDescription : read.effectDescription = verdict.effectDescription
  incoherenceReason : read.incoherenceReason = verdict.incoherenceReason
  castingNote : read.castingNote = verdict.castingNote
  vector : VectorAgrees verdict.intentVector.vector read.intentVector.vector
  projectionMethod : read.intentVector.projectionMethod = verdict.intentVector.projectionMethod
  constraintComponent : VectorAgrees verdict.intentVector.constraintComponent read.intentVector.constraintComponent
  semanticComponent :
    Option.Rel VectorAgrees verdict.intentVector.semanticComponent read.intentVector.semanticComponent
  confidence : read.intentVector.confidence = verdict.intentVector.confidence

-- value?.[key] ?? null
def present (value : Json) (key : String) : Option Json :=
  match property value key with
  | some .null => none
  | other => other

def VectorReads (vector : SemanticVector) (read : Json) : Prop :=
  (∃ zeros, present read "components" = some (numbers (vector.components ++ List.replicate zeros 0))) ∧
    present read "basisVersion" = vector.basisVersion.map .float

structure LineageReads (lineage : Lineage) (read : Json) : Prop where
  parentCastId : present read "parentCastId" = some (.str lineage.parentCastId)
  depth : present read "depth" = some (.float lineage.depth)
  branchId : present read "branchId" = some (.str lineage.branchId)
  divergenceVector : Option.Rel VectorReads lineage.divergenceVector (present read "divergenceVector")

structure ProvenanceReads (provenance : CastProvenance) (read : Json) : Prop where
  source : present read "source" = some (.str provenance.source.text)
  crystallizedSigilName : present read "crystallizedSigilName" = provenance.crystallizedSigilName.map .str
  generation : present read "generation" = provenance.generation.map .float
  narrativeCoherence : present read "narrativeCoherence" = provenance.narrativeCoherence.map .float
  causalRootCastId : present read "causalRootCastId" = provenance.causalRootCastId.map .str

structure Agrees (result : CastResult) (read : ReadCast) : Prop where
  lineage : Option.Rel LineageReads result.lineage read.lineage
  provenance : Option.Rel ProvenanceReads result.provenance read.provenance
  sigil : SigilAgrees result.sigil read.sigil
  verdict : VerdictAgrees result.verdict read.verdict

def RoundTrips (platform : JsPlatform) (registry : AspectRegistry) (result : CastResult) : Prop :=
  ∃ read, deserializeCastResult platform registry (serializeCastResultRow platform registry result) = .ok read ∧
    Agrees result read

def SemanticVector.WholeBasis (vector : SemanticVector) : Prop := ∃ whole : Int, vector.basisVersion = some ↑whole

structure Verdict.WholeBases (verdict : Verdict) : Prop where
  vector : verdict.intentVector.vector.WholeBasis
  constraintComponent : verdict.intentVector.constraintComponent.WholeBasis
  semanticComponent : ∀ own ∈ verdict.intentVector.semanticComponent, own.WholeBasis

structure Sigil.Kept (platform : JsPlatform) (registry : AspectRegistry) (sigil : Sigil) : Prop where
  aspects : ∀ aspect ∈ sigil.aspects, registry.resolve platform aspect.name = .ok aspect
  semanticVector : sigil.semanticVector.WholeBasis
  polarity : sigil.polarity = polarityFromAspects sigil.aspects
  plain : sigil.fluid = none

structure CastProvenance.Kept (provenance : CastProvenance) : Prop where
  crystallizedSigilName : provenance.crystallizedSigilName = none
  narrativeCoherence : provenance.narrativeCoherence = none
  causalRootCastId : provenance.causalRootCastId = none

structure CastResult.Kept (platform : JsPlatform) (registry : AspectRegistry) (result : CastResult) : Prop where
  lineage : result.lineage = none
  provenance : ∀ own ∈ result.provenance, own.Kept
  sigil : result.sigil.Kept platform registry
  verdict : result.verdict.WholeBases

theorem basis_floor (vector : SemanticVector) (version : ℚ) (own : vector.basisVersion = some version) :
    normalizedBasisVersion vector = ⌊version⌋ := by
  rw [normalizedBasisVersion, own]

theorem rebased_agrees (dim : Nat) (vector : SemanticVector) :
    VectorAgrees vector (rebased dim vector) ↔ vector.WholeBasis := by
  constructor
  · intro agrees
    have basis : vector.basisVersion = some (normalizedBasisVersion vector) := agrees.basisVersion.symm
    cases own : vector.basisVersion with
    | none =>
        rw [own] at basis
        contradiction
    | some version =>
        rw [own, basis_floor vector version own] at basis
        exact ⟨⌊version⌋, own.trans basis⟩
  · rintro ⟨whole, basis⟩
    have floor := basis_floor vector whole basis
    rw [Int.floor_intCast] at floor
    exact ⟨⟨_, rfl⟩, (congrArg some floor).trans basis.symm⟩

theorem rebased_optional_agrees (dim : Nat) (vector : Option SemanticVector) :
    Option.Rel VectorAgrees vector (vector.map (rebased dim)) ↔ ∀ own ∈ vector, own.WholeBasis := by
  cases vector with
  | none => simp
  | some own => simp [rebased_agrees]

theorem restored_verdict_agrees (dim : Nat) (verdict : Verdict) :
    VerdictAgrees verdict (restoredVerdict dim verdict) ↔ verdict.WholeBases := by
  constructor
  · intro agrees
    exact ⟨(rebased_agrees dim _).mp agrees.vector, (rebased_agrees dim _).mp agrees.constraintComponent,
      (rebased_optional_agrees dim _).mp agrees.semanticComponent⟩
  · intro bases
    exact ⟨rfl, rfl, rfl, rfl, rfl, (rebased_agrees dim _).mpr bases.vector, rfl,
      (rebased_agrees dim _).mpr bases.constraintComponent,
      (rebased_optional_agrees dim _).mpr bases.semanticComponent, rfl⟩

theorem lineage_document_lost (lineage : Lineage) : ¬ LineageReads lineage (lineageDocument lineage) := by
  intro reads
  have absent : present (lineageDocument lineage) "parentCastId" = none := rfl
  rw [reads.parentCastId] at absent
  contradiction

theorem lineage_agrees (lineage : Option Lineage) :
    Option.Rel LineageReads lineage (lineage.map lineageDocument) ↔ lineage = none := by
  cases lineage with
  | none => simp
  | some own => simpa using lineage_document_lost own

theorem provenance_document_kept (provenance : CastProvenance) :
    ProvenanceReads provenance (provenanceDocument provenance) ↔ provenance.Kept := by
  have generation : present (provenanceDocument provenance) "generation" = provenance.generation.map .float := by
    cases own : provenance.generation with
    | none => simp [present, property, provenanceDocument, List.lookup_cons, orNull, own]
    | some number => simp [present, property, provenanceDocument, List.lookup_cons, orNull, own]
  constructor
  · intro reads
    refine ⟨?_, ?_, ?_⟩
    · exact Option.map_eq_none_iff.mp reads.crystallizedSigilName.symm
    · exact Option.map_eq_none_iff.mp reads.narrativeCoherence.symm
    · exact Option.map_eq_none_iff.mp reads.causalRootCastId.symm
  · intro kept
    refine ⟨rfl, ?_, generation, ?_, ?_⟩
    · rw [kept.crystallizedSigilName]
      rfl
    · rw [kept.narrativeCoherence]
      rfl
    · rw [kept.causalRootCastId]
      rfl

theorem provenance_agrees (provenance : Option CastProvenance) :
    Option.Rel ProvenanceReads provenance (provenance.map provenanceDocument) ↔ ∀ own ∈ provenance, own.Kept := by
  cases provenance with
  | none => simp
  | some own => simp [provenance_document_kept]

section Resolved

variable (platform : JsPlatform) (registry : AspectRegistry)

theorem map_m_ok_iff {α β γ : Type} (read : α → Except γ β) (items : List α) :
    (∃ values, items.mapM read = .ok values) ↔ ∀ item ∈ items, ∃ value, read item = .ok value := by
  constructor
  · rintro ⟨values, mapped⟩ item member
    obtain ⟨value, -, made⟩ := map_m_each read items values mapped item member
    exact ⟨value, made⟩
  · exact map_m_total read items

theorem resolved_agree (aspects resolved : List Aspect)
    (mapped : (aspects.map Aspect.name).mapM (registry.resolve platform) = .ok resolved)
    (same : ∀ aspect, aspect ∈ resolved ↔ aspect ∈ aspects) :
    ∀ aspect ∈ aspects, registry.resolve platform aspect.name = .ok aspect := by
  intro aspect member
  obtain ⟨name, -, found⟩ := map_m_mem _ _ _ mapped aspect ((same aspect).mpr member)
  rwa [← resolve_name registry platform name aspect found] at found

theorem restored_sigil_agrees (dim : Nat) (sigil : Sigil) (resolved : List Aspect)
    (mapped : (sigil.aspects.map Aspect.name).mapM (registry.resolve platform) = .ok resolved) :
    SigilAgrees sigil (restoredSigil dim sigil resolved) ↔ sigil.Kept platform registry := by
  constructor
  · intro agrees
    have same : ∀ aspect, aspect ∈ resolved ↔ aspect ∈ sigil.aspects := fun aspect =>
      (mem_new_set resolved aspect).symm.trans (agrees.aspects aspect)
    have each := resolved_agree platform registry sigil.aspects resolved mapped same
    have whole := map_m_written (registry.resolve platform) Aspect.name sigil.aspects each
    obtain rfl := Except.ok.inj (mapped.symm.trans whole)
    have polarity : polarityFromAspects (newSet sigil.aspects) = sigil.polarity := agrees.polarity
    rw [new_set_distinct _ sigil.distinct] at polarity
    exact ⟨each, (rebased_agrees dim _).mp agrees.semanticVector, polarity.symm, agrees.fluid.symm⟩
  · intro kept
    have whole := map_m_written (registry.resolve platform) Aspect.name sigil.aspects kept.aspects
    obtain rfl := Except.ok.inj (mapped.symm.trans whole)
    have polarity : polarityFromAspects (newSet sigil.aspects) = sigil.polarity := by
      rw [new_set_distinct _ sigil.distinct, kept.polarity]
    exact ⟨rfl, mem_new_set _, rfl, rfl, rfl, rfl, (rebased_agrees dim _).mpr kept.semanticVector, polarity,
      kept.plain.symm⟩

theorem restored_agrees (result : CastResult) (resolved : List Aspect)
    (mapped : (result.sigil.aspects.map Aspect.name).mapM (registry.resolve platform) = .ok resolved) :
    Agrees result (restored platform registry result resolved) ↔ result.Kept platform registry := by
  have sigil := restored_sigil_agrees platform registry registry.dimensionality result.sigil resolved mapped
  have verdict := restored_verdict_agrees registry.dimensionality result.verdict
  constructor
  · intro agrees
    exact ⟨(lineage_agrees _).mp agrees.lineage, (provenance_agrees _).mp agrees.provenance, sigil.mp agrees.sigil,
      verdict.mp agrees.verdict⟩
  · intro kept
    exact ⟨(lineage_agrees _).mpr kept.lineage, (provenance_agrees _).mpr kept.provenance, sigil.mpr kept.sigil,
      verdict.mpr kept.verdict⟩

theorem round_trips_kept (parses : platform.Parses) (result : CastResult) :
    RoundTrips platform registry result ↔ result.Kept platform registry := by
  rw [RoundTrips, deserialize_serialized platform registry parses result]
  constructor
  · rintro ⟨read, back, agrees⟩
    cases mapped : (result.sigil.aspects.map Aspect.name).mapM (registry.resolve platform) with
    | error raised =>
        rw [mapped] at back
        contradiction
    | ok resolved =>
        rw [mapped] at back
        obtain rfl := Except.ok.inj back
        exact (restored_agrees platform registry result resolved mapped).mp agrees
  · intro kept
    have whole := map_m_written (registry.resolve platform) Aspect.name result.sigil.aspects kept.sigil.aspects
    rw [whole]
    exact ⟨_, rfl, (restored_agrees platform registry result _ whole).mpr kept⟩

end Resolved

end Vermyth.Typescript
