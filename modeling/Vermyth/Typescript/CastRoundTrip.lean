import Vermyth.Typescript.CastRows

set_option autoImplicit false

namespace Vermyth.Typescript

theorem is_js_numbers (components : List ℚ) : IsJs (numbers components) := by
  refine .arr _ fun item member => ?_
  obtain ⟨number, -, rfl⟩ := List.mem_map.mp member
  exact .number number

theorem is_js_or_null {α : Type} (dump : α → Json) (value : Option α) (each : ∀ own ∈ value, IsJs (dump own)) :
    IsJs (orNull dump value) := by
  cases value with
  | none => exact .null
  | some own => exact each own rfl

theorem is_js_vector (vector : SemanticVector) : IsJs (vectorDocument vector) := by
  refine .obj _ (by simp) ?_
  simpa [vectorDocument] using ⟨is_js_numbers _, .number _⟩

theorem is_js_intent (intent : Intent) : IsJs (intentDocument intent) := by
  refine .obj _ (by simp) ?_
  simpa using ⟨.str _, .str _, .str _, .str _⟩

theorem is_js_sigil (sigil : Sigil) : IsJs (sigilDocument sigil) := by
  have aspects : IsJs (.arr (sigil.aspects.map fun aspect => .str aspect.name)) := by
    refine .arr _ fun item member => ?_
    obtain ⟨aspect, -, rfl⟩ := List.mem_map.mp member
    exact .str _
  refine .obj _ (by simp) ?_
  simpa using ⟨.str _, aspects, .str _, .number _, .str _, .str _, is_js_numbers _, .number _, .str _⟩

theorem is_js_resonance (resonance : ResonanceScore) : IsJs (resonanceDocument resonance) := by
  refine .obj _ (by simp) ?_
  simpa using ⟨.number _, .number _, .bool _, .str _⟩

theorem is_js_intent_vector (intent : IntentVector) : IsJs (intentVectorDocument intent) := by
  have semantic := is_js_or_null vectorDocument intent.semanticComponent fun own _ => is_js_vector own
  refine .obj _ (by simp) ?_
  simpa using ⟨is_js_vector _, .str _, is_js_vector _, semantic, .number _⟩

theorem is_js_verdict (verdict : Verdict) : IsJs (verdictDocument verdict) := by
  have reason := is_js_or_null .str verdict.incoherenceReason fun own _ => .str own
  refine .obj _ (by simp) ?_
  simpa using ⟨.str _, is_js_resonance _, .str _, reason, .str _, is_js_intent_vector _⟩

theorem is_js_lineage (lineage : Lineage) : IsJs (lineageDocument lineage) := by
  have divergence := is_js_or_null vectorDocument lineage.divergenceVector fun own _ => is_js_vector own
  refine .obj _ (by simp) ?_
  simpa using ⟨.str _, .number _, .str _, divergence⟩

theorem is_js_provenance (provenance : CastProvenance) : IsJs (provenanceDocument provenance) := by
  have sigil := is_js_or_null .str provenance.crystallizedSigilName fun own _ => .str own
  have generation := is_js_or_null .float provenance.generation fun own _ => .number own
  have coherence := is_js_or_null .float provenance.narrativeCoherence fun own _ => .number own
  have root := is_js_or_null .str provenance.causalRootCastId fun own _ => .str own
  refine .obj _ (by simp) ?_
  simpa using ⟨.str _, sigil, generation, coherence, root⟩

theorem map_m_written {α β γ : Type} (read : β → Except γ α) (write : α → β) (items : List α)
    (each : ∀ item ∈ items, read (write item) = .ok item) : (items.map write).mapM read = .ok items := by
  induction items with
  | nil => rfl
  | cons item rest ih =>
      have later := ih fun other member => each other (List.mem_cons_of_mem _ member)
      simp only [List.map_cons, List.mapM_cons, each item List.mem_cons_self, later]
      rfl

theorem numbers_read (key : String) (components : List ℚ) :
    (components.map Json.float).mapM (numberOf key) = .ok components :=
  map_m_written (numberOf key) .float components fun _ _ => rfl

theorem names_read (key : String) (aspects : List Aspect) :
    (aspects.map fun aspect => Json.str aspect.name).mapM (textOf key) = .ok (aspects.map Aspect.name) := by
  have written := map_m_written (textOf key) .str (aspects.map Aspect.name) fun _ _ => rfl
  rwa [List.map_map] at written

def rebased (dim : Nat) (vector : SemanticVector) : SemanticVector where
  components := pad dim vector.components
  basisVersion := some (normalizedBasisVersion vector)
  atLeastSix := by
    rw [pad, List.length_append]
    exact vector.atLeastSix.trans (Nat.le_add_right _ _)

def restoredVerdict (dim : Nat) (verdict : Verdict) : Verdict :=
  { verdict with
    intentVector :=
      { verdict.intentVector with
        vector := rebased dim verdict.intentVector.vector
        constraintComponent := rebased dim verdict.intentVector.constraintComponent
        semanticComponent := verdict.intentVector.semanticComponent.map (rebased dim) } }

def restoredSigil (dim : Nat) (sigil : Sigil) (resolved : List Aspect) : Sigil :=
  { sigil with
    aspects := newSet resolved
    distinct := new_set_nodup resolved
    semanticVector := rebased dim sigil.semanticVector
    polarity := polarityFromAspects (newSet resolved)
    fluid := none }

theorem read_padded (dim : Nat) (vector : SemanticVector) :
    createSemanticVector (pad dim vector.components) (some (normalizedBasisVersion vector)) =
      .ok (rebased dim vector) :=
  create_vector_ok _ _ (rebased dim vector).atLeastSix

theorem read_vector (dim : Nat) (vector : SemanticVector) :
    readVector dim (vectorDocument vector) = .ok (rebased dim vector) := by
  have components : numbersAt (vectorDocument vector) "components" = .ok vector.components := numbers_read _ _
  have basis : numberAt (vectorDocument vector) "basis_version" = .ok (normalizedBasisVersion vector) := rfl
  rw [readVector, components, basis]
  exact read_padded dim vector

theorem read_optional_vector (dim : Nat) (value : Json) (key : String) (vector : Option SemanticVector)
    (held : property value key = some (orNull vectorDocument vector)) :
    readOptionalVector dim value key = .ok (vector.map (rebased dim)) := by
  rw [readOptionalVector, held]
  cases vector with
  | none => rfl
  | some own => exact congrArg (Except.map some) (read_vector dim own)

theorem read_text_or_null (value : Json) (key : String) (text : Option String)
    (held : property value key = some (orNull .str text)) : textOrNullAt value key = .ok text := by
  rw [textOrNullAt, held]
  cases text with
  | none => rfl
  | some own => rfl

theorem read_member {α : Type} (members : List α) (name : α → String) (value : Json) (key : String) (own : α)
    (member : own ∈ members) (distinct : (members.map name).Nodup)
    (held : property value key = some (.str (name own))) : memberAt members name value key = .ok own := by
  rw [memberAt, held, Option.bind_some, enum_name members name own member distinct]

theorem read_intent (intent : Intent) : readIntent (intentDocument intent) = .ok intent := by
  have reversibility : memberAt ReversibilityClass.all ReversibilityClass.value (intentDocument intent)
      "reversibility" = .ok intent.reversibility :=
    read_member _ _ _ _ _ (by cases intent.reversibility <;> decide) (by decide) rfl
  have tolerance : memberAt SideEffectTolerance.all SideEffectTolerance.value (intentDocument intent)
      "side_effect_tolerance" = .ok intent.sideEffectTolerance :=
    read_member _ _ _ _ _ (by cases intent.sideEffectTolerance <;> decide) (by decide) rfl
  rw [readIntent, reversibility, tolerance]
  rfl

theorem read_intent_vector (dim : Nat) (verdict : Verdict) :
    readIntentVector dim (intentVectorDocument verdict.intentVector) =
      .ok (restoredVerdict dim verdict).intentVector := by
  have method : memberAt ProjectionMethod.all ProjectionMethod.name (intentVectorDocument verdict.intentVector)
      "projection_method" = .ok verdict.intentVector.projectionMethod :=
    read_member _ _ _ _ _ (by cases verdict.intentVector.projectionMethod <;> decide) (by decide) rfl
  have vector : objectAt (intentVectorDocument verdict.intentVector) "vector" =
      .ok (vectorDocument verdict.intentVector.vector) := rfl
  have constraint : objectAt (intentVectorDocument verdict.intentVector) "constraint_component" =
      .ok (vectorDocument verdict.intentVector.constraintComponent) := rfl
  have semantic := read_optional_vector dim (intentVectorDocument verdict.intentVector) "semantic_component"
    verdict.intentVector.semanticComponent rfl
  have confidence : numberAt (intentVectorDocument verdict.intentVector) "confidence" =
      .ok verdict.intentVector.confidence := rfl
  simp only [readIntentVector, method, vector, constraint, semantic, confidence, bind, Except.bind,
    read_vector, pure, Except.pure]
  rfl

theorem read_verdict (dim : Nat) (verdict : Verdict) :
    readVerdict dim (verdictDocument verdict) = .ok (restoredVerdict dim verdict) := by
  have kind : memberAt VerdictType.all VerdictType.value (verdictDocument verdict) "verdict_type" =
      .ok verdict.verdictType :=
    read_member _ _ _ _ _ (by cases verdict.verdictType <;> decide) (by decide) rfl
  have resonance : (objectAt (verdictDocument verdict) "resonance" >>= readResonance) = .ok verdict.resonance := rfl
  have reason := read_text_or_null (verdictDocument verdict) "incoherence_reason" verdict.incoherenceReason rfl
  have intent : objectAt (verdictDocument verdict) "intent_vector" =
      .ok (intentVectorDocument verdict.intentVector) := rfl
  simp only [bind, Except.bind] at resonance
  simp only [readVerdict, kind, reason, intent, bind, Except.bind, read_intent_vector]
  rfl

theorem vector_from_aspects (registry : AspectRegistry) (aspects : List Aspect) :
    ∃ vector, semanticVectorFromAspects registry aspects = .ok vector := by
  have enough : 6 ≤ (registry.fullOrder.map (aspectComponent aspects)).length := by
    rw [List.length_map]
    exact full_order_six registry
  exact ⟨_, create_vector_ok _ _ enough⟩

variable (platform : JsPlatform) (registry : AspectRegistry)

theorem read_sigil (sigil : Sigil) : readSigil platform registry (sigilDocument sigil) =
    ((sigil.aspects.map Aspect.name).mapM (registry.resolve platform)).map
      (restoredSigil registry.dimensionality sigil) := by
  have names : textsAt (sigilDocument sigil) "aspects" = .ok (sigil.aspects.map Aspect.name) := names_read _ _
  have effect : memberAt EffectClass.all EffectClass.name (sigilDocument sigil) "effect_class" =
      .ok sigil.effectClass :=
    read_member _ _ _ _ _ (by cases sigil.effectClass <;> decide) (by decide) rfl
  have severity : memberAt ContradictionSeverity.all ContradictionSeverity.name (sigilDocument sigil)
      "contradiction_severity" = .ok sigil.contradictionSeverity :=
    read_member _ _ _ _ _ (by cases sigil.contradictionSeverity <;> decide) (by decide) rfl
  have stored : numbersAt (sigilDocument sigil) "semantic_vector" = .ok sigil.semanticVector.components :=
    numbers_read _ _
  have name : textAt (sigilDocument sigil) "name" = .ok sigil.name := rfl
  have ceiling : numberAt (sigilDocument sigil) "resonance_ceiling" = .ok sigil.resonanceCeiling := rfl
  have basis : numberAt (sigilDocument sigil) "basis_version" =
      .ok (normalizedBasisVersion sigil.semanticVector) := rfl
  have fingerprint : textAt (sigilDocument sigil) "semantic_fingerprint" = .ok sigil.semanticFingerprint := rfl
  have filled : sigil.semanticVector.components.length ≠ 0 :=
    Nat.ne_of_gt (Nat.lt_of_lt_of_le (Nat.succ_pos 5) sigil.semanticVector.atLeastSix)
  simp only [readSigil, names, name, effect, ceiling, severity, stored, basis, fingerprint, if_neg filled,
    read_padded, bind, Except.bind]
  cases (sigil.aspects.map Aspect.name).mapM (registry.resolve platform) with
  | error raised => rfl
  | ok resolved =>
      obtain ⟨own, made⟩ := vector_from_aspects registry (newSet resolved)
      simp only [buildSigil, made, bind, Except.bind]
      rfl

def restored (result : CastResult) (resolved : List Aspect) : ReadCast where
  castId := result.castId
  timestamp := platform.newDate (platform.toISOString result.timestamp)
  intent := result.intent
  sigil := restoredSigil registry.dimensionality result.sigil resolved
  verdict := restoredVerdict registry.dimensionality result.verdict
  lineage := result.lineage.map lineageDocument
  glyphSeedId := result.glyphSeedId
  provenance := result.provenance.map provenanceDocument

section Parses

variable (parses : platform.Parses)
include parses

theorem parse_or_null {α : Type} (document : α → Json) (value : Option α)
    (each : ∀ own ∈ value, IsJs (document own)) :
    parseOrNull platform (value.map fun own => platform.stringify (document own)) = .ok (value.map document) := by
  cases value with
  | none => rfl
  | some own => exact congrArg (Except.map some) (parses _ (each own rfl))

theorem deserialize_serialized (result : CastResult) :
    deserializeCastResult platform registry (serializeCastResultRow platform registry result) =
      ((result.sigil.aspects.map Aspect.name).mapM (registry.resolve platform)).map
        (restored platform registry result) := by
  have lineage := parse_or_null platform parses lineageDocument result.lineage fun own _ => is_js_lineage own
  have provenance := parse_or_null platform parses provenanceDocument result.provenance fun own _ =>
    is_js_provenance own
  simp only [deserializeCastResult, serializeCastResultRow, parses _ (is_js_intent _), parses _ (is_js_sigil _),
    parses _ (is_js_verdict _), lineage, provenance, read_intent, read_sigil, read_verdict, bind, Except.bind]
  cases (result.sigil.aspects.map Aspect.name).mapM (registry.resolve platform) with
  | error raised => rfl
  | ok resolved => rfl

end Parses

end Vermyth.Typescript
