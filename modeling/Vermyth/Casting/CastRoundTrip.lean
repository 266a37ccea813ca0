import Vermyth.Casting.BasisMismatch
import Vermyth.Casting.CastRows
import Vermyth.Grimoire.Restart

set_option autoImplicit false

namespace Vermyth

open Foundation

theorem distinct_floats (values : List ℚ) : distinctItems (values.map Json.float) = true := by
  induction values with
  | nil => rfl
  | cons value rest ih => simpa [distinctItems, Json.distinct] using ih

theorem distinct_or_null {α : Type} (dump : α → Json) (value : Option α)
    (each : ∀ own ∈ value, (dump own).distinct = true) : (orNull dump value).distinct = true := by
  cases value with
  | none => rfl
  | some own => exact each own rfl

theorem distinct_vector_dump (vector : SemanticVector) : vector.modelDump.distinct = true := by
  have basis := distinct_or_null (fun version : Nat => .int version) vector.basisVersion fun _ _ => rfl
  simp [SemanticVector.modelDump, Json.distinct, distinctFields, distinct_floats, basis]

theorem distinct_intent_dump (intent : Intent) : intent.modelDump.distinct = true := rfl

theorem distinct_lineage_dump (lineage : Lineage) : lineage.modelDump.distinct = true := by
  have divergence := distinct_or_null SemanticVector.modelDump lineage.divergenceVector
    fun vector _ => distinct_vector_dump vector
  simp [Lineage.modelDump, Json.distinct, distinctFields, divergence]

theorem distinct_provenance_dump (provenance : CastProvenance) : provenance.modelDump.distinct = true := by
  have name := distinct_or_null .str provenance.crystallizedSigilName fun _ _ => rfl
  have generation := distinct_or_null (fun own : Nat => .int own) provenance.generation fun _ _ => rfl
  have coherence := distinct_or_null .float provenance.narrativeCoherence fun _ _ => rfl
  have root := distinct_or_null .str provenance.causalRootCastId fun _ _ => rfl
  simp [CastProvenance.modelDump, Json.distinct, distinctFields, name, generation, coherence, root]

theorem distinct_sigil_document (sigil : WholeSigil) : sigil.document.distinct = true := by
  simp [WholeSigil.document, Json.distinct, distinctFields, distinct_floats, distinct_names]

theorem distinct_vector_document (vector : SemanticVector) : vector.document.distinct = true := by
  simp [SemanticVector.document, Json.distinct, distinctFields, distinct_floats]

theorem distinct_verdict_document (verdict : WholeVerdict) : verdict.document.distinct = true := by
  have component := distinct_or_null SemanticVector.document verdict.intentVector.semanticComponent
    fun vector _ => distinct_vector_document vector
  have reason := distinct_or_null .str verdict.incoherenceReason fun _ _ => rfl
  simp [WholeVerdict.document, IntentVector.document, ScoredResonance.document, Json.distinct, distinctFields,
    distinct_vector_document, component, reason]

theorem IntentVector.restored_valid (registry : AspectRegistry) (intent : IntentVector) (valid : intent.Valid) :
    (intent.restored registry).Valid := by
  refine ⟨valid.confidence, ?_, valid.part⟩
  intro full
  exact (Option.isSome_map ..).trans (valid.full full)

def WholeSigil.restored (aspects : AspectSet) (sigil : WholeSigil) : WholeSigil :=
  { sigil with aspects := aspects, semanticVector := sigil.semanticVector.stored, fluid := none }

def WholeVerdict.restored (registry : AspectRegistry) (verdict : WholeVerdict) : WholeVerdict :=
  { verdict with
    intentVector := verdict.intentVector.restored registry
    intentVectorValid := verdict.intentVector.restored_valid registry verdict.intentVectorValid }

def WholeCast.restored (registry : AspectRegistry) (aspects : AspectSet) (result : WholeCast) : WholeCast :=
  { result with
    sigil := result.sigil.restored aspects
    verdict := result.verdict.restored registry }

theorem vector_of_stored (components : List ℚ) (atLeastSix : 6 ≤ components.length) (basisVersion : Nat) :
    CastCodec.vectorOf components basisVersion = .ok { components, basisVersion := some basisVersion, atLeastSix } := by
  apply (bind_ok _ _ _).mpr
  exact ⟨_, dif_pos atLeastSix, if_pos (Int.natCast_nonneg basisVersion)⟩

theorem bind_step {α β : Type} {action : Except PyError α} {value : α} (ok : action = .ok value)
    (next : α → Except PyError β) : (action >>= next) = next value := by
  rw [ok]
  rfl

theorem EffectClass.mem_all (own : EffectClass) : own ∈ EffectClass.all := by cases own <;> decide
theorem ContradictionSeverity.mem_all (own : ContradictionSeverity) : own ∈ ContradictionSeverity.all := by
  cases own <;> decide
theorem Polarity.mem_all (own : Polarity) : own ∈ Polarity.all := by cases own <;> decide
theorem VerdictType.mem_all (own : VerdictType) : own ∈ VerdictType.all := by cases own <;> decide
theorem ProjectionMethod.mem_all (own : ProjectionMethod) : own ∈ ProjectionMethod.all := by cases own <;> decide

theorem valid_field_ok {α : Type} (read : Json → Option α) (value : Json) (model field : String) (own : α)
    (reads : read value = some own) : CastCodec.validField read value model field = .ok own := by
  rw [CastCodec.validField, reads]
  rfl

namespace CastCodec

variable (codec : CastCodec) (standard : codec.Standard)

include standard

theorem loads_dumped (value : Json) (distinct : value.distinct = true) :
    codec.loadsJson (codec.dumpsJson value) = .ok value := by
  rw [loadsJson, dumpsJson, loads_dumps .default standard.json value distinct]
  rfl

theorem validate_dumped {α : Type} (validate : Json → Except PyError α) (value : Json)
    (distinct : value.distinct = true) : codec.modelValidateJson validate (codec.modelDumpJson value) = validate value := by
  rw [modelValidateJson, modelDumpJson, loads_dumps .compact standard.pydantic value distinct]
  rfl

theorem floats_read (values : List ℚ) : codec.readFloats (.arr (values.map .float)) = .ok values := by
  apply (bind_ok _ _ _).mpr
  refine ⟨values.map Json.float, rfl, ?_⟩
  induction values with
  | nil => rfl
  | cons value rest ih =>
      rw [List.map_cons, List.mapM_cons, standard.float value, ih]
      rfl

theorem resonance_read (resonance : ScoredResonance) : codec.readResonance resonance.document = .ok resonance := by
  have read (value : ℚ) : codec.coerce.float? (.float value) = some value := standard.keeps.float value
  have bool (value : Bool) : codec.coerce.bool? (.bool value) = some value := standard.keeps.bool value
  apply (bind_ok _ _ _).mpr
  refine ⟨.float resonance.raw, rfl, ?_⟩
  apply (bind_ok _ _ _).mpr
  refine ⟨.float resonance.adjusted, rfl, ?_⟩
  apply (bind_ok _ _ _).mpr
  refine ⟨.bool resonance.ceilingApplied, rfl, ?_⟩
  apply (bind_ok _ _ _).mpr
  refine ⟨.str resonance.proof, rfl, ?_⟩
  apply (bind_ok _ _ _).mpr
  refine ⟨resonance.raw, valid_field_ok _ _ _ _ _ (read resonance.raw), ?_⟩
  apply (bind_ok _ _ _).mpr
  refine ⟨resonance.adjusted, valid_field_ok _ _ _ _ _ (read resonance.adjusted), ?_⟩
  apply (bind_ok _ _ _).mpr
  refine ⟨resonance.ceilingApplied, valid_field_ok _ _ _ _ _ (bool resonance.ceilingApplied), ?_⟩
  apply (bind_ok _ _ _).mpr
  refine ⟨resonance.proof, rfl, ?_⟩
  rw [ScoredResonance.make, dif_pos resonance.rawInRange, dif_pos resonance.adjustedInRange, dif_pos resonance.proofFits]

theorem padded_read (registry : AspectRegistry) (vector : SemanticVector) :
    codec.paddedFloats registry (.arr (vector.components.map .float)) = .ok (vector.restored registry).components := by
  apply (bind_ok _ _ _).mpr
  exact ⟨vector.components, codec.floats_read standard vector.components, rfl⟩

theorem semantic_component_read (registry : AspectRegistry) (castBasis : Int) (component : Option SemanticVector) :
    codec.readSemanticComponent registry castBasis (orNull SemanticVector.document component) =
      .ok (component.map fun vector => vector.restored registry) := by
  cases component with
  | none => rfl
  | some vector =>
      apply (bind_ok _ _ _).mpr
      refine ⟨(.arr (vector.components.map .float), (vector.normalizedBasisVersion : Int)), rfl, ?_⟩
      apply (bind_ok _ _ _).mpr
      refine ⟨(vector.restored registry).components, codec.padded_read standard registry vector, ?_⟩
      apply (bind_ok _ _ _).mpr
      exact ⟨vector.restored registry, vector_of_stored _ (vector.restored registry).atLeastSix _, rfl⟩

theorem intent_vector_read (registry : AspectRegistry) (castBasis : Int) (intent : IntentVector) (valid : intent.Valid) :
    codec.readIntentVector registry castBasis intent.document =
      .ok ⟨intent.restored registry, intent.restored_valid registry valid⟩ := by
  have confidence : codec.coerce.float? (.float intent.confidence) = some intent.confidence :=
    standard.keeps.float intent.confidence
  apply (bind_ok _ _ _).mpr
  refine ⟨intent.vector.document, rfl, ?_⟩
  apply (bind_ok _ _ _).mpr
  refine ⟨intent.constraintComponent.document, rfl, ?_⟩
  apply (bind_ok _ _ _).mpr
  refine ⟨(.arr (intent.vector.components.map .float), (intent.vector.normalizedBasisVersion : Int)), rfl, ?_⟩
  apply (bind_ok _ _ _).mpr
  refine ⟨(.arr (intent.constraintComponent.components.map .float),
    (intent.constraintComponent.normalizedBasisVersion : Int)), rfl, ?_⟩
  apply (bind_ok _ _ _).mpr
  refine ⟨(intent.vector.restored registry).components, codec.padded_read standard registry intent.vector, ?_⟩
  apply (bind_ok _ _ _).mpr
  refine ⟨(intent.constraintComponent.restored registry).components,
    codec.padded_read standard registry intent.constraintComponent, ?_⟩
  apply (bind_ok _ _ _).mpr
  refine ⟨intent.vector.restored registry, vector_of_stored _ (intent.vector.restored registry).atLeastSix _, ?_⟩
  apply (bind_ok _ _ _).mpr
  refine ⟨intent.constraintComponent.restored registry,
    vector_of_stored _ (intent.constraintComponent.restored registry).atLeastSix _, ?_⟩
  apply (bind_ok _ _ _).mpr
  refine ⟨orNull SemanticVector.document intent.semanticComponent, rfl, ?_⟩
  apply (bind_ok _ _ _).mpr
  refine ⟨_, codec.semantic_component_read standard registry castBasis intent.semanticComponent, ?_⟩
  apply (bind_ok _ _ _).mpr
  refine ⟨.str intent.projectionMethod.name, rfl, ?_⟩
  apply (bind_ok _ _ _).mpr
  refine ⟨intent.projectionMethod,
    enum_named_name _ _ _ (ProjectionMethod.mem_all intent.projectionMethod) (by decide), ?_⟩
  apply (bind_ok _ _ _).mpr
  refine ⟨.float intent.confidence, rfl, ?_⟩
  apply (bind_ok _ _ _).mpr
  refine ⟨intent.confidence, valid_field_ok _ _ _ _ _ confidence, ?_⟩
  have restored := intent.restored_valid registry valid
  exact (dif_pos restored.confidence).trans ((dif_pos restored.full).trans (dif_pos restored.part))

theorem verdict_read (registry : AspectRegistry) (castBasis : Int) (verdict : WholeVerdict) :
    codec.readVerdict registry castBasis verdict.document = .ok (verdict.restored registry) := by
  apply (bind_ok _ _ _).mpr
  refine ⟨verdict.resonance.document, rfl, ?_⟩
  apply (bind_ok _ _ _).mpr
  refine ⟨verdict.resonance, codec.resonance_read standard verdict.resonance, ?_⟩
  apply (bind_ok _ _ _).mpr
  refine ⟨verdict.intentVector.document, rfl, ?_⟩
  apply (bind_ok _ _ _).mpr
  refine ⟨_, codec.intent_vector_read standard registry castBasis _ verdict.intentVectorValid, ?_⟩
  apply (bind_ok _ _ _).mpr
  refine ⟨.str verdict.verdictType.value, rfl, ?_⟩
  apply (bind_ok _ _ _).mpr
  refine ⟨verdict.verdictType, enum_named_name _ _ _ (VerdictType.mem_all verdict.verdictType) (by decide), ?_⟩
  apply (bind_ok _ _ _).mpr
  refine ⟨.str verdict.effectDescription, rfl, ?_⟩
  apply (bind_ok _ _ _).mpr
  refine ⟨orNull .str verdict.incoherenceReason, rfl, ?_⟩
  apply (bind_ok _ _ _).mpr
  refine ⟨.str verdict.castingNote, rfl, ?_⟩
  apply (bind_ok _ _ _).mpr
  refine ⟨verdict.effectDescription, rfl, ?_⟩
  apply (bind_ok _ _ _).mpr
  refine ⟨verdict.incoherenceReason, valid_field_ok _ _ _ _ _ (nullable_text _), ?_⟩
  apply (bind_ok _ _ _).mpr
  refine ⟨verdict.castingNote, rfl, ?_⟩
  rw [verdictOf, dif_pos verdict.effectFits, dif_pos verdict.noteFits]
  rfl

theorem fingerprint_read (text : String) :
    (((some (Json.str text)).filter Json.truthy).map codec.pyStr).getD "" = text := by
  by_cases empty : text = ""
  · rw [empty]
    rfl
  · have solid : Json.truthy (.str text) = true := bne_iff_ne.mpr empty
    rw [Option.filter_some, if_pos solid, Option.map_some, Option.getD_some, standard.str]

theorem sigil_read (row : CastRow) (aspects : AspectSet) (sigil : WholeSigil) :
    codec.readSigil row aspects sigil.semanticVector.normalizedBasisVersion sigil.document =
      .ok (sigil.restored aspects) := by
  have polarity : enumNamed Polarity.all Polarity.name (.str (codec.pyStr (.str sigil.polarity.name))) =
      .ok sigil.polarity := by
    rw [standard.str]
    exact enum_named_name _ _ _ (Polarity.mem_all sigil.polarity) (by decide)
  apply (bind_ok _ _ _).mpr
  refine ⟨.arr (sigil.semanticVector.components.map .float), rfl, ?_⟩
  apply (bind_ok _ _ _).mpr
  refine ⟨.str sigil.name, rfl, ?_⟩
  apply (bind_ok _ _ _).mpr
  refine ⟨.str sigil.effectClass.name, rfl, ?_⟩
  apply (bind_ok _ _ _).mpr
  refine ⟨sigil.effectClass, enum_named_name _ _ _ (EffectClass.mem_all sigil.effectClass) (by decide), ?_⟩
  apply (bind_ok _ _ _).mpr
  refine ⟨.float sigil.resonanceCeiling, rfl, ?_⟩
  apply (bind_ok _ _ _).mpr
  refine ⟨sigil.resonanceCeiling, standard.float sigil.resonanceCeiling, ?_⟩
  apply (bind_ok _ _ _).mpr
  refine ⟨.str sigil.contradictionSeverity.name, rfl, ?_⟩
  apply (bind_ok _ _ _).mpr
  refine ⟨sigil.contradictionSeverity,
    enum_named_name _ _ _ (ContradictionSeverity.mem_all sigil.contradictionSeverity) (by decide), ?_⟩
  apply (bind_ok _ _ _).mpr
  refine ⟨some (.str sigil.semanticFingerprint), rfl, ?_⟩
  apply (bind_ok _ _ _).mpr
  refine ⟨sigil.semanticVector.components, codec.floats_read standard sigil.semanticVector.components, ?_⟩
  apply (bind_ok _ _ _).mpr
  refine ⟨sigil.semanticVector.stored, vector_of_stored _ sigil.semanticVector.atLeastSix _, ?_⟩
  apply (bind_ok _ _ _).mpr
  refine ⟨.str sigil.polarity.name, rfl, ?_⟩
  apply (bind_ok _ _ _).mpr
  refine ⟨sigil.polarity, polarity, ?_⟩
  rw [codec.fingerprint_read standard, standard.str]
  rfl

theorem lineage_read (drawn : String) (lineage : Option Lineage) :
    codec.readLineage drawn (lineage.map fun own => codec.modelDumpJson own.modelDump) = .ok lineage := by
  cases lineage with
  | none => rfl
  | some own =>
      rw [Option.map_some, readLineage, codec.validate_dumped standard _ _ (distinct_lineage_dump own),
        lineage_kept standard.keeps drawn own]
      rfl

theorem provenance_read (row : CastRow) (provenance : Option CastProvenance)
    (json : row.provenanceJson = provenance.map fun own => codec.modelDumpJson own.modelDump)
    (coherence : row.narrativeCoherence = provenance.bind CastProvenance.narrativeCoherence)
    (root : row.causalRootCastId = provenance.bind CastProvenance.causalRootCastId) :
    codec.readProvenance row = .ok provenance := by
  cases provenance with
  | none =>
      rw [readProvenance, json, coherence, root]
      rfl
  | some own =>
      rw [readProvenance, json, Option.map_some]
      simp only [codec.validate_dumped standard _ _ (distinct_provenance_dump own), provenance_kept standard.keeps own]
      rfl

omit standard in
theorem aspects_read (registry : AspectRegistry) (names : List String) :
    (names.map Json.str).mapM (resolveItem registry) = resolveNames registry names := by
  rw [resolveNames, List.mapM_map]
  rfl

theorem deserialize_serialized (written reader : AspectRegistry) (order : SetOrder) (drawn : String)
    (result : WholeCast) :
    codec.deserializeCastResult reader order drawn (codec.serializeCastResult written result) =
      (resolveNames reader result.sigil.aspects.names).map fun aspects =>
        result.restored reader (.build order (aspects.map Aspect.name)) := by
  have intent := (codec.validate_dumped standard BoundedIntent.modelValidate _
    (distinct_intent_dump result.intent.toIntent)).trans (intent_kept result.intent)
  have sigil := codec.loads_dumped standard _ (distinct_sigil_document result.sigil)
  have named : item result.sigil.document "aspects" = .ok (.arr (result.sigil.aspects.names.map .str)) := rfl
  have listed : iterate (.arr (result.sigil.aspects.names.map .str)) = .ok (result.sigil.aspects.names.map .str) := rfl
  refine (bind_step intent _).trans ?_
  refine (bind_step sigil _).trans ?_
  refine (bind_step named _).trans ?_
  refine (bind_step listed _).trans ?_
  rw [aspects_read]
  cases resolved : resolveNames reader result.sigil.aspects.names with
  | error raised => rfl
  | ok aspects =>
      apply (bind_ok _ _ _).mpr
      refine ⟨aspects, rfl, ?_⟩
      apply (bind_ok _ _ _).mpr
      refine ⟨result.sigil.restored (.build order (aspects.map Aspect.name)), codec.sigil_read standard _ _ result.sigil, ?_⟩
      apply (bind_ok _ _ _).mpr
      refine ⟨result.verdict.document, codec.loads_dumped standard _ (distinct_verdict_document result.verdict), ?_⟩
      apply (bind_ok _ _ _).mpr
      refine ⟨result.verdict.restored reader, codec.verdict_read standard reader _ result.verdict, ?_⟩
      apply (bind_ok _ _ _).mpr
      refine ⟨result.lineage, codec.lineage_read standard drawn result.lineage, ?_⟩
      apply (bind_ok _ _ _).mpr
      refine ⟨result.provenance, codec.provenance_read standard _ result.provenance rfl rfl rfl, ?_⟩
      apply (bind_ok _ _ _).mpr
      refine ⟨result.timestamp, ?_, rfl⟩
      change readTimestamp result.timestamp.isoformat = _
      rw [readTimestamp, fromisoformat_isoformat]
      rfl

end CastCodec

structure CastStore where
  registry : AspectRegistry
  casts : CastTable := Table.empty

inductive StoreCall where
  | register (aspect : RegisteredAspect)
  | write (result : WholeCast)
  | delete (castId : String)
  | restart (registry : AspectRegistry)

-- A call that raises changes nothing.
def CastStore.take (codec : CastCodec) (store : CastStore) : StoreCall → CastStore
  | .register aspect => { store with registry := (store.registry.register aspect).toOption.getD store.registry }
  | .write result => { store with casts := (codec.write store.registry result store.casts).toOption.getD store.casts }
  | .delete castId => { store with casts := (deleteCast castId store.casts).toOption.getD store.casts }
  | .restart registry => { store with registry := registry }

theorem write_cast_row (codec : CastCodec) (registry : AspectRegistry) (result : WholeCast) (table written : CastTable)
    (wrote : codec.write registry result table = .ok written) :
    ¬ table.Has result.castId ∧ written.rows = table.rows ++ [codec.serializeCastResult registry result] := by
  rw [CastCodec.write] at wrote
  by_cases taken : table.Has result.castId
  · rw [Table.insert_taken table (codec.serializeCastResult registry result) taken] at wrote
    contradiction
  · rw [Table.insert_fresh table (codec.serializeCastResult registry result) taken] at wrote
    obtain ⟨_, -, wrote⟩ := (bind_ok _ _ _).mp wrote
    obtain rfl := Except.ok.inj wrote
    exact ⟨taken, rfl⟩

theorem row_stays (codec : CastCodec) (store : CastStore) (call : StoreCall) (row : CastRow)
    (member : row ∈ store.casts.rows) (kept : call ≠ .delete row.castId) : row ∈ (store.take codec call).casts.rows := by
  cases call with
  | register aspect => exact member
  | restart registry => exact member
  | write result =>
      rw [CastStore.take]
      cases wrote : codec.write store.registry result store.casts with
      | error raised => exact member
      | ok written =>
          change row ∈ written.rows
          rw [(write_cast_row codec store.registry result store.casts written wrote).2]
          exact List.mem_append_left _ member
  | delete castId =>
      rw [CastStore.take, deleteCast]
      by_cases there : store.casts.Has castId
      · rw [if_pos there]
        have different : row.castId ≠ castId := fun same => kept (same ▸ rfl)
        exact List.mem_filter.mpr ⟨member, decide_eq_true different⟩
      · rw [if_neg there]
        exact member

theorem row_stays_run (codec : CastCodec) (store : CastStore) (calls : List StoreCall) (row : CastRow)
    (member : row ∈ store.casts.rows) (kept : .delete row.castId ∉ calls) :
    row ∈ (run (CastStore.take codec) store calls).casts.rows := by
  apply run_invariant (fun reached : CastStore => row ∈ reached.casts.rows) store calls member
  intro before call taken inRows
  obtain ⟨pre, post, split, -⟩ := taken
  apply row_stays codec before call row inRows
  intro deletes
  apply kept
  rw [split, ← deletes]
  exact List.mem_append_right _ List.mem_cons_self

-- The cast that is read agrees with the one that was written: a basis that is
-- missing reads as 0, and the vectors of the intent are padded with zeros.
structure WholeCast.ReadsAs (registry : AspectRegistry) (result found : WholeCast) : Prop where
  castId : found.castId = result.castId
  timestamp : found.timestamp = result.timestamp
  intent : found.intent = result.intent
  glyphSeedId : found.glyphSeedId = result.glyphSeedId
  lineage : found.lineage = result.lineage
  provenance : found.provenance = result.provenance
  verdict : found.verdict = result.verdict.restored registry
  name : found.sigil.name = result.sigil.name
  aspects : found.sigil.aspects.members = result.sigil.aspects.members
  effectClass : found.sigil.effectClass = result.sigil.effectClass
  resonanceCeiling : found.sigil.resonanceCeiling = result.sigil.resonanceCeiling
  contradictionSeverity : found.sigil.contradictionSeverity = result.sigil.contradictionSeverity
  semanticFingerprint : found.sigil.semanticFingerprint = result.sigil.semanticFingerprint
  polarity : found.sigil.polarity = result.sigil.polarity
  semanticVector : found.sigil.semanticVector = result.sigil.semanticVector.stored

theorem restored_reads_as (registry : AspectRegistry) (order : SetOrder) (result : WholeCast) :
    result.ReadsAs registry (result.restored registry (result.sigil.aspects.rebuild order)) where
  castId := rfl
  timestamp := rfl
  intent := rfl
  glyphSeedId := rfl
  lineage := rfl
  provenance := rfl
  verdict := rfl
  name := rfl
  aspects := rebuild_members order result.sigil.aspects
  effectClass := rfl
  resonanceCeiling := rfl
  contradictionSeverity := rfl
  semanticFingerprint := rfl
  polarity := rfl
  semanticVector := rfl

theorem read_row (codec : CastCodec) (standard : codec.Standard) (written reader : AspectRegistry) (order : SetOrder)
    (drawn : String) (result : WholeCast) (table : CastTable)
    (member : codec.serializeCastResult written result ∈ table.rows) (known : reader.Knows result.sigil.aspects.names) :
    codec.read reader order drawn result.castId table =
      .ok (result.restored reader (result.sigil.aspects.rebuild order)) := by
  obtain ⟨aspects, resolved⟩ := resolve_names_known reader _ known
  have found : table.find? result.castId = some (codec.serializeCastResult written result) := table.find_row _ member
  rw [CastCodec.read, found]
  simp only [codec.deserialize_serialized standard, resolved, Except.map, resolve_names_ok reader _ aspects resolved]
  rfl

def WholeCast.record (result : WholeCast) : CastRecord where
  castId := result.castId
  timestamp := result.timestamp
  intent := result.intent.toIntent
  sigil := result.sigil.toResolvedSigil
  verdict := result.verdict.toEvaluatedVerdict
  lineage := result.lineage

def RowOf (codec : CastCodec) (row : CastRow) (record : CastRecord) : Prop :=
  ∃ registry result, row = codec.serializeCastResult registry result ∧ record = result.record

def Archives (codec : CastCodec) (table : CastTable) (casts : Table CastRecord.castId) : Prop :=
  List.Forall₂ (RowOf codec) table.rows casts.rows

theorem row_of_keys (codec : CastCodec) (rows : List CastRow) (records : List CastRecord)
    (each : List.Forall₂ (RowOf codec) rows records) : rows.map CastRow.castId = records.map CastRecord.castId := by
  induction each with
  | nil => rfl
  | cons first _ ih =>
      obtain ⟨registry, result, rfl, rfl⟩ := first
      exact congrArg _ ih

theorem row_of_find (codec : CastCodec) (rows : List CastRow) (records : List CastRecord)
    (each : List.Forall₂ (RowOf codec) rows records) (castId : String) :
    (rows.find? (fun row => row.castId = castId) = none ∧
        records.find? (fun record => record.castId = castId) = none) ∨
      ∃ row record, rows.find? (fun row => row.castId = castId) = some row ∧
        records.find? (fun record => record.castId = castId) = some record ∧ RowOf codec row record := by
  induction each with
  | nil => exact Or.inl ⟨rfl, rfl⟩
  | @cons _ _ restRows restRecords first _ ih =>
      obtain ⟨registry, result, rfl, rfl⟩ := first
      by_cases here : result.castId = castId
      · exact Or.inr ⟨_, _, List.find?_cons_of_pos (decide_eq_true here), List.find?_cons_of_pos (decide_eq_true here),
          registry, result, rfl, rfl⟩
      · have other : ¬ decide (result.castId = castId) = true := fun same => here (of_decide_eq_true same)
        have row : (codec.serializeCastResult registry result :: restRows).find? (fun row => row.castId = castId) =
            restRows.find? (fun row => row.castId = castId) := List.find?_cons_of_neg other
        have record : (result.record :: restRecords).find? (fun record => record.castId = castId) =
            restRecords.find? (fun record => record.castId = castId) := List.find?_cons_of_neg other
        rw [row, record]
        exact ih

theorem archives_has (codec : CastCodec) (table : CastTable) (casts : Table CastRecord.castId)
    (archives : Archives codec table casts) (castId : String) : table.Has castId ↔ casts.Has castId := by
  rw [Table.Has, row_of_keys codec table.rows casts.rows archives]
  rfl

theorem archived_read (codec : CastCodec) (standard : codec.Standard) (process : CastProcess) (table : CastTable)
    (archives : Archives codec table process.casts) (drawn castId : String) :
    (codec.read process.registry process.env.order drawn castId table).map WholeCast.record = process.readCast castId := by
  rw [CastCodec.read, CastProcess.readCast]
  obtain ⟨noRow, noRecord⟩ | ⟨_, _, isRow, isRecord, registry, result, rfl, rfl⟩ :=
    row_of_find codec table.rows process.casts.rows archives castId
  · rw [Table.find?, Table.find?, noRow, noRecord]
    rfl
  · rw [Table.find?, Table.find?, isRow, isRecord]
    simp only [codec.deserialize_serialized standard]
    change _ = resolveNames process.registry result.sigil.aspects.names >>= _
    cases resolveNames process.registry result.sigil.aspects.names <;> rfl

theorem archived_write (codec : CastCodec) (process : CastProcess) (table : CastTable)
    (archives : Archives codec table process.casts) (registry : AspectRegistry) (result : WholeCast) :
    (∃ raised, codec.write registry result table = .error raised ∧ process.writeCast result.record = .error raised) ∨
      ∃ written after, codec.write registry result table = .ok written ∧
        process.writeCast result.record = .ok after ∧ Archives codec written after.casts := by
  rw [CastCodec.write, CastProcess.writeCast]
  by_cases taken : table.Has result.castId
  · have also : process.casts.Has result.castId := (archives_has codec table _ archives _).mp taken
    rw [Table.insert_taken table (codec.serializeCastResult registry result) taken,
      Table.insert_taken process.casts result.record also]
    exact Or.inl ⟨_, rfl, rfl⟩
  · have also : ¬ process.casts.Has result.castId := fun has => taken ((archives_has codec table _ archives _).mpr has)
    rw [Table.insert_fresh table (codec.serializeCastResult registry result) taken,
      Table.insert_fresh process.casts result.record also]
    have same : sqlInteger result.record.sigil.semanticVector.normalizedBasisVersion =
        sqlInteger result.sigil.semanticVector.normalizedBasisVersion := rfl
    rw [same]
    cases sqlInteger result.sigil.semanticVector.normalizedBasisVersion with
    | error raised => exact Or.inl ⟨raised, rfl, rfl⟩
    | ok _ => exact Or.inr ⟨_, _, rfl, rfl, List.rel_append archives (.cons ⟨registry, result, rfl, rfl⟩ .nil)⟩

theorem cast_round_trip (codec : CastCodec) (standard : codec.Standard) (store : CastStore) (result : WholeCast)
    (written : CastTable) (wrote : codec.write store.registry result store.casts = .ok written)
    (calls : List StoreCall) (kept : .delete result.castId ∉ calls) (reached : CastStore)
    (reaches : run (CastStore.take codec) { store with casts := written } calls = reached)
    (known : reached.registry.Knows result.sigil.aspects.names) (order : SetOrder) (drawn : String) :
    ∃ found, codec.read reached.registry order drawn result.castId reached.casts = .ok found ∧
      result.ReadsAs reached.registry found := by
  have member : codec.serializeCastResult store.registry result ∈ written.rows := by
    rw [(write_cast_row codec store.registry result store.casts written wrote).2]
    exact List.mem_append_right _ List.mem_cons_self
  have stays := row_stays_run codec { store with casts := written } calls _ member kept
  rw [reaches] at stays
  exact ⟨_, read_row codec standard store.registry reached.registry order drawn result reached.casts stays known,
    restored_reads_as reached.registry order result⟩

def plainCodec : CastCodec where
  floatRepr := plainFloat
  readFloat := readPlainFloat
  pydanticRepr := plainFloat
  pydanticRead := readPlainFloat
  coerce := plainCoercions
  pyFloat := sampleRegistryEnv.pyFloat
  pyStr
    | .str text => text
    | other => other.typeName

theorem plain_codec_standard : plainCodec.Standard where
  json := plain_float_text
  pydantic := plain_float_text
  keeps := ⟨fun _ => rfl, fun _ => rfl, fun _ => rfl⟩
  float := fun _ => rfl
  str := fun _ => rfl

def voidOnly : AspectSet where
  names := ["VOID"]
  distinct := List.nodup_singleton _

theorem first_depth : 1 ≤ 1 := Nat.le_refl 1

def interpolatedCast : WholeCast where
  castId := "F"
  timestamp := sampleTime
  intent := { cautious with objectiveFits := by decide, scopeFits := by decide }
  sigil :=
    { name := "Nullform"
      aspects := voidOnly
      effectClass := .erasure
      resonanceCeiling := 1
      contradictionSeverity := .none
      semanticVector := { components := [-1, 0, 0, 0, 0, 0], basisVersion := some 0 }
      semanticFingerprint := "90251d5ff4018bf08f45ca85f613ed0b18d830f5f84b424197ea13620e87fa11"
      polarity := .negative
      fluid := some { sourceVector := { components := [-1, 0, 0, 0, 0, 0] }, nearestCanonical := "VOID"
                      interpolationWeights := [("VOID", 1)] } }
  verdict :=
    { verdictType := .incoherent
      resonance := { raw := 0, adjusted := 0, ceilingApplied := false, rawInRange := by decide +kernel
                     proof := "Intent vector aligns opposingly with sigil (cosine -1.000)."
                     adjustedInRange := by decide +kernel, proofFits := by decide }
      effectDescription := "Evaluation for Nullform (INCOHERENT)."
      intentVector := { vector := { components := [1, 0, 0, 0, 0, 0], atLeastSix := first_axis_six }
                        projectionMethod := .partially
                        constraintComponent := { components := [1, 0, 0, 0, 0, 0], atLeastSix := first_axis_six }
                        semanticComponent := none, confidence := 0 }
      effectFits := by decide
      incoherenceReason := some "opposed"
      castingNote := "incoherent"
      noteFits := by decide
      intentVectorValid := ⟨by decide +kernel, by decide, fun _ => by decide +kernel⟩ }
  lineage := some { parentCastId := "P", depth := 1, branchId := "B"
                    divergenceVector := some { components := [0, 0, 0, 0, 0, 1] }, depthPos := first_depth }
  glyphSeedId := some "S"
  provenance := some { source := .fluid, generation := some 2, generationPos := by decide
                       coherenceRange := by decide }

def interpolatedRows : CastTable := Table.empty.append (plainCodec.serializeCastResult {} interpolatedCast) List.not_mem_nil

def interpolatedStore : CastStore :=
  run (CastStore.take plainCodec) { registry := {}, casts := interpolatedRows } [.register harmonyAspect]

theorem interpolated_cast_reads_back : ∃ found,
    plainCodec.read interpolatedStore.registry listOrder "L" "F" interpolatedStore.casts = .ok found ∧
      interpolatedCast.ReadsAs interpolatedStore.registry found := by
  have known : interpolatedStore.registry.Knows interpolatedCast.sigil.aspects.names := by
    intro name member
    obtain rfl := List.mem_singleton.mp member
    exact ⟨.canonical .void, by decide +kernel⟩
  exact cast_round_trip plainCodec plain_codec_standard { registry := {} } interpolatedCast interpolatedRows rfl
    [.register harmonyAspect] (by simp) interpolatedStore rfl known listOrder "L"

end Vermyth
