import Vermyth.Protocol.JsonRoundTrip
import Vermyth.Schema.Cast
import Vermyth.Schema.Policy
import Vermyth.Schema.Swarm

set_option autoImplicit false

namespace Vermyth

-- value[key]
def item (value : Json) (key : String) : Except PyError Json :=
  match value with
  | .obj fields => (fields.lookup key).elim (.error (.keyError key)) .ok
  | .arr _ => .error (.typeError "list indices must be integers or slices, not str")
  | .str _ => .error (.typeError "string indices must be integers, not 'str'")
  | other => .error (.typeError ("'" ++ other.typeName ++ "' object is not subscriptable"))

-- What a for loop over the value goes through.
def iterate : Json → Except PyError (List Json)
  | .arr items => .ok items
  | .str text => .ok (text.toList.map fun c => .str (String.singleton c))
  | .obj fields => .ok (fields.map fun field => .str field.1)
  | other => .error (.typeError ("'" ++ other.typeName ++ "' object is not iterable"))

section Enum

variable {α : Type} (members : List α) (name : α → String)

def enum? (value : Json) : Option α := value.text?.bind fun text => members.find? fun own => name own = text

-- Enum[name]
def enumNamed (value : Json) : Except PyError α :=
  (enum? members name value).elim (.error (.keyError (value.text?.getD value.typeName))) .ok

theorem enum_name (own : α) (member : own ∈ members) (distinct : (members.map name).Nodup) :
    enum? members name (.str (name own)) = some own := by
  change members.find? (fun other => name other = name own) = some own
  induction members with
  | nil => contradiction
  | cons first rest ih =>
      rw [List.map_cons, List.nodup_cons] at distinct
      obtain rfl | later := List.mem_cons.mp member
      · rw [List.find?_cons_of_pos (by simp)]
      · have different : name first ≠ name own := by
          intro same
          exact distinct.1 (same ▸ List.mem_map_of_mem later)
        rw [List.find?_cons_of_neg (by simpa using different)]
        exact ih later distinct.2

theorem enum_named_name (own : α) (member : own ∈ members) (distinct : (members.map name).Nodup) :
    enumNamed members name (.str (name own)) = .ok own := by
  rw [enumNamed, enum_name members name own member distinct]
  rfl

end Enum

def ReversibilityClass.all : List ReversibilityClass := [.reversible, .partially, .irreversible]

def ReversibilityClass.value : ReversibilityClass → String
  | .reversible => "REVERSIBLE"
  | .partially => "PARTIAL"
  | .irreversible => "IRREVERSIBLE"

def SideEffectTolerance.all : List SideEffectTolerance := [.none, .low, .medium, .high]

def SideEffectTolerance.value : SideEffectTolerance → String
  | .none => "NONE"
  | .low => "LOW"
  | .medium => "MEDIUM"
  | .high => "HIGH"

inductive Polarity where
  | positive
  | negative
  | neutral
deriving DecidableEq, Repr

def Polarity.all : List Polarity := [.positive, .negative, .neutral]

def Polarity.name : Polarity → String
  | .positive => "POSITIVE"
  | .negative => "NEGATIVE"
  | .neutral => "NEUTRAL"

inductive CastSource where
  | base
  | crystallized
  | fluid
deriving DecidableEq, Repr

def CastSource.all : List CastSource := [.base, .crystallized, .fluid]

def CastSource.text : CastSource → String
  | .base => "base"
  | .crystallized => "crystallized"
  | .fluid => "fluid"

structure CastProvenance where
  source : CastSource
  crystallizedSigilName : Option String := none
  generation : Option Nat := none
  narrativeCoherence : Option ℚ := none
  causalRootCastId : Option String := none
  generationPos : ∀ own ∈ generation, 1 ≤ own
  coherenceRange : ∀ own ∈ narrativeCoherence, InUnit own

def CastProvenance.make (source : CastSource) (crystallizedSigilName : Option String) (generation : Option Int)
    (narrativeCoherence : Option ℚ) (causalRootCastId : Option String) : Except PyError CastProvenance :=
  if generationPos : ∀ own ∈ generation.map Int.toNat, 1 ≤ own then
    if coherenceRange : ∀ own ∈ narrativeCoherence, InUnit own then
      .ok { source, crystallizedSigilName, generation := generation.map Int.toNat, narrativeCoherence,
            causalRootCastId, generationPos, coherenceRange }
    else .error (invalid "CastProvenance" "narrative_coherence")
  else .error (invalid "CastProvenance" "generation")

def Lineage.make (parentCastId : String) (depth : Int) (branchId : String) (divergenceVector : Option SemanticVector) :
    Except PyError Lineage :=
  if depthPos : 1 ≤ depth.toNat then
    .ok { parentCastId, depth := depth.toNat, branchId, divergenceVector, depthPos }
  else .error (invalid "Lineage" "depth")

-- schema.Intent, with its bounds.
structure BoundedIntent extends Intent where
  objectiveFits : objective.length ≤ 500
  scopeFits : scope.length ≤ 200

def BoundedIntent.make (intent : Intent) : Except PyError BoundedIntent :=
  if objectiveFits : intent.objective.length ≤ 500 then
    if scopeFits : intent.scope.length ≤ 200 then .ok { intent with objectiveFits, scopeFits }
    else .error (invalid "Intent" "scope")
  else .error (invalid "Intent" "objective")

def orNull {α : Type} (dump : α → Json) : Option α → Json
  | none => .null
  | some value => dump value

-- model_dump
def SemanticVector.modelDump (vector : SemanticVector) : Json :=
  .obj [("components", .arr (vector.components.map .float)),
    ("basis_version", orNull (fun version : Nat => .int version) vector.basisVersion)]

def Intent.modelDump (intent : Intent) : Json :=
  .obj [("objective", .str intent.objective), ("scope", .str intent.scope),
    ("reversibility", .str intent.reversibility.value),
    ("side_effect_tolerance", .str intent.sideEffectTolerance.value)]

def Lineage.modelDump (lineage : Lineage) : Json :=
  .obj [("parent_cast_id", .str lineage.parentCastId), ("depth", .int lineage.depth),
    ("branch_id", .str lineage.branchId), ("divergence_vector", orNull SemanticVector.modelDump lineage.divergenceVector)]

def CastProvenance.modelDump (provenance : CastProvenance) : Json :=
  .obj [("source", .str provenance.source.text),
    ("crystallized_sigil_name", orNull .str provenance.crystallizedSigilName),
    ("generation", orNull (fun generation : Nat => .int generation) provenance.generation),
    ("narrative_coherence", orNull .float provenance.narrativeCoherence),
    ("causal_root_cast_id", orNull .str provenance.causalRootCastId)]

-- model_validate
def BoundedIntent.modelValidate : Json → Except PyError BoundedIntent
  | .obj fields => do
      let model := "Intent"
      forbidExtra ["objective", "scope", "reversibility", "side_effect_tolerance"] fields model
      let objective ← readField Json.text? none fields model "objective"
      let scope ← readField Json.text? none fields model "scope"
      let reversibility ← readField (enum? ReversibilityClass.all ReversibilityClass.value) none fields model
        "reversibility"
      let sideEffectTolerance ← readField (enum? SideEffectTolerance.all SideEffectTolerance.value) none fields model
        "side_effect_tolerance"
      BoundedIntent.make { objective, scope, reversibility, sideEffectTolerance }
  | _ => .error (invalid "Intent" "")

def optionalVector (coerce : Coercions) : Json → Except PyError (Option SemanticVector)
  | .null => .ok none
  | value => (SemanticVector.modelValidate coerce value).map some

def Lineage.modelValidate (coerce : Coercions) (drawn : String) : Json → Except PyError Lineage
  | .obj fields => do
      let model := "Lineage"
      forbidExtra ["parent_cast_id", "depth", "branch_id", "divergence_vector"] fields model
      let parentCastId ← readField Json.text? none fields model "parent_cast_id"
      let depth ← readField (coerce.int? 1) none fields model "depth"
      let branchId ← readField (nullable Json.text?) (some none) fields model "branch_id"
      let divergenceVector ← optionalVector coerce ((fields.lookup "divergence_vector").getD .null)
      Lineage.make parentCastId depth (branchId.getD drawn) divergenceVector
  | _ => .error (invalid "Lineage" "")

def CastProvenance.modelValidate (coerce : Coercions) : Json → Except PyError CastProvenance
  | .obj fields => do
      let model := "CastProvenance"
      forbidExtra ["source", "crystallized_sigil_name", "generation", "narrative_coherence", "causal_root_cast_id"]
        fields model
      let source ← readField (enum? CastSource.all CastSource.text) none fields model "source"
      let crystallizedSigilName ← readField (nullable Json.text?) (some none) fields model "crystallized_sigil_name"
      let generation ← readField (nullable (coerce.int? 1)) (some none) fields model "generation"
      let narrativeCoherence ← readField (nullable coerce.unit?) (some none) fields model "narrative_coherence"
      let causalRootCastId ← readField (nullable Json.text?) (some none) fields model "causal_root_cast_id"
      CastProvenance.make source crystallizedSigilName generation narrativeCoherence causalRootCastId
  | _ => .error (invalid "CastProvenance" "")

structure Coercions.Keeps (coerce : Coercions) : Prop where
  int : ∀ value, coerce.int (.int value) = some value
  float : ∀ value, coerce.float (.float value) = some value
  bool : ∀ value, coerce.bool (.bool value) = some value

theorem field_kept {α : Type} (read : Json → Option α) (default : Option α) (fields : List (String × Json))
    (model field : String) (own : Json) (value : α) (stands : fields.lookup field = some own)
    (reads : read own = some value) : readField read default fields model field = .ok value := by
  rw [readField, stands, Option.elim_some, reads]

theorem nullable_dump {α β : Type} (read : Json → Option β) (dump : α → Json) (as : α → β) (value : Option α)
    (each : ∀ own ∈ value, read (dump own) = some (as own) ∧ dump own ≠ .null) :
    nullable read (orNull dump value) = some (value.map as) := by
  cases value with
  | none => rfl
  | some own =>
      obtain ⟨reads, solid⟩ := each own rfl
      rw [orNull, nullable, reads]
      · rfl
      · exact solid

theorem nullable_text (value : Option String) : nullable Json.text? (orNull .str value) = some value := by
  cases value <;> rfl

theorem intent_kept (intent : BoundedIntent) : BoundedIntent.modelValidate intent.modelDump = .ok intent := by
  apply (bind_ok _ _ _).mpr
  refine ⟨(), rfl, ?_⟩
  apply (bind_ok _ _ _).mpr
  refine ⟨intent.objective, field_kept _ _ _ _ _ _ _ rfl rfl, ?_⟩
  apply (bind_ok _ _ _).mpr
  refine ⟨intent.scope, field_kept _ _ _ _ _ _ _ rfl rfl, ?_⟩
  apply (bind_ok _ _ _).mpr
  refine ⟨intent.reversibility, field_kept _ _ _ _ _ _ _ rfl (enum_name _ _ _ ?_ (by decide)), ?_⟩
  · cases intent.reversibility <;> decide
  apply (bind_ok _ _ _).mpr
  refine ⟨intent.sideEffectTolerance, field_kept _ _ _ _ _ _ _ rfl (enum_name _ _ _ ?_ (by decide)), ?_⟩
  · cases intent.sideEffectTolerance <;> decide
  rw [BoundedIntent.make, dif_pos intent.objectiveFits, dif_pos intent.scopeFits]

theorem to_nat_of_nat (value : Option Nat) : (value.map Int.ofNat).map Int.toNat = value := by
  cases value <;> rfl

section Validate

variable {coerce : Coercions} (keeps : coerce.Keeps)

include keeps

theorem int_kept (least value : Int) (enough : least ≤ value) : coerce.int? least (.int value) = some value := by
  change (coerce.int (.int value)).filter (fun own => decide (least ≤ own)) = some value
  rw [keeps.int]
  simp [enough]

theorem unit_kept (value : ℚ) (inUnit : InUnit value) : coerce.unit? (.float value) = some value := by
  change (coerce.float (.float value)).filter (fun x => decide (0 ≤ x) && decide (x ≤ 1)) = some value
  rw [keeps.float]
  simp [inUnit.1, inUnit.2]

theorem floats_kept (values : List ℚ) : items? coerce.float? (.arr (values.map .float)) = some values := by
  change (values.map Json.float).mapM coerce.float? = some values
  induction values with
  | nil => rfl
  | cons value rest ih =>
      have first : coerce.float? (.float value) = some value := keeps.float value
      rw [List.map_cons, List.mapM_cons, first, ih]
      rfl

theorem whole_kept (least : Nat) (value : Option Nat) (enough : ∀ own ∈ value, least ≤ own) :
    nullable (coerce.int? least) (orNull (fun own : Nat => .int own) value) = some (value.map Int.ofNat) := by
  apply nullable_dump
  intro own isOwn
  exact ⟨int_kept keeps least own (Int.ofNat_le.mpr (enough own isOwn)), fun same => nomatch same⟩

theorem vector_kept (vector : SemanticVector) : SemanticVector.modelValidate coerce vector.modelDump = .ok vector := by
  apply (bind_ok _ _ _).mpr
  refine ⟨(), rfl, ?_⟩
  apply (bind_ok _ _ _).mpr
  refine ⟨vector.components, field_kept _ _ _ _ _ _ _ rfl (floats_kept keeps vector.components), ?_⟩
  apply (bind_ok _ _ _).mpr
  refine ⟨vector.basisVersion.map Int.ofNat, field_kept _ _ _ _ _ _ _ rfl
    (whole_kept keeps 0 vector.basisVersion fun own _ => Nat.zero_le own), ?_⟩
  rw [SemanticVector.make, dif_pos vector.atLeastSix]
  simp only [to_nat_of_nat]

theorem lineage_kept (drawn : String) (lineage : Lineage) :
    Lineage.modelValidate coerce drawn lineage.modelDump = .ok lineage := by
  have divergence : optionalVector coerce (orNull SemanticVector.modelDump lineage.divergenceVector) =
      .ok lineage.divergenceVector := by
    cases lineage.divergenceVector with
    | none => rfl
    | some vector =>
        change (SemanticVector.modelValidate coerce vector.modelDump).map some = _
        rw [vector_kept keeps vector]
        rfl
  apply (bind_ok _ _ _).mpr
  refine ⟨(), rfl, ?_⟩
  apply (bind_ok _ _ _).mpr
  refine ⟨lineage.parentCastId, field_kept _ _ _ _ _ _ _ rfl rfl, ?_⟩
  apply (bind_ok _ _ _).mpr
  refine ⟨lineage.depth, field_kept _ _ _ _ _ _ _ rfl
    (int_kept keeps 1 lineage.depth (Int.ofNat_le.mpr lineage.depthPos)), ?_⟩
  apply (bind_ok _ _ _).mpr
  refine ⟨some lineage.branchId, field_kept _ _ _ _ _ _ _ rfl rfl, ?_⟩
  apply (bind_ok _ _ _).mpr
  refine ⟨lineage.divergenceVector, divergence, ?_⟩
  rw [Lineage.make, Int.toNat_natCast, dif_pos lineage.depthPos]
  rfl

theorem provenance_kept (provenance : CastProvenance) :
    CastProvenance.modelValidate coerce provenance.modelDump = .ok provenance := by
  have coherence : nullable coerce.unit? (orNull .float provenance.narrativeCoherence) =
      some (provenance.narrativeCoherence.map id) := by
    apply nullable_dump
    intro own isOwn
    exact ⟨unit_kept keeps own (provenance.coherenceRange own isOwn), fun same => nomatch same⟩
  apply (bind_ok _ _ _).mpr
  refine ⟨(), rfl, ?_⟩
  apply (bind_ok _ _ _).mpr
  refine ⟨provenance.source, field_kept _ _ _ _ _ _ _ rfl (enum_name _ _ _ ?_ (by decide)), ?_⟩
  · cases provenance.source <;> decide
  apply (bind_ok _ _ _).mpr
  refine ⟨provenance.crystallizedSigilName, field_kept _ _ _ _ _ _ _ rfl (nullable_text _), ?_⟩
  apply (bind_ok _ _ _).mpr
  refine ⟨provenance.generation.map Int.ofNat, field_kept _ _ _ _ _ _ _ rfl
    (whole_kept keeps 1 provenance.generation provenance.generationPos), ?_⟩
  apply (bind_ok _ _ _).mpr
  refine ⟨provenance.narrativeCoherence, field_kept _ _ _ _ _ _ _ rfl
    (coherence.trans (congrArg some Option.map_id_apply)), ?_⟩
  apply (bind_ok _ _ _).mpr
  refine ⟨provenance.causalRootCastId, field_kept _ _ _ _ _ _ _ rfl (nullable_text _), ?_⟩
  simp only [CastProvenance.make, to_nat_of_nat, dif_pos provenance.generationPos, dif_pos provenance.coherenceRange]

end Validate

end Vermyth
