import Vermyth.Arcane.Ward
import Vermyth.Schema.PolicyDocuments

set_option autoImplicit false

namespace Vermyth

def WardSpec.modelValidate (coerce : Coercions) : Json → Except PyError WardSpec
  | .obj fields => do
      let model := "WardSpec"
      forbidExtra
        ["allow_min_resonance", "reshape_min_resonance", "max_drift_status", "effect_risk_min_score", "scorer_weights"]
        fields model
      let allow ← readField (nullable coerce.inUnit?) (some none) fields model "allow_min_resonance"
      let reshape ← readField (nullable coerce.inUnit?) (some none) fields model "reshape_min_resonance"
      let drift ← readField (nullable (enum? DivergenceStatus.all DivergenceStatus.value)) (some none) fields model
        "max_drift_status"
      let minimum ← readField (nullable coerce.inUnit?) (some none) fields model "effect_risk_min_score"
      let weights ← readField (nullable coerce.weights?) (some none) fields model "scorer_weights"
      return { allowMinResonance := allow.map Subtype.val, reshapeMinResonance := reshape.map Subtype.val
               maxDriftStatus := drift, effectRiskMinScore := minimum.map Subtype.val, scorerWeights := weights
               allowInRange := mapped_in_unit allow, reshapeInRange := mapped_in_unit reshape
               effectInRange := mapped_in_unit minimum }
  | _ => .error (invalid "WardSpec" "")

def defaultScorers : List String := ["resonance", "divergence", "narrative", "effect_risk"]

-- The keys of scorer_weights, in their order.
def scorerNames (default : List String) : Json → List String
  | .obj fields =>
      match fields.lookup "scorer_weights" with
      | some (.obj weights) => weights.map Prod.fst
      | some _ => []
      | none => default
  | _ => []

-- The keys that dict.update leaves.
def updatedNames (names overlay : List String) : List String := names ++ overlay.filter fun name => name ∉ names

def weightFields (names : List String) (weights : ScorerWeights) : List (String × Json) :=
  names.filterMap fun name => (weights name).map fun weight => (name, .float weight)

-- model_dump(mode="json")
def PolicyThresholds.modelDump (names : List String) (thresholds : PolicyThresholds) : Json :=
  .obj [("allow_min_resonance", .float thresholds.allowMinResonance),
    ("reshape_min_resonance", .float thresholds.reshapeMinResonance),
    ("max_drift_status", .str thresholds.maxDriftStatus.value),
    ("scorer_weights", .obj (weightFields names thresholds.scorerWeights)),
    ("effect_risk_min_score", orNull .float thresholds.effectRiskMinScore)]

-- What compile_manifest lays over the thresholds of a bundle: both documents
-- are validated, and what they merge to is dumped.
def mergeWardDocuments (coerce : Coercions) (thresholds ward : Json) : Except PyError Json := do
  let base ← PolicyThresholds.modelValidate coerce thresholds
  let own ← WardSpec.modelValidate coerce ward
  let names := updatedNames (scorerNames defaultScorers thresholds) (scorerNames [] ward)
  return (mergeWardIntoThresholds base own).modelDump names

theorem read_field_own {α : Type} (read : Json → Option α) (default : Option α) (fields : List (String × Json))
    (model field : String) (own : Json) (value : α) (stands : fields.lookup field = some own)
    (reads : readField read default fields model field = .ok value) : read own = some value := by
  rw [readField, stands, Option.elim_some] at reads
  cases found : read own with
  | none =>
      rw [found] at reads
      contradiction
  | some held =>
      rw [found] at reads
      rw [Except.ok.inj reads]

theorem weight_fields_lookup (names : List String) (weights : ScorerWeights) (name : String) :
    (weightFields names weights).lookup name = if name ∈ names then (weights name).map .float else none := by
  induction names with
  | nil => rfl
  | cons first rest ih =>
      rw [weightFields] at ih ⊢
      cases held : weights first with
      | none =>
          rw [List.filterMap_cons_none (by rw [held]; rfl), ih]
          by_cases same : name = first
          · simp [same, held]
          · simp [same]
      | some weight =>
          rw [List.filterMap_cons_some (by rw [held]; rfl), List.lookup_cons, ih]
          by_cases same : name = first
          · simp [same, held]
          · rw [beq_false_of_ne same]
            simp [same]

section Kept

variable (coerce : Coercions) (keeps : coerce.Keeps)
include keeps

theorem in_unit_kept (value : ℚ) (range : InUnit value) : coerce.inUnit? (.float value) = some ⟨value, range⟩ := by
  have reads : coerce.float? (.float value) = some value := keeps.float value
  rw [Coercions.inUnit?, reads, Option.bind_some, dif_pos range]

theorem weight_fields_read (names : List String) (weights : ScorerWeights) :
    ((weightFields names weights).mapM fun field => coerce.float? field.2).isSome = true := by
  have each : ∀ field ∈ weightFields names weights, (coerce.float? field.2).isSome = true := by
    intro field member
    obtain ⟨name, -, made⟩ := List.mem_filterMap.mp member
    obtain ⟨weight, -, rfl⟩ := Option.map_eq_some_iff.mp made
    exact Option.isSome_iff_exists.mpr ⟨weight, keeps.float weight⟩
  generalize weightFields names weights = fields at each
  induction fields with
  | nil => rfl
  | cons field rest ih =>
      obtain ⟨first, later⟩ := List.forall_mem_cons.mp each
      obtain ⟨own, reads⟩ := Option.isSome_iff_exists.mp first
      obtain ⟨others, read⟩ := Option.isSome_iff_exists.mp (ih later)
      rw [List.mapM_cons, reads, read]
      rfl

theorem weights_kept (names : List String) (weights : ScorerWeights)
    (covers : ∀ name weight, weights name = some weight → name ∈ names) :
    coerce.weights? (.obj (weightFields names weights)) = some weights := by
  obtain ⟨read, reads⟩ := Option.isSome_iff_exists.mp (weight_fields_read coerce keeps names weights)
  rw [Coercions.weights?, reads, Option.map_some]
  congr 1
  funext name
  rw [weight_fields_lookup]
  cases held : weights name with
  | none => split <;> rfl
  | some weight =>
      rw [if_pos (covers name weight held)]
      exact keeps.float weight

theorem thresholds_kept (names : List String) (thresholds : PolicyThresholds)
    (covers : ∀ name weight, thresholds.scorerWeights name = some weight → name ∈ names) :
    PolicyThresholds.modelValidate coerce (thresholds.modelDump names) = .ok thresholds := by
  have minimum : nullable coerce.inUnit? (orNull .float thresholds.effectRiskMinScore) =
      some (thresholds.effectRiskMinScore.attach.map fun own => ⟨own.1, thresholds.effectInRange own.1 own.2⟩) := by
    obtain ⟨_, _, _, _, gate, _, _, range⟩ := thresholds
    cases gate with
    | none => rfl
    | some least =>
        have reads := in_unit_kept coerce keeps least (range least rfl)
        simp [orNull, nullable, reads]
  apply (bind_ok _ _ _).mpr
  refine ⟨(), rfl, ?_⟩
  apply (bind_ok _ _ _).mpr
  refine ⟨⟨_, thresholds.allowInRange⟩, field_kept _ _ _ _ _ _ _ rfl (in_unit_kept coerce keeps _ _), ?_⟩
  apply (bind_ok _ _ _).mpr
  refine ⟨⟨_, thresholds.reshapeInRange⟩, field_kept _ _ _ _ _ _ _ rfl (in_unit_kept coerce keeps _ _), ?_⟩
  apply (bind_ok _ _ _).mpr
  refine ⟨thresholds.maxDriftStatus, field_kept _ _ _ _ _ _ _ rfl (enum_name _ _ _ ?_ (by decide)), ?_⟩
  · cases thresholds.maxDriftStatus <;> decide
  apply (bind_ok _ _ _).mpr
  refine ⟨thresholds.scorerWeights, field_kept _ _ _ _ _ _ _ rfl (weights_kept coerce keeps _ _ covers), ?_⟩
  apply (bind_ok _ _ _).mpr
  refine ⟨_, field_kept _ _ _ _ _ _ _ rfl minimum, ?_⟩
  clear minimum covers
  obtain ⟨_, _, _, _, gate, _, _, _⟩ := thresholds
  cases gate with
  | none => rfl
  | some least => rfl

end Kept

theorem default_scorers (name : String) (weight : ℚ) (held : defaultWeights name = some weight) :
    name ∈ defaultScorers := by
  unfold defaultWeights at held
  split at held
  · decide
  · decide
  · decide
  · decide
  · contradiction

theorem lookup_key (fields : List (String × Json)) (key : String) (value : Json)
    (found : fields.lookup key = some value) : key ∈ fields.map Prod.fst := by
  obtain ⟨before, after, rfl, -⟩ := List.lookup_eq_some_iff.mp found
  simp

theorem read_weights_named (coerce : Coercions) (document : Json) (weights : ScorerWeights)
    (reads : coerce.weights? document = some weights) (name : String) (weight : ℚ)
    (held : weights name = some weight) : ∃ fields, document = .obj fields ∧ name ∈ fields.map Prod.fst := by
  cases document with
  | obj fields =>
      obtain ⟨read, -, rfl⟩ := Option.map_eq_some_iff.mp reads
      obtain ⟨own, found, -⟩ := Option.bind_eq_some_iff.mp held
      exact ⟨fields, rfl, lookup_key fields name own found⟩
  | _ => contradiction

theorem validated_names (coerce : Coercions) (document : Json) (thresholds : PolicyThresholds)
    (validated : PolicyThresholds.modelValidate coerce document = .ok thresholds) (name : String) (weight : ℚ)
    (held : thresholds.scorerWeights name = some weight) : name ∈ scorerNames defaultScorers document := by
  cases document with
  | obj fields =>
      obtain ⟨_, -, rest⟩ := (bind_ok _ _ _).mp validated
      obtain ⟨_, -, rest⟩ := (bind_ok _ _ _).mp rest
      obtain ⟨_, -, rest⟩ := (bind_ok _ _ _).mp rest
      obtain ⟨_, -, rest⟩ := (bind_ok _ _ _).mp rest
      obtain ⟨weights, read, rest⟩ := (bind_ok _ _ _).mp rest
      obtain ⟨_, -, made⟩ := (bind_ok _ _ _).mp rest
      obtain rfl := Except.ok.inj made
      rw [scorerNames]
      cases found : fields.lookup "scorer_weights" with
      | none =>
          rw [readField, found] at read
          obtain rfl := Except.ok.inj read
          exact default_scorers name weight held
      | some own =>
          obtain ⟨inner, rfl, member⟩ :=
            read_weights_named coerce own weights (read_field_own _ _ _ _ _ _ _ found read) name weight held
          exact member
  | _ => contradiction

theorem ward_names (coerce : Coercions) (document : Json) (ward : WardSpec)
    (validated : WardSpec.modelValidate coerce document = .ok ward) (weights : ScorerWeights)
    (given : ward.scorerWeights = some weights) (name : String) (weight : ℚ) (held : weights name = some weight) :
    name ∈ scorerNames [] document := by
  cases document with
  | obj fields =>
      obtain ⟨_, -, rest⟩ := (bind_ok _ _ _).mp validated
      obtain ⟨_, -, rest⟩ := (bind_ok _ _ _).mp rest
      obtain ⟨_, -, rest⟩ := (bind_ok _ _ _).mp rest
      obtain ⟨_, -, rest⟩ := (bind_ok _ _ _).mp rest
      obtain ⟨_, -, rest⟩ := (bind_ok _ _ _).mp rest
      obtain ⟨overlay, read, made⟩ := (bind_ok _ _ _).mp rest
      obtain rfl := Except.ok.inj made
      obtain rfl : overlay = some weights := given
      rw [scorerNames]
      cases found : fields.lookup "scorer_weights" with
      | none =>
          rw [readField, found] at read
          cases Except.ok.inj read
      | some own =>
          have reads := read_field_own _ _ _ _ _ _ _ found read
          cases own with
          | null => cases reads
          | obj inner =>
              obtain ⟨_, isOverlay, same⟩ := Option.map_eq_some_iff.mp reads
              obtain rfl := Option.some.inj same
              obtain ⟨own, isInner, member⟩ := read_weights_named coerce _ _ isOverlay name weight held
              obtain rfl := Json.obj.inj isInner
              exact member
          | _ => cases reads
  | _ => contradiction

theorem merged_ward_read (coerce : Coercions) (keeps : coerce.Keeps) (thresholds ward document : Json)
    (merged : mergeWardDocuments coerce thresholds ward = .ok document) :
    ∃ base own, PolicyThresholds.modelValidate coerce thresholds = .ok base ∧
      WardSpec.modelValidate coerce ward = .ok own ∧
      PolicyThresholds.modelValidate coerce document = .ok (mergeWardIntoThresholds base own) := by
  obtain ⟨base, isBase, rest⟩ := (bind_ok _ _ _).mp merged
  obtain ⟨own, isOwn, made⟩ := (bind_ok _ _ _).mp rest
  obtain rfl := Except.ok.inj made
  refine ⟨base, own, isBase, isOwn, thresholds_kept coerce keeps _ _ ?_⟩
  intro name weight held
  rw [updatedNames, List.mem_append]
  by_cases named : name ∈ scorerNames defaultScorers thresholds
  · exact Or.inl named
  · refine Or.inr (List.mem_filter.mpr ⟨?_, by simpa using named⟩)
    have unset : base.scorerWeights name = none := by
      refine Option.eq_none_iff_forall_ne_some.mpr fun own set => ?_
      exact named (validated_names coerce thresholds base isBase name own set)
    cases given : own.scorerWeights with
    | none => simp [mergeWardIntoThresholds, ScorerWeights.update, given, unset] at held
    | some weights =>
        refine ward_names coerce ward own isOwn weights given name weight ?_
        simpa [mergeWardIntoThresholds, ScorerWeights.update, given, unset] using held

end Vermyth
