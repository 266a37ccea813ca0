import Vermyth.Protocol.JsonText
import Vermyth.Schema.Sigil

set_option autoImplicit false

namespace Vermyth

def Json.scalar? : Json → Option Scalar
  | .bool value => some (.bool value)
  | .int value => some (.int value)
  | .float value => some (.float value)
  | .str value => some (.str value)
  | _ => none

-- How pydantic reads a JSON scalar for a field of another type in lax mode.
structure Coercions where
  int : Scalar → Option Int
  float : Scalar → Option ℚ
  bool : Scalar → Option Bool
  datetime : Scalar → Option Datetime

def nullable {α : Type} (read : Json → Option α) : Json → Option (Option α)
  | .null => some none
  | value => (read value).map some

def items? {α : Type} (read : Json → Option α) : Json → Option (List α)
  | .arr items => items.mapM read
  | _ => none

namespace Coercions

variable (coerce : Coercions)

def int? (least : Int) (value : Json) : Option Int := (value.scalar?.bind coerce.int).filter (least ≤ ·)
def float? (value : Json) : Option ℚ := value.scalar?.bind coerce.float
def unit? (value : Json) : Option ℚ := (coerce.float? value).filter fun x => 0 ≤ x && x ≤ 1
def bool? (value : Json) : Option Bool := value.scalar?.bind coerce.bool
def datetime? (value : Json) : Option Datetime := value.scalar?.bind coerce.datetime

end Coercions

def effectClass? (value : Json) : Option EffectClass := value.text?.bind EffectClass.named?

def readField {α : Type} (read : Json → Option α) (default : Option α) (fields : List (String × Json))
    (model field : String) : Except PyError α :=
  match (fields.lookup field).elim default read with
  | some value => .ok value
  | none => .error (invalid model field)

-- extra="forbid"
def forbidExtra (known : List String) (fields : List (String × Json)) (model : String) : Except PyError Unit :=
  if fields.all fun field => field.1 ∈ known then .ok () else .error (invalid model "extra")

def SemanticVector.make (components : List ℚ) (basisVersion : Option Int) : Except PyError SemanticVector :=
  if atLeastSix : 6 ≤ components.length then
    .ok { components := components, basisVersion := basisVersion.map Int.toNat, atLeastSix := atLeastSix }
  else .error (invalid "SemanticVector" "components")

def SemanticVector.modelValidate (coerce : Coercions) : Json → Except PyError SemanticVector
  | .obj fields => do
      forbidExtra ["components", "basis_version"] fields "SemanticVector"
      let components ← readField (items? coerce.float?) none fields "SemanticVector" "components"
      let basisVersion ← readField (nullable (coerce.int? 0)) (some none) fields "SemanticVector" "basis_version"
      SemanticVector.make components basisVersion
  | _ => .error (invalid "SemanticVector" "")

inductive GenesisStatus where
  | proposed
  | accepted
  | rejected
  | integrated
deriving DecidableEq, Repr

def genesisStatus? (value : Json) : Option GenesisStatus :=
  match value.text? with
  | some "PROPOSED" => some .proposed
  | some "ACCEPTED" => some .accepted
  | some "REJECTED" => some .rejected
  | some "INTEGRATED" => some .integrated
  | _ => none

-- proposed_name, derived_polarity, derived_entropy and proposed_symbol are the
-- aspect the proposal is for, under the same rules.
structure EmergentAspect where
  genesisId : String
  derived : RegisteredAspect
  centroidVector : SemanticVector
  supportCount : Nat
  meanResonance : ℚ
  coherenceRate : ℚ
  status : GenesisStatus := .proposed
  proposedAt : Datetime
  decidedAt : Option Datetime := none
  reviewedBy : Option String := none
  reviewedAt : Option Datetime := none
  reviewNote : Option String := none
  evidenceCastIds : List String := []
deriving DecidableEq

def EmergentAspect.proposedName (aspect : EmergentAspect) : String := aspect.derived.name

def emergentFields : List String :=
  ["genesis_id", "proposed_name", "derived_polarity", "derived_entropy", "proposed_symbol", "centroid_vector",
    "support_count", "mean_resonance", "coherence_rate", "status", "proposed_at", "decided_at", "reviewed_by",
    "reviewed_at", "review_note", "evidence_cast_ids"]

def shortNote? (value : Json) : Option String := value.text?.filter fun note => note.length ≤ 500

-- EmergentAspect.model_validate, with the id and the time it draws where the
-- document has none.
def EmergentAspect.modelValidate (coerce : Coercions) (drawn : String) (now : Datetime)
    (fields : List (String × Json)) : Except PyError EmergentAspect := do
  let model := "EmergentAspect"
  forbidExtra emergentFields fields model
  let genesisId ← readField Json.text? (some drawn) fields model "genesis_id"
  let proposedName ← readField Json.text? none fields model "proposed_name"
  let derivedPolarity ← readField (coerce.int? (-1)) none fields model "derived_polarity"
  let derivedEntropy ← readField coerce.unit? none fields model "derived_entropy"
  let proposedSymbol ← readField Json.text? none fields model "proposed_symbol"
  let derived ← RegisteredAspect.make proposedName derivedPolarity derivedEntropy proposedSymbol
  let centroidVector ← SemanticVector.modelValidate coerce ((fields.lookup "centroid_vector").getD .null)
  let supportCount ← readField (coerce.int? 1) none fields model "support_count"
  let meanResonance ← readField coerce.unit? none fields model "mean_resonance"
  let coherenceRate ← readField coerce.unit? none fields model "coherence_rate"
  let status ← readField genesisStatus? (some .proposed) fields model "status"
  let proposedAt ← readField coerce.datetime? (some now) fields model "proposed_at"
  let decidedAt ← readField (nullable coerce.datetime?) (some none) fields model "decided_at"
  let reviewedBy ← readField (nullable Json.text?) (some none) fields model "reviewed_by"
  let reviewedAt ← readField (nullable coerce.datetime?) (some none) fields model "reviewed_at"
  let reviewNote ← readField (nullable shortNote?) (some none) fields model "review_note"
  let evidenceCastIds ← readField (items? Json.text?) (some []) fields model "evidence_cast_ids"
  return { genesisId := genesisId, derived := derived, centroidVector := centroidVector,
           supportCount := supportCount.toNat, meanResonance := meanResonance, coherenceRate := coherenceRate,
           status := status, proposedAt := proposedAt, decidedAt := decidedAt, reviewedBy := reviewedBy,
           reviewedAt := reviewedAt, reviewNote := reviewNote, evidenceCastIds := evidenceCastIds }

-- Federated grimoire sync. The records are dicts nobody has looked into yet.
structure GossipPayload where
  peerId : String
  keyId : String
  seeds : List (List (String × Json)) := []
  crystallized : List (List (String × Json)) := []
  emergentAspects : List (List (String × Json)) := []
  proof : String
  peerIdLength : 1 ≤ peerId.length ∧ peerId.length ≤ 200
  keyIdLength : 1 ≤ keyId.length ∧ keyId.length ≤ 200
  proofLength : proof.length = 64

end Vermyth
