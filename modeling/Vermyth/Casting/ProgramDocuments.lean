import Vermyth.Casting.CastRoundTrip
import Vermyth.Schema.PolicyDocuments
import Vermyth.Schema.ReceiptDocuments

set_option autoImplicit false

namespace Vermyth

-- Field(min_length=1, max_length=most)
def TextFits (most : Nat) (text : String) : Prop := text ≠ "" ∧ text.length ≤ most

instance (most : Nat) (text : String) : Decidable (TextFits most text) :=
  inferInstanceAs (Decidable (text ≠ "" ∧ text.length ≤ most))

abbrev FittingText (most : Nat) := { text : String // TextFits most text }

abbrev JsonValue := { value : Json // value.distinct = true }

def NodeType.all : List NodeType := [.cast, .fluidCast, .autoCast, .gate, .merge]

def NodeType.value : NodeType → String
  | .cast => "CAST"
  | .fluidCast => "FLUID_CAST"
  | .autoCast => "AUTO_CAST"
  | .gate => "GATE"
  | .merge => "MERGE"

def RollbackStrategy.all : List RollbackStrategy := [.none, .compensate, .undoLog, .checkpointRestore]

def RollbackStrategy.value : RollbackStrategy → String
  | .none => "NONE"
  | .compensate => "COMPENSATE"
  | .undoLog => "UNDO_LOG"
  | .checkpointRestore => "CHECKPOINT_RESTORE"

def mergeStrategies : List MergeStrategy := [.firstCoherent, .bestResonance, .all]

def MergeStrategy.text : MergeStrategy → String
  | .firstCoherent => "FIRST_COHERENT"
  | .bestResonance => "BEST_RESONANCE"
  | .all => "ALL"

def ConditionOp.all : List ConditionOp :=
  [.eq, .neq, .compare .gt, .compare .gte, .compare .lt, .compare .lte, .contains, .present]

def ConditionOp.text : ConditionOp → String
  | .eq => "eq"
  | .neq => "neq"
  | .compare .gt => "gt"
  | .compare .gte => "gte"
  | .compare .lt => "lt"
  | .compare .lte => "lte"
  | .contains => "contains"
  | .present => "exists"

def ResourceRef.Fits (resource : ResourceRef) : Prop :=
  TextFits 64 resource.kind ∧ TextFits 500 resource.uri ∧ TextFits 200 resource.scope ∧
    resource.access ∈ ["READ", "WRITE", "READ_WRITE"]

instance (resource : ResourceRef) : Decidable resource.Fits :=
  inferInstanceAs (Decidable (TextFits 64 resource.kind ∧ TextFits 500 resource.uri ∧ TextFits 200 resource.scope ∧
    resource.access ∈ ["READ", "WRITE", "READ_WRITE"]))

def Effect.Fits (effect : Effect) : Prop := 0 ≤ effect.costHint ∧ ∀ resource ∈ effect.target, resource.Fits

instance (effect : Effect) : Decidable effect.Fits :=
  inferInstanceAs (Decidable (0 ≤ effect.costHint ∧ ∀ resource ∈ effect.target, resource.Fits))

abbrev WholeEffect := { effect : Effect // effect.Fits }

structure Permission where
  capability : FittingText 100
  scopePredicate : FittingText 300

structure WholeExpr where
  op : ConditionOp
  key : FittingText 200
  value : JsonValue

structure WholeCondition where
  predicate : FittingText 300
  expr : Option WholeExpr := none

structure WholeRetry extends RetryPolicy where
  retryOn : List EffectType := []

structure WholeNode where
  nodeId : FittingText 200
  nodeType : NodeType
  aspects : Option (List String) := none
  vector : Option SemanticVector := none
  intent : BoundedIntent
  successors : List String := []
  gateCondition : Option VerdictType := none
  mergeStrategy : Option MergeStrategy := none
  preconditions : Option (List WholeCondition) := none
  postconditions : Option (List WholeCondition) := none
  effects : Option (List WholeEffect) := none
  requiredPermissions : Option (List Permission) := none
  retryPolicy : Option WholeRetry := none
  rollback : Option RollbackStrategy := none
  timeoutMs : Option Nat := none
  timeoutRange : ∀ ms ∈ timeoutMs, 1 ≤ ms ∧ ms ≤ 3600000
  payloadValid : NodePayload nodeType aspects vector gateCondition mergeStrategy

structure WholeProgram where
  programId : String
  name : FittingText 200
  status : ProgramStatus
  nodes : List WholeNode
  entryNodeIds : List String
  metadata : JsonDict
  createdAt : Datetime
  updatedAt : Datetime
  nodesNonempty : nodes ≠ []
  entriesNonempty : entryNodeIds ≠ []
  distinctIds : (nodes.map fun node => node.nodeId.1).Nodup
  entriesKnown : ∀ entry ∈ entryNodeIds, entry ∈ nodes.map fun node => node.nodeId.1

-- model_dump(mode="json")
def ResourceRef.modelDump (resource : ResourceRef) : Json :=
  .obj [("kind", .str resource.kind), ("uri", .str resource.uri), ("scope", .str resource.scope),
    ("access", .str resource.access)]

def Effect.modelDump (effect : Effect) : Json :=
  .obj [("effect_type", .str effect.effectType.value), ("target", orNull ResourceRef.modelDump effect.target),
    ("reversible", .bool effect.reversible), ("cost_hint", .float effect.costHint)]

def Permission.modelDump (permission : Permission) : Json :=
  .obj [("capability", .str permission.capability.1), ("scope_predicate", .str permission.scopePredicate.1)]

def WholeExpr.modelDump (expr : WholeExpr) : Json :=
  .obj [("op", .str expr.op.text), ("key", .str expr.key.1), ("value", expr.value.1)]

def WholeCondition.modelDump (condition : WholeCondition) : Json :=
  .obj [("predicate", .str condition.predicate.1), ("expr", orNull WholeExpr.modelDump condition.expr)]

def WholeRetry.modelDump (retry : WholeRetry) : Json :=
  .obj [("max_attempts", .int retry.maxAttempts), ("backoff_ms", .int retry.backoffMs),
    ("retry_on", .arr (retry.retryOn.map fun effectType => .str effectType.value))]

def dumpList {α : Type} (dump : α → Json) (values : List α) : Json := .arr (values.map dump)

def WholeNode.modelDump (node : WholeNode) : Json :=
  .obj [("node_id", .str node.nodeId.1), ("node_type", .str node.nodeType.value),
    ("aspects", orNull (dumpList .str) node.aspects), ("vector", orNull SemanticVector.modelDump node.vector),
    ("intent", node.intent.modelDump), ("successors", dumpList .str node.successors),
    ("gate_condition", orNull (fun own : VerdictType => .str own.value) node.gateCondition),
    ("merge_strategy", orNull (fun own : MergeStrategy => .str own.text) node.mergeStrategy),
    ("preconditions", orNull (dumpList WholeCondition.modelDump) node.preconditions),
    ("postconditions", orNull (dumpList WholeCondition.modelDump) node.postconditions),
    ("effects", orNull (dumpList fun own : WholeEffect => own.1.modelDump) node.effects),
    ("required_permissions", orNull (dumpList Permission.modelDump) node.requiredPermissions),
    ("retry_policy", orNull WholeRetry.modelDump node.retryPolicy),
    ("rollback", orNull (fun own : RollbackStrategy => .str own.value) node.rollback),
    ("timeout_ms", orNull (fun own : Nat => .int own) node.timeoutMs)]

def fitting? (most : Nat) (value : Json) : Option (FittingText most) := do
  let text ← value.text?
  if fits : TextFits most text then some ⟨text, fits⟩ else none

def jsonValue? (value : Json) : Option JsonValue :=
  if distinct : value.distinct = true then some ⟨value, distinct⟩ else none

-- extra="forbid"
def onlyFields (known : List String) (value : Json) : Option (List (String × Json)) :=
  match value with
  | .obj fields => if fields.all fun field => field.1 ∈ known then some fields else none
  | _ => none

def permission? (value : Json) : Option Permission := do
  let fields ← onlyFields ["capability", "scope_predicate"] value
  let capability ← (fields.lookup "capability").bind (fitting? 100)
  let scopePredicate ← (fields.lookup "scope_predicate").bind (fitting? 300)
  return { capability, scopePredicate }

def expr? (value : Json) : Option WholeExpr := do
  let fields ← onlyFields ["op", "key", "value"] value
  let op ← (fields.lookup "op").bind (enum? ConditionOp.all ConditionOp.text)
  let key ← (fields.lookup "key").bind (fitting? 200)
  let value ← (fields.lookup "value").elim (jsonValue? .null) jsonValue?
  return { op, key, value }

def condition? (value : Json) : Option WholeCondition := do
  let fields ← onlyFields ["predicate", "expr"] value
  let predicate ← (fields.lookup "predicate").bind (fitting? 300)
  let expr ← (fields.lookup "expr").elim (some none) (nullable expr?)
  return { predicate, expr }

-- Field(ge=least, le=most)
def Coercions.between? (coerce : Coercions) (least most : Nat) (value : Json) :
    Option { count : Nat // least ≤ count ∧ count ≤ most } := do
  let count ← coerce.int? 0 value
  if fits : least ≤ count.toNat ∧ count.toNat ≤ most then some ⟨count.toNat, fits⟩ else none

section Validate

variable (coerce : Coercions)

def effect? (value : Json) : Option WholeEffect :=
  match Effect.modelValidate coerce value with
  | .ok effect => if fits : effect.Fits then some ⟨effect, fits⟩ else none
  | .error _ => none

theorem one_attempt : 1 ≤ 1 ∧ 1 ≤ 20 := by decide

theorem no_backoff : 0 ≤ 0 ∧ 0 ≤ 60000 := by decide

def retryPolicy? (value : Json) : Option WholeRetry := do
  let fields ← onlyFields ["max_attempts", "backoff_ms", "retry_on"] value
  let attempts ← (fields.lookup "max_attempts").elim (some ⟨1, one_attempt⟩) (coerce.between? 1 20)
  let backoff ← (fields.lookup "backoff_ms").elim (some ⟨0, no_backoff⟩) (coerce.between? 0 60000)
  let retryOn ← (fields.lookup "retry_on").elim (some []) (items? (enum? EffectType.all EffectType.value))
  return { maxAttempts := attempts.1, backoffMs := backoff.1, attemptsRange := attempts.2, backoffRange := backoff.2.2,
           retryOn }

-- What _validate_node_payload says of a node that it refuses.
def payloadFault (nodeType : NodeType) (aspects : Option (List String)) (vector : Option SemanticVector) : String :=
  match nodeType with
  | .cast => if aspects.getD [] = [] then "CAST nodes require aspects" else "CAST nodes must not define vector"
  | .gate => "GATE nodes require gate_condition"
  | .merge => "MERGE nodes require merge_strategy"
  | .fluidCast | .autoCast =>
      nodeType.value ++ if vector.isNone then " nodes require vector" else " nodes must not define aspects"

def nodeFieldNames : List String :=
  ["node_id", "node_type", "aspects", "vector", "intent", "successors", "gate_condition", "merge_strategy",
    "preconditions", "postconditions", "effects", "required_permissions", "retry_policy", "rollback", "timeout_ms"]

def timeout? : Json → Option (Option { count : Nat // 1 ≤ count ∧ count ≤ 3600000 }) :=
  nullable (coerce.between? 1 3600000)

theorem timeout_range (timeout : Option { count : Nat // 1 ≤ count ∧ count ≤ 3600000 }) :
    ∀ ms ∈ timeout.map Subtype.val, 1 ≤ ms ∧ ms ≤ 3600000 := by
  intro ms member
  obtain ⟨own, -, rfl⟩ := Option.mem_map.mp member
  exact own.2

-- CastNode.model_validate
def nodeValidate : Json → Except PyError WholeNode
  | .obj fields => do
      let model := "CastNode"
      forbidExtra nodeFieldNames fields model
      let nodeId ← readField (fitting? 200) none fields model "node_id"
      let nodeType ← readField (enum? NodeType.all NodeType.value) none fields model "node_type"
      let aspects ← readField (nullable (items? Json.text?)) (some none) fields model "aspects"
      let vector ← optionalVector coerce ((fields.lookup "vector").getD .null)
      let intent ← BoundedIntent.modelValidate ((fields.lookup "intent").getD .null)
      let successors ← readField (items? Json.text?) (some []) fields model "successors"
      let gateCondition ← readField (nullable (enum? VerdictType.all VerdictType.value)) (some none) fields model
        "gate_condition"
      let mergeStrategy ← readField (nullable (enum? mergeStrategies MergeStrategy.text)) (some none) fields model
        "merge_strategy"
      let preconditions ← readField (nullable (items? condition?)) (some none) fields model "preconditions"
      let postconditions ← readField (nullable (items? condition?)) (some none) fields model "postconditions"
      let effects ← readField (nullable (items? (effect? coerce))) (some none) fields model "effects"
      let requiredPermissions ← readField (nullable (items? permission?)) (some none) fields model
        "required_permissions"
      let retryPolicy ← readField (nullable (retryPolicy? coerce)) (some none) fields model "retry_policy"
      let rollback ← readField (nullable (enum? RollbackStrategy.all RollbackStrategy.value)) (some none) fields model
        "rollback"
      let timeout ← readField (timeout? coerce) (some none) fields model "timeout_ms"
      if payloadValid : NodePayload nodeType aspects vector gateCondition mergeStrategy then
        return { nodeId, nodeType, aspects, vector, intent, successors, gateCondition, mergeStrategy, preconditions,
                 postconditions, effects, requiredPermissions, retryPolicy, rollback,
                 timeoutMs := timeout.map Subtype.val, timeoutRange := timeout_range timeout, payloadValid }
      else throw (.valueError (payloadFault nodeType aspects vector))
  | _ => .error (invalid "CastNode" "")

def nodesValidate : Json → Except PyError (List WholeNode)
  | .arr items => items.mapM (nodeValidate coerce)
  | _ => .error (invalid "SemanticProgram" "nodes")

def entryFault (nodeIds entries : List String) : String :=
  "entry node '" ++ (entries.find? (fun entry => entry ∉ nodeIds)).getD "" ++ "' not found in nodes"

-- SemanticProgram(...), with the fields that a document or a row has.
def makeProgram (programId : String) (name : FittingText 200) (status : ProgramStatus) (nodes : List WholeNode)
    (entryNodeIds : List String) (metadata : JsonDict) (createdAt updatedAt : Datetime) :
    Except PyError WholeProgram :=
  if nodesNonempty : nodes ≠ [] then
    if entriesNonempty : entryNodeIds ≠ [] then
      if distinctIds : (nodes.map fun node => node.nodeId.1).Nodup then
        if entriesKnown : ∀ entry ∈ entryNodeIds, entry ∈ nodes.map fun node => node.nodeId.1 then
          .ok { programId, name, status, nodes, entryNodeIds, metadata, createdAt, updatedAt, nodesNonempty,
                entriesNonempty, distinctIds, entriesKnown }
        else .error (.valueError (entryFault (nodes.map fun node => node.nodeId.1) entryNodeIds))
      else .error (.valueError "SemanticProgram contains duplicate node_id values")
    else .error (invalid "SemanticProgram" "entry_node_ids")
  else .error (invalid "SemanticProgram" "nodes")

def programFieldNames : List String :=
  ["program_id", "name", "status", "nodes", "entry_node_ids", "metadata", "created_at", "updated_at"]

theorem empty_distinct : (Json.obj []).distinct = true := rfl

-- SemanticProgram.model_validate, with the id and the time that a document
-- without them draws.
def programValidate (drawn : String) (now : Datetime) : Json → Except PyError WholeProgram
  | .obj fields => do
      let model := "SemanticProgram"
      forbidExtra programFieldNames fields model
      let programId ← readField Json.text? (some drawn) fields model "program_id"
      let name ← readField (fitting? 200) none fields model "name"
      let status ← readField (enum? ProgramStatus.all ProgramStatus.value) (some .draft) fields model "status"
      let nodes ← nodesValidate coerce ((fields.lookup "nodes").getD .null)
      let entryNodeIds ← readField (items? Json.text?) none fields model "entry_node_ids"
      let metadata ← readField jsonDict? (some ⟨[], empty_distinct⟩) fields model "metadata"
      let createdAt ← readField coerce.datetime? (some now) fields model "created_at"
      let updatedAt ← readField coerce.datetime? (some now) fields model "updated_at"
      makeProgram programId name status nodes entryNodeIds metadata createdAt updatedAt
  | _ => .error (invalid "SemanticProgram" "")

end Validate

theorem NodeType.mem_all (own : NodeType) : own ∈ NodeType.all := by cases own <;> decide
theorem EffectType.mem_all (own : EffectType) : own ∈ EffectType.all := by cases own <;> decide
theorem RollbackStrategy.mem_all (own : RollbackStrategy) : own ∈ RollbackStrategy.all := by cases own <;> decide
theorem MergeStrategy.mem_all (own : MergeStrategy) : own ∈ mergeStrategies := by cases own <;> decide
theorem ConditionOp.mem_all (own : ConditionOp) : own ∈ ConditionOp.all := by
  cases own with
  | compare order => cases order <;> decide
  | eq | neq | contains | present => decide

section Kept

variable {α : Type} (read : Json → Option α) (dump : α → Json)

theorem some_then {α β : Type} {action : Option α} {next : α → Option β} {value : α} {result : Option β}
    (ok : action = some value) (rest : next value = result) : (action >>= next) = result := by
  rw [ok]
  exact rest

theorem ok_then {α β : Type} {action : Except PyError α} {next : α → Except PyError β} {value : α}
    {result : Except PyError β} (ok : action = .ok value) (rest : next value = result) :
    (action >>= next) = result := (bind_step ok next).trans rest

theorem list_kept (values : List α) (each : ∀ own ∈ values, read (dump own) = some own) :
    items? read (dumpList dump values) = some values := by
  change (values.map dump).mapM read = some values
  induction values with
  | nil => rfl
  | cons value rest ih =>
      obtain ⟨first, later⟩ := List.forall_mem_cons.mp each
      rw [List.map_cons, List.mapM_cons, first, ih later]
      rfl

theorem nullable_kept (value : Option α) (each : ∀ own ∈ value, read (dump own) = some own ∧ dump own ≠ .null) :
    nullable read (orNull dump value) = some value := by
  have kept : nullable read (orNull dump value) = some (value.map id) := nullable_dump read dump id value each
  rwa [Option.map_id_fun, id] at kept

theorem nullable_list_kept (value : Option (List α)) (each : ∀ own, read (dump own) = some own) :
    nullable (items? read) (orNull (dumpList dump) value) = some value :=
  nullable_kept _ _ value fun own _ => ⟨list_kept read dump own fun one _ => each one, Json.noConfusion⟩

theorem nullable_enum_kept (members : List α) (name : α → String) (every : ∀ own, own ∈ members)
    (distinct : (members.map name).Nodup) (value : Option α) :
    nullable (enum? members name) (orNull (fun own => .str (name own)) value) = some value :=
  nullable_kept _ _ value fun own _ => ⟨enum_name members name own (every own) distinct, Json.noConfusion⟩

theorem fitting_kept (most : Nat) (text : FittingText most) : fitting? most (.str text.1) = some text := by
  rw [fitting?]
  refine some_then rfl ?_
  exact dif_pos text.2

theorem value_kept (value : JsonValue) : jsonValue? value.1 = some value := dif_pos value.2

theorem bounded_kept (most : Nat) (text : String) (fits : TextFits most text) :
    boundedText? most (.str text) = some text := by
  change (some text).filter (fun own => own ≠ "" && own.length ≤ most) = some text
  obtain ⟨filled, short⟩ := fits
  rw [Option.filter_some, if_pos (by simp [filled, short])]

theorem resource_kept (resource : ResourceRef) (fits : resource.Fits) :
    ResourceRef.modelValidate resource.modelDump = .ok resource := by
  obtain ⟨kind, uri, scope, access⟩ := fits
  have named : access? (.str resource.access) = some resource.access := by
    change (some resource.access).filter (fun own => own ∈ ["READ", "WRITE", "READ_WRITE"]) = some resource.access
    rw [Option.filter_some, if_pos (by simpa using access)]
  rw [ResourceRef.modelDump, ResourceRef.modelValidate]
  refine ok_then rfl ?_
  refine ok_then (field_kept _ _ _ _ _ _ _ rfl (bounded_kept 64 _ kind)) ?_
  refine ok_then (field_kept _ _ _ _ _ _ _ rfl (bounded_kept 500 _ uri)) ?_
  refine ok_then (field_kept _ _ _ _ _ _ _ rfl (bounded_kept 200 _ scope)) ?_
  exact ok_then (field_kept _ _ _ _ _ _ _ rfl named) rfl

theorem permission_kept (permission : Permission) : permission? permission.modelDump = some permission := by
  rw [permission?]
  refine some_then rfl ?_
  refine some_then (fitting_kept 100 permission.capability) ?_
  refine some_then (fitting_kept 300 permission.scopePredicate) ?_
  rfl

theorem expr_kept (expr : WholeExpr) : expr? expr.modelDump = some expr := by
  have op := enum_name _ ConditionOp.text expr.op (ConditionOp.mem_all _) (by decide)
  rw [expr?]
  refine some_then rfl ?_
  refine some_then op ?_
  refine some_then (fitting_kept 200 expr.key) ?_
  refine some_then (value_kept expr.value) ?_
  rfl

theorem condition_kept (condition : WholeCondition) : condition? condition.modelDump = some condition := by
  have expr : nullable expr? (orNull WholeExpr.modelDump condition.expr) = some condition.expr :=
    nullable_kept _ _ _ fun own _ => ⟨expr_kept own, Json.noConfusion⟩
  rw [condition?]
  refine some_then rfl ?_
  refine some_then (fitting_kept 300 condition.predicate) ?_
  refine some_then expr ?_
  rfl

end Kept

section Coerced

variable {coerce : Coercions} (keeps : coerce.Keeps)

include keeps

theorem between_kept (least most : Nat) (count : { count : Nat // least ≤ count ∧ count ≤ most }) :
    coerce.between? least most (.int count.1) = some count := by
  rw [Coercions.between?]
  refine some_then (int_kept keeps 0 count.1 (Int.natCast_nonneg _)) ?_
  exact dif_pos count.2

theorem cost_kept (cost : ℚ) (positive : 0 ≤ cost) : coerce.cost? (.float cost) = some cost := by
  have read : coerce.float? (.float cost) = some cost := keeps.float cost
  rw [Coercions.cost?, read, Option.filter_some, if_pos (decide_eq_true positive)]

theorem effect_validated (effect : Effect) (fits : effect.Fits) :
    Effect.modelValidate coerce effect.modelDump = .ok effect := by
  obtain ⟨positive, resource⟩ := fits
  have effectType := enum_name _ EffectType.value effect.effectType (EffectType.mem_all _) (by decide)
  have reversible : coerce.bool? (.bool effect.reversible) = some effect.reversible := keeps.bool _
  have costHint := cost_kept keeps effect.costHint positive
  obtain ⟨_, target, _, _⟩ := effect
  rw [Effect.modelDump, Effect.modelValidate]
  refine ok_then rfl ?_
  refine ok_then (field_kept _ _ _ _ _ _ _ rfl effectType) ?_
  cases target with
  | none =>
      refine ok_then rfl ?_
      refine ok_then (field_kept _ _ _ _ _ _ _ rfl reversible) ?_
      exact ok_then (field_kept _ _ _ _ _ _ _ rfl costHint) rfl
  | some own =>
      have kept := congrArg (Except.map some) (resource_kept own (resource own rfl))
      refine ok_then kept ?_
      refine ok_then (field_kept _ _ _ _ _ _ _ rfl reversible) ?_
      exact ok_then (field_kept _ _ _ _ _ _ _ rfl costHint) rfl

theorem effect_kept (effect : WholeEffect) : effect? coerce effect.1.modelDump = some effect := by
  rw [effect?, effect_validated keeps effect.1 effect.2]
  exact dif_pos effect.2

theorem retry_kept (retry : WholeRetry) : retryPolicy? coerce retry.modelDump = some retry := by
  have attempts := between_kept keeps 1 20 ⟨retry.maxAttempts, retry.attemptsRange⟩
  have backoff := between_kept keeps 0 60000 ⟨retry.backoffMs, Nat.zero_le _, retry.backoffRange⟩
  have retryOn := list_kept (enum? EffectType.all EffectType.value) (fun own => .str own.value) retry.retryOn
    fun own _ => enum_name _ EffectType.value own (EffectType.mem_all own) (by decide)
  rw [retryPolicy?]
  refine some_then rfl ?_
  refine some_then attempts ?_
  refine some_then backoff ?_
  refine some_then retryOn ?_
  rfl

theorem timeout_kept (timeout : Option { count : Nat // 1 ≤ count ∧ count ≤ 3600000 }) :
    timeout? coerce (orNull (fun own : Nat => .int own) (timeout.map Subtype.val)) = some timeout := by
  have kept := nullable_kept (coerce.between? 1 3600000) (fun own => .int own.1) timeout
    fun own _ => ⟨between_kept keeps 1 3600000 own, Json.noConfusion⟩
  cases timeout <;> exact kept

theorem vector_or_null_kept (vector : Option SemanticVector) :
    optionalVector coerce (orNull SemanticVector.modelDump vector) = .ok vector := by
  cases vector with
  | none => rfl
  | some own =>
      change (SemanticVector.modelValidate coerce own.modelDump).map some = _
      rw [vector_kept keeps own]
      rfl

theorem whole_node_kept (node : WholeNode) : nodeValidate coerce node.modelDump = .ok node := by
  have texts (value : String) : Json.text? (.str value) = some value := rfl
  have timeout : ∃ own : Option { count : Nat // 1 ≤ count ∧ count ≤ 3600000 },
      own.map Subtype.val = node.timeoutMs := by
    cases given : node.timeoutMs with
    | none => exact ⟨none, rfl⟩
    | some ms => exact ⟨some ⟨ms, node.timeoutRange ms given⟩, rfl⟩
  obtain ⟨own, isOwn⟩ := timeout
  have timed := timeout_kept keeps own
  rw [isOwn] at timed
  rw [WholeNode.modelDump, nodeValidate]
  refine ok_then rfl ?_
  refine ok_then (field_kept _ _ _ _ _ _ _ rfl (fitting_kept 200 node.nodeId)) ?_
  refine ok_then (field_kept _ _ _ _ _ _ _ rfl (enum_name _ _ node.nodeType (NodeType.mem_all _) (by decide))) ?_
  refine ok_then (field_kept _ _ _ _ _ _ _ rfl (nullable_list_kept _ _ node.aspects texts)) ?_
  refine ok_then (vector_or_null_kept keeps node.vector) ?_
  refine ok_then (intent_kept node.intent) ?_
  refine ok_then (field_kept _ _ _ _ _ _ _ rfl (list_kept _ _ node.successors fun own _ => texts own)) ?_
  refine ok_then (field_kept _ _ _ _ _ _ _ rfl (nullable_enum_kept _ _ VerdictType.mem_all (by decide) _)) ?_
  refine ok_then (field_kept _ _ _ _ _ _ _ rfl (nullable_enum_kept _ _ MergeStrategy.mem_all (by decide) _)) ?_
  refine ok_then (field_kept _ _ _ _ _ _ _ rfl (nullable_list_kept _ _ node.preconditions condition_kept)) ?_
  refine ok_then (field_kept _ _ _ _ _ _ _ rfl (nullable_list_kept _ _ node.postconditions condition_kept)) ?_
  refine ok_then (field_kept _ _ _ _ _ _ _ rfl (nullable_list_kept _ _ node.effects (effect_kept keeps))) ?_
  refine ok_then (field_kept _ _ _ _ _ _ _ rfl (nullable_list_kept _ _ node.requiredPermissions permission_kept)) ?_
  refine ok_then (field_kept _ _ _ _ _ _ _ rfl
    (nullable_kept _ _ node.retryPolicy fun own _ => ⟨retry_kept keeps own, Json.noConfusion⟩)) ?_
  refine ok_then (field_kept _ _ _ _ _ _ _ rfl (nullable_enum_kept _ _ RollbackStrategy.mem_all (by decide) _)) ?_
  refine ok_then (field_kept _ _ _ _ _ _ _ rfl timed) ?_
  rw [dif_pos node.payloadValid]
  simp only [isOwn]
  rfl

theorem whole_nodes_kept (nodes : List WholeNode) :
    nodesValidate coerce (dumpList WholeNode.modelDump nodes) = .ok nodes := by
  change (nodes.map WholeNode.modelDump).mapM (nodeValidate coerce) = .ok nodes
  induction nodes with
  | nil => rfl
  | cons node rest ih =>
      rw [List.map_cons, List.mapM_cons, whole_node_kept keeps node, ih]
      rfl

end Coerced

theorem make_whole (program : WholeProgram) :
    makeProgram program.programId program.name program.status program.nodes program.entryNodeIds program.metadata
      program.createdAt program.updatedAt = .ok program := by
  rw [makeProgram, dif_pos program.nodesNonempty, dif_pos program.entriesNonempty, dif_pos program.distinctIds,
    dif_pos program.entriesKnown]

section Distinct

theorem list_distinct {α : Type} (dump : α → Json) (values : List α) (each : ∀ own, (dump own).distinct = true) :
    (dumpList dump values).distinct = true := by
  change distinctItems (values.map dump) = true
  induction values with
  | nil => rfl
  | cons value rest ih => simp [distinctItems, each value, ih]

theorem expr_distinct (expr : WholeExpr) : expr.modelDump.distinct = true := by
  simp [WholeExpr.modelDump, Json.distinct, distinctFields, expr.value.2]

theorem condition_distinct (condition : WholeCondition) : condition.modelDump.distinct = true := by
  have expr := or_null_distinct WholeExpr.modelDump expr_distinct condition.expr
  simp [WholeCondition.modelDump, Json.distinct, distinctFields, expr]

theorem effect_distinct (effect : Effect) : effect.modelDump.distinct = true := by
  have target := or_null_distinct ResourceRef.modelDump (fun _ => rfl) effect.target
  simp [Effect.modelDump, Json.distinct, distinctFields, target]

theorem retry_distinct (retry : WholeRetry) : retry.modelDump.distinct = true := by
  have retryOn := list_distinct (fun own : EffectType => .str own.value) retry.retryOn fun _ => rfl
  rw [dumpList] at retryOn
  simp [WholeRetry.modelDump, Json.distinct, distinctFields] at retryOn ⊢
  exact retryOn

theorem whole_node_distinct (node : WholeNode) : node.modelDump.distinct = true := by
  have texts (values : List String) : (dumpList .str values).distinct = true := list_distinct _ values fun _ => rfl
  have conditions (values : List WholeCondition) : (dumpList WholeCondition.modelDump values).distinct = true :=
    list_distinct _ values condition_distinct
  have effects (values : List WholeEffect) :
      (dumpList (fun own : WholeEffect => own.1.modelDump) values).distinct = true :=
    list_distinct _ values fun own => effect_distinct own.1
  have permissions (values : List Permission) : (dumpList Permission.modelDump values).distinct = true :=
    list_distinct _ values fun _ => rfl
  simp [WholeNode.modelDump, Json.distinct, distinctFields, texts, distinct_intent_dump,
    or_null_distinct _ texts, or_null_distinct _ distinct_vector_dump, or_null_distinct _ conditions,
    or_null_distinct _ effects, or_null_distinct _ permissions, or_null_distinct _ retry_distinct,
    or_null_distinct (fun own : VerdictType => .str own.value) fun _ => rfl,
    or_null_distinct (fun own : MergeStrategy => .str own.text) fun _ => rfl,
    or_null_distinct (fun own : RollbackStrategy => .str own.value) fun _ => rfl,
    or_null_distinct (fun own : Nat => .int own) fun _ => rfl]

end Distinct

end Vermyth
