import Vermyth.Protocol.KeyOrder
import Vermyth.Schema.Documents
import Vermyth.Schema.Program

set_option autoImplicit false

namespace Vermyth

-- dict[str, Any], of JSON values.
structure JsonDict where
  fields : List (String × Json)
  distinct : (Json.obj fields).distinct = true

def JsonDict.json (dict : JsonDict) : Json := .obj dict.fields

-- a == b
def JsonDict.Same (a b : JsonDict) : Prop := a.json.sorted = b.json.sorted

def jsonDict? : Json → Option JsonDict
  | .obj fields => if distinct : (Json.obj fields).distinct = true then some { fields, distinct } else none
  | _ => none

def ProgramStatus.all : List ProgramStatus := [.draft, .compiled, .running, .completed, .failed]

def ProgramStatus.value : ProgramStatus → String
  | .draft => "DRAFT"
  | .compiled => "COMPILED"
  | .running => "RUNNING"
  | .completed => "COMPLETED"
  | .failed => "FAILED"

def NodeExecutionStatus.all : List NodeExecutionStatus := [.skipped, .running, .ok, .failed, .rolledBack]

def NodeExecutionStatus.value : NodeExecutionStatus → String
  | .skipped => "SKIPPED"
  | .running => "RUNNING"
  | .ok => "OK"
  | .failed => "FAILED"
  | .rolledBack => "ROLLED_BACK"

-- schema.NodeExecutionReceipt, with all its fields.
structure WholeNodeReceipt where
  nodeId : String
  status : NodeExecutionStatus
  startedAt : Datetime
  durationMs : Nat := 0
  preconditionResults : List JsonDict := []
  postconditionResults : List JsonDict := []
  retries : Nat := 0
  effectSummary : List JsonDict := []
  error : Option String := none

-- schema.ExecutionReceipt, with all its fields.
structure WholeReceipt where
  receiptId : String
  executionId : String
  programId : String
  status : ProgramStatus
  nodes : List WholeNodeReceipt := []
  startedAt : Datetime
  completedAt : Option Datetime := none
  signature : Option String := none
  signingKeyId : Option String := none
  correlationId : Option String := none
  principalId : Option String := none
  arcaneProvenance : Option JsonDict := none

-- What the documents of receipts rest on outside the repository: how json
-- prints and reads a float, how pydantic prints a datetime, and how it reads a
-- scalar.
structure ReceiptCodec where
  floatRepr : ℚ → String
  readFloat : List Char → Option ℚ
  dateText : Datetime → String
  coerce : Coercions

def Datetime.Aware (time : Datetime) : Prop := time.offset.isSome

-- The offsets from UTC that ISO 8601 writes: hours and minutes.
def Datetime.WholeMinutes (time : Datetime) : Prop := ∃ seconds, time.offset = some seconds ∧ 60 ∣ seconds

-- pydantic reads back the ISO 8601 text it writes, where no seconds of the
-- offset are left out.
structure ReceiptCodec.Standard (codec : ReceiptCodec) : Prop where
  json : FloatText codec.floatRepr codec.readFloat
  keeps : codec.coerce.Keeps
  dates : ∀ time : Datetime, time.WholeMinutes → codec.coerce.datetime (.str (codec.dateText time)) = some time

def WholeReceipt.Stamped (kind : Datetime → Prop) (receipt : WholeReceipt) : Prop :=
  kind receipt.startedAt ∧ (∀ time ∈ receipt.completedAt, kind time) ∧ ∀ node ∈ receipt.nodes, kind node.startedAt

structure WholeNodeReceipt.Agrees (a b : WholeNodeReceipt) : Prop where
  nodeId : a.nodeId = b.nodeId
  status : a.status = b.status
  startedAt : a.startedAt = b.startedAt
  durationMs : a.durationMs = b.durationMs
  preconditionResults : List.Forall₂ JsonDict.Same a.preconditionResults b.preconditionResults
  postconditionResults : List.Forall₂ JsonDict.Same a.postconditionResults b.postconditionResults
  retries : a.retries = b.retries
  effectSummary : List.Forall₂ JsonDict.Same a.effectSummary b.effectSummary
  error : a.error = b.error

-- Every field is the same, but for signature and signing_key_id.
structure WholeReceipt.Agrees (a b : WholeReceipt) : Prop where
  receiptId : a.receiptId = b.receiptId
  executionId : a.executionId = b.executionId
  programId : a.programId = b.programId
  status : a.status = b.status
  nodes : List.Forall₂ WholeNodeReceipt.Agrees a.nodes b.nodes
  startedAt : a.startedAt = b.startedAt
  completedAt : a.completedAt = b.completedAt
  correlationId : a.correlationId = b.correlationId
  principalId : a.principalId = b.principalId
  arcaneProvenance : Option.Rel JsonDict.Same a.arcaneProvenance b.arcaneProvenance

namespace ReceiptCodec

variable (codec : ReceiptCodec)

def dateDump (time : Datetime) : Json := .str (codec.dateText time)

def dictsDump (dicts : List JsonDict) : Json := .arr (dicts.map JsonDict.json)

-- NodeExecutionReceipt.model_dump(mode="json")
def nodeFields (node : WholeNodeReceipt) : List (String × Json) :=
  [("node_id", .str node.nodeId), ("status", .str node.status.value), ("started_at", codec.dateDump node.startedAt),
    ("duration_ms", .int node.durationMs), ("precondition_results", dictsDump node.preconditionResults),
    ("postcondition_results", dictsDump node.postconditionResults), ("retries", .int node.retries),
    ("effect_summary", dictsDump node.effectSummary), ("error", orNull .str node.error)]

def nodesDump (nodes : List WholeNodeReceipt) : Json := .arr (nodes.map fun node => .obj (codec.nodeFields node))

-- ExecutionReceipt.model_dump(mode="json")
def receiptFields (receipt : WholeReceipt) : List (String × Json) :=
  [("receipt_id", .str receipt.receiptId), ("execution_id", .str receipt.executionId),
    ("program_id", .str receipt.programId), ("status", .str receipt.status.value),
    ("nodes", codec.nodesDump receipt.nodes), ("started_at", codec.dateDump receipt.startedAt),
    ("completed_at", orNull codec.dateDump receipt.completedAt), ("signature", orNull .str receipt.signature),
    ("signing_key_id", orNull .str receipt.signingKeyId), ("correlation_id", orNull .str receipt.correlationId),
    ("principal_id", orNull .str receipt.principalId),
    ("arcane_provenance", orNull JsonDict.json receipt.arcaneProvenance)]

def modelDump (receipt : WholeReceipt) : Json := .obj (codec.receiptFields receipt)

def nodeKeys : List String := ["node_id", "status", "started_at", "duration_ms", "precondition_results",
  "postcondition_results", "retries", "effect_summary", "error"]

-- NodeExecutionReceipt.model_validate
def nodeValidate (now : Datetime) : Json → Except PyError WholeNodeReceipt
  | .obj fields => do
      let model := "NodeExecutionReceipt"
      forbidExtra nodeKeys fields model
      let nodeId ← readField Json.text? none fields model "node_id"
      let status ← readField (enum? NodeExecutionStatus.all NodeExecutionStatus.value) none fields model "status"
      let startedAt ← readField codec.coerce.datetime? (some now) fields model "started_at"
      let durationMs ← readField (codec.coerce.int? 0) (some 0) fields model "duration_ms"
      let preconditionResults ← readField (items? jsonDict?) (some []) fields model "precondition_results"
      let postconditionResults ← readField (items? jsonDict?) (some []) fields model "postcondition_results"
      let retries ← readField (codec.coerce.int? 0) (some 0) fields model "retries"
      let effectSummary ← readField (items? jsonDict?) (some []) fields model "effect_summary"
      let error ← readField (nullable Json.text?) (some none) fields model "error"
      return { nodeId, status, startedAt, durationMs := durationMs.toNat, preconditionResults, postconditionResults,
               retries := retries.toNat, effectSummary, error }
  | _ => .error (invalid "NodeExecutionReceipt" "")

def nodesValidate (now : Datetime) : Json → Except PyError (List WholeNodeReceipt)
  | .arr items => items.mapM (codec.nodeValidate now)
  | _ => .error (invalid "ExecutionReceipt" "nodes")

def receiptKeys : List String := ["receipt_id", "execution_id", "program_id", "status", "nodes", "started_at",
  "completed_at", "signature", "signing_key_id", "correlation_id", "principal_id", "arcane_provenance"]

-- ExecutionReceipt.model_validate, with the id and the time that a document
-- without one draws.
def modelValidate (drawn : String) (now : Datetime) : Json → Except PyError WholeReceipt
  | .obj fields => do
      let model := "ExecutionReceipt"
      forbidExtra receiptKeys fields model
      let receiptId ← readField Json.text? (some drawn) fields model "receipt_id"
      let executionId ← readField Json.text? none fields model "execution_id"
      let programId ← readField Json.text? none fields model "program_id"
      let status ← readField (enum? ProgramStatus.all ProgramStatus.value) none fields model "status"
      let nodes ← codec.nodesValidate now ((fields.lookup "nodes").getD (.arr []))
      let startedAt ← readField codec.coerce.datetime? (some now) fields model "started_at"
      let completedAt ← readField (nullable codec.coerce.datetime?) (some none) fields model "completed_at"
      let signature ← readField (nullable Json.text?) (some none) fields model "signature"
      let signingKeyId ← readField (nullable Json.text?) (some none) fields model "signing_key_id"
      let correlationId ← readField (nullable Json.text?) (some none) fields model "correlation_id"
      let principalId ← readField (nullable Json.text?) (some none) fields model "principal_id"
      let arcaneProvenance ← readField (nullable jsonDict?) (some none) fields model "arcane_provenance"
      return { receiptId, executionId, programId, status, nodes, startedAt, completedAt, signature, signingKeyId,
               correlationId, principalId, arcaneProvenance }
  | _ => .error (invalid "ExecutionReceipt" "")

end ReceiptCodec

theorem dict_kept (dict : JsonDict) : jsonDict? dict.json = some dict := dif_pos dict.distinct

theorem dict_not_null (dict : JsonDict) : dict.json ≠ .null := Json.noConfusion

theorem dicts_kept (dicts : List JsonDict) : items? jsonDict? (ReceiptCodec.dictsDump dicts) = some dicts := by
  change (dicts.map JsonDict.json).mapM jsonDict? = some dicts
  induction dicts with
  | nil => rfl
  | cons dict rest ih =>
      rw [List.map_cons, List.mapM_cons, dict_kept, ih]
      rfl

theorem program_status_kept (status : ProgramStatus) :
    enum? ProgramStatus.all ProgramStatus.value (.str status.value) = some status := by
  refine enum_name _ _ _ ?_ (by decide)
  cases status <;> decide

theorem node_status_kept (status : NodeExecutionStatus) :
    enum? NodeExecutionStatus.all NodeExecutionStatus.value (.str status.value) = some status := by
  refine enum_name _ _ _ ?_ (by decide)
  cases status <;> decide

theorem dict_or_null_kept (dict : Option JsonDict) :
    nullable jsonDict? (orNull JsonDict.json dict) = some dict := by
  have kept : nullable jsonDict? (orNull JsonDict.json dict) = some (dict.map id) :=
    nullable_dump _ _ _ _ fun own _ => ⟨dict_kept own, dict_not_null own⟩
  rwa [Option.map_id_fun, id] at kept

section Kept

variable (codec : ReceiptCodec) (standard : codec.Standard)

include standard

theorem date_kept (time : Datetime) (whole : time.WholeMinutes) :
    codec.coerce.datetime? (codec.dateDump time) = some time := standard.dates time whole

theorem dates_kept (time : Option Datetime) (whole : ∀ own ∈ time, own.WholeMinutes) :
    nullable codec.coerce.datetime? (orNull codec.dateDump time) = some time := by
  have kept : nullable codec.coerce.datetime? (orNull codec.dateDump time) = some (time.map id) :=
    nullable_dump _ _ _ _ fun own isTime => ⟨date_kept codec standard own (whole own isTime), Json.noConfusion⟩
  rwa [Option.map_id_fun, id] at kept

theorem count_kept (count : Nat) : codec.coerce.int? 0 (.int count) = some (count : Int) :=
  int_kept standard.keeps 0 count (Int.natCast_nonneg count)

theorem node_kept (now : Datetime) (node : WholeNodeReceipt) (whole : node.startedAt.WholeMinutes) :
    codec.nodeValidate now (.obj (codec.nodeFields node)) = .ok node := by
  apply (bind_ok _ _ _).mpr
  refine ⟨(), rfl, ?_⟩
  apply (bind_ok _ _ _).mpr
  refine ⟨node.nodeId, field_kept _ _ _ _ _ _ _ rfl rfl, ?_⟩
  apply (bind_ok _ _ _).mpr
  refine ⟨node.status, field_kept _ _ _ _ _ _ _ rfl (node_status_kept node.status), ?_⟩
  apply (bind_ok _ _ _).mpr
  refine ⟨node.startedAt, field_kept _ _ _ _ _ _ _ rfl (date_kept codec standard _ whole), ?_⟩
  apply (bind_ok _ _ _).mpr
  refine ⟨node.durationMs, field_kept _ _ _ _ _ _ _ rfl (count_kept codec standard _), ?_⟩
  apply (bind_ok _ _ _).mpr
  refine ⟨node.preconditionResults, field_kept _ _ _ _ _ _ _ rfl (dicts_kept _), ?_⟩
  apply (bind_ok _ _ _).mpr
  refine ⟨node.postconditionResults, field_kept _ _ _ _ _ _ _ rfl (dicts_kept _), ?_⟩
  apply (bind_ok _ _ _).mpr
  refine ⟨node.retries, field_kept _ _ _ _ _ _ _ rfl (count_kept codec standard _), ?_⟩
  apply (bind_ok _ _ _).mpr
  refine ⟨node.effectSummary, field_kept _ _ _ _ _ _ _ rfl (dicts_kept _), ?_⟩
  apply (bind_ok _ _ _).mpr
  refine ⟨node.error, field_kept _ _ _ _ _ _ _ rfl (nullable_text _), ?_⟩
  rfl

theorem nodes_kept (now : Datetime) (nodes : List WholeNodeReceipt)
    (whole : ∀ node ∈ nodes, node.startedAt.WholeMinutes) :
    codec.nodesValidate now (codec.nodesDump nodes) = .ok nodes := by
  change (nodes.map fun node => Json.obj (codec.nodeFields node)).mapM (codec.nodeValidate now) = _
  induction nodes with
  | nil => rfl
  | cons node rest ih =>
      obtain ⟨first, later⟩ := List.forall_mem_cons.mp whole
      rw [List.map_cons, List.mapM_cons, node_kept codec standard now node first, ih later]
      rfl

theorem receipt_kept (drawn : String) (now : Datetime) (receipt : WholeReceipt)
    (whole : receipt.Stamped Datetime.WholeMinutes) :
    codec.modelValidate drawn now (codec.modelDump receipt) = .ok receipt := by
  obtain ⟨started, completed, nodes⟩ := whole
  apply (bind_ok _ _ _).mpr
  refine ⟨(), rfl, ?_⟩
  apply (bind_ok _ _ _).mpr
  refine ⟨receipt.receiptId, field_kept _ _ _ _ _ _ _ rfl rfl, ?_⟩
  apply (bind_ok _ _ _).mpr
  refine ⟨receipt.executionId, field_kept _ _ _ _ _ _ _ rfl rfl, ?_⟩
  apply (bind_ok _ _ _).mpr
  refine ⟨receipt.programId, field_kept _ _ _ _ _ _ _ rfl rfl, ?_⟩
  apply (bind_ok _ _ _).mpr
  refine ⟨receipt.status, field_kept _ _ _ _ _ _ _ rfl (program_status_kept receipt.status), ?_⟩
  apply (bind_ok _ _ _).mpr
  refine ⟨receipt.nodes, nodes_kept codec standard now receipt.nodes nodes, ?_⟩
  apply (bind_ok _ _ _).mpr
  refine ⟨receipt.startedAt, field_kept _ _ _ _ _ _ _ rfl (date_kept codec standard _ started), ?_⟩
  apply (bind_ok _ _ _).mpr
  refine ⟨receipt.completedAt, field_kept _ _ _ _ _ _ _ rfl (dates_kept codec standard _ completed), ?_⟩
  apply (bind_ok _ _ _).mpr
  refine ⟨receipt.signature, field_kept _ _ _ _ _ _ _ rfl (nullable_text _), ?_⟩
  apply (bind_ok _ _ _).mpr
  refine ⟨receipt.signingKeyId, field_kept _ _ _ _ _ _ _ rfl (nullable_text _), ?_⟩
  apply (bind_ok _ _ _).mpr
  refine ⟨receipt.correlationId, field_kept _ _ _ _ _ _ _ rfl (nullable_text _), ?_⟩
  apply (bind_ok _ _ _).mpr
  refine ⟨receipt.principalId, field_kept _ _ _ _ _ _ _ rfl (nullable_text _), ?_⟩
  apply (bind_ok _ _ _).mpr
  exact ⟨receipt.arcaneProvenance, field_kept _ _ _ _ _ _ _ rfl (dict_or_null_kept _), rfl⟩

end Kept

theorem dump_tells {α : Type} (read : Json → Option α) (stable : Stable read) (dump : α → Json) (a b : α)
    (readA : read (dump a) = some a) (readB : read (dump b) = some b) (same : (dump a).sorted = (dump b).sorted) :
    a = b := by
  have both := stable _ _ same
  rwa [readA, readB, Option.some.injEq] at both

theorem items_related {α : Type} (dump : α → Json) (related : α → α → Prop) (as bs : List α)
    (each : ∀ a ∈ as, ∀ b ∈ bs, (dump a).sorted = (dump b).sorted → related a b)
    (same : (Json.arr (as.map dump)).sorted = (Json.arr (bs.map dump)).sorted) : List.Forall₂ related as bs := by
  rw [Json.sorted, Json.sorted, Json.arr.injEq, sorted_items_map, sorted_items_map] at same
  induction as generalizing bs with
  | nil =>
      obtain rfl : bs = [] := by simpa using same.symm
      exact .nil
  | cons a as ih =>
      cases bs with
      | nil => simp at same
      | cons b bs =>
          simp only [List.map_cons, List.cons.injEq] at same
          refine .cons (each a List.mem_cons_self b List.mem_cons_self same.1) (ih bs ?_ same.2)
          intro own inAs other inBs
          exact each own (List.mem_cons_of_mem _ inAs) other (List.mem_cons_of_mem _ inBs)

theorem dicts_related (as bs : List JsonDict)
    (same : (ReceiptCodec.dictsDump as).sorted = (ReceiptCodec.dictsDump bs).sorted) :
    List.Forall₂ JsonDict.Same as bs :=
  items_related JsonDict.json JsonDict.Same as bs (fun _ _ _ _ same => same) same

theorem dict_or_null_related (a b : Option JsonDict)
    (same : (orNull JsonDict.json a).sorted = (orNull JsonDict.json b).sorted) : Option.Rel JsonDict.Same a b := by
  cases a with
  | none =>
      cases b with
      | none => exact .none
      | some b => simp [orNull, JsonDict.json, Json.sorted] at same
  | some a =>
      cases b with
      | none => simp [orNull, JsonDict.json, Json.sorted] at same
      | some b => exact .some same

theorem text_or_null_tells (a b : Option String)
    (same : (orNull Json.str a).sorted = (orNull Json.str b).sorted) : a = b :=
  dump_tells _ (stable_nullable _ stable_text) _ a b (nullable_text a) (nullable_text b) same

theorem stable_datetime (coerce : Coercions) : Stable coerce.datetime? :=
  stable_of _ fun value => by cases value <;> rfl

section Tells

variable (codec : ReceiptCodec) (standard : codec.Standard)

include standard

theorem count_tells (a b : Nat) (same : (Json.int a).sorted = (Json.int b).sorted) : a = b :=
  Int.ofNat.inj (dump_tells _ (stable_int codec.coerce 0) Json.int a b (count_kept codec standard a)
    (count_kept codec standard b) same)

theorem date_tells (a b : Datetime) (wholeA : a.WholeMinutes) (wholeB : b.WholeMinutes)
    (same : (codec.dateDump a).sorted = (codec.dateDump b).sorted) : a = b :=
  dump_tells _ (stable_datetime codec.coerce) _ a b (date_kept codec standard a wholeA)
    (date_kept codec standard b wholeB) same

theorem node_tells (a b : WholeNodeReceipt) (wholeA : a.startedAt.WholeMinutes) (wholeB : b.startedAt.WholeMinutes)
    (same : (Json.obj (codec.nodeFields a)).sorted = (Json.obj (codec.nodeFields b)).sorted) : a.Agrees b := by
  have fields := obj_alike _ _ same
  exact
    { nodeId := Json.str.inj (Option.some.inj (fields "node_id"))
      status := dump_tells _ (stable_named _) (fun own => .str (NodeExecutionStatus.value own)) _ _
        (node_status_kept _) (node_status_kept _) (Option.some.inj (fields "status"))
      startedAt := date_tells codec standard _ _ wholeA wholeB (Option.some.inj (fields "started_at"))
      durationMs := count_tells codec standard _ _ (Option.some.inj (fields "duration_ms"))
      preconditionResults := dicts_related _ _ (Option.some.inj (fields "precondition_results"))
      postconditionResults := dicts_related _ _ (Option.some.inj (fields "postcondition_results"))
      retries := count_tells codec standard _ _ (Option.some.inj (fields "retries"))
      effectSummary := dicts_related _ _ (Option.some.inj (fields "effect_summary"))
      error := text_or_null_tells _ _ (Option.some.inj (fields "error")) }

theorem receipt_tells (a b : WholeReceipt) (wholeA : a.Stamped Datetime.WholeMinutes)
    (wholeB : b.Stamped Datetime.WholeMinutes)
    (fields : ∀ key, key ≠ "signature" → key ≠ "signing_key_id" →
      ((codec.receiptFields a).lookup key).map Json.sorted = ((codec.receiptFields b).lookup key).map Json.sorted) :
    a.Agrees b := by
  obtain ⟨startedA, completedA, nodesA⟩ := wholeA
  obtain ⟨startedB, completedB, nodesB⟩ := wholeB
  exact
    { receiptId := Json.str.inj (Option.some.inj (fields "receipt_id" (by decide) (by decide)))
      executionId := Json.str.inj (Option.some.inj (fields "execution_id" (by decide) (by decide)))
      programId := Json.str.inj (Option.some.inj (fields "program_id" (by decide) (by decide)))
      status := dump_tells _ (stable_named _) (fun own => .str (ProgramStatus.value own)) _ _
        (program_status_kept _) (program_status_kept _)
        (Option.some.inj (fields "status" (by decide) (by decide)))
      nodes := items_related _ WholeNodeReceipt.Agrees _ _
        (fun own inA other inB => node_tells codec standard own other (nodesA own inA) (nodesB other inB))
        (Option.some.inj (fields "nodes" (by decide) (by decide)))
      startedAt := date_tells codec standard _ _ startedA startedB
        (Option.some.inj (fields "started_at" (by decide) (by decide)))
      completedAt := dump_tells _ (stable_nullable _ (stable_datetime codec.coerce)) _ _ _
        (dates_kept codec standard _ completedA) (dates_kept codec standard _ completedB)
        (Option.some.inj (fields "completed_at" (by decide) (by decide)))
      correlationId := text_or_null_tells _ _ (Option.some.inj (fields "correlation_id" (by decide) (by decide)))
      principalId := text_or_null_tells _ _ (Option.some.inj (fields "principal_id" (by decide) (by decide)))
      arcaneProvenance := dict_or_null_related _ _
        (Option.some.inj (fields "arcane_provenance" (by decide) (by decide))) }

end Tells

theorem dicts_dump_distinct (dicts : List JsonDict) : (ReceiptCodec.dictsDump dicts).distinct = true := by
  change distinctItems (dicts.map JsonDict.json) = true
  induction dicts with
  | nil => rfl
  | cons dict rest ih => rw [List.map_cons, distinctItems, ih, JsonDict.json, dict.distinct]; rfl

theorem or_null_distinct {α : Type} (dump : α → Json) (each : ∀ own, (dump own).distinct = true)
    (value : Option α) : (orNull dump value).distinct = true := by
  cases value with
  | none => rfl
  | some own => exact each own

theorem node_distinct (codec : ReceiptCodec) (node : WholeNodeReceipt) :
    (Json.obj (codec.nodeFields node)).distinct = true := by
  have keys : decide ((codec.nodeFields node).map Prod.fst).Nodup = true :=
    decide_eq_true (by decide : ReceiptCodec.nodeKeys.Nodup)
  rw [Json.distinct, keys]
  simp only [ReceiptCodec.nodeFields, ReceiptCodec.dateDump, distinctFields, Json.distinct, dicts_dump_distinct,
    or_null_distinct Json.str (fun _ => rfl), Bool.and_self]

theorem nodes_distinct (codec : ReceiptCodec) (nodes : List WholeNodeReceipt) :
    (codec.nodesDump nodes).distinct = true := by
  change distinctItems (nodes.map fun node => Json.obj (codec.nodeFields node)) = true
  induction nodes with
  | nil => rfl
  | cons node rest ih => rw [List.map_cons, distinctItems, ih, node_distinct]; rfl

theorem receipt_distinct (codec : ReceiptCodec) (receipt : WholeReceipt) :
    (codec.modelDump receipt).distinct = true := by
  have keys : decide ((codec.receiptFields receipt).map Prod.fst).Nodup = true :=
    decide_eq_true (by decide : ReceiptCodec.receiptKeys.Nodup)
  rw [ReceiptCodec.modelDump, Json.distinct, keys]
  simp only [ReceiptCodec.receiptFields, ReceiptCodec.dateDump, distinctFields, Json.distinct, nodes_distinct,
    or_null_distinct Json.str (fun _ => rfl), or_null_distinct JsonDict.json JsonDict.distinct,
    or_null_distinct codec.dateDump (fun _ => rfl), Bool.and_self]

end Vermyth
