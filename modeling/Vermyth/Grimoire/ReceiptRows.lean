import Vermyth.Foundation.Table
import Vermyth.Schema.ReceiptDocuments

set_option autoImplicit false

namespace Vermyth

open Foundation

-- A row of execution_receipts.
structure ReceiptRow where
  receiptId : String
  executionId : String
  programId : String
  status : String
  nodesJson : List Char
  startedAt : List Char
  completedAt : Option (List Char)
  signature : Option String
  signingKeyId : Option String
  correlationId : Option String
  principalId : Option String
  arcaneJson : Option (List Char)

abbrev ReceiptTable := Table ReceiptRow.receiptId

namespace ReceiptCodec

variable (codec : ReceiptCodec)

def toRow (receipt : WholeReceipt) : ReceiptRow where
  receiptId := receipt.receiptId
  executionId := receipt.executionId
  programId := receipt.programId
  status := receipt.status.value
  nodesJson := dumps .default codec.floatRepr (codec.nodesDump receipt.nodes)
  startedAt := receipt.startedAt.isoformat
  completedAt := receipt.completedAt.map Datetime.isoformat
  signature := receipt.signature
  signingKeyId := receipt.signingKeyId
  correlationId := receipt.correlationId
  principalId := receipt.principalId
  arcaneJson := receipt.arcaneProvenance.map fun provenance => dumps .default codec.floatRepr provenance.json

def writeExecutionReceipt (receipts : ReceiptTable) (receipt : WholeReceipt) : ReceiptTable :=
  receipts.upsert (codec.toRow receipt)

-- json.loads
def jsonLoads (text : List Char) : Except PyError Json :=
  (loads codec.readFloat text).elim (.error (.valueError "Expecting value")) .ok

-- datetime.fromisoformat
def isoDatetime (text : List Char) : Except PyError Datetime :=
  (Datetime.fromisoformat text).elim
    (.error (.valueError ("Invalid isoformat string: '" ++ String.ofList text ++ "'"))) .ok

-- x if text else None
def unlessEmpty {α : Type} (read : List Char → Except PyError α) (text : Option (List Char)) :
    Except PyError (Option α) :=
  match text with
  | none | some [] => .ok none
  | some text => (read text).map some

def readProvenance (value : Option Json) : Except PyError (Option JsonDict) :=
  (nullable jsonDict? (value.getD .null)).elim (.error (invalid "ExecutionReceipt" "arcane_provenance")) .ok

def fromRow (now : Datetime) (row : ReceiptRow) : Except PyError WholeReceipt := do
  let arcane ← unlessEmpty codec.jsonLoads row.arcaneJson
  let status ← (enum? ProgramStatus.all ProgramStatus.value (.str row.status)).elim
    (.error (.valueError ("'" ++ row.status ++ "' is not a valid ProgramStatus"))) .ok
  let nodes ← codec.jsonLoads row.nodesJson
  let startedAt ← isoDatetime row.startedAt
  let completedAt ← unlessEmpty isoDatetime row.completedAt
  let nodes ← codec.nodesValidate now nodes
  let arcaneProvenance ← readProvenance arcane
  return { receiptId := row.receiptId, executionId := row.executionId, programId := row.programId, status, nodes,
           startedAt, completedAt, signature := row.signature, signingKeyId := row.signingKeyId,
           correlationId := row.correlationId, principalId := row.principalId, arcaneProvenance }

-- Read with the time that a node without a started_at draws.
def readExecutionReceipt (now : Datetime) (receipts : ReceiptTable) (receiptId : String) :
    Except PyError WholeReceipt :=
  (receipts.find? receiptId).elim (.error (.keyError receiptId)) (codec.fromRow now)

end ReceiptCodec

theorem loads_ok (codec : ReceiptCodec) (standard : codec.Standard) (value : Json) (distinct : value.distinct = true) :
    codec.jsonLoads (dumps .default codec.floatRepr value) = .ok value := by
  rw [ReceiptCodec.jsonLoads, loads_dumps .default standard.json value distinct]
  rfl

theorem iso_datetime_isoformat (time : Datetime) : ReceiptCodec.isoDatetime time.isoformat = .ok time := by
  rw [ReceiptCodec.isoDatetime, fromisoformat_isoformat]
  rfl

theorem isoformat_not_empty (time : Datetime) : time.isoformat ≠ [] := by
  rw [Datetime.isoformat, Ne, List.append_eq_nil_iff]
  rintro ⟨-, tail⟩
  contradiction

theorem unless_empty_read {α β : Type} (read : List Char → Except PyError α) (text : β → List Char) (as : β → α)
    (value : Option β) (each : ∀ own ∈ value, read (text own) = .ok (as own) ∧ text own ≠ []) :
    ReceiptCodec.unlessEmpty read (value.map text) = .ok (value.map as) := by
  cases value with
  | none => rfl
  | some own =>
      obtain ⟨reads, filled⟩ := each own rfl
      rw [Option.map_some, ReceiptCodec.unlessEmpty]
      · rw [reads]
        rfl
      · exact filled

theorem provenance_read (provenance : Option JsonDict) :
    ReceiptCodec.readProvenance (provenance.map JsonDict.json) = .ok provenance := by
  have dumped : (provenance.map JsonDict.json).getD .null = orNull JsonDict.json provenance := by
    cases provenance <;> rfl
  rw [ReceiptCodec.readProvenance, dumped, dict_or_null_kept]
  rfl

theorem dumps_dict_filled (codec : ReceiptCodec) (dict : JsonDict) :
    dumps .default codec.floatRepr dict.json ≠ [] := by
  rw [JsonDict.json, dumps]
  exact List.cons_ne_nil _ _

theorem row_kept (codec : ReceiptCodec) (standard : codec.Standard) (now : Datetime) (receipt : WholeReceipt)
    (whole : receipt.Stamped Datetime.WholeMinutes) : codec.fromRow now (codec.toRow receipt) = .ok receipt := by
  obtain ⟨-, -, nodes⟩ := whole
  apply (bind_ok _ _ _).mpr
  refine ⟨receipt.arcaneProvenance.map JsonDict.json, ?_, ?_⟩
  · refine unless_empty_read _ _ _ _ fun own _ => ⟨?_, dumps_dict_filled codec own⟩
    exact loads_ok codec standard own.json own.distinct
  apply (bind_ok _ _ _).mpr
  refine ⟨receipt.status, ?_, ?_⟩
  · rw [ReceiptCodec.toRow, program_status_kept]
    rfl
  apply (bind_ok _ _ _).mpr
  refine ⟨codec.nodesDump receipt.nodes, loads_ok codec standard _ (nodes_distinct codec _), ?_⟩
  apply (bind_ok _ _ _).mpr
  refine ⟨receipt.startedAt, iso_datetime_isoformat _, ?_⟩
  apply (bind_ok _ _ _).mpr
  refine ⟨receipt.completedAt, ?_, ?_⟩
  · have read := unless_empty_read ReceiptCodec.isoDatetime Datetime.isoformat id receipt.completedAt
      fun own _ => ⟨iso_datetime_isoformat own, isoformat_not_empty own⟩
    rwa [Option.map_id_fun, id] at read
  apply (bind_ok _ _ _).mpr
  refine ⟨receipt.nodes, nodes_kept codec standard now receipt.nodes nodes, ?_⟩
  apply (bind_ok _ _ _).mpr
  exact ⟨receipt.arcaneProvenance, provenance_read _, rfl⟩

theorem read_written (codec : ReceiptCodec) (now : Datetime) (receipts : ReceiptTable) (receipt : WholeReceipt) :
    codec.readExecutionReceipt now (codec.writeExecutionReceipt receipts receipt) receipt.receiptId =
      codec.fromRow now (codec.toRow receipt) := by
  have same : (codec.toRow receipt).receiptId = receipt.receiptId := rfl
  rw [ReceiptCodec.readExecutionReceipt, ReceiptCodec.writeExecutionReceipt, Table.find_upsert, if_pos same,
    Option.elim_some]

theorem read_other_writes (codec : ReceiptCodec) (now : Datetime) (receipts : ReceiptTable) (receiptId : String)
    (later : List WholeReceipt) (others : ∀ other ∈ later, other.receiptId ≠ receiptId) :
    codec.readExecutionReceipt now (later.foldl codec.writeExecutionReceipt receipts) receiptId =
      codec.readExecutionReceipt now receipts receiptId := by
  induction later generalizing receipts with
  | nil => rfl
  | cons other rest ih =>
      obtain ⟨differs, restDiffers⟩ := List.forall_mem_cons.mp others
      have differs : (codec.toRow other).receiptId ≠ receiptId := differs
      rw [List.foldl_cons, ih _ restDiffers, ReceiptCodec.readExecutionReceipt, ReceiptCodec.writeExecutionReceipt,
        Table.find_upsert, if_neg differs]
      rfl

end Vermyth
