import Vermyth.Casting.ProgramDocuments
import Vermyth.Casting.Programs
import Vermyth.Foundation.Latest
import Vermyth.Grimoire.ReceiptRows
import Vermyth.Schema.DatetimeOrder

set_option autoImplicit false

namespace Vermyth

open Foundation

structure ProgramRow where
  programId : String
  name : String
  status : String
  nodesJson : List Char
  entryNodeIdsJson : List Char
  metadataJson : List Char
  createdAt : List Char
  updatedAt : List Char

-- A row of program_executions.
structure ExecutionRow where
  executionId : String
  programId : String
  status : String
  nodeResultsJson : List Char
  startedAt : List Char
  completedAt : Option (List Char)
  branchId : String

-- schema.ProgramExecution, with all its fields.
structure WholeExecution extends ProgramExecution where
  startedAt : Datetime
  completedAt : Option Datetime

theorem fitting_filled {most : Nat} (text : FittingText most) : text.1 ≠ "" := text.2.1

def WholeCondition.condition (condition : WholeCondition) : Condition where
  predicate := condition.predicate.1
  expr := condition.expr.map fun expr =>
    { op := expr.op, key := expr.key.1, value := expr.value.1, keyNonempty := fitting_filled expr.key }

def WholeNode.node (node : WholeNode) : CastNode where
  nodeId := node.nodeId.1
  nodeType := node.nodeType
  aspects := node.aspects
  vector := node.vector
  intent := node.intent.toIntent
  successors := node.successors
  gateCondition := node.gateCondition
  mergeStrategy := node.mergeStrategy
  preconditions := (node.preconditions.getD []).map WholeCondition.condition
  postconditions := (node.postconditions.getD []).map WholeCondition.condition
  effects := (node.effects.getD []).map Subtype.val
  retryPolicy := node.retryPolicy.map WholeRetry.toRetryPolicy
  rollback := node.rollback
  timeoutMs := node.timeoutMs
  timeoutRange := node.timeoutRange
  payloadValid := node.payloadValid

theorem node_ids (nodes : List WholeNode) :
    (nodes.map WholeNode.node).map CastNode.nodeId = nodes.map fun node => node.nodeId.1 := List.map_map

theorem nodes_nonempty (program : WholeProgram) : program.nodes.map WholeNode.node ≠ [] :=
  fun none => program.nodesNonempty (List.map_eq_nil_iff.mp none)

theorem nodes_distinct_ids (program : WholeProgram) :
    ((program.nodes.map WholeNode.node).map CastNode.nodeId).Nodup := (node_ids _).symm ▸ program.distinctIds

theorem nodes_known_entries (program : WholeProgram) :
    ∀ entry ∈ program.entryNodeIds, entry ∈ (program.nodes.map WholeNode.node).map CastNode.nodeId :=
  (node_ids _).symm ▸ program.entriesKnown

def WholeProgram.semantic (program : WholeProgram) : SemanticProgram where
  programId := program.programId
  status := program.status
  nodes := program.nodes.map WholeNode.node
  entryNodeIds := program.entryNodeIds
  metadata := program.metadata.fields
  nodesNonempty := nodes_nonempty program
  entriesNonempty := program.entriesNonempty
  distinctIds := nodes_distinct_ids program
  entriesKnown := nodes_known_entries program

-- engine.compile_program, which keeps all but the status and the time.
def WholeProgram.compile (program : WholeProgram) (now : Datetime) : Except PyError WholeProgram :=
  (compileProgram program.semantic).map fun _ => { program with status := .compiled, updatedAt := now }

-- engine.execute_program
def WholeProgram.execute (program : WholeProgram) (engine : Engine) (runtime : Runtime)
    (startedAt completedAt : Datetime) : Except PyError WholeExecution :=
  (executeProgram engine runtime program.semantic).map fun out =>
    { out.1 with startedAt, completedAt := some completedAt }

def resultsDump (results : NodeResults) : Json := .obj (results.entries.map fun entry => (entry.1, .str entry.2))

def nodeResults? : Json → Option NodeResults
  | .obj fields => do
      let entries ← fields.mapM fun field => field.2.text?.map fun castId => (⟨field.1, castId⟩ : (_ : String) × String)
      if nodup : entries.keys.Nodup then some ⟨entries, nodup⟩ else none
  | _ => none

def programFields (program : WholeProgram) : List (String × Json) :=
  [("program_id", .str program.programId), ("name", .str program.name.1), ("status", .str program.status.value),
    ("nodes", dumpList WholeNode.modelDump program.nodes), ("entry_node_ids", dumpList .str program.entryNodeIds),
    ("metadata", program.metadata.json), ("created_at", .str (String.ofList program.createdAt.isoformat)),
    ("updated_at", .str (String.ofList program.updatedAt.isoformat))]

def programToDict (program : WholeProgram) : Json := .obj (programFields program)

def executionToDict (execution : WholeExecution) : Json :=
  .obj [("execution_id", .str execution.executionId), ("program_id", .str execution.programId),
    ("status", .str execution.status.value), ("node_results", resultsDump execution.nodeResults),
    ("started_at", .str (String.ofList execution.startedAt.isoformat)),
    ("completed_at", orNull (fun time => .str (String.ofList (Datetime.isoformat time))) execution.completedAt),
    ("branch_id", .str execution.branchId)]

def validationDict (program : WholeProgram) : Json :=
  let report := validateProgram program.semantic
  .obj [("ok", .bool report.ok), ("errors", dumpList .str report.errors), ("warnings", dumpList .str report.warnings)]

-- What tool_compile_program answers.
def compiledDict (program : WholeProgram) : Json :=
  .obj (programFields program ++ [("validation", validationDict program)])

namespace CastCodec

variable (codec : CastCodec)

def programRow (program : WholeProgram) : ProgramRow where
  programId := program.programId
  name := program.name.1
  status := program.status.value
  nodesJson := codec.dumpsJson (dumpList WholeNode.modelDump program.nodes)
  entryNodeIdsJson := codec.dumpsJson (dumpList .str program.entryNodeIds)
  metadataJson := codec.dumpsJson program.metadata.json
  createdAt := program.createdAt.isoformat
  updatedAt := program.updatedAt.isoformat

def executionRow (execution : WholeExecution) : ExecutionRow where
  executionId := execution.executionId
  programId := execution.programId
  status := execution.status.value
  nodeResultsJson := codec.dumpsJson (resultsDump execution.nodeResults)
  startedAt := execution.startedAt.isoformat
  completedAt := execution.completedAt.map Datetime.isoformat
  branchId := execution.branchId

-- ProgramStatus(text)
def readStatus (text : String) : Except PyError ProgramStatus :=
  (enum? ProgramStatus.all ProgramStatus.value (.str text)).elim
    (.error (.valueError ("'" ++ text ++ "' is not a valid ProgramStatus"))) .ok

def ofProgramRow (row : ProgramRow) : Except PyError WholeProgram := do
  let nodes ← codec.loadsJson row.nodesJson
  let entries ← codec.loadsJson row.entryNodeIdsJson
  let metadata ← codec.loadsJson row.metadataJson
  let status ← readStatus row.status
  let createdAt ← readTimestamp row.createdAt
  let updatedAt ← readTimestamp row.updatedAt
  let name ← validField (fitting? 200) (.str row.name) "SemanticProgram" "name"
  let nodes ← nodesValidate codec.coerce nodes
  let entryNodeIds ← validField (items? Json.text?) entries "SemanticProgram" "entry_node_ids"
  let metadata ← validField jsonDict? metadata "SemanticProgram" "metadata"
  makeProgram row.programId name status nodes entryNodeIds metadata createdAt updatedAt

def ofExecutionRow (row : ExecutionRow) : Except PyError WholeExecution := do
  let status ← readStatus row.status
  let results ← codec.loadsJson row.nodeResultsJson
  let startedAt ← readTimestamp row.startedAt
  let completedAt ← ReceiptCodec.unlessEmpty readTimestamp row.completedAt
  let nodeResults ← validField nodeResults? results "ProgramExecution" "node_results"
  return { executionId := row.executionId, programId := row.programId, status, nodeResults, branchId := row.branchId,
           startedAt, completedAt }

end CastCodec

structure ProgramDesk where
  programs : Table ProgramRow.programId := Table.empty
  executions : Table ExecutionRow.executionId := Table.empty

namespace ProgramDesk

variable (codec : CastCodec) (desk : ProgramDesk)

def writeProgram (program : WholeProgram) : ProgramDesk :=
  { desk with programs := desk.programs.upsert (codec.programRow program) }

def readProgram (programId : String) : Except PyError WholeProgram :=
  (desk.programs.find? programId).elim (.error (.keyError programId)) codec.ofProgramRow

def programRowStamp (row : ProgramRow) : String := String.ofList row.createdAt

def queryPrograms (limit : Int) : Except PyError (List WholeProgram) := do
  let limit ← sqlInteger limit
  let rows := desk.programs.rows
  (latest programRowStamp (fun _ => true) (rowLimit limit rows.length) rows).mapM codec.ofProgramRow

-- An execution references its program, and a sqlite3.Error is raised again as a
-- RuntimeError.
def writeExecution (execution : WholeExecution) : Except PyError ProgramDesk :=
  if desk.programs.Has execution.programId then
    .ok { desk with executions := desk.executions.upsert (codec.executionRow execution) }
  else .error (.runtimeError "FOREIGN KEY constraint failed")

def readExecution (executionId : String) : Except PyError WholeExecution :=
  (desk.executions.find? executionId).elim (.error (.keyError executionId)) codec.ofExecutionRow

def executionRowStamp (row : ExecutionRow) : String := String.ofList row.startedAt

def queryExecutions (programId : String) (limit : Int) : Except PyError (List WholeExecution) := do
  let limit ← sqlInteger limit
  let rows := desk.executions.rows
  (latest executionRowStamp (fun row => row.programId = programId) (rowLimit limit rows.length) rows).mapM
    codec.ofExecutionRow

end ProgramDesk

-- The calls of the program tools, each with what it draws: the id and the time
-- for a document without them, the time it is compiled at, and the engine and
-- the clock of an execution.
inductive DeskCall where
  | compile (payload : Json) (drawn : String) (created now : Datetime)
  | execute (engine : Engine) (runtime : Runtime) (startedAt completedAt : Datetime) (programId : String)
  | status (programId : String)
  | list (limit : Int)
  | executionStatus (executionId : String)

def ProgramDesk.answer (codec : CastCodec) (desk : ProgramDesk) : DeskCall → Except PyError Json × ProgramDesk
  | .compile payload drawn created now =>
      match programValidate codec.coerce drawn created payload >>= fun program => program.compile now with
      | .error raised => (.error raised, desk)
      | .ok compiled => (.ok (compiledDict compiled), desk.writeProgram codec compiled)
  | .execute engine runtime startedAt completedAt programId =>
      match desk.readProgram codec programId >>= fun program =>
          program.execute engine runtime startedAt completedAt with
      | .error raised => (.error raised, desk)
      | .ok execution =>
          match desk.writeExecution codec execution with
          | .error raised => (.error raised, desk)
          | .ok written => (.ok (executionToDict execution), written)
  | .status programId => ((desk.readProgram codec programId).map programToDict, desk)
  | .list limit => ((desk.queryPrograms codec limit).map (dumpList programToDict), desk)
  | .executionStatus executionId => ((desk.readExecution codec executionId).map executionToDict, desk)

structure ProgramArchive where
  programs : Table WholeProgram.programId := Table.empty
  executions : Table (fun execution : WholeExecution => execution.executionId) := Table.empty

def programStamp (program : WholeProgram) : String := String.ofList program.createdAt.isoformat

def executionStamp (execution : WholeExecution) : String := String.ofList execution.startedAt.isoformat

namespace ProgramArchive

variable (archive : ProgramArchive)

def program (programId : String) : Except PyError WholeProgram :=
  (archive.programs.find? programId).elim (.error (.keyError programId)) .ok

def execution (executionId : String) : Except PyError WholeExecution :=
  (archive.executions.find? executionId).elim (.error (.keyError executionId)) .ok

def listed (limit : Int) : List WholeProgram :=
  latest programStamp (fun _ => true) (rowLimit limit archive.programs.rows.length) archive.programs.rows

def executionsOf (programId : String) (limit : Int) : List WholeExecution :=
  latest executionStamp (fun execution => execution.programId = programId)
    (rowLimit limit archive.executions.rows.length) archive.executions.rows

def answer (coerce : Coercions) : DeskCall → Except PyError Json × ProgramArchive
  | .compile payload drawn created now =>
      match programValidate coerce drawn created payload >>= fun program => program.compile now with
      | .error raised => (.error raised, archive)
      | .ok compiled => (.ok (compiledDict compiled), { archive with programs := archive.programs.upsert compiled })
  | .execute engine runtime startedAt completedAt programId =>
      match archive.program programId >>= fun program =>
          program.execute engine runtime startedAt completedAt with
      | .error raised => (.error raised, archive)
      | .ok execution =>
          (.ok (executionToDict execution), { archive with executions := archive.executions.upsert execution })
  | .status programId => ((archive.program programId).map programToDict, archive)
  | .list limit => ((sqlInteger limit).map fun own => dumpList programToDict (archive.listed own), archive)
  | .executionStatus executionId => ((archive.execution executionId).map executionToDict, archive)

end ProgramArchive

theorem status_read (status : ProgramStatus) : CastCodec.readStatus status.value = .ok status := by
  rw [CastCodec.readStatus, program_status_kept]
  rfl

theorem texts_read (texts : List String) : items? Json.text? (dumpList .str texts) = some texts :=
  list_kept _ _ texts fun _ _ => rfl

theorem time_read (time : Datetime) : CastCodec.readTimestamp time.isoformat = .ok time := by
  rw [CastCodec.readTimestamp, fromisoformat_isoformat]
  rfl

theorem completion_read (time : Option Datetime) :
    ReceiptCodec.unlessEmpty CastCodec.readTimestamp (time.map Datetime.isoformat) = .ok time := by
  have read := unless_empty_read CastCodec.readTimestamp Datetime.isoformat id time
    fun own _ => ⟨time_read own, isoformat_not_empty own⟩
  rwa [Option.map_id_fun] at read

theorem node_results_read (results : NodeResults) : nodeResults? (resultsDump results) = some results := by
  have entries (items : List ((_ : String) × String)) :
      (items.map fun entry => (entry.1, Json.str entry.2)).mapM
        (fun field => field.2.text?.map fun castId => (⟨field.1, castId⟩ : (_ : String) × String)) = some items := by
    induction items with
    | nil => rfl
    | cons item rest ih =>
        rw [List.map_cons, List.mapM_cons, ih]
        rfl
  rw [resultsDump, nodeResults?]
  refine some_then (entries results.entries) ?_
  exact dif_pos results.nodupKeys

theorem node_results_distinct (results : NodeResults) : (resultsDump results).distinct = true := by
  have keys : (results.entries.map fun entry => (entry.1, Json.str entry.2)).map Prod.fst = results.entries.keys :=
    List.map_map
  have values (items : List ((_ : String) × String)) :
      distinctFields (items.map fun entry => (entry.1, Json.str entry.2)) = true := by
    induction items with
    | nil => rfl
    | cons item rest ih => exact ih
  rw [resultsDump, Json.distinct, keys, values, Bool.and_true]
  exact decide_eq_true results.nodupKeys

section Rows

variable {codec : CastCodec} (standard : codec.Standard)

include standard

theorem program_row_read (program : WholeProgram) : codec.ofProgramRow (codec.programRow program) = .ok program := by
  have nodes := list_distinct WholeNode.modelDump program.nodes whole_node_distinct
  have entries := list_distinct Json.str program.entryNodeIds fun _ => rfl
  rw [CastCodec.ofProgramRow]
  refine ok_then (codec.loads_dumped standard _ nodes) ?_
  refine ok_then (codec.loads_dumped standard _ entries) ?_
  refine ok_then (codec.loads_dumped standard _ program.metadata.distinct) ?_
  refine ok_then (status_read program.status) ?_
  refine ok_then (time_read program.createdAt) ?_
  refine ok_then (time_read program.updatedAt) ?_
  refine ok_then (valid_field_ok _ _ _ _ _ (fitting_kept 200 program.name)) ?_
  refine ok_then (whole_nodes_kept standard.keeps program.nodes) ?_
  refine ok_then (valid_field_ok _ _ _ _ _ (texts_read program.entryNodeIds)) ?_
  refine ok_then (valid_field_ok _ _ _ _ _ (dict_kept program.metadata)) ?_
  exact make_whole program

theorem execution_row_read (execution : WholeExecution) :
    codec.ofExecutionRow (codec.executionRow execution) = .ok execution := by
  rw [CastCodec.ofExecutionRow]
  refine ok_then (status_read execution.status) ?_
  refine ok_then (codec.loads_dumped standard _ (node_results_distinct execution.nodeResults)) ?_
  refine ok_then (time_read execution.startedAt) ?_
  refine ok_then (completion_read execution.completedAt) ?_
  exact ok_then (valid_field_ok _ _ _ _ _ (node_results_read execution.nodeResults)) rfl

end Rows

structure ProgramDesk.Mirrors (codec : CastCodec) (desk : ProgramDesk) (archive : ProgramArchive) : Prop where
  programs : desk.programs.rows = archive.programs.rows.map codec.programRow
  executions : desk.executions.rows = archive.executions.rows.map codec.executionRow

theorem program_row_id (codec : CastCodec) (program : WholeProgram) :
    (codec.programRow program).programId = program.programId := rfl

theorem execution_row_id (codec : CastCodec) (execution : WholeExecution) :
    (codec.executionRow execution).executionId = execution.executionId := rfl

section Mirrors

variable {codec : CastCodec} (standard : codec.Standard) {desk : ProgramDesk} {archive : ProgramArchive}
  (mirrors : desk.Mirrors codec archive)

include mirrors

theorem write_program_mirrors (program : WholeProgram) :
    (desk.writeProgram codec program).Mirrors codec { archive with programs := archive.programs.upsert program } where
  programs := Table.upsert_image (program_row_id codec) desk.programs archive.programs mirrors.programs program
  executions := mirrors.executions

theorem write_execution_mirrors (execution : WholeExecution) (known : archive.programs.Has execution.programId) :
    ∃ written, desk.writeExecution codec execution = .ok written ∧
      written.Mirrors codec { archive with executions := archive.executions.upsert execution } := by
  have has : desk.programs.Has execution.programId :=
    (Table.has_image (program_row_id codec) desk.programs archive.programs mirrors.programs _).mpr known
  rw [ProgramDesk.writeExecution, if_pos has]
  refine ⟨_, rfl, mirrors.programs, ?_⟩
  exact Table.upsert_image (execution_row_id codec) desk.executions archive.executions mirrors.executions execution

include standard

theorem read_program_mirrors (programId : String) : desk.readProgram codec programId = archive.program programId := by
  rw [ProgramDesk.readProgram, ProgramArchive.program,
    Table.find_image (program_row_id codec) desk.programs archive.programs mirrors.programs]
  cases archive.programs.find? programId with
  | none => rfl
  | some program => exact program_row_read standard program

theorem read_execution_mirrors (executionId : String) :
    desk.readExecution codec executionId = archive.execution executionId := by
  rw [ProgramDesk.readExecution, ProgramArchive.execution,
    Table.find_image (execution_row_id codec) desk.executions archive.executions mirrors.executions]
  cases archive.executions.find? executionId with
  | none => rfl
  | some execution => exact execution_row_read standard execution

theorem query_programs_mirrors (limit : Int) :
    desk.queryPrograms codec limit = (sqlInteger limit).map archive.listed := by
  rw [ProgramDesk.queryPrograms]
  cases sqlInteger limit with
  | error raised => rfl
  | ok own =>
      change (latest _ _ (rowLimit own desk.programs.rows.length) desk.programs.rows).mapM codec.ofProgramRow = _
      rw [mirrors.programs, List.length_map, latest_map, List.mapM_map]
      refine (map_m_ok _ id _ fun program _ => ?_).trans (congrArg Except.ok (List.map_id _))
      exact program_row_read standard program

theorem query_executions_mirrors (programId : String) (limit : Int) :
    desk.queryExecutions codec programId limit = (sqlInteger limit).map (archive.executionsOf programId) := by
  rw [ProgramDesk.queryExecutions]
  cases sqlInteger limit with
  | error raised => rfl
  | ok own =>
      change (latest _ _ (rowLimit own desk.executions.rows.length) desk.executions.rows).mapM
        codec.ofExecutionRow = _
      rw [mirrors.executions, List.length_map, latest_map, List.mapM_map]
      refine (map_m_ok _ id _ fun execution _ => ?_).trans (congrArg Except.ok (List.map_id _))
      exact execution_row_read standard execution

end Mirrors

theorem executed_program (engine : Engine) (runtime : Runtime) (program : SemanticProgram)
    (execution : ProgramExecution) (receipt : ExecutionReceipt)
    (returned : executeProgram engine runtime program = .ok (execution, receipt)) :
    execution.programId = program.programId := by
  have compiles (compiled : SemanticProgram) (accepted : compiledProgram program = .ok compiled) :
      compiled.programId = program.programId := by
    rw [compiledProgram] at accepted
    by_cases already : program.status = .compiled
    · rw [if_pos already] at accepted
      exact congrArg SemanticProgram.programId (Except.ok.inj accepted).symm
    · rw [if_neg already] at accepted
      rw [(compile_program_ok program compiled accepted).2]
  rw [executeProgram] at returned
  cases accepted : compiledProgram program with
  | error raised =>
      rw [accepted] at returned
      contradiction
  | ok compiled =>
      rw [accepted] at returned
      dsimp only at returned
      split at returned
      · contradiction
      · split at returned
        · contradiction
        · split at returned
          · contradiction
          · split at returned
            · contradiction
            · split at returned
              · contradiction
              · obtain ⟨rfl, -⟩ := Prod.mk.inj (Except.ok.inj returned)
                exact compiles compiled accepted

theorem archived_program (archive : ProgramArchive) (programId : String) (program : WholeProgram)
    (found : archive.program programId = .ok program) : archive.programs.find? programId = some program := by
  rw [ProgramArchive.program] at found
  cases held : archive.programs.find? programId with
  | none =>
      rw [held] at found
      contradiction
  | some own =>
      rw [held] at found
      exact congrArg some (Except.ok.inj found)

theorem executed_known (archive : ProgramArchive) (programId : String) (engine : Engine) (runtime : Runtime)
    (startedAt completedAt : Datetime) (execution : WholeExecution)
    (made : archive.program programId >>= (fun program => program.execute engine runtime startedAt completedAt) =
      .ok execution) :
    ∃ program receipt, archive.programs.find? programId = some program ∧
      executeProgram engine runtime program.semantic = .ok (execution.toProgramExecution, receipt) ∧
      archive.programs.Has execution.programId := by
  obtain ⟨program, found, executed⟩ := (bind_ok _ _ _).mp made
  have held := archived_program archive programId program found
  rw [WholeProgram.execute] at executed
  cases returned : executeProgram engine runtime program.semantic with
  | error raised =>
      rw [returned] at executed
      contradiction
  | ok out =>
      rw [returned] at executed
      obtain rfl := Except.ok.inj executed
      refine ⟨program, out.2, held, returned, ?_⟩
      have own := executed_program engine runtime _ out.1 out.2 returned
      change archive.programs.Has out.1.programId
      rw [own]
      exact Table.has_row archive.programs program (Table.find_mem archive.programs programId program held)

section Step

variable {codec : CastCodec} (standard : codec.Standard) {desk : ProgramDesk} {archive : ProgramArchive}
  (mirrors : desk.Mirrors codec archive)

include standard mirrors

theorem desk_step (call : DeskCall) :
    (desk.answer codec call).1 = (archive.answer codec.coerce call).1 ∧
      (desk.answer codec call).2.Mirrors codec (archive.answer codec.coerce call).2 := by
  cases call with
  | compile payload drawn created now =>
      rw [ProgramDesk.answer, ProgramArchive.answer]
      cases programValidate codec.coerce drawn created payload >>= fun program => program.compile now with
      | error raised => exact ⟨rfl, mirrors⟩
      | ok compiled => exact ⟨rfl, write_program_mirrors mirrors compiled⟩
  | execute engine runtime startedAt completedAt programId =>
      rw [ProgramDesk.answer, ProgramArchive.answer, read_program_mirrors standard mirrors]
      cases made : archive.program programId >>= fun program =>
          program.execute engine runtime startedAt completedAt with
      | error raised => exact ⟨rfl, mirrors⟩
      | ok execution =>
          obtain ⟨_, _, _, _, known⟩ := executed_known archive programId engine runtime _ _ execution made
          obtain ⟨written, wrote, after⟩ := write_execution_mirrors mirrors execution known
          dsimp only
          rw [wrote]
          exact ⟨rfl, after⟩
  | status programId =>
      rw [ProgramDesk.answer, read_program_mirrors standard mirrors]
      exact ⟨rfl, mirrors⟩
  | list limit =>
      rw [ProgramDesk.answer, query_programs_mirrors standard mirrors]
      refine ⟨?_, mirrors⟩
      rw [ProgramArchive.answer]
      cases sqlInteger limit <;> rfl
  | executionStatus executionId =>
      rw [ProgramDesk.answer, read_execution_mirrors standard mirrors]
      exact ⟨rfl, mirrors⟩

end Step

def ProgramDesk.take (codec : CastCodec) (desk : ProgramDesk) (call : DeskCall) : ProgramDesk :=
  (desk.answer codec call).2

def ProgramArchive.take (coerce : Coercions) (archive : ProgramArchive) (call : DeskCall) : ProgramArchive :=
  (archive.answer coerce call).2

theorem run_mirrors (codec : CastCodec) (standard : codec.Standard) (desk : ProgramDesk) (archive : ProgramArchive)
    (mirrors : desk.Mirrors codec archive) (calls : List DeskCall) :
    (run (ProgramDesk.take codec) desk calls).Mirrors codec (run (ProgramArchive.take codec.coerce) archive calls) := by
  induction calls generalizing desk archive with
  | nil => exact mirrors
  | cons call rest ih => exact ih _ _ (desk_step standard mirrors call).2

def deskStore (coerce : Coercions) (store : ProgramStore) : DeskCall → ProgramStore
  | .compile payload drawn created _ =>
      (toolCompileProgram ((programValidate coerce drawn created payload).map WholeProgram.semantic) store).2
  | .execute engine runtime _ _ programId => (toolExecuteProgram engine runtime programId store).2
  | .status _ => store
  | .list _ => store
  | .executionStatus _ => store

structure ProgramArchive.Forgets (archive : ProgramArchive) (store : ProgramStore) : Prop where
  programs : ∀ programId, store.programs programId = (archive.programs.find? programId).map WholeProgram.semantic
  executions : ∀ executionId,
    store.executions executionId = (archive.executions.find? executionId).map WholeExecution.toProgramExecution

theorem forgets_step (coerce : Coercions) (archive : ProgramArchive) (store : ProgramStore)
    (forgets : archive.Forgets store) (call : DeskCall) :
    (archive.take coerce call).Forgets (deskStore coerce store call) := by
  cases call with
  | status programId => exact forgets
  | list limit => exact forgets
  | executionStatus executionId => exact forgets
  | compile payload drawn created now =>
      rw [ProgramArchive.take, ProgramArchive.answer, deskStore]
      cases programValidate coerce drawn created payload with
      | error raised => exact forgets
      | ok program =>
          rw [Except.map, toolCompileProgram]
          cases accepted : compileProgram program.semantic with
          | error raised =>
              have made : (.ok program >>= fun own : WholeProgram => own.compile now) = .error raised :=
                congrArg (Except.map _) accepted
              rw [made]
              exact forgets
          | ok compiled =>
              have made : (.ok program >>= fun own : WholeProgram => own.compile now) =
                  .ok { program with status := .compiled, updatedAt := now } := congrArg (Except.map _) accepted
              rw [made, (compile_program_ok program.semantic compiled accepted).2]
              refine ⟨fun programId => ?_, forgets.executions⟩
              dsimp only
              rw [Table.find_upsert]
              by_cases isNew : program.programId = programId
              · rw [if_pos isNew, ← isNew]
                exact Function.update_self ..
              · rw [if_neg isNew, ← forgets.programs]
                exact Function.update_of_ne (Ne.symm isNew) ..
  | execute engine runtime startedAt completedAt programId =>
      rw [ProgramArchive.take, ProgramArchive.answer, deskStore, toolExecuteProgram, forgets.programs,
        ProgramArchive.program]
      cases archive.programs.find? programId with
      | none => exact forgets
      | some program =>
          rw [Option.map_some, Option.elim_some]
          dsimp only
          cases returned : executeProgram engine runtime program.semantic with
          | error raised =>
              have made : (.ok program >>= fun own : WholeProgram => own.execute engine runtime startedAt completedAt) =
                  .error raised := congrArg (Except.map _) returned
              rw [made]
              exact forgets
          | ok out =>
              have made : (.ok program >>= fun own : WholeProgram => own.execute engine runtime startedAt completedAt) =
                  .ok { out.1 with startedAt, completedAt := some completedAt } := congrArg (Except.map _) returned
              rw [made]
              refine ⟨forgets.programs, fun executionId => ?_⟩
              dsimp only
              rw [Table.find_upsert]
              by_cases isNew : out.1.executionId = executionId
              · rw [if_pos isNew, ← isNew]
                exact Function.update_self ..
              · rw [if_neg isNew, ← forgets.executions]
                exact Function.update_of_ne (Ne.symm isNew) ..

def emptyStore : ProgramStore where
  programs := fun _ => none
  executions := fun _ => none
  receipts := fun _ => none

theorem run_forgets (coerce : Coercions) (archive : ProgramArchive) (store : ProgramStore)
    (forgets : archive.Forgets store) (calls : List DeskCall) :
    (run (ProgramArchive.take coerce) archive calls).Forgets (run (deskStore coerce) store calls) := by
  induction calls generalizing archive store with
  | nil => exact forgets
  | cons call rest ih => exact ih _ _ (forgets_step coerce archive store forgets call)

structure ServesPrograms (codec : CastCodec) (archive : ProgramArchive) (desk : ProgramDesk) : Prop where
  answers : ∀ call, (desk.answer codec call).1 = (archive.answer codec.coerce call).1
  program : ∀ programId, desk.readProgram codec programId = archive.program programId
  execution : ∀ executionId, desk.readExecution codec executionId = archive.execution executionId
  listed : ∀ limit : Int, -9223372036854775808 ≤ limit ∧ limit ≤ 9223372036854775807 →
    ∃ chosen, desk.queryPrograms codec limit = .ok chosen ∧
      Latest programStamp (fun _ => true) (rowLimit limit archive.programs.rows.length) archive.programs.rows chosen
  executionsOf : ∀ programId, ∀ limit : Int, -9223372036854775808 ≤ limit ∧ limit ≤ 9223372036854775807 →
    ∃ chosen, desk.queryExecutions codec programId limit = .ok chosen ∧
      Latest executionStamp (fun execution => execution.programId = programId)
        (rowLimit limit archive.executions.rows.length) archive.executions.rows chosen
  later : ∀ limit chosen, desk.queryPrograms codec limit = .ok chosen → ∀ program ∈ archive.programs.rows,
    program ∉ chosen → ∀ kept ∈ chosen, program.createdAt.offset = some 0 → kept.createdAt.offset = some 0 →
      program.createdAt.instant ≤ kept.createdAt.instant

theorem mirrors_serve (codec : CastCodec) (standard : codec.Standard) (desk : ProgramDesk)
    (archive : ProgramArchive) (mirrors : desk.Mirrors codec archive) : ServesPrograms codec archive desk := by
  refine ⟨?_, ?_, ?_, ?_, ?_, ?_⟩
  · exact fun call => (desk_step standard mirrors call).1
  · exact read_program_mirrors standard mirrors
  · exact read_execution_mirrors standard mirrors
  · intro limit fits
    rw [query_programs_mirrors standard mirrors, sqlInteger, if_pos fits]
    exact ⟨_, rfl, latest_chosen _ _ _ _⟩
  · intro programId limit fits
    rw [query_executions_mirrors standard mirrors, sqlInteger, if_pos fits]
    exact ⟨_, rfl, latest_chosen _ _ _ _⟩
  · intro limit chosen listed program member left kept isKept zone zoneToo
    rw [query_programs_mirrors standard mirrors] at listed
    cases within : sqlInteger limit with
    | error raised =>
        rw [within] at listed
        contradiction
    | ok own =>
        rw [within] at listed
        obtain rfl := Except.ok.inj listed
        have answer := latest_chosen programStamp (fun _ => true) (rowLimit own archive.programs.rows.length)
          archive.programs.rows
        exact (isoformat_le_iff _ _ zone zoneToo).mp (answer.leftOut program member rfl left kept isKept)

theorem program_desk_exact (codec : CastCodec) (standard : codec.Standard) (calls : List DeskCall) :
    ServesPrograms codec (run (ProgramArchive.take codec.coerce) {} calls) (run (ProgramDesk.take codec) {} calls) ∧
      (run (ProgramArchive.take codec.coerce) {} calls).Forgets (run (deskStore codec.coerce) emptyStore calls) := by
  have mirrors := run_mirrors codec standard {} {} ⟨rfl, rfl⟩ calls
  exact ⟨mirrors_serve codec standard _ _ mirrors,
    run_forgets codec.coerce {} emptyStore ⟨fun _ => rfl, fun _ => rfl⟩ calls⟩

def voidPayload : Json :=
  .obj [("program_id", .str "P"), ("name", .str "walk"), ("entry_node_ids", .arr [.str "a"]),
    ("nodes", .arr [.obj [("node_id", .str "a"), ("node_type", .str "CAST"), ("aspects", .arr [.str "VOID"]),
      ("intent", cautious.modelDump)]])]

def voidProgramCalls : List DeskCall := [.compile voidPayload "D" sampleTime sampleTime, .list 10]

theorem void_program_kept :
    (ServesPrograms plainCodec (run (ProgramArchive.take plainCodec.coerce) {} voidProgramCalls)
        (run (ProgramDesk.take plainCodec) {} voidProgramCalls) ∧
      (run (ProgramArchive.take plainCodec.coerce) {} voidProgramCalls).Forgets
        (run (deskStore plainCodec.coerce) emptyStore voidProgramCalls)) ∧
      (run (ProgramArchive.take plainCodec.coerce) {} voidProgramCalls).programs.rows.map WholeProgram.programId =
        ["P"] :=
  ⟨program_desk_exact plainCodec plain_codec_standard voidProgramCalls, by decide +kernel⟩

end Vermyth
