import Vermyth.Grimoire.Store

set_option autoImplicit false

namespace Vermyth

open Foundation

structure Schema where
  tables : List (String × List String) := []
  indexes : List String := []
deriving DecidableEq

inductive Statement where
  | createTable (table : String) (columns : List String)
  | createIndex (index table : String) (columns : List String)
  | addColumn (table column : String)
  | insertBaseBasis
  | defaultBasis (table : String)

namespace Schema

def columns? (schema : Schema) (table : String) : Option (List String) := schema.tables.lookup table

def noTable (table : String) : PyError := .other ("no such table: " ++ table)

def noColumn (column : String) : PyError := .other ("no such column: " ++ column)

def withColumns (schema : Schema) (table : String) (columns : List String) : Schema :=
  { schema with tables := schema.tables.map fun own => if own.1 = table then (table, columns) else own }

def alter (schema : Schema) : Statement → Except PyError Schema
  | .createTable table columns =>
      match schema.columns? table with
      | some _ => .ok schema
      | none => .ok { schema with tables := schema.tables ++ [(table, columns)] }
  | .createIndex index table columns =>
      if index ∈ schema.indexes then .ok schema
      else
        match schema.columns? table with
        | none => .error (noTable table)
        | some own =>
            match columns.find? fun column => column ∉ own with
            | some column => .error (noColumn column)
            | none => .ok { schema with indexes := schema.indexes ++ [index] }
  | .addColumn table column =>
      match schema.columns? table with
      | none => .error (noTable table)
      | some own =>
          if column ∈ own then .error (.other ("duplicate column name: " ++ column))
          else .ok (schema.withColumns table (own ++ [column]))
  | .insertBaseBasis =>
      match schema.columns? "basis_versions" with
      | none => .error (noTable "basis_versions")
      | some _ => .ok schema
  | .defaultBasis table =>
      match schema.columns? table with
      | none => .error (noTable table)
      | some own => if "basis_version" ∈ own then .ok schema else .error (noColumn "basis_version")

end Schema

-- A row of cast_results: the names that its sigil_json lists, and columns that
-- migrations add.
structure StoredCast where
  castId : String
  aspects : AspectSet
  aspectPatternKey : Option String := none
  basisVersion : Option Nat := none

structure AppliedMigration where
  version : String
  appliedAt : Datetime

structure Database where
  schema : Schema := {}
  applied : Table AppliedMigration.version := Table.empty
  casts : Table StoredCast.castId := Table.empty
  registeredAspects : Table RegisteredAspectRow.name := Table.empty
  basisVersions : Table BasisVersionRow.version := Table.empty

def StoredCast.defaultBasis (cast : StoredCast) : StoredCast :=
  { cast with basisVersion := some (cast.basisVersion.getD 0) }

namespace Database

def execute (db : Database) (statement : Statement) : Except PyError Database := do
  let schema ← db.schema.alter statement
  match statement with
  | .insertBaseBasis =>
      return { db with schema, basisVersions := (db.basisVersions.insert? baseBasis).getD db.basisVersions }
  | .defaultBasis "cast_results" =>
      return { db with schema, casts := db.casts.update StoredCast.defaultBasis fun _ => rfl }
  | _ => return { db with schema }

def executescript : List Statement → Database → Except PyError Unit × Database
  | [], db => (.ok (), db)
  | statement :: rest, db =>
      match db.execute statement with
      | .error raised => (.error raised, db)
      | .ok after => executescript rest after

-- INSERT INTO schema_migrations
def recordMigration (db : Database) (row : AppliedMigration) : Except PyError Database :=
  if db.schema.columns? "schema_migrations" = none then .error (Schema.noTable "schema_migrations")
  else
    match db.applied.insert? row with
    | none => .error (.other "UNIQUE constraint failed: schema_migrations.version")
    | some applied => .ok { db with applied }

def appliedVersions (db : Database) : List String :=
  if db.schema.columns? "schema_migrations" = none then [] else db.applied.rows.map AppliedMigration.version

end Database

structure Migration where
  version : String
  script : List Statement

def castResultsColumns : List String :=
  ["cast_id", "timestamp", "intent_json", "sigil_json", "verdict_json", "lineage_json", "glyph_seed_id",
    "semantic_vector_json", "verdict_type", "effect_class", "adjusted_resonance", "branch_id"]

def initial : List Statement :=
  [.createTable "schema_migrations" ["version", "applied_at"],
    .createTable "cast_results" castResultsColumns,
    .createTable "glyph_seeds" ["seed_id", "aspect_pattern_json", "observed_count", "mean_resonance", "coherence_rate",
      "candidate_effect_class", "crystallized", "semantic_vector_json"],
    .createIndex "idx_cast_results_verdict_type" "cast_results" ["verdict_type"],
    .createIndex "idx_cast_results_effect_class" "cast_results" ["effect_class"],
    .createIndex "idx_cast_results_adjusted_resonance" "cast_results" ["adjusted_resonance"],
    .createIndex "idx_cast_results_branch_id" "cast_results" ["branch_id"],
    .createIndex "idx_glyph_seeds_crystallized" "glyph_seeds" ["crystallized"]]

def crystallizedLoop : List Statement :=
  [.createTable "crystallized_sigils" ["name", "sigil_json", "source_seed_id", "crystallized_at", "generation",
      "aspect_pattern_json"],
    .createIndex "idx_crystallized_sigils_aspect" "crystallized_sigils" ["aspect_pattern_json"],
    .addColumn "glyph_seeds" "generation",
    .addColumn "cast_results" "provenance_json"]

def extensionApi : List Statement :=
  [.createTable "registered_aspects" ["name", "polarity", "entropy_coefficient", "symbol", "ordinal", "registered_at"],
    .createTable "registered_sigils" ["name", "aspects_json", "effect_class", "resonance_ceiling",
      "contradiction_severity", "is_override", "registered_at"]]

def divergenceDetection : List Statement :=
  [.createTable "divergence_reports" ["cast_id", "parent_cast_id", "l2_magnitude", "cosine_distance", "status",
      "computed_at"],
    .createTable "divergence_thresholds" ["id", "l2_stable_max", "l2_diverged_min", "cosine_stable_max",
      "cosine_diverged_min", "updated_at"]]

def observabilityIndexes : List Statement :=
  [.createIndex "idx_divergence_reports_status_computed_at" "divergence_reports" ["status", "computed_at"],
    .createIndex "idx_cast_results_branch_id_timestamp" "cast_results" ["branch_id", "timestamp"]]

def castAspectPatternKey : List Statement :=
  [.addColumn "cast_results" "aspect_pattern_key",
    .createIndex "idx_cast_results_aspect_pattern_key" "cast_results" ["aspect_pattern_key"]]

def channelStates : List Statement :=
  [.createTable "channel_states" ["branch_id", "cast_count", "cumulative_resonance", "mean_resonance",
      "coherence_streak", "last_verdict_type", "status", "last_cast_id", "constraint_vector_json", "updated_at"],
    .createIndex "idx_channel_states_status_updated_at" "channel_states" ["status", "updated_at"]]

def sessionTables : List Statement :=
  [.createTable "sessions" ["session_id", "opened_at", "closed_at", "status", "transport", "local_identity_json",
      "remote_identity_json", "capabilities_json", "last_sequence", "anchor_cast_id", "channel_branch_id"],
    .createTable "session_packets" ["session_id", "sequence", "packet_type", "payload_hash", "payload_json", "proof",
      "created_at"],
    .createTable "session_responses" ["session_id", "sequence", "payload_hash", "accepted", "proof", "created_at"],
    .createIndex "idx_session_packets_session_seq" "session_packets" ["session_id", "sequence"],
    .createIndex "idx_sessions_status_opened_at" "sessions" ["status", "opened_at"]]

def swarmFederation : List Statement :=
  [.createTable "swarms" ["swarm_id", "consensus_threshold", "status", "aggregated_vector_json", "last_cast_id",
      "updated_at"],
    .createTable "swarm_members" ["swarm_id", "session_id", "vector_json", "coherence_streak"],
    .createIndex "idx_swarm_members_session" "swarm_members" ["session_id"]]

def semanticPrograms : List Statement :=
  [.createTable "programs" ["program_id", "name", "status", "nodes_json", "entry_node_ids_json", "metadata_json",
      "created_at", "updated_at"],
    .createTable "program_executions" ["execution_id", "program_id", "status", "node_results_json", "started_at",
      "completed_at", "branch_id"],
    .createIndex "idx_program_executions_program_id" "program_executions" ["program_id"]]

def emergentAspectsTable : List Statement :=
  [.createTable "emergent_aspects" ["genesis_id", "proposed_name", "derived_polarity", "derived_entropy",
      "proposed_symbol", "centroid_vector_json", "support_count", "mean_resonance", "coherence_rate", "status",
      "proposed_at", "decided_at", "evidence_cast_ids_json"],
    .createIndex "idx_emergent_aspects_status" "emergent_aspects" ["status"]]

def causalGraph : List Statement :=
  [.createTable "causal_edges" ["edge_id", "source_cast_id", "target_cast_id", "edge_type", "weight", "created_at",
      "evidence"],
    .createIndex "idx_causal_edges_source" "causal_edges" ["source_cast_id"],
    .createIndex "idx_causal_edges_target" "causal_edges" ["target_cast_id"],
    .createIndex "idx_causal_edges_type_weight" "causal_edges" ["edge_type", "weight"]]

def basisVersionTables : List String :=
  ["cast_results", "glyph_seeds", "crystallized_sigils", "channel_states", "emergent_aspects"]

def basisVersionsTable : List Statement :=
  [.createTable "basis_versions" ["version", "dimensionality", "aspect_order_json", "created_at"], .insertBaseBasis] ++
    basisVersionTables.map (fun table => .addColumn table "basis_version") ++
      basisVersionTables.map Statement.defaultBasis

def policyDecisions : List Statement :=
  [.createTable "policy_decisions" ["decision_id", "action", "cast_id", "parent_cast_id", "divergence_status",
      "narrative_coherence", "thresholds_json", "rationale", "suggested_intent_json", "created_at"],
    .createIndex "idx_policy_decisions_action_created_at" "policy_decisions" ["action", "created_at"]]

def castProvenanceExtend : List Statement :=
  [.addColumn "cast_results" "narrative_coherence", .addColumn "cast_results" "causal_root_cast_id"]

def policyDecisionModel : List Statement :=
  [.addColumn "policy_decisions" "policy_model_name", .addColumn "policy_decisions" "policy_model_version"]

def programEffects : List Statement :=
  [.addColumn "programs" "node_effects_json", .addColumn "programs" "node_permissions_json",
    .addColumn "programs" "node_retry_policies_json"]

def executionReceipts : List Statement :=
  [.createTable "execution_receipts" ["receipt_id", "execution_id", "program_id", "status", "nodes_json", "started_at",
      "completed_at"],
    .createIndex "idx_execution_receipts_execution_id" "execution_receipts" ["execution_id"]]

def genesisReview : List Statement :=
  [.addColumn "emergent_aspects" "reviewed_by", .addColumn "emergent_aspects" "reviewed_at",
    .addColumn "emergent_aspects" "review_note"]

def executionReceiptAudit : List Statement :=
  [.addColumn "execution_receipts" "signature", .addColumn "execution_receipts" "signing_key_id",
    .addColumn "execution_receipts" "correlation_id", .addColumn "execution_receipts" "principal_id"]

def executionReceiptArcane : List Statement := [.addColumn "execution_receipts" "arcane_json"]

def migrations : List Migration :=
  [⟨"v001", initial⟩,
    ⟨"v002", crystallizedLoop⟩,
    ⟨"v003", extensionApi⟩,
    ⟨"v004", divergenceDetection⟩,
    ⟨"v005", observabilityIndexes⟩,
    ⟨"v006", castAspectPatternKey⟩,
    ⟨"v007", channelStates⟩,
    ⟨"v008", sessionTables⟩,
    ⟨"v009", swarmFederation⟩,
    ⟨"v010", semanticPrograms⟩,
    ⟨"v011", emergentAspectsTable⟩,
    ⟨"v012", causalGraph⟩,
    ⟨"v013", basisVersionsTable⟩,
    ⟨"v014", policyDecisions⟩,
    ⟨"v015", castProvenanceExtend⟩,
    ⟨"v016", policyDecisionModel⟩,
    ⟨"v017", programEffects⟩,
    ⟨"v018", executionReceipts⟩,
    ⟨"v019", genesisReview⟩,
    ⟨"v020", executionReceiptAudit⟩,
    ⟨"v021", executionReceiptArcane⟩]

def runMigrations (clock : String → Datetime) (applied : List String) :
    List Migration → Database → Except PyError Unit × Database
  | [], db => (.ok (), db)
  | migration :: rest, db =>
      if migration.version ∈ applied then runMigrations clock applied rest db
      else
        match Database.executescript migration.script db with
        | (.error raised, left) => (.error raised, left)
        | (.ok _, done) =>
            match done.recordMigration { version := migration.version, appliedAt := clock migration.version } with
            | .error raised => (.error raised, done)
            | .ok recorded => runMigrations clock applied rest recorded

def Migration.alter (schema : Schema) (migration : Migration) : Except PyError Schema := do
  let done ← migration.script.foldlM Schema.alter schema
  if done.columns? "schema_migrations" = none then .error (Schema.noTable "schema_migrations") else .ok done

def StoredCast.pattern (cast : StoredCast) : String × AspectSet × Option String :=
  (cast.castId, cast.aspects, cast.aspectPatternKey)

structure Database.KeepsCasts (db after : Database) : Prop where
  patterns : after.casts.rows.map StoredCast.pattern = db.casts.rows.map StoredCast.pattern
  registered : after.registeredAspects = db.registeredAspects

theorem keeps_casts_refl (db : Database) : db.KeepsCasts db := ⟨rfl, rfl⟩

theorem keeps_casts_trans (db middle after : Database) (first : db.KeepsCasts middle)
    (second : middle.KeepsCasts after) : db.KeepsCasts after :=
  ⟨second.patterns.trans first.patterns, second.registered.trans first.registered⟩

theorem execute_altered (db : Database) (statement : Statement) (schema : Schema)
    (altered : db.schema.alter statement = .ok schema) :
    ∃ after, db.execute statement = .ok after ∧ after.schema = schema ∧ after.applied = db.applied ∧
      db.KeepsCasts after := by
  rw [Database.execute, altered]
  dsimp only [bind, Except.bind, pure, Except.pure]
  split
  · exact ⟨_, rfl, rfl, rfl, rfl, rfl⟩
  · refine ⟨_, rfl, rfl, rfl, ?_, rfl⟩
    change (db.casts.rows.map StoredCast.defaultBasis).map StoredCast.pattern = _
    rw [List.map_map]
    rfl
  · exact ⟨_, rfl, rfl, rfl, rfl, rfl⟩

theorem executescript_altered (script : List Statement) (db : Database) (schema : Schema)
    (altered : script.foldlM Schema.alter db.schema = .ok schema) :
    ∃ after, Database.executescript script db = (.ok (), after) ∧ after.schema = schema ∧
      after.applied = db.applied ∧ db.KeepsCasts after := by
  induction script generalizing db with
  | nil =>
      obtain rfl := Except.ok.inj altered
      exact ⟨db, rfl, rfl, rfl, keeps_casts_refl db⟩
  | cons statement rest ih =>
      rw [List.foldlM_cons] at altered
      obtain ⟨next, first, altered⟩ := (bind_ok _ _ _).mp altered
      obtain ⟨middle, executed, rfl, applied, kept⟩ := execute_altered db statement next first
      obtain ⟨after, ran, final, sameApplied, keptRest⟩ := ih middle altered
      refine ⟨after, ?_, final, sameApplied.trans applied, keeps_casts_trans db middle after kept keptRest⟩
      rw [Database.executescript, executed]
      exact ran

def appliedRow (clock : String → Datetime) (migration : Migration) : AppliedMigration where
  version := migration.version
  appliedAt := clock migration.version

theorem record_migration_fresh (db : Database) (row : AppliedMigration)
    (recorded : db.schema.columns? "schema_migrations" ≠ none) (fresh : ¬ db.applied.Has row.version) :
    db.recordMigration row = .ok { db with applied := db.applied.append row fresh } := by
  rw [Database.recordMigration, if_neg recorded, Table.insert_fresh _ _ fresh]

theorem run_migrations_missing (clock : String → Datetime) (applied : List String) (missing : List Migration)
    (db : Database) (schema : Schema) (altered : missing.foldlM Migration.alter db.schema = .ok schema)
    (unapplied : ∀ migration ∈ missing, migration.version ∉ applied)
    (fresh : ∀ migration ∈ missing, ¬ db.applied.Has migration.version)
    (distinct : (missing.map Migration.version).Nodup) :
    ∃ after, runMigrations clock applied missing db = (.ok (), after) ∧ after.schema = schema ∧
      after.applied.rows = db.applied.rows ++ missing.map (appliedRow clock) ∧ db.KeepsCasts after := by
  induction missing generalizing db with
  | nil =>
      obtain rfl := Except.ok.inj altered
      exact ⟨db, rfl, rfl, (List.append_nil _).symm, keeps_casts_refl db⟩
  | cons migration rest ih =>
      rw [List.foldlM_cons] at altered
      obtain ⟨next, first, altered⟩ := (bind_ok _ _ _).mp altered
      obtain ⟨done, scripted, first⟩ := (bind_ok _ _ _).mp first
      split_ifs at first with recorded
      obtain rfl := Except.ok.inj first
      obtain ⟨middle, executed, rfl, sameApplied, kept⟩ :=
        executescript_altered migration.script db done scripted
      obtain ⟨own, others⟩ := List.forall_mem_cons.mp fresh
      obtain ⟨apart, distinctRest⟩ := List.nodup_cons.mp distinct
      have ownFresh : ¬ middle.applied.Has (appliedRow clock migration).version := sameApplied ▸ own
      obtain ⟨after, ran, final, rows, keptRest⟩ := ih
        { middle with applied := middle.applied.append (appliedRow clock migration) ownFresh } altered
        (fun other member => unapplied other (List.mem_cons_of_mem _ member))
        (by
          intro other member taken
          rcases (Table.has_append _ _ ownFresh _).mp taken with held | same
          · exact others other member (sameApplied ▸ held)
          · exact apart (List.mem_map.mpr ⟨other, member, same⟩))
        distinctRest
      refine ⟨after, ?_, final, ?_,
        keeps_casts_trans db { middle with applied := middle.applied.append (appliedRow clock migration) ownFresh }
          after ⟨kept.patterns, kept.registered⟩ keptRest⟩
      · rw [runMigrations, if_neg (unapplied migration List.mem_cons_self), executed]
        dsimp only
        rw [← appliedRow, record_migration_fresh middle (appliedRow clock migration) recorded ownFresh]
        exact ran
      · rw [rows, List.map_cons]
        change (middle.applied.rows ++ [appliedRow clock migration]) ++ _ = _
        rw [sameApplied, List.append_assoc, List.singleton_append]

theorem run_migrations_applied (clock : String → Datetime) (applied : List String) (front rest : List Migration)
    (db : Database) (held : ∀ migration ∈ front, migration.version ∈ applied) :
    runMigrations clock applied (front ++ rest) db = runMigrations clock applied rest db := by
  induction front with
  | nil => rfl
  | cons migration front ih =>
      obtain ⟨own, others⟩ := List.forall_mem_cons.mp held
      rw [List.cons_append, runMigrations, if_pos own, ih others]

end Vermyth
