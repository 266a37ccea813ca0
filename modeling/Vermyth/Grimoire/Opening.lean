import Vermyth.Engine.BasisVerdict
import Vermyth.Grimoire.Migrations
import Vermyth.Grimoire.Replay

set_option autoImplicit false

namespace Vermyth

open Foundation

structure OpeningProcess where
  registry : AspectRegistry
  db : Database

structure KeyUpdate where
  aspectPatternKey : String
  castId : String

def StoredCast.keyed (cast : StoredCast) (key : String) : StoredCast := { cast with aspectPatternKey := some key }

def keyUpdate (registry : AspectRegistry) (order : SetOrder) (row : StoredCast) : Except PyError KeyUpdate := do
  let aspects ← resolveNames registry row.aspects.names
  return { aspectPatternKey := canonicalAspectKey registry (.build order (aspects.map Aspect.name)),
           castId := row.castId }

-- UPDATE cast_results SET aspect_pattern_key = ? WHERE cast_id = ?
def writeKey (casts : Table StoredCast.castId) (update : KeyUpdate) : Table StoredCast.castId :=
  casts.update (fun row => if row.castId = update.castId then row.keyed update.aspectPatternKey else row) fun row => by
    split <;> rfl

def backfillCastAspectPatternKeys (registry : AspectRegistry) (order : SetOrder) (db : Database) :
    Except PyError Database :=
  match db.schema.columns? "cast_results" with
  | none => .error (.runtimeError "no such table: cast_results")
  | some columns =>
      match ["cast_id", "sigil_json", "aspect_pattern_key"].find? fun column => column ∉ columns with
      | some column => .error (.runtimeError ("no such column: " ++ column))
      | none => do
          let updates ← (db.casts.rows.filter fun row => row.aspectPatternKey = none).mapM (keyUpdate registry order)
          return { db with casts := updates.foldl writeKey db.casts }

-- ORDER BY version DESC LIMIT 1, of the base without a row.
def Database.latestBasis (db : Database) : Nat := (db.basisVersions.rows.map BasisVersionRow.version).foldr max 0

def readLatestBasisVersion (db : Database) : Except PyError Nat :=
  if db.schema.columns? "basis_versions" = none then .error (.runtimeError "no such table: basis_versions")
  else .ok db.latestBasis

-- Grimoire.__init__
def openGrimoire (order : SetOrder) (clock : String → Datetime) (process : OpeningProcess) :
    Except PyError Unit × OpeningProcess :=
  match runMigrations clock process.db.appliedVersions migrations process.db with
  | (.error raised, left) => (.error raised, { process with db := left })
  | (.ok _, migrated) =>
      match backfillCastAspectPatternKeys process.registry order migrated with
      | .error raised => (.error raised, { process with db := migrated })
      | .ok filled =>
          match readLatestBasisVersion filled with
          | .error raised => (.error raised, { process with db := filled })
          | .ok version => (.ok (), { registry := process.registry.setBasisVersion version, db := filled })

structure WrittenAt (n : Nat) (db : Database) : Prop where
  schema : (migrations.take n).foldlM Migration.alter {} = .ok db.schema
  applied : db.applied.rows.map AppliedMigration.version = (migrations.take n).map Migration.version
  empty : n = 0 → db.casts.rows = []
  unkeyed : n < 6 → ∀ cast ∈ db.casts.rows, cast.aspectPatternKey = none
  unregistered : n < 3 → db.registeredAspects.rows = []
  known : ∀ cast ∈ db.casts.rows, ∀ name ∈ cast.aspects.names,
    name ∈ aspectCanonicalOrder.map AspectID.name ∨ db.registeredAspects.Has name

-- An old database after it was opened. A key that was missing is the one that a
-- cast on the same aspects gets, in the process as it is or with more aspects
-- registered.
structure Upgraded (n : Nat) (clock : String → Datetime) (process opened : OpeningProcess) : Prop where
  applied : opened.db.applied.rows = process.db.applied.rows ++ (migrations.drop n).map (appliedRow clock)
  versions : opened.db.appliedVersions = migrations.map Migration.version
  casts : opened.db.casts.rows.map (fun cast => (cast.castId, cast.aspects)) =
    process.db.casts.rows.map fun cast => (cast.castId, cast.aspects)
  keyed : ∀ cast ∈ opened.db.casts.rows, cast.aspectPatternKey ≠ none
  kept : ∀ cast ∈ process.db.casts.rows, cast.aspectPatternKey ≠ none →
    ∃ row, opened.db.casts.find? cast.castId = some row ∧ row.aspectPatternKey = cast.aspectPatternKey
  filled : ∀ cast ∈ process.db.casts.rows, cast.aspectPatternKey = none →
    ∀ today, AspectsRegistered opened.registry today → ∀ aspects : AspectSet, aspects.members = cast.aspects.members →
      ∃ row, opened.db.casts.find? cast.castId = some row ∧
        row.aspectPatternKey = some (canonicalAspectKey today aspects)
  again : ∀ order clock registry, openGrimoire order clock { registry, db := opened.db } =
    (.ok (), { registry := registry.setBasisVersion opened.registry.basisVersion, db := opened.db })

def Upgrades (n : Nat) (order : SetOrder) (clock : String → Datetime) (process : OpeningProcess) : Prop :=
  ∃ opened, openGrimoire order clock process = (.ok (), opened) ∧ Upgraded n clock process opened

def Schema.Opens (schema : Schema) : Bool :=
  (schema.columns? "cast_results").any
      (fun columns => ["cast_id", "sigil_json", "aspect_pattern_key"].all fun column => column ∈ columns) &&
    ((schema.columns? "basis_versions").isSome && (schema.columns? "schema_migrations").isSome)

theorem opens_tables (schema : Schema) (opens : schema.Opens = true) :
    (∃ columns, schema.columns? "cast_results" = some columns ∧
      ∀ column ∈ ["cast_id", "sigil_json", "aspect_pattern_key"], column ∈ columns) ∧
        schema.columns? "basis_versions" ≠ none ∧ schema.columns? "schema_migrations" ≠ none := by
  rw [Schema.Opens, Bool.and_eq_true, Bool.and_eq_true, Option.any_eq_true, Option.isSome_iff_ne_none,
    Option.isSome_iff_ne_none] at opens
  obtain ⟨⟨columns, held, all⟩, versioned, recorded⟩ := opens
  refine ⟨⟨columns, held, fun column member => ?_⟩, versioned, recorded⟩
  exact of_decide_eq_true (List.all_eq_true.mp all column member)

theorem all_altered : ∃ schema, migrations.foldlM Migration.alter {} = .ok schema ∧ schema.Opens = true :=
  ok_where _ Schema.Opens (by decide +kernel)

theorem versions_distinct : (migrations.map Migration.version).Nodup := by decide

theorem altered_recorded (done : List Migration) (schema after : Schema)
    (altered : done.foldlM Migration.alter schema = .ok after) (started : done ≠ []) :
    after.columns? "schema_migrations" ≠ none := by
  obtain ⟨init, migration, rfl⟩ := (List.eq_nil_or_concat' done).resolve_left started
  rw [List.foldlM_append] at altered
  obtain ⟨middle, -, altered⟩ := (bind_ok _ _ _).mp altered
  obtain ⟨next, last, altered⟩ := (bind_ok _ _ _).mp altered
  obtain rfl := Except.ok.inj altered
  obtain ⟨scripted, -, last⟩ := (bind_ok _ _ _).mp last
  split_ifs at last with missing
  obtain rfl := Except.ok.inj last
  exact missing

theorem applied_versions_recorded (db : Database) (recorded : db.schema.columns? "schema_migrations" ≠ none) :
    db.appliedVersions = db.applied.rows.map AppliedMigration.version := if_neg recorded

section Written

variable {n : Nat} {db : Database}

theorem written_versions (written : WrittenAt n db) :
    db.appliedVersions = (migrations.take n).map Migration.version := by
  by_cases started : migrations.take n = []
  · have schema := written.schema
    rw [started] at schema
    rw [started, Database.appliedVersions, ← Except.ok.inj schema]
    rfl
  · rw [applied_versions_recorded db (altered_recorded _ _ _ written.schema started), written.applied]

theorem written_alters (written : WrittenAt n db) :
    ∃ schema, (migrations.drop n).foldlM Migration.alter db.schema = .ok schema ∧ schema.Opens = true := by
  obtain ⟨schema, altered, opens⟩ := all_altered
  rw [← List.take_append_drop n migrations, List.foldlM_append, written.schema] at altered
  exact ⟨schema, altered, opens⟩

theorem drop_unapplied (migration : Migration) (member : migration ∈ migrations.drop n) :
    migration.version ∉ (migrations.take n).map Migration.version := by
  have distinct := versions_distinct
  rw [← List.take_append_drop n migrations, List.map_append, List.nodup_append] at distinct
  exact fun taken => distinct.2.2 _ taken _ (List.mem_map_of_mem member) rfl

theorem old_migrated (written : WrittenAt n db) (clock : String → Datetime) :
    ∃ migrated, runMigrations clock db.appliedVersions migrations db = (.ok (), migrated) ∧
      migrated.schema.Opens = true ∧
        migrated.applied.rows = db.applied.rows ++ (migrations.drop n).map (appliedRow clock) ∧
          db.KeepsCasts migrated := by
  obtain ⟨schema, altered, opens⟩ := written_alters written
  have unapplied := drop_unapplied (n := n)
  have distinct : ((migrations.drop n).map Migration.version).Nodup :=
    versions_distinct.sublist ((List.drop_sublist n migrations).map _)
  obtain ⟨migrated, ran, rfl, rows, kept⟩ := run_migrations_missing clock db.appliedVersions (migrations.drop n) db
    schema altered (fun migration member => written_versions written ▸ unapplied migration member)
    (fun migration member taken => unapplied migration member (written.applied ▸ taken)) distinct
  refine ⟨migrated, ?_, opens, rows, kept⟩
  rw [← ran, ← run_migrations_applied clock db.appliedVersions (migrations.take n) (migrations.drop n) db
    (fun migration member => written_versions written ▸ List.mem_map_of_mem member), List.take_append_drop]

end Written

def fillKey (registry : AspectRegistry) (order : SetOrder) (row : StoredCast) : StoredCast :=
  if row.aspectPatternKey = none then row.keyed (canonicalAspectKey registry (row.aspects.rebuild order)) else row

def Resolved (registry : AspectRegistry) (db : Database) : Prop :=
  ∀ cast ∈ db.casts.rows, cast.aspectPatternKey = none → ∀ name ∈ cast.aspects.names, name ∈ registry.names

theorem fill_key_cast_id (registry : AspectRegistry) (order : SetOrder) (row : StoredCast) :
    (fillKey registry order row).castId = row.castId ∧ (fillKey registry order row).aspects = row.aspects := by
  rw [fillKey]
  split_ifs
  · exact ⟨rfl, rfl⟩
  · exact ⟨rfl, rfl⟩

theorem fill_key_keyed (registry : AspectRegistry) (order : SetOrder) (row : StoredCast) :
    (fillKey registry order row).aspectPatternKey ≠ none := by
  rw [fillKey]
  split_ifs with missing
  · exact Option.some_ne_none _
  · exact missing

theorem written_keys (keyOf : AspectSet → String) (todo : List StoredCast) (casts : Table StoredCast.castId)
    (same : ∀ cast ∈ todo, ∀ row ∈ casts.rows, row.castId = cast.castId → row.aspects = cast.aspects) :
    ((todo.map fun cast => KeyUpdate.mk (keyOf cast.aspects) cast.castId).foldl writeKey casts).rows =
      casts.rows.map fun row =>
        if row.castId ∈ todo.map StoredCast.castId then row.keyed (keyOf row.aspects) else row := by
  induction todo generalizing casts with
  | nil => simp
  | cons cast rest ih =>
      obtain ⟨own, others⟩ := List.forall_mem_cons.mp same
      have stillSame : ∀ other ∈ rest, ∀ row ∈ (writeKey casts ⟨keyOf cast.aspects, cast.castId⟩).rows,
          row.castId = other.castId → row.aspects = other.aspects := by
        intro other member row written about
        obtain ⟨old, isOld, rfl⟩ := List.mem_map.mp written
        have kept := others other member old isOld
        split_ifs at about ⊢
        · exact kept about
        · exact kept about
      rw [List.map_cons, List.foldl_cons, ih _ stillSame]
      change (casts.rows.map _).map _ = _
      rw [List.map_map]
      refine List.map_congr_left fun row member => ?_
      rw [Function.comp_apply]
      by_cases here : row.castId = cast.castId
      · have listed : row.castId ∈ (cast :: rest).map StoredCast.castId := List.mem_cons.mpr (Or.inl here)
        rw [if_pos here, if_pos listed, own row member here]
        split_ifs
        · exact congrArg (fun aspects => row.keyed (keyOf aspects)) (own row member here)
        · rfl
      · have listed : row.castId ∈ (cast :: rest).map StoredCast.castId ↔
            row.castId ∈ rest.map StoredCast.castId := by
          simp [here]
        rw [if_neg here]
        exact (if_congr listed rfl rfl).symm

theorem key_update_known (registry : AspectRegistry) (order : SetOrder) (row : StoredCast)
    (known : ∀ name ∈ row.aspects.names, name ∈ registry.names) :
    keyUpdate registry order row =
      .ok ⟨canonicalAspectKey registry (row.aspects.rebuild order), row.castId⟩ := by
  obtain ⟨aspects, resolved⟩ := (resolve_names_iff registry row.aspects.names).mpr known
  rw [keyUpdate, resolved, AspectSet.rebuild, ← resolve_names_ok registry _ aspects resolved]
  rfl

section Backfill

variable {registry : AspectRegistry} {order : SetOrder} {db : Database}

theorem backfill_opens (opens : db.schema.Opens = true) :
    backfillCastAspectPatternKeys registry order db =
      ((db.casts.rows.filter fun row => row.aspectPatternKey = none).mapM (keyUpdate registry order)).map
        fun updates => { db with casts := updates.foldl writeKey db.casts } := by
  obtain ⟨⟨columns, held, all⟩, -⟩ := opens_tables db.schema opens
  have none : (["cast_id", "sigil_json", "aspect_pattern_key"].find? fun column => column ∉ columns) = none := by
    rw [List.find?_eq_none]
    intro column member absent
    exact of_decide_eq_true absent (all column member)
  rw [backfillCastAspectPatternKeys, held]
  dsimp only
  rw [none]
  rfl

theorem backfill_resolved (opens : db.schema.Opens = true) (filled : Database)
    (done : backfillCastAspectPatternKeys registry order db = .ok filled) : Resolved registry db := by
  rw [backfill_opens opens] at done
  obtain ⟨updates, mapped, -⟩ := (map_ok _ _ _).mp done
  intro cast member missing
  obtain ⟨update, -, made⟩ := map_m_each _ _ updates mapped cast
    (List.mem_filter.mpr ⟨member, decide_eq_true missing⟩)
  obtain ⟨aspects, resolved, -⟩ := (bind_ok _ _ _).mp made
  exact (resolve_names_iff registry cast.aspects.names).mp ⟨aspects, resolved⟩

theorem backfill_filled (opens : db.schema.Opens = true) (resolved : Resolved registry db) :
    ∃ casts, backfillCastAspectPatternKeys registry order db = .ok { db with casts } ∧
      casts.rows = db.casts.rows.map (fillKey registry order) := by
  have missing : ∀ cast ∈ db.casts.rows.filter (fun row => row.aspectPatternKey = none),
      cast ∈ db.casts.rows ∧ cast.aspectPatternKey = none := by
    intro cast member
    obtain ⟨isRow, unkeyed⟩ := List.mem_filter.mp member
    exact ⟨isRow, of_decide_eq_true unkeyed⟩
  have mapped := map_m_ok (keyUpdate registry order)
    (fun row => ⟨canonicalAspectKey registry (row.aspects.rebuild order), row.castId⟩)
    (db.casts.rows.filter fun row => row.aspectPatternKey = none) fun cast member =>
      key_update_known registry order cast (resolved cast (missing cast member).1 (missing cast member).2)
  refine ⟨_, by rw [backfill_opens opens, mapped]; rfl, ?_⟩
  rw [written_keys (fun aspects => canonicalAspectKey registry (aspects.rebuild order))]
  · refine List.map_congr_left fun row member => ?_
    have listed : row.castId ∈ (db.casts.rows.filter fun row => row.aspectPatternKey = none).map StoredCast.castId ↔
        row.aspectPatternKey = none := by
      constructor
      · intro among
        obtain ⟨cast, isCast, same⟩ := List.mem_map.mp among
        obtain ⟨isRow, unkeyed⟩ := missing cast isCast
        exact db.casts.row_unique cast row isRow member same ▸ unkeyed
      · exact fun unkeyed => List.mem_map_of_mem (List.mem_filter.mpr ⟨member, decide_eq_true unkeyed⟩)
    rw [fillKey]
    exact if_congr listed rfl rfl
  · intro cast isCast row member same
    exact congrArg StoredCast.aspects (db.casts.row_unique row cast member (missing cast isCast).1 same)

end Backfill

theorem resolved_kept (registry : AspectRegistry) (db after : Database) (kept : db.KeepsCasts after) :
    Resolved registry after ↔ Resolved registry db := by
  have each : ∀ own : Database, Resolved registry own ↔ ∀ pattern ∈ own.casts.rows.map StoredCast.pattern,
      pattern.2.2 = none → ∀ name ∈ pattern.2.1.names, name ∈ registry.names := by
    intro own
    rw [List.forall_mem_map]
    rfl
  rw [each, each, kept.patterns]

theorem kept_row (db after : Database) (kept : db.KeepsCasts after) (cast : StoredCast)
    (member : cast ∈ db.casts.rows) :
    ∃ row ∈ after.casts.rows, row.castId = cast.castId ∧ row.aspects = cast.aspects ∧
      row.aspectPatternKey = cast.aspectPatternKey := by
  have among : cast.pattern ∈ after.casts.rows.map StoredCast.pattern := kept.patterns ▸ List.mem_map_of_mem member
  obtain ⟨row, isRow, same⟩ := List.mem_map.mp among
  obtain ⟨castId, rest⟩ := Prod.mk.inj same
  obtain ⟨aspects, key⟩ := Prod.mk.inj rest
  exact ⟨row, isRow, castId, aspects, key⟩

theorem kept_casts (db after : Database) (kept : db.KeepsCasts after) :
    after.casts.rows.map (fun cast => (cast.castId, cast.aspects)) =
      db.casts.rows.map fun cast => (cast.castId, cast.aspects) := by
  have same := congrArg (List.map fun pattern => (pattern.1, pattern.2.1)) kept.patterns
  rw [List.map_map, List.map_map] at same
  exact same

theorem key_registered (earlier later : AspectRegistry) (registered : AspectsRegistered earlier later)
    (distinct : earlier.Distinct) (aspects : AspectSet) (known : ∀ name ∈ aspects.names, name ∈ earlier.names) :
    canonicalAspectKey later aspects = canonicalAspectKey earlier aspects := by
  have laterDistinct : later.Distinct := by
    clear known
    induction registered with
    | nothing => exact distinct
    | more middle after aspect version _ one ih => exact register_distinct middle after aspect ih one
  obtain ⟨news, all, -⟩ := registered_extends earlier later registered
  refine canonical_key_extend earlier later (news.map RegisteredAspect.name) ?_ laterDistinct aspects known
  rw [registry_names, registry_names, all, List.map_append, List.append_assoc]

theorem filled_key (registry today : AspectRegistry) (order : SetOrder) (stored aspects : AspectSet)
    (distinct : registry.Distinct) (known : ∀ name ∈ stored.names, name ∈ registry.names) (version : Nat)
    (registered : AspectsRegistered (registry.setBasisVersion version) today)
    (members : aspects.members = stored.members) :
    canonicalAspectKey registry (stored.rebuild order) = canonicalAspectKey today aspects := by
  have perm := (members_eq aspects stored).mp members
  have knownToo : ∀ name ∈ aspects.names, name ∈ registry.names :=
    fun name member => known name (perm.mem_iff.mp member)
  calc
    canonicalAspectKey registry (stored.rebuild order) = canonicalAspectKey registry stored :=
      (rebuild_known registry order stored known).2
    _ = canonicalAspectKey registry aspects := canonical_key_members registry stored aspects members.symm known
    _ = canonicalAspectKey (registry.setBasisVersion version) aspects := rfl
    _ = canonicalAspectKey today aspects :=
      (key_registered (registry.setBasisVersion version) today registered distinct aspects knownToo).symm

theorem read_latest_opens (db : Database) (opens : db.schema.Opens = true) :
    readLatestBasisVersion db = .ok db.latestBasis := if_neg (opens_tables db.schema opens).2.1

theorem open_filled (order : SetOrder) (clock : String → Datetime) (process : OpeningProcess)
    (migrated filled : Database)
    (ran : runMigrations clock process.db.appliedVersions migrations process.db = (.ok (), migrated))
    (done : backfillCastAspectPatternKeys process.registry order migrated = .ok filled)
    (opens : filled.schema.Opens = true) :
    openGrimoire order clock process =
      (.ok (), { registry := process.registry.setBasisVersion filled.latestBasis, db := filled }) := by
  rw [openGrimoire, ran]
  dsimp only
  rw [done]
  dsimp only
  rw [read_latest_opens filled opens]

theorem open_current (db : Database) (opens : db.schema.Opens = true)
    (applied : db.appliedVersions = migrations.map Migration.version)
    (keyed : ∀ cast ∈ db.casts.rows, cast.aspectPatternKey ≠ none) (order : SetOrder) (clock : String → Datetime)
    (registry : AspectRegistry) :
    openGrimoire order clock { registry, db } =
      (.ok (), { registry := registry.setBasisVersion db.latestBasis, db }) := by
  have ran : runMigrations clock db.appliedVersions migrations db = (.ok (), db) := by
    rw [← List.append_nil migrations, run_migrations_applied clock db.appliedVersions migrations []]
    · rfl
    · exact fun migration member => applied ▸ List.mem_map_of_mem member
  have complete : db.casts.rows.filter (fun row => row.aspectPatternKey = none) = [] := by
    rw [List.filter_eq_nil_iff]
    exact fun cast member missing => keyed cast member (of_decide_eq_true missing)
  have done : backfillCastAspectPatternKeys registry order db = .ok db := by
    rw [backfill_opens opens, complete]
    rfl
  exact open_filled order clock { registry, db } db db ran done opens

section Opened

variable {n : Nat} {order : SetOrder} {clock : String → Datetime} {process : OpeningProcess}

theorem opening_resolved (written : WrittenAt n process.db) (opened : OpeningProcess)
    (ok : openGrimoire order clock process = (.ok (), opened)) : Resolved process.registry process.db := by
  obtain ⟨migrated, ran, opens, -, kept⟩ := old_migrated written clock
  rw [openGrimoire, ran] at ok
  dsimp only at ok
  cases done : backfillCastAspectPatternKeys process.registry order migrated with
  | error raised =>
      rw [done] at ok
      cases (Prod.mk.inj ok).1
  | ok filled =>
      have read := backfill_resolved opens filled done
      exact (resolved_kept process.registry process.db migrated kept).mp read

theorem opening_upgraded (distinct : process.registry.Distinct) (written : WrittenAt n process.db)
    (resolved : Resolved process.registry process.db) : Upgrades n order clock process := by
  obtain ⟨migrated, ran, opens, applied, kept⟩ := old_migrated written clock
  have complete : ∃ casts, backfillCastAspectPatternKeys process.registry order migrated = .ok { migrated with casts } ∧
      casts.rows = migrated.casts.rows.map (fillKey process.registry order) :=
    backfill_filled opens ((resolved_kept process.registry process.db migrated kept).mpr resolved)
  obtain ⟨casts, done, rows⟩ := complete
  have versions : Database.appliedVersions { migrated with casts } = migrations.map Migration.version := by
    have recorded := (opens_tables migrated.schema opens).2.2
    calc
      Database.appliedVersions { migrated with casts } = migrated.applied.rows.map AppliedMigration.version :=
        applied_versions_recorded { migrated with casts } recorded
      _ = (migrations.take n).map Migration.version ++ (migrations.drop n).map Migration.version := by
        rw [applied, List.map_append, written.applied, List.map_map]
        rfl
      _ = migrations.map Migration.version := by rw [← List.map_append, List.take_append_drop]
  have keyed : ∀ cast ∈ casts.rows, cast.aspectPatternKey ≠ none := by
    rw [rows, List.forall_mem_map]
    exact fun row _ => fill_key_keyed process.registry order row
  have found : ∀ cast ∈ process.db.casts.rows, ∃ row,
      casts.find? cast.castId = some (fillKey process.registry order row) ∧ row.aspects = cast.aspects ∧
        row.aspectPatternKey = cast.aspectPatternKey := by
    intro cast member
    obtain ⟨row, isRow, castId, aspects, key⟩ := kept_row process.db migrated kept cast member
    refine ⟨row, ?_, aspects, key⟩
    rw [← castId, ← (fill_key_cast_id process.registry order row).1]
    exact casts.find_row _ (rows ▸ List.mem_map_of_mem isRow)
  refine ⟨_, open_filled order clock process migrated { migrated with casts } ran done opens, ?_⟩
  exact
    { applied := applied
      versions := versions
      casts := by
        rw [← kept_casts process.db migrated kept, rows, List.map_map]
        exact List.map_congr_left fun row _ => Prod.ext (fill_key_cast_id _ _ row).1 (fill_key_cast_id _ _ row).2
      keyed := keyed
      kept := by
        intro cast member present
        obtain ⟨row, isFound, -, key⟩ := found cast member
        refine ⟨_, isFound, ?_⟩
        rw [fillKey, if_neg (key ▸ present), key]
      filled := by
        intro cast member missing today registered aspects members
        obtain ⟨row, isFound, same, key⟩ := found cast member
        refine ⟨_, isFound, ?_⟩
        rw [fillKey, if_pos (key.trans missing), same, StoredCast.keyed]
        exact congrArg some (filled_key process.registry today order cast.aspects aspects distinct
          (resolved cast member missing) _ registered members)
      again := open_current { migrated with casts } opens versions keyed }

end Opened

theorem opening_upgrades_iff (n : Nat) (order : SetOrder) (clock : String → Datetime) (process : OpeningProcess)
    (distinct : process.registry.Distinct) (written : WrittenAt n process.db) :
    Upgrades n order clock process ↔ Resolved process.registry process.db := by
  constructor
  · rintro ⟨opened, ok, -⟩
    exact opening_resolved written opened ok
  · exact opening_upgraded distinct written

def schemaAt (n : Nat) : Schema := ((migrations.take n).foldlM Migration.alter {}).toOption.getD {}

theorem schema_at_altered (n : Nat) : (migrations.take n).foldlM Migration.alter {} = .ok (schemaAt n) := by
  obtain ⟨schema, altered, -⟩ := all_altered
  rw [← List.take_append_drop n migrations, List.foldlM_append] at altered
  obtain ⟨middle, before, -⟩ := (bind_ok _ _ _).mp altered
  rw [schemaAt, before]
  rfl

def sampleClock (_version : String) : Datetime := .newYear 2026 (Eq.refl true)

def oldFormCast : StoredCast where
  castId := "cast-1"
  aspects := { names := ["FORM"], distinct := List.nodup_singleton _ }

def oldHarmonyCast : StoredCast where
  castId := "cast-2"
  aspects := { names := ["FORM", "HARMONY"], distinct := by decide }

def harmonyDatabase : Database where
  schema := schemaAt 5
  applied := { rows := (migrations.take 5).map (appliedRow sampleClock), distinct := by decide }
  casts := { rows := [oldFormCast, oldHarmonyCast], distinct := by decide }
  registeredAspects := { rows := [{ aspect := harmonyAspect, ordinal := 6 }], distinct := List.nodup_singleton _ }

theorem harmony_database_written : WrittenAt 5 harmonyDatabase where
  schema := schema_at_altered 5
  applied := by decide
  empty := by decide
  unkeyed := by decide
  unregistered := by decide
  known := by decide +kernel

theorem harmony_upgrades : AspectRegistry.Distinct withHarmony ∧ WrittenAt 5 harmonyDatabase ∧
    Upgrades 5 listOrder sampleClock { registry := withHarmony, db := harmonyDatabase } := by
  have distinct : AspectRegistry.Distinct withHarmony := by
    rw [AspectRegistry.Distinct]
    decide +kernel
  refine ⟨distinct, harmony_database_written, ?_⟩
  refine (opening_upgrades_iff 5 listOrder sampleClock { registry := withHarmony, db := harmonyDatabase } distinct
    harmony_database_written).mpr ?_
  rw [Resolved]
  decide +kernel

theorem harmony_not_opened : AspectRegistry.Distinct {} ∧ WrittenAt 5 harmonyDatabase ∧
    (openGrimoire listOrder sampleClock { registry := {}, db := harmonyDatabase }).1 =
      .error (.keyError "HARMONY") ∧
    (openGrimoire listOrder sampleClock { registry := {}, db :=
      (openGrimoire listOrder sampleClock { registry := {}, db := harmonyDatabase }).2.db }).1 =
      .error (.keyError "HARMONY") ∧
    ¬ Upgrades 5 listOrder sampleClock { registry := {}, db := harmonyDatabase } := by
  refine ⟨canonical_names_distinct, harmony_database_written, by decide +kernel, by decide +kernel, ?_⟩
  rintro ⟨opened, ok, -⟩
  have resolved := opening_resolved harmony_database_written opened ok
  rw [Resolved] at resolved
  exact absurd resolved (by decide +kernel)

end Vermyth
