import Vermyth.Casting.BasisMismatch
import Vermyth.Engine.Chain
import Vermyth.Foundation.Ancestry
import Vermyth.Foundation.Raises
import Vermyth.Foundation.Transition
import Vermyth.Grimoire.Restart
import Vermyth.Grimoire.SeedInvariant

set_option autoImplicit false

namespace Vermyth

open Foundation

def CastRecord.link (record : CastRecord) : Option (String × Nat) :=
  record.lineage.map fun lineage => (lineage.parentCastId, lineage.depth)

def lineageRaised : PyError → PyError
  | .keyError key => .keyError key
  | raised => .runtimeError ("lineage failed: " ++ raised.text)

def CastProcess.toolLineage (process : CastProcess) (castId : String) (maxDepth : Int) :
    Except PyError (List CastRecord) :=
  ((climb CastRecord.link process.readCast maxDepth.toNat castId).map List.reverse).mapError lineageRaised

theorem lineage_depth_link (record : CastRecord) :
    lineageDepth record.result = depthOf CastRecord.link record + 1 := by
  cases named : record.lineage with
  | none => simp [lineageDepth, depthOf, CastRecord.link, CastRecord.result, named]
  | some lineage => simp [lineageDepth, depthOf, CastRecord.link, CastRecord.result, named]

def CastRecord.Known (registry : AspectRegistry) (record : CastRecord) : Prop :=
  ∀ name ∈ record.sigil.aspects.names, name ∈ registry.names

structure LineageKept (process : CastProcess) : Prop where
  grounded : Grounded CastRecord.link process.casts
  known : ∀ record ∈ process.casts.rows, record.Known process.registry

def KeepsLineage (before after : CastProcess) : Prop :=
  after.env = before.env ∧ (LineageKept before → LineageKept after)

theorem keeps_lineage_refl (process : CastProcess) : KeepsLineage process process := ⟨rfl, id⟩

theorem keeps_lineage_trans (first middle last : CastProcess) (a : KeepsLineage first middle)
    (b : KeepsLineage middle last) :
    KeepsLineage first last := ⟨b.1.trans a.1, fun kept => b.2 (a.2 kept)⟩

structure SameCasts (before after : CastProcess) : Prop where
  env : after.env = before.env
  casts : after.casts = before.casts

theorem same_casts_refl (process : CastProcess) : SameCasts process process := ⟨rfl, rfl⟩

theorem same_casts_trans (first middle last : CastProcess) (a : SameCasts first middle) (b : SameCasts middle last) :
    SameCasts first last := ⟨b.env.trans a.env, b.casts.trans a.casts⟩

theorem same_casts_keeps (before after : CastProcess) (same : SameCasts before after) : KeepsLineage before after := by
  refine ⟨same.env, ?_⟩
  intro kept
  constructor
  · rw [same.casts]
    exact kept.grounded
  · rw [same.casts, CastProcess.registry, same.env]
    exact kept.known

structure Fits (process : CastProcess) (record : CastRecord) : Prop where
  under : Under CastRecord.link process.casts.rows CastRecord.castId record
  known : record.Known process.registry

theorem fits_same (before after : CastProcess) (record : CastRecord) (same : SameCasts before after)
    (fits : Fits before record) : Fits after record := by
  constructor
  · rw [same.casts]
    exact fits.under
  · rw [CastProcess.registry, same.env]
    exact fits.known

theorem fits_root (process : CastProcess) (record : CastRecord) (root : record.lineage = none)
    (known : record.Known process.registry) : Fits process record where
  under := under_root CastRecord.link _ record (by rw [CastRecord.link, root]; rfl)
  known := known

theorem fits_child (process : CastProcess) (parent child : CastRecord) (stored : parent ∈ process.casts.rows)
    (isChild : ChildOf parent child) (known : child.Known process.registry) : Fits process child where
  under := by
    intro above named
    obtain ⟨lineage, isLineage, rfl⟩ := Option.map_eq_some_iff.mp named
    obtain ⟨parentId, depth⟩ := isChild lineage isLineage
    exact ⟨parent, stored, parentId.symm, depth.trans (lineage_depth_link parent)⟩
  known := known

theorem interpolated_known (process : CastProcess) (record : CastRecord)
    (made : Interpolated process.engine record.sigil) : record.Known process.registry :=
  canonical_known process.registry record.sigil.aspects made.canonical

namespace CastProcess

variable (process : CastProcess)

theorem write_cast_ok (record : CastRecord) (written : CastProcess) (wrote : process.writeCast record = .ok written) :
    process.casts.insert? record = some written.casts ∧ written.env = process.env := by
  rw [writeCast] at wrote
  cases inserted : process.casts.insert? record with
  | none =>
      rw [inserted] at wrote
      contradiction
  | some casts =>
      rw [inserted] at wrote
      obtain ⟨_, -, wrote⟩ := (bind_ok _ _ _).mp wrote
      obtain rfl := Except.ok.inj wrote
      exact ⟨rfl, rfl⟩

theorem write_cast_rows (record : CastRecord) (written : CastProcess) (wrote : process.writeCast record = .ok written) :
    written.casts.rows = process.casts.rows ++ [record] := by
  obtain ⟨inserted, -⟩ := process.write_cast_ok record written wrote
  by_cases taken : process.casts.Has record.castId
  · rw [Table.insert_taken process.casts record taken] at inserted
    contradiction
  · rw [Table.insert_fresh process.casts record taken] at inserted
    rw [← Option.some.inj inserted]
    rfl

theorem write_cast_keeps (record : CastRecord) (written : CastProcess) (fits : Fits process record)
    (wrote : process.writeCast record = .ok written) : KeepsLineage process written := by
  obtain ⟨inserted, env⟩ := process.write_cast_ok record written wrote
  have rows := process.write_cast_rows record written wrote
  refine ⟨env, ?_⟩
  intro kept
  constructor
  · exact grounded_insert CastRecord.link process.casts written.casts record kept.grounded fits.under inserted
  · intro other member
    rw [CastProcess.registry, env]
    rw [rows] at member
    rcases List.mem_append.mp member with old | last
    · exact kept.known other old
    · rw [List.mem_singleton.mp last]
      exact fits.known

theorem read_cast_ok (castId : String) (read : CastRecord) (reads : process.readCast castId = .ok read) :
    ∃ row ∈ process.casts.rows, row.castId = castId ∧ read.castId = castId ∧ read.lineage = row.lineage := by
  obtain ⟨row, aspects, found, isKey, rfl⟩ := process.read_cast_restored castId read reads
  exact ⟨row, Table.find_mem process.casts castId row found, isKey, isKey, rfl⟩

theorem read_cast_known (row : CastRecord) (member : row ∈ process.casts.rows) (known : row.Known process.registry) :
    ∃ read, process.readCast row.castId = .ok read ∧ read.link = row.link := by
  obtain ⟨resolved, resolves⟩ := (resolve_names_iff process.registry row.sigil.aspects.names).mpr known
  have found := Table.find_row process.casts row member
  refine ⟨restoredCast process.registry (.build process.env.order (resolved.map Aspect.name)) row, ?_, rfl⟩
  rw [read_cast_found process row.castId row found, deserializeCast, resolves]
  rfl

theorem write_channel_same (state : ChannelState) (written : CastProcess)
    (wrote : process.writeChannelState state = .ok written) : SameCasts process written := by
  obtain ⟨_, -, wrote⟩ := (bind_ok _ _ _).mp wrote
  obtain ⟨_, -, wrote⟩ := (bind_ok _ _ _).mp wrote
  obtain ⟨_, -, wrote⟩ := (bind_ok _ _ _).mp wrote
  obtain rfl := Except.ok.inj wrote
  exact ⟨rfl, rfl⟩

theorem keep_cast_keeps (asked : AspectSet) (result : CastRecord) (draw : SeedDraw) (fits : Fits process result) :
    KeepsLineage process (process.keepCast asked result draw).2 := by
  let grown : CastProcess := (process.growSeed asked result draw).2
  have same : SameCasts process grown := ⟨rfl, rfl⟩
  rw [keepCast]
  cases grows : process.growSeed asked result draw with
  | mk outcome left =>
      have isGrown : grown = left := congrArg Prod.snd grows
      rw [isGrown] at same
      cases outcome with
      | error raised => exact same_casts_keeps process left same
      | ok _ =>
          dsimp only
          cases wrote : left.writeCast result with
          | error raised => exact same_casts_keeps process left same
          | ok written =>
              have keeps := left.write_cast_keeps result written (fits_same process left result same fits) wrote
              exact keeps_lineage_trans process left written (same_casts_keeps process left same) keeps

theorem keep_cast_stores (asked : AspectSet) (result kept : CastRecord) (draw : SeedDraw) (left : CastProcess)
    (keeps : process.keepCast asked result draw = (.ok kept, left)) : result ∈ left.casts.rows := by
  rw [keepCast] at keeps
  cases grows : process.growSeed asked result draw with
  | mk outcome grown =>
      rw [grows] at keeps
      cases outcome with
      | error raised => cases keeps
      | ok _ =>
          dsimp only at keeps
          cases wrote : grown.writeCast result with
          | error raised =>
              rw [wrote] at keeps
              cases keeps
          | ok written =>
              rw [wrote] at keeps
              obtain ⟨-, rfl⟩ := Prod.mk.inj keeps
              rw [grown.write_cast_rows result written wrote]
              exact List.mem_append_right _ (List.mem_singleton_self result)

theorem attach_parent_fits (result child : CastRecord) (parentCastId branchId : Option String) (draws : CallDraws)
    (attached : CastProcess) (root : result.lineage = none) (known : result.Known process.registry)
    (attaches : process.attachParent result parentCastId branchId draws = .ok (child, attached)) :
    SameCasts process attached ∧ Fits process child := by
  cases parentCastId with
  | none =>
      obtain ⟨rfl, rfl⟩ := Prod.mk.inj (Except.ok.inj attaches)
      exact ⟨same_casts_refl process, fits_root process result root known⟩
  | some parentCastId =>
      obtain ⟨parent, reads, attaches⟩ := (bind_ok _ _ _).mp attaches
      obtain ⟨report, -, attaches⟩ := (bind_ok _ _ _).mp attaches
      obtain ⟨rfl, rfl⟩ := Prod.mk.inj (Except.ok.inj attaches)
      obtain ⟨row, stored, isKey, isId, same⟩ := process.read_cast_ok parentCastId parent reads
      refine ⟨⟨rfl, rfl⟩, fits_child process row _ stored ?_ known⟩
      intro lineage named
      obtain ⟨above, depth⟩ := with_lineage_child result parent _ lineage named
      have sameDepth : lineageDepth parent.result = lineageDepth row.result := by
        rw [lineage_depth_link, lineage_depth_link, depthOf, depthOf, CastRecord.link, CastRecord.link, same]
      exact ⟨above.trans (isId.trans isKey.symm), depth.trans sameDepth⟩

theorem asked_known (env : SeedEnv) (names : List String) (asked : AspectSet) (asks : askedSet env names = .ok asked) :
    ∀ name ∈ asked.names, name ∈ env.registry.names := by
  obtain ⟨resolved, each, asks⟩ := (bind_ok _ _ _).mp asks
  obtain rfl := Except.ok.inj asks
  apply build_known
  intro name member
  obtain ⟨aspect, isAspect, rfl⟩ := List.mem_map.mp member
  obtain ⟨given, -, requested⟩ := map_m_mem _ names resolved each aspect isAspect
  exact (request_aspect_ok env.registry _ aspect requested).2

theorem same_members_known (registry : AspectRegistry) (asked own : AspectSet) (same : asked.members = own.members)
    (known : ∀ name ∈ asked.names, name ∈ registry.names) : ∀ name ∈ own.names, name ∈ registry.names := by
  intro name member
  rw [← mem_members, ← same, mem_members] at member
  exact known name member

theorem engine_cast_ok (asked : AspectSet) (intent : Intent) (stamp : CastStamp) (result : CastRecord)
    (cast : process.engine.cast asked intent stamp = .ok result) :
    result.lineage = none ∧ asked.members = result.sigil.aspects.members := by
  obtain ⟨sigil, composed, cast⟩ := (bind_ok _ _ _).mp cast
  obtain rfl := Except.ok.inj cast
  exact ⟨rfl, compose_aspects _ _ _ asked sigil composed⟩

theorem base_cast_ok (asked : AspectSet) (intent : Intent) (stamp : CastStamp) (result : CastRecord)
    (cast : process.baseCast asked intent stamp = .ok result) :
    result.lineage = none ∧ asked.members = result.sigil.aspects.members := by
  obtain ⟨crystal, selected, cast⟩ := (bind_ok _ _ _).mp cast
  cases crystal with
  | none => exact process.engine_cast_ok asked intent stamp result cast
  | some crystal =>
      obtain rfl := Except.ok.inj cast
      refine ⟨rfl, cast_sigil_aspects process.env asked false process.seeds.grimoire.crystallized crystal.sigil ?_⟩
      have selects : crystallizedForAspects process.env.registry process.env.order asked
          process.seeds.grimoire.crystallized = .ok (some crystal) := selected
      simp only [castSigil, selects, Bool.false_eq_true, if_false]

theorem chained_result_ok (asked : AspectSet) (intent : Intent) (branchId : Option String) (force : Bool)
    (draws : CallDraws) (result : CastRecord) (written : CastProcess)
    (cast : process.chainedResult asked intent branchId force draws = .ok (result, written)) :
    (result.lineage = none ∧ asked.members = result.sigil.aspects.members) ∧ SameCasts process written := by
  obtain ⟨⟨own, state⟩, chained, cast⟩ := (bind_ok _ _ _).mp cast
  obtain ⟨after, wrote, cast⟩ := (bind_ok _ _ _).mp cast
  obtain ⟨rfl, rfl⟩ := Prod.mk.inj (Except.ok.inj cast)
  refine ⟨?_, process.write_channel_same _ after wrote⟩
  rw [ResonanceEngine.chainedCast] at chained
  split at chained
  · contradiction
  · obtain ⟨sigil, composed, chained⟩ := (bind_ok _ _ _).mp chained
    obtain ⟨verdict, -, chained⟩ := (bind_ok _ _ _).mp chained
    obtain ⟨updated, -, chained⟩ := (bind_ok _ _ _).mp chained
    obtain ⟨rfl, -⟩ := Prod.mk.inj (Except.ok.inj chained)
    exact ⟨rfl, compose_aspects _ _ _ asked sigil composed⟩

theorem begin_cast_cases (arguments : CastArguments) (draws : CallDraws) (asked : AspectSet) (result : CastRecord)
    (begun : CastProcess) (begins : process.beginCast arguments draws = .ok (asked, result, begun)) :
    ∃ intent, askedSet process.env arguments.aspects = .ok asked ∧
      ((arguments.chained = true ∧
          process.chainedResult asked intent arguments.branchId arguments.force draws = .ok (result, begun)) ∨
        (arguments.chained = false ∧ process = begun ∧
          process.baseCast asked intent draws.stamp = .ok result)) := by
  obtain ⟨own, asks, begins⟩ := (bind_ok _ _ _).mp begins
  obtain ⟨intent, -, begins⟩ := (bind_ok _ _ _).mp begins
  refine ⟨intent, ?_⟩
  by_cases chained : arguments.chained
  · simp only [if_pos chained] at begins
    obtain ⟨⟨cast, written⟩, casts, begins⟩ := (bind_ok _ _ _).mp begins
    obtain ⟨rfl, same⟩ := Prod.mk.inj (Except.ok.inj begins)
    obtain ⟨rfl, rfl⟩ := Prod.mk.inj same
    exact ⟨asks, Or.inl ⟨chained, casts⟩⟩
  · simp only [if_neg chained] at begins
    obtain ⟨cast, casts, begins⟩ := (bind_ok _ _ _).mp begins
    obtain ⟨rfl, same⟩ := Prod.mk.inj (Except.ok.inj begins)
    obtain ⟨rfl, rfl⟩ := Prod.mk.inj same
    exact ⟨asks, Or.inr ⟨by simpa using chained, rfl, casts⟩⟩

theorem begin_cast_ok (arguments : CastArguments) (draws : CallDraws) (asked : AspectSet) (result : CastRecord)
    (begun : CastProcess) (begins : process.beginCast arguments draws = .ok (asked, result, begun)) :
    result.lineage = none ∧ result.Known process.registry ∧ SameCasts process begun := by
  obtain ⟨intent, asks, ⟨_, casts⟩ | ⟨_, rfl, casts⟩⟩ :=
    process.begin_cast_cases arguments draws asked result begun begins
  · have known := asked_known process.env arguments.aspects asked asks
    obtain ⟨⟨root, members⟩, same⟩ := process.chained_result_ok asked intent _ _ draws result begun casts
    exact ⟨root, same_members_known process.registry asked _ members known, same⟩
  · have known := asked_known process.env arguments.aspects asked asks
    obtain ⟨root, members⟩ := process.base_cast_ok asked intent draws.stamp result casts
    exact ⟨root, same_members_known process.registry asked _ members known, same_casts_refl process⟩

theorem tool_cast_keeps (arguments : CastArguments) (draws : CallDraws) :
    KeepsLineage process (process.toolCast arguments draws).2 := by
  rw [toolCast, wrapped, castSteps]
  cases begins : process.beginCast arguments draws with
  | error raised => exact keeps_lineage_refl process
  | ok begun =>
      obtain ⟨asked, result, begun⟩ := begun
      obtain ⟨root, known, same⟩ := process.begin_cast_ok arguments draws asked result begun begins
      have knownBegun : result.Known begun.registry := by
        rw [CastProcess.registry, same.env]
        exact known
      dsimp only
      cases attaches : begun.attachParent result arguments.parentCastId arguments.branchId draws with
      | error raised => exact same_casts_keeps process begun same
      | ok attached =>
          obtain ⟨child, attached⟩ := attached
          obtain ⟨sameAttached, fits⟩ :=
            begun.attach_parent_fits result child _ _ draws attached root knownBegun attaches
          have both := same_casts_keeps process attached (same_casts_trans process begun attached same sameAttached)
          exact keeps_lineage_trans process attached _ both
            (attached.keep_cast_keeps asked child _ (fits_same begun attached child sameAttached fits))

theorem tool_fluid_cast_keeps (components : List ℚ) (intent : Except PyError Intent)
    (parentCastId branchId : Option String) (draws : CallDraws) :
    KeepsLineage process (process.toolFluidCast components intent parentCastId branchId draws).2 := by
  rw [toolFluidCast, wrapped]
  cases begins : process.beginFluid components intent draws with
  | error raised => exact keeps_lineage_refl process
  | ok result =>
      obtain ⟨request, -, cast⟩ := (bind_ok _ _ _).mp begins
      obtain ⟨-, root, made⟩ := fluid_cast_ok process.engine _ _ _ result cast
      have known := interpolated_known process result made
      dsimp only
      cases attaches : process.attachParent result parentCastId branchId draws with
      | error raised => exact keeps_lineage_refl process
      | ok attached =>
          obtain ⟨child, attached⟩ := attached
          obtain ⟨same, fits⟩ := process.attach_parent_fits result child _ _ draws attached root known attaches
          exact keeps_lineage_trans process attached _ (same_casts_keeps process attached same)
            (attached.keep_cast_keeps _ child _ (fits_same process attached child same fits))

theorem write_fluid_report_same (result : CastRecord) (draws : CallDraws) (reported : CastProcess)
    (reports : process.writeFluidReport result draws = .ok reported) : SameCasts process reported := by
  rw [writeFluidReport] at reports
  cases named : result.lineage with
  | none =>
      rw [named] at reports
      obtain rfl := Except.ok.inj reports
      exact same_casts_refl process
  | some lineage =>
      rw [named] at reports
      obtain ⟨parent, -, reports⟩ := (bind_ok _ _ _).mp reports
      obtain ⟨report, -, reports⟩ := (bind_ok _ _ _).mp reports
      obtain rfl := Except.ok.inj reports
      exact ⟨rfl, rfl⟩

theorem write_fluid_result_keeps (result : CastRecord) (draws : CallDraws) (draw : SeedDraw)
    (fits : Fits process result) : KeepsLineage process (process.writeFluidResult result draws draw).2 := by
  rw [writeFluidResult]
  cases reports : process.writeFluidReport result draws with
  | error raised => exact keeps_lineage_refl process
  | ok reported =>
      have same := process.write_fluid_report_same result draws reported reports
      exact keeps_lineage_trans process reported _ (same_casts_keeps process reported same)
        (reported.keep_cast_keeps _ result draw (fits_same process reported result same fits))

theorem write_fluid_result_stores (result kept : CastRecord) (draws : CallDraws) (draw : SeedDraw)
    (left : CastProcess) (writes : process.writeFluidResult result draws draw = (.ok kept, left)) :
    result ∈ left.casts.rows := by
  rw [writeFluidResult] at writes
  cases reports : process.writeFluidReport result draws with
  | error raised =>
      rw [reports] at writes
      cases writes
  | ok reported =>
      rw [reports] at writes
      exact reported.keep_cast_stores _ result kept draw left writes

theorem write_results_keeps (draws : CallDraws) (results : List CastRecord) (place : Nat)
    (linked : results.IsChain ChildOf) (made : ∀ result ∈ results, Interpolated process.engine result.sigil)
    (first : ∀ result ∈ results.head?, Fits process result) :
    KeepsLineage process (writeResults draws results place process).2 := by
  induction results generalizing process place with
  | nil => exact keeps_lineage_refl process
  | cons result rest ih =>
      have keeps := process.write_fluid_result_keeps result draws (draws.seed place) (first result rfl)
      rw [writeResults]
      cases writes : process.writeFluidResult result draws (draws.seed place) with
      | mk outcome left =>
          rw [writes] at keeps
          cases outcome with
          | error raised => exact keeps
          | ok kept =>
              have stored := process.write_fluid_result_stores result kept draws _ left writes
              have later : ∀ other ∈ rest, Interpolated left.engine other.sigil := by
                intro other member
                have own := made other (List.mem_cons_of_mem result member)
                exact ⟨own.canonical, by rw [engine, keeps.1]; exact own.basis⟩
              refine keeps_lineage_trans process left _ keeps (ih left (place + 1) linked.tail later ?_)
              intro next isNext
              have member := List.mem_of_head? isNext
              exact fits_child left result next stored (linked.rel_head? isNext)
                (interpolated_known left next (later next member))

theorem tool_auto_cast_keeps (arguments : AutoArguments) (draws : CallDraws) :
    KeepsLineage process (process.toolAutoCast arguments draws).2 := by
  rw [toolAutoCast]
  cases begins : process.beginAuto arguments draws with
  | error raised => exact keeps_lineage_refl process
  | ok cast =>
      obtain ⟨final, chain⟩ := cast
      obtain ⟨request, -, went⟩ := (bind_ok _ _ _).mp begins
      obtain ⟨holds, -⟩ := auto_cast_chain process.engine _ _ _ _ _ _ final chain went
      apply process.write_results_keeps draws chain 0 holds.linked holds.interpolated
      intro first isFirst
      exact fits_root process first (holds.root first isFirst)
        (interpolated_known process first (holds.interpolated first (List.mem_of_head? isFirst)))

theorem geometric_channel_same (arguments : GeometricArguments) (result : CastRecord) (draws : CallDraws)
    (channelled : CastProcess) (writes : process.geometricChannel arguments result draws = .ok channelled) :
    SameCasts process channelled := by
  rw [geometricChannel] at writes
  cases branch : arguments.branchId with
  | none =>
      rw [branch] at writes
      obtain rfl := Except.ok.inj writes
      exact same_casts_refl process
  | some branchId =>
      rw [branch] at writes
      obtain ⟨state, -, wrote⟩ := (bind_ok _ _ _).mp writes
      exact process.write_channel_same state channelled wrote

theorem tool_geometric_cast_keeps (arguments : GeometricArguments) (draws : CallDraws) :
    KeepsLineage process (process.toolGeometricCast arguments draws).2 := by
  rw [toolGeometricCast]
  cases begins : process.beginGeometric arguments draws with
  | error raised => exact keeps_lineage_refl process
  | ok result =>
      obtain ⟨request, -, cast⟩ := (bind_ok _ _ _).mp begins
      obtain ⟨-, root, made⟩ := fluid_cast_ok process.engine _ _ _ result cast
      have fits := fits_root process result root (interpolated_known process result made)
      dsimp only
      cases wrote : process.writeCast result with
      | error raised => exact keeps_lineage_refl process
      | ok written =>
          have keeps := process.write_cast_keeps result written fits wrote
          dsimp only
          cases channels : written.geometricChannel arguments result draws with
          | error raised => exact keeps
          | ok channelled =>
              exact keeps_lineage_trans process written channelled keeps
                (same_casts_keeps _ _ (written.geometric_channel_same arguments result draws channelled channels))

theorem upsert_members_same (members : List SwarmMember) : SameCasts process (upsertMembers members process).2 := by
  induction members generalizing process with
  | nil => exact same_casts_refl process
  | cons member rest ih =>
      rw [upsertMembers]
      cases wrote : process.upsertSwarmMember member with
      | error raised => exact same_casts_refl process
      | ok written =>
          obtain ⟨_, -, joins⟩ := (bind_ok _ _ _).mp wrote
          have same : SameCasts process written := Except.ok.inj joins ▸ ⟨rfl, rfl⟩
          exact same_casts_trans process written _ same (ih written)

theorem begin_swarm_ok (arguments : SwarmArguments) (draws : CallDraws) (cast : SwarmCast)
    (begins : process.beginSwarm arguments draws = .ok cast) : Fits process cast.result := by
  rw [beginSwarm] at begins
  split_ifs at begins
  obtain ⟨intent, -, begins⟩ := (bind_ok _ _ _).mp begins
  obtain ⟨state, -, begins⟩ := (bind_ok _ _ _).mp begins
  obtain ⟨result, casts, begins⟩ := (bind_ok _ _ _).mp begins
  obtain rfl := Except.ok.inj begins
  obtain ⟨-, root, made⟩ := fluid_cast_ok process.engine _ _ _ result casts
  exact fits_root process result root (interpolated_known process result made)

theorem tool_swarm_cast_keeps (arguments : SwarmArguments) (draws : CallDraws) :
    KeepsLineage process (process.toolSwarmCast arguments draws).2 := by
  rw [toolSwarmCast]
  cases begins : process.beginSwarm arguments draws with
  | error raised => exact keeps_lineage_refl process
  | ok cast =>
      have fits := process.begin_swarm_ok arguments draws cast begins
      have same := process.upsert_members_same (cast.members.map (streakAfter cast.status))
      dsimp only
      cases joins : upsertMembers (cast.members.map (streakAfter cast.status)) process with
      | mk outcome joined =>
          rw [joins] at same
          cases outcome with
          | error raised => exact same_casts_keeps process joined same
          | ok _ =>
              dsimp only
              cases makes : SwarmState.make arguments.swarmId cast.threshold cast.status cast.aggregated
                  (some cast.result.castId) draws.now with
              | error raised => exact same_casts_keeps process joined same
              | ok state =>
                  have both : SameCasts process (joined.writeSwarmState state) := ⟨same.env, same.casts⟩
                  dsimp only
                  cases wrote : (joined.writeSwarmState state).writeCast cast.result with
                  | error raised => exact same_casts_keeps process _ both
                  | ok written =>
                      exact keeps_lineage_trans process _ written (same_casts_keeps process _ both)
                        (write_cast_keeps _ cast.result written (fits_same process _ cast.result both fits) wrote)

-- Where only the last cast of a chain is stored, the chain is of one cast.
def StoresChain (call : CallDraws × CastCall) : Prop :=
  match call.2 with
  | .decide arguments =>
      ∀ request, process.decideRequest arguments = .ok request → request.aspects = none → request.vector = none →
        process.engine.FirstReaches (process.engine.intentVector request.intent).vector request.intent (75 / 100)
          call.1.casts
  | .predictiveCast rootCastId intent =>
      ∀ given target, intent = .ok given →
        process.engine.interpolate (process.engine.intentVector given).vector 3 = .ok target →
          process.engine.FirstReaches
            (process.engine.blendToward (process.engine.intentVector given).vector target.semanticVector
              (1 / 10 + 4 / 10 * (causalSubgraph process { rootCastId := rootCastId }).narrativeCoherence))
            given (max (65 / 100) (causalSubgraph process { rootCastId := rootCastId }).narrativeCoherence) call.1.casts
  | _ => True

theorem decide_request_known (arguments : DecideArguments) (request : DecideRequest)
    (requested : process.decideRequest arguments = .ok request) :
    ∀ asked ∈ request.aspects, ∀ name ∈ asked.names, name ∈ process.registry.names := by
  rw [decideRequest] at requested
  split_ifs at requested
  obtain ⟨intent, -, requested⟩ := (bind_ok _ _ _).mp requested
  obtain ⟨aspects, asks, requested⟩ := (bind_ok _ _ _).mp requested
  obtain ⟨vector, -, requested⟩ := (bind_ok _ _ _).mp requested
  obtain ⟨settings, -, requested⟩ := (bind_ok _ _ _).mp requested
  obtain rfl := Except.ok.inj requested
  intro asked given
  cases offered : arguments.aspects with
  | none =>
      rw [offered] at asks
      obtain rfl := Except.ok.inj asks
      contradiction
  | some names =>
      rw [offered, Option.mapM_some] at asks
      cases made : askedSet process.env names with
      | error raised =>
          rw [made] at asks
          contradiction
      | ok own =>
          rw [made] at asks
          obtain rfl := Except.ok.inj asks
          obtain rfl := Option.some.inj given
          exact asked_known process.env names own made

theorem decide_cast_fits (arguments : DecideArguments) (request : DecideRequest) (draws : CallDraws)
    (result : CastRecord) (requested : process.decideRequest arguments = .ok request)
    (cast : process.decideCast request draws = .ok result) (stores : process.StoresChain (draws, .decide arguments)) :
    Fits process result := by
  have known := process.decide_request_known arguments request requested
  rw [decideCast] at cast
  cases aspects : request.aspects with
  | some asked =>
      cases vector : request.vector with
      | some given =>
          simp only [aspects, vector] at cast
          contradiction
      | none =>
          simp only [aspects, vector] at cast
          obtain ⟨root, members⟩ := process.engine_cast_ok asked request.intent draws.stamp result cast
          exact fits_root process result root
            (same_members_known process.registry asked _ members (known asked aspects))
  | none =>
      cases vector : request.vector with
      | some given =>
          simp only [aspects, vector] at cast
          obtain ⟨-, root, made⟩ := fluid_cast_ok process.engine _ _ _ result cast
          exact fits_root process result root (interpolated_known process result made)
      | none =>
          simp only [aspects, vector] at cast
          obtain ⟨⟨final, chain⟩, went, rfl⟩ := (map_ok _ _ _).mp cast
          have reaches := stores request requested aspects vector
          have root := auto_cast_first process.engine _ _ _ _ _ _ final chain reaches went
          obtain ⟨holds, isLast⟩ := auto_cast_chain process.engine _ _ _ _ _ _ final chain went
          exact fits_root process final root (interpolated_known process final (holds.interpolated final isLast))

theorem write_decision_same (decision : PolicyDecision) (after : CastProcess)
    (wrote : process.writePolicyDecision decision = .ok after) : SameCasts process after := by
  rw [writePolicyDecision] at wrote
  by_cases stored : process.casts.Has decision.castId
  · rw [if_pos stored] at wrote
    obtain rfl := Except.ok.inj wrote
    exact ⟨rfl, rfl⟩
  · rw [if_neg stored] at wrote
    contradiction

theorem tool_decide_keeps (arguments : DecideArguments) (draws : CallDraws)
    (stores : process.StoresChain (draws, .decide arguments)) :
    KeepsLineage process (process.toolDecide arguments draws).2 := by
  rw [toolDecide]
  cases begins : process.beginDecide arguments draws with
  | error raised => exact keeps_lineage_refl process
  | ok decided =>
      obtain ⟨decision, result⟩ := decided
      obtain ⟨request, requested, begins⟩ := (bind_ok _ _ _).mp begins
      obtain ⟨own, cast, begins⟩ := (bind_ok _ _ _).mp begins
      obtain ⟨status, -, begins⟩ := (bind_ok _ _ _).mp begins
      obtain ⟨ruled, -, begins⟩ := (bind_ok _ _ _).mp begins
      obtain ⟨rfl, rfl⟩ := Prod.mk.inj (Except.ok.inj begins)
      have fits := process.decide_cast_fits arguments request draws own requested cast stores
      dsimp only
      cases wrote : process.writeCast own with
      | error raised => exact keeps_lineage_refl process
      | ok written =>
          have keeps := process.write_cast_keeps own written fits wrote
          dsimp only
          cases recorded : written.writePolicyDecision ruled with
          | error raised => exact keeps
          | ok after =>
              exact keeps_lineage_trans process written after keeps
                (same_casts_keeps written after (written.write_decision_same ruled after recorded))

theorem link_leaves_same (result : CastRecord) (draws : CallDraws) (leafIds : List String) (place : Nat) :
    SameCasts process (linkLeaves result draws leafIds place process).2 := by
  induction leafIds generalizing process place with
  | nil => exact same_casts_refl process
  | cons leafId rest ih =>
      rw [linkLeaves]
      cases process.readCast leafId with
      | error raised => exact ih process (place + 1)
      | ok leaf =>
          dsimp only
          cases inferCausalEdge process.math leaf result (draws.edge place) with
          | error raised => exact same_casts_refl process
          | ok inferred =>
              cases inferred with
              | none => exact ih process (place + 1)
              | some edge =>
                  have same : SameCasts process (process.writeCausalEdge { edge with edgeType := .causes }) :=
                    ⟨rfl, rfl⟩
                  exact same_casts_trans process _ _ same (ih _ (place + 1))

theorem tool_predictive_cast_keeps (rootCastId : String) (intent : Except PyError Intent) (draws : CallDraws)
    (stores : process.StoresChain (draws, .predictiveCast rootCastId intent)) :
    KeepsLineage process (process.toolPredictiveCast rootCastId intent draws).2 := by
  rw [toolPredictiveCast]
  cases begins : process.beginPredictive rootCastId intent draws with
  | error raised => exact keeps_lineage_refl process
  | ok begun =>
      obtain ⟨graph, result⟩ := begun
      obtain ⟨given, isGiven, begins⟩ := (bind_ok _ _ _).mp begins
      obtain ⟨own, cast, begins⟩ := (bind_ok _ _ _).mp begins
      obtain ⟨rfl, rfl⟩ := Prod.mk.inj (Except.ok.inj begins)
      obtain ⟨target, chain, made, went⟩ := predictive_cast_ok process.engine _ given _ own cast
      have root := auto_cast_first process.engine _ _ _ _ _ _ own chain (stores given target isGiven made) went
      obtain ⟨holds, isLast⟩ := auto_cast_chain process.engine _ _ _ _ _ _ own chain went
      have fits := fits_root process own root (interpolated_known process own (holds.interpolated own isLast))
      dsimp only
      cases wrote : process.writeCast own with
      | error raised => exact keeps_lineage_refl process
      | ok written =>
          have keeps := process.write_cast_keeps own written fits wrote
          let leafIds := leaves (causalSubgraph process { rootCastId := rootCastId })
          have same := written.link_leaves_same own draws leafIds 0
          dsimp only
          cases links : linkLeaves own draws leafIds 0 written with
          | mk outcome linked =>
              rw [links] at same
              cases outcome with
              | error raised => exact keeps_lineage_trans process written linked keeps (same_casts_keeps _ _ same)
              | ok _ => exact keeps_lineage_trans process written linked keeps (same_casts_keeps _ _ same)

end CastProcess

def castStep (process : CastProcess) (call : CallDraws × CastCall) : CastProcess :=
  (castCall process call.1 call.2).2

theorem cast_step_keeps (process : CastProcess) (call : CallDraws × CastCall) (stores : process.StoresChain call) :
    KeepsLineage process (castStep process call) := by
  obtain ⟨draws, call⟩ := call
  cases call with
  | cast arguments => exact process.tool_cast_keeps arguments draws
  | fluidCast components intent parentCastId branchId =>
      exact process.tool_fluid_cast_keeps components intent parentCastId branchId draws
  | autoCast arguments => exact process.tool_auto_cast_keeps arguments draws
  | geometricCast arguments => exact process.tool_geometric_cast_keeps arguments draws
  | swarmCast arguments => exact process.tool_swarm_cast_keeps arguments draws
  | decide arguments => exact process.tool_decide_keeps arguments draws stores
  | predictiveCast rootCastId intent => exact process.tool_predictive_cast_keeps rootCastId intent draws stores

structure LineageClosed (process : CastProcess) : Prop where
  closed : ∀ record ∈ process.casts.rows, ∀ lineage ∈ record.lineage, ∃ parent ∈ process.casts.rows,
    parent.castId = lineage.parentCastId ∧ lineage.depth = lineageDepth parent.result
  ends : ∀ record ∈ process.casts.rows, ∀ maxDepth : Int, (record.lineage.map Lineage.depth).getD 0 < maxDepth →
    ∃ root above, process.toolLineage record.castId maxDepth = .ok (root :: above) ∧ root.lineage = none

theorem lineage_kept_closed (process : CastProcess) (kept : LineageKept process) : LineageClosed process := by
  constructor
  · intro record member lineage named
    have above : (lineage.parentCastId, lineage.depth) ∈ record.link :=
      Option.map_eq_some_iff.mpr ⟨lineage, named, rfl⟩
    obtain ⟨parent, stored, isParent, depth⟩ := kept.grounded record member _ above
    exact ⟨parent, stored, isParent, depth.trans (lineage_depth_link parent).symm⟩
  · intro record member maxDepth enough
    have reads : ∀ row ∈ process.casts.rows, ∃ own, process.readCast row.castId = .ok own ∧ own.link = row.link :=
      fun row isRow => process.read_cast_known row isRow (kept.known row isRow)
    have depth : depthOf CastRecord.link record < maxDepth.toNat := by
      have own : depthOf CastRecord.link record = (record.lineage.map Lineage.depth).getD 0 := by
        rw [depthOf, CastRecord.link, Option.map_map]
        rfl
      omega
    obtain ⟨below, root, climbed, isRoot⟩ :=
      climb_grounded CastRecord.link process.casts kept.grounded process.readCast reads maxDepth.toNat record member
        depth
    refine ⟨root, below.reverse, ?_, Option.map_eq_none_iff.mp isRoot⟩
    rw [CastProcess.toolLineage, climbed]
    simp only [Except.map, Except.mapError, List.reverse_append, List.reverse_singleton, List.singleton_append]

theorem lineage_closed_run (start : CastProcess) (empty : start.casts.rows = []) (calls : List (CallDraws × CastCall))
    (stores : ∀ before call, Taken castStep start calls before call → before.StoresChain call) :
    LineageClosed (run castStep start calls) := by
  apply lineage_kept_closed
  refine run_invariant LineageKept start calls ⟨?_, ?_⟩ ?_
  · intro record member
    rw [empty] at member
    exact absurd member List.not_mem_nil
  · intro record member
    rw [empty] at member
    exact absurd member List.not_mem_nil
  · intro before call taken kept
    exact (cast_step_keeps before call (stores before call taken)).2 kept

def voidComposition : CompositionEngine where
  table := Table.empty.upsert (canonicalSlot "VOID" "Nullform" .erasure 71 .none)

def voidProcess : CastProcess :=
  { newProcess {} with env := { gossip := gossipEnv, engine := voidComposition } }

def chainThenChild : List (CallDraws × CastCall) :=
  [(drawsNamed "A", .autoCast { components := [1, 0, 0, 0, 0, 0], intent := .ok cautious }),
    (drawsNamed "B", .cast { aspects := ["VOID"], intent := .ok cautious, parentCastId := some "A-4" })]

theorem chain_then_child_closed : LineageClosed (run castStep voidProcess chainThenChild) :=
  lineage_closed_run voidProcess rfl chainThenChild
    (along_taken (fun before call => before.StoresChain call) voidProcess chainThenChild ⟨trivial, trivial, trivial⟩)

theorem decide_leaves_orphan : voidProcess.casts.rows = [] ∧
    ¬ LineageClosed (run castStep voidProcess [(drawsNamed "A", .decide { intent := .ok cautious })]) := by
  refine ⟨rfl, ?_⟩
  intro kept
  have orphan : ∃ record ∈ (run castStep voidProcess
      [(drawsNamed "A", .decide { intent := .ok cautious })]).casts.rows, ∃ lineage ∈ record.lineage,
        ∀ parent ∈ (run castStep voidProcess [(drawsNamed "A", .decide { intent := .ok cautious })]).casts.rows,
          parent.castId ≠ lineage.parentCastId := by
    decide +kernel
  obtain ⟨record, member, lineage, named, absent⟩ := orphan
  obtain ⟨parent, stored, isParent, -⟩ := kept.closed record member lineage named
  exact absent parent stored isParent

end Vermyth
