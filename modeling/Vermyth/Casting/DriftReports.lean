import Mathlib.Logic.Relation
import Vermyth.Casting.Backfill
import Vermyth.Casting.CastAtomicity
import Vermyth.Engine.AutoChain

set_option autoImplicit false

namespace Vermyth

open Foundation Relation

def ApartFrom (parent child : CastRecord) : Prop :=
  ∀ lineage ∈ child.lineage, lineage.parentCastId = parent.castId ∧
    ∃ divergence, lineage.divergenceVector = some divergence ∧ divergence.components =
      divergenceComponents child.sigil.semanticVector.components parent.sigil.semanticVector.components

structure ReportOn (judged : String → DivergenceThresholds → Prop) (math : VectorMath) (parent child : CastRecord)
    (report : DivergenceReport) : Prop where
  castId : report.castId = child.castId
  parentCastId : report.parentCastId = parent.castId
  measures : report.measures = divergenceMeasures math parent.sigil.semanticVector child.sigil.semanticVector
  status : ∃ thresholds, judged child.castId thresholds ∧ report.status = worstStatus thresholds report.measures

def Reported (judged : String → DivergenceThresholds → Prop) (process : CastProcess) (record : CastRecord) : Prop :=
  record.lineage.isSome → ∃ parent ∈ process.casts.rows, ∃ report ∈ process.divergenceReports.rows,
    ApartFrom parent record ∧ ReportOn judged process.math parent record report

def AllReported (judged : String → DivergenceThresholds → Prop) (process : CastProcess) : Prop :=
  ∀ record ∈ process.casts.rows, Reported judged process record

-- What a call does to the casts and their reports, write by write: a report is
-- written before its cast, and a cast that has a parent after its report.
inductive DriftMove (judged : String → DivergenceThresholds → Prop) (before : CastProcess) : CastProcess → Prop
  | aside (after : CastProcess) (casts : after.casts = before.casts)
      (reports : after.divergenceReports = before.divergenceReports) (math : after.math = before.math)
      (active : after.activeThresholds = before.activeThresholds) : DriftMove judged before after
  | report (report : DivergenceReport) (unstored : ¬ before.casts.Has report.castId) :
      DriftMove judged before (before.writeDivergenceReport report)
  | cast (after : CastProcess) (record : CastRecord) (wrote : before.writeCast record = .ok after)
      (reported : Reported judged before record) : DriftMove judged before after

abbrev DriftMoves (judged : String → DivergenceThresholds → Prop) : CastProcess → CastProcess → Prop :=
  ReflTransGen (DriftMove judged)

variable {judged : String → DivergenceThresholds → Prop}

theorem reported_root (process : CastProcess) (record : CastRecord) (root : record.lineage = none) :
    Reported judged process record := by
  intro child
  rw [root] at child
  contradiction

theorem reported_more (before after : CastProcess) (record : CastRecord) (math : after.math = before.math)
    (casts : ∀ row ∈ before.casts.rows, row ∈ after.casts.rows)
    (reports : ∀ report ∈ before.divergenceReports.rows, report.castId = record.castId →
      report ∈ after.divergenceReports.rows)
    (reported : Reported judged before record) : Reported judged after record := by
  intro child
  obtain ⟨parent, stored, report, written, apart, on⟩ := reported child
  refine ⟨parent, casts parent stored, report, reports report written on.castId, apart, ?_⟩
  rw [math]
  exact on

theorem reported_same (before after : CastProcess) (record : CastRecord) (casts : after.casts = before.casts)
    (reports : after.divergenceReports = before.divergenceReports) (math : after.math = before.math)
    (reported : Reported judged before record) : Reported judged after record := by
  refine reported_more before after record math ?_ ?_ reported
  · intro row stored
    rw [casts]
    exact stored
  · intro report written _
    rw [reports]
    exact written

theorem drift_move_keeps (before after : CastProcess) (move : DriftMove judged before after)
    (kept : AllReported judged before) : AllReported judged after := by
  cases move with
  | aside _ casts reports math active =>
      intro record stored
      rw [casts] at stored
      exact reported_same before after record casts reports math (kept record stored)
  | report report unstored =>
      intro record stored
      refine reported_more before _ record rfl (fun row member => member) ?_ (kept record stored)
      intro other written about
      refine (Table.mem_put _ _ _).mpr (Or.inl ⟨written, ?_⟩)
      intro same
      apply unstored
      rw [← same, about]
      exact Table.has_row before.casts record stored
  | cast _ added wrote reported =>
      obtain ⟨casts, rfl⟩ := before.write_cast_only added after wrote
      have rows := before.write_cast_rows added _ wrote
      have more : ∀ row ∈ before.casts.rows, row ∈ casts.rows := by
        intro row member
        rw [rows]
        exact List.mem_append_left _ member
      intro record stored
      rw [rows] at stored
      rcases List.mem_append.mp stored with old | last
      · exact reported_more before _ record rfl more (fun report written _ => written) (kept record old)
      · rw [List.mem_singleton.mp last]
        exact reported_more before _ added rfl more (fun report written _ => written) reported

theorem drift_moves_keep (before after : CastProcess) (moves : DriftMoves judged before after)
    (kept : AllReported judged before) : AllReported judged after := by
  induction moves with
  | refl => exact kept
  | tail _ move ih => exact drift_move_keeps _ _ move ih

theorem drift_moves_active (before after : CastProcess) (moves : DriftMoves judged before after) :
    after.activeThresholds = before.activeThresholds := by
  induction moves with
  | refl => rfl
  | tail _ move ih =>
      cases move with
      | aside _ casts reports math active => exact active.trans ih
      | report report unstored => exact ih
      | cast _ added wrote reported =>
          obtain ⟨casts, rfl⟩ := CastProcess.write_cast_only _ added _ wrote
          exact ih

theorem reported_judged (judgedToo : String → DivergenceThresholds → Prop) (process : CastProcess)
    (more : ∀ castId thresholds, judged castId thresholds → judgedToo castId thresholds)
    (kept : AllReported judged process) : AllReported judgedToo process := by
  intro record stored child
  obtain ⟨parent, isParent, report, written, apart, on⟩ := kept record stored child
  obtain ⟨thresholds, own, status⟩ := on.status
  exact ⟨parent, isParent, report, written, apart,
    { castId := on.castId, parentCastId := on.parentCastId, measures := on.measures
      status := ⟨thresholds, more _ _ own, status⟩ }⟩

theorem same_coeffs_length (items others : List ℚ) (lengths : items.length = others.length)
    (same : SameCoeffs items others) : items = others := by
  refine List.ext_getElem lengths ?_
  intro i inItems inOthers
  have here := same i
  rwa [coeff, coeff, List.getD_eq_getElem _ _ inItems, List.getD_eq_getElem _ _ inOthers] at here

theorem with_lineage_apart (base parent : CastRecord) (branchId : String) :
    ApartFrom parent (base.withLineage parent branchId) := by
  intro lineage named
  obtain rfl := Option.some.inj named
  exact ⟨rfl, _, rfl, rfl⟩

theorem auto_cast_apart (engine : ResonanceEngine) (vector : SemanticVector) (intent : Intent) (maxDepth : Int)
    (targetResonance blendAlpha : ℚ) (stamps : ChainStamps) (final : CastRecord) (chain : List CastRecord)
    (cast : engine.autoCast vector intent maxDepth targetResonance blendAlpha stamps = .ok (final, chain)) :
    chain.IsChain ApartFrom ∧ (∀ first ∈ chain.head?, first.lineage = none) ∧
      chain.map CastRecord.castId = (List.range chain.length).map fun i => (stamps.cast i).castId := by
  rw [← diagnosed_cast_same] at cast
  obtain ⟨done, diagnosed, same⟩ := (map_ok _ _ _).mp cast
  obtain ⟨rfl, rfl⟩ := Prod.mk.inj same
  have held := diagnosed_cast_done engine vector intent targetResonance blendAlpha stamps maxDepth done diagnosed
  refine ⟨List.isChain_iff_getElem.mpr ?_, ?_, chain_ids engine vector intent blendAlpha stamps held.run⟩
  · intro i inside lineage named
    obtain ⟨own, divergence, linked⟩ := chain_linked engine vector intent blendAlpha stamps held.run i
      done.chain[i] done.chain[i + 1] (List.getElem?_eq_getElem _) (List.getElem?_eq_getElem _)
    obtain rfl := Option.some.inj (linked.own.symm.trans named)
    refine ⟨linked.parentCastId, divergence, linked.apart, ?_⟩
    refine same_coeffs_length _ _ (linked.length.trans (divergence_components_length _ _).symm) ?_
    intro j
    rw [linked.difference, divergence_coeff]
  · intro first isFirst
    rw [List.head?_eq_getElem?] at isFirst
    exact chain_root engine vector intent blendAlpha stamps held.run first isFirst

namespace CastProcess

variable (process : CastProcess)

theorem read_cast_vector (castId : String) (read : CastRecord) (reads : process.readCast castId = .ok read) :
    ∃ row ∈ process.casts.rows, row.castId = castId ∧ read.castId = castId ∧
      read.sigil.semanticVector.components = row.sigil.semanticVector.components := by
  obtain ⟨row, aspects, found, isKey, rfl⟩ := process.read_cast_restored castId read reads
  exact ⟨row, Table.find_mem process.casts castId row found, isKey, isKey, rfl⟩

theorem report_on_row (result read row : CastRecord) (draws : CallDraws) (report : DivergenceReport)
    (same : read.castId = row.castId)
    (vector : read.sigil.semanticVector.components = row.sigil.semanticVector.components)
    (judges : judged result.castId process.activeThresholds)
    (made : process.reportOn result read draws = .ok report) : ReportOn judged process.math row result report := by
  obtain ⟨own, classified, measures, status⟩ := classify_measures process.math result.castId read.castId
    read.sigil.semanticVector result.sigil.semanticVector process.activeThresholds draws.now
  obtain rfl := Except.ok.inj (classified.symm.trans made)
  obtain ⟨cosine, -, classified⟩ := (bind_ok _ _ _).mp classified
  obtain rfl := Except.ok.inj classified
  have onRow : divergenceMeasures process.math read.sigil.semanticVector result.sigil.semanticVector =
      divergenceMeasures process.math row.sigil.semanticVector result.sigil.semanticVector := by
    rw [divergenceMeasures, divergenceMeasures, vector]
  exact
    { castId := rfl
      parentCastId := same
      measures := measures.trans onRow
      status := ⟨process.activeThresholds, judges, by rw [measures]; exact status⟩ }

theorem keep_cast_moves (asked : AspectSet) (result : CastRecord) (draw : SeedDraw)
    (reported : Reported judged process result) : DriftMoves judged process (process.keepCast asked result draw).2 := by
  let grown : CastProcess := (process.growSeed asked result draw).2
  have aside : DriftMove judged process grown := .aside grown rfl rfl rfl rfl
  have stillReported : Reported judged grown result := reported_same process grown result rfl rfl rfl reported
  rw [keepCast]
  cases grows : process.growSeed asked result draw with
  | mk outcome left =>
      have isGrown : grown = left := congrArg Prod.snd grows
      rw [isGrown] at aside stillReported
      cases outcome with
      | error raised => exact .single aside
      | ok _ =>
          dsimp only
          cases wrote : left.writeCast result with
          | error raised => exact .single aside
          | ok written => exact .tail (.single aside) (.cast written result wrote stillReported)

theorem keep_cast_has (asked : AspectSet) (result : CastRecord) (draw : SeedDraw) (castId : String)
    (has : (process.keepCast asked result draw).2.casts.Has castId) :
    process.casts.Has castId ∨ castId = result.castId := by
  have same : (process.growSeed asked result draw).2.casts = process.casts := rfl
  rw [keepCast] at has
  cases grows : process.growSeed asked result draw with
  | mk outcome left =>
      rw [grows] at has same
      cases outcome with
      | error raised =>
          rw [← same]
          exact Or.inl has
      | ok _ =>
          dsimp only at has same
          cases wrote : left.writeCast result with
          | error raised =>
              rw [wrote] at has
              rw [← same]
              exact Or.inl has
          | ok written =>
              rw [wrote] at has
              have rows := left.write_cast_rows result written wrote
              rw [Table.Has, rows, List.map_append, List.mem_append, same] at has
              exact has.imp_right fun last => List.mem_singleton.mp last

theorem attach_parent_moves (result child : CastRecord) (parentCastId branchId : Option String) (draws : CallDraws)
    (attached : CastProcess) (root : result.lineage = none) (unstored : ¬ process.casts.Has result.castId)
    (judges : judged result.castId process.activeThresholds)
    (attaches : process.attachParent result parentCastId branchId draws = .ok (child, attached)) :
    DriftMoves judged process attached ∧ Reported judged attached child := by
  cases parentCastId with
  | none =>
      obtain ⟨rfl, rfl⟩ := Prod.mk.inj (Except.ok.inj attaches)
      exact ⟨.refl, reported_root process result root⟩
  | some parentCastId =>
      obtain ⟨parent, reads, attaches⟩ := (bind_ok _ _ _).mp attaches
      obtain ⟨report, made, attaches⟩ := (bind_ok _ _ _).mp attaches
      obtain ⟨rfl, rfl⟩ := Prod.mk.inj (Except.ok.inj attaches)
      obtain ⟨row, stored, isRow, isRead, vector⟩ := process.read_cast_vector parentCastId parent reads
      have on := process.report_on_row (result.withLineage parent _) parent row draws report (isRead.trans isRow.symm)
        vector judges made
      constructor
      · refine .single (.report report ?_)
        rw [on.castId]
        exact unstored
      · intro _
        refine ⟨row, stored, report, (Table.mem_put _ _ _).mpr (Or.inr rfl), ?_, on⟩
        intro lineage named
        obtain ⟨above, divergence, apart, components⟩ := with_lineage_apart result parent _ lineage named
        rw [vector] at components
        exact ⟨above.trans (isRead.trans isRow.symm), divergence, apart, components⟩

theorem write_fluid_report_moves (result : CastRecord) (draws : CallDraws) (reported : CastProcess)
    (unstored : ¬ process.casts.Has result.castId) (judges : judged result.castId process.activeThresholds)
    (apart : result.lineage.isSome → ∃ above ∈ process.casts.rows, ApartFrom above result)
    (reports : process.writeFluidReport result draws = .ok reported) :
    DriftMoves judged process reported ∧ Reported judged reported result ∧ reported.casts = process.casts := by
  rw [writeFluidReport] at reports
  cases named : result.lineage with
  | none =>
      rw [named] at reports
      obtain rfl := Except.ok.inj reports
      exact ⟨.refl, reported_root process result named, rfl⟩
  | some lineage =>
      rw [named] at reports
      obtain ⟨parent, reads, reports⟩ := (bind_ok _ _ _).mp reports
      obtain ⟨report, made, reports⟩ := (bind_ok _ _ _).mp reports
      obtain rfl := Except.ok.inj reports
      obtain ⟨above, stored, apart⟩ := apart (by rw [named]; rfl)
      obtain ⟨row, isRow, isKey, isRead, vector⟩ := process.read_cast_vector lineage.parentCastId parent reads
      have same : row.castId = above.castId := isKey.trans (apart lineage named).1
      obtain rfl := process.casts.row_unique row above isRow stored same
      have on := process.report_on_row result parent row draws report (isRead.trans isKey.symm) vector judges made
      refine ⟨.single (.report report ?_), ?_, rfl⟩
      · rw [on.castId]
        exact unstored
      · exact fun _ => ⟨row, stored, report, (Table.mem_put _ _ _).mpr (Or.inr rfl), apart, on⟩

theorem write_fluid_result_moves (result : CastRecord) (draws : CallDraws) (draw : SeedDraw)
    (unstored : ¬ process.casts.Has result.castId) (judges : judged result.castId process.activeThresholds)
    (apart : result.lineage.isSome → ∃ above ∈ process.casts.rows, ApartFrom above result) :
    DriftMoves judged process (process.writeFluidResult result draws draw).2 ∧
      ∀ castId, (process.writeFluidResult result draws draw).2.casts.Has castId →
        process.casts.Has castId ∨ castId = result.castId := by
  rw [writeFluidResult]
  cases reports : process.writeFluidReport result draws with
  | error raised => exact ⟨.refl, fun castId has => Or.inl has⟩
  | ok reported =>
      obtain ⟨moves, isReported, same⟩ :=
        process.write_fluid_report_moves result draws reported unstored judges apart reports
      refine ⟨moves.trans (reported.keep_cast_moves _ result draw isReported), ?_⟩
      intro castId has
      rw [← same]
      exact reported.keep_cast_has _ result draw castId has

theorem write_results_moves (draws : CallDraws) (results : List CastRecord) (place : Nat)
    (linked : results.IsChain ApartFrom) (distinct : (results.map CastRecord.castId).Nodup)
    (unstored : ∀ result ∈ results, ¬ process.casts.Has result.castId)
    (judges : ∀ result ∈ results, judged result.castId process.activeThresholds)
    (first : ∀ result ∈ results.head?, result.lineage.isSome → ∃ above ∈ process.casts.rows, ApartFrom above result) :
    DriftMoves judged process (writeResults draws results place process).2 := by
  induction results generalizing process place with
  | nil => exact .refl
  | cons result rest ih =>
      obtain ⟨moves, has⟩ := process.write_fluid_result_moves result draws (draws.seed place)
        (unstored result List.mem_cons_self) (judges result List.mem_cons_self) (first result rfl)
      obtain ⟨absent, others⟩ := List.nodup_cons.mp distinct
      rw [writeResults]
      cases writes : process.writeFluidResult result draws (draws.seed place) with
      | mk outcome left =>
          rw [writes] at moves has
          cases outcome with
          | error raised => exact moves
          | ok kept =>
              have stored := process.write_fluid_result_stores result kept draws _ left writes
              have active := drift_moves_active process left moves
              refine moves.trans (ih left (place + 1) linked.tail others ?_ ?_ ?_)
              · intro other member stored
                rcases has other.castId stored with old | own
                · exact unstored other (List.mem_cons_of_mem result member) old
                · exact absent (own ▸ List.mem_map_of_mem member)
              · intro other member
                rw [active]
                exact judges other (List.mem_cons_of_mem result member)
              · intro next isNext _
                exact ⟨result, stored, linked.rel_head? isNext⟩

structure DrawsNew (draws : CallDraws) : Prop where
  unstored : ∀ i, ¬ process.casts.Has (draws.casts.cast i).castId
  distinct : Function.Injective fun i => (draws.casts.cast i).castId

theorem begin_cast_aside (judged : String → DivergenceThresholds → Prop) (arguments : CastArguments)
    (draws : CallDraws) (asked : AspectSet) (result : CastRecord) (begun : CastProcess)
    (begins : process.beginCast arguments draws = .ok (asked, result, begun)) :
    result.castId = (draws.casts.cast 0).castId ∧ result.lineage = none ∧ DriftMove judged process begun ∧
      begun.casts = process.casts ∧ begun.activeThresholds = process.activeThresholds := by
  have root := (process.begin_cast_ok arguments draws asked result begun begins).1
  obtain ⟨intent, -, ⟨chained, casts⟩ | ⟨unchained, rfl, casts⟩⟩ :=
    process.begin_cast_cases arguments draws asked result begun begins
  · obtain ⟨⟨own, state⟩, cast, casts⟩ := (bind_ok _ _ _).mp casts
    obtain ⟨after, wrote, casts⟩ := (bind_ok _ _ _).mp casts
    obtain ⟨rfl, rfl⟩ := Prod.mk.inj (Except.ok.inj casts)
    obtain rfl := process.write_channel_ok _ after wrote
    have drawn := (chained_cast_ok process.engine asked intent _ _ _ _ own state cast).1
    exact ⟨drawn, root, .aside _ rfl rfl rfl rfl, rfl, rfl⟩
  · refine ⟨?_, root, .aside process rfl rfl rfl rfl, rfl, rfl⟩
    obtain ⟨crystal, -, casts⟩ := (bind_ok _ _ _).mp casts
    cases crystal with
    | none =>
        obtain ⟨sigil, -, casts⟩ := (bind_ok _ _ _).mp casts
        obtain rfl := Except.ok.inj casts
        rfl
    | some crystal =>
        obtain rfl := Except.ok.inj casts
        rfl

theorem tool_cast_moves (arguments : CastArguments) (draws : CallDraws) (new : process.DrawsNew draws)
    (judges : ∀ i, judged (draws.casts.cast i).castId process.activeThresholds) :
    DriftMoves judged process (process.toolCast arguments draws).2 := by
  rw [toolCast, wrapped, castSteps]
  cases begins : process.beginCast arguments draws with
  | error raised => exact .refl
  | ok begun =>
      obtain ⟨asked, result, begun⟩ := begun
      obtain ⟨drawn, root, move, casts, active⟩ :=
        process.begin_cast_aside judged arguments draws asked result begun begins
      dsimp only
      cases attaches : begun.attachParent result arguments.parentCastId arguments.branchId draws with
      | error raised => exact .single move
      | ok attached =>
          obtain ⟨child, attached⟩ := attached
          have unstored : ¬ begun.casts.Has result.castId := by
            rw [casts, drawn]
            exact new.unstored 0
          have isJudged : judged result.castId begun.activeThresholds := by
            rw [active, drawn]
            exact judges 0
          obtain ⟨moves, reported⟩ :=
            begun.attach_parent_moves result child _ _ draws attached root unstored isJudged attaches
          exact ((ReflTransGen.single move).trans moves).trans (attached.keep_cast_moves asked child _ reported)

theorem tool_fluid_cast_moves (components : List ℚ) (intent : Except PyError Intent)
    (parentCastId branchId : Option String) (draws : CallDraws) (new : process.DrawsNew draws)
    (judges : ∀ i, judged (draws.casts.cast i).castId process.activeThresholds) :
    DriftMoves judged process (process.toolFluidCast components intent parentCastId branchId draws).2 := by
  rw [toolFluidCast, wrapped]
  cases begins : process.beginFluid components intent draws with
  | error raised => exact .refl
  | ok result =>
      obtain ⟨request, -, cast⟩ := (bind_ok _ _ _).mp begins
      obtain ⟨drawn, root, -⟩ := fluid_cast_ok process.engine _ _ _ result cast
      have drawn : result.castId = (draws.casts.cast 0).castId := drawn
      dsimp only
      cases attaches : process.attachParent result parentCastId branchId draws with
      | error raised => exact .refl
      | ok attached =>
          obtain ⟨child, attached⟩ := attached
          obtain ⟨moves, reported⟩ := process.attach_parent_moves result child _ _ draws attached root
            (by rw [drawn]; exact new.unstored 0) (by rw [drawn]; exact judges 0) attaches
          exact moves.trans (attached.keep_cast_moves _ child _ reported)

theorem tool_auto_cast_moves (arguments : AutoArguments) (draws : CallDraws) (new : process.DrawsNew draws)
    (judges : ∀ i, judged (draws.casts.cast i).castId process.activeThresholds) :
    DriftMoves judged process (process.toolAutoCast arguments draws).2 := by
  rw [toolAutoCast]
  cases begins : process.beginAuto arguments draws with
  | error raised => exact .refl
  | ok cast =>
      obtain ⟨final, chain⟩ := cast
      obtain ⟨request, -, went⟩ := (bind_ok _ _ _).mp begins
      obtain ⟨linked, root, ids⟩ := auto_cast_apart process.engine _ _ _ _ _ _ final chain went
      have drawn : ∀ result ∈ chain, ∃ i, (draws.casts.cast i).castId = result.castId := by
        intro result member
        have isId : result.castId ∈ chain.map CastRecord.castId := List.mem_map_of_mem member
        rw [ids] at isId
        obtain ⟨i, -, same⟩ := List.mem_map.mp isId
        exact ⟨i, same⟩
      apply process.write_results_moves draws chain 0 linked
      · rw [ids]
        exact List.nodup_range.map new.distinct
      · intro result member
        obtain ⟨i, same⟩ := drawn result member
        rw [← same]
        exact new.unstored i
      · intro result member
        obtain ⟨i, same⟩ := drawn result member
        rw [← same]
        exact judges i
      · intro result isFirst child
        rw [root result isFirst] at child
        contradiction

theorem root_cast_moves (result : CastRecord) (written : CastProcess) (root : result.lineage = none)
    (wrote : process.writeCast result = .ok written) : DriftMove judged process written :=
  .cast written result wrote (reported_root process result root)

theorem tool_geometric_cast_moves (arguments : GeometricArguments) (draws : CallDraws) :
    DriftMoves judged process (process.toolGeometricCast arguments draws).2 := by
  rw [toolGeometricCast]
  cases begins : process.beginGeometric arguments draws with
  | error raised => exact .refl
  | ok result =>
      obtain ⟨request, -, cast⟩ := (bind_ok _ _ _).mp begins
      have root := (fluid_cast_ok process.engine _ _ _ result cast).2.1
      dsimp only
      cases wrote : process.writeCast result with
      | error raised => exact .refl
      | ok written =>
          have move : DriftMove judged process written := process.root_cast_moves result written root wrote
          dsimp only
          cases channels : written.geometricChannel arguments result draws with
          | error raised => exact .single move
          | ok channelled =>
              rw [geometricChannel] at channels
              cases branch : arguments.branchId with
              | none =>
                  rw [branch] at channels
                  obtain rfl := Except.ok.inj channels
                  exact .single move
              | some branchId =>
                  rw [branch] at channels
                  obtain ⟨state, -, stored⟩ := (bind_ok _ _ _).mp channels
                  obtain rfl := written.write_channel_ok state channelled stored
                  exact .tail (.single move) (.aside _ rfl rfl rfl rfl)

theorem upsert_members_moves (members : List SwarmMember) :
    DriftMoves judged process (upsertMembers members process).2 := by
  induction members generalizing process with
  | nil => exact .refl
  | cons member rest ih =>
      rw [upsertMembers]
      cases wrote : process.upsertSwarmMember member with
      | error raised => exact .refl
      | ok written =>
          obtain ⟨_, -, joins⟩ := (bind_ok _ _ _).mp wrote
          have aside : DriftMove judged process written := Except.ok.inj joins ▸ .aside _ rfl rfl rfl rfl
          exact .head aside (ih written)

theorem begin_swarm_root (arguments : SwarmArguments) (draws : CallDraws) (cast : SwarmCast)
    (begins : process.beginSwarm arguments draws = .ok cast) : cast.result.lineage = none := by
  rw [beginSwarm] at begins
  split_ifs at begins
  obtain ⟨intent, -, begins⟩ := (bind_ok _ _ _).mp begins
  obtain ⟨state, -, begins⟩ := (bind_ok _ _ _).mp begins
  obtain ⟨result, casts, begins⟩ := (bind_ok _ _ _).mp begins
  obtain rfl := Except.ok.inj begins
  exact (fluid_cast_ok process.engine _ _ _ result casts).2.1

theorem tool_swarm_cast_moves (arguments : SwarmArguments) (draws : CallDraws) :
    DriftMoves judged process (process.toolSwarmCast arguments draws).2 := by
  rw [toolSwarmCast]
  cases begins : process.beginSwarm arguments draws with
  | error raised => exact .refl
  | ok cast =>
      have root := process.begin_swarm_root arguments draws cast begins
      have moves : DriftMoves judged process (upsertMembers (cast.members.map (streakAfter cast.status)) process).2 :=
        process.upsert_members_moves _
      dsimp only
      cases joins : upsertMembers (cast.members.map (streakAfter cast.status)) process with
      | mk outcome joined =>
          rw [joins] at moves
          cases outcome with
          | error raised => exact moves
          | ok _ =>
              dsimp only
              cases makes : SwarmState.make arguments.swarmId cast.threshold cast.status cast.aggregated
                  (some cast.result.castId) draws.now with
              | error raised => exact moves
              | ok state =>
                  have aside : DriftMove judged joined (joined.writeSwarmState state) := .aside _ rfl rfl rfl rfl
                  dsimp only
                  cases wrote : (joined.writeSwarmState state).writeCast cast.result with
                  | error raised => exact moves.tail aside
                  | ok written => exact (moves.tail aside).tail (root_cast_moves _ cast.result written root wrote)

theorem decide_cast_root (arguments : DecideArguments) (request : DecideRequest) (draws : CallDraws)
    (result : CastRecord) (requested : process.decideRequest arguments = .ok request)
    (cast : process.decideCast request draws = .ok result) (stores : process.StoresChain (draws, .decide arguments)) :
    result.lineage = none := by
  rw [decideCast] at cast
  cases aspects : request.aspects with
  | some asked =>
      cases vector : request.vector with
      | some given =>
          simp only [aspects, vector] at cast
          contradiction
      | none =>
          simp only [aspects, vector] at cast
          exact (process.engine_cast_ok asked request.intent draws.stamp result cast).1
  | none =>
      cases vector : request.vector with
      | some given =>
          simp only [aspects, vector] at cast
          exact (fluid_cast_ok process.engine _ _ _ result cast).2.1
      | none =>
          simp only [aspects, vector] at cast
          obtain ⟨⟨final, chain⟩, went, rfl⟩ := (map_ok _ _ _).mp cast
          exact auto_cast_first process.engine _ _ _ _ _ _ final chain (stores request requested aspects vector) went

theorem tool_decide_moves (arguments : DecideArguments) (draws : CallDraws)
    (stores : process.StoresChain (draws, .decide arguments)) :
    DriftMoves judged process (process.toolDecide arguments draws).2 := by
  rw [toolDecide]
  cases begins : process.beginDecide arguments draws with
  | error raised => exact .refl
  | ok decided =>
      obtain ⟨decision, result⟩ := decided
      obtain ⟨request, requested, begins⟩ := (bind_ok _ _ _).mp begins
      obtain ⟨own, cast, begins⟩ := (bind_ok _ _ _).mp begins
      obtain ⟨status, -, begins⟩ := (bind_ok _ _ _).mp begins
      obtain ⟨ruled, -, begins⟩ := (bind_ok _ _ _).mp begins
      obtain ⟨rfl, rfl⟩ := Prod.mk.inj (Except.ok.inj begins)
      have root := process.decide_cast_root arguments request draws own requested cast stores
      dsimp only
      cases wrote : process.writeCast own with
      | error raised => exact .refl
      | ok written =>
          have move : DriftMove judged process written := process.root_cast_moves own written root wrote
          dsimp only
          cases recorded : written.writePolicyDecision ruled with
          | error raised => exact .single move
          | ok after =>
              rw [writePolicyDecision] at recorded
              split_ifs at recorded
              obtain rfl := Except.ok.inj recorded
              exact .tail (.single move) (.aside _ rfl rfl rfl rfl)

theorem link_leaves_moves (result : CastRecord) (draws : CallDraws) (leafIds : List String) (place : Nat) :
    DriftMoves judged process (linkLeaves result draws leafIds place process).2 := by
  induction leafIds generalizing process place with
  | nil => exact .refl
  | cons leafId rest ih =>
      rw [linkLeaves]
      cases process.readCast leafId with
      | error raised => exact ih process (place + 1)
      | ok leaf =>
          dsimp only
          cases inferCausalEdge process.math leaf result (draws.edge place) with
          | error raised => exact .refl
          | ok inferred =>
              cases inferred with
              | none => exact ih process (place + 1)
              | some edge =>
                  have aside : DriftMove judged process (process.writeCausalEdge { edge with edgeType := .causes }) :=
                    .aside _ rfl rfl rfl rfl
                  exact .head aside (ih _ (place + 1))

theorem tool_predictive_cast_moves (rootCastId : String) (intent : Except PyError Intent) (draws : CallDraws)
    (stores : process.StoresChain (draws, .predictiveCast rootCastId intent)) :
    DriftMoves judged process (process.toolPredictiveCast rootCastId intent draws).2 := by
  rw [toolPredictiveCast]
  cases begins : process.beginPredictive rootCastId intent draws with
  | error raised => exact .refl
  | ok begun =>
      obtain ⟨graph, result⟩ := begun
      obtain ⟨given, isGiven, begins⟩ := (bind_ok _ _ _).mp begins
      obtain ⟨own, cast, begins⟩ := (bind_ok _ _ _).mp begins
      obtain ⟨rfl, rfl⟩ := Prod.mk.inj (Except.ok.inj begins)
      obtain ⟨target, chain, made, went⟩ := predictive_cast_ok process.engine _ given _ own cast
      have root := auto_cast_first process.engine _ _ _ _ _ _ own chain (stores given target isGiven made) went
      dsimp only
      cases wrote : process.writeCast own with
      | error raised => exact .refl
      | ok written =>
          have move : DriftMove judged process written := process.root_cast_moves own written root wrote
          let leafIds := leaves (causalSubgraph process { rootCastId := rootCastId })
          have linking : DriftMoves judged written (linkLeaves own draws leafIds 0 written).2 :=
            written.link_leaves_moves own draws leafIds 0
          dsimp only
          cases links : linkLeaves own draws leafIds 0 written with
          | mk outcome linked =>
              rw [links] at linking
              cases outcome with
              | error raised => exact .head move linking
              | ok _ => exact .head move linking

end CastProcess

theorem cast_step_moves (process : CastProcess) (draws : CallDraws) (call : CastCall)
    (stores : process.StoresChain (draws, call)) (new : process.DrawsNew draws)
    (judges : ∀ i, judged (draws.casts.cast i).castId process.activeThresholds) :
    DriftMoves judged process (castStep process (draws, call)) := by
  cases call with
  | cast arguments => exact process.tool_cast_moves arguments draws new judges
  | fluidCast components intent parentCastId branchId =>
      exact process.tool_fluid_cast_moves components intent parentCastId branchId draws new judges
  | autoCast arguments => exact process.tool_auto_cast_moves arguments draws new judges
  | geometricCast arguments => exact process.tool_geometric_cast_moves arguments draws
  | swarmCast arguments => exact process.tool_swarm_cast_moves arguments draws
  | decide arguments => exact process.tool_decide_moves arguments draws stores
  | predictiveCast rootCastId intent => exact process.tool_predictive_cast_moves rootCastId intent draws stores

inductive ServedCall where
  | cast (draws : CallDraws) (call : CastCall)
  | backfill (limit : Int) (clock : String → Datetime)
  | setThresholds (payload : List (String × Json))

def serve (pyFloat : Json → Except PyError ℚ) (process : CastProcess) : ServedCall → CastProcess
  | .cast draws call => castStep process (draws, call)
  | .backfill limit clock => (cmdBackfillDivergence limit clock { process }).2.process
  | .setThresholds payload => (toolSetDivergenceThresholds pyFloat payload process).2

def CastProcess.Admits (process : CastProcess) : ServedCall → Prop
  | .cast draws call => process.StoresChain (draws, call) ∧ process.DrawsNew draws
  | .backfill _ _ => True
  | .setThresholds _ => True

section Served

variable (pyFloat : Json → Except PyError ℚ)

def JudgedIn (start : CastProcess) (calls : List ServedCall) (castId : String) (thresholds : DivergenceThresholds) :
    Prop :=
  ∃ before draws call i, Taken (serve pyFloat) start calls before (.cast draws call) ∧
    castId = (draws.casts.cast i).castId ∧ before.activeThresholds = thresholds

structure KeptDrift (judged : String → DivergenceThresholds → Prop) (process : CastProcess)
    (record parent : CastRecord) (lineage : Lineage) (report : DivergenceReport) : Prop where
  stored : process.casts.find? lineage.parentCastId = some parent
  kept : process.divergenceReports.find? record.castId = some report
  apart : ApartFrom parent record
  reported : ReportOn judged process.math parent record report
  again : ∀ now, ∃ own, process.classifyPair (record.castId, lineage.parentCastId) now = .ok own ∧
    own.measures = report.measures

structure ReportsExact (judged : String → DivergenceThresholds → Prop) (process : CastProcess) : Prop where
  each : ∀ record ∈ process.casts.rows, ∀ lineage ∈ record.lineage, ∃ parent report,
    KeptDrift judged process record parent lineage report
  missing : process.missingPairs = []

theorem all_reported_missing (process : CastProcess) (kept : AllReported judged process) :
    process.missingPairs = [] := by
  refine List.eq_nil_iff_forall_not_mem.mpr fun pair member => ?_
  obtain ⟨inPairs, unreported⟩ := (process.missing_pair pair).mp member
  obtain ⟨record, inRows, isPair⟩ := List.mem_filterMap.mp inPairs
  have stored := (List.perm_insertionSort NoOlder process.casts.rows).mem_iff.mp inRows
  obtain ⟨lineage, named, rfl⟩ := Option.map_eq_some_iff.mp isPair
  obtain ⟨parent, -, report, written, -, on⟩ := kept record stored (by rw [named]; rfl)
  apply unreported
  dsimp only
  rw [← on.castId]
  exact Table.has_row process.divergenceReports report written

theorem serve_backfill_kept (process : CastProcess) (limit : Int) (clock : String → Datetime)
    (kept : AllReported judged process) : serve pyFloat process (.backfill limit clock) = process := by
  rw [serve, cmdBackfillDivergence, CastProcess.castPairsMissingDivergenceReports, all_reported_missing process kept]
  cases sqlInteger limit with
  | error raised => rfl
  | ok own => simp [bind, Except.bind, pure, Except.pure]

theorem serve_thresholds_kept (process : CastProcess) (payload : List (String × Json)) :
    ∃ stored active, serve pyFloat process (.setThresholds payload) =
      { process with storedThresholds := stored, activeThresholds := active } := by
  rw [serve, toolSetDivergenceThresholds]
  cases requestedThresholds pyFloat payload process.activeThresholds with
  | error raised => exact ⟨process.storedThresholds, process.activeThresholds, rfl⟩
  | ok thresholds => exact ⟨some thresholds, thresholds, rfl⟩

theorem judged_more (start : CastProcess) (calls : List ServedCall) (last : ServedCall) (castId : String)
    (thresholds : DivergenceThresholds) (own : JudgedIn pyFloat start calls castId thresholds) :
    JudgedIn pyFloat start (calls ++ [last]) castId thresholds := by
  obtain ⟨before, draws, call, i, taken, drawn, active⟩ := own
  exact ⟨before, draws, call, i, (taken_concat start calls last before _).mpr (Or.inl taken), drawn, active⟩

theorem served_reported (start : CastProcess) (empty : start.casts.rows = []) (calls : List ServedCall)
    (admitted : ∀ before call, Taken (serve pyFloat) start calls before call → before.Admits call) :
    AllReported (JudgedIn pyFloat start calls) (run (serve pyFloat) start calls) ∧
      LineageKept (run (serve pyFloat) start calls) := by
  induction calls using List.reverseRecOn with
  | nil =>
      have noneStored : ∀ record, record ∉ (run (serve pyFloat) start []).casts.rows := by
        intro record
        rw [run_nil, empty]
        exact List.not_mem_nil
      refine ⟨?_, ?_, ?_⟩
      · exact fun record stored => absurd stored (noneStored record)
      · exact fun record stored => absurd stored (noneStored record)
      · exact fun record stored => absurd stored (noneStored record)
  | append_singleton calls last ih =>
      obtain ⟨reported, lineage⟩ := ih fun before call taken =>
        admitted before call ((taken_concat start calls last before call).mpr (Or.inl taken))
      have still : AllReported (JudgedIn pyFloat start (calls ++ [last]))
          (run (serve pyFloat) start calls) :=
        reported_judged _ _ (judged_more pyFloat start calls last) reported
      have taken : Taken (serve pyFloat) start (calls ++ [last]) (run (serve pyFloat) start calls) last :=
        (taken_concat start calls last _ last).mpr (Or.inr ⟨rfl, rfl⟩)
      rw [run_concat]
      cases last with
      | cast draws call =>
          obtain ⟨stores, new⟩ := admitted _ _ taken
          refine ⟨drift_moves_keep _ _ (cast_step_moves _ draws call stores new ?_) still, ?_⟩
          · exact fun i => ⟨_, draws, call, i, taken, rfl, rfl⟩
          · exact (cast_step_keeps _ (draws, call) stores).2 lineage
      | backfill limit clock =>
          rw [serve_backfill_kept pyFloat _ limit clock still]
          exact ⟨still, lineage⟩
      | setThresholds payload =>
          obtain ⟨stored, active, same⟩ := serve_thresholds_kept pyFloat (run (serve pyFloat) start calls) payload
          rw [same]
          exact ⟨fun record member => reported_same _ _ record rfl rfl rfl (still record member),
            lineage.grounded, lineage.known⟩

theorem classify_again (process : CastProcess) (kept : LineageKept process) (record parent : CastRecord)
    (stored : record ∈ process.casts.rows) (above : parent ∈ process.casts.rows) (now : Datetime) :
    ∃ own, process.classifyPair (record.castId, parent.castId) now = .ok own ∧ own.measures =
      divergenceMeasures process.math parent.sigil.semanticVector record.sigil.semanticVector := by
  obtain ⟨child, readsChild, -⟩ := process.read_cast_known record stored (kept.known record stored)
  obtain ⟨read, readsParent, -⟩ := process.read_cast_known parent above (kept.known parent above)
  obtain ⟨row, isRow, isKey, -, vector⟩ := process.read_cast_vector record.castId child readsChild
  obtain ⟨other, isOther, isParent, -, parentVector⟩ := process.read_cast_vector parent.castId read readsParent
  obtain rfl := process.casts.row_unique row record isRow stored isKey
  obtain rfl := process.casts.row_unique other parent isOther above isParent
  obtain ⟨own, classified, measures, -⟩ := classify_measures process.math child.castId read.castId
    read.sigil.semanticVector child.sigil.semanticVector process.divergenceThresholds now
  refine ⟨own, ?_, ?_⟩
  · rw [CastProcess.classifyPair]
    simp only [readsChild, readsParent, bind, Except.bind]
    exact classified
  · rw [measures, divergenceMeasures, divergenceMeasures, vector, parentVector]

theorem reports_exact (start : CastProcess) (empty : start.casts.rows = []) (calls : List ServedCall)
    (admitted : ∀ before call, Taken (serve pyFloat) start calls before call → before.Admits call) :
    ReportsExact (JudgedIn pyFloat start calls) (run (serve pyFloat) start calls) := by
  obtain ⟨reported, kept⟩ := served_reported pyFloat start empty calls admitted
  refine ⟨?_, all_reported_missing _ reported⟩
  intro record stored lineage named
  obtain ⟨parent, above, report, written, apart, on⟩ := reported record stored (by rw [named]; rfl)
  have isParent := (apart lineage named).1
  refine ⟨parent, report, ?_, ?_, apart, on, ?_⟩
  · rw [isParent]
    exact Table.find_row _ parent above
  · rw [← on.castId]
    exact Table.find_row _ report written
  · intro now
    obtain ⟨own, classified, measures⟩ := classify_again _ kept record parent stored above now
    rw [← isParent] at classified
    exact ⟨own, classified, measures.trans on.measures.symm⟩

end Served

def repeatedDraws (name : String) : CallDraws :=
  { drawsNamed name with
    casts :=
      { cast := fun i => { castId := name ++ String.ofList (List.replicate i 'x'), timestamp := sampleTime }
        branchId := name } }

theorem repeated_distinct (name : String) : Function.Injective fun i => ((repeatedDraws name).casts.cast i).castId := by
  intro i j same
  have lengths := congrArg String.length same
  simpa [repeatedDraws] using lengths

def parentAndChild : List ServedCall :=
  [.cast (repeatedDraws "A") (.cast { aspects := ["VOID"], intent := .ok cautious }),
    .setThresholds [("l2_stable_max", .float (1 / 10))],
    .cast (repeatedDraws "B") (.cast { aspects := ["VOID"], intent := .ok cautious, parentCastId := some "A" }),
    .backfill 500 fun _ => sampleTime, .backfill (-1) fun _ => sampleTime]

theorem parent_and_child_admitted : Along (serve plainCodec.pyFloat) (fun before call => before.Admits call)
    voidProcess parentAndChild := by
  refine ⟨⟨trivial, ?_, repeated_distinct "A"⟩, trivial, ⟨trivial, ?_, repeated_distinct "B"⟩, trivial, trivial,
    trivial⟩
  · exact fun i => List.not_mem_nil
  · intro i has
    have stored : (run (serve plainCodec.pyFloat) voidProcess (parentAndChild.take 2)).casts.rows.map
        CastRecord.castId = ["A"] := by decide +kernel
    have member : ((repeatedDraws "B").casts.cast i).castId ∈ (run (serve plainCodec.pyFloat) voidProcess
        (parentAndChild.take 2)).casts.rows.map CastRecord.castId := has
    rw [stored] at member
    have same := List.mem_singleton.mp member
    have first := congrArg (fun castId => castId.toList.head?) same
    simp [repeatedDraws] at first

theorem parent_and_child_exact :
    (run (serve plainCodec.pyFloat) voidProcess parentAndChild).divergenceReports.Has "B" ∧
      ReportsExact (JudgedIn plainCodec.pyFloat voidProcess parentAndChild)
        (run (serve plainCodec.pyFloat) voidProcess parentAndChild) :=
  ⟨by decide +kernel, reports_exact plainCodec.pyFloat voidProcess rfl parentAndChild
    (along_taken (fun before call => before.Admits call) voidProcess parentAndChild parent_and_child_admitted)⟩

end Vermyth
