import Vermyth.Casting.CastRoundTrip
import Vermyth.Casting.GenesisProposals
import Vermyth.Casting.Lineage
import Vermyth.Engine.DivergenceLaws
import Vermyth.Foundation.Batches
import Vermyth.Foundation.Latest

set_option autoImplicit false

namespace Vermyth

open Foundation

def DivergenceThresholds.make (thresholds : DivergenceThresholds) : Except PyError DivergenceThresholds :=
  if thresholds.l2StableMax < 0 then .error (invalid "DivergenceThresholds" "l2_stable_max")
  else if thresholds.l2DivergedMin < 0 then .error (invalid "DivergenceThresholds" "l2_diverged_min")
  else if ¬ (0 ≤ thresholds.cosineStableMax ∧ thresholds.cosineStableMax ≤ 2) then
    .error (invalid "DivergenceThresholds" "cosine_stable_max")
  else if ¬ (0 ≤ thresholds.cosineDivergedMin ∧ thresholds.cosineDivergedMin ≤ 2) then
    .error (invalid "DivergenceThresholds" "cosine_diverged_min")
  else if ¬ thresholds.l2StableMax < thresholds.l2DivergedMin then
    .error (.valueError "l2_stable_max must be less than l2_diverged_min")
  else if ¬ thresholds.cosineStableMax < thresholds.cosineDivergedMin then
    .error (.valueError "cosine_stable_max must be less than cosine_diverged_min")
  else .ok thresholds

namespace CastProcess

variable (process : CastProcess)

-- ORDER BY timestamp DESC
def lineagePairs : List (String × String) :=
  (process.casts.rows.insertionSort NoOlder).filterMap fun row =>
    row.lineage.map fun lineage => (row.castId, lineage.parentCastId)

def missingPairs : List (String × String) :=
  process.lineagePairs.filter fun pair => ¬ process.divergenceReports.Has pair.1

-- LIMIT <limit>, where a negative limit is none.
def castPairsMissingDivergenceReports (limit : Int) : Except PyError (List (String × String)) := do
  let limit ← sqlInteger limit
  return if limit < 0 then process.missingPairs else process.missingPairs.take limit.toNat

def classifyPair (pair : String × String) (now : Datetime) : Except PyError DivergenceReport := do
  let child ← process.readCast pair.1
  let parent ← process.readCast pair.2
  classify process.math child.castId parent.castId parent.sigil.semanticVector child.sigil.semanticVector
    process.divergenceThresholds now

-- The pair can be classified: both of its casts can be read.
def Readable (pair : String × String) : Bool := (process.readCast pair.1).isOk && (process.readCast pair.2).isOk

end CastProcess

structure DriftDesk where
  process : CastProcess
  cache : Table DivergenceReport.castId := Table.empty

-- The clock gives each report its time. A pair that raises is passed over.
def backfillPair (clock : String → Datetime) (desk : DriftDesk × Nat) (pair : String × String) : DriftDesk × Nat :=
  match desk.1.process.classifyPair pair (clock pair.1) with
  | .error _ => desk
  | .ok row =>
      ({ process := desk.1.process.writeDivergenceReport row, cache := desk.1.cache.upsert row }, desk.2 + 1)

def cmdBackfillDivergence (limit : Int) (clock : String → Datetime) (desk : DriftDesk) :
    Except PyError Nat × DriftDesk :=
  match desk.process.castPairsMissingDivergenceReports limit with
  | .error raised => (.error raised, desk)
  | .ok pairs =>
      let (desk, processed) := pairs.foldl (backfillPair clock) (desk, 0)
      (.ok processed, desk)

def requestedThresholds (pyFloat : Json → Except PyError ℚ) (payload : List (String × Json))
    (active : DivergenceThresholds) : Except PyError DivergenceThresholds := do
  let l2StableMax ← pyFloat ((payload.lookup "l2_stable_max").getD (.float active.l2StableMax))
  let l2DivergedMin ← pyFloat ((payload.lookup "l2_diverged_min").getD (.float active.l2DivergedMin))
  let cosineStableMax ← pyFloat ((payload.lookup "cosine_stable_max").getD (.float active.cosineStableMax))
  let cosineDivergedMin ← pyFloat ((payload.lookup "cosine_diverged_min").getD (.float active.cosineDivergedMin))
  DivergenceThresholds.make { l2StableMax, l2DivergedMin, cosineStableMax, cosineDivergedMin }

def toolSetDivergenceThresholds (pyFloat : Json → Except PyError ℚ) (payload : List (String × Json))
    (process : CastProcess) : Except PyError Unit × CastProcess :=
  match requestedThresholds pyFloat payload process.activeThresholds with
  | .error raised => (.error raised, process)
  | .ok thresholds => (.ok (), { process with storedThresholds := some thresholds, activeThresholds := thresholds })

inductive DriftCall where
  | backfill (clock : String → Datetime)
  | setThresholds (payload : List (String × Json))

def DriftCall.isBackfill : DriftCall → Bool
  | .backfill _ => true
  | .setThresholds _ => false

def DriftDesk.take (pyFloat : Json → Except PyError ℚ) (limit : Int) (desk : DriftDesk) : DriftCall → DriftDesk
  | .backfill clock => (cmdBackfillDivergence limit clock desk).2
  | .setThresholds payload => { desk with process := (toolSetDivergenceThresholds pyFloat payload desk.process).2 }

-- What a process that has read its store knows of it.
structure DriftDesk.Synced (desk : DriftDesk) : Prop where
  thresholds : desk.process.activeThresholds = desk.process.divergenceThresholds
  cached : ∀ report ∈ desk.cache.rows, report ∈ desk.process.divergenceReports.rows

-- The number of older casts that wait does not matter, only that of the newer
-- ones that can never be classified.
structure Backfilled (pyFloat : Json → Except PyError ℚ) (limit : Int) (calls : List DriftCall)
    (before after : DriftDesk) : Prop where
  casts : after.process.casts = before.process.casts
  kept : ∀ report ∈ before.process.divergenceReports.rows, report ∈ after.process.divergenceReports.rows
  classified : ∀ report ∈ after.process.divergenceReports.rows, report ∉ before.process.divergenceReports.rows →
    ∃ pre clock pair, pre ++ [.backfill clock] <+: calls ∧ pair ∈ before.process.missingPairs ∧
      (run (DriftDesk.take pyFloat limit) before pre).process.classifyPair pair (clock pair.1) = .ok report
  covered : before.process.missingPairs.length ≤ calls.countP DriftCall.isBackfill →
    ∀ pre pair post, before.process.missingPairs = pre ++ pair :: post →
      (after.process.divergenceReports.Has pair.1 ↔ before.process.Readable pair = true ∧
        (limit < 0 ∨ stuck before.process.Readable pre < limit))
  synced : after.Synced

namespace CastProcess

variable (process : CastProcess)

theorem lineage_pairs_distinct : (process.lineagePairs.map Prod.fst).Nodup := by
  have ids : ∀ rows : List CastRecord, (rows.map CastRecord.castId).Nodup →
      ((rows.filterMap fun row => row.lineage.map fun lineage => (row.castId, lineage.parentCastId)).map
        Prod.fst).Nodup := by
    intro rows distinct
    refine distinct.sublist ?_
    clear distinct
    induction rows with
    | nil => exact List.Sublist.refl _
    | cons row rest ih =>
        cases has : row.lineage with
        | none =>
            rw [List.filterMap_cons_none (by rw [has]; rfl), List.map_cons]
            exact ih.cons row.castId
        | some lineage =>
            rw [List.filterMap_cons_some (by rw [has]; rfl), List.map_cons, List.map_cons]
            exact ih.cons_cons row.castId
  refine ids _ ?_
  exact (((List.perm_insertionSort NoOlder process.casts.rows).map CastRecord.castId).nodup_iff).mpr
    process.casts.distinct

theorem missing_pairs_distinct : (process.missingPairs.map Prod.fst).Nodup :=
  process.lineage_pairs_distinct.sublist (List.filter_sublist.map _)

theorem missing_pair (pair : String × String) : pair ∈ process.missingPairs ↔
    pair ∈ process.lineagePairs ∧ ¬ process.divergenceReports.Has pair.1 := by
  rw [missingPairs, List.mem_filter, decide_eq_true_iff]

theorem classify_pair_ok (pair : String × String) (now : Datetime) :
    (∃ report, process.classifyPair pair now = .ok report) ↔ process.Readable pair = true := by
  rw [classifyPair, Readable, Bool.and_eq_true_iff]
  cases readsChild : process.readCast pair.1 with
  | error raised => exact iff_of_false (by rintro ⟨_, same⟩; cases same) (by simp [Except.isOk, Except.toBool])
  | ok child =>
      cases readsParent : process.readCast pair.2 with
      | error raised => exact iff_of_false (by rintro ⟨_, same⟩; cases same) (by simp [Except.isOk, Except.toBool])
      | ok parent =>
          obtain ⟨report, classified, -⟩ := classify_measures process.math child.castId parent.castId
            parent.sigil.semanticVector child.sigil.semanticVector process.divergenceThresholds now
          exact iff_of_true ⟨report, classified⟩ ⟨rfl, rfl⟩

theorem classify_pair_id (pair : String × String) (now : Datetime) (report : DivergenceReport)
    (classified : process.classifyPair pair now = .ok report) : report.castId = pair.1 := by
  obtain ⟨child, readsChild, rest⟩ := (bind_ok _ _ _).mp classified
  obtain ⟨parent, -, made⟩ := (bind_ok _ _ _).mp rest
  obtain ⟨_, -, -, isChild, -⟩ := process.read_cast_ok pair.1 child readsChild
  obtain ⟨_, -, made⟩ := (bind_ok _ _ _).mp made
  obtain rfl := Except.ok.inj made
  exact isChild

end CastProcess

def roundReports (process : CastProcess) (clock : String → Datetime) (pairs : List (String × String)) :
    List DivergenceReport :=
  pairs.filterMap fun pair => (process.classifyPair pair (clock pair.1)).toOption

section Round

variable (process : CastProcess) (clock : String → Datetime)

theorem mem_round_reports (pairs : List (String × String)) (report : DivergenceReport) :
    report ∈ roundReports process clock pairs ↔
      ∃ pair ∈ pairs, process.classifyPair pair (clock pair.1) = .ok report := by
  rw [roundReports, List.mem_filterMap]
  refine exists_congr fun pair => and_congr_right fun _ => ?_
  cases process.classifyPair pair (clock pair.1) <;> simp [Except.toOption]

theorem round_report_ids (pairs : List (String × String)) (castId : String) :
    castId ∈ (roundReports process clock pairs).map DivergenceReport.castId ↔
      ∃ pair ∈ pairs, pair.1 = castId ∧ process.Readable pair = true := by
  rw [List.mem_map]
  constructor
  · rintro ⟨report, member, rfl⟩
    obtain ⟨pair, isPair, classified⟩ := (mem_round_reports process clock pairs report).mp member
    exact ⟨pair, isPair, (process.classify_pair_id pair _ report classified).symm,
      (process.classify_pair_ok pair _).mp ⟨report, classified⟩⟩
  · rintro ⟨pair, isPair, rfl, readable⟩
    obtain ⟨report, classified⟩ := (process.classify_pair_ok pair (clock pair.1)).mpr readable
    exact ⟨report, (mem_round_reports process clock pairs report).mpr ⟨pair, isPair, classified⟩,
      process.classify_pair_id pair _ report classified⟩

theorem backfill_pairs (pairs : List (String × String)) (reports cache : Table DivergenceReport.castId) (count : Nat) :
    pairs.foldl (backfillPair clock) ({ process := { process with divergenceReports := reports }, cache }, count) =
      ({ process := { process with divergenceReports := (roundReports process clock pairs).foldl Table.put reports },
         cache := (roundReports process clock pairs).foldl Table.upsert cache },
        count + (roundReports process clock pairs).length) := by
  induction pairs generalizing reports cache count with
  | nil => rfl
  | cons pair rest ih =>
      have same : CastProcess.classifyPair { process with divergenceReports := reports } pair (clock pair.1) =
          process.classifyPair pair (clock pair.1) := rfl
      cases classified : process.classifyPair pair (clock pair.1) with
      | error raised =>
          have skipped : roundReports process clock (pair :: rest) = roundReports process clock rest :=
            List.filterMap_cons_none (by rw [classified]; rfl)
          rw [skipped, ← ih reports cache count, List.foldl_cons]
          congr 1
          rw [backfillPair]
          simp only [same, classified]
      | ok report =>
          have written : roundReports process clock (pair :: rest) = report :: roundReports process clock rest :=
            List.filterMap_cons_some (by rw [classified]; rfl)
          rw [written, List.foldl_cons, List.foldl_cons, List.foldl_cons, List.length_cons,
            Nat.add_comm (roundReports process clock rest).length 1, ← Nat.add_assoc, ← ih]
          congr 1
          rw [backfillPair]
          simp only [same, classified]
          rfl

end Round

theorem missing_limited (process : CastProcess) (limit : Int)
    (fits : -9223372036854775808 ≤ limit ∧ limit ≤ 9223372036854775807) :
    process.castPairsMissingDivergenceReports limit =
      .ok (process.missingPairs.take (rowLimit limit process.lineagePairs.length)) := by
  have within : sqlInteger limit = .ok limit := if_pos fits
  rw [CastProcess.castPairsMissingDivergenceReports, within, rowLimit]
  by_cases negative : limit < 0
  · have whole : process.missingPairs.take process.lineagePairs.length = process.missingPairs :=
      List.take_of_length_le (List.length_filter_le _ _)
    rw [if_pos negative, whole]
    exact congrArg Except.ok (if_pos negative)
  · rw [if_neg negative]
    exact congrArg Except.ok (if_neg negative)

def afterRound (desk : DriftDesk) (limit : Int) (clock : String → Datetime) : DriftDesk :=
  let reports := roundReports desk.process clock
    (desk.process.missingPairs.take (rowLimit limit desk.process.lineagePairs.length))
  { process := { desk.process with divergenceReports := reports.foldl Table.put desk.process.divergenceReports }
    cache := reports.foldl Table.upsert desk.cache }

section Rounds

variable (pyFloat : Json → Except PyError ℚ) {limit : Int}
  (fits : -9223372036854775808 ≤ limit ∧ limit ≤ 9223372036854775807)

theorem round_rows (desk : DriftDesk) (clock : String → Datetime) :
    (afterRound desk limit clock).process.divergenceReports.rows = desk.process.divergenceReports.rows ++
      roundReports desk.process clock
        (desk.process.missingPairs.take (rowLimit limit desk.process.lineagePairs.length)) := by
  have taken := List.take_sublist (rowLimit limit desk.process.lineagePairs.length) desk.process.missingPairs
  refine Table.puts_fresh _ desk.process.divergenceReports ?_ ?_
  · refine (desk.process.missing_pairs_distinct.sublist (taken.map Prod.fst)).sublist ?_
    generalize desk.process.missingPairs.take (rowLimit limit desk.process.lineagePairs.length) = pairs
    induction pairs with
    | nil => exact List.Sublist.refl _
    | cons pair rest ih =>
        cases classified : desk.process.classifyPair pair (clock pair.1) with
        | error raised =>
            rw [roundReports, List.filterMap_cons_none (by rw [classified]; rfl), List.map_cons]
            exact ih.cons pair.1
        | ok report =>
            rw [roundReports, List.filterMap_cons_some (by rw [classified]; rfl), List.map_cons, List.map_cons,
              desk.process.classify_pair_id pair _ report classified]
            exact ih.cons_cons pair.1
  · intro report member has
    obtain ⟨pair, isPair, classified⟩ := (mem_round_reports desk.process clock _ report).mp member
    rw [desk.process.classify_pair_id pair _ report classified] at has
    exact ((desk.process.missing_pair pair).mp (taken.subset isPair)).2 has

theorem round_has (desk : DriftDesk) (clock : String → Datetime) (castId : String) :
    (afterRound desk limit clock).process.divergenceReports.Has castId ↔ desk.process.divergenceReports.Has castId ∨
      ∃ pair ∈ desk.process.missingPairs.take (rowLimit limit desk.process.lineagePairs.length),
        pair.1 = castId ∧ desk.process.Readable pair = true := by
  rw [Table.Has, round_rows, List.map_append, List.mem_append, round_report_ids]
  rfl

theorem round_missing (desk : DriftDesk) (clock : String → Datetime) :
    (afterRound desk limit clock).process.missingPairs =
      batch desk.process.Readable (rowLimit limit desk.process.lineagePairs.length) desk.process.missingPairs := by
  generalize sized : rowLimit limit desk.process.lineagePairs.length = size
  have distinct := desk.process.missing_pairs_distinct
  have left : (afterRound desk limit clock).process.missingPairs =
      desk.process.missingPairs.filter fun pair =>
        ¬ (pair ∈ desk.process.missingPairs.take size ∧ desk.process.Readable pair = true) := by
    have later : (afterRound desk limit clock).process.missingPairs = desk.process.lineagePairs.filter fun pair =>
        ¬ (afterRound desk limit clock).process.divergenceReports.Has pair.1 := rfl
    rw [later, CastProcess.missingPairs, List.filter_filter, ← CastProcess.missingPairs]
    refine List.filter_congr fun pair inPairs => ?_
    rw [Bool.eq_iff_iff, Bool.and_eq_true_iff, decide_eq_true_iff, decide_eq_true_iff, decide_eq_true_iff, round_has,
      sized, not_or, and_comm]
    refine and_congr_left fun unreported => not_congr ?_
    constructor
    · rintro ⟨other, isOther, same, readable⟩
      have isMissing := (desk.process.missing_pair pair).mpr ⟨inPairs, unreported⟩
      have otherMissing := List.mem_of_mem_take isOther
      obtain rfl := List.inj_on_of_nodup_map distinct otherMissing isMissing same
      exact ⟨isOther, readable⟩
    · rintro ⟨taken, readable⟩
      exact ⟨pair, taken, rfl, readable⟩
  rw [left, batch]
  generalize desk.process.missingPairs = missing at distinct ⊢
  have whole := distinct.of_map
  conv_lhs => rw [← List.take_append_drop size missing]
  rw [← List.take_append_drop size missing] at whole
  rw [List.filter_append]
  congr 1
  · refine List.filter_congr fun pair member => ?_
    rw [List.take_append_drop, Bool.eq_iff_iff, decide_eq_true_iff, Bool.not_eq_true']
    simp [member]
  · refine List.filter_eq_self.mpr fun pair member => decide_eq_true ?_
    rw [List.take_append_drop]
    exact fun both => (List.nodup_append.mp whole).2.2 pair both.1 pair member rfl

theorem set_thresholds_missing (desk : DriftDesk) (payload : List (String × Json)) :
    (desk.take pyFloat limit (.setThresholds payload)).process.missingPairs = desk.process.missingPairs ∧
      (desk.take pyFloat limit (.setThresholds payload)).process.divergenceReports =
        desk.process.divergenceReports := by
  rw [DriftDesk.take, toolSetDivergenceThresholds]
  cases requestedThresholds pyFloat payload desk.process.activeThresholds with
  | error raised => exact ⟨rfl, rfl⟩
  | ok thresholds => exact ⟨rfl, rfl⟩

include fits

theorem take_backfill (desk : DriftDesk) (clock : String → Datetime) :
    desk.take pyFloat limit (.backfill clock) = afterRound desk limit clock := by
  rw [DriftDesk.take, cmdBackfillDivergence, missing_limited desk.process limit fits]
  exact congrArg Prod.fst (backfill_pairs desk.process clock _ desk.process.divergenceReports desk.cache 0)

theorem take_frame (desk : DriftDesk) (call : DriftCall) : ∃ reports stored active,
    (desk.take pyFloat limit call).process =
      { desk.process with divergenceReports := reports, storedThresholds := stored, activeThresholds := active } := by
  cases call with
  | backfill clock =>
      rw [take_backfill pyFloat fits]
      exact ⟨_, desk.process.storedThresholds, desk.process.activeThresholds, rfl⟩
  | setThresholds payload =>
      rw [DriftDesk.take, toolSetDivergenceThresholds]
      cases requestedThresholds pyFloat payload desk.process.activeThresholds with
      | error raised =>
          exact ⟨desk.process.divergenceReports, desk.process.storedThresholds, desk.process.activeThresholds, rfl⟩
      | ok thresholds => exact ⟨desk.process.divergenceReports, some thresholds, thresholds, rfl⟩

theorem run_frame (desk : DriftDesk) (calls : List DriftCall) : ∃ reports stored active,
    (run (DriftDesk.take pyFloat limit) desk calls).process =
      { desk.process with divergenceReports := reports, storedThresholds := stored, activeThresholds := active } := by
  induction calls using List.reverseRecOn with
  | nil => exact ⟨desk.process.divergenceReports, desk.process.storedThresholds, desk.process.activeThresholds, rfl⟩
  | append_singleton calls last ih =>
      obtain ⟨_, _, _, earlier⟩ := ih
      obtain ⟨reports, stored, active, later⟩ :=
        take_frame pyFloat fits (run (DriftDesk.take pyFloat limit) desk calls) last
      rw [run_concat, later, earlier]
      exact ⟨reports, stored, active, rfl⟩

theorem run_reads (desk : DriftDesk) (calls : List DriftCall) :
    (run (DriftDesk.take pyFloat limit) desk calls).process.lineagePairs = desk.process.lineagePairs ∧
      (run (DriftDesk.take pyFloat limit) desk calls).process.Readable = desk.process.Readable := by
  obtain ⟨_, _, _, same⟩ := run_frame pyFloat fits desk calls
  rw [same]
  exact ⟨rfl, rfl⟩

theorem run_missing (desk : DriftDesk) (calls : List DriftCall) :
    (run (DriftDesk.take pyFloat limit) desk calls).process.missingPairs =
      (batch desk.process.Readable (rowLimit limit desk.process.lineagePairs.length))^[
        calls.countP DriftCall.isBackfill] desk.process.missingPairs := by
  induction calls using List.reverseRecOn with
  | nil => rfl
  | append_singleton calls last ih =>
      obtain ⟨pairs, readable⟩ := run_reads pyFloat fits desk calls
      rw [run_concat, List.countP_append, List.countP_singleton]
      cases last with
      | backfill clock =>
          have counted : (DriftCall.backfill clock).isBackfill = true := rfl
          rw [take_backfill pyFloat fits, round_missing, pairs, readable, ih, if_pos counted,
            Function.iterate_succ_apply']
      | setThresholds payload =>
          have uncounted : ¬ (DriftCall.setThresholds payload).isBackfill = true := fun same => by contradiction
          rw [(set_thresholds_missing pyFloat _ payload).1, ih, if_neg uncounted]
          rfl

theorem run_kept (desk : DriftDesk) (calls : List DriftCall) :
    ∀ report ∈ desk.process.divergenceReports.rows,
      report ∈ (run (DriftDesk.take pyFloat limit) desk calls).process.divergenceReports.rows := by
  intro report member
  refine run_invariant (fun reached : DriftDesk => report ∈ reached.process.divergenceReports.rows) desk calls member ?_
  intro before call _ held
  cases call with
  | backfill clock =>
      rw [take_backfill pyFloat fits, round_rows]
      exact List.mem_append_left _ held
  | setThresholds payload =>
      rw [(set_thresholds_missing pyFloat before payload).2]
      exact held

theorem run_classified (desk : DriftDesk) (calls : List DriftCall) (report : DivergenceReport)
    (member : report ∈ (run (DriftDesk.take pyFloat limit) desk calls).process.divergenceReports.rows)
    (fresh : report ∉ desk.process.divergenceReports.rows) :
    ∃ pre clock pair, pre ++ [.backfill clock] <+: calls ∧ pair ∈ desk.process.missingPairs ∧
      (run (DriftDesk.take pyFloat limit) desk pre).process.classifyPair pair (clock pair.1) = .ok report := by
  induction calls using List.reverseRecOn with
  | nil => exact absurd member fresh
  | append_singleton calls last ih =>
      have earlier : report ∈ (run (DriftDesk.take pyFloat limit) desk calls).process.divergenceReports.rows →
          ∃ pre clock pair, pre ++ [.backfill clock] <+: calls ++ [last] ∧ pair ∈ desk.process.missingPairs ∧
            (run (DriftDesk.take pyFloat limit) desk pre).process.classifyPair pair (clock pair.1) = .ok report := by
        intro held
        obtain ⟨pre, clock, pair, front, isMissing, classified⟩ := ih held
        exact ⟨pre, clock, pair, front.trans (List.prefix_append calls [last]), isMissing, classified⟩
      rw [run_concat] at member
      cases last with
      | setThresholds payload =>
          rw [(set_thresholds_missing pyFloat _ payload).2] at member
          exact earlier member
      | backfill clock =>
          rw [take_backfill pyFloat fits, round_rows] at member
          obtain held | written := List.mem_append.mp member
          · exact earlier held
          · obtain ⟨pair, isPair, classified⟩ := (mem_round_reports _ clock _ report).mp written
            refine ⟨calls, clock, pair, List.prefix_refl _, ?_, classified⟩
            have waiting := List.mem_of_mem_take isPair
            rw [run_missing pyFloat fits] at waiting
            exact (batches_sublist _ _).subset waiting

theorem take_synced (desk : DriftDesk) (call : DriftCall) (synced : desk.Synced) :
    (desk.take pyFloat limit call).Synced := by
  cases call with
  | backfill clock =>
      rw [take_backfill pyFloat fits]
      refine ⟨synced.thresholds, ?_⟩
      intro report member
      rw [round_rows, List.mem_append]
      exact (Table.mem_upserts _ desk.cache report member).imp_left (synced.cached report)
  | setThresholds payload =>
      rw [DriftDesk.take, toolSetDivergenceThresholds]
      cases requestedThresholds pyFloat payload desk.process.activeThresholds with
      | error raised => exact synced
      | ok thresholds => exact ⟨rfl, synced.cached⟩

end Rounds

theorem row_limit_room (limit : Int) (total blocked : Nat) (below : blocked < total) :
    ¬ rowLimit limit total ≤ blocked ↔ limit < 0 ∨ blocked < limit := by
  rw [rowLimit]
  by_cases negative : limit < 0
  · rw [if_pos negative]
    exact iff_of_true (Nat.not_le.mpr below) (Or.inl negative)
  · rw [if_neg negative]
    omega

theorem backfill_covers (pyFloat : Json → Except PyError ℚ) (limit : Int)
    (fits : -9223372036854775808 ≤ limit ∧ limit ≤ 9223372036854775807) (desk : DriftDesk) (synced : desk.Synced)
    (calls : List DriftCall) :
    Backfilled pyFloat limit calls desk (run (DriftDesk.take pyFloat limit) desk calls) := by
  refine ⟨?_, run_kept pyFloat fits desk calls, run_classified pyFloat fits desk calls, ?_, ?_⟩
  · obtain ⟨_, _, _, same⟩ := run_frame pyFloat fits desk calls
    rw [same]
  · intro enough pre pair post split
    have missing := run_missing pyFloat fits desk calls
    rw [split] at missing enough
    have distinct := desk.process.missing_pairs_distinct.of_map
    rw [split] at distinct
    have left := @batches_left _ desk.process.Readable
      (rowLimit limit desk.process.lineagePairs.length) _ pre post pair distinct enough
    rw [← missing, CastProcess.missing_pair, (run_reads pyFloat fits desk calls).1] at left
    have isMissing : pair ∈ desk.process.missingPairs := split ▸ List.mem_append_right _ List.mem_cons_self
    have waiting := (desk.process.missing_pair pair).mp isMissing
    have shorter : stuck desk.process.Readable pre < desk.process.lineagePairs.length := by
      have some : desk.process.missingPairs.length ≤ desk.process.lineagePairs.length := List.length_filter_le _ _
      have few : stuck desk.process.Readable pre ≤ pre.length := stuck_le pre
      rw [split, List.length_append, List.length_cons] at some
      omega
    rw [← row_limit_room limit _ _ shorter, ← not_iff_not, not_and_or, not_not, Bool.not_eq_true, ← left]
    exact (and_iff_right waiting.1).symm
  · refine run_invariant DriftDesk.Synced desk calls synced fun before call _ held => ?_
    exact take_synced pyFloat fits before call held

def childOf (castId parentCastId : String) (timestamp : Datetime) : CastRecord :=
  { revealed with
    castId := castId
    timestamp := timestamp
    lineage := some { parentCastId := parentCastId, depth := 1, branchId := "B", divergenceVector := none
                      depthPos := first_depth } }

def orphanRows : List CastRecord :=
  [revealed, childOf "child" "cast" sampleTime, childOf "orphan" "gone" (.newYear 2027 (Eq.refl true))]

theorem orphan_rows_distinct : (orphanRows.map CastRecord.castId).Nodup := by decide

def orphanDesk : DriftDesk where
  process := { newProcess {} with casts := { rows := orphanRows, distinct := orphan_rows_distinct } }

theorem orphan_synced : orphanDesk.Synced := ⟨rfl, fun _ member => absurd member List.not_mem_nil⟩

theorem orphan_missing : orphanDesk.process.missingPairs = [("orphan", "gone"), ("child", "cast")] := by
  decide +kernel

def twoRounds : List DriftCall := [.backfill fun _ => sampleTime, .backfill fun _ => sampleTime]

theorem orphan_in_the_way :
    ¬ (run (DriftDesk.take plainCodec.pyFloat 1) orphanDesk twoRounds).process.divergenceReports.Has "child" ∧
      (run (DriftDesk.take plainCodec.pyFloat 2) orphanDesk twoRounds).process.divergenceReports.Has "child" := by
  have enough : orphanDesk.process.missingPairs.length ≤ twoRounds.countP DriftCall.isBackfill := by
    rw [orphan_missing]
    decide
  have blocked : stuck orphanDesk.process.Readable [("orphan", "gone")] = 1 := by decide +kernel
  have readable : orphanDesk.process.Readable ("child", "cast") = true := by decide +kernel
  have one := (backfill_covers plainCodec.pyFloat 1 (by decide) orphanDesk orphan_synced twoRounds).covered enough
    [("orphan", "gone")] ("child", "cast") [] orphan_missing
  have two := (backfill_covers plainCodec.pyFloat 2 (by decide) orphanDesk orphan_synced twoRounds).covered enough
    [("orphan", "gone")] ("child", "cast") [] orphan_missing
  rw [blocked] at one two
  exact ⟨fun has => absurd (one.mp has).2 (by decide), two.mpr ⟨readable, Or.inr (by decide)⟩⟩

end Vermyth
