import Mathlib.Data.Prod.Lex
import Vermyth.Casting.DriftViews
import Vermyth.Foundation.Grouping

set_option autoImplicit false

namespace Vermyth

open Foundation

structure DriftBranch where
  branchId : String
  castsWithDivergence : Nat
  divergedCount : Nat
  driftingCount : Nat
  maxL2 : ℚ
  maxCosineDistance : ℚ
  latestComputedAt : String

-- What ORDER BY compares, each part where those before it are equal.
def DriftBranch.rank (branch : DriftBranch) : ℕ ×ₗ ℕ ×ₗ ℚ ×ₗ ℚ ×ₗ String :=
  toLex (branch.divergedCount, toLex (branch.driftingCount, toLex (branch.maxL2,
    toLex (branch.maxCosineDistance, branch.latestComputedAt))))

def computedText (report : DivergenceReport) : String := String.ofList report.computedAt.isoformat

def DriftBranch.ofReports (branchId : String) (reports : List DivergenceReport) : DriftBranch where
  branchId := branchId
  castsWithDivergence := reports.length
  divergedCount := reports.countP fun report => report.status = .diverged
  driftingCount := reports.countP fun report => report.status = .drifting
  maxL2 := (reports.map DivergenceReport.l2Magnitude).max?.getD 0
  maxCosineDistance := (reports.map DivergenceReport.cosineDistance).max?.getD 0
  latestComputedAt := (reports.map computedText).max?.getD ""

def DriftBranch.rounded (branch : DriftBranch) : DriftBranch :=
  { branch with maxL2 := round6 branch.maxL2, maxCosineDistance := round6 branch.maxCosineDistance }

-- The column branch_id, which is null for a root.
def CastRecord.branchColumn (record : CastRecord) : Option String := record.lineage.map Lineage.branchId

namespace CastProcess

variable (process : CastProcess)

-- divergence_reports JOIN cast_results WHERE branch_id IS NOT NULL
def branchReports : List (String × DivergenceReport) :=
  process.divergenceReports.rows.filterMap fun report =>
    ((process.casts.find? report.castId).bind CastRecord.branchColumn).map fun branchId => (branchId, report)

-- GROUP BY branch_id, in the order of ORDER BY
def rankedBranches : List DriftBranch :=
  ((grouped Prod.fst process.branchReports).map fun group =>
    DriftBranch.ofReports group.1 (group.2.map Prod.snd)).insertionSort fun a b => b.rank ≤ a.rank

-- LIMIT <limit>, where a negative limit is none.
def driftBranches (limit : Int) : Except PyError (List DriftBranch) := do
  let limit ← sqlInteger limit
  return if limit < 0 then process.rankedBranches else process.rankedBranches.take limit.toNat

def toolDriftBranches (limit : Int) : Except PyError (List DriftBranch) :=
  (process.driftBranches limit).map (List.map DriftBranch.rounded)

end CastProcess

def onBranch (process : CastProcess) (branchId : String) : List CastRecord :=
  process.casts.rows.filter fun record => record.branchColumn = some branchId

structure BranchExact (judged : String → DivergenceThresholds → Prop) (process : CastProcess) (branch : DriftBranch)
    (reports : List DivergenceReport) : Prop where
  each : (reports.map DivergenceReport.castId).Perm ((onBranch process branch.branchId).map CastRecord.castId)
  about : ∀ report ∈ reports, ∃ record ∈ onBranch process branch.branchId, ∃ parent ∈ process.casts.rows,
    ApartFrom parent record ∧ ReportOn judged process.math parent record report
  casts : branch.castsWithDivergence = (onBranch process branch.branchId).length
  diverged : branch.divergedCount = reports.countP fun report => report.status = .diverged
  drifting : branch.driftingCount = reports.countP fun report => report.status = .drifting
  maxL2 : IsGreatest {value | ∃ report ∈ reports, report.l2Magnitude = value} branch.maxL2
  maxCosine : IsGreatest {value | ∃ report ∈ reports, report.cosineDistance = value} branch.maxCosineDistance
  latest : IsGreatest {text | ∃ report ∈ reports, computedText report = text} branch.latestComputedAt

structure BranchTable (judged : String → DivergenceThresholds → Prop) (process : CastProcess)
    (branches : List DriftBranch) : Prop where
  distinct : (branches.map DriftBranch.branchId).Nodup
  named : ∀ branchId, branchId ∈ branches.map DriftBranch.branchId ↔
    ∃ record ∈ process.casts.rows, record.branchColumn = some branchId
  sorted : branches.Pairwise fun a b => b.rank ≤ a.rank
  each : ∀ branch ∈ branches, ∃ reports, BranchExact judged process branch reports

variable {judged : String → DivergenceThresholds → Prop}

theorem mem_branch_reports (process : CastProcess) (branchId : String) (report : DivergenceReport) :
    (branchId, report) ∈ process.branchReports ↔ report ∈ process.divergenceReports.rows ∧
      ∃ record ∈ onBranch process branchId, record.castId = report.castId := by
  rw [CastProcess.branchReports, List.mem_filterMap]
  constructor
  · rintro ⟨own, written, isPair⟩
    obtain ⟨branch, joined, same⟩ := Option.map_eq_some_iff.mp isPair
    obtain ⟨rfl, rfl⟩ := Prod.mk.inj same
    obtain ⟨record, found, isBranch⟩ := Option.bind_eq_some_iff.mp joined
    refine ⟨written, record, List.mem_filter.mpr ⟨Table.find_mem _ _ record found, ?_⟩, Table.find_key _ _ record found⟩
    exact decide_eq_true isBranch
  · rintro ⟨written, record, inBranch, isKey⟩
    obtain ⟨stored, isBranch⟩ := List.mem_filter.mp inBranch
    refine ⟨report, written, ?_⟩
    rw [← isKey, Table.find_row _ record stored, Option.bind_some, of_decide_eq_true isBranch]
    rfl

theorem branch_cast_reported (process : CastProcess) (reported : AllReported judged process) (branchId : String)
    (record : CastRecord) (inBranch : record ∈ onBranch process branchId) :
    ∃ report, (branchId, report) ∈ process.branchReports ∧ report.castId = record.castId ∧
      ∃ parent ∈ process.casts.rows, ApartFrom parent record ∧ ReportOn judged process.math parent record report := by
  obtain ⟨stored, isBranch⟩ := List.mem_filter.mp inBranch
  obtain ⟨lineage, named, -⟩ := Option.map_eq_some_iff.mp (of_decide_eq_true isBranch)
  obtain ⟨parent, above, report, written, apart, on⟩ := reported record stored (by rw [named]; rfl)
  have joined := (mem_branch_reports process branchId report).mpr ⟨written, record, inBranch, on.castId.symm⟩
  exact ⟨report, joined, on.castId, parent, above, apart, on⟩

theorem branch_reports_exact (process : CastProcess) (reported : AllReported judged process) (branchId : String)
    (reports : List DivergenceReport) (some_ : reports ≠ [])
    (members : ∀ report, report ∈ reports ↔ (branchId, report) ∈ process.branchReports)
    (distinct : (reports.map DivergenceReport.castId).Nodup) :
    BranchExact judged process (.ofReports branchId reports) reports := by
  have each : (reports.map DivergenceReport.castId).Perm ((onBranch process branchId).map CastRecord.castId) := by
    have once : ((onBranch process branchId).map CastRecord.castId).Nodup :=
      (List.filter_sublist.map CastRecord.castId).nodup process.casts.distinct
    refine (List.perm_ext_iff_of_nodup distinct once).mpr fun castId => ?_
    rw [List.mem_map, List.mem_map]
    constructor
    · rintro ⟨report, member, rfl⟩
      exact ((mem_branch_reports process branchId report).mp ((members report).mp member)).2
    · rintro ⟨record, inBranch, rfl⟩
      obtain ⟨report, joined, isKey, -⟩ := branch_cast_reported process reported branchId record inBranch
      exact ⟨report, (members report).mpr joined, isKey⟩
  refine ⟨each, ?_, ?_, rfl, rfl, max_greatest _ 0 reports some_, max_greatest _ 0 reports some_,
    max_greatest _ "" reports some_⟩
  · intro report member
    obtain ⟨written, record, inBranch, isKey⟩ :=
      (mem_branch_reports process branchId report).mp ((members report).mp member)
    obtain ⟨own, joined, isOwn, parent, above, apart, on⟩ :=
      branch_cast_reported process reported branchId record inBranch
    have ownWritten := ((mem_branch_reports process branchId own).mp joined).1
    obtain rfl := process.divergenceReports.row_unique own report ownWritten written (isOwn.trans isKey)
    exact ⟨record, inBranch, parent, above, apart, on⟩
  · have lengths := each.length_eq
    rwa [List.length_map, List.length_map] at lengths

theorem ranked_branches_table (process : CastProcess) (reported : AllReported judged process) :
    BranchTable judged process process.rankedBranches := by
  have grouping := grouped_grouping Prod.fst process.branchReports
  have total : Std.Total fun a b : DriftBranch => b.rank ≤ a.rank := ⟨fun a b => le_total _ _⟩
  have trans : IsTrans DriftBranch fun a b => b.rank ≤ a.rank := ⟨fun _ _ _ first second => second.trans first⟩
  have perm := List.perm_insertionSort (fun a b : DriftBranch => b.rank ≤ a.rank)
    ((grouped Prod.fst process.branchReports).map fun group =>
      DriftBranch.ofReports group.1 (group.2.map Prod.snd))
  have ids : (process.rankedBranches.map DriftBranch.branchId).Perm
      ((grouped Prod.fst process.branchReports).map Prod.fst) := by
    have mapped := perm.map DriftBranch.branchId
    rwa [List.map_map] at mapped
  refine ⟨ids.nodup_iff.mpr grouping.distinct, ?_, List.pairwise_insertionSort _ _, ?_⟩
  · intro branchId
    rw [ids.mem_iff, grouping.named]
    constructor
    · rintro ⟨⟨own, report⟩, joined, rfl⟩
      obtain ⟨-, record, inBranch, -⟩ := (mem_branch_reports process own report).mp joined
      obtain ⟨stored, isBranch⟩ := List.mem_filter.mp inBranch
      exact ⟨record, stored, of_decide_eq_true isBranch⟩
    · rintro ⟨record, stored, isBranch⟩
      have inBranch : record ∈ onBranch process branchId := List.mem_filter.mpr ⟨stored, decide_eq_true isBranch⟩
      obtain ⟨report, joined, -⟩ := branch_cast_reported process reported branchId record inBranch
      exact ⟨(branchId, report), joined, rfl⟩
  · intro branch member
    obtain ⟨group, inGroups, rfl⟩ := List.mem_map.mp (perm.mem_iff.mp member)
    have members : ∀ report, report ∈ group.2.map Prod.snd ↔ (group.1, report) ∈ process.branchReports := by
      intro report
      rw [grouping.whole group inGroups, List.mem_map]
      constructor
      · rintro ⟨⟨own, isReport⟩, inGroup, rfl⟩
        obtain ⟨joined, isGroup⟩ := List.mem_filter.mp inGroup
        rwa [← of_decide_eq_true isGroup]
      · intro joined
        exact ⟨(group.1, report), List.mem_filter.mpr ⟨joined, decide_eq_true rfl⟩, rfl⟩
    refine ⟨group.2.map Prod.snd, branch_reports_exact process reported group.1 _ ?_ members ?_⟩
    · obtain ⟨⟨own, report⟩, joined, same⟩ := (grouping.named group.1).mp (List.mem_map_of_mem inGroups)
      obtain rfl : own = group.1 := same
      exact List.ne_nil_of_mem ((members report).mpr joined)
    · have sub : (group.2.map Prod.snd).Sublist process.divergenceReports.rows := by
        rw [grouping.whole group inGroups]
        exact (List.filter_sublist.map Prod.snd).trans (joined_sublist _ process.divergenceReports.rows)
      exact (sub.map DivergenceReport.castId).nodup process.divergenceReports.distinct

theorem drift_branches_exact (pyFloat : Json → Except PyError ℚ) (start : CastProcess)
    (empty : start.casts.rows = []) (calls : List ServedCall)
    (admitted : ∀ before call, Taken (serve pyFloat) start calls before call → before.Admits call) :
    ∃ branches, BranchTable (JudgedIn pyFloat start calls) (run (serve pyFloat) start calls) branches ∧
      ∀ most, (run (serve pyFloat) start calls).toolDriftBranches most = (sqlInteger most).map fun own =>
        (if own < 0 then branches else branches.take own.toNat).map DriftBranch.rounded := by
  obtain ⟨reported, -⟩ := served_reported pyFloat start empty calls admitted
  refine ⟨_, ranked_branches_table _ reported, ?_⟩
  intro most
  rw [CastProcess.toolDriftBranches, CastProcess.driftBranches]
  cases sqlInteger most with
  | error raised => rfl
  | ok own => rfl

theorem child_branch_exact :
    ∃ branches, BranchTable (JudgedIn plainCodec.pyFloat voidProcess parentAndChild)
      (run (serve plainCodec.pyFloat) voidProcess parentAndChild) branches ∧
        ∀ most, (run (serve plainCodec.pyFloat) voidProcess parentAndChild).toolDriftBranches most =
          (sqlInteger most).map fun own =>
            (if own < 0 then branches else branches.take own.toNat).map DriftBranch.rounded :=
  drift_branches_exact plainCodec.pyFloat voidProcess rfl parentAndChild
    (along_taken (fun before call => before.Admits call) voidProcess parentAndChild parent_and_child_admitted)

end Vermyth
