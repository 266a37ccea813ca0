import Vermyth.Casting.DriftReports
import Vermyth.Foundation.Ranked
import Vermyth.Foundation.Tally

set_option autoImplicit false

namespace Vermyth

open Foundation Ranked

-- round(x, 6)
def round6 (value : ℚ) : ℚ := roundHalfEven (value * 10 ^ 6) / 10 ^ 6

structure DriftHop where
  castId : String
  parentCastId : String
  branchId : String
  status : String
  l2Magnitude : ℚ
  cosineDistance : ℚ
  topContributors : List (String × ℚ)

structure LineageDrift where
  castId : String
  chainLength : Nat
  hops : List DriftHop
  cumulativeL2 : ℚ
  cumulativeCosineDistance : ℚ
  maxL2 : ℚ
  maxCosineDistance : ℚ
  topContributors : List (String × ℚ)

-- What the loop over the casts adds up.
structure DriftTotals where
  hops : List DriftHop := []
  cumulativeL2 : ℚ := 0
  cumulativeCos : ℚ := 0
  maxL2 : ℚ := 0
  maxCos : ℚ := 0
  aggContrib : Tally String ℚ := Table.empty

def aspectAt (registry : AspectRegistry) (i : Nat) : String := registry.names.getD i ("DIM_" ++ toString i)

def componentDeltas (registry : AspectRegistry) (components : List ℚ) : List (String × ℚ) :=
  components.mapIdx fun i value => (aspectAt registry i, |value|)

def shown (delta : String × ℚ) : String × ℚ := (delta.1, round6 delta.2)

-- Sorted by the amount, the largest first, and [: max(0, top_k)] of that.
def topContributors (topK : Int) (deltas : List (String × ℚ)) : List (String × ℚ) :=
  ((deltas.insertionSort fun a b => b.2 ≤ a.2).take topK.toNat).map shown

def DriftTotals.withHop (totals : DriftTotals) (registry : AspectRegistry) (topK : Int) (castId : String)
    (lineage : Lineage) (report : Option DivergenceReport) : DriftTotals :=
  let l2 := report.elim 0 DivergenceReport.l2Magnitude
  let cos := report.elim 0 DivergenceReport.cosineDistance
  let deltas := lineage.divergenceVector.elim [] fun vector => componentDeltas registry vector.components
  { hops := totals.hops ++ [{
      castId := castId
      parentCastId := lineage.parentCastId
      branchId := lineage.branchId
      status := report.elim "UNKNOWN" fun own => own.status.value
      l2Magnitude := round6 l2
      cosineDistance := round6 cos
      topContributors := topContributors topK deltas }]
    cumulativeL2 := totals.cumulativeL2 + l2
    cumulativeCos := totals.cumulativeCos + cos
    maxL2 := max totals.maxL2 l2
    maxCos := max totals.maxCos cos
    aggContrib := deltas.foldl Tally.add totals.aggContrib }

namespace CastProcess

variable (process : CastProcess)

-- The report that is kept, or else one made now, or none if that raises.
def driftReport (cast : CastRecord) (lineage : Lineage) (now : Datetime) : Option DivergenceReport :=
  (process.divergenceReports.find? cast.castId).or
    (do
      let parent ← process.readCast lineage.parentCastId
      classify process.math cast.castId lineage.parentCastId parent.sigil.semanticVector cast.sigil.semanticVector
        process.activeThresholds now).toOption

def addHop (topK : Int) (clock : String → Datetime) (totals : DriftTotals) (cast : CastRecord) : DriftTotals :=
  match cast.lineage with
  | none => totals
  | some lineage =>
      totals.withHop process.registry topK cast.castId lineage (process.driftReport cast lineage (clock cast.castId))

def toolLineageDrift (castId : String) (maxDepth topK : Int) (clock : String → Datetime) :
    Except PyError LineageDrift := do
  let climbed ← climb CastRecord.link process.readCast maxDepth.toNat castId
  let chain := climbed.reverse
  let totals := chain.foldl (process.addHop topK clock) {}
  return {
    castId := castId
    chainLength := chain.length
    hops := totals.hops
    cumulativeL2 := round6 totals.cumulativeL2
    cumulativeCosineDistance := round6 totals.cumulativeCos
    maxL2 := round6 totals.maxL2
    maxCosineDistance := round6 totals.maxCos
    topContributors := topContributors topK totals.aggContrib.rows }

end CastProcess

def pairDrift (process : CastProcess) (pair : CastRecord × CastRecord) : ℚ × ℚ :=
  divergenceMeasures process.math pair.2.sigil.semanticVector pair.1.sigil.semanticVector

def pairDeltas (process : CastProcess) (pair : CastRecord × CastRecord) : List (String × ℚ) :=
  componentDeltas process.registry
    (divergenceComponents pair.1.sigil.semanticVector.components pair.2.sigil.semanticVector.components)

def ShowsTop (topK : Int) (deltas top : List (String × ℚ)) : Prop :=
  ∃ front, Leading Prod.snd topK.toNat deltas front ∧ top = front.map shown

def Peak (amount : CastRecord × CastRecord → ℚ) (pairs : List (CastRecord × CastRecord)) (most : ℚ) : Prop :=
  IsGreatest {value | value = 0 ∨ ∃ pair ∈ pairs, amount pair = value} most

structure HopOn (judged : String → DivergenceThresholds → Prop) (process : CastProcess) (topK : Int)
    (pair : CastRecord × CastRecord) (hop : DriftHop) : Prop where
  castId : hop.castId = pair.1.castId
  parentCastId : hop.parentCastId = pair.2.castId
  branchId : pair.1.lineage.map Lineage.branchId = some hop.branchId
  status : ∃ thresholds, judged pair.1.castId thresholds ∧
    hop.status = (worstStatus thresholds (pairDrift process pair)).value
  l2Magnitude : hop.l2Magnitude = round6 (pairDrift process pair).1
  cosineDistance : hop.cosineDistance = round6 (pairDrift process pair).2
  top : ShowsTop topK (pairDeltas process pair) hop.topContributors

structure DriftAlong (judged : String → DivergenceThresholds → Prop) (process : CastProcess) (topK : Int)
    (pairs : List (CastRecord × CastRecord)) (view : LineageDrift) : Prop where
  hops : List.Forall₂ (HopOn judged process topK) pairs view.hops
  cumulativeL2 : view.cumulativeL2 = round6 (pairs.map fun pair => (pairDrift process pair).1).sum
  cumulativeCosine : view.cumulativeCosineDistance = round6 (pairs.map fun pair => (pairDrift process pair).2).sum
  maxL2 : ∃ most, Peak (fun pair => (pairDrift process pair).1) pairs most ∧ view.maxL2 = round6 most
  maxCosine : ∃ most, Peak (fun pair => (pairDrift process pair).2) pairs most ∧ view.maxCosineDistance = round6 most
  contributors : ∃ sums, Tally.Tallied (pairs.flatMap (pairDeltas process)) sums ∧
    ShowsTop topK sums view.topContributors

structure LineageDriftExact (judged : String → DivergenceThresholds → Prop) (process : CastProcess)
    (record : CastRecord) (maxDepth topK : Int) (view : LineageDrift) : Prop where
  castId : view.castId = record.castId
  chainLength : view.chainLength = min maxDepth.toNat (depthOf CastRecord.link record + 1)
  hopCount : view.hops.length = min maxDepth.toNat (depthOf CastRecord.link record)
  along : ∃ pairs, Ascends CastRecord.link process.casts.rows CastRecord.castId maxDepth.toNat record pairs ∧
    DriftAlong judged process topK pairs.reverse view

variable {judged : String → DivergenceThresholds → Prop}

theorem top_shown (topK : Int) (deltas : List (String × ℚ)) : ShowsTop topK deltas (topContributors topK deltas) :=
  ⟨_, leading_take Prod.snd topK.toNat deltas, rfl⟩

theorem peak_nil (amount : CastRecord × CastRecord → ℚ) : Peak amount [] 0 := by
  refine ⟨Or.inl rfl, ?_⟩
  rintro value (rfl | ⟨pair, member, -⟩)
  · exact le_rfl
  · exact absurd member List.not_mem_nil

theorem peak_concat (amount : CastRecord × CastRecord → ℚ) (pairs : List (CastRecord × CastRecord))
    (pair : CastRecord × CastRecord) (most : ℚ) (peak : Peak amount pairs most) :
    Peak amount (pairs ++ [pair]) (max most (amount pair)) := by
  obtain ⟨attained, above⟩ := peak
  constructor
  · rcases max_cases most (amount pair) with ⟨isMost, -⟩ | ⟨isLast, -⟩
    · rw [isMost]
      refine attained.imp_right ?_
      rintro ⟨own, member, same⟩
      exact ⟨own, List.mem_append_left _ member, same⟩
    · rw [isLast]
      exact Or.inr ⟨pair, List.mem_append_right _ (List.mem_singleton_self pair), rfl⟩
  · rintro value (rfl | ⟨own, member, rfl⟩)
    · exact (above (Or.inl rfl)).trans (le_max_left _ _)
    · rcases List.mem_append.mp member with old | last
      · exact (above (Or.inr ⟨own, old, rfl⟩)).trans (le_max_left _ _)
      · rw [List.mem_singleton.mp last]
        exact le_max_right _ _

structure Totalled (judged : String → DivergenceThresholds → Prop) (process : CastProcess) (topK : Int)
    (pairs : List (CastRecord × CastRecord)) (totals : DriftTotals) : Prop where
  hops : List.Forall₂ (HopOn judged process topK) pairs totals.hops
  cumulativeL2 : totals.cumulativeL2 = (pairs.map fun pair => (pairDrift process pair).1).sum
  cumulativeCos : totals.cumulativeCos = (pairs.map fun pair => (pairDrift process pair).2).sum
  maxL2 : Peak (fun pair => (pairDrift process pair).1) pairs totals.maxL2
  maxCos : Peak (fun pair => (pairDrift process pair).2) pairs totals.maxCos
  aggContrib : totals.aggContrib = (pairs.flatMap (pairDeltas process)).foldl Tally.add Table.empty

theorem totalled_nil (process : CastProcess) (topK : Int) : Totalled judged process topK [] {} where
  hops := .nil
  cumulativeL2 := rfl
  cumulativeCos := rfl
  maxL2 := peak_nil _
  maxCos := peak_nil _
  aggContrib := rfl

structure Hops (judged : String → DivergenceThresholds → Prop) (process : CastProcess)
    (pair : CastRecord × CastRecord) (cast : CastRecord) : Prop where
  castId : cast.castId = pair.1.castId
  lineage : ∃ lineage, cast.lineage = some lineage ∧ pair.1.lineage = some lineage
  apart : ApartFrom pair.2 pair.1
  report : ∃ report ∈ process.divergenceReports.rows, ReportOn judged process.math pair.2 pair.1 report

theorem add_hop_totalled (process : CastProcess) (topK : Int) (clock : String → Datetime) (totals : DriftTotals)
    (pairs : List (CastRecord × CastRecord)) (pair : CastRecord × CastRecord) (cast : CastRecord)
    (totalled : Totalled judged process topK pairs totals) (hops : Hops judged process pair cast) :
    Totalled judged process topK (pairs ++ [pair]) (process.addHop topK clock totals cast) := by
  obtain ⟨lineage, ofCast, ofRow⟩ := hops.lineage
  obtain ⟨isParent, divergence, isDivergence, components⟩ := hops.apart lineage ofRow
  obtain ⟨report, written, on⟩ := hops.report
  have kept : process.driftReport cast lineage (clock cast.castId) = some report := by
    rw [CastProcess.driftReport, hops.castId, ← on.castId, Table.find_row _ report written]
    rfl
  have deltas : (lineage.divergenceVector.elim [] fun vector => componentDeltas process.registry vector.components) =
      pairDeltas process pair := by
    rw [isDivergence, Option.elim_some, components]
    rfl
  have l2 : report.l2Magnitude = (pairDrift process pair).1 := congrArg Prod.fst on.measures
  have cos : report.cosineDistance = (pairDrift process pair).2 := congrArg Prod.snd on.measures
  have isAdded : process.addHop topK clock totals cast =
      totals.withHop process.registry topK cast.castId lineage (some report) := by
    simp only [CastProcess.addHop, ofCast, kept]
  rw [isAdded, DriftTotals.withHop, deltas]
  simp only [Option.elim_some, l2, cos]
  refine ⟨?_, ?_, ?_, peak_concat _ pairs pair _ totalled.maxL2, peak_concat _ pairs pair _ totalled.maxCos, ?_⟩
  · refine List.rel_append totalled.hops (.cons ?_ .nil)
    obtain ⟨thresholds, judges, status⟩ := on.status
    exact
      { castId := hops.castId
        parentCastId := isParent
        branchId := by rw [ofRow]; rfl
        status := ⟨thresholds, judges, by rw [status, on.measures]; rfl⟩
        l2Magnitude := rfl
        cosineDistance := rfl
        top := top_shown topK _ }
  · rw [totalled.cumulativeL2, List.map_append, List.sum_append, List.map_singleton, List.sum_singleton]
  · rw [totalled.cumulativeCos, List.map_append, List.sum_append, List.map_singleton, List.sum_singleton]
  · rw [totalled.aggContrib, List.flatMap_append, List.foldl_append, List.flatMap_singleton]

theorem add_hops_totalled (process : CastProcess) (topK : Int) (clock : String → Datetime)
    (pairs : List (CastRecord × CastRecord)) (casts : List CastRecord)
    (hops : List.Forall₂ (Hops judged process) pairs casts) (done : List (CastRecord × CastRecord))
    (totals : DriftTotals) (totalled : Totalled judged process topK done totals) :
    Totalled judged process topK (done ++ pairs) (casts.foldl (process.addHop topK clock) totals) := by
  induction hops generalizing done totals with
  | nil =>
      rw [List.append_nil]
      exact totalled
  | cons first _ ih =>
      have added := add_hop_totalled process topK clock totals done _ _ totalled first
      have rest := ih _ _ added
      rwa [List.append_assoc, List.singleton_append] at rest

theorem add_roots_same (process : CastProcess) (topK : Int) (clock : String → Datetime) (roots : List CastRecord)
    (areRoots : ∀ root ∈ roots, root.lineage = none) (totals : DriftTotals) :
    roots.foldl (process.addHop topK clock) totals = totals := by
  induction roots with
  | nil => rfl
  | cons root rest ih =>
      obtain ⟨isRoot, others⟩ := List.forall_mem_cons.mp areRoots
      rw [List.foldl_cons, CastProcess.addHop, isRoot]
      exact ih others

theorem stored_pair_hops (process : CastProcess) (reported : AllReported judged process)
    (pair : CastRecord × CastRecord) (cast : CastRecord) (child : pair.1 ∈ process.casts.rows)
    (parent : pair.2 ∈ process.casts.rows) (linked : ∃ depth, pair.1.link = some (pair.2.castId, depth))
    (reads : process.readCast pair.1.castId = .ok cast) : Hops judged process pair cast := by
  obtain ⟨depth, linked⟩ := linked
  obtain ⟨lineage, named, isLink⟩ := Option.map_eq_some_iff.mp linked
  obtain ⟨row, isRow, isKey, castId, same⟩ := process.read_cast_ok pair.1.castId cast reads
  obtain rfl := process.casts.row_unique row pair.1 isRow child isKey
  obtain ⟨above, isAbove, report, written, apart, on⟩ := reported pair.1 child (by rw [named]; rfl)
  have isParent : above.castId = pair.2.castId :=
    (apart lineage named).1.symm.trans (congrArg Prod.fst isLink)
  obtain rfl := process.casts.row_unique above pair.2 isAbove parent isParent
  exact ⟨castId, ⟨lineage, same.trans named, named⟩, apart, report, written, on⟩

theorem tool_lineage_drift_exact (process : CastProcess) (reported : AllReported judged process)
    (kept : LineageKept process) (record : CastRecord) (stored : record ∈ process.casts.rows) (maxDepth topK : Int)
    (clock : String → Datetime) :
    ∃ view, process.toolLineageDrift record.castId maxDepth topK clock = .ok view ∧
      LineageDriftExact judged process record maxDepth topK view := by
  obtain ⟨below, roots, pairs, climbed, areRoots, ascends, each, length⟩ :=
    climb_ascends CastRecord.link process.casts kept.grounded process.readCast
      (fun row isRow => process.read_cast_known row isRow (kept.known row isRow)) maxDepth.toNat record stored
  have above := ascends_stored CastRecord.link _ _ _ _ stored ascends
  have held := (List.forall₂_and_left pairs below).mpr ⟨above, each⟩
  have hops : List.Forall₂ (Hops judged process) pairs.reverse below.reverse := by
    refine List.forall₂_reverse_iff.mpr (held.imp ?_)
    intro pair cast both
    obtain ⟨⟨child, parent, linked⟩, reads⟩ := both
    exact stored_pair_hops process reported pair cast child parent linked reads
  have noLineage : ∀ root ∈ roots.reverse, root.lineage = none := fun root isRoot =>
    Option.map_eq_none_iff.mp (areRoots root (List.mem_reverse.mp isRoot))
  have totalled := add_hops_totalled process topK clock _ _ hops [] {} (totalled_nil process topK)
  have folded : (below ++ roots).reverse.foldl (process.addHop topK clock) {} =
      below.reverse.foldl (process.addHop topK clock) {} := by
    rw [List.reverse_append, List.foldl_append, add_roots_same process topK clock _ noLineage]
  rw [List.nil_append] at totalled
  rw [CastProcess.toolLineageDrift, climbed]
  simp only [bind, Except.bind, folded]
  refine ⟨_, rfl, rfl, ?_, ?_, pairs, ascends, ?_⟩
  · rw [List.length_reverse]
    exact length
  · rw [← totalled.hops.length_eq, List.length_reverse]
    exact ascends_length CastRecord.link process.casts kept.grounded _ _ _ stored ascends
  · exact
      { hops := totalled.hops
        cumulativeL2 := congrArg round6 totalled.cumulativeL2
        cumulativeCosine := congrArg round6 totalled.cumulativeCos
        maxL2 := ⟨_, totalled.maxL2, rfl⟩
        maxCosine := ⟨_, totalled.maxCos, rfl⟩
        contributors := ⟨_, Tally.tallied_adds _, by rw [← totalled.aggContrib]; exact top_shown topK _⟩ }

theorem lineage_drift_exact (pyFloat : Json → Except PyError ℚ) (start : CastProcess)
    (empty : start.casts.rows = []) (calls : List ServedCall)
    (admitted : ∀ before call, Taken (serve pyFloat) start calls before call → before.Admits call)
    (record : CastRecord) (stored : record ∈ (run (serve pyFloat) start calls).casts.rows)
    (maxDepth topK : Int) (clock : String → Datetime) :
    ∃ view, (run (serve pyFloat) start calls).toolLineageDrift record.castId maxDepth topK clock = .ok view ∧
      LineageDriftExact (JudgedIn pyFloat start calls) (run (serve pyFloat) start calls) record maxDepth
        topK view := by
  obtain ⟨reported, kept⟩ := served_reported pyFloat start empty calls admitted
  exact tool_lineage_drift_exact _ reported kept record stored maxDepth topK clock

theorem child_drift_exact :
    ∃ record ∈ (run (serve plainCodec.pyFloat) voidProcess parentAndChild).casts.rows, record.castId = "B" ∧
      ∃ view, (run (serve plainCodec.pyFloat) voidProcess parentAndChild).toolLineageDrift record.castId 50 3
        (fun _ => sampleTime) = .ok view ∧
          LineageDriftExact (JudgedIn plainCodec.pyFloat voidProcess parentAndChild)
            (run (serve plainCodec.pyFloat) voidProcess parentAndChild) record 50 3 view := by
  have has : (run (serve plainCodec.pyFloat) voidProcess parentAndChild).casts.Has "B" := by decide +kernel
  obtain ⟨record, stored, isB⟩ := List.mem_map.mp has
  exact ⟨record, stored, isB, lineage_drift_exact plainCodec.pyFloat voidProcess rfl parentAndChild
    (along_taken (fun before call => before.Admits call) voidProcess parentAndChild parent_and_child_admitted)
    record stored 50 3 fun _ => sampleTime⟩

end Vermyth
