import Mathlib.Algebra.GroupWithZero.Nat
import Mathlib.Algebra.Order.Ring.Rat
import Mathlib.Data.String.Basic
import Mathlib.Data.List.Dedup
import Mathlib.Data.List.Sort
import Vermyth.Foundation.Counter
import Vermyth.Foundation.Interleaving
import Vermyth.Foundation.Window

set_option autoImplicit false

namespace Vermyth

open Foundation

inductive BundleEvent where
  | recommended (surface skillId bundleId : String) (version : Int) (strength : ℚ) (matchKind targetSkill : String)
  | catalogListed (surface : String) (kind : Option String)
  | inspected (surface bundleId : String) (version : Int) (guidedUpgradeShown : Bool)
  | invoked (surface bundleId : String) (version : Int) (targetSkill : String) (refBytes expandedBytes : Option Nat)
  | recommendationMissed (surface skillId bundleId : String) (version : Int) (strength : ℚ)
      (matchKind targetSkill : String)
deriving DecidableEq

def BundleEvent.eventType : BundleEvent → String
  | .recommended .. => "bundle_recommended"
  | .catalogListed .. => "bundle_catalog_listed"
  | .inspected .. => "bundle_inspected"
  | .invoked .. => "bundle_invoked"
  | .recommendationMissed .. => "bundle_recommendation_missed"

def BundleEvent.saved : BundleEvent → Nat
  | .invoked _ _ _ _ (some refBytes) (some expandedBytes) =>
      if refBytes ≤ expandedBytes then expandedBytes - refBytes else 0
  | _ => 0

-- An event as _recent keeps it.
structure RecordedEvent where
  ts : ℚ
  event : BundleEvent
deriving DecidableEq

structure BundleCounters where
  countsByEvent : Counter String := Table.empty
  countsByBundle : Counter String := Table.empty
  bundleEventMatrix : Counter (String × String) := Table.empty
  bytesSavedTotal : Nat := 0
  bytesSavedByBundle : Counter String := Table.empty

structure Telemetry extends BundleCounters where
  recent : List RecordedEvent := []

def maxRecent : Nat := 200

-- _append_recent
def appendRecent (event : RecordedEvent) (telemetry : Telemetry) : Telemetry :=
  { telemetry with recent := Window.keep maxRecent telemetry.recent event }

-- _bump, where an id that is empty is none.
def bump (eventType : String) (bundleId : Option String) (counters : BundleCounters) : BundleCounters :=
  let counters := { counters with countsByEvent := counters.countsByEvent.add (eventType, 1) }
  match bundleId.filter (· ≠ "") with
  | none => counters
  | some own =>
      { counters with
        countsByBundle := counters.countsByBundle.add (own, 1)
        bundleEventMatrix := counters.bundleEventMatrix.add ((own, eventType), 1) }

def countEvent (counters : BundleCounters) (event : BundleEvent) : BundleCounters :=
  match event with
  | .recommended _ _ bundleId .. => bump "bundle_recommended" (some bundleId) counters
  | .catalogListed .. => bump "bundle_catalog_listed" none counters
  | .inspected _ bundleId .. => bump "bundle_inspected" (some bundleId) counters
  | .recommendationMissed _ _ bundleId .. => bump "bundle_recommendation_missed" (some bundleId) counters
  | .invoked _ bundleId _ _ refBytes expandedBytes =>
      let saved := BundleEvent.saved (.invoked "" bundleId 0 "" refBytes expandedBytes)
      { countsByEvent := counters.countsByEvent.add ("bundle_invoked", 1)
        countsByBundle := counters.countsByBundle.add (bundleId, 1)
        bundleEventMatrix := counters.bundleEventMatrix.add ((bundleId, "bundle_invoked"), 1)
        bytesSavedTotal := counters.bytesSavedTotal + saved
        bytesSavedByBundle := counters.bytesSavedByBundle.add (bundleId, saved) }

-- A call of a recorder. Another thread may hold the lock between its two steps.
inductive RecordPhase where
  | arriving (event : RecordedEvent)
  | counted (event : RecordedEvent)
  | done
deriving DecidableEq

def recordStep {ι : Type} (enabled : Bool) (_ : ι) (telemetry : Telemetry) :
    RecordPhase → Telemetry × RecordPhase
  | .arriving event =>
      if enabled then
        ({ telemetry with toBundleCounters := countEvent telemetry.toBundleCounters event.event }, .counted event)
      else (telemetry, .done)
  | .counted event => (appendRecent event telemetry, .done)
  | .done => (telemetry, .done)

-- get_bundle_adoption_summary, read under the lock.
structure AdoptionSummary where
  enabled : Bool
  countsByEventType : Counter String
  countsByBundleId : Counter String
  perBundleEventCounts : Table (Prod.fst : String × Counter String → String)
  bytesSavedByBundle : Counter String
  funnel : List (String × Nat)
  bytesSavedTotal : Nat
  recentEventsSample : List RecordedEvent

def funnelTypes : List String :=
  ["bundle_recommended", "bundle_catalog_listed", "bundle_inspected", "bundle_invoked", "bundle_recommendation_missed"]

-- per_bundle.setdefault(bid, {})[et] = c
def setPerBundle (perBundle : Table (Prod.fst : String × Counter String → String))
    (entry : (String × String) × Nat) : Table (Prod.fst : String × Counter String → String) :=
  let own := ((perBundle.find? entry.1.1).map Prod.snd).getD Table.empty
  perBundle.upsert (entry.1.1, own.upsert (entry.1.2, entry.2))

def getBundleAdoptionSummary (enabled : Bool) (telemetry : Telemetry) : AdoptionSummary where
  enabled := enabled
  countsByEventType := telemetry.countsByEvent
  countsByBundleId := telemetry.countsByBundle
  perBundleEventCounts := telemetry.bundleEventMatrix.rows.foldl setPerBundle Table.empty
  bytesSavedByBundle := telemetry.bytesSavedByBundle
  funnel := funnelTypes.map fun eventType => (eventType, telemetry.countsByEvent.count eventType)
  bytesSavedTotal := telemetry.bytesSavedTotal
  recentEventsSample := telemetry.recent.rtake 50

structure BundleTotals where
  recommended : Nat
  inspected : Nat
  invoked : Nat
  missed : Nat
deriving DecidableEq

structure AdoptionRow where
  bundleId : String
  library : String
  counts : BundleTotals
  inspectPerRecommend : Option ℚ
  invokePerInspect : Option ℚ
  invokePerRecommend : Option ℚ
  missedPerRecommend : Option ℚ
  bytesSavedTotal : Nat
  bytesSavedPerInvoke : Option ℚ

structure Finding where
  kind : String
  severity : String
  bundleId : String
  message : String

-- The library tiers of the bundles, round(x, 4) and repr().
structure ReportEnv where
  canonicalMap : List (String × String)
  round4 : ℚ → ℚ
  repr : String → String

def ratio (env : ReportEnv) (num den : Nat) : Option ℚ := if den = 0 then none else some (env.round4 (num / den))

def perCount (summary : AdoptionSummary) (bundleId eventType : String) : Nat :=
  (((summary.perBundleEventCounts.find? bundleId).map Prod.snd).getD Table.empty : Counter String).count eventType

def adoptionRow (env : ReportEnv) (summary : AdoptionSummary) (bundleId : String) : AdoptionRow :=
  let recommended := perCount summary bundleId "bundle_recommended"
  let inspected := perCount summary bundleId "bundle_inspected"
  let invoked := perCount summary bundleId "bundle_invoked"
  let missed := perCount summary bundleId "bundle_recommendation_missed"
  let bytesSaved := summary.bytesSavedByBundle.count bundleId
  { bundleId := bundleId
    library := (env.canonicalMap.lookup bundleId).getD "unset"
    counts := { recommended, inspected, invoked, missed }
    inspectPerRecommend := ratio env inspected recommended
    invokePerInspect := ratio env invoked inspected
    invokePerRecommend := ratio env invoked recommended
    missedPerRecommend := ratio env missed recommended
    bytesSavedTotal := bytesSaved
    bytesSavedPerInvoke := ratio env bytesSaved invoked }

def rowFindings (env : ReportEnv) (row : AdoptionRow) : List Finding :=
  let own := env.repr row.bundleId
  (if 3 ≤ row.counts.recommended ∧ row.counts.inspected < max 1 (row.counts.recommended / 4) then
    [{ kind := "recommended_low_inspect", severity := "info", bundleId := row.bundleId,
       message := "Bundle " ++ own ++ " is often recommended (" ++ toString row.counts.recommended ++
        ") but rarely inspected (" ++ toString row.counts.inspected ++
        "); consider improving discoverability or guided-upgrade visibility." }] else []) ++
  (if 3 ≤ row.counts.missed ∧ row.counts.invoked + 1 < row.counts.missed then
    [{ kind := "high_missed_vs_invoke", severity := "warning", bundleId := row.bundleId,
       message := "Bundle " ++ own ++ " has more missed-upgrade signals (" ++ toString row.counts.missed ++
        ") than invocations (" ++ toString row.counts.invoked ++ "); callers may be ignoring suggestions or missing " ++
        "VERMYTH_BUNDLE_TELEMETRY_MISSED=1 elsewhere." }] else []) ++
  (if 2 ≤ row.counts.invoked ∧ 0 < row.bytesSavedTotal ∧ 50 * row.counts.invoked ≤ row.bytesSavedTotal then
    [{ kind := "strong_bytes_signal", severity := "info", bundleId := row.bundleId,
       message := "Bundle " ++ own ++ " is invoked (" ++ toString row.counts.invoked ++
        ") with notable aggregate bytes saved estimate (" ++ toString row.bytesSavedTotal ++
        "); bundle-first may be paying off." }] else [])

def dedupeFindings : List Finding → List (String × String) → List Finding
  | [], _ => []
  | finding :: rest, seen =>
      if (finding.kind, finding.bundleId) ∈ seen then dedupeFindings rest seen
      else finding :: dedupeFindings rest ((finding.kind, finding.bundleId) :: seen)

structure AdoptionReport where
  perBundle : List AdoptionRow
  topByRecommended : List String
  topByInvoked : List String
  topByMissed : List String
  findings : List Finding

def topBy (measure : AdoptionRow → Nat) (rows : List AdoptionRow) : List String :=
  ((rows.insertionSort fun a b => measure b ≤ measure a).map AdoptionRow.bundleId).take 8

-- sorted(set(per) | set(bytes_by))
def reportedBundles (summary : AdoptionSummary) : List String :=
  ((summary.perBundleEventCounts.rows.map Prod.fst ++ summary.bytesSavedByBundle.rows.map Prod.fst).dedup).insertionSort
    (· ≤ ·)

def buildBundleAdoptionReport (env : ReportEnv) (summary : AdoptionSummary) : Option AdoptionReport :=
  if summary.enabled then
    let rows := (reportedBundles summary).map (adoptionRow env summary)
    some { perBundle := rows
           topByRecommended := topBy (fun row => row.counts.recommended) rows
           topByInvoked := topBy (fun row => row.counts.invoked) rows
           topByMissed := topBy (fun row => row.counts.missed) rows
           findings := dedupeFindings (rows.flatMap (rowFindings env)) [] }
  else none

def BundleEvent.countedBundle : BundleEvent → Option String
  | .recommended _ _ bundleId .. => if bundleId = "" then none else some bundleId
  | .catalogListed .. => none
  | .inspected _ bundleId .. => if bundleId = "" then none else some bundleId
  | .invoked _ bundleId .. => some bundleId
  | .recommendationMissed _ _ bundleId .. => if bundleId = "" then none else some bundleId

def BundleEvent.invokedBundle : BundleEvent → Option String
  | .invoked _ bundleId .. => some bundleId
  | _ => none

structure ExactTelemetry (counted appended : List RecordedEvent) (telemetry : Telemetry) : Prop where
  byEvent : ∀ eventType, telemetry.countsByEvent.count eventType =
    counted.countP fun recorded => recorded.event.eventType = eventType
  byBundle : ∀ bundleId, telemetry.countsByBundle.count bundleId =
    counted.countP fun recorded => recorded.event.countedBundle = some bundleId
  matrix : ∀ bundleId eventType, telemetry.bundleEventMatrix.count (bundleId, eventType) =
    counted.countP fun recorded => recorded.event.countedBundle = some bundleId ∧ recorded.event.eventType = eventType
  bytesTotal : telemetry.bytesSavedTotal = (counted.map fun recorded => recorded.event.saved).sum
  bytesByBundle : ∀ bundleId, telemetry.bytesSavedByBundle.count bundleId =
    ((counted.filter fun recorded => recorded.event.invokedBundle = some bundleId).map fun recorded =>
      recorded.event.saved).sum
  recent : telemetry.recent = appended.rtake maxRecent

structure ExactReport (env : ReportEnv) (counted : List RecordedEvent) (report : AdoptionReport) : Prop where
  sorted : (report.perBundle.map AdoptionRow.bundleId).Pairwise (· < ·)
  bundles : ∀ bundleId, bundleId ∈ report.perBundle.map AdoptionRow.bundleId ↔
    ∃ recorded ∈ counted, recorded.event.countedBundle = some bundleId
  counts : ∀ row ∈ report.perBundle, row.counts =
    { recommended := counted.countP fun recorded =>
        recorded.event.countedBundle = some row.bundleId ∧ recorded.event.eventType = "bundle_recommended"
      inspected := counted.countP fun recorded =>
        recorded.event.countedBundle = some row.bundleId ∧ recorded.event.eventType = "bundle_inspected"
      invoked := counted.countP fun recorded =>
        recorded.event.countedBundle = some row.bundleId ∧ recorded.event.eventType = "bundle_invoked"
      missed := counted.countP fun recorded =>
        recorded.event.countedBundle = some row.bundleId ∧ recorded.event.eventType = "bundle_recommendation_missed" }
  complete : ∀ row ∈ report.perBundle,
    row.counts.recommended + row.counts.inspected + row.counts.invoked + row.counts.missed =
      counted.countP fun recorded => recorded.event.countedBundle = some row.bundleId
  findings : report.findings = report.perBundle.flatMap (rowFindings env)

section Counters

def bundleEntry (event : BundleEvent) : Option (String × Nat) := event.countedBundle.map fun own => (own, 1)

def matrixEntry (event : BundleEvent) : Option ((String × String) × Nat) :=
  (event.countedBundle.map fun own => (own, event.eventType)).map fun own => (own, 1)

def bytesEntry (event : BundleEvent) : Option (String × Nat) := event.invokedBundle.map fun own => (own, event.saved)

structure CountsEvent (counters after : BundleCounters) (event : BundleEvent) : Prop where
  byEvent : after.countsByEvent = counters.countsByEvent.add (event.eventType, 1)
  byBundle : after.countsByBundle = (bundleEntry event).elim counters.countsByBundle counters.countsByBundle.add
  matrix : after.bundleEventMatrix = (matrixEntry event).elim counters.bundleEventMatrix counters.bundleEventMatrix.add
  bytesTotal : after.bytesSavedTotal = counters.bytesSavedTotal + event.saved
  bytesByBundle : after.bytesSavedByBundle =
    (bytesEntry event).elim counters.bytesSavedByBundle counters.bytesSavedByBundle.add

theorem bump_counts (counters : BundleCounters) (event : BundleEvent) (bundleId : String)
    (counted : event.countedBundle = if bundleId = "" then none else some bundleId) (unsaved : event.saved = 0)
    (uninvoked : event.invokedBundle = none) :
    CountsEvent counters (bump event.eventType (some bundleId) counters) event := by
  by_cases empty : bundleId = ""
  · have nowhere : event.countedBundle = none := counted.trans (if_pos empty)
    have skipped : (some bundleId).filter (· ≠ "") = none := by simp [empty]
    rw [bump, skipped]
    refine ⟨rfl, ?_, ?_, by rw [unsaved]; rfl, by rw [bytesEntry, uninvoked]; rfl⟩
    · rw [bundleEntry, nowhere]
      rfl
    · rw [matrixEntry, nowhere]
      rfl
  · have own : event.countedBundle = some bundleId := counted.trans (if_neg empty)
    have kept : (some bundleId).filter (· ≠ "") = some bundleId := by simp [empty]
    rw [bump, kept]
    refine ⟨rfl, ?_, ?_, by rw [unsaved]; rfl, by rw [bytesEntry, uninvoked]; rfl⟩
    · rw [bundleEntry, own]
      rfl
    · rw [matrixEntry, own]
      rfl

theorem count_event_counts (counters : BundleCounters) (event : BundleEvent) :
    CountsEvent counters (countEvent counters event) event := by
  cases event with
  | recommended surface skillId bundleId version strength matchKind targetSkill =>
      exact bump_counts counters (.recommended surface skillId bundleId version strength matchKind targetSkill) bundleId
        rfl rfl rfl
  | catalogListed surface kind => exact ⟨rfl, rfl, rfl, rfl, rfl⟩
  | inspected surface bundleId version shown =>
      exact bump_counts counters (.inspected surface bundleId version shown) bundleId rfl rfl rfl
  | invoked surface bundleId version targetSkill refBytes expandedBytes =>
      have same : BundleEvent.saved (.invoked "" bundleId 0 "" refBytes expandedBytes) =
          BundleEvent.saved (.invoked surface bundleId version targetSkill refBytes expandedBytes) := by
        cases refBytes with
        | none => rfl
        | some refBytes => cases expandedBytes <;> rfl
      rw [countEvent, same]
      exact ⟨rfl, rfl, rfl, rfl, rfl⟩
  | recommendationMissed surface skillId bundleId version strength matchKind targetSkill =>
      exact bump_counts counters
        (.recommendationMissed surface skillId bundleId version strength matchKind targetSkill) bundleId rfl rfl rfl

theorem fold_entries {κ : Type} [DecidableEq κ] (field : BundleCounters → Counter κ)
    (entry : BundleEvent → Option (κ × Nat))
    (step : ∀ counters event, field (countEvent counters event) =
      (entry event).elim (field counters) (field counters).add)
    (events : List BundleEvent) (counters : BundleCounters) :
    field (events.foldl countEvent counters) = (events.filterMap entry).foldl Counter.add (field counters) := by
  induction events generalizing counters with
  | nil => rfl
  | cons event rest ih =>
      rw [List.foldl_cons, ih, step]
      cases own : entry event with
      | none =>
          rw [List.filterMap_cons_none own]
          rfl
      | some own' =>
          rw [List.filterMap_cons_some own]
          rfl

theorem fold_saved (events : List BundleEvent) (counters : BundleCounters) :
    (events.foldl countEvent counters).bytesSavedTotal =
      counters.bytesSavedTotal + (events.map BundleEvent.saved).sum := by
  induction events generalizing counters with
  | nil => rfl
  | cons event rest ih =>
      rw [List.foldl_cons, ih, (count_event_counts counters event).bytesTotal, List.map_cons, List.sum_cons,
        Nat.add_assoc]

theorem fold_by_event (events : List BundleEvent) (eventType : String) :
    (events.foldl countEvent {}).countsByEvent.count eventType =
      events.countP fun event => event.eventType = eventType := by
  rw [fold_entries BundleCounters.countsByEvent (fun event => (some event.eventType).map fun own => (own, 1))
    (fun counters event => (count_event_counts counters event).byEvent), Counter.count_adds, Counter.count_ones,
    Counter.count_empty, Nat.zero_add]
  refine List.countP_congr fun event _ => ?_
  rw [decide_eq_true_iff, decide_eq_true_iff, Option.some.injEq]

theorem fold_by_bundle (events : List BundleEvent) (bundleId : String) :
    (events.foldl countEvent {}).countsByBundle.count bundleId =
      events.countP fun event => event.countedBundle = some bundleId := by
  rw [fold_entries BundleCounters.countsByBundle bundleEntry
    (fun counters event => (count_event_counts counters event).byBundle), Counter.count_adds]
  exact (congrArg _ (Counter.count_ones events BundleEvent.countedBundle bundleId)).trans (Nat.zero_add _)

theorem fold_matrix (events : List BundleEvent) (bundleId eventType : String) :
    (events.foldl countEvent {}).bundleEventMatrix.count (bundleId, eventType) =
      events.countP fun event => event.countedBundle = some bundleId ∧ event.eventType = eventType := by
  rw [fold_entries BundleCounters.bundleEventMatrix matrixEntry
    (fun counters event => (count_event_counts counters event).matrix), Counter.count_adds]
  refine (congrArg _ (Counter.count_ones events _ (bundleId, eventType))).trans ?_
  rw [Counter.count_empty, Nat.zero_add]
  refine List.countP_congr fun event _ => ?_
  rw [decide_eq_true_iff, decide_eq_true_iff, Option.map_eq_some_iff]
  constructor
  · rintro ⟨own, counted, same⟩
    obtain ⟨rfl, type⟩ := Prod.mk.inj same
    exact ⟨counted, type⟩
  · rintro ⟨counted, rfl⟩
    exact ⟨bundleId, counted, rfl⟩

theorem fold_bytes (events : List BundleEvent) (bundleId : String) :
    (events.foldl countEvent {}).bytesSavedByBundle.count bundleId =
      ((events.filter fun event => event.invokedBundle = some bundleId).map BundleEvent.saved).sum := by
  rw [fold_entries BundleCounters.bytesSavedByBundle bytesEntry
    (fun counters event => (count_event_counts counters event).bytesByBundle), Counter.count_adds, Counter.count_empty,
    Nat.zero_add]
  induction events with
  | nil => rfl
  | cons event rest ih =>
      cases own : event.invokedBundle with
      | none =>
          have skipped : ¬ decide (event.invokedBundle = some bundleId) = true := by simp [own]
          rw [List.filterMap_cons_none (by rw [bytesEntry, own]; rfl), ih, List.filter_cons, if_neg skipped]
      | some other =>
          rw [List.filterMap_cons_some (by rw [bytesEntry, own]; rfl), List.filter_cons, List.filter_cons]
          by_cases same : other = bundleId
          · rw [if_pos (decide_eq_true same), if_pos (by simp [own, same]), List.map_cons, List.map_cons, List.sum_cons,
              List.sum_cons, ih]
          · rw [if_neg (by simpa using same), if_neg (by simp [own, same]), ih]

theorem matrix_keys (events : List BundleEvent) (bundleId eventType : String) :
    (events.foldl countEvent {}).bundleEventMatrix.Has (bundleId, eventType) ↔
      ∃ event ∈ events, event.countedBundle = some bundleId ∧ event.eventType = eventType := by
  rw [fold_entries BundleCounters.bundleEventMatrix matrixEntry
    (fun counters event => (count_event_counts counters event).matrix), Counter.has_adds, List.mem_map]
  constructor
  · rintro (has | ⟨entry, member, same⟩)
    · exact absurd has List.not_mem_nil
    · obtain ⟨event, isEvent, entered⟩ := List.mem_filterMap.mp member
      obtain ⟨key, keyed, rfl⟩ := Option.map_eq_some_iff.mp entered
      obtain ⟨own, counted, rfl⟩ := Option.map_eq_some_iff.mp keyed
      obtain ⟨rfl, type⟩ := Prod.mk.inj same
      exact ⟨event, isEvent, counted, type⟩
  · rintro ⟨event, isEvent, counted, rfl⟩
    refine Or.inr ⟨((bundleId, event.eventType), 1), List.mem_filterMap.mpr ⟨event, isEvent, ?_⟩, rfl⟩
    rw [matrixEntry, counted]
    rfl

theorem bytes_keys (events : List BundleEvent) (bundleId : String)
    (has : (events.foldl countEvent {}).bytesSavedByBundle.Has bundleId) :
    ∃ event ∈ events, event.countedBundle = some bundleId := by
  rw [fold_entries BundleCounters.bytesSavedByBundle bytesEntry
    (fun counters event => (count_event_counts counters event).bytesByBundle), Counter.has_adds, List.mem_map] at has
  obtain nowhere | ⟨entry, member, rfl⟩ := has
  · exact absurd nowhere List.not_mem_nil
  · obtain ⟨event, isEvent, entered⟩ := List.mem_filterMap.mp member
    obtain ⟨own, invoked, rfl⟩ := Option.map_eq_some_iff.mp entered
    refine ⟨event, isEvent, ?_⟩
    cases event with
    | invoked => exact invoked
    | recommended => contradiction
    | catalogListed => contradiction
    | inspected => contradiction
    | recommendationMissed => contradiction

end Counters

section Report

def nestedCount (perBundle : Table (Prod.fst : String × Counter String → String)) (bundleId eventType : String) : Nat :=
  (((perBundle.find? bundleId).map Prod.snd).getD Table.empty : Counter String).count eventType

theorem nested_set (perBundle : Table (Prod.fst : String × Counter String → String))
    (entry : (String × String) × Nat) (bundleId eventType : String) :
    nestedCount (setPerBundle perBundle entry) bundleId eventType =
      if entry.1 = (bundleId, eventType) then entry.2 else nestedCount perBundle bundleId eventType := by
  obtain ⟨⟨own, type⟩, amount⟩ := entry
  rw [nestedCount, setPerBundle, Table.find_upsert]
  by_cases sameBundle : own = bundleId
  · subst sameBundle
    rw [if_pos rfl]
    by_cases sameType : type = eventType
    · subst sameType
      rw [if_pos rfl]
      simp only [Option.map_some, Option.getD_some, Counter.count, Table.find_upsert, if_true]
    · have other : ¬ (own, type) = (own, eventType) := fun same => sameType (Prod.mk.inj same).2
      rw [if_neg other, nestedCount]
      simp only [Option.map_some, Option.getD_some, Counter.count, Table.find_upsert, sameType, if_false]
  · have other : ¬ (own, type) = (bundleId, eventType) := fun same => sameBundle (Prod.mk.inj same).1
    rw [if_neg sameBundle, if_neg other, nestedCount]

theorem nested_absent (entries : List ((String × String) × Nat))
    (perBundle : Table (Prod.fst : String × Counter String → String)) (bundleId eventType : String)
    (absent : (bundleId, eventType) ∉ entries.map Prod.fst) :
    nestedCount (entries.foldl setPerBundle perBundle) bundleId eventType =
      nestedCount perBundle bundleId eventType := by
  induction entries generalizing perBundle with
  | nil => rfl
  | cons entry rest ih =>
      rw [List.map_cons, List.mem_cons, not_or] at absent
      rw [List.foldl_cons, ih _ absent.2, nested_set, if_neg (Ne.symm absent.1)]

theorem nested_entries (entries : List ((String × String) × Nat)) (distinct : (entries.map Prod.fst).Nodup)
    (perBundle : Table (Prod.fst : String × Counter String → String)) (bundleId eventType : String)
    (before : nestedCount perBundle bundleId eventType = 0) :
    nestedCount (entries.foldl setPerBundle perBundle) bundleId eventType =
      ((entries.find? fun entry => entry.1 = (bundleId, eventType)).map Prod.snd).getD 0 := by
  induction entries generalizing perBundle with
  | nil => exact before
  | cons entry rest ih =>
      rw [List.map_cons, List.nodup_cons] at distinct
      rw [List.foldl_cons, List.find?_cons]
      by_cases same : entry.1 = (bundleId, eventType)
      · rw [nested_absent rest _ bundleId eventType (same ▸ distinct.1), nested_set, if_pos same]
        simp [same]
      · rw [ih distinct.2 _ (by rw [nested_set, if_neg same, before])]
        simp [same]

theorem per_count_matrix (enabled : Bool) (telemetry : Telemetry) (bundleId eventType : String) :
    perCount (getBundleAdoptionSummary enabled telemetry) bundleId eventType =
      telemetry.bundleEventMatrix.count (bundleId, eventType) :=
  nested_entries telemetry.bundleEventMatrix.rows telemetry.bundleEventMatrix.distinct Table.empty bundleId eventType
    rfl

theorem per_bundle_keys (entries : List ((String × String) × Nat))
    (perBundle : Table (Prod.fst : String × Counter String → String)) (bundleId : String) :
    (entries.foldl setPerBundle perBundle).Has bundleId ↔
      perBundle.Has bundleId ∨ ∃ entry ∈ entries, entry.1.1 = bundleId := by
  induction entries generalizing perBundle with
  | nil => simp
  | cons entry rest ih =>
      rw [List.foldl_cons, ih, setPerBundle, Table.has_upsert, List.exists_mem_cons_iff, or_assoc]
      exact or_congr_right (or_congr_left eq_comm)

theorem mem_reported (enabled : Bool) (telemetry : Telemetry) (bundleId : String) :
    bundleId ∈ reportedBundles (getBundleAdoptionSummary enabled telemetry) ↔
      (∃ eventType, telemetry.bundleEventMatrix.Has (bundleId, eventType)) ∨
        telemetry.bytesSavedByBundle.Has bundleId := by
  have keys := per_bundle_keys telemetry.bundleEventMatrix.rows Table.empty bundleId
  rw [reportedBundles, List.mem_insertionSort, List.mem_dedup, List.mem_append]
  refine or_congr (keys.trans ?_) Iff.rfl
  constructor
  · rintro (nowhere | ⟨entry, member, rfl⟩)
    · exact absurd nowhere List.not_mem_nil
    · exact ⟨entry.1.2, List.mem_map.mpr ⟨entry, member, rfl⟩⟩
  · rintro ⟨eventType, has⟩
    obtain ⟨entry, member, same⟩ := List.mem_map.mp has
    exact Or.inr ⟨entry, member, by rw [same]⟩

theorem reported_sorted (summary : AdoptionSummary) : (reportedBundles summary).Pairwise (· < ·) := by
  have sorted := List.pairwise_insertionSort (· ≤ ·)
    ((summary.perBundleEventCounts.rows.map Prod.fst ++ summary.bytesSavedByBundle.rows.map Prod.fst).dedup)
  have distinct : (reportedBundles summary).Nodup :=
    (List.perm_insertionSort (· ≤ ·) _).nodup_iff.mpr (List.nodup_dedup _)
  exact (sorted.and distinct).imp fun both => lt_of_le_of_ne both.1 both.2

theorem dedupe_nodup (findings : List Finding) (seen : List (String × String))
    (distinct : (findings.map fun finding => (finding.kind, finding.bundleId)).Nodup)
    (fresh : ∀ finding ∈ findings, (finding.kind, finding.bundleId) ∉ seen) :
    dedupeFindings findings seen = findings := by
  induction findings generalizing seen with
  | nil => rfl
  | cons finding rest ih =>
      rw [List.map_cons, List.nodup_cons] at distinct
      rw [List.forall_mem_cons] at fresh
      rw [dedupeFindings, if_neg fresh.1, ih _ distinct.2]
      intro other member among
      obtain same | earlier := List.mem_cons.mp among
      · exact distinct.1 (same ▸ List.mem_map_of_mem (f := fun finding => (finding.kind, finding.bundleId)) member)
      · exact fresh.2 other member earlier

theorem row_findings_keys (env : ReportEnv) (row : AdoptionRow) :
    ((rowFindings env row).map fun finding => (finding.kind, finding.bundleId)).Sublist
      [("recommended_low_inspect", row.bundleId), ("high_missed_vs_invoke", row.bundleId),
        ("strong_bytes_signal", row.bundleId)] := by
  rw [rowFindings]
  split_ifs <;> simp

theorem findings_distinct (env : ReportEnv) (rows : List AdoptionRow)
    (distinct : (rows.map AdoptionRow.bundleId).Nodup) :
    ((rows.flatMap (rowFindings env)).map fun finding => (finding.kind, finding.bundleId)).Nodup := by
  have own : ∀ row key, key ∈ (rowFindings env row).map (fun finding => (finding.kind, finding.bundleId)) →
      key.2 = row.bundleId := by
    intro row key member
    have among := (row_findings_keys env row).subset member
    simp only [List.mem_cons, List.not_mem_nil, or_false] at among
    rcases among with rfl | rfl | rfl <;> rfl
  induction rows with
  | nil => exact List.nodup_nil
  | cons row rest ih =>
      rw [List.map_cons, List.nodup_cons] at distinct
      rw [List.flatMap_cons, List.map_append, List.nodup_append]
      refine ⟨?_, ih distinct.2, ?_⟩
      · refine List.Nodup.sublist (row_findings_keys env row) ?_
        simp
      · intro key here other there same
        subst same
        obtain ⟨finding, member, keyed⟩ := List.mem_map.mp there
        obtain ⟨later, isLater, isFinding⟩ := List.mem_flatMap.mp member
        have second := own later key (List.mem_map.mpr ⟨finding, isFinding, keyed⟩)
        exact distinct.1 (List.mem_map.mpr ⟨later, isLater, second.symm.trans (own row key here)⟩)

theorem types_partition (events : List BundleEvent) (bundleId : String) :
    events.countP (fun event => event.countedBundle = some bundleId ∧ event.eventType = "bundle_recommended") +
      events.countP (fun event => event.countedBundle = some bundleId ∧ event.eventType = "bundle_inspected") +
      events.countP (fun event => event.countedBundle = some bundleId ∧ event.eventType = "bundle_invoked") +
      events.countP (fun event =>
        event.countedBundle = some bundleId ∧ event.eventType = "bundle_recommendation_missed") =
      events.countP fun event => event.countedBundle = some bundleId := by
  induction events with
  | nil => rfl
  | cons event rest ih =>
      simp only [List.countP_cons] at ih ⊢
      rw [← ih]
      by_cases own : event.countedBundle = some bundleId
      · cases event with
        | catalogListed => contradiction
        | recommended => simp [own, BundleEvent.eventType]; omega
        | inspected => simp [own, BundleEvent.eventType]; omega
        | invoked => simp [own, BundleEvent.eventType]; omega
        | recommendationMissed => simp [own, BundleEvent.eventType]; omega
      · simp [own]

end Report

section Interleaving

theorem append_recent_counters (event : RecordedEvent) (telemetry : Telemetry) :
    (appendRecent event telemetry).toBundleCounters = telemetry.toBundleCounters := by
  rw [appendRecent]

variable {ι : Type} [DecidableEq ι] (enabled : Bool) (events : ι → RecordedEvent)

def arrivals : Parties ι Telemetry RecordPhase where
  shared := {}
  phases := fun i => .arriving (events i)

def counting (enabled : Bool) : RecordPhase → Bool
  | .arriving _ => enabled
  | _ => false

def appending : RecordPhase → Bool
  | .counted _ => true
  | _ => false

def countedCalls (schedule : List ι) : List ι :=
  traced (recordStep enabled) (counting enabled) (arrivals events) schedule

def appendedCalls (schedule : List ι) : List ι :=
  traced (recordStep enabled) appending (arrivals events) schedule

def StandsFor (counted appended : List ι) (i : ι) : RecordPhase → Prop
  | .arriving event => event = events i ∧ i ∉ counted ∧ i ∉ appended
  | .counted event => event = events i ∧ enabled = true ∧ i ∈ counted ∧ i ∉ appended
  | .done => (enabled = true → i ∈ counted ∧ i ∈ appended) ∧ (enabled = false → i ∉ counted ∧ i ∉ appended)

structure RecordedRun (counted appended : List ι) (parties : Parties ι Telemetry RecordPhase) : Prop where
  counters : parties.shared.toBundleCounters =
    ((counted.map events).map RecordedEvent.event).foldl countEvent {}
  recent : parties.shared.recent = (appended.map events).rtake maxRecent
  distinct : counted.Nodup ∧ appended.Nodup
  stands : ∀ i, StandsFor enabled events counted appended i (parties.phases i)

variable {enabled events}

omit [DecidableEq ι] in
theorem stands_other (counted appended more later : List ι) (i j : ι) (other : j ≠ i) (phase : RecordPhase)
    (newCounted : ∀ k ∈ more, k = i) (newAppended : ∀ k ∈ later, k = i)
    (stands : StandsFor enabled events counted appended j phase) :
    StandsFor enabled events (counted ++ more) (appended ++ later) j phase := by
  have sameCounted : j ∈ counted ++ more ↔ j ∈ counted := by
    rw [List.mem_append]
    exact or_iff_left fun member => other (newCounted j member)
  have sameAppended : j ∈ appended ++ later ↔ j ∈ appended := by
    rw [List.mem_append]
    exact or_iff_left fun member => other (newAppended j member)
  cases phase with
  | arriving event => rwa [StandsFor, sameCounted, sameAppended]
  | counted event => rwa [StandsFor, sameCounted, sameAppended]
  | done => rwa [StandsFor, sameCounted, sameAppended]

theorem recorded_step (counted appended : List ι) (parties : Parties ι Telemetry RecordPhase) (i : ι)
    (holds : RecordedRun enabled events counted appended parties) :
    RecordedRun enabled events (counted ++ if counting enabled (parties.phases i) then [i] else [])
      (appended ++ if appending (parties.phases i) then [i] else []) (act (recordStep enabled) parties i) := by
  have own := holds.stands i
  have others : ∀ (more later : List ι) (j : ι), j ≠ i → (∀ k ∈ more, k = i) → (∀ k ∈ later, k = i) →
      StandsFor enabled events (counted ++ more) (appended ++ later) j
        ((act (recordStep enabled) parties i).phases j) := by
    intro more later j other newCounted newAppended
    rw [act_other parties i j other]
    exact stands_other counted appended more later i j other _ newCounted newAppended (holds.stands j)
  have alone : ∀ k ∈ [i], k = i := fun k member => List.mem_singleton.mp member
  have nobody : ∀ k ∈ ([] : List ι), k = i := fun k member => absurd member List.not_mem_nil
  cases phase : parties.phases i with
  | arriving event =>
      rw [phase] at own
      obtain ⟨rfl, uncounted, unappended⟩ := own
      rw [if_neg (by simp [appending] : ¬ appending (.arriving (events i)) = true)]
      by_cases on : enabled = true
      · rw [if_pos (by exact on : counting enabled (.arriving (events i)) = true)]
        have stepped : recordStep enabled i parties.shared (parties.phases i) =
            ({ parties.shared with toBundleCounters := countEvent parties.shared.toBundleCounters (events i).event },
              .counted (events i)) := by
          rw [phase]
          exact if_pos on
        refine ⟨?_, ?_, ?_, ?_⟩
        · rw [act_shared, stepped, List.map_append, List.map_append, List.foldl_append, ← holds.counters]
          rfl
        · rw [act_shared, stepped, List.append_nil]
          exact holds.recent
        · refine ⟨?_, by rw [List.append_nil]; exact holds.distinct.2⟩
          rw [← List.concat_eq_append]
          exact holds.distinct.1.concat uncounted
        · intro j
          by_cases same : j = i
          · subst same
            rw [act_self, stepped, List.append_nil]
            exact ⟨rfl, on, List.mem_append_right _ List.mem_cons_self, unappended⟩
          · exact others [i] [] j same alone nobody
      · have off : enabled = false := Bool.eq_false_iff.mpr on
        rw [if_neg (by exact on : ¬ counting enabled (.arriving (events i)) = true)]
        have stepped : recordStep enabled i parties.shared (parties.phases i) = (parties.shared, .done) := by
          rw [phase]
          exact if_neg on
        refine ⟨?_, ?_, ?_, ?_⟩
        · rw [act_shared, stepped, List.append_nil]
          exact holds.counters
        · rw [act_shared, stepped, List.append_nil]
          exact holds.recent
        · rw [List.append_nil, List.append_nil]
          exact holds.distinct
        · intro j
          by_cases same : j = i
          · subst same
            rw [act_self, stepped, List.append_nil, List.append_nil]
            exact ⟨fun isOn => absurd isOn on, fun _ => ⟨uncounted, unappended⟩⟩
          · exact others [] [] j same nobody nobody
  | counted event =>
      rw [phase] at own
      obtain ⟨rfl, on, inCounted, unappended⟩ := own
      have stepped : recordStep enabled i parties.shared (parties.phases i) =
          (appendRecent (events i) parties.shared, .done) := by
        rw [phase]
        rfl
      rw [if_neg (by simp [counting] : ¬ counting enabled (.counted (events i)) = true),
        if_pos (by rfl : appending (.counted (events i)) = true)]
      refine ⟨?_, ?_, ?_, ?_⟩
      · rw [act_shared, stepped, List.append_nil, append_recent_counters]
        exact holds.counters
      · rw [act_shared, stepped, List.map_append, List.map_singleton, ← Window.keep_rtake, ← holds.recent, appendRecent]
      · refine ⟨by rw [List.append_nil]; exact holds.distinct.1, ?_⟩
        rw [← List.concat_eq_append]
        exact holds.distinct.2.concat unappended
      · intro j
        by_cases same : j = i
        · subst same
          rw [act_self, stepped, List.append_nil]
          refine ⟨fun _ => ⟨inCounted, List.mem_append_right _ List.mem_cons_self⟩, fun off => ?_⟩
          rw [on] at off
          contradiction
        · exact others [] [i] j same nobody alone
  | done =>
      rw [phase] at own
      have stepped : recordStep enabled i parties.shared (parties.phases i) = (parties.shared, .done) := by
        rw [phase]
        rfl
      rw [if_neg (by simp [counting] : ¬ counting enabled .done = true),
        if_neg (by simp [appending] : ¬ appending .done = true)]
      refine ⟨?_, ?_, ?_, ?_⟩
      · rw [act_shared, stepped, List.append_nil]
        exact holds.counters
      · rw [act_shared, stepped, List.append_nil]
        exact holds.recent
      · rw [List.append_nil, List.append_nil]
        exact holds.distinct
      · intro j
        by_cases same : j = i
        · subst same
          rw [act_self, stepped, List.append_nil, List.append_nil]
          exact own
        · exact others [] [] j same nobody nobody

variable (enabled events)

def recordedParties (schedule : List ι) : Parties ι Telemetry RecordPhase :=
  run (act (recordStep enabled)) (arrivals events) schedule

theorem recorded_run (schedule : List ι) :
    RecordedRun enabled events (countedCalls enabled events schedule) (appendedCalls enabled events schedule)
      (recordedParties enabled events schedule) := by
  rw [recordedParties]
  induction schedule using List.reverseRecOn with
  | nil =>
      refine ⟨rfl, ?_, ⟨List.nodup_nil, List.nodup_nil⟩, fun i => ⟨rfl, List.not_mem_nil, List.not_mem_nil⟩⟩
      rw [appendedCalls, traced, List.map_nil, List.rtake_nil]
      rfl
  | append_singleton schedule i ih =>
      rw [run_concat, countedCalls, appendedCalls, traced_concat, traced_concat]
      exact recorded_step _ _ _ i ih

end Interleaving

theorem exact_report (env : ReportEnv) (events : List RecordedEvent) (telemetry : Telemetry)
    (counters : telemetry.toBundleCounters = (events.map RecordedEvent.event).foldl countEvent {})
    (report : AdoptionReport)
    (built : buildBundleAdoptionReport env (getBundleAdoptionSummary true telemetry) = some report) :
    ExactReport env events report := by
  obtain rfl := Option.some.inj built
  have counts : ∀ bundleId eventType, perCount (getBundleAdoptionSummary true telemetry) bundleId eventType =
      events.countP fun recorded =>
        recorded.event.countedBundle = some bundleId ∧ recorded.event.eventType = eventType := by
    intro bundleId eventType
    rw [per_count_matrix, counters, fold_matrix, List.countP_map]
    rfl
  have ids : ((reportedBundles (getBundleAdoptionSummary true telemetry)).map
      (adoptionRow env (getBundleAdoptionSummary true telemetry))).map AdoptionRow.bundleId =
        reportedBundles (getBundleAdoptionSummary true telemetry) := by
    rw [List.map_map]
    exact List.map_id _
  have rowCounts : ∀ bundleId, (adoptionRow env (getBundleAdoptionSummary true telemetry) bundleId).counts =
      { recommended := _, inspected := _, invoked := _, missed := _ } := fun bundleId => by
    rw [adoptionRow, counts, counts, counts, counts]
  refine ⟨?_, ?_, ?_, ?_, ?_⟩
  · rw [ids]
    exact reported_sorted _
  · intro bundleId
    rw [ids, mem_reported, counters]
    constructor
    · rintro (⟨eventType, has⟩ | has)
      · obtain ⟨event, member, counted, -⟩ := (matrix_keys _ bundleId eventType).mp has
        obtain ⟨recorded, isRecorded, rfl⟩ := List.mem_map.mp member
        exact ⟨recorded, isRecorded, counted⟩
      · obtain ⟨event, member, counted⟩ := bytes_keys _ bundleId has
        obtain ⟨recorded, isRecorded, rfl⟩ := List.mem_map.mp member
        exact ⟨recorded, isRecorded, counted⟩
    · rintro ⟨recorded, member, counted⟩
      exact Or.inl ⟨_, (matrix_keys _ bundleId _).mpr ⟨recorded.event, List.mem_map_of_mem member, counted, rfl⟩⟩
  · intro row member
    obtain ⟨bundleId, -, rfl⟩ := List.mem_map.mp member
    exact rowCounts bundleId
  · intro row member
    obtain ⟨bundleId, -, rfl⟩ := List.mem_map.mp member
    rw [rowCounts bundleId]
    have partition := types_partition (events.map RecordedEvent.event) bundleId
    rw [List.countP_map, List.countP_map, List.countP_map, List.countP_map, List.countP_map] at partition
    exact partition
  · refine dedupe_nodup _ [] (findings_distinct env _ ?_) fun finding _ => List.not_mem_nil
    rw [ids]
    exact (reported_sorted _).imp fun less => ne_of_lt less

theorem funnel_exact (enabled : Bool) (counted appended : List RecordedEvent) (telemetry : Telemetry)
    (exact_ : ExactTelemetry counted appended telemetry) :
    (getBundleAdoptionSummary enabled telemetry).funnel =
      funnelTypes.map fun eventType =>
        (eventType, counted.countP fun recorded => recorded.event.eventType = eventType) := by
  refine List.map_congr_left fun eventType _ => ?_
  rw [exact_.byEvent]

theorem telemetry_exact {ι : Type} [DecidableEq ι] (enabled : Bool) (events : ι → RecordedEvent) (env : ReportEnv)
    (schedule : List ι) :
    ∃ counted appended : List ι, counted.Nodup ∧ appended.Subperm counted ∧
      (∀ i, (recordedParties enabled events schedule).phases i = .done → enabled = true →
        i ∈ counted ∧ i ∈ appended) ∧
      ExactTelemetry (counted.map events) (appended.map events) (recordedParties enabled events schedule).shared ∧
      (∀ report, buildBundleAdoptionReport env
          (getBundleAdoptionSummary enabled (recordedParties enabled events schedule).shared) = some report →
        ExactReport env (counted.map events) report) ∧ (enabled = false → counted = []) := by
  have holds := recorded_run enabled events schedule
  generalize recordedParties enabled events schedule = parties at holds ⊢
  generalize countedCalls enabled events schedule = counted at holds
  generalize appendedCalls enabled events schedule = appended at holds
  refine ⟨counted, appended, holds.distinct.1, ?_, ?_, ?_, ?_, ?_⟩
  · refine List.subperm_of_subset holds.distinct.2 fun i member => ?_
    have stands := holds.stands i
    cases phase : parties.phases i with
    | arriving event =>
        rw [phase] at stands
        exact absurd member stands.2.2
    | counted event =>
        rw [phase] at stands
        exact stands.2.2.1
    | done =>
        rw [phase] at stands
        cases enabled with
        | true => exact (stands.1 rfl).1
        | false => exact absurd member (stands.2 rfl).2
  · intro i done on
    have stands := holds.stands i
    rw [done] at stands
    exact stands.1 on
  · have counters := holds.counters
    refine ⟨?_, ?_, ?_, ?_, ?_, holds.recent⟩
    · intro eventType
      rw [counters, fold_by_event, List.countP_map]
      rfl
    · intro bundleId
      rw [counters, fold_by_bundle, List.countP_map]
      rfl
    · intro bundleId eventType
      rw [counters, fold_matrix, List.countP_map]
      rfl
    · rw [counters, fold_saved, List.map_map]
      exact Nat.zero_add _
    · intro bundleId
      rw [counters, fold_bytes, List.filter_map, List.map_map]
      rfl
  · intro report built
    cases enabled with
    | true => exact exact_report env _ parties.shared holds.counters report built
    | false => contradiction
  · intro off
    refine List.eq_nil_iff_forall_not_mem.mpr fun i member => ?_
    have stands := holds.stands i
    cases phase : parties.phases i with
    | arriving event =>
        rw [phase] at stands
        exact stands.2.1 member
    | counted event =>
        rw [phase, off] at stands
        exact absurd stands.2.1 Bool.false_ne_true
    | done =>
        rw [phase] at stands
        exact (stands.2 off).1 member

end Vermyth
