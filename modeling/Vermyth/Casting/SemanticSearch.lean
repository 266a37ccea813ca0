import Mathlib.Data.Prod.Lex
import Mathlib.Data.String.Basic
import Vermyth.Casting.DecisionRecords
import Vermyth.Foundation.TopK
import Vermyth.Grimoire.Replay

set_option autoImplicit false

namespace Vermyth

open Foundation

structure SemanticQuery where
  proximityTo : Option SemanticVector := none
  proximityThreshold : Option ℚ := none
  limit : Nat := 20

def SemanticQuery.make (proximityTo : Option SemanticVector) (proximityThreshold : Option ℚ) (limit : Int) :
    Except PyError SemanticQuery :=
  if ¬ proximityThreshold.all (fun threshold => 0 ≤ threshold ∧ threshold ≤ 1) then
    .error (invalid "SemanticQuery" "proximity_threshold")
  else if ¬ (1 ≤ limit ∧ limit ≤ 100) then .error (invalid "SemanticQuery" "limit")
  else if proximityThreshold.isSome ∧ proximityTo.isNone then
    .error (.valueError "proximity_to is required when proximity_threshold is set")
  else .ok { proximityTo := proximityTo, proximityThreshold := proximityThreshold, limit := limit.toNat }

-- The pairs (sim, cast_id) that the heap holds, compared one after the other.
abbrev SearchItem := ℚ ×ₗ String

def SearchItem.sim (item : SearchItem) : ℚ := (ofLex item).1

def SearchItem.castId (item : SearchItem) : String := (ofLex item).2

theorem sim_monotone : Monotone SearchItem.sim := Prod.Lex.monotone_fst_ofLex

namespace CastProcess

variable (process : CastProcess)

def scanRow (proximityTo : SemanticVector) (threshold : ℚ) (limit : Nat) (top : List SearchItem) (row : CastRecord) :
    Except PyError (List SearchItem) := do
  let sim ← cosineSimilarity process.math proximityTo row.sigil.semanticVector.stored
  return if sim < threshold then top else TopK.offer SearchItem.sim limit top (toLex (sim, row.castId))

def fetchCasts (ids : List String) : Except PyError (List CastRecord) := do
  let found ← (process.casts.rows.filter fun row => row.castId ∈ ids).mapM process.deserializeCast
  return ids.filterMap fun castId => found.find? fun result => result.castId = castId

def semanticSearch (query : SemanticQuery) : Except PyError (List CastRecord) :=
  match query.proximityTo, query.proximityThreshold with
  | some proximityTo, some threshold => do
      let top ← process.casts.rows.foldlM (process.scanRow proximityTo threshold query.limit) []
      process.fetchCasts ((top.insertionSort fun a b => b.sim ≤ a.sim).map SearchItem.castId)
  | _, _ => .error (.valueError "proximity_to and proximity_threshold are required")

def toolSemanticSearch (proximityVector : List ℚ) (threshold : ℚ) (limit : Int) : Except PyError (List CastRecord) :=
  if six : proximityVector.length = 6 then
    if proximityVector.any fun x => x < -1 ∨ 1 < x then
      .error (.valueError "proximity_vector components must be between -1.0 and 1.0")
    else if threshold < 0 ∨ 1 < threshold then .error (.valueError "threshold must be between 0.0 and 1.0")
    else do
      let query ← SemanticQuery.make (some { components := proximityVector, atLeastSix := six.ge }) (some threshold) limit
      match process.semanticSearch query with
      | .error (.valueError text) => .error (.valueError text)
      | .error raised => .error (.runtimeError ("semantic_search failed: " ++ raised.text))
      | .ok rows => .ok rows
  else .error (.valueError "proximity_vector must have exactly 6 elements")

-- The similarity of a cast to the query, the shorter vector taken to go on with
-- zeros.
def similarity (proximityTo : SemanticVector) (record : CastRecord) : ℚ :=
  cosine process.math proximityTo.components record.sigil.semanticVector.components

def matching (proximityTo : SemanticVector) (threshold : ℚ) : List SearchItem :=
  (process.casts.rows.filter fun row => threshold ≤ process.similarity proximityTo row).map fun row =>
    toLex (process.similarity proximityTo row, row.castId)

structure ExactTopK (proximityTo : SemanticVector) (threshold : ℚ) (limit : Nat) (results : List CastRecord) : Prop where
  distinct : (results.map CastRecord.castId).Nodup
  count : results.length = min limit
    (process.casts.rows.filter fun row => threshold ≤ process.similarity proximityTo row).length
  stored : ∀ result ∈ results, ∃ row ∈ process.casts.rows, row.castId = result.castId ∧
    threshold ≤ process.similarity proximityTo row ∧ process.readCast row.castId = .ok result
  descending : results.Pairwise fun a b => process.similarity proximityTo b ≤ process.similarity proximityTo a
  highest : ∀ row ∈ process.casts.rows, row.castId ∉ results.map CastRecord.castId →
    ∀ result ∈ results, process.similarity proximityTo row ≤ process.similarity proximityTo result

-- A cast is kept when fewer than limit of the casts scanned before it are as
-- similar, and of all such casts fewer than limit are more similar than it, or as
-- similar with a larger id.
def Kept (proximityTo : SemanticVector) (threshold : ℚ) (limit : Nat) (row : CastRecord) : Prop :=
  TopK.Chosen SearchItem.sim limit (process.matching proximityTo threshold)
    (toLex (process.similarity proximityTo row, row.castId))

theorem scan_row_same (proximityTo : SemanticVector) (threshold : ℚ) (limit : Nat) (top : List SearchItem)
    (row : CastRecord)
    (same : row.sigil.semanticVector.normalizedBasisVersion = proximityTo.normalizedBasisVersion) :
    process.scanRow proximityTo threshold limit top row =
      .ok (if threshold ≤ process.similarity proximityTo row then
        TopK.offer SearchItem.sim limit top (toLex (process.similarity proximityTo row, row.castId)) else top) := by
  have shared : cosineSimilarity process.math proximityTo row.sigil.semanticVector.stored =
      .ok (process.similarity proximityTo row) := if_pos same.symm
  rw [scanRow, shared]
  by_cases within : threshold ≤ process.similarity proximityTo row
  · rw [if_pos within]
    exact congrArg Except.ok (if_neg (not_lt.mpr within))
  · rw [if_neg within]
    exact congrArg Except.ok (if_pos (not_le.mp within))

theorem scan_row_basis (proximityTo : SemanticVector) (threshold : ℚ) (limit : Nat) (top after : List SearchItem)
    (row : CastRecord) (scanned : process.scanRow proximityTo threshold limit top row = .ok after) :
    row.sigil.semanticVector.normalizedBasisVersion = proximityTo.normalizedBasisVersion := by
  obtain ⟨sim, similar, -⟩ := (bind_ok _ _ _).mp scanned
  by_cases same : proximityTo.normalizedBasisVersion = row.sigil.semanticVector.normalizedBasisVersion
  · exact same.symm
  · cases (if_neg same).symm.trans similar

theorem scan_basis (proximityTo : SemanticVector) (threshold : ℚ) (limit : Nat) (rows : List CastRecord)
    (top after : List SearchItem)
    (scanned : rows.foldlM (process.scanRow proximityTo threshold limit) top = .ok after) :
    ∀ row ∈ rows, row.sigil.semanticVector.normalizedBasisVersion = proximityTo.normalizedBasisVersion := by
  induction rows generalizing top with
  | nil => exact fun row member => absurd member List.not_mem_nil
  | cons first rest ih =>
      rw [List.foldlM_cons] at scanned
      obtain ⟨next, step, later⟩ := (bind_ok _ _ _).mp scanned
      rw [List.forall_mem_cons]
      exact ⟨process.scan_row_basis proximityTo threshold limit top next first step, ih next later⟩

theorem scan_same (proximityTo : SemanticVector) (threshold : ℚ) (limit : Nat) (rows : List CastRecord)
    (top : List SearchItem)
    (same : ∀ row ∈ rows, row.sigil.semanticVector.normalizedBasisVersion = proximityTo.normalizedBasisVersion) :
    rows.foldlM (process.scanRow proximityTo threshold limit) top =
      .ok (((rows.filter fun row => threshold ≤ process.similarity proximityTo row).map fun row =>
        toLex (process.similarity proximityTo row, row.castId)).foldl (TopK.offer SearchItem.sim limit) top) := by
  induction rows generalizing top with
  | nil => rfl
  | cons first rest ih =>
      obtain ⟨sameFirst, sameRest⟩ := List.forall_mem_cons.mp same
      rw [List.foldlM_cons, process.scan_row_same proximityTo threshold limit top first sameFirst]
      change rest.foldlM _ _ = _
      rw [ih _ sameRest, List.filter_cons]
      by_cases within : threshold ≤ process.similarity proximityTo first
      · rw [if_pos within, if_pos (decide_eq_true within), List.map_cons, List.foldl_cons]
      · rw [if_neg within, if_neg (by simpa using within)]

theorem deserialize_ok_iff (row : CastRecord) :
    (∃ result, process.deserializeCast row = .ok result) ↔ process.registry.Knows row.sigil.aspects.names := by
  constructor
  · rintro ⟨result, read⟩
    obtain ⟨resolved, known, -⟩ := (bind_ok _ _ _).mp read
    intro name member
    exact (resolve_known _ name).mpr ((resolve_names_iff _ _).mp ⟨resolved, known⟩ name member)
  · intro known
    obtain ⟨resolved, ok⟩ := resolve_names_known _ _ known
    exact ⟨_, (bind_ok _ _ _).mpr ⟨resolved, ok, rfl⟩⟩

theorem deserialize_keeps (row result : CastRecord) (read : process.deserializeCast row = .ok result) :
    result.castId = row.castId ∧
      result.sigil.semanticVector.components = row.sigil.semanticVector.components := by
  obtain ⟨resolved, -, made⟩ := (bind_ok _ _ _).mp read
  cases Except.ok.inj made
  exact ⟨rfl, rfl⟩

theorem fetched (ids : List String) (results : List CastRecord) (ok : process.fetchCasts ids = .ok results)
    (known : ∀ castId ∈ ids, process.casts.Has castId) :
    ∃ find : String → Option CastRecord, results = ids.filterMap find ∧ ∀ castId ∈ ids, ∃ row ∈ process.casts.rows,
      ∃ result, row.castId = castId ∧ process.deserializeCast row = .ok result ∧ find castId = some result := by
  obtain ⟨found, read, made⟩ := (bind_ok _ _ _).mp ok
  refine ⟨fun castId => found.find? fun result => result.castId = castId, (Except.ok.inj made).symm, ?_⟩
  intro castId member
  obtain ⟨row, inRows, named⟩ := List.mem_map.mp (known castId member)
  have selected : row ∈ process.casts.rows.filter fun row => row.castId ∈ ids :=
    List.mem_filter.mpr ⟨inRows, decide_eq_true (named ▸ member)⟩
  obtain ⟨result, inFound, own⟩ := map_m_each _ _ found read row selected
  have ownId := (process.deserialize_keeps row result own).1.trans named
  refine ⟨row, inRows, result, named, own, ?_⟩
  cases first : found.find? fun result => result.castId = castId with
  | none => exact absurd (decide_eq_true ownId) (List.find?_eq_none.mp first result inFound)
  | some other =>
      have otherId : other.castId = castId := by simpa using List.find?_some first
      obtain ⟨source, inSelected, again⟩ := map_m_mem _ _ found read other (List.mem_of_find?_eq_some first)
      have sourceId := (process.deserialize_keeps source other again).1.symm.trans otherId
      obtain rfl := process.casts.row_unique source row (List.mem_filter.mp inSelected).1 inRows (sourceId.trans named.symm)
      rw [Except.ok.inj (again.symm.trans own)] at first
      exact first

theorem fetch_ok_iff (ids : List String) : (∃ results, process.fetchCasts ids = .ok results) ↔
    ∀ row ∈ process.casts.rows, row.castId ∈ ids → process.registry.Knows row.sigil.aspects.names := by
  constructor
  · rintro ⟨results, ok⟩ row inRows member
    obtain ⟨found, read, -⟩ := (bind_ok _ _ _).mp ok
    obtain ⟨result, -, own⟩ := map_m_each _ _ found read row (List.mem_filter.mpr ⟨inRows, decide_eq_true member⟩)
    exact (process.deserialize_ok_iff row).mp ⟨result, own⟩
  · intro known
    have each : ∀ row ∈ process.casts.rows.filter fun row => row.castId ∈ ids,
        ∃ result, process.deserializeCast row = .ok result := by
      intro row selected
      obtain ⟨inRows, member⟩ := List.mem_filter.mp selected
      exact (process.deserialize_ok_iff row).mpr (known row inRows (of_decide_eq_true member))
    obtain ⟨found, read⟩ := map_m_total process.deserializeCast _ each
    exact ⟨_, (bind_ok _ _ _).mpr ⟨found, read, rfl⟩⟩

theorem mem_matching (proximityTo : SemanticVector) (threshold : ℚ) (item : SearchItem) :
    item ∈ process.matching proximityTo threshold ↔ ∃ row ∈ process.casts.rows, threshold ≤ item.sim ∧
      item = toLex (process.similarity proximityTo row, row.castId) := by
  rw [matching, List.mem_map]
  constructor
  · rintro ⟨row, selected, rfl⟩
    obtain ⟨inRows, within⟩ := List.mem_filter.mp selected
    exact ⟨row, inRows, of_decide_eq_true within, rfl⟩
  · rintro ⟨row, inRows, within, rfl⟩
    exact ⟨row, List.mem_filter.mpr ⟨inRows, decide_eq_true within⟩, rfl⟩

theorem matching_ids (proximityTo : SemanticVector) (threshold : ℚ) :
    ((process.matching proximityTo threshold).map SearchItem.castId).Nodup := by
  rw [matching, List.map_map]
  exact process.casts.distinct.sublist (List.filter_sublist.map CastRecord.castId)

theorem selected_matching (proximityTo : SemanticVector) (threshold : ℚ) (limit : Nat) (top : List SearchItem)
    (selects : TopK.Selects SearchItem.sim limit (process.matching proximityTo threshold) top) (item : SearchItem)
    (member : item ∈ top) : ∃ row ∈ process.casts.rows, threshold ≤ item.sim ∧
      item = toLex (process.similarity proximityTo row, row.castId) := by
  obtain ⟨rest, perm, -⟩ := selects.highest
  exact (process.mem_matching proximityTo threshold item).mp (perm.mem_iff.mpr (List.mem_append_left rest member))

theorem selected_ids (proximityTo : SemanticVector) (threshold : ℚ) (limit : Nat) (top : List SearchItem)
    (selects : TopK.Selects SearchItem.sim limit (process.matching proximityTo threshold) top) :
    (top.map SearchItem.castId).Nodup := by
  obtain ⟨rest, perm, -⟩ := selects.highest
  have all := (perm.map SearchItem.castId).nodup_iff.mp (process.matching_ids proximityTo threshold)
  rw [List.map_append] at all
  exact (List.nodup_append.mp all).1

theorem fetched_items (proximityTo : SemanticVector) (threshold : ℚ) (limit : Nat) (top items : List SearchItem)
    (results : List CastRecord)
    (selects : TopK.Selects SearchItem.sim limit (process.matching proximityTo threshold) top)
    (same : items.Perm top) (ok : process.fetchCasts (items.map SearchItem.castId) = .ok results) :
    ∃ find : SearchItem → Option CastRecord, results = items.filterMap find ∧ ∀ item ∈ items,
      ∃ row ∈ process.casts.rows, ∃ result, row.castId = item.castId ∧ result.castId = item.castId ∧
        threshold ≤ item.sim ∧ process.similarity proximityTo row = item.sim ∧
        process.similarity proximityTo result = item.sim ∧ process.readCast row.castId = .ok result ∧
        find item = some result := by
  have known : ∀ castId ∈ items.map SearchItem.castId, process.casts.Has castId := by
    intro castId member
    obtain ⟨item, inItems, rfl⟩ := List.mem_map.mp member
    obtain ⟨row, inRows, -, rfl⟩ :=
      process.selected_matching proximityTo threshold limit top selects item (same.mem_iff.mp inItems)
    exact process.casts.has_row row inRows
  obtain ⟨find, made, each⟩ := process.fetched _ results ok known
  refine ⟨fun item => find item.castId, by rw [made, List.filterMap_map]; rfl, ?_⟩
  intro item inItems
  obtain ⟨source, inSource, within, rfl⟩ :=
    process.selected_matching proximityTo threshold limit top selects item (same.mem_iff.mp inItems)
  obtain ⟨row, inRows, result, named, read, isFound⟩ := each _ (List.mem_map_of_mem inItems)
  obtain rfl := process.casts.row_unique row source inRows inSource named
  obtain ⟨ownId, components⟩ := process.deserialize_keeps row result read
  have found := process.casts.find_row row inRows
  exact ⟨row, inRows, result, rfl, ownId, within, rfl, by rw [similarity, components]; rfl,
    (process.read_cast_found _ row found).trans read, isFound⟩

theorem fetched_exact (proximityTo : SemanticVector) (threshold : ℚ) (limit : Nat) (top items : List SearchItem)
    (results : List CastRecord)
    (selects : TopK.Selects SearchItem.sim limit (process.matching proximityTo threshold) top)
    (same : items.Perm top) (descending : items.Pairwise fun a b => b.sim ≤ a.sim)
    (ok : process.fetchCasts (items.map SearchItem.castId) = .ok results) :
    process.ExactTopK proximityTo threshold limit results := by
  obtain ⟨find, made, each⟩ :=
    process.fetched_items proximityTo threshold limit top items results selects same ok
  have ids : results.map CastRecord.castId = items.map SearchItem.castId := by
    have named : ∀ item ∈ items, (find item).map CastRecord.castId = some item.castId := by
      intro item member
      obtain ⟨row, -, result, -, ownId, -, -, -, -, isFound⟩ := each item member
      rw [isFound, Option.map_some, ownId]
    rw [made, List.map_filterMap, List.filterMap_congr named]
    exact congrFun List.filterMap_eq_map' items
  have members : ∀ result ∈ results, ∃ item ∈ items, find item = some result := by
    intro result member
    rw [made] at member
    exact List.mem_filterMap.mp member
  constructor
  · rw [ids]
    exact (same.map SearchItem.castId).nodup_iff.mpr
      (process.selected_ids proximityTo threshold limit top selects)
  · have lengths := congrArg List.length ids
    rw [List.length_map, List.length_map, same.length_eq, selects.size, matching, List.length_map] at lengths
    exact lengths
  · intro result member
    obtain ⟨item, inItems, finds⟩ := members result member
    obtain ⟨row, inRows, own, rowId, ownId, within, rowSim, -, read, isFound⟩ := each item inItems
    obtain rfl := Option.some.inj (isFound.symm.trans finds)
    exact ⟨row, inRows, rowId.trans ownId.symm, rowSim ▸ within, read⟩
  · rw [made, List.pairwise_filterMap]
    refine descending.imp_of_mem ?_
    intro a b inA inB falls first isFirst second isSecond
    obtain ⟨-, -, own, -, -, -, -, ownSim, -, isFound⟩ := each a inA
    obtain ⟨-, -, other, -, -, -, -, otherSim, -, isOther⟩ := each b inB
    obtain rfl := Option.some.inj (isFound.symm.trans isFirst)
    obtain rfl := Option.some.inj (isOther.symm.trans isSecond)
    rw [ownSim, otherSim]
    exact falls
  · intro row inRows out result member
    obtain ⟨item, inItems, finds⟩ := members result member
    obtain ⟨-, -, own, -, -, within, -, ownSim, -, isFound⟩ := each item inItems
    obtain rfl := Option.some.inj (isFound.symm.trans finds)
    rw [ownSim]
    by_cases meets : threshold ≤ process.similarity proximityTo row
    · obtain ⟨rest, perm, lower⟩ := selects.highest
      let own : SearchItem := toLex (process.similarity proximityTo row, row.castId)
      have scanned := (process.mem_matching proximityTo threshold own).mpr ⟨row, inRows, meets, rfl⟩
      obtain kept | dropped := List.mem_append.mp (perm.mem_iff.mp scanned)
      · refine absurd ?_ out
        rw [ids]
        exact List.mem_map.mpr ⟨_, same.mem_iff.mpr kept, rfl⟩
      · exact lower _ dropped item (same.mem_iff.mp inItems)
    · exact (not_le.mp meets).le.trans within

theorem search_ok_iff (proximityTo : SemanticVector) (threshold : ℚ) (limit : Nat) (results : List CastRecord) :
    process.semanticSearch { proximityTo := some proximityTo, proximityThreshold := some threshold, limit := limit } =
        .ok results ↔
      (∀ row ∈ process.casts.rows,
        row.sigil.semanticVector.normalizedBasisVersion = proximityTo.normalizedBasisVersion) ∧
        process.fetchCasts ((((process.matching proximityTo threshold).foldl (TopK.offer SearchItem.sim limit) []).insertionSort
          fun a b => b.sim ≤ a.sim).map SearchItem.castId) = .ok results := by
  change (process.casts.rows.foldlM (process.scanRow proximityTo threshold limit) [] >>= _) = .ok results ↔ _
  constructor
  · intro ok
    obtain ⟨top, scanned, fetches⟩ := (bind_ok _ _ _).mp ok
    have same := process.scan_basis proximityTo threshold limit _ [] top scanned
    rw [process.scan_same proximityTo threshold limit _ [] same] at scanned
    cases Except.ok.inj scanned
    exact ⟨same, fetches⟩
  · rintro ⟨same, fetches⟩
    exact (bind_ok _ _ _).mpr ⟨_, process.scan_same proximityTo threshold limit _ [] same, fetches⟩

theorem kept_iff (proximityTo : SemanticVector) (threshold : ℚ) (limit : Nat) (row : CastRecord)
    (inRows : row ∈ process.casts.rows) : process.Kept proximityTo threshold limit row ↔
      row.castId ∈ (((process.matching proximityTo threshold).foldl (TopK.offer SearchItem.sim limit) []).insertionSort
        fun a b => b.sim ≤ a.sim).map SearchItem.castId := by
  have distinct := (process.matching_ids proximityTo threshold).of_map
  have selects := TopK.selects_run limit sim_monotone _ distinct
  rw [Kept, ← TopK.selects_chosen _ _ distinct selects, List.mem_map]
  constructor
  · intro kept
    exact ⟨_, (List.mem_insertionSort _).mpr kept, rfl⟩
  · rintro ⟨item, member, named⟩
    have inTop := (List.mem_insertionSort _).mp member
    obtain ⟨source, inSource, -, rfl⟩ := process.selected_matching proximityTo threshold limit _ selects item inTop
    obtain rfl := process.casts.row_unique source row inSource inRows named
    exact inTop

theorem search_exact (proximityTo : SemanticVector) (threshold : ℚ) (limit : Nat) (results : List CastRecord)
    (found : process.semanticSearch
      { proximityTo := some proximityTo, proximityThreshold := some threshold, limit := limit } = .ok results) :
    process.ExactTopK proximityTo threshold limit results := by
  obtain ⟨-, fetches⟩ := (process.search_ok_iff proximityTo threshold limit results).mp found
  have distinct := (process.matching_ids proximityTo threshold).of_map
  have selects := TopK.selects_run limit sim_monotone _ distinct
  have ordered := List.perm_insertionSort (fun a b : SearchItem => b.sim ≤ a.sim)
    ((process.matching proximityTo threshold).foldl (TopK.offer SearchItem.sim limit) [])
  have descending := List.pairwise_insertionSort (fun a b : SearchItem => b.sim ≤ a.sim)
    ((process.matching proximityTo threshold).foldl (TopK.offer SearchItem.sim limit) [])
  exact process.fetched_exact proximityTo threshold limit _ _ results selects ordered descending fetches

theorem semantic_query_made (proximityTo : Option SemanticVector) (proximityThreshold : Option ℚ) (limit : Int)
    (query : SemanticQuery) (made : SemanticQuery.make proximityTo proximityThreshold limit = .ok query) :
    1 ≤ limit ∧ limit ≤ 100 ∧
      query = { proximityTo := proximityTo, proximityThreshold := proximityThreshold, limit := limit.toNat } := by
  rw [SemanticQuery.make] at made
  split_ifs at made with _ range
  exact ⟨range.1, range.2, (Except.ok.inj made).symm⟩

theorem tool_search_exact (proximityVector : List ℚ) (threshold : ℚ) (limit : Int) (results : List CastRecord)
    (found : process.toolSemanticSearch proximityVector threshold limit = .ok results) :
    InUnit threshold ∧ 1 ≤ limit ∧ limit ≤ 100 ∧ ∃ six : 6 ≤ proximityVector.length,
      process.ExactTopK { components := proximityVector, atLeastSix := six } threshold limit.toNat results := by
  rw [toolSemanticSearch] at found
  split_ifs at found with six _ range
  obtain ⟨query, made, found⟩ := (bind_ok _ _ _).mp found
  obtain ⟨low, high, rfl⟩ := semantic_query_made _ _ limit query made
  rw [not_or, not_lt, not_lt] at range
  refine ⟨range, low, high, six.ge, process.search_exact _ threshold limit.toNat results ?_⟩
  cases searched : process.semanticSearch _ with
  | ok rows =>
      rw [searched] at found
      exact found
  | error raised =>
      rw [searched] at found
      cases raised <;> contradiction

end CastProcess

open CastProcess in
theorem semantic_search_exact_iff (process : CastProcess) (proximityTo : SemanticVector) (threshold : ℚ) (limit : Nat) :
    (∃ results, process.semanticSearch
        { proximityTo := some proximityTo, proximityThreshold := some threshold, limit := limit } = .ok results ∧
          process.ExactTopK proximityTo threshold limit results) ↔
      (∀ row ∈ process.casts.rows,
        row.sigil.semanticVector.normalizedBasisVersion = proximityTo.normalizedBasisVersion) ∧
        ∀ row ∈ process.casts.rows, ¬ process.registry.Knows row.sigil.aspects.names →
          ¬ process.Kept proximityTo threshold limit row := by
  have kept (row : CastRecord) (inRows : row ∈ process.casts.rows) := process.kept_iff proximityTo threshold limit row inRows
  constructor
  · rintro ⟨results, found, -⟩
    obtain ⟨same, fetches⟩ := (process.search_ok_iff proximityTo threshold limit results).mp found
    refine ⟨same, fun row inRows unknown isKept => unknown ?_⟩
    exact (process.fetch_ok_iff _).mp ⟨results, fetches⟩ row inRows ((kept row inRows).mp isKept)
  · rintro ⟨same, known⟩
    have fetchable := (process.fetch_ok_iff _).mpr fun row inRows member =>
      of_not_not fun unknown => known row inRows unknown ((kept row inRows).mpr member)
    obtain ⟨results, fetches⟩ := fetchable
    have found := (process.search_ok_iff proximityTo threshold limit results).mpr ⟨same, fetches⟩
    exact ⟨results, found, process.search_exact proximityTo threshold limit results found⟩

def revealedLater : CastRecord := { revealed with castId := "later", sigil := longAgain }

def extendedStore : CastProcess :=
  { newProcess withHarmony with casts := revealedProcess.casts.append revealedLater (by decide) }

def firstBasis : SemanticVector := { components := [1, 0, 0, 0, 0, 0], atLeastSix := first_axis_six }

theorem later_cast_poisons : ¬ ∃ results, extendedStore.semanticSearch
    { proximityTo := some firstBasis, proximityThreshold := some 0, limit := 1 } = .ok results ∧
      extendedStore.ExactTopK firstBasis 0 1 results := by
  rintro ⟨results, found, -⟩
  have same := ((extendedStore.search_ok_iff firstBasis 0 1 results).mp found).1
  have isLater : revealedLater ∈ extendedStore.casts.rows := List.mem_append_right _ (List.mem_singleton_self _)
  exact absurd (same revealedLater isLater) (by decide)

end Vermyth
