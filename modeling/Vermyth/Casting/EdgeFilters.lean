import Vermyth.Casting.BasisMismatch
import Vermyth.Casting.Traversal
import Vermyth.Foundation.Ranked

set_option autoImplicit false

namespace Vermyth

open Foundation BreadthFirst Ranked

def CausalQuery.typed (query : CausalQuery) (types : Option (List CausalEdgeType)) : CausalQuery :=
  { query with edgeTypes := types }

def CastProcess.onlyTypes (process : CastProcess) (types : List CausalEdgeType) : CastProcess :=
  { process with causalEdges := process.causalEdges.only fun edge => edge.edgeType ∈ types }

structure SameAnswer (answer other : CausalSubgraph) : Prop where
  nodes : ∀ nodeId, nodeId ∈ answer.nodes ↔ nodeId ∈ other.nodes
  edges : ∀ edge, edge ∈ answer.edges ↔ edge ∈ other.edges

structure KeepsAnswer (answer other : CausalSubgraph) : Prop where
  nodes : ∀ nodeId ∈ answer.nodes, nodeId ∈ other.nodes
  edges : ∀ edge ∈ answer.edges, edge ∈ other.edges

def ShownWithin (process : CastProcess) (query : CausalQuery) (edge : CausalEdge) : Prop :=
  ∃ nodeId depth, depth < query.maxDepth ∧ WithinDepth process query depth nodeId ∧
    edge ∈ shownEdges process query nodeId

def NewestWithin (process : CastProcess) (query : CausalQuery) (edge : CausalEdge) : Prop :=
  ∃ nodeId depth, depth < query.maxDepth ∧ WithinDepth process query depth nodeId ∧
    edge ∈ process.queryCausalEdges nodeId query.minWeight ∧ query.Follows nodeId edge

theorem newest_within (process : CastProcess) (query : CausalQuery) (edge : CausalEdge) :
    NewestWithin process query edge ↔ ShownWithin process query edge := by
  simp only [NewestWithin, ShownWithin, shownEdges, List.mem_filter]

theorem edges_within (process : CastProcess) (query : CausalQuery) (edge : CausalEdge) :
    edge ∈ (causalSubgraph process query).edges ↔ ShownWithin process query edge :=
  (causal_subgraph_exact process query).edges edge

theorem nodes_of_edges (process : CastProcess) (query : CausalQuery) (nodeId : String) :
    nodeId ∈ (causalSubgraph process query).nodes ↔
      nodeId = query.rootCastId ∨ ∃ edge ∈ (causalSubgraph process query).edges, edge.Ends nodeId := by
  have exact_ := causal_subgraph_exact process query
  constructor
  · intro member
    have within := (exact_.nodes nodeId).mp member
    cases limit : query.maxDepth with
    | zero => exact absurd query.depthRange.1 (by omega)
    | succ depth =>
        rw [limit] at within
        cases within with
        | root => exact Or.inl rfl
        | step _ before _ inside edge =>
            obtain ⟨own, shown, joins⟩ := edge
            refine Or.inr ⟨own, (exact_.edges own).mpr ⟨before, depth, by omega, inside, shown⟩, ?_⟩
            exact joins_ends own before nodeId joins
  · rintro (rfl | ⟨edge, member, isEnd⟩)
    · exact (exact_.nodes _).mpr (.root query.maxDepth)
    · obtain ⟨source, target⟩ := exact_.closed edge member
      rcases isEnd with rfl | rfl
      · exact source
      · exact target

theorem keeps_answer_iff (process other : CastProcess) (query asked : CausalQuery)
    (root : query.rootCastId = asked.rootCastId) :
    KeepsAnswer (causalSubgraph process query) (causalSubgraph other asked) ↔
      ∀ edge, ShownWithin process query edge → NewestWithin other asked edge := by
  constructor
  · intro keeps edge shown
    rw [newest_within, ← edges_within]
    exact keeps.edges edge ((edges_within process query edge).mpr shown)
  · intro newest
    have edges : ∀ edge ∈ (causalSubgraph process query).edges, edge ∈ (causalSubgraph other asked).edges := by
      intro edge member
      rw [edges_within, ← newest_within]
      exact newest edge ((edges_within process query edge).mp member)
    refine ⟨?_, edges⟩
    intro nodeId member
    rw [nodes_of_edges] at member ⊢
    rw [← root]
    exact member.imp id fun ⟨edge, inEdges, isEnd⟩ => ⟨edge, edges edge inEdges, isEnd⟩

theorem same_answer_iff (answer other : CausalSubgraph) :
    SameAnswer answer other ↔ KeepsAnswer answer other ∧ KeepsAnswer other answer := by
  constructor
  · rintro ⟨nodes, edges⟩
    exact ⟨⟨fun nodeId => (nodes nodeId).mp, fun edge => (edges edge).mp⟩,
      ⟨fun nodeId => (nodes nodeId).mpr, fun edge => (edges edge).mpr⟩⟩
  · rintro ⟨⟨nodes, edges⟩, nodesBack, edgesBack⟩
    exact ⟨fun nodeId => ⟨nodes nodeId, nodesBack nodeId⟩, fun edge => ⟨edges edge, edgesBack edge⟩⟩

def createdText (edge : CausalEdge) : String := String.ofList edge.createdAt.isoformat

def Newer (a b : CausalEdge) : Prop := createdText b ≤ createdText a

instance : DecidableRel Newer := fun a b => inferInstanceAs (Decidable (createdText b ≤ createdText a))
instance : Std.Total Newer := ⟨fun a b => le_total (createdText b) (createdText a)⟩
instance : IsTrans CausalEdge Newer := ⟨fun _ _ _ first second => le_trans second first⟩

def rankedEdges (process : CastProcess) (nodeId : String) (minWeight : ℚ) : List CausalEdge :=
  (process.causalEdges.rows.filter fun edge =>
    minWeight ≤ edge.weight && (edge.sourceCastId = nodeId || edge.targetCastId = nodeId)).insertionSort Newer

theorem query_causal_edges (process : CastProcess) (nodeId : String) (minWeight : ℚ) :
    process.queryCausalEdges nodeId minWeight = (rankedEdges process nodeId minWeight).take 1000 := rfl

theorem ranked_only (process : CastProcess) (types : List CausalEdgeType) (nodeId : String) (minWeight : ℚ) :
    rankedEdges (process.onlyTypes types) nodeId minWeight =
      (rankedEdges process nodeId minWeight).filter fun edge => edge.edgeType ∈ types := by
  rw [rankedEdges, rankedEdges, filter_insertion_sort, List.filter_comm]
  rfl

theorem follows_typed (query : CausalQuery) (types : List CausalEdgeType) (some_ : types ≠ []) (nodeId : String)
    (edge : CausalEdge) : (query.typed (some types)).Follows nodeId edge ↔
      edge.edgeType ∈ types ∧ (query.typed none).Follows nodeId edge := by
  simp [CausalQuery.Follows, CausalQuery.typed, some_]

theorem shown_typed (process : CastProcess) (query : CausalQuery) (types : List CausalEdgeType) (some_ : types ≠ [])
    (nodeId : String) (edge : CausalEdge) (shown : edge ∈ shownEdges process (query.typed (some types)) nodeId) :
    edge ∈ shownEdges (process.onlyTypes types) (query.typed none) nodeId := by
  obtain ⟨queried, follows⟩ := List.mem_filter.mp shown
  obtain ⟨wanted, directed⟩ := (follows_typed query types some_ nodeId edge).mp follows
  refine List.mem_filter.mpr ⟨?_, directed⟩
  rw [query_causal_edges, ranked_only]
  refine filter_take_mem _ _ _ _ (List.mem_filter.mpr ⟨queried, ?_⟩)
  simpa using wanted

theorem within_typed (process : CastProcess) (query : CausalQuery) (types : List CausalEdgeType) (some_ : types ≠ [])
    (depth : Nat) (nodeId : String) (within : WithinDepth process (query.typed (some types)) depth nodeId) :
    WithinDepth (process.onlyTypes types) (query.typed none) depth nodeId :=
  within_of_steps _ _ _ nodeId depth
    (fun node _ ⟨edge, shown, joins⟩ => ⟨edge, shown_typed process query types some_ node edge shown, joins⟩) within

theorem typed_keeps (process : CastProcess) (query : CausalQuery) (types : List CausalEdgeType) (some_ : types ≠ []) :
    KeepsAnswer (causalSubgraph process (query.typed (some types)))
      (causalSubgraph (process.onlyTypes types) (query.typed none)) := by
  refine (keeps_answer_iff process (process.onlyTypes types) (query.typed (some types)) (query.typed none) rfl).mpr ?_
  rintro edge ⟨nodeId, depth, below, within, shown⟩
  rw [newest_within]
  exact ⟨nodeId, depth, below, within_typed process query types some_ depth nodeId within,
    shown_typed process query types some_ nodeId edge shown⟩

theorem none_wanted (process : CastProcess) (query : CausalQuery) (nodeId : String) :
    shownEdges (process.onlyTypes []) (query.typed none) nodeId = [] := by
  rw [shownEdges, query_causal_edges, ranked_only]
  simp

theorem isolated_root (process : CastProcess) (query : CausalQuery)
    (isolated : shownEdges process query query.rootCastId = []) (edge : CausalEdge) :
    ¬ ShownWithin process query edge := by
  rintro ⟨nodeId, depth, -, within, shown⟩
  have same := within_isolated _ _ nodeId depth
    (fun other ⟨own, shownAtRoot, _⟩ => by rw [isolated] at shownAtRoot; contradiction) within
  rw [same, isolated] at shown
  contradiction

def Uncrowded (process : CastProcess) (query : CausalQuery) (types : List CausalEdgeType) : Prop :=
  ∀ nodeId depth, depth < query.maxDepth → WithinDepth (process.onlyTypes types) (query.typed none) depth nodeId →
    ∀ edge ∈ shownEdges (process.onlyTypes types) (query.typed none) nodeId,
      edge ∈ process.queryCausalEdges nodeId query.minWeight

theorem shown_only (process : CastProcess) (query : CausalQuery) (types : List CausalEdgeType) (nodeId : String)
    (edge : CausalEdge) (shown : edge ∈ shownEdges (process.onlyTypes types) (query.typed none) nodeId) :
    edge.edgeType ∈ types ∧ (query.typed none).Follows nodeId edge := by
  obtain ⟨queried, directed⟩ := List.mem_filter.mp shown
  rw [query_causal_edges, ranked_only] at queried
  have wanted := (List.mem_filter.mp (List.mem_of_mem_take queried)).2
  exact ⟨by simpa using wanted, directed⟩

theorem uncrowded_shown (process : CastProcess) (query : CausalQuery) (types : List CausalEdgeType)
    (uncrowded : Uncrowded process query types) (some_ : types ≠ []) (nodeId : String) (depth : Nat)
    (below : depth < query.maxDepth)
    (within : WithinDepth (process.onlyTypes types) (query.typed none) depth nodeId) (edge : CausalEdge)
    (shown : edge ∈ shownEdges (process.onlyTypes types) (query.typed none) nodeId) :
    edge ∈ shownEdges process (query.typed (some types)) nodeId :=
  List.mem_filter.mpr ⟨uncrowded nodeId depth below within edge shown,
    (follows_typed query types some_ nodeId edge).mpr (shown_only process query types nodeId edge shown)⟩

theorem uncrowded_within (process : CastProcess) (query : CausalQuery) (types : List CausalEdgeType)
    (uncrowded : Uncrowded process query types) (some_ : types ≠ []) (depth : Nat) (nodeId : String)
    (below : depth < query.maxDepth)
    (within : WithinDepth (process.onlyTypes types) (query.typed none) depth nodeId) :
    WithinDepth process (query.typed (some types)) depth nodeId := by
  induction within with
  | root depth => exact .root depth
  | step depth node other inside edge ih =>
      obtain ⟨own, shown, joins⟩ := edge
      refine .step depth node other (ih (by omega)) ⟨own, ?_, joins⟩
      exact uncrowded_shown process query types uncrowded some_ node depth (by omega) inside own shown

theorem uncrowded_newest (process : CastProcess) (query : CausalQuery) (types : List CausalEdgeType)
    (uncrowded : Uncrowded process query types) (some_ : types ≠ []) (edge : CausalEdge)
    (shown : ShownWithin (process.onlyTypes types) (query.typed none) edge) :
    NewestWithin process (query.typed (some types)) edge := by
  obtain ⟨nodeId, depth, below, within, atNode⟩ := shown
  rw [newest_within]
  exact ⟨nodeId, depth, below, uncrowded_within process query types uncrowded some_ depth nodeId below within,
    uncrowded_shown process query types uncrowded some_ nodeId depth below within edge atNode⟩

theorem typed_same_iff (process : CastProcess) (query : CausalQuery) (types : List CausalEdgeType)
    (some_ : types ≠ []) :
    SameAnswer (causalSubgraph process (query.typed (some types)))
        (causalSubgraph (process.onlyTypes types) (query.typed none)) ↔
      ∀ edge, ShownWithin (process.onlyTypes types) (query.typed none) edge →
        NewestWithin process (query.typed (some types)) edge := by
  rw [same_answer_iff, and_iff_right (typed_keeps process query types some_)]
  exact keeps_answer_iff (process.onlyTypes types) process (query.typed none) (query.typed (some types)) rfl

theorem directed_end (query : CausalQuery) (directed : query.direction ≠ .both) (edge : CausalEdge)
    (nodeId other : String) (follows : query.Follows nodeId edge) (followsOther : query.Follows other edge) :
    nodeId = other := by
  rw [CausalQuery.Follows, Bool.and_eq_true] at follows followsOther
  cases way : query.direction with
  | both => exact absurd way directed
  | forward =>
      simp only [way, decide_eq_true_eq] at follows followsOther
      exact follows.2.symm.trans followsOther.2
  | backward =>
      simp only [way, decide_eq_true_eq] at follows followsOther
      exact follows.2.symm.trans followsOther.2

theorem uncrowded_iff (process : CastProcess) (query : CausalQuery) (types : List CausalEdgeType)
    (some_ : types ≠ []) (directed : query.direction ≠ .both) :
    SameAnswer (causalSubgraph process (query.typed (some types)))
        (causalSubgraph (process.onlyTypes types) (query.typed none)) ↔ Uncrowded process query types := by
  rw [typed_same_iff process query types some_]
  constructor
  · intro newest nodeId depth below within edge shown
    obtain ⟨other, _, -, -, queried, follows⟩ := newest edge ⟨nodeId, depth, below, within, shown⟩
    have same := directed_end (query.typed none) directed edge other nodeId
      ((follows_typed query types some_ other edge).mp follows).2 (shown_only process query types nodeId edge shown).2
    rw [← same]
    exact queried
  · exact fun uncrowded edge => uncrowded_newest process query types uncrowded some_ edge

theorem uncrowded_same (process : CastProcess) (query : CausalQuery) (types : List CausalEdgeType)
    (some_ : types ≠ []) (uncrowded : Uncrowded process query types) :
    SameAnswer (causalSubgraph process (query.typed (some types)))
      (causalSubgraph (process.onlyTypes types) (query.typed none)) :=
  (typed_same_iff process query types some_).mpr fun edge => uncrowded_newest process query types uncrowded some_ edge

theorem few_edges_uncrowded (process : CastProcess) (query : CausalQuery) (types : List CausalEdgeType)
    (few : ∀ nodeId, (rankedEdges process nodeId query.minWeight).length ≤ 1000) : Uncrowded process query types := by
  intro nodeId _ _ _ edge shown
  have queried := (List.mem_filter.mp shown).1
  rw [query_causal_edges, ranked_only] at queried
  rw [query_causal_edges, List.take_of_length_le (few nodeId)]
  exact (List.mem_filter.mp (List.mem_of_mem_take queried)).1

theorem no_types_iff (process : CastProcess) (query : CausalQuery) :
    SameAnswer (causalSubgraph process (query.typed (some [])))
        (causalSubgraph (process.onlyTypes []) (query.typed none)) ↔
      shownEdges process (query.typed (some [])) query.rootCastId = [] := by
  have empty : ∀ edge, ¬ ShownWithin (process.onlyTypes []) (query.typed none) edge :=
    isolated_root (process.onlyTypes []) (query.typed none) (none_wanted process query query.rootCastId)
  rw [same_answer_iff, keeps_answer_iff process (process.onlyTypes []) (query.typed (some [])) (query.typed none) rfl,
    keeps_answer_iff (process.onlyTypes []) process (query.typed none) (query.typed (some [])) rfl]
  constructor
  · intro ⟨keeps, _⟩
    by_contra shows
    obtain ⟨edge, shown⟩ := List.exists_mem_of_ne_nil _ shows
    refine empty edge ((newest_within _ _ edge).mp (keeps edge ⟨query.rootCastId, 0, ?_, .root 0, shown⟩))
    exact Nat.lt_of_lt_of_le Nat.zero_lt_one query.depthRange.1
  · intro isolated
    exact ⟨fun edge shown => absurd shown (isolated_root process (query.typed (some [])) isolated edge),
      fun edge shown => absurd shown (empty edge)⟩

-- Each edge that a cast nearer than max_depth shows is among the newest
-- thousand of that cast in the other store.
def StaysNewest (process other : CastProcess) (query : CausalQuery) : Prop :=
  ∀ nodeId depth, depth < query.maxDepth → WithinDepth process query depth nodeId →
    ∀ edge ∈ shownEdges process query nodeId, edge ∈ other.queryCausalEdges nodeId query.minWeight

theorem stays_shown (process other : CastProcess) (query : CausalQuery) (stays : StaysNewest process other query)
    (nodeId : String) (depth : Nat) (below : depth < query.maxDepth)
    (within : WithinDepth process query depth nodeId) (edge : CausalEdge)
    (shown : edge ∈ shownEdges process query nodeId) : edge ∈ shownEdges other query nodeId :=
  List.mem_filter.mpr ⟨stays nodeId depth below within edge shown, (List.mem_filter.mp shown).2⟩

theorem stays_within (process other : CastProcess) (query : CausalQuery) (stays : StaysNewest process other query)
    (depth : Nat) (nodeId : String) (below : depth < query.maxDepth)
    (within : WithinDepth process query depth nodeId) : WithinDepth other query depth nodeId := by
  induction within with
  | root depth => exact .root depth
  | step depth node further inside edge ih =>
      obtain ⟨own, shown, joins⟩ := edge
      refine .step depth node further (ih (by omega)) ⟨own, ?_, joins⟩
      exact stays_shown process other query stays node depth (by omega) inside own shown

theorem stays_keeps (process other : CastProcess) (query : CausalQuery) (stays : StaysNewest process other query) :
    KeepsAnswer (causalSubgraph process query) (causalSubgraph other query) := by
  refine (keeps_answer_iff process other query query rfl).mpr ?_
  rintro edge ⟨nodeId, depth, below, within, shown⟩
  rw [newest_within]
  exact ⟨nodeId, depth, below, stays_within process other query stays depth nodeId below within,
    stays_shown process other query stays nodeId depth below within edge shown⟩

theorem directed_keeps_iff (process other : CastProcess) (query : CausalQuery) (directed : query.direction ≠ .both) :
    KeepsAnswer (causalSubgraph process query) (causalSubgraph other query) ↔ StaysNewest process other query := by
  refine ⟨fun keeps nodeId depth below within edge shown => ?_, stays_keeps process other query⟩
  rw [keeps_answer_iff process other query query rfl] at keeps
  obtain ⟨further, _, -, -, queried, follows⟩ := keeps edge ⟨nodeId, depth, below, within, shown⟩
  rw [← directed_end query directed edge further nodeId follows (List.mem_filter.mp shown).2]
  exact queried

theorem edge_filters_iff (process : CastProcess) (query : CausalQuery) (types : List CausalEdgeType) :
    (types = [] →
      (SameAnswer (causalSubgraph process (query.typed (some types)))
          (causalSubgraph (process.onlyTypes types) (query.typed none)) ↔
        shownEdges process (query.typed (some types)) query.rootCastId = [])) ∧
      (types ≠ [] → Uncrowded process query types →
        SameAnswer (causalSubgraph process (query.typed (some types)))
          (causalSubgraph (process.onlyTypes types) (query.typed none))) ∧
      (types ≠ [] → query.direction ≠ .both →
        (SameAnswer (causalSubgraph process (query.typed (some types)))
          (causalSubgraph (process.onlyTypes types) (query.typed none)) ↔ Uncrowded process query types)) ∧
      ∀ fuller : CastProcess,
        (StaysNewest process fuller (query.typed (some types)) →
          KeepsAnswer (causalSubgraph process (query.typed (some types)))
            (causalSubgraph fuller (query.typed (some types)))) ∧
        (query.direction ≠ .both →
          (KeepsAnswer (causalSubgraph process (query.typed (some types)))
              (causalSubgraph fuller (query.typed (some types))) ↔
            StaysNewest process fuller (query.typed (some types)))) := by
  refine ⟨?_, uncrowded_same process query types, uncrowded_iff process query types, fun fuller => ⟨?_, ?_⟩⟩
  · rintro rfl
    exact no_types_iff process query
  · exact stays_keeps process fuller (query.typed (some types))
  · exact directed_keeps_iff process fuller (query.typed (some types))

def edgeNamed (name target : String) (edgeType : CausalEdgeType) (createdAt : Datetime) : CausalEdge where
  edgeId := name
  sourceCastId := "root"
  targetCastId := target
  edgeType := edgeType
  weight := 1
  createdAt := createdAt
  weightRange := by decide +kernel

def dayBefore : Datetime :=
  { sampleTime with year := 2025, yearRange := by decide, dayRange := by decide }

def causingEdge : CausalEdge := edgeNamed "cause" "effect" .causes dayBefore

def crowd (count : Nat) : List CausalEdge :=
  (List.range count).map fun index => edgeNamed (String.ofList (List.replicate index 'n')) "root" .enables sampleTime

theorem crowd_ids (count : Nat) (edge : CausalEdge) (member : edge ∈ crowd count) :
    ∃ index, edge = edgeNamed (String.ofList (List.replicate index 'n')) "root" .enables sampleTime := by
  obtain ⟨index, -, same⟩ := List.mem_map.mp member
  exact ⟨index, same.symm⟩

def causeTable : Table CausalEdge.edgeId where
  rows := [causingEdge]
  distinct := List.nodup_singleton _

theorem crowd_unwanted (count : Nat) (edge : CausalEdge) (member : edge ∈ crowd count) : edge.edgeType ≠ .causes := by
  obtain ⟨index, rfl⟩ := crowd_ids count edge member
  exact fun same => by contradiction

def crowdedTable (count : Nat) : Table CausalEdge.edgeId where
  rows := [causingEdge] ++ crowd count
  distinct := by
    rw [List.map_append, List.nodup_append]
    refine ⟨List.nodup_singleton _, ?_, ?_⟩
    · rw [crowd, List.map_map]
      refine List.Nodup.map ?_ List.nodup_range
      intro a b same
      have lengths := congrArg (fun text : String => text.toList.length) same
      simpa [edgeNamed] using lengths
    · intro a isCause b isCrowd same
      obtain ⟨edge, member, rfl⟩ := List.mem_map.mp isCrowd
      obtain ⟨index, rfl⟩ := crowd_ids count edge member
      have cause : a = "cause" := by simpa [causingEdge, edgeNamed] using isCause
      have heads := congrArg (fun text : String => text.toList.all (· = 'n')) (cause.symm.trans same)
      simp [edgeNamed] at heads

def quietRoot : CastProcess := { newProcess {} with causalEdges := causeTable }
def crowdedRoot (count : Nat) : CastProcess := { newProcess {} with causalEdges := crowdedTable count }

def causesOf (nodeId : String) : CausalQuery where
  rootCastId := nodeId
  edgeTypes := some [.causes]

theorem crowd_newer (count : Nat) (edge : CausalEdge) (member : edge ∈ crowd count) : ¬ Newer causingEdge edge := by
  obtain ⟨index, rfl⟩ := crowd_ids count edge member
  change ¬ createdText (edgeNamed "" "root" .enables sampleTime) ≤ createdText causingEdge
  decide

theorem crowded_ranked (count : Nat) :
    rankedEdges (crowdedRoot count) "root" 0 = crowd count ++ [causingEdge] := by
  have kept : ∀ edge ∈ [causingEdge] ++ crowd count, ((0 : ℚ) ≤ edge.weight &&
      (edge.sourceCastId = "root" || edge.targetCastId = "root")) = true := by
    intro edge member
    rcases List.mem_append.mp member with isCause | inCrowd
    · rw [List.mem_singleton.mp isCause]
      decide +kernel
    · obtain ⟨index, rfl⟩ := crowd_ids count edge inCrowd
      simp [edgeNamed]
  have sorted : (crowd count).Pairwise Newer := by
    refine List.pairwise_of_forall_mem_list fun a inA b inB => ?_
    obtain ⟨_, rfl⟩ := crowd_ids count a inA
    obtain ⟨_, rfl⟩ := crowd_ids count b inB
    exact le_refl (createdText (edgeNamed "" "root" .enables sampleTime))
  change ((([causingEdge] ++ crowd count).filter _).insertionSort Newer) = _
  rw [List.filter_eq_self.mpr kept, List.singleton_append, List.insertionSort_cons, sorted.insertionSort_eq]
  exact ordered_insert_after Newer causingEdge (crowd count) (crowd_newer count)

theorem quiet_ranked : rankedEdges quietRoot "root" 0 = [causingEdge] := by
  have kept : ∀ edge ∈ [causingEdge], ((0 : ℚ) ≤ edge.weight &&
      (edge.sourceCastId = "root" || edge.targetCastId = "root")) = true := by
    intro edge member
    rw [List.mem_singleton.mp member]
    decide +kernel
  change (([causingEdge].filter _).insertionSort Newer) = _
  rw [List.filter_eq_self.mpr kept]
  rfl

theorem wanted_ranked (count : Nat) : rankedEdges ((crowdedRoot count).onlyTypes [.causes]) "root" 0 = [causingEdge] := by
  have unwanted : (crowd count).filter (fun edge => edge.edgeType ∈ [CausalEdgeType.causes]) = [] := by
    rw [List.filter_eq_nil_iff]
    intro edge member
    obtain ⟨index, rfl⟩ := crowd_ids count edge member
    simp [edgeNamed]
  rw [ranked_only, crowded_ranked, List.filter_append, unwanted, List.nil_append]
  rfl

theorem ranked_cause_shown (process : CastProcess) (query : CausalQuery) (lightest : query.minWeight = 0)
    (ranked : rankedEdges process "root" 0 = [causingEdge]) (follows : query.Follows "root" causingEdge) :
    causingEdge ∈ shownEdges process query "root" := by
  refine List.mem_filter.mpr ⟨?_, follows⟩
  rw [query_causal_edges, lightest, ranked]
  exact List.mem_cons_self

theorem crowded_root_shows_none : shownEdges (crowdedRoot 1000) (causesOf "root") "root" = [] := by
  have newest : (crowdedRoot 1000).queryCausalEdges "root" 0 = crowd 1000 := by
    rw [query_causal_edges, crowded_ranked]
    exact List.take_left' (by rw [crowd, List.length_map, List.length_range])
  rw [shownEdges]
  change ((crowdedRoot 1000).queryCausalEdges "root" 0).filter _ = []
  rw [newest, List.filter_eq_nil_iff]
  intro edge member
  obtain ⟨index, rfl⟩ := crowd_ids 1000 edge member
  simp [CausalQuery.Follows, causesOf, edgeNamed]

theorem wanted_edge_crowded_out :
    causingEdge ∈ (causalSubgraph quietRoot (causesOf "root")).edges ∧
      causingEdge ∈ (causalSubgraph ((crowdedRoot 1000).onlyTypes [.causes]) ((causesOf "root").typed none)).edges ∧
      (causalSubgraph (crowdedRoot 1000) (causesOf "root")).edges = [] ∧
      (crowdedRoot 1000).causalEdges.rows = quietRoot.causalEdges.rows ++ crowd 1000 ∧
      ∀ edge ∈ crowd 1000, edge.edgeType ≠ .causes := by
  refine ⟨?_, ?_, ?_, rfl, ?_⟩
  · rw [edges_within]
    exact ⟨"root", 0, by decide, .root 0, ranked_cause_shown _ _ rfl quiet_ranked (by decide)⟩
  · rw [edges_within]
    exact ⟨"root", 0, by decide, .root 0, ranked_cause_shown _ _ rfl (wanted_ranked 1000) (by decide)⟩
  · rw [List.eq_nil_iff_forall_not_mem]
    intro edge
    rw [edges_within]
    exact isolated_root (crowdedRoot 1000) (causesOf "root") crowded_root_shows_none edge
  · intro edge member
    exact crowd_unwanted 1000 edge member

end Vermyth
