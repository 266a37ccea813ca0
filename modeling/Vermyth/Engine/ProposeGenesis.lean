import Vermyth.Engine.FluidCasting
import Vermyth.Foundation.Grouping
import Vermyth.Foundation.RunningMean
import Vermyth.Schema.Swarm

set_option autoImplicit false

namespace Vermyth

open Foundation

structure GenesisSettings where
  minClusterSize : Int := 15
  minUnexplainedVariance : ℚ := 3 / 10
  minCoherenceRate : ℚ := 6 / 10

structure GenesisStamps where
  genesisId : Nat → String
  proposedAt : Datetime

-- What propose_genesis reads of a cast.
structure GenesisCast where
  castId : String
  components : List ℚ
  verdict : Verdict
  atLeastSix : 6 ≤ components.length

def CastRecord.genesis (cast : CastRecord) : GenesisCast where
  castId := cast.castId
  components := cast.sigil.semanticVector.components
  verdict := cast.verdict.verdict
  atLeastSix := cast.sigil.semanticVector.atLeastSix

def GenesisCast.adjusted (cast : GenesisCast) : ℚ := cast.verdict.resonance.adjusted

-- max(range(len(comps)), key=lambda i: abs(comps[i]))
def dominantIndex (components : List ℚ) : Nat :=
  ((List.range components.length).argmax fun i => |coeff components i|).getD 0

def coherentEnough (cast : GenesisCast) : Bool := cast.verdict.verdictType = .coherent ∧ 75 / 100 ≤ cast.adjusted

def genesisClusters (history : List GenesisCast) : List (Nat × List GenesisCast) :=
  grouped (fun cast => dominantIndex cast.components) (history.filter coherentEnough)

def genesisCentroid (dim : Nat) (members : List GenesisCast) : List ℚ :=
  (List.range dim).map fun i => meanOf (members.map fun cast => coeff cast.components i)

def genesisCoherence (members : List GenesisCast) : ℚ :=
  (members.countP fun cast => cast.verdict.verdictType = .coherent) / members.length

def unexplained (centroid : List ℚ) : ℚ :=
  let total := (centroid.map abs).sum
  1 - ((centroid.take aspectCanonicalOrder.length).map abs).foldr max 0 / (if total = 0 then 1 else total)

def worthProposing (dim : Nat) (settings : GenesisSettings) (cluster : Nat × List GenesisCast) : Bool :=
  settings.minClusterSize ≤ cluster.2.length ∧ settings.minCoherenceRate ≤ genesisCoherence cluster.2 ∧
    ¬ (cluster.1 < aspectCanonicalOrder.length ∧
      unexplained (genesisCentroid dim cluster.2) < settings.minUnexplainedVariance)

def genesisSymbols : List String := ["✧", "✶", "✷", "✹", "✺", "✻", "✼", "✽"]

def genesisName (dominant count : Nat) : String := "GENESIS_" ++ toString dominant ++ "_" ++ toString count

def genesisSpread (math : VectorMath) (members : List GenesisCast) (dominant : Nat) (dominantValue : ℚ) : ℚ :=
  math.sqrt (meanOf (members.map fun cast =>
    (coeff cast.components dominant - dominantValue) * (coeff cast.components dominant - dominantValue)))

-- EmergentAspect(...)
def EmergentAspect.make (genesisId proposedName : String) (derivedPolarity : Int) (derivedEntropy : ℚ)
    (proposedSymbol : String) (centroidVector : SemanticVector) (supportCount : Nat)
    (meanResonance coherenceRate : ℚ) (proposedAt : Datetime) (evidenceCastIds : List String) :
    Except PyError EmergentAspect := do
  let derived ← RegisteredAspect.make proposedName derivedPolarity derivedEntropy proposedSymbol
  if ¬ 1 ≤ supportCount then .error (invalid "EmergentAspect" "support_count")
  else if ¬ InUnit meanResonance then .error (invalid "EmergentAspect" "mean_resonance")
  else if ¬ InUnit coherenceRate then .error (invalid "EmergentAspect" "coherence_rate")
  else .ok { genesisId, derived, centroidVector, supportCount, meanResonance, coherenceRate, proposedAt, evidenceCastIds }

def proposeCluster (engine : ResonanceEngine) (stamps : GenesisStamps) (cluster : Nat × List GenesisCast) :
    Except PyError EmergentAspect := do
  let dim := engine.registry.dimensionality
  let centroid := genesisCentroid dim cluster.2
  let dominantValue := coeff centroid cluster.1
  let polarity : Int := if 0 ≤ dominantValue then 1 else -1
  let entropy := clampUnit |genesisSpread engine.math cluster.2 cluster.1 dominantValue|
  let centroidVector ← SemanticVector.make centroid none
  EmergentAspect.make (stamps.genesisId cluster.1) (genesisName cluster.1 cluster.2.length) polarity entropy
    (genesisSymbols.getD (cluster.1 % genesisSymbols.length) "") centroidVector cluster.2.length
    (clampUnit (meanOf (cluster.2.map GenesisCast.adjusted))) (clampUnit (genesisCoherence cluster.2))
    stamps.proposedAt ((cluster.2.take 10).map GenesisCast.castId)

def proposeGenesis (engine : ResonanceEngine) (history : List CastRecord) (settings : GenesisSettings)
    (stamps : GenesisStamps) : Except PyError (List EmergentAspect) :=
  ((genesisClusters (history.map CastRecord.genesis)).filter
    (worthProposing engine.registry.dimensionality settings)).mapM (proposeCluster engine stamps)

def FirstDominant (components : List ℚ) (index : Nat) : Prop :=
  index < components.length ∧ (∀ i < components.length, |coeff components i| ≤ |coeff components index|) ∧
    ∀ i < index, |coeff components i| < |coeff components index|

instance (components : List ℚ) (index : Nat) : Decidable (FirstDominant components index) :=
  inferInstanceAs (Decidable (_ ∧ _))

def Supports (index : Nat) (cast : GenesisCast) : Prop :=
  cast.verdict.verdictType = .coherent ∧ 75 / 100 ≤ cast.adjusted ∧ FirstDominant cast.components index

instance (index : Nat) : DecidablePred (Supports index) := fun _ => inferInstanceAs (Decidable (_ ∧ _))

def supporters (history : List GenesisCast) (index : Nat) : List GenesisCast :=
  history.filter (Supports index)

structure WorthProposing (dim : Nat) (settings : GenesisSettings) (history : List GenesisCast) (index : Nat) :
    Prop where
  supported : supporters history index ≠ []
  size : settings.minClusterSize ≤ (supporters history index).length
  coherence : settings.minCoherenceRate ≤ 1
  unexplained : index < aspectCanonicalOrder.length →
    settings.minUnexplainedVariance ≤ unexplained (genesisCentroid dim (supporters history index))

structure EmergentAspect.Valid (aspect : EmergentAspect) : Prop where
  supportCount : 1 ≤ aspect.supportCount
  meanResonance : InUnit aspect.meanResonance
  coherenceRate : InUnit aspect.coherenceRate
  reviewNote : ∀ note ∈ aspect.reviewNote, note.length ≤ 500

structure ProposedOn (dim : Nat) (history : List GenesisCast) (index : Nat) (proposal : EmergentAspect) : Prop where
  name : proposal.proposedName = genesisName index (supporters history index).length
  supportCount : proposal.supportCount = (supporters history index).length
  centroidLength : proposal.centroidVector.components.length = dim
  basis : proposal.centroidVector.basisVersion = none
  centroid : ∀ i < dim, coeff proposal.centroidVector.components i =
    meanOf ((supporters history index).map fun cast => coeff cast.components i)
  meanResonance : proposal.meanResonance = meanOf ((supporters history index).map GenesisCast.adjusted)
  evidence : ∀ castId ∈ proposal.evidenceCastIds, ∃ cast ∈ supporters history index, cast.castId = castId
  valid : proposal.Valid

theorem range_index (count i : Nat) (inside : i < count) : (List.range count).idxOf i = i := by
  have own := List.nodup_range.idxOf_getElem i (by rwa [List.length_range])
  rwa [List.getElem_range] at own

theorem argmax_first (components : List ℚ) (index : Nat) :
    (List.range components.length).argmax (fun i => |coeff components i|) = some index ↔
      FirstDominant components index := by
  rw [List.argmax_eq_some_iff]
  simp only [List.mem_range]
  constructor
  · rintro ⟨inside, largest, first⟩
    refine ⟨inside, largest, ?_⟩
    intro i before
    by_contra large
    have late := first i (before.trans inside) (not_lt.mp large)
    rw [range_index _ index inside, range_index _ i (before.trans inside)] at late
    omega
  · rintro ⟨inside, largest, first⟩
    refine ⟨inside, largest, ?_⟩
    intro i within large
    rw [range_index _ index inside, range_index _ i within]
    by_contra before
    exact absurd large (not_le.mpr (first i (not_le.mp before)))

theorem first_dominant_iff (components : List ℚ) (some : components ≠ []) (index : Nat) :
    dominantIndex components = index ↔ FirstDominant components index := by
  rw [← argmax_first, dominantIndex]
  cases found : (List.range components.length).argmax fun i => |coeff components i| with
  | none =>
      rw [List.argmax_eq_none, List.range_eq_nil, List.length_eq_zero_iff] at found
      exact absurd found some
  | some own => rw [Option.getD_some, Option.some_inj]

theorem supports_one (cast : GenesisCast) (i j : Nat) (onI : Supports i cast) (onJ : Supports j cast) : i = j := by
  have some : cast.components ≠ [] := List.ne_nil_of_length_pos (Nat.lt_of_lt_of_le (by decide) cast.atLeastSix)
  rw [← (first_dominant_iff _ some i).mpr onI.2.2]
  exact (first_dominant_iff _ some j).mpr onJ.2.2

theorem clusters_supporters (history : List GenesisCast) :
    (∀ cluster ∈ genesisClusters history, cluster.2 = supporters history cluster.1) ∧
      ((genesisClusters history).map Prod.fst).Nodup ∧
        ∀ index, index ∈ (genesisClusters history).map Prod.fst ↔ supporters history index ≠ [] := by
  have grouping := grouped_grouping (fun cast : GenesisCast => dominantIndex cast.components)
    (history.filter coherentEnough)
  have each : ∀ index, ((history.filter coherentEnough).filter fun cast => dominantIndex cast.components = index) =
      supporters history index := by
    intro index
    rw [List.filter_filter, supporters]
    refine List.filter_congr fun cast _ => ?_
    have some : cast.components ≠ [] := List.ne_nil_of_length_pos (Nat.lt_of_lt_of_le (by decide) cast.atLeastSix)
    rw [Bool.eq_iff_iff, Bool.and_eq_true, coherentEnough, decide_eq_true_eq, decide_eq_true_eq, decide_eq_true_eq,
      first_dominant_iff _ some, Supports]
    tauto
  refine ⟨?_, grouping.distinct, ?_⟩
  · intro cluster member
    rw [grouping.whole cluster member, each]
  · intro index
    rw [genesisClusters, grouping.named, ← each, ne_eq, List.filter_eq_nil_iff]
    simp [and_assoc]

theorem supporters_coherent (history : List GenesisCast) (index : Nat) (some : supporters history index ≠ []) :
    genesisCoherence (supporters history index) = 1 := by
  have all : (supporters history index).countP (fun cast => cast.verdict.verdictType = .coherent) =
      (supporters history index).length := by
    rw [List.countP_eq_length]
    intro cast member
    have supports := of_decide_eq_true (List.mem_filter.mp member).2
    exact decide_eq_true supports.1
  rw [genesisCoherence, all]
  exact div_self (Nat.cast_ne_zero.mpr (mt List.length_eq_zero_iff.mp some))

theorem worth_proposing_iff (dim : Nat) (settings : GenesisSettings) (history : List GenesisCast) (index : Nat) :
    index ∈ ((genesisClusters history).filter (worthProposing dim settings)).map Prod.fst ↔
      WorthProposing dim settings history index := by
  obtain ⟨members, -, named⟩ := clusters_supporters history
  have worth : ∀ cluster ∈ genesisClusters history, cluster.1 = index →
      (worthProposing dim settings cluster = true ↔ WorthProposing dim settings history index) := by
    rintro ⟨own, cluster⟩ member rfl
    have whole := members _ member
    dsimp only at whole
    subst whole
    have supported := (named own).mp (List.mem_map_of_mem member)
    rw [worthProposing, decide_eq_true_eq]
    dsimp only
    rw [supporters_coherent history own supported, not_and, not_lt]
    exact ⟨fun ⟨size, coherence, unexplained⟩ => ⟨supported, size, coherence, unexplained⟩,
      fun ⟨_, size, coherence, unexplained⟩ => ⟨size, coherence, unexplained⟩⟩
  rw [List.mem_map]
  constructor
  · rintro ⟨cluster, kept, isIndex⟩
    obtain ⟨member, worthy⟩ := List.mem_filter.mp kept
    exact (worth cluster member isIndex).mp worthy
  · intro worthy
    obtain ⟨cluster, member, isIndex⟩ := List.mem_map.mp ((named index).mpr worthy.supported)
    exact ⟨cluster, List.mem_filter.mpr ⟨member, (worth cluster member isIndex).mpr worthy⟩, isIndex⟩

theorem digits_text (n : Nat) : ∀ c ∈ (toString n).toList, c.isDigit = true := by
  intro c member
  rw [Nat.toString_eq_repr, Nat.toList_repr] at member
  exact Nat.isDigit_of_mem_toDigits (by decide) (by decide) member

theorem genesis_name_chars (dominant count : Nat) : (genesisName dominant count).toList =
    'G' :: (['E', 'N', 'E', 'S', 'I', 'S', '_'] ++ (toString dominant).toList ++ ['_'] ++ (toString count).toList) := by
  rw [genesisName, String.toList_append, String.toList_append, String.toList_append]
  rfl

theorem genesis_name_valid (dominant count : Nat) : aspectName (genesisName dominant count) = true := by
  rw [aspectName, genesis_name_chars]
  dsimp only
  rw [Bool.and_eq_true]
  refine ⟨by decide, ?_⟩
  rw [List.all_eq_true]
  intro c member
  have digit : ∀ n : Nat, c ∈ (toString n).toList → (c.isUpper || c.isDigit || c = '_') = true := by
    intro n inText
    rw [digits_text n c inText, Bool.or_true, Bool.true_or]
  simp only [List.mem_append] at member
  rcases member with ((letters | inDominant) | mark) | inCount
  · have all : ['E', 'N', 'E', 'S', 'I', 'S', '_'].all (fun c => c.isUpper || c.isDigit || c = '_') = true := by decide
    exact List.all_eq_true.mp all c letters
  · exact digit dominant inDominant
  · rw [List.mem_singleton.mp mark]
    rfl
  · exact digit count inCount

theorem genesis_name_index (i j m n : Nat) (same : genesisName i m = genesisName j n) : i = j := by
  have chars := congrArg String.toList same
  rw [genesis_name_chars, genesis_name_chars] at chars
  simp only [List.cons_append, List.nil_append, List.cons.injEq, true_and] at chars
  have front : ∀ k count : Nat, ((toString k).toList ++ '_' :: (toString count).toList).takeWhile Char.isDigit =
      (toString k).toList := by
    intro k count
    rw [List.takeWhile_append_of_pos (digits_text k), List.takeWhile_cons_of_neg (by decide), List.append_nil]
  simp only [List.append_assoc, List.cons_append, List.nil_append] at chars
  have digits := congrArg (List.takeWhile Char.isDigit) chars
  rw [front, front, Nat.toString_eq_repr, Nat.toString_eq_repr, Nat.toList_repr, Nat.toList_repr] at digits
  calc
    i = Nat.ofDigitChars 10 (Nat.toDigits 10 i) 0 := Nat.ofDigitChars_ten_toDigits.symm
    _ = Nat.ofDigitChars 10 (Nat.toDigits 10 j) 0 := by rw [digits]
    _ = j := Nat.ofDigitChars_ten_toDigits

theorem genesis_symbol_length (dominant : Nat) :
    (genesisSymbols.getD (dominant % genesisSymbols.length) "").length = 1 := by
  have each : ∀ place < genesisSymbols.length, (genesisSymbols.getD place "").length = 1 := by decide
  exact each _ (Nat.mod_lt _ (by decide))

theorem emergent_make_ok (genesisId proposedName : String) (derivedPolarity : Int) (derivedEntropy : ℚ)
    (proposedSymbol : String) (centroidVector : SemanticVector) (supportCount : Nat)
    (meanResonance coherenceRate : ℚ) (proposedAt : Datetime) (evidenceCastIds : List String)
    (proposal : EmergentAspect) (made : EmergentAspect.make genesisId proposedName derivedPolarity derivedEntropy
      proposedSymbol centroidVector supportCount meanResonance coherenceRate proposedAt evidenceCastIds =
        .ok proposal) :
    proposal.Valid ∧ ∃ derived : RegisteredAspect, derived.name = proposedName ∧
      proposal = { genesisId, derived, centroidVector, supportCount, meanResonance, coherenceRate, proposedAt,
                   evidenceCastIds } := by
  obtain ⟨derived, own, made⟩ := (bind_ok _ _ _).mp made
  split_ifs at made with count mean rate
  obtain rfl := Except.ok.inj made
  refine ⟨⟨count, mean, rate, fun note given => absurd given (Option.not_mem_none note)⟩, derived, ?_, rfl⟩
  rw [RegisteredAspect.make] at own
  split_ifs at own
  rw [← Except.ok.inj own]

-- A name that is too long is all that EmergentAspect refuses here.
theorem emergent_make_total (genesisId proposedName : String) (derivedPolarity : Int) (derivedEntropy : ℚ)
    (proposedSymbol : String) (centroidVector : SemanticVector) (supportCount : Nat)
    (meanResonance coherenceRate : ℚ) (proposedAt : Datetime) (evidenceCastIds : List String)
    (nameValid : aspectName proposedName = true ∧ proposedName.length ≤ 30)
    (polarity : derivedPolarity = -1 ∨ derivedPolarity = 1) (entropy : 0 ≤ derivedEntropy ∧ derivedEntropy ≤ 1)
    (symbol : proposedSymbol.length = 1) (count : 1 ≤ supportCount) (mean : InUnit meanResonance)
    (rate : InUnit coherenceRate) :
    ∃ proposal, EmergentAspect.make genesisId proposedName derivedPolarity derivedEntropy proposedSymbol
      centroidVector supportCount meanResonance coherenceRate proposedAt evidenceCastIds = .ok proposal := by
  rw [EmergentAspect.make, RegisteredAspect.make, dif_pos nameValid, dif_pos polarity, dif_pos entropy, dif_pos symbol]
  dsimp only [bind, Except.bind]
  rw [if_neg (not_not.mpr count), if_neg (not_not.mpr mean), if_neg (not_not.mpr rate)]
  exact ⟨_, rfl⟩

theorem mean_adjusted_in_unit (members : List GenesisCast) : InUnit (meanOf (members.map GenesisCast.adjusted)) :=
  mean_in_unit _ fun adjusted member => by
    obtain ⟨cast, -, rfl⟩ := List.mem_map.mp member
    exact cast.verdict.resonance.inRange

theorem genesis_vector (registry : AspectRegistry) (members : List GenesisCast) :
    ∃ vector, SemanticVector.make (genesisCentroid registry.dimensionality members) none = .ok vector ∧
      vector.components = genesisCentroid registry.dimensionality members ∧ vector.basisVersion = none := by
  have six : 6 ≤ (genesisCentroid registry.dimensionality members).length := by
    rw [genesisCentroid, List.length_map, List.length_range]
    exact registry.dimensionality_six
  rw [SemanticVector.make, dif_pos six]
  exact ⟨_, rfl, rfl, rfl⟩

section Propose

variable (engine : ResonanceEngine) (stamps : GenesisStamps) (history : List GenesisCast) (index : Nat)

theorem propose_cluster_ok (proposal : EmergentAspect)
    (proposed : proposeCluster engine stamps (index, supporters history index) = .ok proposal) :
    proposal.genesisId = stamps.genesisId index ∧
      ProposedOn engine.registry.dimensionality history index proposal := by
  obtain ⟨vector, isVector, components, basis⟩ := genesis_vector engine.registry (supporters history index)
  rw [proposeCluster] at proposed
  dsimp only at proposed
  rw [isVector] at proposed
  obtain ⟨valid, derived, name, rfl⟩ := emergent_make_ok _ _ _ _ _ _ _ _ _ _ _ _ proposed
  refine ⟨rfl, name, rfl, ?_, basis, ?_, ?_, ?_, valid⟩
  · dsimp only
    rw [components, genesisCentroid, List.length_map, List.length_range]
  · intro i inside
    dsimp only
    rw [components, genesisCentroid, coeff_range, if_pos inside]
  · exact clamp_of_unit _ (mean_adjusted_in_unit _)
  · intro castId listed
    obtain ⟨cast, early, isId⟩ := List.mem_map.mp listed
    exact ⟨cast, List.mem_of_mem_take early, isId⟩

theorem propose_cluster_total (some : supporters history index ≠ [])
    (fits : (genesisName index (supporters history index).length).length ≤ 30) :
    ∃ proposal, proposeCluster engine stamps (index, supporters history index) = .ok proposal := by
  obtain ⟨vector, isVector, -⟩ := genesis_vector engine.registry (supporters history index)
  rw [proposeCluster]
  dsimp only
  rw [isVector]
  refine emergent_make_total _ _ _ _ _ _ _ _ _ _ _ ⟨genesis_name_valid _ _, fits⟩ ?_ (clamp_in_unit _)
    (genesis_symbol_length index) (List.length_pos_of_ne_nil some) (clamp_in_unit _) (clamp_in_unit _)
  split
  · exact Or.inr rfl
  · exact Or.inl rfl

end Propose

def ProposedAll (dim : Nat) (settings : GenesisSettings) (stamps : GenesisStamps) (history : List GenesisCast)
    (indexes : List Nat) (proposals : List EmergentAspect) : Prop :=
  indexes.Nodup ∧ (∀ index, index ∈ indexes ↔ WorthProposing dim settings history index) ∧
    List.Forall₂ (fun index proposal => proposal.genesisId = stamps.genesisId index ∧
      ProposedOn dim history index proposal) indexes proposals

theorem propose_genesis_ok (engine : ResonanceEngine) (history : List CastRecord) (settings : GenesisSettings)
    (stamps : GenesisStamps) (proposals : List EmergentAspect)
    (proposed : proposeGenesis engine history settings stamps = .ok proposals) :
    ∃ indexes, ProposedAll engine.registry.dimensionality settings stamps (history.map CastRecord.genesis) indexes
      proposals := by
  obtain ⟨members, distinct, -⟩ := clusters_supporters (history.map CastRecord.genesis)
  refine ⟨_, distinct.sublist (List.filter_sublist.map Prod.fst), worth_proposing_iff _ settings _, ?_⟩
  rw [List.forall₂_map_left_iff]
  refine ((List.forall₂_and_left _ _).mpr ⟨fun cluster kept => members cluster (List.mem_of_mem_filter kept),
    map_m_pairs _ _ _ proposed⟩).imp ?_
  rintro ⟨index, cluster⟩ proposal ⟨whole, made⟩
  dsimp only at whole
  subst whole
  exact propose_cluster_ok engine stamps _ index proposal made

theorem propose_genesis_total (engine : ResonanceEngine) (history : List CastRecord) (settings : GenesisSettings)
    (stamps : GenesisStamps)
    (fits : ∀ index, WorthProposing engine.registry.dimensionality settings (history.map CastRecord.genesis) index →
      (genesisName index (supporters (history.map CastRecord.genesis) index).length).length ≤ 30) :
    ∃ proposals, proposeGenesis engine history settings stamps = .ok proposals := by
  obtain ⟨members, -, -⟩ := clusters_supporters (history.map CastRecord.genesis)
  apply map_m_total
  intro cluster kept
  have worthy := (worth_proposing_iff _ settings _ cluster.1).mp (List.mem_map_of_mem kept)
  have whole : cluster = (cluster.1, supporters (history.map CastRecord.genesis) cluster.1) :=
    Prod.ext rfl (members cluster (List.mem_of_mem_filter kept))
  rw [whole]
  exact propose_cluster_total engine stamps _ cluster.1 worthy.supported (fits cluster.1 worthy)

end Vermyth
