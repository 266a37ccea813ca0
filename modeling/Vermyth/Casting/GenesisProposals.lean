import Vermyth.Casting.SemanticSearch
import Vermyth.Engine.ProposeGenesis
import Vermyth.Grimoire.Genesis
import Vermyth.Schema.DatetimeOrder

set_option autoImplicit false

namespace Vermyth

open Foundation

def stampText (cast : CastRecord) : String := String.ofList cast.timestamp.isoformat

-- ORDER BY timestamp DESC
def NoOlder (a b : CastRecord) : Prop := stampText b ≤ stampText a

instance : DecidableRel NoOlder := fun a b => inferInstanceAs (Decidable (stampText b ≤ stampText a))
instance : Std.Total NoOlder := ⟨fun a b => le_total (stampText b) (stampText a)⟩
instance : IsTrans CastRecord NoOlder := ⟨fun _ _ _ first second => le_trans second first⟩

-- The history_limit of a call that names none.
def genesisHistoryLimit : Int := 500

namespace CastProcess

variable (process : CastProcess)

-- The rows of cast_results that a query without a filter takes.
def newestCasts (limit : Nat) : List CastRecord := (process.casts.rows.insertionSort NoOlder).take limit

def query (query : SemanticQuery) : Except PyError (List CastRecord) :=
  (process.newestCasts query.limit).mapM process.deserializeCast

def withGrimoire (grimoire : Grimoire) : CastProcess :=
  { process with seeds := { process.seeds with grimoire := grimoire } }

def writeProposals : List EmergentAspect → CastProcess → CallOutcome Unit
  | [], process => (.ok (), process)
  | proposal :: rest, process =>
      match writeEmergentAspect proposal process.seeds.grimoire with
      | .error raised => (.error raised, process)
      | .ok grimoire => writeProposals rest (process.withGrimoire grimoire)

def beginGenesis (historyLimit : Int) (settings : GenesisSettings) (stamps : GenesisStamps) :
    Except PyError (List EmergentAspect) := do
  let query ← SemanticQuery.make none none historyLimit
  let history ← process.query query
  proposeGenesis process.engine history settings stamps

def toolProposeGenesis (historyLimit : Int) (settings : GenesisSettings) (stamps : GenesisStamps) :
    CallOutcome (List EmergentAspect) :=
  match process.beginGenesis historyLimit settings stamps with
  | .error raised => (.error raised, process)
  | .ok proposals =>
      match writeProposals proposals process with
      | (.error raised, left) => (.error raised, left)
      | (.ok _, after) => (.ok proposals, after)

end CastProcess

structure Newest (rows : List CastRecord) (limit : Nat) (newest : List CastRecord) : Prop where
  distinct : (newest.map CastRecord.castId).Nodup
  stored : ∀ cast ∈ newest, cast ∈ rows
  count : newest.length = min limit rows.length
  newer : ∀ row ∈ rows, row ∉ newest → ∀ cast ∈ newest, stampText row ≤ stampText cast
  later : ∀ row ∈ rows, row ∉ newest → ∀ cast ∈ newest, row.timestamp.offset = some 0 →
    cast.timestamp.offset = some 0 → row.timestamp.instant ≤ cast.timestamp.instant

structure CoversHistory (process : CastProcess) (limit : Nat) (settings : GenesisSettings) (stamps : GenesisStamps)
    (proposals : List EmergentAspect) : Prop where
  covers : ∃ newest indexes, Newest process.casts.rows limit newest ∧
    ProposedAll process.registry.dimensionality settings stamps (newest.map CastRecord.genesis) indexes proposals
  apart : ∀ cast : GenesisCast, ∀ i j, Supports i cast → Supports j cast → i = j

structure Proposable (process : CastProcess) (limit : Int) (settings : GenesisSettings) : Prop where
  within : limit ≤ 100
  known : ∀ row ∈ process.newestCasts limit.toNat, ∀ name ∈ row.sigil.aspects.names, name ∈ process.registry.names
  named : ∀ index, WorthProposing process.registry.dimensionality settings
      ((process.newestCasts limit.toNat).map CastRecord.genesis) index →
    let name := genesisName index
      (supporters ((process.newestCasts limit.toNat).map CastRecord.genesis) index).length
    name.length ≤ 30 ∧ ∀ old ∈ process.seeds.grimoire.emergentAspects.rows, old.proposedName ≠ name

theorem newest_casts (process : CastProcess) (limit : Nat) :
    Newest process.casts.rows limit (process.newestCasts limit) := by
  have same := List.perm_insertionSort NoOlder process.casts.rows
  have newer : ∀ row ∈ process.casts.rows, row ∉ process.newestCasts limit →
      ∀ cast ∈ process.newestCasts limit, stampText row ≤ stampText cast := by
    intro row member left cast taken
    have sorted := List.pairwise_insertionSort NoOlder process.casts.rows
    rw [← List.take_append_drop limit (process.casts.rows.insertionSort NoOlder)] at sorted
    have inSorted := same.mem_iff.mpr member
    rw [← List.take_append_drop limit (process.casts.rows.insertionSort NoOlder), List.mem_append] at inSorted
    exact (List.pairwise_append.mp sorted).2.2 cast taken row (inSorted.resolve_left left)
  refine ⟨?_, ?_, ?_, newer, ?_⟩
  · exact ((same.map CastRecord.castId).nodup_iff.mpr process.casts.distinct).sublist
      ((List.take_sublist limit _).map CastRecord.castId)
  · exact fun cast member => same.mem_iff.mp (List.mem_of_mem_take member)
  · rw [CastProcess.newestCasts, List.length_take, same.length_eq]
  · intro row member left cast taken zoneRow zoneCast
    exact (isoformat_le_iff _ _ zoneRow zoneCast).mp (newer row member left cast taken)

namespace CastProcess

variable (process : CastProcess)

theorem deserialize_genesis (record read : CastRecord) (reads : process.deserializeCast record = .ok read) :
    read.genesis = record.genesis := by
  obtain ⟨aspects, -, reads⟩ := (bind_ok _ _ _).mp reads
  obtain rfl := Except.ok.inj reads
  rfl

theorem deserialize_iff (record : CastRecord) : (∃ read, process.deserializeCast record = .ok read) ↔
    ∀ name ∈ record.sigil.aspects.names, name ∈ process.registry.names := by
  rw [← resolve_names_iff]
  constructor
  · rintro ⟨read, reads⟩
    obtain ⟨aspects, resolved, -⟩ := (bind_ok _ _ _).mp reads
    exact ⟨aspects, resolved⟩
  · rintro ⟨aspects, resolved⟩
    exact ⟨_, (bind_ok _ _ _).mpr ⟨aspects, resolved, rfl⟩⟩

theorem deserialize_all (rows history : List CastRecord)
    (each : List.Forall₂ (fun record read => process.deserializeCast record = .ok read) rows history) :
    history.map CastRecord.genesis = rows.map CastRecord.genesis := by
  induction each with
  | nil => rfl
  | cons reads others ih => rw [List.map_cons, List.map_cons, ih, process.deserialize_genesis _ _ reads]

theorem query_genesis (query : SemanticQuery) (history : List CastRecord) (queried : process.query query = .ok history) :
    history.map CastRecord.genesis = (process.newestCasts query.limit).map CastRecord.genesis :=
  process.deserialize_all _ _ (map_m_pairs _ _ _ queried)

theorem query_ok_iff (query : SemanticQuery) : (∃ history, process.query query = .ok history) ↔
    ∀ row ∈ process.newestCasts query.limit, ∀ name ∈ row.sigil.aspects.names, name ∈ process.registry.names := by
  constructor
  · rintro ⟨history, queried⟩ row member
    obtain ⟨read, -, reads⟩ := map_m_each _ _ _ queried row member
    exact (process.deserialize_iff row).mp ⟨read, reads⟩
  · exact fun known => map_m_total _ _ fun row member => (process.deserialize_iff row).mpr (known row member)

end CastProcess

theorem plain_query_iff (limit : Int) (query : SemanticQuery) : SemanticQuery.make none none limit = .ok query ↔
    (1 ≤ limit ∧ limit ≤ 100) ∧ query = { limit := limit.toNat } := by
  rw [SemanticQuery.make, if_neg (by simp)]
  by_cases within : 1 ≤ limit ∧ limit ≤ 100
  · rw [if_neg (not_not.mpr within), if_neg (by simp)]
    exact ⟨fun made => ⟨within, (Except.ok.inj made).symm⟩, fun made => congrArg _ made.2.symm⟩
  · rw [if_pos within]
    exact iff_of_false (by simp) fun made => within made.1

theorem write_proposals_ok (proposals : List EmergentAspect) (process after : CastProcess)
    (wrote : CastProcess.writeProposals proposals process = (.ok (), after)) :
    ∀ old ∈ process.seeds.grimoire.emergentAspects.rows,
      (∀ proposal ∈ proposals, old.genesisId ≠ proposal.genesisId) →
        ∀ proposal ∈ proposals, old.proposedName ≠ proposal.proposedName := by
  induction proposals generalizing process with
  | nil => exact fun old _ _ proposal member => absurd member List.not_mem_nil
  | cons first rest ih =>
      intro old member apart
      rw [CastProcess.writeProposals] at wrote
      cases written : writeEmergentAspect first process.seeds.grimoire with
      | error raised =>
          rw [written] at wrote
          exact absurd (congrArg Prod.fst wrote) (by simp)
      | ok grimoire =>
          rw [written] at wrote
          obtain ⟨writable, rfl⟩ := (write_emergent_ok first _ grimoire).mp written
          obtain ⟨notFirst, notRest⟩ := List.forall_mem_cons.mp apart
          rw [List.forall_mem_cons]
          refine ⟨writable.nameFree old member notFirst, ?_⟩
          exact ih _ wrote old ((Table.mem_upsert _ first old).mpr (Or.inl ⟨member, notFirst⟩)) notRest

theorem write_proposals_total (proposals : List EmergentAspect) (process : CastProcess)
    (fits : ∀ proposal ∈ proposals, proposal.supportCount ≤ 100 ∧ proposal.centroidVector.basisVersion = none)
    (apart : proposals.Pairwise fun a b => a.proposedName ≠ b.proposedName)
    (free : ∀ old ∈ process.seeds.grimoire.emergentAspects.rows, ∀ proposal ∈ proposals,
      old.proposedName ≠ proposal.proposedName) :
    ∃ after, CastProcess.writeProposals proposals process = (.ok (), after) := by
  induction proposals generalizing process with
  | nil => exact ⟨process, rfl⟩
  | cons first rest ih =>
      obtain ⟨⟨count, basis⟩, fitRest⟩ := List.forall_mem_cons.mp fits
      obtain ⟨other, apartRest⟩ := List.pairwise_cons.mp apart
      have writable : Writable first process.seeds.grimoire := by
        refine ⟨⟨first.supportCount, if_pos (by omega)⟩, ⟨0, ?_⟩, ?_⟩
        · rw [SemanticVector.normalizedBasisVersion, basis]
          rfl
        · exact fun old member _ => free old member first List.mem_cons_self
      rw [CastProcess.writeProposals, (write_emergent_ok first _ _).mpr ⟨writable, rfl⟩]
      apply ih _ fitRest apartRest
      intro old member proposal isRest
      rcases (Table.mem_upsert _ first old).mp member with ⟨held, -⟩ | rfl
      · exact free old held proposal (List.mem_cons_of_mem first isRest)
      · exact other proposal isRest

theorem proposed_apart (dim : Nat) (history : List GenesisCast) (stamps : GenesisStamps) (indexes : List Nat)
    (proposals : List EmergentAspect) (distinct : indexes.Nodup)
    (each : List.Forall₂ (fun index proposal => proposal.genesisId = stamps.genesisId index ∧
      ProposedOn dim history index proposal) indexes proposals) :
    proposals.Pairwise fun a b => a.proposedName ≠ b.proposedName := by
  induction each with
  | nil => exact .nil
  | @cons index proposal indexes proposals own others ih =>
      obtain ⟨fresh, rest⟩ := List.nodup_cons.mp distinct
      refine .cons ?_ (ih rest)
      intro other member same
      obtain ⟨place, isPlace, -, onOther⟩ := pairs_of_right others other member
      rw [own.2.name, onOther.name] at same
      exact fresh (genesis_name_index _ _ _ _ same ▸ isPlace)

theorem proposed_fits (dim : Nat) (history : List GenesisCast) (stamps : GenesisStamps) (indexes : List Nat)
    (proposals : List EmergentAspect) (few : history.length ≤ 100)
    (each : List.Forall₂ (fun index proposal => proposal.genesisId = stamps.genesisId index ∧
      ProposedOn dim history index proposal) indexes proposals) :
    ∀ proposal ∈ proposals, proposal.supportCount ≤ 100 ∧ proposal.centroidVector.basisVersion = none := by
  intro proposal member
  obtain ⟨index, -, -, proposed⟩ := pairs_of_right each proposal member
  refine ⟨?_, proposed.basis⟩
  rw [proposed.supportCount]
  exact (List.length_filter_le _ history).trans few

theorem genesis_tool_ok (process after : CastProcess) (historyLimit : Int) (settings : GenesisSettings)
    (stamps : GenesisStamps) (proposals : List EmergentAspect)
    (proposed : process.toolProposeGenesis historyLimit settings stamps = (.ok proposals, after)) :
    (1 ≤ historyLimit ∧ historyLimit ≤ 100) ∧
      (∃ history, process.query { limit := historyLimit.toNat } = .ok history) ∧
        (∃ indexes, ProposedAll process.registry.dimensionality settings stamps
          ((process.newestCasts historyLimit.toNat).map CastRecord.genesis) indexes proposals) ∧
          CastProcess.writeProposals proposals process = (.ok (), after) := by
  rw [CastProcess.toolProposeGenesis] at proposed
  cases begun : process.beginGenesis historyLimit settings stamps with
  | error raised =>
      rw [begun] at proposed
      exact absurd (congrArg Prod.fst proposed) (by simp)
  | ok own =>
      rw [begun] at proposed
      dsimp only at proposed
      have wrote : CastProcess.writeProposals own process = (.ok (), after) ∧ own = proposals := by
        rcases written : CastProcess.writeProposals own process with ⟨raised | _, left⟩
        · rw [written] at proposed
          exact absurd (congrArg Prod.fst proposed) (by simp)
        · rw [written] at proposed
          obtain ⟨isOwn, rfl⟩ := Prod.mk.inj proposed
          exact ⟨rfl, Except.ok.inj isOwn⟩
      obtain ⟨wrote, rfl⟩ := wrote
      obtain ⟨query, isQuery, begun⟩ := (bind_ok _ _ _).mp begun
      obtain ⟨within, rfl⟩ := (plain_query_iff historyLimit query).mp isQuery
      obtain ⟨history, queried, made⟩ := (bind_ok _ _ _).mp begun
      refine ⟨within, ⟨history, queried⟩, ?_, wrote⟩
      rw [← process.query_genesis _ history queried]
      exact propose_genesis_ok process.engine history settings stamps own made

theorem genesis_covers_iff (process : CastProcess) (historyLimit : Int) (positive : 1 ≤ historyLimit)
    (settings : GenesisSettings) (stamps : GenesisStamps)
    (fresh : ∀ index, ¬ process.seeds.grimoire.emergentAspects.Has (stamps.genesisId index)) :
    (∃ proposals after, process.toolProposeGenesis historyLimit settings stamps = (.ok proposals, after) ∧
      CoversHistory process historyLimit.toNat settings stamps proposals) ↔
        Proposable process historyLimit settings := by
  constructor
  · rintro ⟨proposals, after, proposed, -⟩
    obtain ⟨within, queried, ⟨indexes, distinct, worthy, each⟩, wrote⟩ :=
      genesis_tool_ok process after historyLimit settings stamps proposals proposed
    refine ⟨within.2, (process.query_ok_iff _).mp queried, ?_⟩
    intro index worth
    obtain ⟨proposal, isProposal, drawn, own⟩ := pairs_of_left each index ((worthy index).mpr worth)
    dsimp only
    rw [← own.name]
    refine ⟨proposal.derived.nameValid.2, ?_⟩
    intro old member
    refine write_proposals_ok proposals process after wrote old member ?_ proposal isProposal
    intro other isOther same
    obtain ⟨place, -, otherDrawn, -⟩ := pairs_of_right each other isOther
    exact fresh place (otherDrawn ▸ same ▸ Table.has_row _ old member)
  · intro able
    obtain ⟨history, queried⟩ := (process.query_ok_iff { limit := historyLimit.toNat }).mpr able.known
    have same := process.query_genesis _ history queried
    have isQuery := (plain_query_iff historyLimit _).mpr ⟨⟨positive, able.within⟩, rfl⟩
    obtain ⟨proposals, made⟩ := propose_genesis_total process.engine history settings stamps (by
      rw [same]
      exact fun index worth => (able.named index worth).1)
    obtain ⟨indexes, all⟩ := propose_genesis_ok process.engine history settings stamps proposals made
    rw [same] at all
    have newest := newest_casts process historyLimit.toNat
    have few : ((process.newestCasts historyLimit.toNat).map CastRecord.genesis).length ≤ 100 := by
      rw [List.length_map, newest.count]
      have within := able.within
      omega
    have free : ∀ old ∈ process.seeds.grimoire.emergentAspects.rows, ∀ proposal ∈ proposals,
        old.proposedName ≠ proposal.proposedName := by
      intro old member proposal isProposal
      obtain ⟨index, isIndex, -, own⟩ := pairs_of_right all.2.2 proposal isProposal
      rw [own.name]
      exact (able.named index ((all.2.1 index).mp isIndex)).2 old member
    obtain ⟨after, wrote⟩ := write_proposals_total proposals process (proposed_fits _ _ stamps _ _ few all.2.2)
      (proposed_apart _ _ stamps _ _ all.1 all.2.2) free
    refine ⟨proposals, after, ?_, ⟨_, indexes, newest, all⟩, supports_one⟩
    have begun : process.beginGenesis historyLimit settings stamps = .ok proposals :=
      (bind_ok _ _ _).mpr ⟨_, isQuery, (bind_ok _ _ _).mpr ⟨history, queried, made⟩⟩
    rw [CastProcess.toolProposeGenesis, begun]
    dsimp only
    rw [wrote]

def numberedGenesis : GenesisStamps where
  genesisId := fun index => "genesis-" ++ toString index
  proposedAt := sampleTime

theorem revealed_fresh (index : Nat) :
    ¬ revealedProcess.seeds.grimoire.emergentAspects.Has (numberedGenesis.genesisId index) := List.not_mem_nil

def everyCluster : GenesisSettings where
  minClusterSize := 1
  minUnexplainedVariance := 0

theorem genesis_covers_revealed :
    (∃ proposals after, revealedProcess.toolProposeGenesis 1 everyCluster numberedGenesis = (.ok proposals, after) ∧
      CoversHistory revealedProcess (1 : Int).toNat everyCluster numberedGenesis proposals) ↔
        Proposable revealedProcess 1 everyCluster :=
  genesis_covers_iff revealedProcess 1 (by decide) everyCluster numberedGenesis revealed_fresh

theorem default_genesis_refused :
    (revealedProcess.toolProposeGenesis genesisHistoryLimit {} numberedGenesis).1 =
        .error (invalid "SemanticQuery" "limit") ∧
      ¬ ∃ proposals after, revealedProcess.toolProposeGenesis genesisHistoryLimit {} numberedGenesis =
          (.ok proposals, after) ∧
        CoversHistory revealedProcess genesisHistoryLimit.toNat {} numberedGenesis proposals := by
  have refused : (revealedProcess.toolProposeGenesis genesisHistoryLimit {} numberedGenesis).1 =
      .error (invalid "SemanticQuery" "limit") := rfl
  refine ⟨refused, ?_⟩
  rintro ⟨proposals, after, proposed, -⟩
  rw [proposed] at refused
  contradiction

end Vermyth
