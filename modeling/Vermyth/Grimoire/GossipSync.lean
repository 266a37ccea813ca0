import Vermyth.Grimoire.GossipProof

set_option autoImplicit false

namespace Vermyth

open Foundation

theorem bind_map_except {α β γ : Type} (action : Except PyError α) (f : α → β) (next : β → Except PyError γ) :
    (action.map f >>= next) = action >>= fun value => next (f value) := by
  cases action <;> rfl

theorem read_field_drawn {α : Type} (read : Json → Option α) (first second : α) (record : List (String × Json))
    (model name : String) : readField read (some second) record model name =
      (readField read (some first) record model name).map fun value =>
        if (record.lookup name).isNone then second else value := by
  rw [readField, readField]
  cases record.lookup name with
  | none => rfl
  | some value =>
      dsimp only [Option.elim]
      cases read value <;> rfl

def redrawn (record : List (String × Json)) (drawn : String) (now : Datetime) (aspect : EmergentAspect) :
    EmergentAspect :=
  { aspect with
    genesisId := if (record.lookup "genesis_id").isNone then drawn else aspect.genesisId
    proposedAt := if (record.lookup "proposed_at").isNone then now else aspect.proposedAt }

theorem read_proposal_drawn (coerce : Coercions) (record : List (String × Json)) (drawn other : String)
    (now later : Datetime) : EmergentAspect.modelValidate coerce other later record =
      (EmergentAspect.modelValidate coerce drawn now record).map (redrawn record other later) := by
  simp only [EmergentAspect.modelValidate, read_field_drawn Json.text? drawn other,
    read_field_drawn coerce.datetime? now later, bind_map_except, map_bind_except]
  rfl

theorem read_field_text (default : Option String) (fields : List (String × Json)) (model name text : String)
    (ok : readField Json.text? default fields model name = .ok text) :
    fields.lookup name = some (.str text) ∨ fields.lookup name = none ∧ default = some text := by
  rw [readField] at ok
  cases held : fields.lookup name with
  | none =>
      rw [held, Option.elim_none] at ok
      cases default with
      | none => cases ok
      | some own =>
          obtain rfl := Except.ok.inj ok
          exact Or.inr ⟨rfl, rfl⟩
  | some value =>
      rw [held, Option.elim_some] at ok
      cases value with
      | str own =>
          obtain rfl := Except.ok.inj ok
          exact Or.inl rfl
      | _ => cases ok

theorem registered_make_name (name : String) (polarity : Int) (entropyCoefficient : ℚ) (symbol : String)
    (aspect : RegisteredAspect) (ok : RegisteredAspect.make name polarity entropyCoefficient symbol = .ok aspect) :
    aspect.name = name := by
  rw [RegisteredAspect.make] at ok
  split_ifs at ok
  rw [← Except.ok.inj ok]

theorem read_proposal_named (coerce : Coercions) (record : List (String × Json)) (drawn : String) (now : Datetime)
    (aspect : EmergentAspect) (read : EmergentAspect.modelValidate coerce drawn now record = .ok aspect) :
    (record.lookup "genesis_id" = none ∧ aspect.genesisId = drawn ∨
        record.lookup "genesis_id" = some (.str aspect.genesisId)) ∧
      record.lookup "proposed_name" = some (.str aspect.proposedName) := by
  simp only [EmergentAspect.modelValidate, bind_ok] at read
  obtain ⟨_, _, genesisId, idRead, name, nameRead, _, _, _, _, _, _, derived, made, _, _, _, _, _, _, _, _, _, _, _, _,
    _, _, _, _, _, _, _, _, _, _, ok⟩ := read
  rw [← Except.ok.inj ok]
  obtain named | ⟨-, nothing⟩ := read_field_text _ _ _ _ _ nameRead
  · refine ⟨?_, ?_⟩
    · obtain stated | ⟨absent, drew⟩ := read_field_text _ _ _ _ _ idRead
      · exact Or.inr stated
      · exact Or.inl ⟨absent, (Option.some.inj drew).symm⟩
    · rw [named, EmergentAspect.proposedName, registered_make_name _ _ _ _ _ made]
  · cases nothing

-- The integers of a proposal that SQLite can hold.
structure ProposalFits (aspect : EmergentAspect) : Prop where
  supportCount : ∃ value, sqlInteger aspect.supportCount = .ok value
  basisVersion : ∃ value, sqlInteger aspect.centroidVector.normalizedBasisVersion = .ok value

def NameFree (genesisId name : String) (table : Table EmergentAspect.genesisId) : Prop :=
  ∀ old ∈ table.rows, old.genesisId ≠ genesisId → old.proposedName ≠ name

theorem writable_iff (aspect : EmergentAspect) (grimoire : Grimoire) :
    Writable aspect grimoire ↔
      ProposalFits aspect ∧ NameFree aspect.genesisId aspect.proposedName grimoire.emergentAspects :=
  ⟨fun writable => ⟨⟨writable.supportCount, writable.basisVersion⟩, writable.nameFree⟩,
    fun ⟨fits, nameFree⟩ => ⟨fits.supportCount, fits.basisVersion, nameFree⟩⟩

def ProposalAccepted (env : GossipEnv) (record : List (String × Json)) : Prop :=
  ∃ drawn now aspect, EmergentAspect.modelValidate env.coerce drawn now record = .ok aspect ∧ ProposalFits aspect

theorem accepted_reads (env : GossipEnv) (record : List (String × Json)) (accepted : ProposalAccepted env record)
    (drawn : String) (now : Datetime) :
    ∃ aspect, EmergentAspect.modelValidate env.coerce drawn now record = .ok aspect ∧ ProposalFits aspect := by
  obtain ⟨other, later, aspect, read, fits⟩ := accepted
  rw [read_proposal_drawn env.coerce record other drawn later now, read]
  exact ⟨_, rfl, ⟨fits.supportCount, fits.basisVersion⟩⟩

def ReadsAs (env : GossipEnv) (draws : Draws) : Nat → List (List (String × Json)) → List EmergentAspect → Prop
  | _, [], [] => True
  | index, record :: rest, aspect :: more =>
      (EmergentAspect.modelValidate env.coerce (draws.genesisId index) (draws.now index) record = .ok aspect ∧
        ProposalFits aspect) ∧ ReadsAs env draws (index + 1) rest more
  | _, _, _ => False

def AllNameFree : Table EmergentAspect.genesisId → List EmergentAspect → Prop
  | _, [] => True
  | table, aspect :: rest =>
      NameFree aspect.genesisId aspect.proposedName table ∧ AllNameFree (table.upsert aspect) rest

section Reads

variable (env : GossipEnv) (draws : Draws)

theorem accepted_all (index : Nat) (records : List (List (String × Json)))
    (accepted : ∀ record ∈ records, ProposalAccepted env record) :
    ∃ aspects, ReadsAs env draws index records aspects := by
  induction records generalizing index with
  | nil => exact ⟨[], trivial⟩
  | cons record rest ih =>
      obtain ⟨first, later⟩ := List.forall_mem_cons.mp accepted
      obtain ⟨aspect, read⟩ := accepted_reads env record first (draws.genesisId index) (draws.now index)
      obtain ⟨more, reads⟩ := ih (index + 1) later
      exact ⟨aspect :: more, read, reads⟩

theorem reads_record (index : Nat) (records : List (List (String × Json))) (aspects : List EmergentAspect)
    (reads : ReadsAs env draws index records aspects) (record : List (String × Json)) (member : record ∈ records) :
    ∃ aspect ∈ aspects, ∃ k,
      EmergentAspect.modelValidate env.coerce (draws.genesisId k) (draws.now k) record = .ok aspect := by
  induction records generalizing index aspects with
  | nil => cases member
  | cons first rest ih =>
      cases aspects with
      | nil => exact reads.elim
      | cons aspect more =>
          obtain ⟨⟨read, -⟩, later⟩ := reads
          rcases List.mem_cons.mp member with rfl | inRest
          · exact ⟨aspect, List.mem_cons_self, index, read⟩
          · obtain ⟨own, ownIn, k, ownRead⟩ := ih (index + 1) more later inRest
            exact ⟨own, List.mem_cons_of_mem _ ownIn, k, ownRead⟩

theorem reads_aspect (index : Nat) (records : List (List (String × Json))) (aspects : List EmergentAspect)
    (reads : ReadsAs env draws index records aspects) (aspect : EmergentAspect) (member : aspect ∈ aspects) :
    ProposalFits aspect ∧ ∃ record ∈ records, ∃ k,
      EmergentAspect.modelValidate env.coerce (draws.genesisId k) (draws.now k) record = .ok aspect := by
  induction records generalizing index aspects with
  | nil =>
      cases aspects with
      | nil => cases member
      | cons own more => exact reads.elim
  | cons first rest ih =>
      cases aspects with
      | nil => cases member
      | cons own more =>
          obtain ⟨⟨read, fits⟩, later⟩ := reads
          rcases List.mem_cons.mp member with rfl | inRest
          · exact ⟨fits, first, List.mem_cons_self, index, read⟩
          · obtain ⟨otherFits, other, otherIn, k, otherRead⟩ := ih (index + 1) more later inRest
            exact ⟨otherFits, other, List.mem_cons_of_mem _ otherIn, k, otherRead⟩

theorem reads_last (index : Nat) (records : List (List (String × Json))) (aspects : List EmergentAspect)
    (reads : ReadsAs env draws index records aspects) (last : List (String × Json))
    (isLast : records.getLast? = some last) :
    ∃ aspect, aspects.getLast? = some aspect ∧ ∃ k,
      EmergentAspect.modelValidate env.coerce (draws.genesisId k) (draws.now k) last = .ok aspect := by
  induction records generalizing index aspects with
  | nil => cases isLast
  | cons first rest ih =>
      cases aspects with
      | nil => exact reads.elim
      | cons aspect more =>
          obtain ⟨⟨read, -⟩, later⟩ := reads
          cases rest with
          | nil =>
              cases more with
              | nil =>
                  obtain rfl := Option.some.inj isLast
                  exact ⟨aspect, rfl, index, read⟩
              | cons other others => exact later.elim
          | cons second tail =>
              rw [List.getLast?_cons_cons] at isLast
              obtain ⟨own, ownLast, ownRead⟩ := ih (index + 1) more later isLast
              cases more with
              | nil => exact later.elim
              | cons other others => exact ⟨own, by rw [List.getLast?_cons_cons]; exact ownLast, ownRead⟩

theorem proposals_loop (index : Nat) (records : List (List (String × Json))) (aspects : List EmergentAspect)
    (reads : ReadsAs env draws index records aspects) (grimoire : Grimoire) :
    ((mergeEach (mergeProposal env draws) index records { grimoire := grimoire }).1 = .ok () ↔
      AllNameFree grimoire.emergentAspects aspects) ∧
    (AllNameFree grimoire.emergentAspects aspects →
      (mergeEach (mergeProposal env draws) index records { grimoire := grimoire }).2.grimoire =
        { grimoire with emergentAspects := aspects.foldl Table.upsert grimoire.emergentAspects }) := by
  induction records generalizing index aspects grimoire with
  | nil =>
      cases aspects with
      | nil => exact ⟨⟨fun _ => trivial, fun _ => rfl⟩, fun _ => rfl⟩
      | cons aspect more => exact reads.elim
  | cons record rest ih =>
      cases aspects with
      | nil => exact reads.elim
      | cons aspect more =>
          obtain ⟨⟨read, fits⟩, later⟩ := reads
          by_cases free : NameFree aspect.genesisId aspect.proposedName grimoire.emergentAspects
          · have merged := (merge_proposal_ok env draws index record grimoire _ _).mpr
              ⟨aspect, read, (writable_iff aspect grimoire).mpr ⟨fits, free⟩, rfl, rfl⟩
            obtain ⟨outcome, final⟩ := ih (index + 1) more later
              { grimoire with emergentAspects := grimoire.emergentAspects.upsert aspect }
            rw [merge_each_cons _ index record rest grimoire _ _ merged]
            exact ⟨outcome.trans ⟨fun rest => ⟨free, rest⟩, And.right⟩, fun all => final all.2⟩
          · cases merged : mergeProposal env draws index record grimoire with
            | error raised =>
                rw [merge_each_raised _ index record rest _ raised merged]
                exact ⟨⟨fun ok => (by cases ok), fun all => absurd all.1 free⟩, fun all => absurd all.1 free⟩
            | ok result =>
                obtain ⟨own, ownRead, writable, -, -⟩ :=
                  (merge_proposal_ok env draws index record grimoire result.2 result.1).mp merged
                obtain rfl := Except.ok.inj (read.symm.trans ownRead)
                exact absurd ((writable_iff aspect grimoire).mp writable).2 free

theorem guarded_name (genesisId name : String) (table : Table EmergentAspect.genesisId) (aspects : List EmergentAspect)
    (free : AllNameFree table aspects)
    (guard : ∃ row ∈ table.rows, row.genesisId = genesisId ∧ row.proposedName = name)
    (kept : ∀ aspect ∈ aspects, aspect.genesisId = genesisId → aspect.proposedName = name) :
    ∀ aspect ∈ aspects, aspect.proposedName = name → aspect.genesisId = genesisId := by
  induction aspects generalizing table with
  | nil =>
      intro aspect member
      cases member
  | cons first rest ih =>
      obtain ⟨firstFree, restFree⟩ := free
      obtain ⟨row, inTable, rowId, rowName⟩ := guard
      have own : first.proposedName = name → first.genesisId = genesisId := by
        intro same
        by_contra differs
        exact firstFree row inTable (fun equal => differs (equal.symm.trans rowId)) (rowName.trans same.symm)
      have guardLater : ∃ row ∈ (table.upsert first).rows, row.genesisId = genesisId ∧ row.proposedName = name := by
        by_cases same : first.genesisId = genesisId
        · have stored : (table.upsert first).find? first.genesisId = some first := by
            rw [Table.find_upsert, if_pos rfl]
          exact ⟨first, Table.find_mem _ _ first stored, same, kept first List.mem_cons_self same⟩
        · have stored : (table.upsert first).find? row.genesisId = some row := by
            rw [Table.find_upsert, if_neg fun equal => same (equal.trans rowId), Table.find_row table row inTable]
          exact ⟨row, Table.find_mem _ _ row stored, rowId, rowName⟩
      have later := ih (table.upsert first) restFree guardLater fun aspect member =>
        kept aspect (List.mem_cons_of_mem first member)
      intro aspect member
      rcases List.mem_cons.mp member with rfl | inRest
      · exact own
      · exact later aspect inRest

theorem loop_ok_accepted (index : Nat) (records : List (List (String × Json))) (state : Merging)
    (ok : (mergeEach (mergeProposal env draws) index records state).1 = .ok ()) :
    ∀ record ∈ records, ProposalAccepted env record := by
  induction records generalizing index state with
  | nil =>
      intro record member
      cases member
  | cons first rest ih =>
      cases merged : mergeProposal env draws index first state.grimoire with
      | error raised =>
          rw [merge_each_raised _ index first rest state raised merged] at ok
          cases ok
      | ok result =>
          obtain ⟨made, after⟩ := result
          obtain ⟨aspect, read, writable, -, -⟩ :=
            (merge_proposal_ok env draws index first state.grimoire after made).mp merged
          simp only [mergeEach, merged] at ok
          intro record member
          rcases List.mem_cons.mp member with rfl | inRest
          · exact ⟨_, _, aspect, read, ((writable_iff aspect _).mp writable).1⟩
          · exact ih _ _ ok record inRest

theorem first_proposal_stored (index : Nat) (record : List (String × Json)) (rest : List (List (String × Json)))
    (grimoire : Grimoire) (aspect : EmergentAspect)
    (read : EmergentAspect.modelValidate env.coerce (draws.genesisId index) (draws.now index) record = .ok aspect)
    (fits : ProposalFits aspect) (free : NameFree aspect.genesisId aspect.proposedName grimoire.emergentAspects) :
    (mergeEach (mergeProposal env draws) index (record :: rest)
      { grimoire := grimoire }).2.grimoire.emergentAspects.Has aspect.genesisId := by
  have merged := (merge_proposal_ok env draws index record grimoire _ _).mpr
    ⟨aspect, read, (writable_iff aspect grimoire).mpr ⟨fits, free⟩, rfl, rfl⟩
  rw [merge_each_cons _ index record rest grimoire _ _ merged]
  refine merge_each_invariant (mergeProposal env draws) (fun own => own.emergentAspects.Has aspect.genesisId) ?_ _ rest
    _ ((Table.has_upsert _ aspect _).mpr (Or.inr rfl))
  intro index record before made after merged had
  obtain ⟨other, -, -, -, rfl⟩ := (merge_proposal_ok env draws index record before after made).mp merged
  exact (Table.has_upsert _ other _).mpr (Or.inl had)

end Reads

section SameName

variable (genesisId name : String)

theorem name_free_upsert (table : Table EmergentAspect.genesisId) (aspect : EmergentAspect)
    (sameId : aspect.genesisId = genesisId) :
    NameFree genesisId name (table.upsert aspect) ↔ NameFree genesisId name table := by
  have others : ∀ old : EmergentAspect, old.genesisId ≠ genesisId →
      (old ∈ (table.upsert aspect).rows ↔ old ∈ table.rows) := by
    intro old differs
    have lookup : (table.upsert aspect).find? old.genesisId = table.find? old.genesisId := by
      rw [Table.find_upsert, if_neg fun same => differs (same.symm.trans sameId)]
    constructor
    · intro member
      exact Table.find_mem _ _ old (lookup ▸ Table.find_row _ old member)
    · intro member
      exact Table.find_mem _ _ old (lookup.symm ▸ Table.find_row _ old member)
  exact forall_congr' fun old =>
    ⟨fun free member differs => free ((others old differs).mpr member) differs,
      fun free member differs => free ((others old differs).mp member) differs⟩

variable (table : Table EmergentAspect.genesisId) (aspects : List EmergentAspect)

theorem all_name_free (same : ∀ aspect ∈ aspects, aspect.genesisId = genesisId ∧ aspect.proposedName = name)
    (free : NameFree genesisId name table) : AllNameFree table aspects := by
  induction aspects generalizing table with
  | nil => trivial
  | cons first rest ih =>
      obtain ⟨⟨firstId, firstName⟩, restSame⟩ := List.forall_mem_cons.mp same
      refine ⟨by rw [firstId, firstName]; exact free, ih (table.upsert first) restSame ?_⟩
      exact (name_free_upsert genesisId name table first firstId).mpr free

theorem upsert_fold (same : ∀ aspect ∈ aspects, aspect.genesisId = genesisId) (last : EmergentAspect)
    (isLast : aspects.getLast? = some last) : aspects.foldl Table.upsert table = table.upsert last := by
  induction aspects generalizing table with
  | nil => cases isLast
  | cons first rest ih =>
      obtain ⟨firstId, restSame⟩ := List.forall_mem_cons.mp same
      cases rest with
      | nil =>
          obtain rfl := Option.some.inj isLast
          rfl
      | cons second tail =>
          rw [List.getLast?_cons_cons] at isLast
          have lastId := restSame last (List.mem_of_getLast? isLast)
          rw [List.foldl_cons, ih (table.upsert first) restSame isLast,
            Table.upsert_again table first last (firstId.trans lastId.symm)]

end SameName

structure FreshDraws (draws : Draws) (payload : GossipPayload) (grimoire : Grimoire) : Prop where
  genesisIds : Function.Injective draws.genesisId
  newSeeds : ∀ index, ¬ grimoire.seeds.Has (draws.seedId index)
  newProposals : ∀ index, ¬ grimoire.emergentAspects.Has (draws.genesisId index)
  unstated : ∀ index, ∀ record ∈ payload.emergentAspects,
    record.lookup "genesis_id" ≠ some (.str (draws.genesisId index))

def synced (env : GossipEnv) (draws : Draws) (payload : GossipPayload) (grimoire : Grimoire) : Grimoire :=
  (applyGossipSync env draws payload grimoire).2.grimoire

-- For every store: a sync that raises leaves it as it was, and a second one as
-- the first.
structure AtomicIdempotent (env : GossipEnv) (payload : GossipPayload) : Prop where
  atomic : ∀ grimoire draws raised, FreshDraws draws payload grimoire →
    (applyGossipSync env draws payload grimoire).1 = .error raised → synced env draws payload grimoire = grimoire
  idempotent : ∀ grimoire first second, FreshDraws first payload grimoire →
    FreshDraws second payload (synced env first payload grimoire) →
      synced env second payload (synced env first payload grimoire) = synced env first payload grimoire

-- The payloads that are atomic and idempotent: the first record of the first
-- loop that has one is refused as it stands, or there is nothing but proposals
-- and these are a single one without an id, or any number under one id and one
-- name, of which the last has its time.
inductive Settled (env : GossipEnv) (payload : GossipPayload) : Prop where
  | seedRefused (first : List (String × Json)) (rest : List (List (String × Json)))
      (seeds : payload.seeds = first :: rest) (refused : ¬ SeedAccepted env first)
  | crystallized (noSeeds : payload.seeds = []) (crystals : payload.crystallized ≠ [])
  | empty (noSeeds : payload.seeds = []) (noProposals : payload.emergentAspects = [])
  | proposalRefused (first : List (String × Json)) (rest : List (List (String × Json))) (noSeeds : payload.seeds = [])
      (proposals : payload.emergentAspects = first :: rest) (refused : ¬ ProposalAccepted env first)
  | unnamed (only : List (String × Json)) (noSeeds : payload.seeds = []) (proposals : payload.emergentAspects = [only])
      (noId : only.lookup "genesis_id" = none)
  | one (genesisId name : String) (noSeeds : payload.seeds = [])
      (accepted : ∀ record ∈ payload.emergentAspects, ProposalAccepted env record)
      (named : ∀ record ∈ payload.emergentAspects, record.lookup "genesis_id" = some (.str genesisId) ∧
        record.lookup "proposed_name" = some (.str name))
      (dated : ∀ last ∈ payload.emergentAspects.getLast?, last.lookup "proposed_at" ≠ none)

section Sync

variable (env : GossipEnv) (payload : GossipPayload)

theorem unchanged_settled (unchanged : ∀ draws grimoire, synced env draws payload grimoire = grimoire) :
    AtomicIdempotent env payload :=
  ⟨fun grimoire draws _ _ _ => unchanged draws grimoire, fun _ _ second _ _ => unchanged second _⟩

theorem named_aspects (genesisId name : String)
    (named : ∀ record ∈ payload.emergentAspects, record.lookup "genesis_id" = some (.str genesisId) ∧
      record.lookup "proposed_name" = some (.str name)) (draws : Draws) (aspects : List EmergentAspect)
    (reads : ReadsAs env draws 0 payload.emergentAspects aspects) :
    ∀ aspect ∈ aspects, aspect.genesisId = genesisId ∧ aspect.proposedName = name := by
  intro aspect member
  obtain ⟨-, record, inRecords, k, read⟩ := reads_aspect env draws 0 _ aspects reads aspect member
  obtain ⟨id, ownName⟩ := read_proposal_named env.coerce record _ _ aspect read
  obtain ⟨statedId, statedName⟩ := named record inRecords
  refine ⟨?_, Json.str.inj (Option.some.inj (ownName.symm.trans statedName))⟩
  obtain ⟨noId, -⟩ | ownId := id
  · rw [statedId] at noId
    cases noId
  · exact Json.str.inj (Option.some.inj (ownId.symm.trans statedId))

variable (verified : verifyGossipPayload env payload = .ok true)
include verified

theorem crystallized_unchanged (noSeeds : payload.seeds = []) (crystals : payload.crystallized ≠ []) (draws : Draws)
    (grimoire : Grimoire) : synced env draws payload grimoire = grimoire := by
  have ended := (gossip_ended env draws payload grimoire verified fun both => crystals both.2).1
  rw [synced, ended, seedsMerged, noSeeds]
  rfl

theorem seed_refused_unchanged (first : List (String × Json)) (rest : List (List (String × Json)))
    (seeds : payload.seeds = first :: rest) (refused : ¬ SeedAccepted env first) (draws : Draws)
    (grimoire : Grimoire) : synced env draws payload grimoire = grimoire := by
  have ended := (gossip_ended env draws payload grimoire verified
    fun both => refused (both.1 first (seeds ▸ List.mem_cons_self))).1
  have raises : ∃ raised, mergeSeed env draws 0 first grimoire = .error raised := by
    cases merged : mergeSeed env draws 0 first grimoire with
    | error raised => exact ⟨raised, rfl⟩
    | ok result => exact absurd ((merge_seed_accepted env draws 0 first grimoire).mp ⟨result, merged⟩) refused
  obtain ⟨raised, raises⟩ := raises
  rw [synced, ended, seedsMerged, seeds, merge_each_raised _ _ _ _ _ raised raises]

section Proposals

variable (noSeeds : payload.seeds = []) (noCrystals : payload.crystallized = [])
include noSeeds noCrystals

theorem proposals_only (draws : Draws) (grimoire : Grimoire) :
    synced env draws payload grimoire =
        (mergeEach (mergeProposal env draws) 0 payload.emergentAspects { grimoire := grimoire }).2.grimoire ∧
      ((∃ raised, (applyGossipSync env draws payload grimoire).1 = .error raised) ↔
        (mergeEach (mergeProposal env draws) 0 payload.emergentAspects { grimoire := grimoire }).1 ≠ .ok ()) := by
  simp only [synced, applyGossipSync, verified, noSeeds, noCrystals, mergeEach]
  cases mergeEach (mergeProposal env draws) 0 payload.emergentAspects { grimoire := grimoire } with
  | mk outcome state => cases outcome <;> simp

theorem proposal_refused_unchanged (first : List (String × Json)) (rest : List (List (String × Json)))
    (proposals : payload.emergentAspects = first :: rest) (draws : Draws) (grimoire : Grimoire)
    (refused : ∀ aspect,
      EmergentAspect.modelValidate env.coerce (draws.genesisId 0) (draws.now 0) first = .ok aspect →
        ¬ Writable aspect grimoire) : synced env draws payload grimoire = grimoire := by
  rw [(proposals_only env payload verified noSeeds noCrystals draws grimoire).1, proposals]
  cases merged : mergeProposal env draws 0 first grimoire with
  | error raised => rw [merge_each_raised _ _ _ _ _ raised merged]
  | ok result =>
      obtain ⟨made, after⟩ := result
      obtain ⟨aspect, read, writable, -, -⟩ := (merge_proposal_ok env draws 0 first grimoire after made).mp merged
      exact absurd writable (refused aspect read)

theorem unnamed_settled (only : List (String × Json)) (proposals : payload.emergentAspects = [only])
    (noId : only.lookup "genesis_id" = none) : AtomicIdempotent env payload := by
  by_cases accepted : ProposalAccepted env only
  swap
  · refine unchanged_settled env payload fun draws grimoire => ?_
    refine proposal_refused_unchanged env payload verified noSeeds noCrystals only [] proposals draws grimoire ?_
    intro aspect read writable
    exact accepted ⟨_, _, aspect, read, ((writable_iff aspect grimoire).mp writable).1⟩
  -- The id is the one that is drawn, and the name is the record's.
  have drawn : ∀ draws : Draws, ∃ aspect, ReadsAs env draws 0 payload.emergentAspects [aspect] ∧
      EmergentAspect.modelValidate env.coerce (draws.genesisId 0) (draws.now 0) only = .ok aspect ∧
        ProposalFits aspect ∧ aspect.genesisId = draws.genesisId 0 ∧
          only.lookup "proposed_name" = some (.str aspect.proposedName) := by
    intro draws
    obtain ⟨aspect, read, fits⟩ := accepted_reads env only accepted (draws.genesisId 0) (draws.now 0)
    obtain ⟨id, name⟩ := read_proposal_named env.coerce only _ _ aspect read
    refine ⟨aspect, by rw [proposals]; exact ⟨⟨read, fits⟩, trivial⟩, read, fits, ?_, name⟩
    obtain ⟨-, own⟩ | stated := id
    · exact own
    · rw [noId] at stated
      cases stated
  have effect : ∀ draws grimoire aspect, ReadsAs env draws 0 payload.emergentAspects [aspect] →
      NameFree aspect.genesisId aspect.proposedName grimoire.emergentAspects →
        (mergeEach (mergeProposal env draws) 0 payload.emergentAspects { grimoire := grimoire }).1 = .ok () ∧
          synced env draws payload grimoire =
            { grimoire with emergentAspects := grimoire.emergentAspects.upsert aspect } := by
    intro draws grimoire aspect reads free
    obtain ⟨outcome, final⟩ := proposals_loop env draws 0 _ [aspect] reads grimoire
    rw [(proposals_only env payload verified noSeeds noCrystals draws grimoire).1]
    exact ⟨outcome.mpr ⟨free, trivial⟩, final ⟨free, trivial⟩⟩
  have taken : ∀ draws grimoire aspect,
      EmergentAspect.modelValidate env.coerce (draws.genesisId 0) (draws.now 0) only = .ok aspect →
        ¬ NameFree aspect.genesisId aspect.proposedName grimoire.emergentAspects →
          synced env draws payload grimoire = grimoire := by
    intro draws grimoire aspect read taken
    refine proposal_refused_unchanged env payload verified noSeeds noCrystals only [] proposals draws grimoire ?_
    intro own ownRead writable
    obtain rfl := Except.ok.inj (read.symm.trans ownRead)
    exact taken ((writable_iff aspect grimoire).mp writable).2
  constructor
  · intro grimoire draws raised _ failed
    obtain ⟨aspect, reads, read, -, -, -⟩ := drawn draws
    by_cases free : NameFree aspect.genesisId aspect.proposedName grimoire.emergentAspects
    · have raises := (proposals_only env payload verified noSeeds noCrystals draws grimoire).2.mp ⟨raised, failed⟩
      exact absurd (effect draws grimoire aspect reads free).1 raises
    · exact taken draws grimoire aspect read free
  · intro grimoire first second _ fresh
    obtain ⟨a, readsA, readA, fitsA, idA, nameA⟩ := drawn first
    obtain ⟨b, readsB, readB, fitsB, idB, nameB⟩ := drawn second
    have sameName : b.proposedName = a.proposedName := Json.str.inj (Option.some.inj (nameB.symm.trans nameA))
    by_cases free : NameFree a.genesisId a.proposedName grimoire.emergentAspects
    · rw [(effect first grimoire a readsA free).2] at fresh ⊢
      refine taken second _ b readB fun freeB => ?_
      have stored : (grimoire.emergentAspects.upsert a).find? a.genesisId = some a := by
        rw [Table.find_upsert, if_pos rfl]
      have inTable := Table.find_mem _ _ a stored
      have differs : a.genesisId ≠ b.genesisId := by
        intro same
        exact fresh.newProposals 0 (idB ▸ same ▸ Table.has_row _ a inTable)
      exact freeB a inTable differs sameName.symm
    · rw [taken first grimoire a readA free] at fresh ⊢
      refine taken second grimoire b readB fun freeB => free fun old inTable differs => ?_
      have newB : old.genesisId ≠ b.genesisId := by
        intro same
        exact fresh.newProposals 0 (idB ▸ same ▸ Table.has_row _ old inTable)
      exact sameName ▸ freeB old inTable newB

theorem one_synced (genesisId name : String)
    (accepted : ∀ record ∈ payload.emergentAspects, ProposalAccepted env record)
    (named : ∀ record ∈ payload.emergentAspects, record.lookup "genesis_id" = some (.str genesisId) ∧
      record.lookup "proposed_name" = some (.str name)) (last : List (String × Json))
    (isLast : payload.emergentAspects.getLast? = some last) (draws : Draws) (grimoire : Grimoire)
    (free : NameFree genesisId name grimoire.emergentAspects) :
    (¬ ∃ raised, (applyGossipSync env draws payload grimoire).1 = .error raised) ∧
      ∃ aspect k, EmergentAspect.modelValidate env.coerce (draws.genesisId k) (draws.now k) last = .ok aspect ∧
        synced env draws payload grimoire =
          { grimoire with emergentAspects := grimoire.emergentAspects.upsert aspect } := by
  obtain ⟨aspects, reads⟩ := accepted_all env draws 0 _ accepted
  have same := named_aspects env payload genesisId name named draws aspects reads
  obtain ⟨aspect, lastAspect, k, read⟩ := reads_last env draws 0 _ aspects reads last isLast
  obtain ⟨outcome, final⟩ := proposals_loop env draws 0 _ aspects reads grimoire
  obtain ⟨state, raises⟩ := proposals_only env payload verified noSeeds noCrystals draws grimoire
  have allFree := all_name_free genesisId name grimoire.emergentAspects aspects same free
  refine ⟨fun failed => raises.mp failed (outcome.mpr allFree), aspect, k, read, ?_⟩
  rw [state, final allFree, upsert_fold genesisId _ aspects (fun own member => (same own member).1) aspect lastAspect]

theorem one_settled (genesisId name : String)
    (accepted : ∀ record ∈ payload.emergentAspects, ProposalAccepted env record)
    (named : ∀ record ∈ payload.emergentAspects, record.lookup "genesis_id" = some (.str genesisId) ∧
      record.lookup "proposed_name" = some (.str name))
    (dated : ∀ last ∈ payload.emergentAspects.getLast?, last.lookup "proposed_at" ≠ none) :
    AtomicIdempotent env payload := by
  cases proposals : payload.emergentAspects with
  | nil =>
      refine unchanged_settled env payload fun draws grimoire => ?_
      rw [(proposals_only env payload verified noSeeds noCrystals draws grimoire).1, proposals]
      rfl
  | cons first rest =>
      obtain ⟨last, isLast⟩ : ∃ last, payload.emergentAspects.getLast? = some last := by
        rw [proposals, List.getLast?_cons]
        exact ⟨_, rfl⟩
      have effect := one_synced env payload verified noSeeds noCrystals genesisId name accepted named last isLast
      have taken : ∀ draws grimoire, ¬ NameFree genesisId name grimoire.emergentAspects →
          synced env draws payload grimoire = grimoire := by
        intro draws grimoire taken
        refine proposal_refused_unchanged env payload verified noSeeds noCrystals first rest proposals draws grimoire ?_
        intro aspect read writable
        obtain ⟨aspects, reads⟩ := accepted_all env draws 0 _ accepted
        have same := named_aspects env payload genesisId name named draws aspects reads
        rw [proposals] at reads
        cases aspects with
        | nil => exact reads.elim
        | cons own more =>
            obtain rfl := Except.ok.inj (read.symm.trans reads.1.1)
            obtain ⟨rfl, rfl⟩ := same aspect List.mem_cons_self
            exact taken ((writable_iff aspect grimoire).mp writable).2
      constructor
      · intro grimoire draws raised _ failed
        by_cases free : NameFree genesisId name grimoire.emergentAspects
        · exact absurd ⟨raised, failed⟩ (effect draws grimoire free).1
        · exact taken draws grimoire free
      · intro grimoire first second _ _
        by_cases free : NameFree genesisId name grimoire.emergentAspects
        · obtain ⟨-, a, i, readA, stateA⟩ := effect first grimoire free
          have lastIn : last ∈ payload.emergentAspects := List.mem_of_getLast? isLast
          have idA : a.genesisId = genesisId := by
            obtain ⟨⟨noId, -⟩ | ownId, -⟩ := read_proposal_named env.coerce last _ _ a readA
            · rw [(named last lastIn).1] at noId
              cases noId
            · exact Json.str.inj (Option.some.inj (ownId.symm.trans (named last lastIn).1))
          rw [stateA]
          obtain ⟨-, b, j, readB, stateB⟩ :=
            effect second { grimoire with emergentAspects := grimoire.emergentAspects.upsert a }
              ((name_free_upsert genesisId name grimoire.emergentAspects a idA).mpr free)
          -- The last record is read the same: it states its id and its time.
          have same : b = a := by
            rw [read_proposal_drawn env.coerce last (first.genesisId i) (second.genesisId j) (first.now i)
              (second.now j), readA] at readB
            obtain rfl := Except.ok.inj readB
            have stated : (last.lookup "genesis_id").isNone = false := by rw [(named last lastIn).1]; rfl
            have timed : (last.lookup "proposed_at").isNone = false :=
              Option.isNone_eq_false_iff.mpr (Option.isSome_iff_ne_none.mpr (dated last isLast))
            simp only [redrawn, stated, timed, Bool.false_eq_true, if_false]
          rw [stateB, same]
          simp only [Table.upsert_again _ a a rfl]
        · rw [taken first grimoire free, taken second grimoire free]

end Proposals

end Sync

theorem unused_texts (used : List String) : ∃ n, ∀ m, String.ofList (List.replicate (n + m) 'U') ∉ used := by
  refine ⟨(used.map String.length).foldr max 0 + 1, fun m member => ?_⟩
  have bound : ∀ lengths : List Nat, ∀ own ∈ lengths, own ≤ lengths.foldr max 0 := by
    intro lengths
    induction lengths with
    | nil => simp
    | cons first rest ih =>
        intro own ownIn
        rcases List.mem_cons.mp ownIn with rfl | inRest
        · exact le_max_left _ _
        · exact (ih own inRest).trans (le_max_right _ _)
  have short := bound (used.map String.length) _ (List.mem_map_of_mem member)
  rw [String.length_ofList, List.length_replicate] at short
  omega

def statedIds (payload : GossipPayload) : List String :=
  payload.emergentAspects.filterMap fun record => (record.lookup "genesis_id").bind Json.text?

theorem stated_id (payload : GossipPayload) (record : List (String × Json)) (member : record ∈ payload.emergentAspects)
    (id : String) (stated : record.lookup "genesis_id" = some (.str id)) : id ∈ statedIds payload :=
  List.mem_filterMap.mpr ⟨record, member, by rw [stated]; rfl⟩

theorem fresh_draws (payload : GossipPayload) (grimoire : Grimoire) (now : Nat → Datetime) :
    ∃ draws : Draws, draws.now = now ∧ FreshDraws draws payload grimoire := by
  obtain ⟨n, unused⟩ := unused_texts (grimoire.seeds.rows.map GlyphSeedRow.seedId ++
    (grimoire.emergentAspects.rows.map EmergentAspect.genesisId ++ statedIds payload))
  simp only [List.mem_append, not_or] at unused
  refine ⟨{ seedId := fun index => String.ofList (List.replicate (n + index) 'U')
            genesisId := fun index => String.ofList (List.replicate (n + index) 'U')
            now := now }, rfl, ?_, fun index => (unused index).1, fun index => (unused index).2.1, ?_⟩
  · intro i j same
    have lengths := congrArg String.length same
    simp only [String.length_ofList, List.length_replicate] at lengths
    omega
  · intro index record member stated
    exact (unused index).2.2 (stated_id payload record member _ stated)

theorem undated_time (coerce : Coercions) (record : List (String × Json)) (drawn : String) (now : Datetime)
    (aspect : EmergentAspect) (read : EmergentAspect.modelValidate coerce drawn now record = .ok aspect)
    (undated : record.lookup "proposed_at" = none) : aspect.proposedAt = now := by
  have again := read_proposal_drawn coerce record drawn drawn now now
  rw [read] at again
  rw [Except.ok.inj again, redrawn, undated]
  rfl

section Necessary

variable (env : GossipEnv) (payload : GossipPayload) (holds : AtomicIdempotent env payload)
  (verified : verifyGossipPayload env payload = .ok true)
include holds verified

theorem first_seed_refused (first : List (String × Json)) (rest : List (List (String × Json)))
    (seeds : payload.seeds = first :: rest) : ¬ SeedAccepted env first := by
  intro accepted
  have kept : ∀ draws : Draws, ∀ state : Merging, state.grimoire.seeds.Has (draws.seedId 0) → ∀ index records,
      (mergeEach (mergeProposal env draws) index records state).2.grimoire.seeds.Has (draws.seedId 0) := by
    intro draws state had index records
    refine merge_each_invariant _ (fun own => own.seeds.Has (draws.seedId 0)) ?_ index records state had
    intro index record before made after merged had
    obtain ⟨other, -, -, -, rfl⟩ := (merge_proposal_ok env draws index record before after made).mp merged
    exact had
  have stored : ∀ draws grimoire, (synced env draws payload grimoire).seeds.Has (draws.seedId 0) := by
    intro draws grimoire
    have seedStored : (seedsMerged env draws payload grimoire).2.grimoire.seeds.Has (draws.seedId 0) := by
      obtain ⟨⟨made, after⟩, merged⟩ := (merge_seed_accepted env draws 0 first grimoire).mpr accepted
      obtain ⟨seed, read, -, -, rfl⟩ := (merge_seed_ok env draws 0 first grimoire after made).mp merged
      rw [seedsMerged, seeds, merge_each_cons _ 0 first rest grimoire _ made merged]
      refine merge_each_invariant _ (fun own => own.seeds.Has (draws.seedId 0)) ?_ 1 rest _ ?_
      · intro index record before made after merged had
        obtain ⟨other, -, -, -, rfl⟩ := (merge_seed_ok env draws index record before after made).mp merged
        exact (Table.has_put _ _ _).mpr (Or.inl had)
      · rw [read_seed_drawn env "" (draws.seedId 0) first] at read
        cases own : readSeedRecord env "" first with
        | error raised => simp [own, Except.map] at read
        | ok plain =>
            rw [own] at read
            exact (Table.has_put _ _ _).mpr (Or.inr (congrArg GlyphSeed.seedId (Except.ok.inj read)))
    by_cases reaches : (∀ record ∈ payload.seeds, SeedAccepted env record) ∧ payload.crystallized = []
    · rw [synced, gossip_proposals env draws payload grimoire verified reaches.1 reaches.2]
      exact kept draws _ seedStored 0 _
    · rw [synced, (gossip_ended env draws payload grimoire verified reaches).1]
      exact seedStored
  obtain ⟨one, -, freshOne⟩ := fresh_draws payload {} fun _ => sampleTime
  obtain ⟨two, -, freshTwo⟩ := fresh_draws payload (synced env one payload {}) fun _ => sampleTime
  have again := stored two (synced env one payload {})
  rw [holds.idempotent {} one two freshOne freshTwo] at again
  exact freshTwo.newSeeds 0 again

section Proposals

variable (noSeeds : payload.seeds = []) (noCrystals : payload.crystallized = []) (first : List (String × Json))
  (rest : List (List (String × Json))) (proposals : payload.emergentAspects = first :: rest)
include noSeeds noCrystals proposals

theorem loop_succeeds (draws : Draws) (grimoire : Grimoire) (fresh : FreshDraws draws payload grimoire)
    (aspect : EmergentAspect)
    (read : EmergentAspect.modelValidate env.coerce (draws.genesisId 0) (draws.now 0) first = .ok aspect)
    (fits : ProposalFits aspect) (free : NameFree aspect.genesisId aspect.proposedName grimoire.emergentAspects)
    (absent : ¬ grimoire.emergentAspects.Has aspect.genesisId) :
    (mergeEach (mergeProposal env draws) 0 payload.emergentAspects { grimoire := grimoire }).1 = .ok () := by
  obtain ⟨state, raises⟩ := proposals_only env payload verified noSeeds noCrystals draws grimoire
  by_contra failed
  obtain ⟨raised, failed⟩ := raises.mpr failed
  have unchanged := holds.atomic grimoire draws raised fresh failed
  have stored := first_proposal_stored env draws 0 first rest grimoire aspect read fits free
  rw [← proposals, ← state, unchanged] at stored
  exact absent stored

variable (firstAccepted : ProposalAccepted env first)
include firstAccepted

theorem all_accepted : ∀ record ∈ payload.emergentAspects, ProposalAccepted env record := by
  obtain ⟨draws, -, fresh⟩ := fresh_draws payload {} fun _ => sampleTime
  obtain ⟨aspect, read, fits⟩ := accepted_reads env first firstAccepted (draws.genesisId 0) (draws.now 0)
  have ok := loop_succeeds env payload holds verified noSeeds noCrystals first rest proposals draws {} fresh aspect read
    fits (fun old member => by cases member) (fun had => by cases had)
  exact loop_ok_accepted env draws 0 payload.emergentAspects _ ok

theorem names_agree (name : String) (firstName : first.lookup "proposed_name" = some (.str name)) :
    ∀ record ∈ payload.emergentAspects, record.lookup "proposed_name" = some (.str name) := by
  intro record member
  have accepted := all_accepted env payload holds verified noSeeds noCrystals first rest proposals firstAccepted
  obtain ⟨blank, blankRead, -⟩ := accepted_reads env record (accepted record member) "" sampleTime
  obtain ⟨-, recordName⟩ := read_proposal_named env.coerce record "" sampleTime blank blankRead
  by_contra differs
  have otherName : blank.proposedName ≠ name := fun same => differs (same ▸ recordName)
  obtain ⟨n, unused⟩ := unused_texts (statedIds payload)
  have unusedId := unused 0
  generalize String.ofList (List.replicate (n + 0) 'U') = held at unusedId
  obtain ⟨blocking, isBlocking⟩ : ∃ blocking : EmergentAspect, blocking = { blank with genesisId := held } := ⟨_, rfl⟩
  have blockingId : blocking.genesisId = held := by rw [isBlocking]
  have blockingName : blocking.proposedName = blank.proposedName := by rw [isBlocking]; rfl
  have inTable : blocking ∈ (Table.empty.upsert blocking : Table EmergentAspect.genesisId).rows :=
    Table.find_mem _ blocking.genesisId blocking (by rw [Table.find_upsert, if_pos rfl])
  have onlyRow : ∀ old ∈ (Table.empty.upsert blocking : Table EmergentAspect.genesisId).rows, old = blocking := by
    intro old oldIn
    exact List.mem_singleton.mp oldIn
  obtain ⟨draws, -, fresh⟩ := fresh_draws payload { emergentAspects := Table.empty.upsert blocking } fun _ => sampleTime
  have notHeld : ∀ own ∈ payload.emergentAspects, ∀ k aspect,
      EmergentAspect.modelValidate env.coerce (draws.genesisId k) (draws.now k) own = .ok aspect →
        aspect.genesisId ≠ held := by
    intro own ownIn k aspect read same
    obtain ⟨⟨-, drawn⟩ | stated, -⟩ := read_proposal_named env.coerce own _ _ aspect read
    · exact fresh.newProposals k (drawn ▸ same ▸ blockingId ▸ Table.has_row _ blocking inTable)
    · exact unusedId (same ▸ stated_id payload own ownIn _ stated)
  obtain ⟨aspects, reads⟩ := accepted_all env draws 0 _ accepted
  have notHeldAspect : ∀ aspect ∈ aspects, aspect.genesisId ≠ held := by
    intro aspect aspectIn
    obtain ⟨-, own, ownIn, k, read⟩ := reads_aspect env draws 0 _ aspects reads aspect aspectIn
    exact notHeld own ownIn k aspect read
  obtain ⟨start, startRead, startFits⟩ := accepted_reads env first firstAccepted (draws.genesisId 0) (draws.now 0)
  have startName : start.proposedName = name :=
    Json.str.inj (Option.some.inj ((read_proposal_named env.coerce first _ _ start startRead).2.symm.trans firstName))
  have firstIn : first ∈ payload.emergentAspects := proposals ▸ List.mem_cons_self
  have ok := loop_succeeds env payload holds verified noSeeds noCrystals first rest proposals draws _ fresh start
    startRead startFits
    (fun old oldIn _ same => otherName (by
      rw [onlyRow old oldIn, startName] at same
      exact blockingName.symm.trans same))
    (fun had => by
      obtain ⟨old, oldIn, same⟩ := List.mem_map.mp had
      rw [onlyRow old oldIn, blockingId] at same
      exact notHeld first firstIn 0 start startRead same.symm)
  have free := (proposals_loop env draws 0 _ aspects reads _).1.mp ok
  obtain ⟨aspect, aspectIn, k, read⟩ := reads_record env draws 0 _ aspects reads record member
  have aspectName : aspect.proposedName = blank.proposedName := Json.str.inj
    (Option.some.inj ((read_proposal_named env.coerce record _ _ aspect read).2.symm.trans recordName))
  exact notHeldAspect aspect aspectIn (guarded_name held blank.proposedName _ aspects free
    ⟨blocking, inTable, blockingId, blockingName⟩
    (fun own ownIn same => absurd same (notHeldAspect own ownIn)) aspect aspectIn aspectName)

theorem ids_agree (name : String) (firstName : first.lookup "proposed_name" = some (.str name))
    (several : rest = [] → first.lookup "genesis_id" ≠ none) :
    ∃ genesisId, ∀ record ∈ payload.emergentAspects, record.lookup "genesis_id" = some (.str genesisId) := by
  have accepted := all_accepted env payload holds verified noSeeds noCrystals first rest proposals firstAccepted
  have names := names_agree env payload holds verified noSeeds noCrystals first rest proposals firstAccepted name
    firstName
  obtain ⟨draws, -, fresh⟩ := fresh_draws payload {} fun _ => sampleTime
  obtain ⟨aspects, reads⟩ := accepted_all env draws 0 _ accepted
  have named : ∀ aspect ∈ aspects, aspect.proposedName = name := by
    intro aspect aspectIn
    obtain ⟨-, own, ownIn, k, read⟩ := reads_aspect env draws 0 _ aspects reads aspect aspectIn
    exact Json.str.inj
      (Option.some.inj ((read_proposal_named env.coerce own _ _ aspect read).2.symm.trans (names own ownIn)))
  have readsAll := reads
  rw [proposals] at reads
  cases aspects with
  | nil => exact reads.elim
  | cons start more =>
      obtain ⟨⟨startRead, startFits⟩, later⟩ := reads
      have ok := loop_succeeds env payload holds verified noSeeds noCrystals first rest proposals draws {} fresh start
        startRead startFits (fun old member => by cases member) (fun had => by cases had)
      have free := (proposals_loop env draws 0 _ (start :: more) readsAll _).1.mp ok
      have inTable : start ∈ (Table.empty.upsert start : Table EmergentAspect.genesisId).rows :=
        Table.find_mem _ start.genesisId start (by rw [Table.find_upsert, if_pos rfl])
      have sameId : ∀ aspect ∈ start :: more, aspect.genesisId = start.genesisId := by
        intro aspect aspectIn
        rcases List.mem_cons.mp aspectIn with rfl | inMore
        · rfl
        · exact guarded_name start.genesisId name _ more free.2
            ⟨start, inTable, rfl, named start List.mem_cons_self⟩
            (fun own ownIn _ => named own (List.mem_cons_of_mem _ ownIn)) aspect inMore
            (named aspect (List.mem_cons_of_mem _ inMore))
      have firstIn : first ∈ payload.emergentAspects := proposals ▸ List.mem_cons_self
      have firstId : first.lookup "genesis_id" = some (.str start.genesisId) := by
        obtain ⟨noId, drawn⟩ | stated := (read_proposal_named env.coerce first _ _ start startRead).1
        · cases rest with
          | nil => exact absurd noId (several rfl)
          | cons second tail =>
              cases more with
              | nil => exact later.elim
              | cons next others =>
                  have secondIn : second ∈ payload.emergentAspects :=
                    proposals ▸ List.mem_cons_of_mem _ List.mem_cons_self
                  have nextId := sameId next (List.mem_cons_of_mem _ List.mem_cons_self)
                  obtain ⟨-, nextDrawn⟩ | nextStated := (read_proposal_named env.coerce second _ _ next later.1.1).1
                  · have index := fresh.genesisIds (nextDrawn.symm.trans (nextId.trans drawn))
                    cases index
                  · rw [nextId, drawn] at nextStated
                    exact absurd nextStated (fresh.unstated 0 second secondIn)
        · exact stated
      refine ⟨start.genesisId, fun record member => ?_⟩
      obtain ⟨aspect, aspectIn, k, read⟩ := reads_record env draws 0 _ _ readsAll record member
      obtain ⟨-, drawn⟩ | stated := (read_proposal_named env.coerce record _ _ aspect read).1
      · have clash := sameId aspect aspectIn
        rw [← clash, drawn] at firstId
        exact absurd firstId (fresh.unstated k first firstIn)
      · rw [sameId aspect aspectIn] at stated
        exact stated

theorem last_dated (genesisId name : String)
    (named : ∀ record ∈ payload.emergentAspects, record.lookup "genesis_id" = some (.str genesisId) ∧
      record.lookup "proposed_name" = some (.str name)) :
    ∀ last ∈ payload.emergentAspects.getLast?, last.lookup "proposed_at" ≠ none := by
  intro last isLast undated
  have accepted := all_accepted env payload holds verified noSeeds noCrystals first rest proposals firstAccepted
  have effect := one_synced env payload verified noSeeds noCrystals genesisId name accepted named last isLast
  have laterHour : (1 : Nat) < 24 := by decide
  obtain ⟨one, oneNow, freshOne⟩ := fresh_draws payload {} fun _ => sampleTime
  obtain ⟨-, a, i, readA, stateA⟩ := effect one {} fun old member => by cases member
  have lastIn : last ∈ payload.emergentAspects := List.mem_of_getLast? isLast
  have stated : ∀ drawn now aspect, EmergentAspect.modelValidate env.coerce drawn now last = .ok aspect →
      aspect.genesisId = genesisId := by
    intro drawn now aspect read
    obtain ⟨noId, -⟩ | ownId := (read_proposal_named env.coerce last drawn now aspect read).1
    · rw [(named last lastIn).1] at noId
      cases noId
    · exact Json.str.inj (Option.some.inj (ownId.symm.trans (named last lastIn).1))
  obtain ⟨two, twoNow, freshTwo⟩ := fresh_draws payload (synced env one payload {}) fun _ =>
    { sampleTime with hour := 1, hourRange := laterHour }
  obtain ⟨-, b, j, readB, stateB⟩ := effect two (synced env one payload {}) (by
    rw [stateA]
    exact (name_free_upsert genesisId name _ a (stated _ _ a readA)).mpr fun old member => by cases member)
  have again := holds.idempotent {} one two freshOne freshTwo
  rw [stateB] at again
  have rows := congrArg (fun own : Grimoire => own.emergentAspects.find? genesisId) again
  simp only [stateA, Table.find_upsert, stated _ _ a readA, stated _ _ b readB, if_true, Option.some.injEq] at rows
  have timeA := undated_time env.coerce last _ _ a readA undated
  have timeB := undated_time env.coerce last _ _ b readB undated
  rw [oneNow] at timeA
  rw [twoNow, rows, timeA] at timeB
  have hours : (0 : Nat) = 1 := congrArg Datetime.hour timeB
  cases hours

end Proposals

theorem atomic_settled : Settled env payload := by
  cases seeds : payload.seeds with
  | cons first rest =>
      exact .seedRefused first rest seeds (first_seed_refused env payload holds verified first rest seeds)
  | nil =>
      by_cases crystals : payload.crystallized = []
      swap
      · exact .crystallized seeds crystals
      cases proposals : payload.emergentAspects with
      | nil => exact .empty seeds proposals
      | cons first rest =>
          by_cases firstAccepted : ProposalAccepted env first
          swap
          · exact .proposalRefused first rest seeds proposals firstAccepted
          obtain ⟨blank, blankRead, -⟩ := accepted_reads env first firstAccepted "" sampleTime
          have firstName := (read_proposal_named env.coerce first "" sampleTime blank blankRead).2
          by_cases lone : rest = [] ∧ first.lookup "genesis_id" = none
          · exact .unnamed first seeds (by rw [proposals, lone.1]) lone.2
          · have names := names_agree env payload holds verified seeds crystals first rest proposals firstAccepted _
              firstName
            obtain ⟨genesisId, ids⟩ := ids_agree env payload holds verified seeds crystals first rest proposals
              firstAccepted _ firstName fun none noId => lone ⟨none, noId⟩
            have named := fun record member => And.intro (ids record member) (names record member)
            have dated := last_dated env payload holds verified seeds crystals first rest proposals firstAccepted
              genesisId _ named
            exact .one genesisId blank.proposedName seeds
              (all_accepted env payload holds verified seeds crystals first rest proposals firstAccepted) named dated

end Necessary

theorem settled_atomic (env : GossipEnv) (payload : GossipPayload)
    (verified : verifyGossipPayload env payload = .ok true) (settled : Settled env payload) :
    AtomicIdempotent env payload := by
  by_cases crystals : payload.crystallized = []
  · cases settled with
    | seedRefused first rest seeds refused =>
        exact unchanged_settled env payload (seed_refused_unchanged env payload verified first rest seeds refused)
    | crystallized _ some => exact absurd crystals some
    | empty noSeeds noProposals =>
        refine one_settled env payload verified noSeeds crystals "" "" ?_ ?_ ?_ <;> simp [noProposals]
    | proposalRefused first rest noSeeds proposals refused =>
        refine unchanged_settled env payload fun draws grimoire => ?_
        refine proposal_refused_unchanged env payload verified noSeeds crystals first rest proposals draws grimoire ?_
        intro aspect read writable
        exact refused ⟨_, _, aspect, read, ((writable_iff aspect grimoire).mp writable).1⟩
    | unnamed only noSeeds proposals noId =>
        exact unnamed_settled env payload verified noSeeds crystals only proposals noId
    | one genesisId name noSeeds accepted named dated =>
        exact one_settled env payload verified noSeeds crystals genesisId name accepted named dated
  · cases seeds : payload.seeds with
    | nil => exact unchanged_settled env payload (crystallized_unchanged env payload verified seeds crystals)
    | cons first rest =>
        cases settled with
        | seedRefused own more split refused =>
            exact unchanged_settled env payload (seed_refused_unchanged env payload verified own more split refused)
        | crystallized noSeeds _ => simp [seeds] at noSeeds
        | empty noSeeds _ => simp [seeds] at noSeeds
        | proposalRefused _ _ noSeeds _ _ => simp [seeds] at noSeeds
        | unnamed _ noSeeds _ _ => simp [seeds] at noSeeds
        | one _ _ noSeeds _ _ _ => simp [seeds] at noSeeds

theorem gossip_atomic_iff (env : GossipEnv) (payload : GossipPayload)
    (verified : verifyGossipPayload env payload = .ok true) : AtomicIdempotent env payload ↔ Settled env payload :=
  ⟨fun holds => atomic_settled env payload holds verified, settled_atomic env payload verified⟩

theorem gossip_atomic_iff_named : AtomicIdempotent gossipEnv (proposalsPayload [harmonyRecord]) := by
  refine (gossip_atomic_iff gossipEnv (proposalsPayload [harmonyRecord]) (by decide +kernel)).mpr ?_
  refine .one "G" "HARMONY" rfl ?_ ?_ ?_
  · intro record member
    obtain rfl := List.mem_singleton.mp member
    exact ⟨"G", sampleTime, harmonyRead, harmony_record_read _ _, ⟨3, rfl⟩, ⟨0, rfl⟩⟩
  · intro record member
    obtain rfl := List.mem_singleton.mp member
    exact ⟨rfl, rfl⟩
  · intro last isLast undated
    obtain rfl := Option.some.inj isLast
    cases undated

def mindRecord : List (String × Json) := [("aspect_pattern", .arr [.str "MIND"])]

def mindPayload : GossipPayload := sealedPayload [mindRecord] []

theorem seed_stored_twice : ¬ ∀ (env : GossipEnv) (payload : GossipPayload),
    verifyGossipPayload env payload = .ok true → AtomicIdempotent env payload := by
  intro all
  have verified : verifyGossipPayload gossipEnv mindPayload = .ok true := by decide +kernel
  refine first_seed_refused gossipEnv mindPayload (all gossipEnv mindPayload verified) verified mindRecord [] rfl ?_
  refine ⟨{ seedId := "", aspectPattern := { names := ["MIND"], distinct := List.nodup_singleton _ },
            semanticVector := fromAspects {} { names := ["MIND"], distinct := List.nodup_singleton _ } }, by decide +kernel, ?_⟩
  exact ⟨⟨0, rfl⟩, ⟨1, rfl⟩, ⟨0, rfl⟩⟩

end Vermyth
