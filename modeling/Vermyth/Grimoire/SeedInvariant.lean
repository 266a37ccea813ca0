import Vermyth.Foundation.Transition
import Vermyth.Grimoire.Accumulation
import Vermyth.Grimoire.GossipSync

set_option autoImplicit false

namespace Vermyth

open Foundation

theorem compose_aspects (engine : CompositionEngine) (registry : AspectRegistry) (order : SetOrder)
    (aspects : AspectSet) (sigil : ResolvedSigil) (ok : engine.compose registry order aspects = .ok sigil) :
    aspects.members = sigil.aspects.members := by
  rw [CompositionEngine.compose] at ok
  split_ifs at ok
  simp only [] at ok
  generalize engine.entry? (canonicalAspectKey registry aspects) = entry at ok
  cases entry with
  | none => cases ok
  | some raw =>
      obtain ⟨-, -, rfl⟩ := (resolved_sigil_ok _ _ _ _ _ _ _ sigil).mp ok
      exact (rebuild_members order aspects).symm

theorem cast_sigil_aspects (env : SeedEnv) (asked : AspectSet) (chained : Bool) (crystals : CrystallizedTable)
    (sigil : ResolvedSigil) (ok : castSigil env asked chained crystals = .ok sigil) :
    asked.members = sigil.aspects.members := by
  cases chained with
  | true => exact compose_aspects _ _ _ asked sigil ok
  | false =>
      simp only [castSigil, Bool.false_eq_true, if_false] at ok
      cases found : crystallizedForAspects env.registry env.order asked crystals with
      | error raised =>
          rw [found] at ok
          contradiction
      | ok crystal =>
          rw [found] at ok
          cases crystal with
          | none => exact compose_aspects _ _ _ asked sigil ok
          | some crystal =>
              obtain rfl := Except.ok.inj ok
              obtain ⟨row, -, names, rfl⟩ := crystallized_row _ _ _ asked crystal found
              exact (congrArg List.toFinset names).symm.trans (rebuild_members env.order row.aspects).symm

theorem cast_result_aspects (env : SeedEnv) (asked : AspectSet) (chained : Bool)
    (evaluate : ResolvedSigil → Except PyError Verdict) (crystals : CrystallizedTable) (result : SeedCast)
    (ok : castResult env asked chained evaluate crystals = .ok result) :
    asked.members = result.aspects.members := by
  rw [castResult, bind_ok] at ok
  obtain ⟨sigil, own, ok⟩ := ok
  obtain ⟨verdict, -, ok⟩ := (bind_ok _ _ _).mp ok
  obtain rfl := Except.ok.inj ok
  exact cast_sigil_aspects env asked chained crystals sigil own

def SeedCall.drawn : SeedCall → List String
  | .cast _ _ _ draw | .fluidCast _ draw => [draw.seedId]
  | .autoCast (.ok chain) => chain.map fun item => item.2.seedId
  | .autoCast (.error _) => []
  | .gossip payload draws => (List.range payload.seeds.length).map draws.seedId

def FreshIds (store : SeedStore) (call : SeedCall) : Prop :=
  call.drawn.Nodup ∧ ∀ id ∈ call.drawn, ¬ store.grimoire.seeds.Has id

instance (asked : AspectSet) (result : SeedCast) (seeds : SeedTable) : Decidable (Finds asked result seeds) :=
  inferInstanceAs (Decidable (_ ∨ ∀ row ∈ seeds.rows, _))

instance (store : SeedStore) (call : SeedCall) : Decidable (FreshIds store call) :=
  inferInstanceAs (Decidable (_ ∧ ∀ id ∈ call.drawn, _))

instance decidableOfReturned {α : Type} (holds : α → Prop) [DecidablePred holds] :
    (action : Except PyError α) → Decidable (∀ value, action = .ok value → holds value)
  | .ok value =>
      decidable_of_iff (holds value) ⟨fun held _ same => Except.ok.inj same ▸ held, fun all => all value rfl⟩
  | .error _ => isTrue fun _ same => by cases same

instance decidableReturns {α : Type} : (action : Except PyError α) → Decidable (∃ value, action = .ok value)
  | .ok value => isTrue ⟨value, rfl⟩
  | .error raised => isFalse fun returns => Exists.elim returns fun _ same => by cases same

instance (seed : GlyphSeed) : Decidable (SeedFits seed) :=
  decidable_of_iff
    ((∃ value, sqlInteger seed.observedCount = .ok value) ∧ (∃ value, sqlInteger seed.generation = .ok value) ∧
      ∃ value, sqlInteger seed.semanticVector.normalizedBasisVersion = .ok value)
    ⟨fun fits => ⟨fits.1, fits.2.1, fits.2.2⟩, fun fits => ⟨fits.observedCount, fits.generation, fits.basisVersion⟩⟩

def acceptedSeeds (env : GossipEnv) (draws : Draws) : Nat → List (List (String × Json)) → List GlyphSeed
  | _, [] => []
  | index, record :: rest =>
      match readSeedRecord env (draws.seedId index) record with
      | .error _ => []
      | .ok seed => if SeedFits seed then seed :: acceptedSeeds env draws (index + 1) rest else []

-- What holds of the store when nothing was raised.
def Onward (holds : SeedStore → Prop) : Except PyError Unit × SeedStore → Prop
  | (.error _, _) => True
  | (.ok _, store) => holds store

def ChainFinds (env : SeedEnv) : List (SeedCast × SeedDraw) → SeedStore → Prop
  | [], _ => True
  | (result, draw) :: rest, store =>
      Finds result.aspects result store.grimoire.seeds ∧
        Onward (ChainFinds env rest) (accumulateSeed env result.aspects result draw store)

def FindsSeeds (env : SeedEnv) (store : SeedStore) : SeedCall → Prop
  | .cast names chained evaluate _ =>
      ∀ asked, askedSet env names = .ok asked → ∀ result,
        castResult env asked chained evaluate store.grimoire.crystallized = .ok result →
          Finds asked result store.grimoire.seeds
  | .fluidCast answer _ => ∀ result, answer = .ok result → Finds result.aspects result store.grimoire.seeds
  | .autoCast answer => ∀ chain, answer = .ok chain → ChainFinds env chain store
  | .gossip payload draws =>
      verifyGossipPayload env.gossip payload = .ok true →
        ((store.grimoire.seeds.rows.map fun row => row.aspectPattern.members) ++
          (acceptedSeeds env.gossip draws 0 payload.seeds).map fun seed => seed.aspectPattern.members).Nodup

instance Onward.decidable (holds : SeedStore → Prop) [DecidablePred holds] :
    (outcome : Except PyError Unit × SeedStore) → Decidable (Onward holds outcome)
  | (.error _, _) => isTrue trivial
  | (.ok _, store) => inferInstanceAs (Decidable (holds store))

instance ChainFinds.decidable (env : SeedEnv) :
    (chain : List (SeedCast × SeedDraw)) → DecidablePred (ChainFinds env chain)
  | [], _ => isTrue trivial
  | (result, draw) :: rest, store =>
      have _ : DecidablePred (ChainFinds env rest) := ChainFinds.decidable env rest
      inferInstanceAs (Decidable (Finds result.aspects result store.grimoire.seeds ∧
        Onward (ChainFinds env rest) (accumulateSeed env result.aspects result draw store)))

instance (env : SeedEnv) (store : SeedStore) : (call : SeedCall) → Decidable (FindsSeeds env store call)
  | .cast _ _ _ _ => inferInstanceAs (Decidable (∀ _, _ → ∀ _, _ → _))
  | .fluidCast _ _ => inferInstanceAs (Decidable (∀ _, _ → _))
  | .autoCast _ => inferInstanceAs (Decidable (∀ _, _ → _))
  | .gossip _ _ => inferInstanceAs (Decidable (_ → _))

theorem chain_invariant (env : SeedEnv) (chain : List (SeedCast × SeedDraw)) (store : SeedStore)
    (holds : SeedInvariant store) (distinct : (chain.map fun item => item.2.seedId).Nodup)
    (fresh : ∀ id ∈ chain.map fun item => item.2.seedId, ¬ store.grimoire.seeds.Has id)
    (finds : ChainFinds env chain store) : SeedInvariant (writeChain env chain store).2 := by
  induction chain generalizing store with
  | nil => exact holds
  | cons item rest ih =>
      obtain ⟨result, draw⟩ := item
      rw [List.map_cons, List.nodup_cons] at distinct
      rw [List.map_cons, List.forall_mem_cons] at fresh
      obtain ⟨here, later⟩ := finds
      have next : SeedInvariant (accumulateSeed env result.aspects result draw store).2 :=
        accumulate_invariant store holds rfl fresh.1 here
      have ids : ∀ id, (accumulateSeed env result.aspects result draw store).2.grimoire.seeds.Has id →
          store.grimoire.seeds.Has id ∨ id = draw.seedId := fun id has => accumulate_ids store id has
      rw [writeChain]
      generalize accumulateSeed env result.aspects result draw store = outcome at next ids later
      obtain ⟨done, after⟩ := outcome
      cases done with
      | error raised => exact next
      | ok _ =>
          refine ih after next distinct.2 ?_ later
          intro id member has
          obtain earlier | isDraw := ids id has
          · exact fresh.2 id member earlier
          · exact distinct.1 (isDraw ▸ member)

theorem read_seed_id (env : GossipEnv) (drawn : String) (record : List (String × Json)) (seed : GlyphSeed)
    (read : readSeedRecord env drawn record = .ok seed) : seed.seedId = drawn := by
  have again := read_seed_drawn env drawn drawn record
  rw [read] at again
  exact congrArg GlyphSeed.seedId (Except.ok.inj again)

theorem accepted_ids (env : GossipEnv) (draws : Draws) (index : Nat) (records : List (List (String × Json))) :
    ((acceptedSeeds env draws index records).map GlyphSeed.seedId).Sublist
      ((List.range' index records.length).map draws.seedId) := by
  induction records generalizing index with
  | nil => exact List.Sublist.slnil
  | cons record rest ih =>
      rw [List.length_cons, List.range'_succ, List.map_cons, acceptedSeeds]
      cases read : readSeedRecord env (draws.seedId index) record with
      | error raised => exact List.nil_sublist _
      | ok seed =>
          simp only []
          split_ifs
          · rw [List.map_cons, read_seed_id env _ record seed read]
            exact (ih (index + 1)).cons_cons _
          · exact List.nil_sublist _

theorem merge_seeds_table (env : GossipEnv) (draws : Draws) (index : Nat) (records : List (List (String × Json)))
    (state : Merging) :
    (mergeEach (mergeSeed env draws) index records state).2.grimoire.seeds =
      ((acceptedSeeds env draws index records).map serializeGlyphSeed).foldl Table.put state.grimoire.seeds := by
  induction records generalizing index state with
  | nil => rfl
  | cons record rest ih =>
      cases merged : mergeSeed env draws index record state.grimoire with
      | error raised =>
          rw [merge_each_raised _ _ _ _ _ raised merged, acceptedSeeds]
          cases read : readSeedRecord env (draws.seedId index) record with
          | error raised => rfl
          | ok seed =>
              have refused : ¬ SeedFits seed := by
                intro fits
                have accepted := (merge_seed_ok env draws index record state.grimoire _ _).mpr
                  ⟨seed, read, fits, rfl, rfl⟩
                rw [merged] at accepted
                cases accepted
              simp only [if_neg refused]
              rfl
      | ok result =>
          obtain ⟨made, after⟩ := result
          obtain ⟨seed, read, fits, rfl, rfl⟩ := (merge_seed_ok env draws index record _ after made).mp merged
          simp only [mergeEach, merged]
          rw [ih, acceptedSeeds, read]
          simp only [if_pos fits]
          rfl

theorem merge_crystallized_seeds (env : GossipEnv) (records : List (List (String × Json))) (state : Merging) :
    (mergeEach (fun _ => mergeCrystallized env) 0 records state).2.grimoire.seeds = state.grimoire.seeds := by
  refine merge_each_invariant _ (fun grimoire => grimoire.seeds = state.grimoire.seeds) ?_ 0 records state rfl
  intro index record before made after merged _
  obtain ⟨raised, refused⟩ := merge_crystallized_raises env record before
  cases refused.symm.trans merged

theorem merge_proposals_seeds (env : GossipEnv) (draws : Draws) (records : List (List (String × Json)))
    (state : Merging) :
    (mergeEach (mergeProposal env draws) 0 records state).2.grimoire.seeds = state.grimoire.seeds := by
  refine merge_each_invariant _ (fun grimoire => grimoire.seeds = state.grimoire.seeds) ?_ 0 records state rfl
  intro index record before made after merged kept
  obtain ⟨aspect, -, -, -, rfl⟩ := (merge_proposal_ok env draws index record before after made).mp merged
  exact kept

theorem gossip_seeds (env : GossipEnv) (draws : Draws) (payload : GossipPayload) (grimoire : Grimoire) :
    (applyGossipSync env draws payload grimoire).2.grimoire.seeds =
      if verifyGossipPayload env payload = .ok true then
        ((acceptedSeeds env draws 0 payload.seeds).map serializeGlyphSeed).foldl Table.put grimoire.seeds
      else grimoire.seeds := by
  rw [applyGossipSync]
  cases verified : verifyGossipPayload env payload with
  | error raised => rfl
  | ok proven =>
      cases proven with
      | false => rfl
      | true =>
          rw [if_pos rfl, ← merge_seeds_table env draws 0 payload.seeds { grimoire := grimoire }]
          simp only []
          generalize mergeEach (mergeSeed env draws) 0 payload.seeds { grimoire := grimoire } = seeds
          obtain ⟨seedsDone, state⟩ := seeds
          cases seedsDone with
          | error raised => rfl
          | ok _ =>
              have crystals := merge_crystallized_seeds env payload.crystallized state
              simp only []
              generalize mergeEach (fun _ => mergeCrystallized env) 0 payload.crystallized state = merged at crystals
              obtain ⟨crystalsDone, after⟩ := merged
              cases crystalsDone with
              | error raised => exact crystals
              | ok _ =>
                  have proposals := merge_proposals_seeds env draws payload.emergentAspects after
                  simp only []
                  generalize mergeEach (mergeProposal env draws) 0 payload.emergentAspects after = last at proposals
                  obtain ⟨lastDone, final⟩ := last
                  cases lastDone <;> exact proposals.trans crystals

theorem gossip_one_iff (env : GossipEnv) (draws : Draws) (payload : GossipPayload) (grimoire : Grimoire)
    (verified : verifyGossipPayload env payload = .ok true)
    (distinct : ((List.range payload.seeds.length).map draws.seedId).Nodup)
    (fresh : ∀ id ∈ (List.range payload.seeds.length).map draws.seedId, ¬ grimoire.seeds.Has id) :
    OneSeedEach (applyGossipSync env draws payload grimoire).2.grimoire.seeds ↔
      ((grimoire.seeds.rows.map fun row => row.aspectPattern.members) ++
        (acceptedSeeds env draws 0 payload.seeds).map fun seed => seed.aspectPattern.members).Nodup := by
  have ids := accepted_ids env draws 0 payload.seeds
  rw [← List.range_eq_range'] at ids
  have keys : ((acceptedSeeds env draws 0 payload.seeds).map serializeGlyphSeed).map GlyphSeedRow.seedId =
      (acceptedSeeds env draws 0 payload.seeds).map GlyphSeed.seedId := by
    rw [List.map_map]
    rfl
  have patterns : ((acceptedSeeds env draws 0 payload.seeds).map serializeGlyphSeed).map
      (fun row => row.aspectPattern.members) =
        (acceptedSeeds env draws 0 payload.seeds).map fun seed => seed.aspectPattern.members := by
    rw [List.map_map]
    rfl
  rw [gossip_seeds, if_pos verified, OneSeedEach, Table.puts_fresh, List.map_append, patterns]
  · rw [keys]
    exact distinct.sublist ids
  · intro row member
    have drawn : row.seedId ∈ (acceptedSeeds env draws 0 payload.seeds).map GlyphSeed.seedId :=
      keys ▸ List.mem_map_of_mem member
    exact fresh row.seedId (ids.subset drawn)

theorem seed_call_invariant (env : SeedEnv) (store : SeedStore) (call : SeedCall) (holds : SeedInvariant store)
    (fresh : FreshIds store call) (finds : FindsSeeds env store call) : SeedInvariant (seedCall env store call) := by
  cases call with
  | cast names chained evaluate draw =>
      rw [seedCall, toolCast]
      cases asks : askedSet env names with
      | error raised => exact holds
      | ok asked =>
          simp only []
          cases answers : castResult env asked chained evaluate store.grimoire.crystallized with
          | error raised => exact holds
          | ok result =>
              exact accumulate_invariant store holds (cast_result_aspects env asked chained evaluate _ result answers)
                (fresh.2 draw.seedId List.mem_cons_self) (finds asked asks result answers)
  | fluidCast answer draw =>
      cases answer with
      | error raised => exact holds
      | ok result =>
          exact accumulate_invariant store holds rfl (fresh.2 draw.seedId List.mem_cons_self) (finds result rfl)
  | autoCast answer =>
      cases answer with
      | error raised => exact holds
      | ok chain => exact chain_invariant env chain store holds fresh.1 fresh.2 (finds chain rfl)
  | gossip payload draws =>
      refine ⟨?_, holds.throughout, holds.exact⟩
      by_cases verified : verifyGossipPayload env.gossip payload = .ok true
      · exact (gossip_one_iff env.gossip draws payload store.grimoire verified fresh.1 fresh.2).mpr (finds verified)
      · rw [seedCall, gossip_seeds, if_neg verified]
        exact holds.one

theorem seed_store_invariant (env : SeedEnv) (start : Grimoire) (one : OneSeedEach start.seeds) (calls : List SeedCall)
    (fresh : ∀ before call, Taken (seedCall env) { grimoire := start } calls before call → FreshIds before call)
    (finds : ∀ before call, Taken (seedCall env) { grimoire := start } calls before call →
      FindsSeeds env before call) :
    SeedInvariant (run (seedCall env) { grimoire := start } calls) := by
  refine run_invariant SeedInvariant _ calls ⟨one, ?_, ?_⟩ ?_
  · exact fun own member => absurd member List.not_mem_nil
  · exact fun own member => absurd member List.not_mem_nil
  · intro before call taken holds
    exact seed_call_invariant env before call holds (fresh before call taken) (finds before call taken)

def mindEngine : CompositionEngine where
  table :=
    { rows := [{ key := "MIND", entry := { name := "Ideoglyph", effectClass := .cognition,
                                           resonanceCeiling := 82 / 100, contradictionSeverity := some .none } }]
      distinct := by simp }

def seedEnv : SeedEnv where
  gossip := gossipEnv
  engine := mindEngine

def sampleVerdict : Verdict where
  verdictType := .coherent
  resonance := { adjusted := 4 / 5, inRange := by decide +kernel }

def lightCast : SeedCast where
  aspects := { names := ["LIGHT"], distinct := List.nodup_singleton _ }
  effectClass := .revelation
  verdict := sampleVerdict

def drawnAs (seedId : String) : SeedDraw where
  seedId := seedId
  now := sampleTime

def laterDraws : Draws where
  seedId := fun index => String.ofList (List.replicate (index + 1) 'S')
  genesisId := sampleDraws.genesisId
  now := sampleDraws.now

theorem seed_store_invariant_casts :
    SeedInvariant (run (seedCall seedEnv) { grimoire := {} }
      [.gossip mindPayload sampleDraws, .cast ["MIND"] false (fun _ => .ok sampleVerdict) (drawnAs "A"),
        .autoCast (.ok [(lightCast, drawnAs "B"), (lightCast, drawnAs "C")]),
        .fluidCast (.ok lightCast) (drawnAs "D")]) :=
  seed_store_invariant seedEnv {} (by decide) _ (along_taken FreshIds { grimoire := {} } _ (by decide +kernel))
    (along_taken (FindsSeeds seedEnv) { grimoire := {} } _ (by decide +kernel))

theorem gossip_doubles_seed :
    ¬ ∀ (env : SeedEnv) (start : Grimoire) (calls : List SeedCall), OneSeedEach start.seeds →
      (∀ before call, Taken (seedCall env) { grimoire := start } calls before call → FreshIds before call) →
        SeedInvariant (run (seedCall env) { grimoire := start } calls) := by
  intro always
  have invariant := always seedEnv {} [.gossip mindPayload sampleDraws, .gossip mindPayload laterDraws] (by decide)
    (along_taken FreshIds { grimoire := {} } _ (by decide +kernel))
  exact absurd invariant.one (by decide +kernel)

end Vermyth
