import Mathlib.Data.Set.Function
import Vermyth.Grimoire.Lifecycle
import Vermyth.Grimoire.PatternLookup
import Vermyth.Grimoire.Swarm
import Vermyth.Protocol.KeyOrder

set_option autoImplicit false

namespace Vermyth

open Foundation

theorem stable_str (env : GossipEnv) : Stable (strOf env) := stable_of _ fun value => by cases value <;> rfl

theorem check_vector_alike (coerce : Coercions) (expected : List ℚ) (a b : List (String × Json)) (alike : Alike a b) :
    checkVector coerce expected a = checkVector coerce expected b := by
  rw [checkVector, checkVector]
  obtain ⟨inA, inB⟩ | ⟨value, other, inA, inB, same⟩ := lookup_alike a b alike "semantic_vector"
  · rw [inA, inB]
  · rw [inA, inB]
    have vectors := stable_vector coerce value other same
    obtain rfl | ⟨items, others, rfl, rfl, -⟩ | ⟨a, b, rfl, rfl, -⟩ := sorted_cases value other same
    · rfl
    · rfl
    · simp only [vectors]

theorem read_glyph_seed_alike (env : GossipEnv) (drawn : String) (aspects : AspectSet) (a b : List (String × Json))
    (alike : Alike a b) : readGlyphSeed env drawn aspects a = readGlyphSeed env drawn aspects b := by
  have classes : Stable effectClass? := stable_named EffectClass.named?
  simp only [readGlyphSeed, check_vector_alike env.coerce _ a b alike, forbid_extra_alike _ a b alike,
    read_field_alike _ (stable_int env.coerce 0) _ a b alike, read_field_alike _ (stable_int env.coerce 1) _ a b alike,
    read_field_alike _ (stable_unit env.coerce) _ a b alike, read_field_alike _ (stable_bool env.coerce) _ a b alike,
    read_field_alike _ (stable_nullable _ classes) _ a b alike]

theorem map_stable {α : Type} (read : Json → α) (stable : Stable read) (items others : List Json)
    (same : items.map Json.sorted = others.map Json.sorted) : items.map read = others.map read := by
  induction items generalizing others with
  | nil =>
      obtain rfl := List.map_eq_nil_iff.mp same.symm
      rfl
  | cons item rest ih =>
      obtain ⟨other, more, rfl, first, later⟩ := List.map_eq_cons_iff.mp same.symm
      rw [List.map_cons, List.map_cons, stable item other first.symm, ih more later.symm]

theorem read_pattern_alike (env : GossipEnv) (drawn : String) (a b : List (String × Json)) (alike : Alike a b) :
    (resolvePattern env a >>= GlyphSeed.modelValidate env drawn a) =
      (resolvePattern env b >>= GlyphSeed.modelValidate env drawn b) := by
  have same : GlyphSeed.modelValidate env drawn a = GlyphSeed.modelValidate env drawn b := by
    funext pattern
    simp only [GlyphSeed.modelValidate, read_glyph_seed_alike env drawn _ a b alike,
      check_vector_alike env.coerce _ a b alike]
  rw [same, resolvePattern, resolvePattern]
  obtain ⟨inA, inB⟩ | ⟨value, other, inA, inB, sorted⟩ := lookup_alike a b alike "aspect_pattern"
  · rw [inA, inB]
  · rw [inA, inB]
    obtain rfl | ⟨items, others, rfl, rfl, each⟩ | ⟨a, b, rfl, rfl, -⟩ := sorted_cases value other sorted
    · rfl
    · simp only [map_stable (strOf env) (stable_str env) items others each]
    · rfl

theorem read_seed_record_alike (env : GossipEnv) (drawn : String) (a b : List (String × Json)) (alike : Alike a b) :
    readSeedRecord env drawn a = readSeedRecord env drawn b :=
  read_pattern_alike env drawn _ _ (alike_pop "seed_id" a b alike)

def signedText (env : GossipEnv) (payload : GossipPayload) : String :=
  canonicalJson env.platform.floatRepr
    (gossipBody payload.peerId payload.keyId payload.seeds payload.crystallized)

theorem verify_gossip_ok (env : GossipEnv) (payload : GossipPayload)
    (verified : verifyGossipPayload env payload = .ok true) :
    hexBytes (env.platform.hmacSha256 (federationSecret env) (signedText env payload)) = payload.proof := by
  simp only [verifyGossipPayload] at verified
  split_ifs at verified with _ ascii
  · simp at verified
  · exact beq_iff_eq.mp (Except.ok.inj verified)

theorem hex_ascii (bytes : List UInt8) : ((hexBytes bytes).toList.all fun c => c.toNat < 128) = true := by
  have digit : ∀ n : Nat, n < 16 → (hexDigit n).toNat < 128 := by decide
  rw [hexBytes, String.toList_ofList, List.all_eq_true]
  intro c member
  obtain ⟨byte, -, inByte⟩ := List.mem_flatMap.mp member
  have bound := byte.toNat_lt
  rw [decide_eq_true_eq]
  rcases List.mem_cons.mp inByte with rfl | rest
  · exact digit _ (by omega)
  · rw [List.mem_singleton.mp rest]
    exact digit _ (by omega)

theorem sign_gossip_verifies (env : GossipEnv) (payload : GossipPayload)
    (signed : signGossipPayload env payload.peerId payload.keyId payload.seeds payload.crystallized none =
      .ok payload.proof) : verifyGossipPayload env payload = .ok true := by
  rw [signGossipPayload, Option.getD_none] at signed
  rw [verifyGossipPayload]
  by_cases unset : federationSecret env = []
  · rw [if_pos unset] at signed
    cases signed
  · rw [if_neg unset] at signed
    have proof := Except.ok.inj signed
    have ascii : (payload.proof.toList.all fun c => c.toNat < 128) = true := by
      rw [← proof]
      exact hex_ascii _
    rw [if_neg unset, if_pos ascii, proof, beq_self_eq_true]

-- Emergent aspects are no part of what the proof is over.
theorem verify_other_proposals (env : GossipEnv) (payload : GossipPayload)
    (emergentAspects : List (List (String × Json))) :
    verifyGossipPayload env { payload with emergentAspects := emergentAspects } = verifyGossipPayload env payload := rfl

theorem records_alike (records others : List (List (String × Json)))
    (same : (Json.arr (records.map Json.obj)).sorted = (Json.arr (others.map Json.obj)).sorted) :
    List.Forall₂ Alike records others := by
  rw [Json.sorted, Json.sorted, Json.arr.injEq, sorted_items_map, sorted_items_map] at same
  induction records generalizing others with
  | nil =>
      obtain rfl := List.map_eq_nil_iff.mp (List.map_eq_nil_iff.mp same.symm)
      exact .nil
  | cons record rest ih =>
      cases others with
      | nil => simp at same
      | cons other more =>
          simp only [List.map_cons, List.cons.injEq] at same
          exact .cons (obj_alike record other same.1) (ih more same.2)

theorem gossip_body_alike (env : GossipEnv) {readFloat : List Char → Option ℚ}
    (text : FloatText env.platform.floatRepr readFloat) (p q : GossipPayload) (sameProof : p.proof = q.proof)
    (free : Set.InjOn (env.platform.hmacSha256 (federationSecret env)) {signedText env p, signedText env q})
    (verifiedP : verifyGossipPayload env p = .ok true) (verifiedQ : verifyGossipPayload env q = .ok true) :
    List.Forall₂ Alike p.seeds q.seeds ∧ List.Forall₂ Alike p.crystallized q.crystallized := by
  have macs : env.platform.hmacSha256 (federationSecret env) (signedText env p) =
      env.platform.hmacSha256 (federationSecret env) (signedText env q) := by
    apply hex_bytes_injective
    rw [verify_gossip_ok env p verifiedP, verify_gossip_ok env q verifiedQ, sameProof]
  have texts : signedText env p = signedText env q := free (by simp) (by simp) macs
  have bodies := obj_alike _ _ (canonical_injective text _ _ texts)
  refine ⟨records_alike _ _ ?_, records_alike _ _ ?_⟩
  · simpa [List.lookup_cons] using bodies "seeds"
  · simpa [List.lookup_cons] using bodies "crystallized"

theorem merge_each_alike (merge : Nat → List (String × Json) → Grimoire → Except PyError (MergedRecord × Grimoire))
    (same : ∀ index record other grimoire, Alike record other →
      merge index record grimoire = merge index other grimoire)
    (index : Nat) (records others : List (List (String × Json))) (alike : List.Forall₂ Alike records others)
    (state : Merging) : mergeEach merge index records state = mergeEach merge index others state := by
  induction alike generalizing index state with
  | nil => rfl
  | cons first _ ih =>
      rw [mergeEach, mergeEach, same index _ _ state.grimoire first]
      split
      · rfl
      · exact ih _ _

theorem merge_seeds_alike (env : GossipEnv) (draws : Draws) (records others : List (List (String × Json)))
    (alike : List.Forall₂ Alike records others) (state : Merging) :
    mergeEach (mergeSeed env draws) 0 records state = mergeEach (mergeSeed env draws) 0 others state := by
  refine merge_each_alike _ (fun index record other grimoire same => ?_) 0 records others alike state
  rw [mergeSeed, mergeSeed, read_seed_record_alike env _ record other same]

def SeedAccepted (env : GossipEnv) (record : List (String × Json)) : Prop :=
  ∃ seed, readSeedRecord env "" record = .ok seed ∧ SeedFits seed

theorem merge_seed_accepted (env : GossipEnv) (draws : Draws) (index : Nat) (record : List (String × Json))
    (grimoire : Grimoire) :
    (∃ result, mergeSeed env draws index record grimoire = .ok result) ↔ SeedAccepted env record := by
  have drawn := read_seed_drawn env "" (draws.seedId index) record
  constructor
  · rintro ⟨⟨made, after⟩, merged⟩
    obtain ⟨seed, read, fits, -, -⟩ := (merge_seed_ok env draws index record grimoire after made).mp merged
    rw [SeedAccepted, read_seed_drawn env (draws.seedId index) "" record, read]
    exact ⟨_, rfl, ⟨fits.observedCount, fits.generation, fits.basisVersion⟩⟩
  · rintro ⟨seed, read, fits⟩
    rw [read] at drawn
    exact ⟨(_, _), (merge_seed_ok env draws index record grimoire _ _).mpr
      ⟨_, drawn, ⟨fits.observedCount, fits.generation, fits.basisVersion⟩, rfl, rfl⟩⟩

def ProposalsStop (env : GossipEnv) (draws : Draws) (index : Nat) (table : Table EmergentAspect.genesisId) :
    List (List (String × Json)) → Prop
  | [] => True
  | record :: _ => ∀ aspect,
      EmergentAspect.modelValidate env.coerce (draws.genesisId index) (draws.now index) record = .ok aspect →
        ¬ Writable aspect { emergentAspects := table }

inductive SameProposals (env : GossipEnv) (draws : Draws) : Nat → Table EmergentAspect.genesisId →
    List (List (String × Json)) → List (List (String × Json)) → Prop where
  | stopped (index : Nat) (table : Table EmergentAspect.genesisId) (records others : List (List (String × Json)))
      (left : ProposalsStop env draws index table records) (right : ProposalsStop env draws index table others) :
      SameProposals env draws index table records others
  | taken (index : Nat) (table : Table EmergentAspect.genesisId) (record other : List (String × Json))
      (rest more : List (List (String × Json))) (aspect : EmergentAspect)
      (left : EmergentAspect.modelValidate env.coerce (draws.genesisId index) (draws.now index) record = .ok aspect)
      (right : EmergentAspect.modelValidate env.coerce (draws.genesisId index) (draws.now index) other = .ok aspect)
      (writable : Writable aspect { emergentAspects := table })
      (later : SameProposals env draws (index + 1) (table.upsert aspect) rest more) :
      SameProposals env draws index table (record :: rest) (other :: more)

def proposalsWritten (env : GossipEnv) (draws : Draws) (index : Nat) (records : List (List (String × Json)))
    (grimoire : Grimoire) : List MergedRecord :=
  (mergeEach (mergeProposal env draws) index records { grimoire := grimoire }).2.written

section Proposals

variable (env : GossipEnv) (draws : Draws)

theorem writable_table (aspect : EmergentAspect) (grimoire : Grimoire) :
    Writable aspect grimoire ↔ Writable aspect { emergentAspects := grimoire.emergentAspects } :=
  ⟨fun writable => ⟨writable.supportCount, writable.basisVersion, writable.nameFree⟩,
    fun writable => ⟨writable.supportCount, writable.basisVersion, writable.nameFree⟩⟩

theorem proposals_stopped (index : Nat) (records : List (List (String × Json))) (grimoire : Grimoire)
    (stops : ProposalsStop env draws index grimoire.emergentAspects records) :
    proposalsWritten env draws index records grimoire = [] := by
  cases records with
  | nil => rfl
  | cons record rest =>
      cases merged : mergeProposal env draws index record grimoire with
      | error raised => rw [proposalsWritten, merge_each_raised _ _ _ _ _ raised merged]
      | ok result =>
          obtain ⟨made, after⟩ := result
          obtain ⟨aspect, read, writable, -, -⟩ :=
            (merge_proposal_ok env draws index record grimoire after made).mp merged
          exact absurd ((writable_table aspect grimoire).mp writable) (stops aspect read)

theorem proposals_taken (index : Nat) (record : List (String × Json)) (rest : List (List (String × Json)))
    (grimoire : Grimoire) (aspect : EmergentAspect)
    (read : EmergentAspect.modelValidate env.coerce (draws.genesisId index) (draws.now index) record = .ok aspect)
    (writable : Writable aspect { emergentAspects := grimoire.emergentAspects }) :
    proposalsWritten env draws index (record :: rest) grimoire = .proposal aspect ::
      proposalsWritten env draws (index + 1) rest
        { grimoire with emergentAspects := grimoire.emergentAspects.upsert aspect } := by
  have merged := (merge_proposal_ok env draws index record grimoire _ _).mpr
    ⟨aspect, read, (writable_table aspect grimoire).mpr writable, rfl, rfl⟩
  rw [proposalsWritten, merge_each_cons _ index record rest grimoire _ _ merged]
  rfl

theorem stops_or_taken (index : Nat) (records : List (List (String × Json)))
    (table : Table EmergentAspect.genesisId) :
    ProposalsStop env draws index table records ∨ ∃ record rest aspect, records = record :: rest ∧
      EmergentAspect.modelValidate env.coerce (draws.genesisId index) (draws.now index) record = .ok aspect ∧
        Writable aspect { emergentAspects := table } := by
  cases records with
  | nil => exact Or.inl trivial
  | cons record rest =>
      by_cases stops : ProposalsStop env draws index table (record :: rest)
      · exact Or.inl stops
      · rw [ProposalsStop] at stops
        push Not at stops
        obtain ⟨aspect, read, writable⟩ := stops
        exact Or.inr ⟨record, rest, aspect, rfl, read, writable⟩

theorem same_proposals_iff (index : Nat) (records others : List (List (String × Json))) (grimoire : Grimoire) :
    proposalsWritten env draws index records grimoire = proposalsWritten env draws index others grimoire ↔
      SameProposals env draws index grimoire.emergentAspects records others := by
  induction records generalizing index others grimoire with
  | nil =>
      obtain stops | ⟨other, more, aspect, rfl, read, writable⟩ :=
        stops_or_taken env draws index others grimoire.emergentAspects
      · rw [proposals_stopped env draws index others grimoire stops]
        exact ⟨fun _ => .stopped index _ _ _ trivial stops, fun _ => rfl⟩
      · rw [proposals_taken env draws index other more grimoire aspect read writable]
        constructor
        · intro same
          cases same
        · intro same
          cases same with
          | stopped _ _ _ _ _ right => exact absurd writable (right aspect read)
  | cons record rest ih =>
      obtain stops | ⟨own, tail, aspect, split, read, writable⟩ :=
        stops_or_taken env draws index (record :: rest) grimoire.emergentAspects
      · rw [proposals_stopped env draws index _ grimoire stops]
        obtain otherStops | ⟨other, more, aspect, rfl, read, writable⟩ :=
          stops_or_taken env draws index others grimoire.emergentAspects
        · rw [proposals_stopped env draws index others grimoire otherStops]
          exact ⟨fun _ => .stopped index _ _ _ stops otherStops, fun _ => rfl⟩
        · rw [proposals_taken env draws index other more grimoire aspect read writable]
          constructor
          · intro same
            cases same
          · intro same
            cases same with
            | stopped _ _ _ _ _ right => exact absurd writable (right aspect read)
            | taken _ _ _ _ _ _ own left _ ownWritable _ => exact absurd ownWritable (stops own left)
      · obtain ⟨rfl, rfl⟩ := List.cons.inj split
        rw [proposals_taken env draws index record rest grimoire aspect read writable]
        obtain otherStops | ⟨other, more, shown, rfl, otherRead, otherWritable⟩ :=
          stops_or_taken env draws index others grimoire.emergentAspects
        · rw [proposals_stopped env draws index others grimoire otherStops]
          constructor
          · intro same
            cases same
          · intro same
            cases same with
            | stopped _ _ _ _ left _ => exact absurd writable (left aspect read)
            | taken _ _ _ _ _ _ own _ right ownWritable _ => exact absurd ownWritable (otherStops own right)
        · rw [proposals_taken env draws index other more grimoire shown otherRead otherWritable, List.cons.injEq,
            MergedRecord.proposal.injEq]
          constructor
          · rintro ⟨rfl, later⟩
            exact .taken index _ record other rest more aspect read otherRead writable
              ((ih (index + 1) more { grimoire with emergentAspects := _ }).mp later)
          · intro same
            cases same with
            | stopped _ _ _ _ left _ => exact absurd writable (left aspect read)
            | taken _ _ _ _ _ _ own left right _ later =>
                obtain rfl := Except.ok.inj (read.symm.trans left)
                obtain rfl := Except.ok.inj (otherRead.symm.trans right)
                exact ⟨rfl, (ih (index + 1) more { grimoire with emergentAspects := _ }).mpr later⟩

end Proposals

def gossipWritten (env : GossipEnv) (draws : Draws) (payload : GossipPayload) (grimoire : Grimoire) :
    List MergedRecord := (applyGossipSync env draws payload grimoire).2.written

def seedsMerged (env : GossipEnv) (draws : Draws) (payload : GossipPayload) (grimoire : Grimoire) :
    Except PyError Unit × Merging := mergeEach (mergeSeed env draws) 0 payload.seeds { grimoire := grimoire }

section Apply

variable (env : GossipEnv) (draws : Draws) (payload : GossipPayload) (grimoire : Grimoire)

theorem seeds_keep_proposals :
    (seedsMerged env draws payload grimoire).2.grimoire.emergentAspects = grimoire.emergentAspects := by
  refine merge_each_invariant (mergeSeed env draws) (fun own => own.emergentAspects = grimoire.emergentAspects) ?_ 0
    payload.seeds { grimoire := grimoire } rfl
  intro index record before made after merged kept
  obtain ⟨seed, -, -, -, rfl⟩ := (merge_seed_ok env draws index record before after made).mp merged
  exact kept

theorem seeds_merged_ok :
    (seedsMerged env draws payload grimoire).1 = .ok () ↔ ∀ record ∈ payload.seeds, SeedAccepted env record :=
  merge_each_ok _ (SeedAccepted env) (merge_seed_accepted env draws) 0 payload.seeds _

variable (verified : verifyGossipPayload env payload = .ok true)
include verified

theorem gossip_ended
    (ended : ¬ ((∀ record ∈ payload.seeds, SeedAccepted env record) ∧ payload.crystallized = [])) :
    (applyGossipSync env draws payload grimoire).2 = (seedsMerged env draws payload grimoire).2 ∧
      ∃ raised, (applyGossipSync env draws payload grimoire).1 = .error raised := by
  have loop : mergeEach (mergeSeed env draws) 0 payload.seeds { grimoire := grimoire } =
      seedsMerged env draws payload grimoire := rfl
  simp only [applyGossipSync, verified, loop]
  cases seeds : seedsMerged env draws payload grimoire with
  | mk outcome state =>
      cases outcome with
      | error raised => exact ⟨rfl, raised, rfl⟩
      | ok _ =>
          have accepted := (seeds_merged_ok env draws payload grimoire).mp (congrArg Prod.fst seeds)
          cases crystals : payload.crystallized with
          | nil => exact absurd ⟨accepted, crystals⟩ ended
          | cons record rest =>
              obtain ⟨raised, refused⟩ := merge_crystallized_raises env record state.grimoire
              simp only [merge_each_raised (fun _ => mergeCrystallized env) 0 record rest state raised refused]
              exact ⟨trivial, raised, rfl⟩

theorem gossip_proposals (accepted : ∀ record ∈ payload.seeds, SeedAccepted env record)
    (noCrystals : payload.crystallized = []) :
    (applyGossipSync env draws payload grimoire).2 =
      (mergeEach (mergeProposal env draws) 0 payload.emergentAspects (seedsMerged env draws payload grimoire).2).2 := by
  have loop : mergeEach (mergeSeed env draws) 0 payload.seeds { grimoire := grimoire } =
      seedsMerged env draws payload grimoire := rfl
  simp only [applyGossipSync, verified, loop, noCrystals]
  have ok := (seeds_merged_ok env draws payload grimoire).mpr accepted
  cases seeds : seedsMerged env draws payload grimoire with
  | mk outcome state =>
      rw [seeds] at ok
      dsimp only at ok
      subst ok
      simp only [mergeEach]
      cases mergeEach (mergeProposal env draws) 0 payload.emergentAspects state with
      | mk last final => cases last <;> rfl

theorem gossip_written_proposals (accepted : ∀ record ∈ payload.seeds, SeedAccepted env record)
    (noCrystals : payload.crystallized = []) :
    gossipWritten env draws payload grimoire = (seedsMerged env draws payload grimoire).2.written ++
      proposalsWritten env draws 0 payload.emergentAspects (seedsMerged env draws payload grimoire).2.grimoire := by
  rw [gossipWritten, gossip_proposals env draws payload grimoire verified accepted noCrystals]
  exact congrArg (fun merged : Except PyError Unit × Merging => merged.2.written)
    (merge_each_written (mergeProposal env draws) 0 payload.emergentAspects
      (seedsMerged env draws payload grimoire).2.grimoire (seedsMerged env draws payload grimoire).2.written)

end Apply

theorem gossip_authentic_iff (env : GossipEnv) {readFloat : List Char → Option ℚ}
    (text : FloatText env.platform.floatRepr readFloat) (p q : GossipPayload) (sameProof : p.proof = q.proof)
    (free : Set.InjOn (env.platform.hmacSha256 (federationSecret env)) {signedText env p, signedText env q})
    (verifiedP : verifyGossipPayload env p = .ok true) (verifiedQ : verifyGossipPayload env q = .ok true)
    (draws : Draws) (grimoire : Grimoire) :
    gossipWritten env draws p grimoire = gossipWritten env draws q grimoire ↔
      ((∀ record ∈ p.seeds, SeedAccepted env record) → p.crystallized = [] →
        SameProposals env draws 0 grimoire.emergentAspects p.emergentAspects q.emergentAspects) := by
  obtain ⟨seeds, crystals⟩ := gossip_body_alike env text p q sameProof free verifiedP verifiedQ
  have merged : seedsMerged env draws p grimoire = seedsMerged env draws q grimoire :=
    merge_seeds_alike env draws p.seeds q.seeds seeds _
  have acceptedQ : (∀ record ∈ p.seeds, SeedAccepted env record) ↔ ∀ record ∈ q.seeds, SeedAccepted env record := by
    rw [← seeds_merged_ok env draws p grimoire, ← seeds_merged_ok env draws q grimoire, merged]
  have crystalsQ : p.crystallized = [] ↔ q.crystallized = [] := by
    rw [← List.length_eq_zero_iff, ← List.length_eq_zero_iff, crystals.length_eq]
  by_cases reaches : (∀ record ∈ p.seeds, SeedAccepted env record) ∧ p.crystallized = []
  · obtain ⟨accepted, noCrystals⟩ := reaches
    rw [gossip_written_proposals env draws p grimoire verifiedP accepted noCrystals,
      gossip_written_proposals env draws q grimoire verifiedQ (acceptedQ.mp accepted) (crystalsQ.mp noCrystals),
      merged, List.append_cancel_left_eq, same_proposals_iff, seeds_keep_proposals]
    exact ⟨fun same _ _ => same, fun same => same accepted noCrystals⟩
  · have endedQ : ¬ ((∀ record ∈ q.seeds, SeedAccepted env record) ∧ q.crystallized = []) := by
      rwa [← acceptedQ, ← crystalsQ]
    have written : gossipWritten env draws p grimoire = gossipWritten env draws q grimoire := by
      rw [gossipWritten, gossipWritten, (gossip_ended env draws p grimoire verifiedP reaches).1,
        (gossip_ended env draws q grimoire verifiedQ endedQ).1, merged]
    exact ⟨fun _ accepted noCrystals => absurd ⟨accepted, noCrystals⟩ reaches, fun _ => written⟩

def plainCoercions : Coercions where
  int
    | .int value => some value
    | _ => none
  float
    | .int value => some value
    | .float value => some value
    | _ => none
  bool
    | .bool value => some value
    | _ => none
  datetime
    | .str "2026-01-01T00:00:00+00:00" => some sampleTime
    | _ => none

-- A keyed polynomial of the text modulo 2^256, in the place of HMAC-SHA256.
def polynomialMac (secret : List UInt8) (message : String) : List UInt8 :=
  let key := secret.foldl (fun value byte => (257 * value + byte.toNat + 1) % 2 ^ 256) 1
  let value := message.toList.foldl (fun value c => (1000003 * value + key + c.toNat) % 2 ^ 256) key
  (List.range 32).map fun i => UInt8.ofNat (value / 256 ^ i % 256)

theorem polynomial_mac_length (secret : List UInt8) (message : String) : (polynomialMac secret message).length = 32 := by
  simp [polynomialMac]

theorem hex_bytes_length (bytes : List UInt8) (length : bytes.length = 32) : (hexBytes bytes).length = 64 := by
  rw [hexBytes, String.length_ofList]
  simp [List.length_flatMap, length]

def gossipPlatform : Platform :=
  Platform.over plainFloat (fun message => hexBytes (polynomialMac [] message)) polynomialMac
    (fun message => hex_bytes_length _ (polynomial_mac_length [] message)) polynomial_mac_length

def gossipEnv : GossipEnv where
  platform := gossipPlatform
  federationSecret := "secret"
  registry := {}
  order := listOrder
  coerce := plainCoercions
  pyStr := Json.typeName

def sampleDraws : Draws where
  seedId := fun index => String.ofList (List.replicate index 'S')
  genesisId := fun index => String.ofList (List.replicate index 'G')
  now := fun _ => sampleTime

def harmonyRecord : List (String × Json) :=
  [("genesis_id", .str "G"), ("proposed_name", .str "HARMONY"), ("derived_polarity", .int 1),
    ("derived_entropy", .int 1), ("proposed_symbol", .str "H"),
    ("centroid_vector", .obj [("components", .arr (List.replicate 6 (.int 0)))]), ("support_count", .int 3),
    ("mean_resonance", .int 1), ("coherence_rate", .int 1), ("proposed_at", .str "2026-01-01T00:00:00+00:00")]

def sealedPayload (seeds emergentAspects : List (List (String × Json))) : GossipPayload where
  peerId := "peer-a"
  keyId := "key-a"
  seeds := seeds
  emergentAspects := emergentAspects
  proof := gossipMac gossipPlatform (federationSecret gossipEnv) (gossipBody "peer-a" "key-a" seeds [])
  peerIdLength := by decide
  keyIdLength := by decide
  proofLength := hex_bytes_length _ (polynomial_mac_length _ _)

def proposalsPayload (emergentAspects : List (List (String × Json))) : GossipPayload := sealedPayload [] emergentAspects

def harmonyRead : EmergentAspect where
  genesisId := "G"
  derived := harmony
  centroidVector := { components := List.replicate 6 0, atLeastSix := by decide }
  supportCount := 3
  meanResonance := 1
  coherenceRate := 1
  proposedAt := sampleTime

theorem harmony_record_read (drawn : String) (now : Datetime) :
    EmergentAspect.modelValidate plainCoercions drawn now harmonyRecord = .ok harmonyRead := rfl

theorem gossip_authentic_iff_refused :
    gossipWritten gossipEnv sampleDraws (proposalsPayload [harmonyRecord]) {} =
      gossipWritten gossipEnv sampleDraws (proposalsPayload [harmonyRecord, []]) {} := by
  refine (gossip_authentic_iff gossipEnv plain_float_text (proposalsPayload [harmonyRecord])
    (proposalsPayload [harmonyRecord, []]) rfl ?_ (by decide +kernel) (by decide +kernel) sampleDraws {}).mpr
    fun _ _ => ?_
  · rintro a (rfl | rfl) b (rfl | rfl) _ <;> rfl
  · have writable : Writable harmonyRead { emergentAspects := Table.empty } :=
      ⟨⟨3, rfl⟩, ⟨0, rfl⟩, fun old member => by cases member⟩
    have refused : ProposalsStop gossipEnv sampleDraws 1 (Table.empty.upsert harmonyRead) [[]] := by
      intro aspect read
      cases read
    exact .taken 0 _ harmonyRecord harmonyRecord [] [[]] harmonyRead (harmony_record_read _ _)
      (harmony_record_read _ _) writable (.stopped 1 _ [] [[]] trivial refused)

theorem proposal_added_by_relay : ¬ ∀ (env : GossipEnv) (readFloat : List Char → Option ℚ),
    FloatText env.platform.floatRepr readFloat → ∀ p q : GossipPayload, p.proof = q.proof →
      Set.InjOn (env.platform.hmacSha256 (federationSecret env)) {signedText env p, signedText env q} →
        verifyGossipPayload env p = .ok true → verifyGossipPayload env q = .ok true →
          ∀ draws grimoire, gossipWritten env draws p grimoire = gossipWritten env draws q grimoire := by
  intro authentic
  have same := authentic gossipEnv readPlainFloat plain_float_text (proposalsPayload [])
    (proposalsPayload [harmonyRecord]) rfl (by rintro a (rfl | rfl) b (rfl | rfl) _ <;> rfl) (by decide +kernel)
    (by decide +kernel) sampleDraws {}
  have signed : gossipWritten gossipEnv sampleDraws (proposalsPayload []) {} = [] := by decide +kernel
  have added : gossipWritten gossipEnv sampleDraws (proposalsPayload [harmonyRecord]) {} = [.proposal harmonyRead] := by
    decide +kernel
  rw [signed, added] at same
  cases same

end Vermyth
