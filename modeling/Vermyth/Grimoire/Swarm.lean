import Vermyth.Grimoire.Genesis
import Vermyth.Protocol.SessionCodec

set_option autoImplicit false

namespace Vermyth

open Foundation

-- VERMYTH_FEDERATION_SECRET, the registry of the process, how it walks sets,
-- and what pydantic and str() do with JSON values.
structure GossipEnv where
  platform : Platform
  federationSecret : String
  registry : AspectRegistry
  order : SetOrder
  coerce : Coercions
  pyStr : Json → String

structure Draws where
  seedId : Nat → String
  genesisId : Nat → String
  now : Nat → Datetime

def federationSecret (env : GossipEnv) : List UInt8 := env.federationSecret.toUTF8.toList

def gossipBody (peerId keyId : String) (seeds crystallized : List (List (String × Json))) : Json :=
  .obj [("peer_id", .str peerId), ("key_id", .str keyId), ("seeds", .arr (seeds.map Json.obj)),
    ("crystallized", .arr (crystallized.map Json.obj))]

def gossipMac (platform : Platform) (secret : List UInt8) (body : Json) : String :=
  hexBytes (platform.hmacSha256 secret (canonicalJson platform.floatRepr body))

def signGossipPayload (env : GossipEnv) (peerId keyId : String) (seeds crystallized : List (List (String × Json)))
    (secret : Option (List UInt8)) : Except PyError String :=
  let s := secret.getD (federationSecret env)
  if s = [] then .error (.valueError "VERMYTH_FEDERATION_SECRET not set")
  else .ok (gossipMac env.platform s (gossipBody peerId keyId seeds crystallized))

-- compare_digest takes texts of ASCII characters only.
def verifyGossipPayload (env : GossipEnv) (payload : GossipPayload) : Except PyError Bool :=
  let s := federationSecret env
  if s = [] then .ok false
  else
    let expected := gossipMac env.platform s
      (gossipBody payload.peerId payload.keyId payload.seeds payload.crystallized)
    if payload.proof.toList.all fun c => c.toNat < 128 then .ok (expected == payload.proof)
    else .error (.typeError "comparing strings with non-ASCII characters is not supported")

inductive RawPattern where
  | absent
  | resolved (aspects : AspectSet)
  | other (value : Json)

-- str(n). That of a list or a dict begins with its bracket and names no aspect.
def strOf (env : GossipEnv) : Json → String
  | .str name => name
  | .arr _ => "[...]"
  | .obj _ => "\x7b...\x7d"
  | value => env.pyStr value

def resolvePattern (env : GossipEnv) (fields : List (String × Json)) : Except PyError RawPattern :=
  match fields.lookup "aspect_pattern" with
  | none => .ok .absent
  | some .null => .ok .absent
  | some (.arr names) => do
      let aspects ← resolveNames env.registry (names.map (strOf env))
      return .resolved (.build env.order (aspects.map Aspect.name))
  | some value => .ok (.other value)

def seedFields : List String :=
  ["aspect_pattern", "observed_count", "mean_resonance", "coherence_rate", "candidate_effect_class", "crystallized",
    "generation", "semantic_vector"]

-- _normalize_semantic_vector and the comparison with the expected one.
def checkVector (coerce : Coercions) (expected : List ℚ) (fields : List (String × Json)) : Except PyError Unit :=
  match fields.lookup "semantic_vector" with
  | none => .ok ()
  | some .null => .ok ()
  | some (.obj vector) => do
      let got ← SemanticVector.modelValidate coerce (.obj vector)
      if got.components = expected then .ok () else .error (invalid "GlyphSeed" "semantic_vector")
  | some _ => .error (.typeError "semantic_vector must be SemanticVector or dict")

def readGlyphSeed (env : GossipEnv) (drawn : String) (aspects : AspectSet) (fields : List (String × Json)) :
    Except PyError GlyphSeed := do
  let model := "GlyphSeed"
  checkVector env.coerce (fromAspects env.registry aspects).components fields
  forbidExtra seedFields fields model
  let observedCount ← readField (env.coerce.int? 0) (some 0) fields model "observed_count"
  let meanResonance ← readField env.coerce.unit? (some 0) fields model "mean_resonance"
  let coherenceRate ← readField env.coerce.unit? (some 0) fields model "coherence_rate"
  let candidate ← readField (nullable effectClass?) (some none) fields model "candidate_effect_class"
  let crystallized ← readField env.coerce.bool? (some false) fields model "crystallized"
  let generation ← readField (env.coerce.int? 1) (some 1) fields model "generation"
  GlyphSeed.make env.registry env.order drawn aspects observedCount meanResonance coherenceRate candidate crystallized
    generation

-- GlyphSeed.model_validate of a record without a seed_id. Only a pattern gets
-- an id, a text and a dict are walked into a set and refused after, and
-- nothing else can be walked.
def GlyphSeed.modelValidate (env : GossipEnv) (drawn : String) (fields : List (String × Json)) :
    RawPattern → Except PyError GlyphSeed
  | .absent => .error (invalid "GlyphSeed" "seed_id")
  | .resolved aspects => readGlyphSeed env drawn aspects fields
  | .other (.str _) | .other (.obj _) => do
      checkVector env.coerce (List.replicate env.registry.dimensionality 0) fields
      .error (invalid "GlyphSeed" "aspect_pattern")
  | .other value => .error (.typeError ("'" ++ value.typeName ++ "' object is not iterable"))

-- The elements frozenset() finds in a value.
def setItems : Json → Except PyError (List Json)
  | .arr items =>
      match items.find? fun item => item.typeName = "list" || item.typeName = "dict" with
      | some item => .error (.typeError ("unhashable type: '" ++ item.typeName ++ "'"))
      | none => .ok items
  | .obj fields => .ok (fields.map fun field => .str field.1)
  | .str text => .ok (text.toList.map fun c => .str (String.ofList [c]))
  | value => .error (.typeError ("'" ++ value.typeName ++ "' object is not iterable"))

-- Sigil(...) over JSON: the fingerprint asks every aspect for its name, and no
-- JSON value has one. A set without aspects is too short.
def Sigil.modelValidate (fields : List (String × Json)) : Except PyError ResolvedSigil :=
  match fields.lookup "aspects" with
  | none => .error (invalid "Sigil" "aspects")
  | some .null => .error (invalid "Sigil" "aspects")
  | some aspects => do
      match ← setItems aspects with
      | [] => .error (invalid "Sigil" "aspects")
      | item :: _ => .error (.attributeError ("'" ++ item.typeName ++ "' object has no attribute 'name'"))

def CrystallizedSigil.modelValidate (coerce : Coercions) (fields : List (String × Json)) :
    Except PyError CrystallizedSigil := do
  let model := "CrystallizedSigil"
  let sigil ← match fields.lookup "sigil" with
    | some (.obj sigil) => Sigil.modelValidate sigil
    | _ => .error (invalid model "sigil")
  forbidExtra ["name", "sigil", "source_seed_id", "crystallized_at", "generation"] fields model
  let name ← readField Json.text? none fields model "name"
  let sourceSeedId ← readField Json.text? none fields model "source_seed_id"
  let crystallizedAt ← readField coerce.datetime? none fields model "crystallized_at"
  let generation ← readField (coerce.int? 1) (some 1) fields model "generation"
  return { name := name, sigil := sigil, sourceSeedId := sourceSeedId, crystallizedAt := crystallizedAt,
           generation := generation.toNat }

inductive MergedRecord where
  | seed (seed : GlyphSeed)
  | crystallized (crystal : CrystallizedSigil)
  | proposal (aspect : EmergentAspect)
deriving DecidableEq

def readSeedRecord (env : GossipEnv) (drawn : String) (record : List (String × Json)) : Except PyError GlyphSeed := do
  let fields := dictPop "seed_id" record
  GlyphSeed.modelValidate env drawn fields (← resolvePattern env fields)

def mergeSeed (env : GossipEnv) (draws : Draws) (index : Nat) (record : List (String × Json)) (grimoire : Grimoire) :
    Except PyError (MergedRecord × Grimoire) := do
  let seed ← readSeedRecord env (draws.seedId index) record
  let seeds ← writeSeed seed grimoire.seeds
  return (.seed seed, { grimoire with seeds := seeds })

def mergeCrystallized (env : GossipEnv) (record : List (String × Json)) (grimoire : Grimoire) :
    Except PyError (MergedRecord × Grimoire) := do
  let crystal ← CrystallizedSigil.modelValidate env.coerce record
  let crystallized ← writeCrystallizedSigil crystal grimoire.crystallized
  return (.crystallized crystal, { grimoire with crystallized := crystallized })

def mergeProposal (env : GossipEnv) (draws : Draws) (index : Nat) (record : List (String × Json))
    (grimoire : Grimoire) : Except PyError (MergedRecord × Grimoire) := do
  let aspect ← EmergentAspect.modelValidate env.coerce (draws.genesisId index) (draws.now index) record
  let grimoire ← writeEmergentAspect aspect grimoire
  return (.proposal aspect, grimoire)

structure Merging where
  grimoire : Grimoire
  written : List MergedRecord := []

-- One merge loop; an exception leaves what was written before it.
def mergeEach (merge : Nat → List (String × Json) → Grimoire → Except PyError (MergedRecord × Grimoire)) :
    Nat → List (List (String × Json)) → Merging → Except PyError Unit × Merging
  | _, [], state => (.ok (), state)
  | index, record :: rest, state =>
      match merge index record state.grimoire with
      | .error raised => (.error raised, state)
      | .ok (made, grimoire) =>
          mergeEach merge (index + 1) rest { grimoire := grimoire, written := state.written ++ [made] }

structure GossipResult where
  peerId : String
  mergedSeeds : Nat
  mergedCrystallized : Nat
  mergedEmergentAspects : Nat
deriving DecidableEq

def applyGossipSync (env : GossipEnv) (draws : Draws) (payload : GossipPayload) (grimoire : Grimoire) :
    Except PyError GossipResult × Merging :=
  let start : Merging := { grimoire := grimoire }
  match verifyGossipPayload env payload with
  | .error raised => (.error raised, start)
  | .ok false => (.error (.valueError "invalid gossip proof or federation secret not configured"), start)
  | .ok true =>
      match mergeEach (mergeSeed env draws) 0 payload.seeds start with
      | (.error raised, state) => (.error raised, state)
      | (.ok _, state) =>
          match mergeEach (fun _ => mergeCrystallized env) 0 payload.crystallized state with
          | (.error raised, state) => (.error raised, state)
          | (.ok _, state) =>
              match mergeEach (mergeProposal env draws) 0 payload.emergentAspects state with
              | (.error raised, state) => (.error raised, state)
              | (.ok _, state) =>
                  (.ok { peerId := payload.peerId, mergedSeeds := payload.seeds.length,
                         mergedCrystallized := payload.crystallized.length,
                         mergedEmergentAspects := payload.emergentAspects.length }, state)

section MergeEach

variable (merge : Nat → List (String × Json) → Grimoire → Except PyError (MergedRecord × Grimoire))

theorem merge_each_written (index : Nat) (records : List (List (String × Json))) (grimoire : Grimoire)
    (written : List MergedRecord) :
    mergeEach merge index records { grimoire := grimoire, written := written } =
      ((mergeEach merge index records { grimoire := grimoire }).1,
        { grimoire := (mergeEach merge index records { grimoire := grimoire }).2.grimoire
          written := written ++ (mergeEach merge index records { grimoire := grimoire }).2.written }) := by
  induction records generalizing index grimoire written with
  | nil => simp [mergeEach]
  | cons record rest ih =>
      simp only [mergeEach]
      cases merge index record grimoire with
      | error raised => simp
      | ok merged =>
          obtain ⟨made, after⟩ := merged
          dsimp only
          rw [ih, ih (index + 1) after ([] ++ [made])]
          simp

theorem merge_each_cons (index : Nat) (record : List (String × Json)) (rest : List (List (String × Json)))
    (grimoire after : Grimoire) (made : MergedRecord) (ok : merge index record grimoire = .ok (made, after)) :
    mergeEach merge index (record :: rest) { grimoire := grimoire } =
      ((mergeEach merge (index + 1) rest { grimoire := after }).1,
        { grimoire := (mergeEach merge (index + 1) rest { grimoire := after }).2.grimoire
          written := made :: (mergeEach merge (index + 1) rest { grimoire := after }).2.written }) := by
  rw [mergeEach]
  simp only [ok]
  rw [merge_each_written]
  simp

theorem merge_each_raised (index : Nat) (record : List (String × Json)) (rest : List (List (String × Json)))
    (state : Merging) (raised : PyError) (refused : merge index record state.grimoire = .error raised) :
    mergeEach merge index (record :: rest) state = (.error raised, state) := by
  rw [mergeEach]
  simp only [refused]

theorem merge_each_invariant (holds : Grimoire → Prop)
    (each : ∀ index record before made after, merge index record before = .ok (made, after) → holds before →
      holds after)
    (index : Nat) (records : List (List (String × Json))) (state : Merging) (initially : holds state.grimoire) :
    holds (mergeEach merge index records state).2.grimoire := by
  induction records generalizing index state with
  | nil => exact initially
  | cons record rest ih =>
      cases merged : merge index record state.grimoire with
      | error raised =>
          rw [merge_each_raised merge index record rest state raised merged]
          exact initially
      | ok result =>
          obtain ⟨made, after⟩ := result
          simp only [mergeEach, merged]
          exact ih _ _ (each index record _ made after merged initially)

theorem merge_each_ok (accepts : List (String × Json) → Prop)
    (each : ∀ index record grimoire, (∃ result, merge index record grimoire = .ok result) ↔ accepts record)
    (index : Nat) (records : List (List (String × Json))) (state : Merging) :
    (mergeEach merge index records state).1 = .ok () ↔ ∀ record ∈ records, accepts record := by
  induction records generalizing index state with
  | nil => simp [mergeEach]
  | cons record rest ih =>
      rw [List.forall_mem_cons]
      cases merged : merge index record state.grimoire with
      | error raised =>
          have refused : ¬ accepts record := by
            rw [← each index record state.grimoire, merged]
            simp
          simp [merge_each_raised merge index record rest state raised merged, refused]
      | ok result =>
          have accepted : accepts record := (each index record state.grimoire).mp ⟨result, merged⟩
          simp only [mergeEach, merged, ih, accepted, true_and]

end MergeEach

theorem sigil_model_validate_raises (fields : List (String × Json)) :
    ∃ raised, Sigil.modelValidate fields = .error raised := by
  rw [Sigil.modelValidate]
  split
  · exact ⟨_, rfl⟩
  · exact ⟨_, rfl⟩
  · next aspects _ _ =>
      cases setItems aspects with
      | error raised => exact ⟨raised, rfl⟩
      | ok items =>
          cases items with
          | nil => exact ⟨_, rfl⟩
          | cons item rest => exact ⟨_, rfl⟩

-- No crystallized sigil comes out of JSON.
theorem merge_crystallized_raises (env : GossipEnv) (record : List (String × Json)) (grimoire : Grimoire) :
    ∃ raised, mergeCrystallized env record grimoire = .error raised := by
  have invalid : ∃ raised, CrystallizedSigil.modelValidate env.coerce record = .error raised := by
    rw [CrystallizedSigil.modelValidate]
    split
    · next sigil _ =>
        obtain ⟨raised, refused⟩ := sigil_model_validate_raises sigil
        rw [refused]
        exact ⟨raised, rfl⟩
    · exact ⟨_, rfl⟩
  obtain ⟨raised, refused⟩ := invalid
  rw [mergeCrystallized, refused]
  exact ⟨raised, rfl⟩

theorem merge_proposal_ok (env : GossipEnv) (draws : Draws) (index : Nat) (record : List (String × Json))
    (grimoire after : Grimoire) (made : MergedRecord) :
    mergeProposal env draws index record grimoire = .ok (made, after) ↔
      ∃ aspect, EmergentAspect.modelValidate env.coerce (draws.genesisId index) (draws.now index) record = .ok aspect ∧
        Writable aspect grimoire ∧ made = .proposal aspect ∧
          after = { grimoire with emergentAspects := grimoire.emergentAspects.upsert aspect } := by
  rw [mergeProposal]
  constructor
  · intro merged
    obtain ⟨aspect, read, merged⟩ := (bind_ok _ _ _).mp merged
    obtain ⟨written, wrote, merged⟩ := (bind_ok _ _ _).mp merged
    obtain ⟨writable, rfl⟩ := (write_emergent_ok aspect grimoire written).mp wrote
    obtain ⟨rfl, rfl⟩ := Prod.mk.inj (Except.ok.inj merged)
    exact ⟨aspect, read, writable, rfl, rfl⟩
  · intro merged
    obtain ⟨aspect, read, writable, rfl, rfl⟩ := merged
    have wrote := (write_emergent_ok aspect grimoire _).mpr ⟨writable, rfl⟩
    simp only [bind_ok]
    exact ⟨aspect, read, _, wrote, rfl⟩

-- The integers of a seed that SQLite can hold.
structure SeedFits (seed : GlyphSeed) : Prop where
  observedCount : ∃ value, sqlInteger seed.observedCount = .ok value
  generation : ∃ value, sqlInteger seed.generation = .ok value
  basisVersion : ∃ value, sqlInteger seed.semanticVector.normalizedBasisVersion = .ok value

theorem write_seed_iff (seed : GlyphSeed) (table after : SeedTable) :
    writeSeed seed table = .ok after ↔ SeedFits seed ∧ after = table.put (serializeGlyphSeed seed) := by
  rw [writeSeed]
  simp only [bind_ok]
  constructor
  · intro wrote
    obtain ⟨count, countOk, generation, generationOk, basis, basisOk, done⟩ := wrote
    exact ⟨⟨⟨count, countOk⟩, ⟨generation, generationOk⟩, ⟨basis, basisOk⟩⟩, (Except.ok.inj done).symm⟩
  · rintro ⟨⟨⟨count, countOk⟩, ⟨generation, generationOk⟩, ⟨basis, basisOk⟩⟩, rfl⟩
    exact ⟨count, countOk, generation, generationOk, basis, basisOk, rfl⟩

theorem merge_seed_ok (env : GossipEnv) (draws : Draws) (index : Nat) (record : List (String × Json))
    (grimoire after : Grimoire) (made : MergedRecord) :
    mergeSeed env draws index record grimoire = .ok (made, after) ↔
      ∃ seed, readSeedRecord env (draws.seedId index) record = .ok seed ∧ SeedFits seed ∧ made = .seed seed ∧
        after = { grimoire with seeds := grimoire.seeds.put (serializeGlyphSeed seed) } := by
  rw [mergeSeed]
  constructor
  · intro merged
    obtain ⟨seed, read, merged⟩ := (bind_ok _ _ _).mp merged
    obtain ⟨seeds, wrote, merged⟩ := (bind_ok _ _ _).mp merged
    obtain ⟨fits, rfl⟩ := (write_seed_iff seed grimoire.seeds seeds).mp wrote
    obtain ⟨rfl, rfl⟩ := Prod.mk.inj (Except.ok.inj merged)
    exact ⟨seed, read, fits, rfl, rfl⟩
  · intro merged
    obtain ⟨seed, read, fits, rfl, rfl⟩ := merged
    have wrote := (write_seed_iff seed grimoire.seeds _).mpr ⟨fits, rfl⟩
    simp only [bind_ok]
    exact ⟨seed, read, _, wrote, rfl⟩

theorem map_bind_except {α β γ : Type} (action : Except PyError α) (next : α → Except PyError β) (after : β → γ) :
    (action >>= next).map after = action >>= fun value => (next value).map after := by
  cases action <;> rfl

theorem read_seed_drawn (env : GossipEnv) (drawn other : String) (record : List (String × Json)) :
    readSeedRecord env other record =
      (readSeedRecord env drawn record).map fun seed => { seed with seedId := other } := by
  have made : ∀ (aspects : AspectSet) (count : Int) (mean rate : ℚ) (candidate : Option EffectClass)
      (crystallized : Bool) (generation : Int),
      GlyphSeed.make env.registry env.order other aspects count mean rate candidate crystallized generation =
        (GlyphSeed.make env.registry env.order drawn aspects count mean rate candidate crystallized generation).map
          fun seed => { seed with seedId := other } := by
    intro aspects count mean rate candidate crystallized generation
    rw [GlyphSeed.make, GlyphSeed.make]
    split_ifs <;> rfl
  have read : ∀ aspects fields, readGlyphSeed env other aspects fields =
      (readGlyphSeed env drawn aspects fields).map fun seed => { seed with seedId := other } := by
    intro aspects fields
    simp only [readGlyphSeed, map_bind_except, made]
  have validated : ∀ fields pattern, GlyphSeed.modelValidate env other fields pattern =
      (GlyphSeed.modelValidate env drawn fields pattern).map fun seed => { seed with seedId := other } := by
    intro fields pattern
    rw [GlyphSeed.modelValidate.eq_def, GlyphSeed.modelValidate.eq_def]
    split
    · rfl
    · exact read _ fields
    · rw [map_bind_except]
      rfl
    · rw [map_bind_except]
      rfl
    · rfl
  simp only [readSeedRecord, map_bind_except, validated]

end Vermyth
