import Vermyth.Foundation.Table
import Vermyth.Protocol.JsonRoundTrip
import Vermyth.Schema.Sigil

set_option autoImplicit false

namespace Vermyth

open Foundation

-- json.dumps of a list of names. No float is in it.
def namesJson (names : List String) : List Char := dumps .default plainFloat (.arr (names.map Json.str))

def readNames (text : List Char) : Except PyError (List String) :=
  match loads readPlainFloat text with
  | some (.arr items) => items.mapM fun
      | .str name => .ok name
      | other => .error (.keyError other.typeName)
  | _ => .error (.valueError "Expecting value")

theorem names_json_injective (a b : List String) (same : namesJson a = namesJson b) : a = b := by
  have values := dumps_injective .default plain_float_text _ _ same
  rw [Json.arr.injEq] at values
  exact List.map_injective_iff.mpr (fun _ _ texts => Json.str.inj texts) values

theorem distinct_names (names : List String) : distinctItems (names.map Json.str) = true := by
  induction names with
  | nil => rfl
  | cons name rest ih => simpa [distinctItems, Json.distinct] using ih

theorem read_names_json (names : List String) : readNames (namesJson names) = .ok names := by
  have read := loads_dumps .default plain_float_text (.arr (names.map Json.str)) (distinct_names names)
  rw [readNames, namesJson, read]
  simp only []
  clear read
  induction names with
  | nil => rfl
  | cons name rest ih =>
      rw [List.map_cons, List.mapM_cons, ih]
      rfl

-- A row of glyph_seeds. Its pattern is the set as it was walked when the row
-- was written; the vector stands as its components.
structure GlyphSeedRow where
  seedId : String
  aspectPattern : AspectSet
  observedCount : Nat
  meanResonance : ℚ
  coherenceRate : ℚ
  candidateEffectClass : Option EffectClass
  crystallized : Bool
  generation : Nat
  components : List ℚ
  basisVersion : Nat
deriving DecidableEq

def GlyphSeedRow.aspectPatternJson (row : GlyphSeedRow) : List Char := namesJson row.aspectPattern.names

abbrev SeedTable := Table GlyphSeedRow.seedId

def serializeGlyphSeed (seed : GlyphSeed) : GlyphSeedRow where
  seedId := seed.seedId
  aspectPattern := seed.aspectPattern
  observedCount := seed.observedCount
  meanResonance := seed.meanResonance
  coherenceRate := seed.coherenceRate
  candidateEffectClass := seed.candidateEffectClass
  crystallized := seed.crystallized
  generation := seed.generation
  components := seed.semanticVector.components
  basisVersion := seed.semanticVector.normalizedBasisVersion

def storedVector (registry : AspectRegistry) (components : List ℚ) (basisVersion : Nat) : SemanticVector where
  components := components ++ List.replicate (registry.dimensionality - components.length) 0
  basisVersion := some basisVersion
  atLeastSix := by
    have enough := registry.dimensionality_six
    rw [List.length_append, List.length_replicate]
    omega

def resolveNames (registry : AspectRegistry) (names : List String) : Except PyError (List Aspect) :=
  names.mapM registry.resolve

def deserializeGlyphSeed (registry : AspectRegistry) (order : SetOrder) (row : GlyphSeedRow) :
    Except PyError GlyphSeed := do
  let names ← readNames row.aspectPatternJson
  let aspects ← resolveNames registry names
  return { seedId := row.seedId, aspectPattern := .build order (aspects.map Aspect.name),
           observedCount := row.observedCount, meanResonance := row.meanResonance,
           coherenceRate := row.coherenceRate, candidateEffectClass := row.candidateEffectClass,
           crystallized := row.crystallized, generation := row.generation,
           semanticVector := storedVector registry row.components row.basisVersion }

def writeSeed (seed : GlyphSeed) (table : SeedTable) : Except PyError SeedTable := do
  let _ ← sqlInteger seed.observedCount
  let _ ← sqlInteger seed.generation
  let _ ← sqlInteger seed.semanticVector.normalizedBasisVersion
  return table.put (serializeGlyphSeed seed)

def readSeed (registry : AspectRegistry) (order : SetOrder) (seedId : String) (table : SeedTable) :
    Except PyError GlyphSeed :=
  match table.find? seedId with
  | none => .error (.keyError seedId)
  | some row => deserializeGlyphSeed registry order row

-- The rows WHERE aspect_pattern_json = ? AND crystallized = ? selects.
def selectSeeds (aspectPattern : Option AspectSet) (crystallized : Option Bool) (table : SeedTable) :
    List GlyphSeedRow :=
  table.rows.filter fun row =>
    aspectPattern.all (fun pattern => row.aspectPatternJson = namesJson pattern.names) &&
      crystallized.all (row.crystallized == ·)

def querySeeds (registry : AspectRegistry) (order : SetOrder) (aspectPattern : Option AspectSet)
    (crystallized : Option Bool) (table : SeedTable) : Except PyError (List GlyphSeed) :=
  (selectSeeds aspectPattern crystallized table).mapM (deserializeGlyphSeed registry order)

theorem resolve_name (registry : AspectRegistry) (name : String) (aspect : Aspect)
    (known : registry.resolve name = .ok aspect) : aspect.name = name := by
  rw [AspectRegistry.resolve] at known
  cases found : registry.fullOrder.find? fun aspect => aspect.name = name with
  | none => simp [found] at known
  | some own =>
      simp only [found, Except.ok.injEq] at known
      subst known
      simpa using List.find?_some found

theorem resolve_names_ok (registry : AspectRegistry) (names : List String) (aspects : List Aspect)
    (known : resolveNames registry names = .ok aspects) : aspects.map Aspect.name = names := by
  induction names generalizing aspects with
  | nil =>
      obtain rfl := Except.ok.inj known
      rfl
  | cons name rest ih =>
      rw [resolveNames, List.mapM_cons, bind_ok] at known
      obtain ⟨aspect, first, known⟩ := known
      obtain ⟨others, later, known⟩ := (bind_ok _ _ _).mp known
      obtain rfl := Except.ok.inj known
      rw [List.map_cons, resolve_name registry name aspect first, ih others later]

def restoredSeed (registry : AspectRegistry) (order : SetOrder) (row : GlyphSeedRow) : GlyphSeed where
  seedId := row.seedId
  aspectPattern := row.aspectPattern.rebuild order
  observedCount := row.observedCount
  meanResonance := row.meanResonance
  coherenceRate := row.coherenceRate
  candidateEffectClass := row.candidateEffectClass
  crystallized := row.crystallized
  generation := row.generation
  semanticVector := storedVector registry row.components row.basisVersion

theorem deserialize_seed_ok (registry : AspectRegistry) (order : SetOrder) (row : GlyphSeedRow) (seed : GlyphSeed)
    (ok : deserializeGlyphSeed registry order row = .ok seed) : seed = restoredSeed registry order row := by
  rw [deserializeGlyphSeed, GlyphSeedRow.aspectPatternJson, read_names_json, bind_ok] at ok
  obtain ⟨names, read, ok⟩ := ok
  obtain rfl := Except.ok.inj read
  obtain ⟨aspects, known, ok⟩ := (bind_ok _ _ _).mp ok
  rw [← Except.ok.inj ok, resolve_names_ok registry _ aspects known]
  rfl

def AspectRegistry.Knows (registry : AspectRegistry) (names : List String) : Prop :=
  ∀ name ∈ names, ∃ aspect, registry.resolve name = .ok aspect

theorem resolve_names_known (registry : AspectRegistry) (names : List String) (known : registry.Knows names) :
    ∃ aspects, resolveNames registry names = .ok aspects := map_m_total registry.resolve names known

theorem deserialize_seed_known (registry : AspectRegistry) (order : SetOrder) (row : GlyphSeedRow)
    (known : registry.Knows row.aspectPattern.names) :
    deserializeGlyphSeed registry order row = .ok (restoredSeed registry order row) := by
  obtain ⟨aspects, resolved⟩ := resolve_names_known registry _ known
  have names := resolve_names_ok registry _ aspects resolved
  rw [deserializeGlyphSeed, GlyphSeedRow.aspectPatternJson, read_names_json, bind_ok]
  refine ⟨_, rfl, ?_⟩
  rw [bind_ok]
  exact ⟨aspects, resolved, by rw [names]; rfl⟩

theorem write_seed_ok (seed : GlyphSeed) (table after : SeedTable) (ok : writeSeed seed table = .ok after) :
    after = table.put (serializeGlyphSeed seed) := by
  rw [writeSeed, bind_ok] at ok
  obtain ⟨_, -, ok⟩ := ok
  obtain ⟨_, -, ok⟩ := (bind_ok _ _ _).mp ok
  obtain ⟨_, -, ok⟩ := (bind_ok _ _ _).mp ok
  exact (Except.ok.inj ok).symm

theorem written_seed_read (registry : AspectRegistry) (order : SetOrder) (seed : GlyphSeed) (table after : SeedTable)
    (wrote : writeSeed seed table = .ok after) (known : registry.Knows seed.aspectPattern.names) :
    readSeed registry order seed.seedId after = .ok (restoredSeed registry order (serializeGlyphSeed seed)) := by
  obtain rfl := write_seed_ok seed table after wrote
  have found : (table.put (serializeGlyphSeed seed)).find? seed.seedId = some (serializeGlyphSeed seed) :=
    Table.find_row _ (serializeGlyphSeed seed) ((Table.mem_put table _ _).mpr (Or.inr rfl))
  rw [readSeed, found]
  exact deserialize_seed_known registry order _ known

end Vermyth
