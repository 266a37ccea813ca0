import Vermyth.Grimoire.Crystallized

set_option autoImplicit false

namespace Vermyth

open Foundation

structure KnownSet (registry : AspectRegistry) extends AspectSet where
  known : registry.Knows names

section Lookup

variable (registry : AspectRegistry) (order : SetOrder) (seeds : SeedTable) (crystals : CrystallizedTable)
  (pattern : KnownSet registry)

def seedsOf : List GlyphSeedRow := seeds.rows.filter fun row => row.aspectPattern.members = pattern.members

-- query_seeds finds the seeds of the set, and crystallized_for_aspects a sigil
-- of its highest generation.
structure PatternLookup : Prop where
  seeds : querySeeds registry order (some pattern.toAspectSet) none seeds =
    .ok ((seedsOf registry seeds pattern).map (restoredSeed registry order))
  crystals : ∃ found, crystallizedForAspects registry order pattern.toAspectSet crystals = .ok found ∧
    (found = none ↔ ∀ row ∈ crystals.rows, row.aspects.members ≠ pattern.members) ∧
      ∀ crystal ∈ found, ∃ row ∈ crystals.rows, row.aspects.members = pattern.members ∧
        crystal = restoredSigil order row ∧
          ∀ other ∈ crystals.rows, other.aspects.members = pattern.members → other.generation ≤ row.generation

structure WalkedAlike : Prop where
  seeds : ∀ row ∈ seeds.rows, row.aspectPattern.members = pattern.members → row.aspectPattern.names = pattern.names
  crystals : ∀ row ∈ crystals.rows, row.aspects.members = pattern.members →
    ∃ top ∈ crystals.rows, top.aspects.names = pattern.names ∧ row.generation ≤ top.generation

theorem same_names_members (aspects : AspectSet) (same : aspects.names = pattern.names) :
    aspects.members = pattern.members := by
  rw [AspectSet.members, AspectSet.members, same]

theorem select_seeds_pattern (aspects : AspectSet) :
    selectSeeds (some aspects) none seeds = seeds.rows.filter fun row => row.aspectPattern.names = aspects.names := by
  refine List.filter_congr fun row _ => ?_
  simp only [Option.all_some, Option.all_none, Bool.and_true, decide_eq_decide]
  constructor
  · exact names_json_injective _ _
  · intro same
    rw [GlyphSeedRow.aspectPatternJson, same]

theorem query_seeds_known : querySeeds registry order (some pattern.toAspectSet) none seeds =
    .ok ((seeds.rows.filter fun row => row.aspectPattern.names = pattern.names).map
      (restoredSeed registry order)) := by
  rw [querySeeds, select_seeds_pattern]
  refine map_m_ok _ _ _ fun row member => ?_
  have same : row.aspectPattern.names = pattern.names := of_decide_eq_true (List.mem_filter.mp member).2
  exact deserialize_seed_known registry order row (same ▸ pattern.known)

theorem query_seeds_exact :
    querySeeds registry order (some pattern.toAspectSet) none seeds =
        .ok ((seedsOf registry seeds pattern).map (restoredSeed registry order)) ↔
      ∀ row ∈ seeds.rows, row.aspectPattern.members = pattern.members →
        row.aspectPattern.names = pattern.names := by
  rw [query_seeds_known, Except.ok.injEq]
  constructor
  · intro same row member ofSet
    have ids := congrArg (List.map GlyphSeed.seedId) same
    rw [List.map_map, List.map_map] at ids
    have found : row.seedId ∈ (seedsOf registry seeds pattern).map (GlyphSeed.seedId ∘ restoredSeed registry order) :=
      List.mem_map_of_mem (f := GlyphSeed.seedId ∘ restoredSeed registry order)
        (List.mem_filter.mpr ⟨member, decide_eq_true ofSet⟩)
    rw [← ids] at found
    obtain ⟨own, selected, sameId⟩ := List.mem_map.mp found
    obtain ⟨ownIn, names⟩ := List.mem_filter.mp selected
    obtain rfl := seeds.row_unique own row ownIn member sameId
    exact of_decide_eq_true names
  · intro alike
    refine congrArg _ (List.filter_congr fun row member => ?_)
    rw [decide_eq_decide]
    exact ⟨same_names_members registry pattern row.aspectPattern, alike row member⟩

theorem select_crystallized_names (aspects : AspectSet) : selectCrystallized aspects crystals =
    (crystals.rows.filter fun row => row.aspects.names = aspects.names).argmax CrystallizedRow.generation := by
  refine congrArg (List.argmax CrystallizedRow.generation) (List.filter_congr fun row _ => ?_)
  rw [decide_eq_decide]
  constructor
  · exact names_json_injective _ _
  · intro same
    rw [CrystallizedRow.aspectPatternJson, same]

theorem crystallized_row (aspects : AspectSet) (crystal : CrystallizedSigil)
    (found : crystallizedForAspects registry order aspects crystals = .ok (some crystal)) :
    ∃ row ∈ crystals.rows, row.aspects.names = aspects.names ∧ crystal = restoredSigil order row := by
  rw [crystallizedForAspects] at found
  cases chosen : selectCrystallized aspects crystals with
  | none =>
      rw [chosen] at found
      cases found
  | some row =>
      rw [chosen] at found
      obtain ⟨own, read, same⟩ := (map_ok _ _ _).mp found
      obtain rfl := Option.some.inj same
      obtain ⟨_, -, restored⟩ := (bind_ok _ _ _).mp read
      rw [select_crystallized_names] at chosen
      obtain ⟨member, names⟩ := List.mem_filter.mp (List.argmax_mem chosen)
      exact ⟨row, member, of_decide_eq_true names, (Except.ok.inj restored).symm⟩

theorem crystallized_none (absent : selectCrystallized pattern.toAspectSet crystals = none) :
    crystallizedForAspects registry order pattern.toAspectSet crystals = .ok none ∧
      ∀ row ∈ crystals.rows, row.aspects.names ≠ pattern.names := by
  refine ⟨by rw [crystallizedForAspects, absent], ?_⟩
  intro row member same
  rw [select_crystallized_names, List.argmax_eq_none, List.filter_eq_nil_iff] at absent
  exact absent row member (decide_eq_true same)

theorem crystallized_some (row : CrystallizedRow)
    (selected : selectCrystallized pattern.toAspectSet crystals = some row) :
    crystallizedForAspects registry order pattern.toAspectSet crystals = .ok (some (restoredSigil order row)) ∧
      row ∈ crystals.rows ∧ row.aspects.names = pattern.names ∧
        ∀ other ∈ crystals.rows, other.aspects.names = pattern.names → other.generation ≤ row.generation := by
  have chosen := selected
  rw [select_crystallized_names] at chosen
  obtain ⟨member, names⟩ := List.mem_filter.mp (List.argmax_mem chosen)
  have names : row.aspects.names = pattern.names := of_decide_eq_true names
  obtain ⟨aspects, resolved⟩ := resolve_names_known registry row.aspects.names (names ▸ pattern.known)
  have restored : deserializeCrystallizedSigil registry order row = .ok (restoredSigil order row) := by
    rw [deserializeCrystallizedSigil, bind_ok]
    exact ⟨aspects, resolved, rfl⟩
  refine ⟨by rw [crystallizedForAspects, selected]; simp only [restored]; rfl, member, names, ?_⟩
  intro other otherIn same
  exact List.le_of_mem_argmax (List.mem_filter.mpr ⟨otherIn, decide_eq_true same⟩) chosen

theorem crystallized_exact :
    (∃ found, crystallizedForAspects registry order pattern.toAspectSet crystals = .ok found ∧
        (found = none ↔ ∀ row ∈ crystals.rows, row.aspects.members ≠ pattern.members) ∧
          ∀ crystal ∈ found, ∃ row ∈ crystals.rows, row.aspects.members = pattern.members ∧
            crystal = restoredSigil order row ∧
              ∀ other ∈ crystals.rows, other.aspects.members = pattern.members →
                other.generation ≤ row.generation) ↔
      ∀ row ∈ crystals.rows, row.aspects.members = pattern.members →
        ∃ top ∈ crystals.rows, top.aspects.names = pattern.names ∧ row.generation ≤ top.generation := by
  cases selected : selectCrystallized pattern.toAspectSet crystals with
  | none =>
      obtain ⟨returned, unnamed⟩ := crystallized_none registry order crystals pattern selected
      constructor
      · intro lookup row member ofSet
        obtain ⟨found, ok, empty, -⟩ := lookup
        obtain rfl := Except.ok.inj (returned.symm.trans ok)
        exact absurd ofSet (empty.mp rfl row member)
      · intro alike
        refine ⟨none, returned, ⟨fun _ row member ofSet => ?_, fun _ => rfl⟩, fun crystal held => by cases held⟩
        obtain ⟨top, topIn, names, -⟩ := alike row member ofSet
        exact unnamed top topIn names
  | some row =>
      obtain ⟨returned, rowIn, names, highest⟩ := crystallized_some registry order crystals pattern row selected
      have ofSet := same_names_members registry pattern row.aspects names
      constructor
      · intro lookup other otherIn otherOfSet
        obtain ⟨found, ok, -, top⟩ := lookup
        obtain rfl := Except.ok.inj (returned.symm.trans ok)
        obtain ⟨best, bestIn, -, same, above⟩ := top _ rfl
        have sameName : row.name = best.name := congrArg CrystallizedSigil.name same
        obtain rfl := crystals.row_unique row best rowIn bestIn sameName
        exact ⟨row, rowIn, names, above other otherIn otherOfSet⟩
      · intro alike
        refine ⟨_, returned, iff_of_false (Option.some_ne_none _) fun absent => absent row rowIn ofSet, ?_⟩
        intro crystal held
        obtain rfl := Option.some.inj held
        refine ⟨row, rowIn, ofSet, rfl, ?_⟩
        intro other otherIn otherOfSet
        obtain ⟨top, topIn, topNames, below⟩ := alike other otherIn otherOfSet
        exact Nat.le_trans below (highest top topIn topNames)

theorem pattern_lookup_iff :
    PatternLookup registry order seeds crystals pattern ↔ WalkedAlike registry seeds crystals pattern := by
  have rows := query_seeds_exact registry order seeds pattern
  have sigils := crystallized_exact registry order crystals pattern
  constructor
  · intro found
    exact ⟨rows.mp found.seeds, sigils.mp found.crystals⟩
  · intro alike
    exact ⟨rows.mpr alike.seeds, sigils.mpr alike.crystals⟩

end Lookup

def listOrder : SetOrder where
  walk := fun names => names.dedup
  permutes := fun _ => List.Perm.refl _

def mindLight : AspectSet where
  names := ["MIND", "LIGHT"]
  distinct := by decide

def lightMind : KnownSet {} where
  names := ["LIGHT", "MIND"]
  distinct := by decide
  known := by
    intro name member
    simp only [List.mem_cons, List.not_mem_nil, or_false] at member
    obtain rfl | rfl := member
    · exact ⟨.canonical .light, by decide⟩
    · exact ⟨.canonical .mind, by decide⟩

def mindLightSeed : GlyphSeed where
  seedId := "01"
  aspectPattern := mindLight
  observedCount := 1
  semanticVector := fromAspects {} mindLight

def mindLightSeeds : SeedTable := Table.put Table.empty (serializeGlyphSeed mindLightSeed)

theorem walked_otherwise_lost : ¬ ∀ (registry : AspectRegistry) (order : SetOrder) (seeds : SeedTable)
    (crystals : CrystallizedTable) (pattern : KnownSet registry),
    PatternLookup registry order seeds crystals pattern := by
  intro found
  have lookup := (found {} listOrder mindLightSeeds Table.empty lightMind).seeds
  have missed : querySeeds {} listOrder (some lightMind.toAspectSet) none mindLightSeeds = .ok [] := by
    decide +kernel
  have stored : ((seedsOf {} mindLightSeeds lightMind).map (restoredSeed {} listOrder)).length = 1 := by
    decide +kernel
  rw [missed, Except.ok.injEq] at lookup
  rw [← lookup] at stored
  cases stored

end Vermyth
