import Vermyth.Grimoire.Casting
import Vermyth.Grimoire.PatternLookup

set_option autoImplicit false

namespace Vermyth

open Foundation

theorem query_seeds_ok (registry : AspectRegistry) (order : SetOrder) (pattern : AspectSet) (table : SeedTable)
    (seeds : List GlyphSeed) (ok : querySeeds registry order (some pattern) none table = .ok seeds) :
    seeds = (table.rows.filter fun row => row.aspectPattern.names = pattern.names).map
      (restoredSeed registry order) := by
  rw [querySeeds, select_seeds_pattern] at ok
  generalize (table.rows.filter fun row => row.aspectPattern.names = pattern.names) = rows at ok
  induction rows generalizing seeds with
  | nil =>
      obtain rfl := Except.ok.inj ok
      rfl
  | cons row rest ih =>
      rw [List.mapM_cons, bind_ok] at ok
      obtain ⟨seed, read, ok⟩ := ok
      obtain ⟨others, later, ok⟩ := (bind_ok _ _ _).mp ok
      obtain rfl := Except.ok.inj ok
      rw [List.map_cons, ih others later, deserialize_seed_ok registry order row seed read]

inductive Placed (seeds : SeedTable) (row : GlyphSeedRow) : Prop where
  | first (fresh : ¬ seeds.Has row.seedId)
      (new : ∀ old ∈ seeds.rows, old.aspectPattern.members ≠ row.aspectPattern.members)
  | taken (old : GlyphSeedRow) (member : old ∈ seeds.rows) (id : old.seedId = row.seedId)
      (pattern : old.aspectPattern.members = row.aspectPattern.members)

theorem one_seed_unique (seeds : SeedTable) (one : OneSeedEach seeds) (a b : GlyphSeedRow) (inA : a ∈ seeds.rows)
    (inB : b ∈ seeds.rows) (same : a.aspectPattern.members = b.aspectPattern.members) : a = b :=
  List.inj_on_of_nodup_map one inA inB same

theorem placed_other (seeds : SeedTable) (one : OneSeedEach seeds) (row : GlyphSeedRow) (placed : Placed seeds row)
    (old : GlyphSeedRow) (member : old ∈ seeds.rows) :
    old.seedId = row.seedId ↔ old.aspectPattern.members = row.aspectPattern.members := by
  cases placed with
  | first fresh new =>
      exact iff_of_false (fun same => fresh (same ▸ seeds.has_row old member)) (new old member)
  | taken own ownMember id pattern =>
      constructor
      · intro same
        rw [seeds.row_unique old own member ownMember (same.trans id.symm)]
        exact pattern
      · intro same
        rw [one_seed_unique seeds one old own member ownMember (same.trans pattern.symm)]
        exact id

theorem one_seed_put (seeds : SeedTable) (one : OneSeedEach seeds) (row : GlyphSeedRow) (placed : Placed seeds row) :
    OneSeedEach (seeds.put row) := by
  rw [OneSeedEach, Table.put, List.map_append, List.map_singleton, ← List.concat_eq_append]
  refine List.Nodup.concat ?_ (one.sublist (List.filter_sublist.map _))
  intro inOthers
  obtain ⟨old, member, same⟩ := List.mem_map.mp inOthers
  obtain ⟨inRows, differs⟩ := List.mem_filter.mp member
  exact of_decide_eq_true differs ((placed_other seeds one row placed old inRows).mpr same)

theorem put_others (seeds : SeedTable) (one : OneSeedEach seeds) (row : GlyphSeedRow) (placed : Placed seeds row)
    (other : GlyphSeedRow) (differs : other.aspectPattern.members ≠ row.aspectPattern.members) :
    other ∈ (seeds.put row).rows ↔ other ∈ seeds.rows := by
  rw [Table.mem_put]
  constructor
  · rintro (⟨member, -⟩ | rfl)
    · exact member
    · exact absurd rfl differs
  · intro member
    exact Or.inl ⟨member, fun same => differs ((placed_other seeds one row placed other member).mp same)⟩

theorem placed_again (seeds : SeedTable) (row next : GlyphSeedRow) (id : next.seedId = row.seedId)
    (pattern : next.aspectPattern.members = row.aspectPattern.members) : Placed (seeds.put row) next :=
  .taken row ((seeds.mem_put row row).mpr (Or.inr rfl)) id.symm pattern.symm

inductive Written (pattern : Finset String) (adjusted : ℚ) (seeds : SeedTable) (row : GlyphSeedRow) : Prop where
  | first (fresh : ¬ seeds.Has row.seedId) (new : ∀ old ∈ seeds.rows, old.aspectPattern.members ≠ pattern)
      (own : row.aspectPattern.members = pattern) (count : row.observedCount = 1)
      (mean : row.meanResonance = adjusted)
  | next (old : GlyphSeedRow) (member : old ∈ seeds.rows) (id : old.seedId = row.seedId)
      (ofPattern : old.aspectPattern.members = pattern) (own : row.aspectPattern.members = pattern)
      (count : row.observedCount = old.observedCount + 1)
      (mean : row.meanResonance = runningMean old.meanResonance old.observedCount adjusted)

section Written

variable {pattern : Finset String} {adjusted : ℚ} {seeds : SeedTable} {row : GlyphSeedRow}

theorem written_own (written : Written pattern adjusted seeds row) : row.aspectPattern.members = pattern := by
  cases written with
  | first _ _ own _ _ => exact own
  | next _ _ _ _ own _ _ => exact own

theorem written_placed (written : Written pattern adjusted seeds row) : Placed seeds row := by
  cases written with
  | first fresh new own _ _ => exact .first fresh (own ▸ new)
  | next old member id ofPattern own _ _ => exact .taken old member id (ofPattern.trans own.symm)

theorem find_fresh (fresh : ¬ seeds.Has row.seedId) : seeds.find? row.seedId = none := by
  cases found : seeds.find? row.seedId with
  | none => rfl
  | some old => exact absurd (seeds.find_key _ old found ▸ seeds.has_row old (seeds.find_mem _ old found)) fresh

theorem written_observed (written : Written pattern adjusted seeds row) :
    observedOf pattern (seeds.put row) = observedOf pattern seeds + 1 := by
  have put := seeds.total_put (observedIn pattern) row
  rw [← observedOf, ← observedOf, observedIn, if_pos (written_own written)] at put
  cases written with
  | first fresh new own count mean =>
      rw [find_fresh fresh, count] at put
      exact put
  | next old member id ofPattern own count mean =>
      rw [← id, seeds.find_row old member, Option.map_some, Option.getD_some, observedIn, if_pos ofPattern,
        count] at put
      omega

theorem written_resonance (written : Written pattern adjusted seeds row) :
    resonanceOf pattern (seeds.put row) = resonanceOf pattern seeds + adjusted := by
  have put := seeds.total_put (resonanceIn pattern) row
  rw [← resonanceOf, ← resonanceOf, resonanceIn, if_pos (written_own written)] at put
  cases written with
  | first fresh new own count mean =>
      rw [find_fresh fresh, count, mean] at put
      exact (add_zero _).symm.trans (put.trans (congrArg (resonanceOf pattern seeds + ·) (mul_one adjusted)))
  | next old member id ofPattern own count mean =>
      rw [← id, seeds.find_row old member, Option.map_some, Option.getD_some, resonanceIn, if_pos ofPattern,
        count, mean, running_mean_total, ← add_assoc, add_right_comm] at put
      exact add_right_cancel put

end Written

def Finds (asked : AspectSet) (result : SeedCast) (seeds : SeedTable) : Prop :=
  result.verdict.verdictType = .incoherent ∨ ∀ row ∈ seeds.rows,
    row.aspectPattern.members = result.aspects.members → row.aspectPattern.names = asked.names

theorem restored_members (registry : AspectRegistry) (order : SetOrder) (row : GlyphSeedRow) :
    (restoredSeed registry order row).aspectPattern.members = row.aspectPattern.members :=
  rebuild_members order row.aspectPattern

theorem kept_id_fields (seeds : List GlyphSeed) (seed : GlyphSeed) :
    (keptId seeds seed).aspectPattern = seed.aspectPattern ∧
      (keptId seeds seed).observedCount = seed.observedCount ∧
        (keptId seeds seed).meanResonance = seed.meanResonance := by
  rw [keptId]
  split <;> exact ⟨rfl, rfl, rfl⟩

theorem kept_id_none (seeds : List GlyphSeed) (seed : GlyphSeed)
    (unmatched : ∀ other ∈ seeds, other.aspectPattern.members ≠ seed.aspectPattern.members) :
    (keptId seeds seed).seedId = seed.seedId := by
  have none : seeds.reverse.find? (fun prev => prev.aspectPattern.members = seed.aspectPattern.members) = none := by
    rw [List.find?_eq_none]
    intro other member same
    exact unmatched other (List.mem_reverse.mp member) (of_decide_eq_true same)
  rw [keptId, none]

theorem kept_id_some (seeds : List GlyphSeed) (seed matching : GlyphSeed) (member : matching ∈ seeds)
    (same : matching.aspectPattern.members = seed.aspectPattern.members) :
    ∃ prev ∈ seeds, prev.aspectPattern.members = seed.aspectPattern.members ∧
      (keptId seeds seed).seedId = prev.seedId := by
  rw [keptId]
  cases found : seeds.reverse.find? fun prev => prev.aspectPattern.members = seed.aspectPattern.members with
  | none =>
      rw [List.find?_eq_none] at found
      exact absurd (decide_eq_true same) (found matching (List.mem_reverse.mpr member))
  | some prev =>
      have ofPattern : prev.aspectPattern.members = seed.aspectPattern.members := by simpa using List.find?_some found
      exact ⟨prev, List.mem_reverse.mp (List.mem_of_find?_eq_some found), ofPattern, rfl⟩

section Accumulate

variable {env : SeedEnv} {asked : AspectSet} {result : SeedCast} {draw : SeedDraw}

theorem grown_written (table : SeedTable) (one : OneSeedEach table) (same : asked.members = result.aspects.members)
    (fresh : ¬ table.Has draw.seedId) (finds : Finds asked result table) (seeds : List GlyphSeed)
    (asks : querySeeds env.registry env.order (some asked) none table = .ok seeds) (seed : GlyphSeed)
    (grown : Grown result draw.seedId seeds (some seed)) :
    Written result.aspects.members result.adjusted table (serializeGlyphSeed (keptId seeds seed)) := by
  have rows := query_seeds_ok _ _ _ _ _ asks
  obtain ⟨patternKept, countKept, meanKept⟩ := kept_id_fields seeds seed
  have own : seed.aspectPattern.members = result.aspects.members →
      (serializeGlyphSeed (keptId seeds seed)).aspectPattern.members = result.aspects.members := by
    intro pattern
    rw [serializeGlyphSeed, patternKept]
    exact pattern
  -- The seeds that come back are rows of the pattern.
  have asRow : ∀ other ∈ seeds, ∃ row ∈ table.rows, row.aspectPattern.members = result.aspects.members ∧
      other = restoredSeed env.registry env.order row := by
    intro other member
    rw [rows] at member
    obtain ⟨row, selected, rfl⟩ := List.mem_map.mp member
    obtain ⟨inTable, names⟩ := List.mem_filter.mp selected
    have members : row.aspectPattern.members = asked.members := congrArg List.toFinset (of_decide_eq_true names)
    exact ⟨row, inTable, members.trans same, rfl⟩
  cases grown with
  | first _ unmatched coherent id pattern count mean =>
      have finds := finds.resolve_left coherent
      have new : ∀ row ∈ table.rows, row.aspectPattern.members ≠ result.aspects.members := by
        intro row member ofPattern
        have selected : restoredSeed env.registry env.order row ∈ seeds := by
          rw [rows]
          exact List.mem_map_of_mem (List.mem_filter.mpr ⟨member, decide_eq_true (finds row member ofPattern)⟩)
        exact unmatched _ selected ((restored_members _ _ row).trans ofPattern)
      have drawn : (keptId seeds seed).seedId = draw.seedId := by
        rw [kept_id_none seeds seed (fun other member => pattern ▸ unmatched other member), id]
      refine .first ?_ new (own pattern) (countKept.trans count) (meanKept.trans mean)
      rw [serializeGlyphSeed, drawn]
      exact fresh
  | next _ matching found pattern count mean =>
      have ofPattern : matching.aspectPattern.members = result.aspects.members := by
        simpa using List.find?_some found
      have member := List.mem_of_find?_eq_some found
      obtain ⟨prev, prevIn, prevPattern, id⟩ := kept_id_some seeds seed matching member (ofPattern.trans pattern.symm)
      obtain ⟨old, oldIn, oldPattern, isOld⟩ := asRow matching member
      obtain ⟨last, lastIn, lastPattern, isLast⟩ := asRow prev prevIn
      -- The first seed of the pattern is the last one.
      obtain rfl := one_seed_unique table one old last oldIn lastIn (oldPattern.trans lastPattern.symm)
      refine .next old oldIn ?_ oldPattern (own pattern) ?_ ?_
      · rw [serializeGlyphSeed, id, isLast]
        rfl
      · rw [serializeGlyphSeed, countKept, count, isOld]
        rfl
      · rw [serializeGlyphSeed, meanKept, mean, isOld]
        rfl

theorem grown_id (table : SeedTable) (seeds : List GlyphSeed)
    (asks : querySeeds env.registry env.order (some asked) none table = .ok seeds) (seed : GlyphSeed)
    (grown : Grown result draw.seedId seeds (some seed)) :
    (keptId seeds seed).seedId = draw.seedId ∨ table.Has (keptId seeds seed).seedId := by
  cases grown with
  | first _ unmatched _ id pattern _ _ =>
      rw [kept_id_none seeds seed (fun other member => pattern ▸ unmatched other member)]
      exact Or.inl id
  | next _ matching found pattern _ _ =>
      have ofPattern : matching.aspectPattern.members = result.aspects.members := by
        simpa using List.find?_some found
      obtain ⟨prev, prevIn, -, id⟩ := kept_id_some seeds seed matching (List.mem_of_find?_eq_some found)
        (ofPattern.trans pattern.symm)
      rw [query_seeds_ok _ _ _ _ _ asks] at prevIn
      obtain ⟨row, selected, rfl⟩ := List.mem_map.mp prevIn
      exact Or.inr (id ▸ table.has_row row (List.mem_filter.mp selected).1)

theorem crystallize_seeds (env : SeedEnv) (seed : GlyphSeed) (now : Datetime) (grimoire : Grimoire) :
    (crystallizeSeed env seed now grimoire).2.seeds = grimoire.seeds ∨
      (crystallizes env seed = true ∧
        (crystallizeSeed env seed now grimoire).2.seeds =
          grimoire.seeds.put (serializeGlyphSeed (resetSeed seed))) := by
  rw [crystallizeSeed, crystallizes]
  cases crystallize env.registry env.order env.engine seed with
  | error raised => exact Or.inl rfl
  | ok made =>
      cases made with
      | none => exact Or.inl rfl
      | some sigil =>
          simp only []
          generalize writeCrystallizedSigil (crystalRow sigil seed now) grimoire.crystallized = wrote
          cases wrote with
          | error raised => exact Or.inl rfl
          | ok crystallized =>
              generalize reset : writeSeed (resetSeed seed) grimoire.seeds = table
              cases table with
              | error raised => exact Or.inl rfl
              | ok seeds => exact Or.inr ⟨trivial, write_seed_ok _ _ _ reset⟩

theorem accumulate_seed_writes (store : SeedStore) :
    (accumulateSeed env asked result draw store).2 = store ∨
      ∃ seeds seed, querySeeds env.registry env.order (some asked) none store.grimoire.seeds = .ok seeds ∧
        accumulate env.registry env.order draw.seedId result seeds = .ok (some seed) ∧
        (∃ table, writeSeed (keptId seeds seed) store.grimoire.seeds = .ok table) ∧ ∃ grimoire : Grimoire,
          grimoire = (crystallizeSeed env (keptId seeds seed) draw.now
            { store.grimoire with
              seeds := store.grimoire.seeds.put (serializeGlyphSeed (keptId seeds seed)) }).2 ∧
          (accumulateSeed env asked result draw store).2 =
            { grimoire := grimoire
              history := store.history ++
                [{ pattern := result.aspects.members, adjusted := result.adjusted, before := store.grimoire.seeds,
                   after := grimoire.seeds, crystallized := crystallizes env (keptId seeds seed) }] } := by
  rw [accumulateSeed]
  cases asks : querySeeds env.registry env.order (some asked) none store.grimoire.seeds with
  | error raised => exact Or.inl rfl
  | ok seeds =>
      simp only []
      cases grows : accumulate env.registry env.order draw.seedId result seeds with
      | error raised => exact Or.inl rfl
      | ok made =>
          cases made with
          | none => exact Or.inl rfl
          | some seed =>
              simp only []
              cases wrote : writeSeed (keptId seeds seed) store.grimoire.seeds with
              | error raised => exact Or.inl rfl
              | ok table =>
                  obtain rfl := write_seed_ok _ _ _ wrote
                  exact Or.inr ⟨seeds, seed, rfl, grows, ⟨_, wrote⟩, _, rfl, rfl⟩

theorem accumulate_seed_cases (store : SeedStore) :
    (accumulateSeed env asked result draw store).2 = store ∨
      ∃ seeds seed, querySeeds env.registry env.order (some asked) none store.grimoire.seeds = .ok seeds ∧
        Grown result draw.seedId seeds (some seed) ∧ ∃ grimoire : Grimoire,
          grimoire = (crystallizeSeed env (keptId seeds seed) draw.now
            { store.grimoire with
              seeds := store.grimoire.seeds.put (serializeGlyphSeed (keptId seeds seed)) }).2 ∧
          (accumulateSeed env asked result draw store).2 =
            { grimoire := grimoire
              history := store.history ++
                [{ pattern := result.aspects.members, adjusted := result.adjusted, before := store.grimoire.seeds,
                   after := grimoire.seeds, crystallized := crystallizes env (keptId seeds seed) }] } := by
  obtain left | ⟨seeds, seed, asks, grows, -, written⟩ := accumulate_seed_writes store
  · exact Or.inl left
  · exact Or.inr ⟨seeds, seed, asks, accumulate_grown _ _ _ _ _ _ grows, written⟩

theorem accumulate_invariant (store : SeedStore) (holds : SeedInvariant store)
    (same : asked.members = result.aspects.members) (fresh : ¬ store.grimoire.seeds.Has draw.seedId)
    (finds : Finds asked result store.grimoire.seeds) :
    SeedInvariant (accumulateSeed env asked result draw store).2 := by
  obtain left | ⟨seeds, seed, asks, grown, grimoire, isCrystal, after⟩ :=
    accumulate_seed_cases store
  · rw [left]
    exact holds
  · have written := grown_written store.grimoire.seeds holds.one same fresh finds seeds asks seed grown
    have one := one_seed_put _ holds.one _ (written_placed written)
    have reset : Placed (store.grimoire.seeds.put (serializeGlyphSeed (keptId seeds seed)))
        (serializeGlyphSeed (resetSeed (keptId seeds seed))) := placed_again _ _ _ rfl rfl
    have crystal := crystallize_seeds env (keptId seeds seed) draw.now
      { store.grimoire with seeds := store.grimoire.seeds.put (serializeGlyphSeed (keptId seeds seed)) }
    rw [← isCrystal] at crystal
    have oneAfter : OneSeedEach grimoire.seeds := by
      obtain kept | ⟨-, again⟩ := crystal
      · rw [kept]
        exact one
      · rw [again]
        exact one_seed_put _ one _ reset
    rw [after]
    refine ⟨oneAfter, ?_, ?_⟩
    · rw [List.forall_mem_append]
      exact ⟨holds.throughout, by simpa using ⟨holds.one, oneAfter⟩⟩
    · rw [List.forall_mem_append]
      refine ⟨holds.exact, ?_⟩
      intro own member notCrystal
      obtain rfl := List.mem_singleton.mp member
      have kept : grimoire.seeds = store.grimoire.seeds.put (serializeGlyphSeed (keptId seeds seed)) := by
        obtain kept | ⟨crystallized, -⟩ := crystal
        · exact kept
        · exact absurd (notCrystal.symm.trans crystallized) (by decide)
      exact
        { observed := by
            simp only [kept]
            exact written_observed written
          resonance := by
            simp only [kept]
            exact written_resonance written
          others := by
            intro row differs
            simp only [kept]
            exact put_others _ holds.one _ (written_placed written) row (written_own written ▸ differs) }

theorem accumulate_one_finds (store : SeedStore) (one : OneSeedEach store.grimoire.seeds)
    (fresh : ¬ store.grimoire.seeds.Has draw.seedId)
    (wrote : (accumulateSeed env asked result draw store).2.history ≠ store.history)
    (after : OneSeedEach (accumulateSeed env asked result draw store).2.grimoire.seeds) :
    Finds asked result store.grimoire.seeds := by
  obtain left | ⟨seeds, seed, asks, grown, grimoire, isCrystal, written⟩ :=
    accumulate_seed_cases store
  · exact absurd (congrArg SeedStore.history left) wrote
  · have rows := query_seeds_ok _ _ _ _ _ asks
    rw [written] at after
    refine Or.inr fun row member ofPattern => ?_
    cases grown with
    | next _ matching found _ _ _ =>
        have ownPattern : matching.aspectPattern.members = result.aspects.members := by
          simpa using List.find?_some found
        have inSeeds := List.mem_of_find?_eq_some found
        rw [rows] at inSeeds
        obtain ⟨own, selected, rfl⟩ := List.mem_map.mp inSeeds
        obtain ⟨ownIn, names⟩ := List.mem_filter.mp selected
        rw [restored_members] at ownPattern
        rw [one_seed_unique _ one row own member ownIn (ofPattern.trans ownPattern.symm)]
        exact of_decide_eq_true names
    | first _ unmatched _ id pattern _ _ =>
        have drawn : (keptId seeds seed).seedId = draw.seedId := by
          rw [kept_id_none seeds seed (fun other inSeeds => pattern ▸ unmatched other inSeeds), id]
        have ownPattern : (keptId seeds seed).aspectPattern.members = result.aspects.members := by
          rw [(kept_id_fields seeds seed).1]
          exact pattern
        have differs : row.seedId ≠ draw.seedId := fun own => fresh (own ▸ store.grimoire.seeds.has_row row member)
        have crystal := crystallize_seeds env (keptId seeds seed) draw.now
          { store.grimoire with seeds := store.grimoire.seeds.put (serializeGlyphSeed (keptId seeds seed)) }
        rw [← isCrystal] at crystal
        -- The row stays beside the new one of its pattern.
        have stays : row ∈ (store.grimoire.seeds.put (serializeGlyphSeed (keptId seeds seed))).rows :=
          (Table.mem_put _ _ _).mpr (Or.inl ⟨member, fun own => differs (own.trans drawn)⟩)
        have both : row ∈ grimoire.seeds.rows ∧ ∃ new ∈ grimoire.seeds.rows,
            new.seedId = draw.seedId ∧ new.aspectPattern.members = result.aspects.members := by
          obtain kept | ⟨-, again⟩ := crystal
          · rw [kept]
            exact ⟨stays, _, (Table.mem_put _ _ _).mpr (Or.inr rfl), drawn, ownPattern⟩
          · rw [again]
            refine ⟨(Table.mem_put _ _ _).mpr (Or.inl ⟨stays, fun own => differs (own.trans drawn)⟩), ?_⟩
            exact ⟨_, (Table.mem_put _ _ _).mpr (Or.inr rfl), drawn, ownPattern⟩
        obtain ⟨inAfter, new, newIn, newId, newPattern⟩ := both
        rw [one_seed_unique _ after row new inAfter newIn (ofPattern.trans newPattern.symm)] at differs
        exact absurd newId differs

theorem accumulate_ids (store : SeedStore) (id : String)
    (has : (accumulateSeed env asked result draw store).2.grimoire.seeds.Has id) :
    store.grimoire.seeds.Has id ∨ id = draw.seedId := by
  obtain left | ⟨seeds, seed, asks, grown, grimoire, isCrystal, after⟩ :=
    accumulate_seed_cases store
  · rw [left] at has
    exact Or.inl has
  · have own := grown_id store.grimoire.seeds seeds asks seed grown
    have crystal := crystallize_seeds env (keptId seeds seed) draw.now
      { store.grimoire with seeds := store.grimoire.seeds.put (serializeGlyphSeed (keptId seeds seed)) }
    rw [← isCrystal] at crystal
    rw [after] at has
    have either : store.grimoire.seeds.Has id ∨ id = (keptId seeds seed).seedId := by
      obtain kept | ⟨-, again⟩ := crystal
      · rw [kept] at has
        exact (Table.has_put _ _ _).mp has
      · rw [again, Table.has_put, Table.has_put] at has
        obtain earlier | isReset := has
        · exact earlier
        · exact Or.inr isReset
    obtain earlier | rfl := either
    · exact Or.inl earlier
    · exact own.symm

end Accumulate

end Vermyth
