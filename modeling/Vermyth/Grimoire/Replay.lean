import Vermyth.Grimoire.Registration

set_option autoImplicit false

namespace Vermyth

open Foundation

theorem registry_names (registry : AspectRegistry) :
    registry.names = aspectCanonicalOrder.map AspectID.name ++ registry.registered.map RegisteredAspect.name := by
  simp only [AspectRegistry.names, AspectRegistry.fullOrder, List.map_append, List.map_map]
  rfl

theorem resolve_known (registry : AspectRegistry) (name : String) :
    (∃ aspect, registry.resolve name = .ok aspect) ↔ name ∈ registry.names := by
  rw [AspectRegistry.resolve, AspectRegistry.names, List.mem_map]
  cases found : registry.fullOrder.find? fun aspect => aspect.name = name with
  | none =>
      rw [List.find?_eq_none] at found
      simpa using found
  | some own =>
      have named : own.name = name := by simpa using List.find?_some found
      have known := List.mem_of_find?_eq_some found
      exact ⟨fun _ => ⟨own, known, named⟩, fun _ => ⟨own, rfl⟩⟩

theorem resolve_names_iff (registry : AspectRegistry) (names : List String) :
    (∃ aspects, resolveNames registry names = .ok aspects) ↔ ∀ name ∈ names, name ∈ registry.names := by
  constructor
  · rintro ⟨aspects, resolved⟩
    induction names generalizing aspects with
    | nil => exact fun name member => absurd member List.not_mem_nil
    | cons first rest ih =>
        rw [resolveNames, List.mapM_cons, bind_ok] at resolved
        obtain ⟨aspect, known, resolved⟩ := resolved
        obtain ⟨others, later, -⟩ := (bind_ok _ _ _).mp resolved
        rw [List.forall_mem_cons]
        exact ⟨(resolve_known registry first).mp ⟨aspect, known⟩, ih others later⟩
  · intro known
    exact resolve_names_known registry names fun name member => (resolve_known registry name).mpr (known name member)

theorem register_fresh (registry after : AspectRegistry) (aspect : RegisteredAspect) :
    registry.register aspect = .ok after ↔ aspect.name ∉ registry.names ∧
      after = { registered := registry.registered ++ [aspect], basisVersion := registry.basisVersion + 1 } := by
  have canonical : AspectRegistry.isCanonical aspect.name = false ↔
      aspect.name ∉ aspectCanonicalOrder.map AspectID.name := by
    rw [AspectRegistry.isCanonical, ← Bool.not_eq_true, List.any_eq_true, List.mem_map]
    simp only [decide_eq_true_eq]
  have registered : registry.isRegistered aspect.name = false ↔
      aspect.name ∉ registry.registered.map RegisteredAspect.name := by
    rw [AspectRegistry.isRegistered, ← Bool.not_eq_true, List.any_eq_true, List.mem_map]
    simp only [decide_eq_true_eq]
  rw [AspectRegistry.register_ok, canonical, registered, registry_names, List.mem_append, not_or, and_assoc]

theorem canonical_names_distinct : (aspectCanonicalOrder.map AspectID.name).Nodup := by decide

theorem register_distinct (registry after : AspectRegistry) (aspect : RegisteredAspect) (distinct : registry.Distinct)
    (registered : registry.register aspect = .ok after) : after.Distinct := by
  obtain ⟨fresh, rfl⟩ := (register_fresh registry after aspect).mp registered
  rw [AspectRegistry.Distinct, registry_names] at distinct ⊢
  rw [registry_names] at fresh
  rw [List.map_append, ← List.append_assoc, List.map_singleton, ← List.concat_eq_append]
  exact distinct.concat fresh

theorem register_rows_ok (rows : List RegisteredAspectRow) (registry after : AspectRegistry)
    (registered : rows.foldlM (fun registry row => registry.register row.aspect) registry = .ok after) :
    after.registered = registry.registered ++ rows.map RegisteredAspectRow.aspect ∧
      (registry.Distinct → after.Distinct) := by
  induction rows generalizing registry with
  | nil =>
      obtain rfl := Except.ok.inj registered
      simp
  | cons row rest ih =>
      rw [List.foldlM_cons, bind_ok] at registered
      obtain ⟨next, first, registered⟩ := registered
      obtain ⟨all, kept⟩ := ih next registered
      refine ⟨?_, fun distinct => kept (register_distinct registry next row.aspect distinct first)⟩
      obtain ⟨-, rfl⟩ := (register_fresh registry next row.aspect).mp first
      rw [all, List.map_cons, List.append_assoc, List.singleton_append]

theorem register_rows_distinct (rows : List RegisteredAspectRow) (registry : AspectRegistry)
    (distinct : (registry.names ++ rows.map RegisteredAspectRow.name).Nodup) :
    ∃ after, rows.foldlM (fun registry row => registry.register row.aspect) registry = .ok after := by
  induction rows generalizing registry with
  | nil => exact ⟨registry, rfl⟩
  | cons row rest ih =>
      let next : AspectRegistry :=
        { registered := registry.registered ++ [row.aspect], basisVersion := registry.basisVersion + 1 }
      have names : next.names = registry.names ++ [row.name] := by
        simp only [next, registry_names, List.map_append, List.append_assoc, List.map_singleton]
        rfl
      have fresh : row.aspect.name ∉ registry.names := by
        rw [List.map_cons, List.nodup_append] at distinct
        exact fun known => distinct.2.2 _ known _ List.mem_cons_self rfl
      obtain ⟨after, later⟩ := ih next (by rw [names]; simpa using distinct)
      refine ⟨after, ?_⟩
      rw [List.foldlM_cons, bind_ok]
      exact ⟨next, (register_fresh registry next row.aspect).mpr ⟨fresh, rfl⟩, later⟩

theorem latest_version_le (grimoire : Grimoire) (row : BasisVersionRow) (member : row ∈ grimoire.basisVersions.rows) :
    row.version ≤ latestVersion grimoire := by
  obtain ⟨before, after, split⟩ := List.append_of_mem member
  rw [latestVersion, split, List.map_append, List.foldr_append, foldr_max, List.map_cons, List.foldr_cons]
  exact le_max_of_le_right (le_max_left _ _)

theorem latest_version_put (grimoire after : Grimoire) (row : BasisVersionRow)
    (next : row.version = latestVersion grimoire + 1) (written : after.basisVersions = grimoire.basisVersions.put row) :
    latestVersion after = row.version := by
  have fresh : ¬ grimoire.basisVersions.Has row.version := by
    intro has
    obtain ⟨old, member, same⟩ := List.mem_map.mp has
    have bound := latest_version_le grimoire old member
    omega
  have latest : (grimoire.basisVersions.rows.map BasisVersionRow.version).foldr max 0 < row.version := by
    rw [next]
    exact Nat.lt_succ_self _
  rw [latestVersion, written, Table.put_fresh _ _ fresh, List.map_append, List.foldr_append, foldr_max]
  simp only [List.map_cons, List.map_nil, List.foldr_cons, List.foldr_nil, Nat.max_zero]
  exact max_eq_right latest.le

def Ordinals (grimoire : Grimoire) : Prop :=
  ∀ row ∈ grimoire.registeredAspects.rows, row.ordinal < 6 + grimoire.registeredAspects.rows.length

instance (grimoire : Grimoire) : Decidable (Ordinals grimoire) :=
  inferInstanceAs (Decidable (∀ row ∈ grimoire.registeredAspects.rows, _))

theorem query_aspects_append (grimoire : Grimoire) (ordinals : Ordinals grimoire) (row : RegisteredAspectRow)
    (fresh : ¬ grimoire.registeredAspects.Has row.name)
    (last : row.ordinal = 6 + grimoire.registeredAspects.rows.length) :
    queryRegisteredAspects { grimoire with registeredAspects := grimoire.registeredAspects.append row fresh } =
      queryRegisteredAspects grimoire ++ [row] := by
  refine insertion_sort_last _ _ row fun old member => ?_
  have before := ordinals old member
  omega

theorem ordinals_append (grimoire : Grimoire) (ordinals : Ordinals grimoire) (row : RegisteredAspectRow)
    (fresh : ¬ grimoire.registeredAspects.Has row.name)
    (last : row.ordinal = 6 + grimoire.registeredAspects.rows.length) :
    Ordinals { grimoire with registeredAspects := grimoire.registeredAspects.append row fresh } := by
  have length : (grimoire.registeredAspects.append row fresh).rows.length =
      grimoire.registeredAspects.rows.length + 1 := List.length_append
  intro old member
  simp only [length]
  obtain earlier | new := List.mem_append.mp member
  · have below := ordinals old earlier
    omega
  · rw [List.mem_singleton.mp new]
    omega

def rowKey (registry : AspectRegistry) (row : RegisteredSigilRow) : String := canonicalAspectKey registry row.aspects

def replaySlot (registry : AspectRegistry) (row : RegisteredSigilRow) : SigilSlot where
  key := rowKey registry row
  entry := replayEntry row

def liveSlot (registry : AspectRegistry) (row : RegisteredSigilRow) : SigilSlot where
  key := rowKey registry row
  entry := { name := row.name, effectClass := row.effectClass, resonanceCeiling := row.resonanceCeiling }

structure RowValid (registry : AspectRegistry) (row : RegisteredSigilRow) : Prop where
  known : ∀ name ∈ row.aspects.names, name ∈ registry.names
  sized : row.aspects.Sized
  ceiling : CeilingValid row.resonanceCeiling

theorem row_valid_extend (registry after : AspectRegistry) (later : List String)
    (names : after.names = registry.names ++ later) (row : RegisteredSigilRow) (valid : RowValid registry row) :
    RowValid after row where
  known := by
    intro name member
    rw [names]
    exact List.mem_append_left _ (valid.known name member)
  sized := valid.sized
  ceiling := valid.ceiling

theorem rebuild_known (registry : AspectRegistry) (order : SetOrder) (aspects : AspectSet)
    (known : ∀ name ∈ aspects.names, name ∈ registry.names) :
    (∀ name ∈ (aspects.rebuild order).names, name ∈ registry.names) ∧
      canonicalAspectKey registry (aspects.rebuild order) = canonicalAspectKey registry aspects := by
  have perm := (members_eq _ _).mp (rebuild_members order aspects)
  have knownAfter : ∀ name ∈ (aspects.rebuild order).names, name ∈ registry.names :=
    fun name member => known name (perm.mem_iff.mp member)
  exact ⟨knownAfter, canonical_key_members registry _ _ (rebuild_members order aspects) knownAfter⟩

theorem replay_sigil_ok (order : SetOrder) (registry : AspectRegistry) (engine after : CompositionEngine)
    (row : RegisteredSigilRow) :
    replaySigil order registry engine row = .ok after ↔ RowValid registry row ∧
      (row.isOverride = true ∨ ¬ engine.table.Has (rowKey registry row)) ∧
        after = { engine with table := engine.table.upsert (replaySlot registry row) } := by
  rw [replaySigil, bind_ok]
  constructor
  · rintro ⟨resolved, names, replayed⟩
    obtain ⟨sigil, made, registered⟩ := (bind_ok _ _ _).mp replayed
    rw [resolve_names_ok registry _ resolved names] at made registered
    have known := (resolve_names_iff registry _).mp ⟨resolved, names⟩
    have sameKey : canonicalAspectKey registry (.build order row.aspects.names) = rowKey registry row :=
      (rebuild_known registry order row.aspects known).2
    obtain ⟨sized, ceiling, -⟩ := (resolved_sigil_ok _ _ _ _ _ _ _ sigil).mp made
    rw [register_sigil_entry_ok, sameKey] at registered
    exact ⟨⟨known, (rebuild_sized order row.aspects).mp sized, ceiling⟩, registered⟩
  · rintro ⟨valid, registered⟩
    obtain ⟨resolved, names⟩ := (resolve_names_iff registry _).mpr valid.known
    have sameKey : canonicalAspectKey registry (.build order row.aspects.names) = rowKey registry row :=
      (rebuild_known registry order row.aspects valid.known).2
    refine ⟨resolved, names, (bind_ok _ _ _).mpr ?_⟩
    rw [resolve_names_ok registry _ resolved names]
    refine ⟨_, (resolved_sigil_ok _ _ _ _ _ _ _ _).mpr
      ⟨(rebuild_sized order row.aspects).mpr valid.sized, valid.ceiling, rfl⟩, ?_⟩
    rw [register_sigil_entry_ok, sameKey]
    exact registered

-- Rows that do not override find their key neither in the data files nor
-- earlier in the replay.
structure Admissible (base : CompositionEngine) (registry : AspectRegistry) (rows : List RegisteredSigilRow) :
    Prop where
  new : ∀ row ∈ rows, row.isOverride = true ∨ ¬ base.table.Has (rowKey registry row)
  ordered : rows.Pairwise fun earlier row => row.isOverride = true ∨ rowKey registry row ≠ rowKey registry earlier

instance (base : CompositionEngine) (registry : AspectRegistry) (rows : List RegisteredSigilRow) :
    Decidable (Admissible base registry rows) :=
  decidable_of_iff (_ ∧ _) ⟨fun both => ⟨both.1, both.2⟩, fun admissible => ⟨admissible.new, admissible.ordered⟩⟩

theorem admissible_concat (base : CompositionEngine) (registry : AspectRegistry) (rows : List RegisteredSigilRow)
    (last : RegisteredSigilRow) :
    Admissible base registry (rows ++ [last]) ↔ Admissible base registry rows ∧
      (last.isOverride = true ∨ ¬ (base.table.Has (rowKey registry last) ∨
        rowKey registry last ∈ rows.map (rowKey registry))) := by
  constructor
  · rintro ⟨new, ordered⟩
    rw [List.pairwise_append] at ordered
    refine ⟨⟨fun row member => new row (List.mem_append_left _ member), ordered.1⟩, ?_⟩
    by_cases override : last.isOverride = true
    · exact Or.inl override
    · refine Or.inr ?_
      rintro (inBase | earlier)
      · exact (new last (List.mem_append_right _ List.mem_cons_self)).elim override fun absent => absent inBase
      · obtain ⟨row, member, same⟩ := List.mem_map.mp earlier
        exact (ordered.2.2 row member last List.mem_cons_self).elim override fun differs => differs same.symm
  · rintro ⟨⟨new, ordered⟩, last_new⟩
    refine ⟨?_, ?_⟩
    · intro row member
      obtain earlier | isLast := List.mem_append.mp member
      · exact new row earlier
      · rw [List.mem_singleton.mp isLast]
        exact last_new.imp_right fun absent inBase => absent (Or.inl inBase)
    · rw [List.pairwise_append]
      refine ⟨ordered, List.pairwise_singleton _ _, ?_⟩
      intro row member other isLast
      rw [List.mem_singleton.mp isLast]
      exact last_new.imp_right fun absent same => absent (Or.inr (List.mem_map.mpr ⟨row, member, same.symm⟩))

theorem replay_slots_has (base : CompositionEngine) (registry : AspectRegistry) (rows : List RegisteredSigilRow)
    (key : String) :
    ((rows.map (replaySlot registry)).foldl Table.upsert base.table).Has key ↔
      base.table.Has key ∨ key ∈ rows.map (rowKey registry) := by
  rw [Table.has_upserts, List.map_map]
  rfl

theorem replay_sigils_ok (order : SetOrder) (registry : AspectRegistry) (base after : CompositionEngine)
    (rows : List RegisteredSigilRow) :
    rows.foldlM (replaySigil order registry) base = .ok after ↔ (∀ row ∈ rows, RowValid registry row) ∧
      Admissible base registry rows ∧
        after = { base with table := (rows.map (replaySlot registry)).foldl Table.upsert base.table } := by
  induction rows using List.reverseRecOn generalizing after with
  | nil =>
      have none : Admissible base registry [] := ⟨by simp, List.Pairwise.nil⟩
      constructor
      · intro same
        exact ⟨by simp, none, (Except.ok.inj same).symm⟩
      · rintro ⟨-, -, rfl⟩
        rfl
  | append_singleton rows last ih =>
      rw [List.foldlM_append, bind_ok]
      have single : ∀ mid, [last].foldlM (replaySigil order registry) mid = .ok after ↔
          replaySigil order registry mid last = .ok after := by
        intro mid
        rw [List.foldlM_cons, bind_ok]
        simp [pure, Except.pure]
      rw [admissible_concat, List.forall_mem_append, List.map_append, List.foldl_append]
      constructor
      · rintro ⟨mid, earlier, replayed⟩
        obtain ⟨valid, admissible, rfl⟩ := (ih mid).mp earlier
        obtain ⟨lastValid, lastNew, rfl⟩ := (replay_sigil_ok _ _ _ _ _).mp ((single _).mp replayed)
        rw [replay_slots_has] at lastNew
        exact ⟨⟨valid, by simpa using lastValid⟩, ⟨admissible, lastNew⟩, rfl⟩
      · rintro ⟨⟨valid, lastValid⟩, ⟨admissible, lastNew⟩, rfl⟩
        refine ⟨_, (ih _).mpr ⟨valid, admissible, rfl⟩, (single _).mpr ?_⟩
        rw [replay_sigil_ok, replay_slots_has]
        exact ⟨lastValid last List.mem_cons_self, lastNew, rfl⟩

end Vermyth
