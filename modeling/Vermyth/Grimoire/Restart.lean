import Vermyth.Grimoire.Lifecycle
import Vermyth.Grimoire.PatternLookup
import Vermyth.Grimoire.Replay

set_option autoImplicit false

namespace Vermyth

open Foundation

def jsonNames (aspects : List Json) : List String :=
  aspects.filterMap fun
    | .str name => some name
    | _ => none

def requestedRow (env : RegistryEnv) (order : SetOrder) : RegistryCall → Option RegisteredSigilRow
  | .aspect .. => none
  | .sigil payload now =>
      match requestNames env payload, requestTerms env payload with
      | .ok (name, aspects), .ok terms =>
          some
            { name := name, aspects := (AspectSet.build order (jsonNames aspects)).rebuild order,
              effectClass := terms.effectClass, resonanceCeiling := terms.resonanceCeiling,
              contradictionSeverity := terms.contradictionSeverity, isOverride := terms.allowOverride,
              registeredAt := now }
      | _, _ => none

def requestedAspect : RegistryCall → Option RegisteredAspect
  | .aspect aspectId polarity entropyCoefficient symbol =>
      match RegisteredAspect.make aspectId polarity entropyCoefficient symbol with
      | .ok aspect => some aspect
      | .error _ => none
  | .sigil .. => none

theorem request_aspect_ok (registry : AspectRegistry) (item : Json) (aspect : Aspect)
    (ok : requestAspect registry item = .ok aspect) :
    item = .str aspect.name ∧ aspect.name ∈ registry.names := by
  cases item with
  | str name =>
      rw [requestAspect] at ok
      cases resolved : registry.resolve name with
      | error raised => simp [resolved] at ok
      | ok own =>
          simp only [resolved] at ok
          obtain rfl := Except.ok.inj ok
          have named := resolve_name registry name own resolved
          rw [named]
          exact ⟨rfl, (resolve_known registry name).mp ⟨own, resolved⟩⟩
  | _ => cases ok

theorem request_aspects_ok (registry : AspectRegistry) (items : List Json) (aspects : List Aspect)
    (ok : items.mapM (requestAspect registry) = .ok aspects) :
    aspects.map Aspect.name = jsonNames items ∧ ∀ name ∈ jsonNames items, name ∈ registry.names := by
  induction items generalizing aspects with
  | nil =>
      obtain rfl := Except.ok.inj ok
      exact ⟨rfl, fun name member => absurd member List.not_mem_nil⟩
  | cons item rest ih =>
      rw [List.mapM_cons, bind_ok] at ok
      obtain ⟨aspect, first, ok⟩ := ok
      obtain ⟨others, later, ok⟩ := (bind_ok _ _ _).mp ok
      obtain rfl := Except.ok.inj ok
      obtain ⟨rfl, known⟩ := request_aspect_ok registry item aspect first
      obtain ⟨names, allKnown⟩ := ih others later
      have split : jsonNames (.str aspect.name :: rest) = aspect.name :: jsonNames rest := rfl
      rw [split, List.map_cons, names, List.forall_mem_cons]
      exact ⟨rfl, known, allKnown⟩

theorem build_known (registry : AspectRegistry) (order : SetOrder) (names : List String)
    (known : ∀ name ∈ names, name ∈ registry.names) :
    ∀ name ∈ (AspectSet.build order names).names, name ∈ registry.names := by
  intro name member
  exact known name (List.mem_dedup.mp ((order.permutes names).mem_iff.mp member))

theorem register_sigil_ok (env : RegistryEnv) (order : SetOrder) (payload : List (String × Json)) (now : Datetime)
    (process after : VermythProcess) (ok : toolRegisterSigil env order payload now process = .ok after) :
    ∃ row, requestedRow env order (.sigil payload now) = some row ∧ RowValid process.registry row ∧
      (row.isOverride = true ∨ ¬ process.engine.table.Has (rowKey process.registry row)) ∧
        after = { process with
          engine := { process.engine with table := process.engine.table.upsert (liveSlot process.registry row) }
          grimoire := writeRegisteredSigil row process.grimoire } := by
  rw [toolRegisterSigil, bind_ok] at ok
  obtain ⟨⟨name, items⟩, named, ok⟩ := ok
  obtain ⟨resolved, aspects, ok⟩ := (bind_ok _ _ _).mp ok
  obtain ⟨terms, read, ok⟩ := (bind_ok _ _ _).mp ok
  obtain ⟨sigil, made, ok⟩ := (bind_ok _ _ _).mp ok
  obtain ⟨engine, registered, ok⟩ := (bind_ok _ _ _).mp ok
  obtain rfl := Except.ok.inj ok
  obtain ⟨names, known⟩ := request_aspects_ok process.registry items resolved aspects
  rw [names] at made registered
  obtain ⟨sized, ceiling, rfl⟩ := (resolved_sigil_ok _ _ _ _ _ _ _ sigil).mp made
  have knownBuilt := build_known process.registry order _ known
  obtain ⟨knownRow, sameKey⟩ := rebuild_known process.registry order _ knownBuilt
  rw [register_sigil_entry_ok, ← sameKey] at registered
  obtain ⟨allowed, rfl⟩ := registered
  refine
    ⟨{ name := name, aspects := (AspectSet.build order (jsonNames items)).rebuild order,
       effectClass := terms.effectClass, resonanceCeiling := terms.resonanceCeiling,
       contradictionSeverity := terms.contradictionSeverity, isOverride := terms.allowOverride,
       registeredAt := now },
      ?_, ⟨knownRow, (rebuild_sized order _).mpr sized, ceiling⟩, allowed, rfl⟩
  simp only [requestedRow, named, read]

theorem register_aspect_ok (aspectId : String) (polarity : Int) (entropyCoefficient : ℚ) (symbol : String)
    (process after : VermythProcess)
    (ok : toolRegisterAspect aspectId polarity entropyCoefficient symbol process = .ok after) :
    ∃ aspect, requestedAspect (.aspect aspectId polarity entropyCoefficient symbol) = some aspect ∧
      aspect.name ∉ process.registry.names ∧
        ∃ registry grimoire, writeRegisteredAspect aspect (6 + process.registry.registered.length)
          { registered := process.registry.registered ++ [aspect],
            basisVersion := process.registry.basisVersion + 1 } process.grimoire = .ok (registry, grimoire) ∧
          after = { process with registry := registry, grimoire := grimoire } := by
  rw [toolRegisterAspect, bind_ok] at ok
  obtain ⟨aspect, made, ok⟩ := ok
  obtain ⟨registry, registered, ok⟩ := (bind_ok _ _ _).mp ok
  obtain ⟨⟨final, grimoire⟩, written, ok⟩ := (bind_ok _ _ _).mp ok
  obtain rfl := Except.ok.inj ok
  obtain ⟨fresh, rfl⟩ := (register_fresh _ _ _).mp registered
  refine ⟨aspect, by simp only [requestedAspect, made], fresh, final, grimoire, ?_, rfl⟩
  have ordinal : AspectRegistry.dimensionality
      { registered := process.registry.registered ++ [aspect], basisVersion := process.registry.basisVersion + 1 } - 1 =
        6 + process.registry.registered.length := by
    simp [AspectRegistry.dimensionality, AspectRegistry.fullOrder, aspectCanonicalOrder]
    omega
  rw [← ordinal]
  exact written

def requestedRows (env : RegistryEnv) (order : SetOrder) (calls : List RegistryCall) : List RegisteredSigilRow :=
  calls.filterMap (requestedRow env order)

def knownAfter (stored : Grimoire) (calls : List RegistryCall) : AspectRegistry where
  registered := (queryRegisteredAspects stored).map RegisteredAspectRow.aspect ++ calls.filterMap requestedAspect

def storedAfter (stored : Grimoire) (rows : List RegisteredSigilRow) : Grimoire :=
  { stored with registeredSigils := rows.foldl Table.put stored.registeredSigils }

def liveSlots (registry : AspectRegistry) (stored : Grimoire) (rows : List RegisteredSigilRow) : List SigilSlot :=
  (queryRegisteredSigils stored).map (replaySlot registry) ++ rows.map (liveSlot registry)

-- What holds of a process on a store after calls none of which raised.
structure Registered (env : RegistryEnv) (order : SetOrder) (stored : Grimoire) (calls : List RegistryCall)
    (process : VermythProcess) : Prop where
  names : process.registry.names = (knownAfter stored calls).names
  registered : process.registry.registered =
    (queryRegisteredAspects process.grimoire).map RegisteredAspectRow.aspect
  basis : process.registry.basisVersion = latestVersion process.grimoire
  ordinals : Ordinals process.grimoire
  distinct : process.registry.Distinct
  valid : ∀ row ∈ stored.registeredSigils.rows ++ requestedRows env order calls, RowValid process.registry row
  sigils : process.grimoire.registeredSigils = (storedAfter stored (requestedRows env order calls)).registeredSigils
  engine : process.engine =
    { env.base with
      table := (liveSlots process.registry stored (requestedRows env order calls)).foldl Table.upsert env.base.table }

theorem mem_query_sigils (stored : Grimoire) (row : RegisteredSigilRow) :
    row ∈ queryRegisteredSigils stored ↔ row ∈ stored.registeredSigils.rows :=
  (List.perm_insertionSort _ _).mem_iff

theorem registered_start (env : RegistryEnv) (order : SetOrder) (stored : Grimoire) (ordinals : Ordinals stored)
    (start : VermythProcess) (built : buildTools env order stored = .ok start) :
    Registered env order stored [] start := by
  rw [buildTools, bind_ok] at built
  obtain ⟨registry, registered, built⟩ := built
  obtain ⟨engine, replayed, built⟩ := (bind_ok _ _ _).mp built
  obtain rfl := Except.ok.inj built
  obtain ⟨all, distinct⟩ := register_rows_ok _ _ _ registered
  obtain ⟨valid, -, rfl⟩ := (replay_sigils_ok _ _ _ _ _).mp replayed
  have same : registry.registered = (queryRegisteredAspects stored).map RegisteredAspectRow.aspect := all
  exact
    { names := by
        rw [registry_names, registry_names, AspectRegistry.setBasisVersion, knownAfter, same, List.filterMap_nil,
          List.append_nil]
      registered := same
      basis := rfl
      ordinals := ordinals
      distinct := distinct canonical_names_distinct
      valid := by
        intro row member
        rw [requestedRows, List.filterMap_nil, List.append_nil] at member
        exact valid row ((mem_query_sigils stored row).mpr member)
      sigils := rfl
      engine := by
        rw [liveSlots, requestedRows, List.filterMap_nil, List.map_nil, List.append_nil] }

theorem slots_extend (registry after : AspectRegistry) (later : List String)
    (names : after.names = registry.names ++ later) (distinct : after.Distinct) (stored : Grimoire)
    (rows : List RegisteredSigilRow) (valid : ∀ row ∈ stored.registeredSigils.rows ++ rows, RowValid registry row) :
    liveSlots after stored rows = liveSlots registry stored rows := by
  have sameKey : ∀ row, RowValid registry row → rowKey after row = rowKey registry row := fun row known =>
    canonical_key_extend registry after later names distinct row.aspects known.known
  rw [List.forall_mem_append] at valid
  rw [liveSlots, liveSlots]
  congr 1
  · refine List.map_congr_left fun row member => ?_
    rw [replaySlot, replaySlot, sameKey row (valid.1 row ((mem_query_sigils stored row).mp member))]
  · refine List.map_congr_left fun row member => ?_
    rw [liveSlot, liveSlot, sameKey row (valid.2 row member)]

section Step

variable {env : RegistryEnv} {order : SetOrder} {stored : Grimoire} {calls : List RegistryCall}
variable {process after : VermythProcess}

theorem requested_concat (call : RegistryCall) :
    requestedRows env order (calls ++ [call]) =
      requestedRows env order calls ++ (requestedRow env order call).toList := by
  rw [requestedRows, requestedRows, List.filterMap_append, List.filterMap_cons, List.filterMap_nil]
  cases requestedRow env order call <;> rfl

theorem known_after_concat (call : RegistryCall) :
    (knownAfter stored (calls ++ [call])).names =
      (knownAfter stored calls).names ++ (requestedAspect call).toList.map RegisteredAspect.name := by
  rw [registry_names, registry_names, knownAfter, knownAfter, List.filterMap_append, List.filterMap_cons,
    List.filterMap_nil]
  cases requestedAspect call <;> simp

theorem registered_sigil (holds : Registered env order stored calls process) (payload : List (String × Json))
    (now : Datetime) (ok : toolRegisterSigil env order payload now process = .ok after) :
    Registered env order stored (calls ++ [.sigil payload now]) after := by
  obtain ⟨row, requested, valid, -, rfl⟩ := register_sigil_ok env order payload now process after ok
  have rows : requestedRows env order (calls ++ [.sigil payload now]) = requestedRows env order calls ++ [row] := by
    rw [requested_concat, requested]
    rfl
  exact
    { names := by
        rw [known_after_concat, holds.names]
        exact (List.append_nil _).symm
      registered := holds.registered
      basis := holds.basis
      ordinals := holds.ordinals
      distinct := holds.distinct
      valid := by
        rw [rows, ← List.append_assoc, List.forall_mem_append]
        exact ⟨holds.valid, by simpa using valid⟩
      sigils := by
        rw [rows, storedAfter, List.foldl_append, writeRegisteredSigil, holds.sigils]
        rfl
      engine := by
        rw [rows, liveSlots, List.map_append, ← List.append_assoc, List.foldl_append, holds.engine]
        rfl }

theorem registered_aspect (holds : Registered env order stored calls process) (aspectId : String) (polarity : Int)
    (entropyCoefficient : ℚ) (symbol : String)
    (ok : toolRegisterAspect aspectId polarity entropyCoefficient symbol process = .ok after) :
    Registered env order stored (calls ++ [.aspect aspectId polarity entropyCoefficient symbol]) after := by
  obtain ⟨aspect, requested, fresh, registry, grimoire, written, rfl⟩ :=
    register_aspect_ok aspectId polarity entropyCoefficient symbol process after ok
  have taken : ¬ process.grimoire.registeredAspects.Has aspect.name := by
    intro has
    rw [write_registered_aspect_taken _ _ _ _ has] at written
    cases written
  rw [write_registered_aspect_fresh _ _ _ _ taken] at written
  obtain ⟨rfl, rfl⟩ := Prod.mk.inj (Except.ok.inj written)
  have count : process.registry.registered.length = process.grimoire.registeredAspects.rows.length := by
    rw [holds.registered, List.length_map, queryRegisteredAspects, List.length_insertionSort]
  have names : (process.registry.registered ++ [aspect]).map RegisteredAspect.name =
      process.registry.registered.map RegisteredAspect.name ++ [aspect.name] := by
    rw [List.map_append, List.map_singleton]
  have rows : requestedRows env order (calls ++ [.aspect aspectId polarity entropyCoefficient symbol]) =
      requestedRows env order calls := by
    rw [requested_concat]
    exact List.append_nil _
  have extended : AspectRegistry.names
      { registered := process.registry.registered ++ [aspect],
        basisVersion := latestVersion process.grimoire + 1 } = process.registry.names ++ [aspect.name] := by
    rw [registry_names, registry_names, names, List.append_assoc]
  have distinct : AspectRegistry.Distinct
      { registered := process.registry.registered ++ [aspect],
        basisVersion := latestVersion process.grimoire + 1 } := by
    rw [AspectRegistry.Distinct, extended, ← List.concat_eq_append]
    exact holds.distinct.concat fresh
  exact
    { names := by
        rw [known_after_concat, requested, ← holds.names]
        exact extended
      registered := by
        have sorted := query_aspects_append process.grimoire holds.ordinals
          { aspect := aspect, ordinal := 6 + process.registry.registered.length } taken (by rw [count])
        rw [queryRegisteredAspects] at sorted ⊢
        rw [sorted, List.map_append, ← holds.registered]
        rfl
      basis := (latest_version_put process.grimoire _ (nextBasisRow _ _ process.grimoire) rfl rfl).symm
      ordinals := ordinals_append process.grimoire holds.ordinals
        { aspect := aspect, ordinal := 6 + process.registry.registered.length } taken (by rw [count])
      distinct := distinct
      valid := by
        rw [rows]
        intro row member
        exact row_valid_extend _ _ [aspect.name] extended row (holds.valid row member)
      sigils := by
        rw [rows]
        exact holds.sigils
      engine := by
        rw [rows, holds.engine,
          ← slots_extend process.registry _ [aspect.name] extended distinct stored _ holds.valid]
        rfl }

theorem registered_calls (ordinals : Ordinals stored) (start : VermythProcess)
    (built : buildTools env order stored = .ok start) (ok : registryCalls env order calls start = .ok after) :
    Registered env order stored calls after := by
  induction calls using List.reverseRecOn generalizing after with
  | nil =>
      obtain rfl := Except.ok.inj ok
      exact registered_start env order stored ordinals start built
  | append_singleton calls last ih =>
      rw [registryCalls, List.foldlM_append, bind_ok] at ok
      obtain ⟨before, earlier, ok⟩ := ok
      rw [List.foldlM_cons, bind_ok] at ok
      obtain ⟨final, called, same⟩ := ok
      obtain rfl := Except.ok.inj same
      have holds := ih earlier
      cases last with
      | aspect aspectId polarity entropyCoefficient symbol =>
          exact registered_aspect holds aspectId polarity entropyCoefficient symbol called
      | sigil payload now => exact registered_sigil holds payload now called

end Step

def entryAt (base : CompositionEngine) (slots : List SigilSlot) (key : String) : Option SigilEntry :=
  ((slots.reverse.find? fun slot => slot.key = key).or (base.table.find? key)).map SigilSlot.entry

theorem entry_at_table (base : CompositionEngine) (slots : List SigilSlot) (key : String) :
    CompositionEngine.entry? { base with table := slots.foldl Table.upsert base.table } key =
      entryAt base slots key := by
  rw [CompositionEngine.entry?, Table.find_upserts, entryAt]

theorem entry_at_slot (base : CompositionEngine) (slots : List SigilSlot) (slot : SigilSlot) (member : slot ∈ slots) :
    ∃ last ∈ slots, last.key = slot.key ∧ entryAt base slots slot.key = some last.entry := by
  cases found : slots.reverse.find? fun other => other.key = slot.key with
  | none =>
      rw [List.find?_eq_none] at found
      exact absurd (decide_eq_true rfl) (found slot (List.mem_reverse.mpr member))
  | some last =>
      have named : last.key = slot.key := by simpa using List.find?_some found
      refine ⟨last, List.mem_reverse.mp (List.mem_of_find?_eq_some found), named, ?_⟩
      rw [entryAt, found]
      rfl

theorem entry_at_base (base : CompositionEngine) (slots : List SigilSlot) (key : String)
    (absent : ∀ slot ∈ slots, slot.key ≠ key) :
    entryAt base slots key = (base.table.find? key).map SigilSlot.entry := by
  have none : slots.reverse.find? (fun slot => slot.key = key) = none := by
    rw [List.find?_eq_none]
    intro slot member same
    exact absent slot (List.mem_reverse.mp member) (of_decide_eq_true same)
  rw [entryAt, none, Option.none_or]

def replaySlots (registry : AspectRegistry) (stored : Grimoire) (rows : List RegisteredSigilRow) : List SigilSlot :=
  (queryRegisteredSigils (storedAfter stored rows)).map (replaySlot registry)

def SameReport (base : CompositionEngine) (live fresh : List SigilSlot) (key : String) : Prop :=
  (entryAt base live key).map (SigilEntry.report base.contradictions key) =
    (entryAt base fresh key).map (SigilEntry.report base.contradictions key)

instance (base : CompositionEngine) (live fresh : List SigilSlot) (key : String) :
    Decidable (SameReport base live fresh key) := inferInstanceAs (Decidable (_ = _))

-- The requests a restart gives back: the rows they leave are replayed without
-- a refusal, and the last one replayed under a key reports what the last one
-- registered under it did.
structure Replays (env : RegistryEnv) (order : SetOrder) (stored : Grimoire) (calls : List RegistryCall) : Prop where
  admissible : Admissible env.base (knownAfter stored calls)
    (queryRegisteredSigils (storedAfter stored (requestedRows env order calls)))
  agrees : ∀ row ∈ stored.registeredSigils.rows ++ requestedRows env order calls,
    SameReport env.base (liveSlots (knownAfter stored calls) stored (requestedRows env order calls))
      (replaySlots (knownAfter stored calls) stored (requestedRows env order calls))
        (rowKey (knownAfter stored calls) row)

instance (env : RegistryEnv) (order : SetOrder) (stored : Grimoire) (calls : List RegistryCall) :
    Decidable (Replays env order stored calls) :=
  decidable_of_iff (_ ∧ _) ⟨fun both => ⟨both.1, both.2⟩, fun replays => ⟨replays.admissible, replays.agrees⟩⟩

def SameSet (registry : AspectRegistry) (a b : AspectSet) : Prop :=
  a = b ∨ (a.members = b.members ∧ ∀ name ∈ a.names, name ∈ registry.names)

structure SameProcess (order freshOrder : SetOrder) (live fresh : VermythProcess) : Prop where
  sameOrder : fresh.registry.fullOrder = live.registry.fullOrder
  basis : fresh.registry.basisVersion = live.registry.basisVersion
  compose : ∀ aspects again, SameSet live.registry aspects again →
    (fresh.engine.compose fresh.registry freshOrder again).map ResolvedSigil.report =
      (live.engine.compose live.registry order aspects).map ResolvedSigil.report

def Restarts (env : RegistryEnv) (order freshOrder : SetOrder) (live : VermythProcess) : Prop :=
  ∃ fresh, buildTools env freshOrder live.grimoire = .ok fresh ∧ SameProcess order freshOrder live fresh

section Restart

variable {env : RegistryEnv} {order : SetOrder} {stored : Grimoire} {calls : List RegistryCall}
variable {live : VermythProcess}

theorem query_stored_after (holds : Registered env order stored calls live) :
    queryRegisteredSigils live.grimoire =
      queryRegisteredSigils (storedAfter stored (requestedRows env order calls)) := by
  rw [queryRegisteredSigils, holds.sigils, queryRegisteredSigils]

theorem replayed_row (rows : List RegisteredSigilRow) (row : RegisteredSigilRow)
    (member : row ∈ queryRegisteredSigils (storedAfter stored rows)) : row ∈ stored.registeredSigils.rows ++ rows := by
  rw [mem_query_sigils] at member
  exact List.mem_append.mpr (Table.mem_puts rows stored.registeredSigils row member)

theorem fresh_registry (holds : Registered env order stored calls live) :
    ∃ registry, (queryRegisteredAspects live.grimoire).foldlM
      (fun registry row => registry.register row.aspect) ({} : AspectRegistry) = .ok registry ∧
        registry.setBasisVersion (latestVersion live.grimoire) = live.registry := by
  have distinct : (AspectRegistry.names {} ++
      (queryRegisteredAspects live.grimoire).map RegisteredAspectRow.name).Nodup := by
    have known := holds.distinct
    rw [AspectRegistry.Distinct, registry_names, holds.registered, List.map_map] at known
    rw [registry_names, List.map_nil, List.append_nil]
    exact known
  obtain ⟨registry, registered⟩ := register_rows_distinct _ _ distinct
  refine ⟨registry, registered, ?_⟩
  obtain ⟨all, -⟩ := register_rows_ok _ _ _ registered
  have same : registry.registered = live.registry.registered := by
    rw [all, holds.registered]
    rfl
  rw [AspectRegistry.setBasisVersion, same, ← holds.basis]

theorem fresh_built (holds : Registered env order stored calls live) (freshOrder : SetOrder) (fresh : VermythProcess) :
    buildTools env freshOrder live.grimoire = .ok fresh ↔
      Admissible env.base live.registry
        (queryRegisteredSigils (storedAfter stored (requestedRows env order calls))) ∧
        fresh =
          { registry := live.registry
            engine := { env.base with
              table := (replaySlots live.registry stored (requestedRows env order calls)).foldl Table.upsert
                env.base.table }
            grimoire := live.grimoire } := by
  obtain ⟨registry, registered, same⟩ := fresh_registry holds
  have valid : ∀ row ∈ queryRegisteredSigils (storedAfter stored (requestedRows env order calls)),
      RowValid live.registry row := fun row member => holds.valid row (replayed_row _ row member)
  rw [buildTools, registered, bind_ok]
  constructor
  · rintro ⟨own, isOwn, built⟩
    obtain rfl := Except.ok.inj isOwn
    rw [same] at built
    obtain ⟨engine, replayed, built⟩ := (bind_ok _ _ _).mp built
    obtain rfl := Except.ok.inj built
    rw [query_stored_after holds, replay_sigils_ok] at replayed
    obtain ⟨-, admissible, rfl⟩ := replayed
    exact ⟨admissible, rfl⟩
  · rintro ⟨admissible, rfl⟩
    refine ⟨registry, rfl, ?_⟩
    rw [same]
    refine (bind_ok _ _ _).mpr ⟨_, ?_, rfl⟩
    rw [query_stored_after holds, replay_sigils_ok]
    exact ⟨valid, admissible, rfl⟩

theorem same_set_key (registry : AspectRegistry) (a b : AspectSet) (same : SameSet registry a b) :
    a.names.length = b.names.length ∧ canonicalAspectKey registry a = canonicalAspectKey registry b := by
  obtain rfl | ⟨members, known⟩ := same
  · exact ⟨rfl, rfl⟩
  · exact ⟨((members_eq a b).mp members).length_eq, canonical_key_members registry a b members known⟩

theorem live_slot_row (registry : AspectRegistry) (rows : List RegisteredSigilRow) (slot : SigilSlot)
    (member : slot ∈ liveSlots registry stored rows) :
    ∃ row ∈ stored.registeredSigils.rows ++ rows, slot.key = rowKey registry row ∧
      slot.entry.resonanceCeiling = row.resonanceCeiling := by
  obtain replayed | requested := List.mem_append.mp member
  · obtain ⟨row, inStore, rfl⟩ := List.mem_map.mp replayed
    exact ⟨row, List.mem_append_left _ ((mem_query_sigils stored row).mp inStore), rfl, rfl⟩
  · obtain ⟨row, inRows, rfl⟩ := List.mem_map.mp requested
    exact ⟨row, List.mem_append_right _ inRows, rfl, rfl⟩

theorem row_live_slot (registry : AspectRegistry) (rows : List RegisteredSigilRow) (row : RegisteredSigilRow)
    (member : row ∈ stored.registeredSigils.rows ++ rows) :
    ∃ slot ∈ liveSlots registry stored rows, slot.key = rowKey registry row := by
  obtain inStore | requested := List.mem_append.mp member
  · exact ⟨replaySlot registry row,
      List.mem_append_left _ (List.mem_map_of_mem ((mem_query_sigils stored row).mpr inStore)), rfl⟩
  · exact ⟨liveSlot registry row, List.mem_append_right _ (List.mem_map_of_mem requested), rfl⟩

theorem untouched_key (base : CompositionEngine) (registry : AspectRegistry) (rows : List RegisteredSigilRow)
    (key : String) (absent : ∀ row ∈ stored.registeredSigils.rows ++ rows, rowKey registry row ≠ key) :
    entryAt base (liveSlots registry stored rows) key = entryAt base (replaySlots registry stored rows) key := by
  rw [entry_at_base, entry_at_base]
  · intro slot member
    obtain ⟨row, replayed, rfl⟩ := List.mem_map.mp member
    exact absent row (replayed_row rows row replayed)
  · intro slot member
    obtain ⟨row, known, same, -⟩ := live_slot_row registry rows slot member
    rw [same]
    exact absent row known

theorem composes_iff (holds : Registered env order stored calls live) (freshOrder : SetOrder) :
    (∀ aspects again, SameSet live.registry aspects again →
      (CompositionEngine.compose
        { env.base with
          table := (replaySlots live.registry stored (requestedRows env order calls)).foldl Table.upsert
            env.base.table } live.registry freshOrder again).map ResolvedSigil.report =
        (live.engine.compose live.registry order aspects).map ResolvedSigil.report) ↔
      ∀ row ∈ stored.registeredSigils.rows ++ requestedRows env order calls,
        SameReport env.base (liveSlots live.registry stored (requestedRows env order calls))
          (replaySlots live.registry stored (requestedRows env order calls)) (rowKey live.registry row) := by
  constructor
  · intro same row member
    have sized := (holds.valid row member).sized
    have here := same row.aspects row.aspects (Or.inl rfl)
    rw [compose_report _ _ _ _ sized, compose_report _ _ _ _ sized, holds.engine, entry_at_table,
      entry_at_table] at here
    obtain ⟨slot, inLive, key⟩ := row_live_slot live.registry (requestedRows env order calls) row member
    obtain ⟨last, lastLive, lastKey, found⟩ := entry_at_slot env.base _ slot inLive
    rw [key] at found
    refine resolve_entry_eq env.base.contradictions _ _ _ ?_ ?_ here.symm
    · intro raw isLast
      obtain rfl := Option.some.inj (found.symm.trans isLast)
      obtain ⟨own, ownMember, -, ceiling⟩ := live_slot_row live.registry _ last lastLive
      rw [ceiling]
      exact (holds.valid own ownMember).ceiling
    · exact fun absent => Option.some_ne_none _ (found.symm.trans absent)
  · intro agrees aspects again same
    obtain ⟨length, key⟩ := same_set_key live.registry aspects again same
    by_cases sized : aspects.Sized
    · have sizedAgain : again.Sized := by
        rw [AspectSet.Sized, ← length]
        exact sized
      rw [compose_report _ _ _ _ sizedAgain, compose_report _ _ _ _ sized, holds.engine, entry_at_table,
        entry_at_table, ← key]
      refine (resolve_entry_report env.base.contradictions _ _ _ ?_).symm
      by_cases touched : ∃ row ∈ stored.registeredSigils.rows ++ requestedRows env order calls,
          rowKey live.registry row = canonicalAspectKey live.registry aspects
      · obtain ⟨row, member, sameKey⟩ := touched
        rw [← sameKey]
        exact agrees row member
      · rw [untouched_key env.base live.registry _ _ fun row member sameKey => touched ⟨row, member, sameKey⟩]
    · exact (compose_unsized _ _ _ _ _ _ _ length sized).symm

theorem row_key_known (holds : Registered env order stored calls live) :
    rowKey live.registry = rowKey (knownAfter stored calls) := by
  funext row
  rw [rowKey, rowKey, canonical_key_names _ _ holds.names]

theorem admissible_keys (base : CompositionEngine) (registry known : AspectRegistry) (rows : List RegisteredSigilRow)
    (same : rowKey registry = rowKey known) : Admissible base registry rows ↔ Admissible base known rows := by
  constructor
  · rintro ⟨new, ordered⟩
    rw [same] at new ordered
    exact ⟨new, ordered⟩
  · rintro ⟨new, ordered⟩
    rw [← same] at new ordered
    exact ⟨new, ordered⟩

theorem slots_keys (stored : Grimoire) (registry known : AspectRegistry) (rows : List RegisteredSigilRow)
    (same : rowKey registry = rowKey known) :
    liveSlots registry stored rows = liveSlots known stored rows ∧
      replaySlots registry stored rows = replaySlots known stored rows := by
  have replay : replaySlot registry = replaySlot known := by
    funext row
    rw [replaySlot, replaySlot, same]
  have live : liveSlot registry = liveSlot known := by
    funext row
    rw [liveSlot, liveSlot, same]
  exact ⟨by rw [liveSlots, liveSlots, replay, live], by rw [replaySlots, replaySlots, replay]⟩

theorem restarts_replays (holds : Registered env order stored calls live) (freshOrder : SetOrder)
    (restarts : Restarts env order freshOrder live) : Replays env order stored calls := by
  have keys := row_key_known holds
  obtain ⟨liveSame, replaySame⟩ := slots_keys stored live.registry (knownAfter stored calls)
    (requestedRows env order calls) keys
  obtain ⟨fresh, rebuilt, same⟩ := restarts
  obtain ⟨admissible, rfl⟩ := (fresh_built holds freshOrder fresh).mp rebuilt
  have agrees := (composes_iff holds freshOrder).mp same.compose
  rw [liveSame, replaySame, keys] at agrees
  exact ⟨(admissible_keys env.base live.registry _ _ keys).mp admissible, agrees⟩

theorem replays_restarts (holds : Registered env order stored calls live) (freshOrder : SetOrder)
    (replays : Replays env order stored calls) : Restarts env order freshOrder live := by
  have keys := row_key_known holds
  obtain ⟨liveSame, replaySame⟩ := slots_keys stored live.registry (knownAfter stored calls)
    (requestedRows env order calls) keys
  obtain ⟨admissible, agrees⟩ := replays
  have admits := (admissible_keys env.base live.registry _ _ keys).mpr admissible
  rw [← liveSame, ← replaySame, ← keys] at agrees
  exact ⟨_, (fresh_built holds freshOrder _).mpr ⟨admits, rfl⟩, rfl, rfl, (composes_iff holds freshOrder).mpr agrees⟩

end Restart

theorem registration_restarts_iff (env : RegistryEnv) (order freshOrder : SetOrder) (stored : Grimoire)
    (ordinals : Ordinals stored) (calls : List RegistryCall) (start live : VermythProcess)
    (built : buildTools env order stored = .ok start) (called : registryCalls env order calls start = .ok live) :
    Restarts env order freshOrder live ↔ Replays env order stored calls := by
  have holds := registered_calls ordinals start built called
  exact ⟨restarts_replays holds freshOrder, replays_restarts holds freshOrder⟩

theorem ordinals_new : Ordinals {} := by
  intro row member
  exact absurd member List.not_mem_nil

theorem ordinals_calls (env : RegistryEnv) (order : SetOrder) (stored : Grimoire) (ordinals : Ordinals stored)
    (calls : List RegistryCall) (start live : VermythProcess) (built : buildTools env order stored = .ok start)
    (called : registryCalls env order calls start = .ok live) : Ordinals live.grimoire :=
  (registered_calls ordinals start built called).ordinals

def sampleRegistryEnv : RegistryEnv where
  base :=
    { table :=
        { rows := [{ key := "VOID", entry := { name := "Nullform", effectClass := .erasure,
                                               resonanceCeiling := 71 / 100,
                                               contradictionSeverity := some .none } }]
          distinct := by simp }
      contradictions := [("VOID+FORM", .soft)] }
  pyStr := Json.typeName
  pyFloat := fun value => match value.number? with
    | some number => .ok number
    | none => .error (.typeError "float")

def tide : RegistryCall := .aspect "TIDE" 1 (1 / 2) "T"

def sigilRequest (name : String) (aspects : List String) (severity : String) (allowOverride : Bool) : RegistryCall :=
  .sigil [("name", .str name), ("aspects", .arr (aspects.map Json.str)), ("effect_class", .str "FORCE"),
    ("contradiction_severity", .str severity), ("allow_override", .bool allowOverride)] sampleTime

def undertow (severity : String) : List RegistryCall := [tide, sigilRequest "Undertow" ["LIGHT", "TIDE"] severity false]

theorem registration_restarts_iff_none :
    ∃ start live, buildTools sampleRegistryEnv listOrder {} = .ok start ∧
      registryCalls sampleRegistryEnv listOrder (undertow "NONE" ++ [sigilRequest "Abyss" ["VOID"] "NONE" true])
        start = .ok live ∧ Restarts sampleRegistryEnv listOrder listOrder live := by
  obtain ⟨live, called⟩ := is_ok (registryCalls sampleRegistryEnv listOrder
    (undertow "NONE" ++ [sigilRequest "Abyss" ["VOID"] "NONE" true])
      { registry := {}, engine := sampleRegistryEnv.base, grimoire := {} }) (by decide +kernel)
  exact ⟨_, live, rfl, called, (registration_restarts_iff sampleRegistryEnv listOrder listOrder {} (by decide) _ _ live
    rfl called).mpr (by decide +kernel)⟩

-- A sigil on a new combination is registered as a contradiction: the process
-- composes it with no severity, and the next one with the stored severity.
theorem severity_lost_until_restart :
    ¬ ∀ (env : RegistryEnv) (order freshOrder : SetOrder) (stored : Grimoire) (calls : List RegistryCall)
      (start live : VermythProcess), Ordinals stored → buildTools env order stored = .ok start →
        registryCalls env order calls start = .ok live → Restarts env order freshOrder live := by
  intro survives
  obtain ⟨live, called⟩ := is_ok (registryCalls sampleRegistryEnv listOrder (undertow "HARD")
    { registry := {}, engine := sampleRegistryEnv.base, grimoire := {} }) (by decide +kernel)
  have holds := registered_calls ordinals_new _ rfl called
  have replays := restarts_replays holds listOrder
    (survives sampleRegistryEnv listOrder listOrder {} _ _ live ordinals_new rfl called)
  exact absurd replays (by decide +kernel)

end Vermyth
