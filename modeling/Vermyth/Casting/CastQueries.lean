import Vermyth.Casting.CastRoundTrip
import Vermyth.Casting.SemanticSearch
import Vermyth.Foundation.Latest
import Vermyth.Foundation.Memo
import Vermyth.Schema.DatetimeOrder

set_option autoImplicit false

namespace Vermyth

open Foundation

-- schema.SemanticQuery, with the filters of a query.
structure CastFilters extends SemanticQuery where
  aspectFilter : Option AspectSet := none
  verdictFilter : Option VerdictType := none
  minResonance : Option ℚ := none
  effectClassFilter : Option EffectClass := none
  branchId : Option String := none

def CastFilters.make (filters : CastFilters) (limit : Int) : Except PyError CastFilters :=
  if ¬ filters.minResonance.all (fun least => 0 ≤ least ∧ least ≤ 1) then
    .error (invalid "SemanticQuery" "min_resonance")
  else do
    let query ← SemanticQuery.make filters.proximityTo filters.proximityThreshold limit
    return { filters with toSemanticQuery := query }

-- A process on a store, with what functools.cache keeps of canonical_aspect_key.
-- Python compares frozensets by their members.
structure QueryProcess where
  store : CastStore
  keys : Memo (Finset String) String := []

namespace QueryProcess

variable (codec : CastCodec) (order : SetOrder) (drawn : String) (process : QueryProcess)

def aspectKey (aspects : AspectSet) : String × Memo (Finset String) String :=
  memoize AspectSet.members (canonicalAspectKey process.store.registry) process.keys aspects

def write (result : WholeCast) : Except PyError Unit × QueryProcess :=
  if process.store.casts.Has result.castId then
    (.error (.valueError ("CastResult with cast_id '" ++ result.castId ++ "' already exists")), process)
  else
    let (key, keys) := process.aspectKey result.sigil.aspects
    let row := { codec.serializeCastResult process.store.registry result with aspectPatternKey := key }
    match sqlInteger result.sigil.semanticVector.normalizedBasisVersion with
    | .error raised => (.error raised, { process with keys := keys })
    | .ok _ => (.ok (), { store := { process.store with casts := process.store.casts.put row }, keys := keys })

-- The WHERE of a query, where the key of the aspects is bound to a parameter.
def rowMatches (filters : CastFilters) (key : Option String) (row : CastRow) : Bool :=
  (filters.verdictFilter.all fun own => row.verdictType = own.value) &&
    (filters.effectClassFilter.all fun own => row.effectClass = own.name) &&
    (filters.minResonance.all fun least => least ≤ row.adjustedResonance) &&
    (filters.branchId.all fun own => row.branchId = some own) &&
    key.all fun own => row.aspectPatternKey = own

def rowStamp (row : CastRow) : String := String.ofList row.timestamp

-- ORDER BY timestamp DESC LIMIT <limit>
def select (filters : CastFilters) (key : Option String) (table : CastTable) : List CastRow :=
  ((table.rows.filter (rowMatches filters key)).insertionSort fun a b => rowStamp b ≤ rowStamp a).take filters.limit

def query (filters : CastFilters) : Except PyError (List WholeCast) × QueryProcess :=
  match filters.aspectFilter with
  | none => ((select filters none process.store.casts).mapM
      (codec.deserializeCastResult process.store.registry order drawn), process)
  | some aspects =>
      let (key, keys) := process.aspectKey aspects
      ((select filters (some key) process.store.casts).mapM
        (codec.deserializeCastResult process.store.registry order drawn), { process with keys := keys })

-- A filter that is missing or null is none.
def given (filters : List (String × Json)) (key : String) : Option Json :=
  match filters.lookup key with
  | some .null => none
  | value => value

def toolFilters (filters : List (String × Json)) : Except PyError CastFilters := do
  let verdictFilter ← (given filters "verdict_filter").mapM (enumNamed VerdictType.all VerdictType.value)
  let minResonance ← (given filters "min_resonance").mapM codec.pyFloat
  let branchId := (given filters "branch_id").map codec.pyStr
  let limit ← (given filters "limit").elim (.ok 20) pyInt
  CastFilters.make { verdictFilter, minResonance, branchId } limit

-- A ValueError goes on as it is, and so does what pydantic refuses.
def queryFailed {α : Type} : Except PyError α → Except PyError α
  | .error (.valueError text) => .error (.valueError text)
  | .error raised => .error (.runtimeError ("query failed: " ++ raised.text))
  | .ok value => .ok value

def toolQuery (filters : List (String × Json)) : Except PyError (List WholeCast) × QueryProcess :=
  match toolFilters codec filters with
  | .error raised => (queryFailed (.error raised), process)
  | .ok own => (queryFailed (process.query codec order drawn own).1, (process.query codec order drawn own).2)

end QueryProcess

-- A process that is started again has an empty cache, and registers the aspects
-- of the store in their order.
inductive QueryCall where
  | register (aspect : RegisteredAspect)
  | write (result : WholeCast)
  | delete (castId : String)
  | query (filters : CastFilters)
  | restart (version : Nat)

def QueryProcess.take (codec : CastCodec) (order : SetOrder) (drawn : String) (process : QueryProcess) :
    QueryCall → QueryProcess
  | .register aspect =>
      { process with store := { process.store with
          registry := (process.store.registry.register aspect).toOption.getD process.store.registry } }
  | .write result => (process.write codec result).2
  | .delete castId =>
      { process with store := { process.store with
          casts := (deleteCast castId process.store.casts).toOption.getD process.store.casts } }
  | .query filters => (process.query codec order drawn filters).2
  | .restart version =>
      { store := { process.store with registry := process.store.registry.setBasisVersion version } }

def archive (casts : List WholeCast) : QueryCall → List WholeCast
  | .write result =>
      if result.castId ∈ casts.map WholeCast.castId ∨
          9223372036854775807 < result.sigil.semanticVector.normalizedBasisVersion then casts
      else casts ++ [result]
  | .delete castId => casts.filter fun cast => cast.castId ≠ castId
  | .register _ => casts
  | .query _ => casts
  | .restart _ => casts

def CastFilters.wants (filters : CastFilters) (cast : WholeCast) : Bool :=
  (filters.verdictFilter.all fun own => cast.verdict.verdictType = own) &&
    (filters.effectClassFilter.all fun own => cast.sigil.effectClass = own) &&
    (filters.minResonance.all fun least => least ≤ cast.verdict.resonance.adjusted) &&
    (filters.branchId.all fun own => cast.lineage.map Lineage.branchId = some own) &&
    filters.aspectFilter.all fun own => cast.sigil.aspects.members = own.members

def QueryCall.Known (registry : AspectRegistry) : QueryCall → Prop
  | .write result => ∀ name ∈ result.sigil.aspects.names, name ∈ registry.names
  | .query filters => ∀ aspects ∈ filters.aspectFilter, ∀ name ∈ aspects.names, name ∈ registry.names
  | .register _ => True
  | .delete _ => True
  | .restart _ => True

def castStamp (cast : WholeCast) : String := String.ofList cast.timestamp.isoformat

def CastFilters.newest (filters : CastFilters) (casts : List WholeCast) : List WholeCast :=
  ((casts.filter filters.wants).insertionSort fun a b => castStamp b ≤ castStamp a).take filters.limit

structure AnswersQuery (registry : AspectRegistry) (casts : List WholeCast) (filters : CastFilters)
    (results : List WholeCast) : Prop where
  distinct : (results.map WholeCast.castId).Nodup
  found : ∀ result ∈ results, ∃ cast ∈ casts, filters.wants cast = true ∧ cast.ReadsAs registry result
  count : results.length = min filters.limit (casts.filter filters.wants).length
  newestFirst : results.Pairwise fun a b => castStamp b ≤ castStamp a
  newest : ∀ cast ∈ casts, filters.wants cast = true → cast.castId ∉ results.map WholeCast.castId →
    ∀ result ∈ results, castStamp cast ≤ castStamp result
  later : ∀ cast ∈ casts, filters.wants cast = true → cast.castId ∉ results.map WholeCast.castId →
    ∀ result ∈ results, cast.timestamp.offset = some 0 → result.timestamp.offset = some 0 →
      cast.timestamp.instant ≤ result.timestamp.instant


theorem plus_injective (names others : List String) (plain : ∀ name ∈ names, '+' ∉ name.toList ∧ name ≠ "")
    (plainToo : ∀ name ∈ others, '+' ∉ name.toList ∧ name ≠ "")
    (same : "+".intercalate names = "+".intercalate others) :
    names = others := by
  have split : ∀ own : List String, (∀ name ∈ own, '+' ∉ name.toList ∧ name ≠ "") → own ≠ [] →
      ("+".intercalate own).toList.splitOn '+' = own.map String.toList := by
    intro own each some
    rw [String.toList_intercalate]
    refine List.splitOn_intercalate '+' ?_ (by simpa using some)
    intro text member
    obtain ⟨name, isName, rfl⟩ := List.mem_map.mp member
    exact (each name isName).1
  have alone : ∀ own : List String, (∀ name ∈ own, '+' ∉ name.toList ∧ name ≠ "") →
      "+".intercalate own = "" → own = [] := by
    intro own each empty
    by_contra some
    have texts := split own each some
    rw [empty] at texts
    have texts : own.map String.toList = [[]] := texts.symm
    obtain ⟨name, rest, rfl⟩ := List.exists_cons_of_ne_nil some
    obtain ⟨blank, -⟩ := List.cons.inj texts
    exact (each name List.mem_cons_self).2 (String.toList_eq_nil_iff.mp blank)
  by_cases none : names = []
  · subst none
    exact (alone others plainToo (same.symm.trans String.intercalate_nil)).symm
  · by_cases noneToo : others = []
    · subst noneToo
      exact alone names plain (same.trans String.intercalate_nil)
    · have texts := split names plain none
      rw [same, split others plainToo noneToo] at texts
      exact (List.map_injective_iff.mpr (fun _ _ => String.toList_injective) texts).symm

theorem name_plain (registry : AspectRegistry) (name : String) (known : name ∈ registry.names) :
    '+' ∉ name.toList ∧ name ≠ "" := by
  rw [registry_names, List.mem_append] at known
  obtain canonical | registered := known
  · have each : ∀ own ∈ aspectCanonicalOrder.map AspectID.name, '+' ∉ own.toList ∧ own ≠ "" := by decide
    exact each name canonical
  · obtain ⟨aspect, -, rfl⟩ := List.mem_map.mp registered
    have valid := aspect.nameValid.1
    rw [aspectName] at valid
    cases text : aspect.name.toList with
    | nil =>
        rw [text] at valid
        contradiction
    | cons first rest =>
        rw [text] at valid
        obtain ⟨upper, others⟩ := Bool.and_eq_true_iff.mp valid
        refine ⟨?_, ?_⟩
        · intro plus
          obtain rfl | later := List.mem_cons.mp plus
          · contradiction
          · exact absurd (List.all_eq_true.mp others '+' later) (by decide)
        · intro empty
          rw [empty] at text
          contradiction

theorem aspect_key_injective (registry : AspectRegistry) (a b : AspectSet)
    (known : ∀ name ∈ a.names, name ∈ registry.names) (knownToo : ∀ name ∈ b.names, name ∈ registry.names) :
    canonicalAspectKey registry a = canonicalAspectKey registry b ↔ a.members = b.members := by
  constructor
  · intro same
    rw [canonical_key_known registry a known, canonical_key_known registry b knownToo] at same
    have names := plus_injective _ _ (fun name member => name_plain registry name (List.mem_of_mem_filter member))
      (fun name member => name_plain registry name (List.mem_of_mem_filter member)) same
    ext name
    rw [mem_members, mem_members]
    by_cases isKnown : name ∈ registry.names
    · have there : ∀ own : AspectSet,
          name ∈ (registry.names.filter fun other => other ∈ own.names) ↔ name ∈ own.names := by
        intro own
        rw [List.mem_filter, decide_eq_true_iff]
        exact and_iff_right isKnown
      rw [← there a, ← there b, names]
    · exact iff_of_false (fun member => isKnown (known name member)) fun member => isKnown (knownToo name member)
  · intro same
    exact canonical_key_members registry a b same known

theorem known_extend (registry after : AspectRegistry) (aspect : RegisteredAspect)
    (registered : registry.register aspect = .ok after) (distinct : registry.Distinct) :
    (∀ name ∈ registry.names, name ∈ after.names) ∧ ∀ aspects : AspectSet,
      (∀ name ∈ aspects.names, name ∈ registry.names) →
        canonicalAspectKey after aspects = canonicalAspectKey registry aspects := by
  have later := register_distinct registry after aspect distinct registered
  obtain ⟨-, rfl⟩ := (register_fresh registry after aspect).mp registered
  have names : AspectRegistry.names
      { registered := registry.registered ++ [aspect], basisVersion := registry.basisVersion + 1 } =
        registry.names ++ [aspect.name] := by
    simp only [registry_names, List.map_append, List.append_assoc, List.map_singleton]
  refine ⟨?_, fun aspects known => canonical_key_extend registry _ [aspect.name] names later aspects known⟩
  intro name member
  rw [names]
  exact List.mem_append_left _ member

structure QueryProcess.Holds (codec : CastCodec) (process : QueryProcess) (casts : List WholeCast) : Prop where
  distinct : process.store.registry.Distinct
  rows : process.store.casts.rows = casts.map (codec.serializeCastResult process.store.registry)
  known : ∀ cast ∈ casts, ∀ name ∈ cast.sigil.aspects.names, name ∈ process.store.registry.names
  keysKnown : ∀ entry ∈ process.keys, ∀ name ∈ entry.1, name ∈ process.store.registry.names
  keys : Current AspectSet.members (canonicalAspectKey process.store.registry) process.keys

theorem serialize_alike (codec : CastCodec) (registry after : AspectRegistry) (cast : WholeCast)
    (same : canonicalAspectKey after cast.sigil.aspects = canonicalAspectKey registry cast.sigil.aspects) :
    codec.serializeCastResult after cast = codec.serializeCastResult registry cast := by
  rw [CastCodec.serializeCastResult, CastCodec.serializeCastResult, same]

namespace QueryProcess

variable {codec : CastCodec} {process : QueryProcess} {casts : List WholeCast}

theorem aspect_key_holds (holds : process.Holds codec casts) (aspects : AspectSet)
    (known : ∀ name ∈ aspects.names, name ∈ process.store.registry.names) :
    (process.aspectKey aspects).1 = canonicalAspectKey process.store.registry aspects ∧
      Holds codec { process with keys := (process.aspectKey aspects).2 } casts := by
  refine ⟨memoize_answers process.keys aspects holds.keys, holds.distinct, holds.rows, holds.known, ?_, ?_⟩
  · refine memoize_keys (fun own => ∀ name ∈ own, name ∈ process.store.registry.names) process.keys aspects
      holds.keysKnown ?_
    exact fun name member => known name ((mem_members aspects name).mp member)
  · refine memoize_current process.keys aspects holds.keys fun other same => ?_
    refine canonical_key_members process.store.registry other aspects same fun name member => ?_
    exact known name ((mem_members aspects name).mp (same ▸ (mem_members other name).mpr member))

theorem has_cast (holds : process.Holds codec casts) (castId : String) :
    process.store.casts.Has castId ↔ castId ∈ casts.map WholeCast.castId := by
  rw [Table.Has, holds.rows, List.map_map]
  rfl

theorem write_holds (holds : process.Holds codec casts) (result : WholeCast)
    (known : ∀ name ∈ result.sigil.aspects.names, name ∈ process.store.registry.names) :
    (process.write codec result).2.Holds codec (archive casts (.write result)) := by
  rw [write, archive]
  by_cases taken : process.store.casts.Has result.castId
  · rw [if_pos taken, if_pos (Or.inl ((has_cast holds result.castId).mp taken))]
    exact holds
  · rw [if_neg taken]
    obtain ⟨key, kept⟩ := aspect_key_holds holds result.sigil.aspects known
    have absent : result.castId ∉ casts.map WholeCast.castId := fun member => taken ((has_cast holds _).mpr member)
    by_cases large : 9223372036854775807 < result.sigil.semanticVector.normalizedBasisVersion
    · have refused : sqlInteger result.sigil.semanticVector.normalizedBasisVersion =
          .error (.overflowError "Python int too large to convert to SQLite INTEGER") := if_neg (by omega)
      rw [if_pos (Or.inr large)]
      simp only [refused]
      exact kept
    · have fits : sqlInteger result.sigil.semanticVector.normalizedBasisVersion =
          .ok result.sigil.semanticVector.normalizedBasisVersion := if_pos (by omega)
      have open_ : ¬ (result.castId ∈ casts.map WholeCast.castId ∨
          9223372036854775807 < result.sigil.semanticVector.normalizedBasisVersion) := by tauto
      rw [if_neg open_]
      simp only [fits]
      refine ⟨kept.distinct, ?_, ?_, kept.keysKnown, kept.keys⟩
      · have row : { codec.serializeCastResult process.store.registry result with
            aspectPatternKey := (process.aspectKey result.sigil.aspects).1 } =
              codec.serializeCastResult process.store.registry result := by
          rw [key]
          rfl
        rw [row, Table.put_fresh _ _ taken, holds.rows, List.map_append]
        rfl
      · intro cast member
        obtain old | new := List.mem_append.mp member
        · exact holds.known cast old
        · rw [List.mem_singleton.mp new]
          exact known

theorem delete_holds (holds : process.Holds codec casts) (castId : String) (order : SetOrder) (drawn : String) :
    (process.take codec order drawn (.delete castId)).Holds codec (archive casts (.delete castId)) := by
  have remaining : process.store.casts.rows.filter (fun row => row.castId ≠ castId) =
      (casts.filter fun cast => cast.castId ≠ castId).map (codec.serializeCastResult process.store.registry) := by
    rw [holds.rows, List.filter_map]
    rfl
  refine ⟨holds.distinct, ?_, ?_, holds.keysKnown, holds.keys⟩
  · rw [take, deleteCast]
    by_cases there : process.store.casts.Has castId
    · rw [if_pos there]
      exact remaining
    · rw [if_neg there]
      refine Eq.trans ?_ remaining
      refine (List.filter_eq_self.mpr fun row member => decide_eq_true ?_).symm
      exact fun same => there (List.mem_map.mpr ⟨row, member, same⟩)
  · exact fun cast member => holds.known cast (List.mem_filter.mp member).1

theorem register_holds (holds : process.Holds codec casts) (aspect : RegisteredAspect) (order : SetOrder)
    (drawn : String) : (process.take codec order drawn (.register aspect)).Holds codec casts := by
  rw [take]
  cases registered : process.store.registry.register aspect with
  | error raised => exact holds
  | ok after =>
      obtain ⟨wider, sameKey⟩ := known_extend _ after aspect registered holds.distinct
      refine ⟨register_distinct _ after aspect holds.distinct registered, ?_, ?_, ?_, ?_⟩
      · refine holds.rows.trans (List.map_congr_left fun cast member => ?_)
        exact (serialize_alike codec _ after cast (sameKey _ (holds.known cast member))).symm
      · exact fun cast member name inSet => wider name (holds.known cast member name inSet)
      · exact fun entry member name inSet => wider name (holds.keysKnown entry member name inSet)
      · refine current_change _ process.keys holds.keys fun entry member aspects isKey => sameKey aspects ?_
        intro name inSet
        exact holds.keysKnown entry member name (isKey ▸ (mem_members aspects name).mpr inSet)

theorem query_holds (holds : process.Holds codec casts) (order : SetOrder) (drawn : String) (filters : CastFilters)
    (known : ∀ aspects ∈ filters.aspectFilter, ∀ name ∈ aspects.names, name ∈ process.store.registry.names) :
    (process.query codec order drawn filters).2.Holds codec casts := by
  rw [query]
  cases asked : filters.aspectFilter with
  | none => exact holds
  | some aspects => exact (aspect_key_holds holds aspects (known aspects asked)).2

theorem take_holds (holds : process.Holds codec casts) (order : SetOrder) (drawn : String) (call : QueryCall)
    (known : call.Known process.store.registry) :
    (process.take codec order drawn call).Holds codec (archive casts call) := by
  cases call with
  | register aspect => exact register_holds holds aspect order drawn
  | write result => exact write_holds holds result known
  | delete castId => exact delete_holds holds castId order drawn
  | query filters => exact query_holds holds order drawn filters known
  | restart version =>
      exact ⟨holds.distinct, holds.rows, holds.known, fun _ member => absurd member List.not_mem_nil, current_empty⟩

theorem run_holds (codec : CastCodec) (order : SetOrder) (drawn : String) (start : QueryProcess)
    (casts : List WholeCast) (holds : start.Holds codec casts) (calls : List QueryCall)
    (known : Along (take codec order drawn) (fun process call => call.Known process.store.registry) start calls) :
    (run (take codec order drawn) start calls).Holds codec (run archive casts calls) := by
  induction calls generalizing start casts with
  | nil => exact holds
  | cons call rest ih => exact ih _ _ (take_holds holds order drawn call known.1) known.2

theorem select_newest (holds : process.Holds codec casts) (filters : CastFilters) (key : Option String)
    (matched : ∀ cast ∈ casts, rowMatches filters key (codec.serializeCastResult process.store.registry cast) =
      filters.wants cast) :
    select filters key process.store.casts =
      (filters.newest casts).map (codec.serializeCastResult process.store.registry) := by
  have stamps : rowStamp ∘ codec.serializeCastResult process.store.registry = castStamp := rfl
  have agree : ∀ cast ∈ casts,
      (rowMatches filters key ∘ codec.serializeCastResult process.store.registry) cast = filters.wants cast := matched
  change latest rowStamp (rowMatches filters key) filters.limit process.store.casts.rows = _
  rw [holds.rows, latest_map, stamps, latest_congr castStamp _ filters.limit filters.wants casts agree]
  rfl

theorem rows_read (standard : codec.Standard) (holds : process.Holds codec casts) (order : SetOrder) (drawn : String)
    (chosen : List WholeCast) (among : ∀ cast ∈ chosen, cast ∈ casts) :
    (chosen.map (codec.serializeCastResult process.store.registry)).mapM
        (codec.deserializeCastResult process.store.registry order drawn) =
      .ok (chosen.map fun cast => cast.restored process.store.registry (cast.sigil.aspects.rebuild order)) := by
  rw [List.mapM_map]
  refine map_m_ok _ _ chosen fun cast member => ?_
  obtain ⟨aspects, resolved⟩ :=
    (resolve_names_iff process.store.registry cast.sigil.aspects.names).mpr (holds.known cast (among cast member))
  rw [Function.comp_apply, codec.deserialize_serialized standard, resolved]
  change Except.ok (cast.restored process.store.registry (.build order (aspects.map Aspect.name))) = _
  rw [resolve_names_ok process.store.registry _ aspects resolved]
  rfl

theorem value_same (a b : VerdictType) : a.value = b.value ↔ a = b := by cases a <;> cases b <;> decide

theorem effect_same (a b : EffectClass) : a.name = b.name ↔ a = b := by cases a <;> cases b <;> decide

theorem row_matches (registry : AspectRegistry) (filters : CastFilters) (key : Option String) (cast : WholeCast)
    (keyed : key.all (fun own => canonicalAspectKey registry cast.sigil.aspects = own) =
      filters.aspectFilter.all fun own => cast.sigil.aspects.members = own.members) :
    rowMatches filters key (codec.serializeCastResult registry cast) = filters.wants cast := by
  have verdicts : (filters.verdictFilter.all fun own => cast.verdict.verdictType.value = own.value) =
      filters.verdictFilter.all fun own => cast.verdict.verdictType = own :=
    congrArg filters.verdictFilter.all (funext fun own => decide_eq_decide.mpr (value_same _ own))
  have effects : (filters.effectClassFilter.all fun own => cast.sigil.effectClass.name = own.name) =
      filters.effectClassFilter.all fun own => cast.sigil.effectClass = own :=
    congrArg filters.effectClassFilter.all (funext fun own => decide_eq_decide.mpr (effect_same _ own))
  rw [CastFilters.wants, ← verdicts, ← effects, ← keyed]
  rfl

theorem aspects_matched (holds : process.Holds codec casts) (filters : CastFilters) (aspects : AspectSet)
    (asked : filters.aspectFilter = some aspects) (known : ∀ name ∈ aspects.names, name ∈ process.store.registry.names)
    (cast : WholeCast) (member : cast ∈ casts) :
    rowMatches filters (some (canonicalAspectKey process.store.registry aspects))
      (codec.serializeCastResult process.store.registry cast) = filters.wants cast := by
  refine row_matches process.store.registry filters _ cast ?_
  rw [asked, Option.all_some, Option.all_some, decide_eq_decide]
  exact aspect_key_injective process.store.registry cast.sigil.aspects aspects (holds.known cast member) known

theorem query_newest (standard : codec.Standard) (holds : process.Holds codec casts) (order : SetOrder)
    (drawn : String) (filters : CastFilters)
    (known : ∀ aspects ∈ filters.aspectFilter, ∀ name ∈ aspects.names, name ∈ process.store.registry.names) :
    (process.query codec order drawn filters).1 = .ok ((filters.newest casts).map fun cast =>
      cast.restored process.store.registry (cast.sigil.aspects.rebuild order)) := by
  have among : ∀ cast ∈ filters.newest casts, cast ∈ casts := by
    intro cast member
    exact (List.mem_filter.mp ((List.mem_insertionSort _).mp (List.mem_of_mem_take member))).1
  rw [query]
  cases asked : filters.aspectFilter with
  | none =>
      dsimp only
      have unkeyed : ∀ cast ∈ casts, rowMatches filters none (codec.serializeCastResult process.store.registry cast) =
          filters.wants cast := by
        intro cast _
        refine row_matches process.store.registry filters none cast ?_
        rw [asked]
        rfl
      rw [select_newest holds filters none unkeyed]
      exact rows_read standard holds order drawn _ among
  | some aspects =>
      dsimp only
      rw [(aspect_key_holds holds aspects (known aspects asked)).1,
        select_newest holds filters _ (aspects_matched holds filters aspects asked (known aspects asked))]
      exact rows_read standard holds order drawn _ among

end QueryProcess

theorem newest_answers (registry : AspectRegistry) (order : SetOrder) (casts : List WholeCast) (filters : CastFilters)
    (distinct : (casts.map WholeCast.castId).Nodup) :
    AnswersQuery registry casts filters ((filters.newest casts).map fun cast =>
      cast.restored registry (cast.sigil.aspects.rebuild order)) := by
  have answer : Latest castStamp filters.wants filters.limit casts (filters.newest casts) :=
    latest_chosen castStamp filters.wants filters.limit casts
  have ids : ((filters.newest casts).map fun cast => cast.restored registry (cast.sigil.aspects.rebuild order)).map
      WholeCast.castId = (filters.newest casts).map WholeCast.castId := by
    rw [List.map_map]
    rfl
  have newest : ∀ cast ∈ casts, filters.wants cast = true →
      cast.castId ∉ (filters.newest casts).map WholeCast.castId →
        ∀ kept ∈ filters.newest casts, castStamp cast ≤ castStamp kept := by
    intro cast member wanted left
    exact answer.leftOut cast member wanted fun taken => left (List.mem_map_of_mem taken)
  refine ⟨?_, ?_, ?_, ?_, ?_, ?_⟩
  · rw [ids]
    obtain ⟨front, same, within⟩ := answer.chosenOf
    exact ((same.map WholeCast.castId).nodup_iff).mp (distinct.sublist (within.map _))
  · intro result member
    obtain ⟨cast, isNewest, rfl⟩ := List.mem_map.mp member
    exact ⟨cast, answer.chosenOf.subset isNewest, answer.wanted cast isNewest, restored_reads_as registry order cast⟩
  · rw [List.length_map, answer.count]
  · rw [List.pairwise_map]
    exact answer.latestFirst
  · rw [ids]
    intro cast member wanted left result isResult
    obtain ⟨kept, isNewest, rfl⟩ := List.mem_map.mp isResult
    exact newest cast member wanted left kept isNewest
  · rw [ids]
    intro cast member wanted left result isResult zone zoneToo
    obtain ⟨kept, isNewest, rfl⟩ := List.mem_map.mp isResult
    exact (isoformat_le_iff _ _ zone zoneToo).mp (newest cast member wanted left kept isNewest)

theorem tool_query_parsed (codec : CastCodec) (order : SetOrder) (drawn : String) (process : QueryProcess)
    (arguments : List (String × Json)) (filters : CastFilters)
    (parsed : QueryProcess.toolFilters codec arguments = .ok filters) (results : List WholeCast)
    (answered : (process.query codec order drawn filters).1 = .ok results) :
    (process.toolQuery codec order drawn arguments).1 = .ok results := by
  rw [QueryProcess.toolQuery, parsed]
  dsimp only
  rw [answered]
  rfl

theorem aspect_queries_exact (codec : CastCodec) (standard : codec.Standard) (order : SetOrder) (drawn : String)
    (calls : List QueryCall)
    (known : Along (QueryProcess.take codec order drawn) (fun process call => call.Known process.store.registry)
      { store := { registry := {} } } calls)
    (filters : CastFilters) (reached : QueryProcess)
    (reaches : run (QueryProcess.take codec order drawn) { store := { registry := {} } } calls = reached)
    (asked : (QueryCall.query filters).Known reached.store.registry) :
    ∃ results, (reached.query codec order drawn filters).1 = .ok results ∧
      AnswersQuery reached.store.registry (run archive [] calls) filters results ∧
      ∀ arguments, QueryProcess.toolFilters codec arguments = .ok filters →
        (reached.toolQuery codec order drawn arguments).1 = .ok results := by
  have start : QueryProcess.Holds codec { store := { registry := {} } } [] := by
    refine ⟨?_, rfl, fun _ member => absurd member List.not_mem_nil, fun _ member => absurd member List.not_mem_nil,
      current_empty⟩
    exact canonical_names_distinct
  have holds := QueryProcess.run_holds codec order drawn _ [] start calls known
  rw [reaches] at holds
  have answered := QueryProcess.query_newest standard holds order drawn filters asked
  refine ⟨_, answered, newest_answers _ order _ filters ?_, ?_⟩
  · have distinct := reached.store.casts.distinct
    rw [holds.rows, List.map_map] at distinct
    exact distinct
  · exact fun arguments parsed => tool_query_parsed codec order drawn reached arguments filters parsed _ answered

def voidCalls : List QueryCall :=
  [.register harmonyAspect, .write interpolatedCast, .query { aspectFilter := some voidOnly }, .restart 1]

theorem void_known (registry : AspectRegistry) : ∀ name ∈ voidOnly.names, name ∈ registry.names := by
  intro name member
  rw [List.mem_singleton.mp member, registry_names]
  exact List.mem_append_left _ (by decide)

theorem void_calls_known : Along (QueryProcess.take plainCodec listOrder "L")
    (fun process call => call.Known process.store.registry) { store := { registry := {} } } voidCalls := by
  refine ⟨trivial, void_known _, ?_, trivial, trivial⟩
  intro aspects asked
  obtain rfl := Option.some.inj asked
  exact void_known _

def voidStore : QueryProcess :=
  run (QueryProcess.take plainCodec listOrder "L") { store := { registry := {} } } voidCalls

theorem void_casts_found : ∃ results,
    (voidStore.query plainCodec listOrder "L" { aspectFilter := some voidOnly }).1 = .ok results ∧
      AnswersQuery voidStore.store.registry [interpolatedCast] { aspectFilter := some voidOnly } results := by
  have asked : (QueryCall.query { aspectFilter := some voidOnly }).Known voidStore.store.registry := by
    intro aspects isAsked
    obtain rfl := Option.some.inj isAsked
    exact void_known _
  obtain ⟨results, answered, answers, -⟩ := aspect_queries_exact plainCodec plain_codec_standard listOrder "L" voidCalls
    void_calls_known { aspectFilter := some voidOnly } voidStore rfl asked
  exact ⟨results, answered, answers⟩

end Vermyth
