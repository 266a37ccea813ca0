import Vermyth.Arcane.Bundles

set_option autoImplicit false

namespace Vermyth

open Foundation

-- Where pydantic and int() both read a value as an int, they read the same.
def Coercions.ReadsAsInt (coerce : Coercions) : Prop :=
  ∀ (value : Scalar) (own other : Int), coerce.int value = some own → pyInt value.toJson = .ok other → own = other

theorem scalar_to_json (value : Json) (scalar : Scalar) (reads : value.scalar? = some scalar) :
    scalar.toJson = value := by
  cases value <;> cases reads <;> rfl

theorem positive_is_int (coerce : Coercions) (reads : coerce.ReadsAsInt) (value : Json)
    (count : { count : Nat // 1 ≤ count }) (own : Int) (positive : positive? coerce value = some count)
    (read : pyInt value = .ok own) : (count.1 : Int) = own := by
  obtain ⟨number, isNumber, rest⟩ := Option.bind_eq_some_iff.mp positive
  obtain ⟨scalarRead, least⟩ := Option.filter_eq_some_iff.mp isNumber
  obtain ⟨scalar, isScalar, coerced⟩ := Option.bind_eq_some_iff.mp scalarRead
  rw [← scalar_to_json value scalar isScalar] at read
  have same : number = own := reads scalar number own coerced read
  have above : 1 ≤ number := of_decide_eq_true least
  by_cases fits : 1 ≤ number.toNat
  · rw [dif_pos fits] at rest
    cases rest
    change (number.toNat : Int) = own
    omega
  · rw [dif_neg fits] at rest
    cases rest

theorem read_field_found {α : Type} (read : Json → Option α) (fields : List (String × Json)) (model field : String)
    (value : α) (reads : readField read none fields model field = .ok value) :
    ∃ own, fields.lookup field = some own ∧ read own = some value := by
  rw [readField] at reads
  cases found : fields.lookup field with
  | none =>
      rw [found] at reads
      cases reads
  | some own =>
      rw [found, Option.elim_some] at reads
      cases got : read own with
      | none =>
          rw [got] at reads
          cases reads
      | some other =>
          rw [got] at reads
          cases reads
          exact ⟨own, rfl, got⟩

theorem manifest_version (coerce : Coercions) (fields : List (String × Json)) (manifest : BundleManifest)
    (valid : manifestValidate coerce fields = .ok manifest) :
    ∃ version, readField (positive? coerce) none fields "SemanticBundleManifest" "version" = .ok version ∧
      manifest.version = version.1 := by
  obtain ⟨-, -, afterExtra⟩ := (bind_ok _ _ _).mp valid
  obtain ⟨id, -, afterId⟩ := (bind_ok _ _ _).mp afterExtra
  obtain ⟨version, versionRead, afterVersion⟩ := (bind_ok _ _ _).mp afterId
  obtain ⟨kind, -, afterKind⟩ := (bind_ok _ _ _).mp afterVersion
  obtain ⟨template, -, afterTemplate⟩ := (bind_ok _ _ _).mp afterKind
  obtain ⟨paramKeys, -, afterKeys⟩ := (bind_ok _ _ _).mp afterTemplate
  obtain ⟨summary, -, afterSummary⟩ := (bind_ok _ _ _).mp afterKeys
  obtain ⟨description, -, afterDescription⟩ := (bind_ok _ _ _).mp afterSummary
  obtain ⟨recommendedFor, -, afterFor⟩ := (bind_ok _ _ _).mp afterDescription
  obtain ⟨stability, -, afterStability⟩ := (bind_ok _ _ _).mp afterFor
  obtain ⟨library, -, afterLibrary⟩ := (bind_ok _ _ _).mp afterStability
  obtain ⟨recommendation, -, made⟩ := (bind_ok _ _ _).mp afterLibrary
  cases made
  exact ⟨version, versionRead, rfl⟩

section Shelf

variable (codec : CastCodec) (shelf : Shelf)

theorem Shelf.load_version (reads : codec.coerce.ReadsAsInt) (key : BundleKey) (manifest : BundleManifest)
    (loads : shelf.loadBundle codec key = .ok manifest) : (manifest.version : Int) = key.2 := by
  rw [Shelf.loadBundle] at loads
  cases found : shelf.primary key.1 with
  | none =>
      rw [found] at loads
      cases loads
  | some text =>
      rw [found] at loads
      obtain ⟨raw, -, afterRaw⟩ := (bind_ok _ _ _).mp loads
      obtain ⟨fields, -, rest⟩ := (bind_ok _ _ _).mp afterRaw
      obtain ⟨version, read, checked⟩ := (bind_ok _ _ _).mp rest
      by_cases own : version = key.2
      · rw [if_pos own] at checked
        obtain ⟨count, versionRead, same⟩ := manifest_version codec.coerce fields manifest checked
        obtain ⟨value, stands, positive⟩ := read_field_found _ fields _ _ count versionRead
        rw [payloadGet, stands] at read
        rw [same, positive_is_int codec.coerce reads value count version positive read, own]
      · rw [if_neg own] at checked
        cases checked

end Shelf

inductive BundleMove where
  | edit (shelf : Shelf)
  | restart
  | load (key : BundleKey)

structure BundleLedger where
  process : BundleProcess
  served : List (BundleKey × BundleManifest) := []

namespace BundleLedger

variable (codec : CastCodec)

def take (ledger : BundleLedger) : BundleMove → BundleLedger
  | .edit shelf => { ledger with process := { ledger.process with shelf := shelf } }
  | .restart => { process := { shelf := ledger.process.shelf } }
  | .load key =>
      { process := (ledger.process.load codec key).2
        served := ledger.served ++ Lru.logged key (ledger.process.load codec key).1 }

def run (shelf : Shelf) (moves : List BundleMove) : BundleLedger :=
  moves.foldl (take codec) { process := { shelf } }

def Held (shelf : Shelf) (moves : List BundleMove) (key : BundleKey) (manifest : BundleManifest) : Prop :=
  ∃ earlier later, moves = earlier ++ later ∧ BundleMove.restart ∉ later ∧
    (run codec shelf earlier).process.shelf.loadBundle codec key = .ok manifest

theorem run_snoc (shelf : Shelf) (moves : List BundleMove) (move : BundleMove) :
    run codec shelf (moves ++ [move]) = (run codec shelf moves).take codec move := by
  rw [run, List.foldl_append, List.foldl_cons, List.foldl_nil]
  rfl

variable {codec}

theorem held_later (shelf : Shelf) (moves : List BundleMove) (move : BundleMove) (key : BundleKey)
    (manifest : BundleManifest) (runs : move ≠ .restart) (held : Held codec shelf moves key manifest) :
    Held codec shelf (moves ++ [move]) key manifest := by
  obtain ⟨earlier, later, rfl, since, loads⟩ := held
  refine ⟨earlier, later ++ [move], List.append_assoc _ _ _, ?_, loads⟩
  rw [List.mem_append, List.mem_singleton]
  exact not_or.mpr ⟨since, Ne.symm runs⟩

theorem held_now (shelf : Shelf) (moves : List BundleMove) (key : BundleKey) (manifest : BundleManifest)
    (loads : (run codec shelf moves).process.shelf.loadBundle codec key = .ok manifest) :
    Held codec shelf moves key manifest :=
  ⟨moves, [], (List.append_nil _).symm, List.not_mem_nil, loads⟩

variable (codec) in
structure Sound (shelf : Shelf) (moves : List BundleMove) : Prop where
  tracks : (run codec shelf moves).process.cache.Tracks (run codec shelf moves).served
  held : ∀ entry ∈ (run codec shelf moves).served, Held codec shelf moves entry.1 entry.2

theorem within_mem {capacity : Nat} (served : List (BundleKey × BundleManifest)) (key : BundleKey)
    (manifest : BundleManifest) (within : Within capacity served key manifest) : (key, manifest) ∈ served := by
  obtain ⟨before, after, rfl, -, -⟩ := within
  exact List.mem_append_right _ List.mem_cons_self

theorem load_cases (shelf : Shelf) (moves : List BundleMove) (sound : Sound codec shelf moves)
    (key : BundleKey) :
    (∃ manifest, Within 32 (run codec shelf moves).served key manifest ∧
      ((run codec shelf moves).process.load codec key).1 = .ok manifest) ∨
    (∀ manifest, ¬ Within 32 (run codec shelf moves).served key manifest) ∧
      ((run codec shelf moves).process.load codec key).1 =
        (run codec shelf moves).process.shelf.loadBundle codec key := by
  by_cases kept : ∃ manifest, Within 32 (run codec shelf moves).served key manifest
  · obtain ⟨manifest, within⟩ := kept
    exact .inl ⟨manifest, within, Lru.call_kept _ _ key _ manifest sound.tracks within⟩
  · have gone := not_exists.mp kept
    exact .inr ⟨gone, Lru.call_fresh _ _ key _ sound.tracks gone⟩

theorem sound_load (shelf : Shelf) (moves : List BundleMove) (key : BundleKey)
    (sound : Sound codec shelf moves) : Sound codec shelf (moves ++ [.load key]) := by
  have later : ∀ (own : BundleKey) manifest, Held codec shelf moves own manifest →
      Held codec shelf (moves ++ [.load key]) own manifest :=
    fun own manifest => held_later shelf moves (.load key) own manifest BundleMove.noConfusion
  refine ⟨?_, ?_⟩
  · rw [run_snoc]
    exact Lru.call_tracks _ _ key _ sound.tracks
  · intro entry member
    rw [run_snoc] at member
    obtain earlier | fresh := List.mem_append.mp member
    · exact later _ _ (sound.held entry earlier)
    · have outcome : ((run codec shelf moves).process.load codec key).1 = .ok entry.2 ∧ entry.1 = key := by
        cases loaded : ((run codec shelf moves).process.load codec key).1 with
        | error raised =>
            rw [loaded] at fresh
            cases fresh
        | ok manifest =>
            rw [loaded] at fresh
            obtain rfl := List.mem_singleton.mp fresh
            exact ⟨rfl, rfl⟩
      obtain ⟨loaded, rfl⟩ := outcome
      refine later _ _ ?_
      rcases load_cases shelf moves sound entry.1 with ⟨manifest, within, served⟩ | ⟨-, current⟩
      · rw [served] at loaded
        cases loaded
        exact sound.held _ (within_mem _ _ _ within)
      · rw [current] at loaded
        exact held_now shelf moves _ _ loaded

theorem run_sound (shelf : Shelf) (moves : List BundleMove) : Sound codec shelf moves := by
  induction moves using List.reverseRecOn with
  | nil => exact ⟨Lru.empty_tracks, fun _ member => absurd member List.not_mem_nil⟩
  | append_singleton moves move ih =>
      cases move with
      | edit own =>
          refine ⟨?_, ?_⟩
          · rw [run_snoc]
            exact ih.tracks
          · intro entry member
            rw [run_snoc] at member
            exact held_later shelf moves _ _ _ BundleMove.noConfusion (ih.held entry member)
      | restart =>
          refine ⟨?_, ?_⟩
          · rw [run_snoc]
            exact Lru.empty_tracks
          · intro entry member
            rw [run_snoc] at member
            exact absurd member List.not_mem_nil
      | load key => exact sound_load shelf moves key ih

end BundleLedger

def OnlyLoads (codec : CastCodec) (before after : BundleProcess) : Prop :=
  ∃ keys : List BundleKey, after = keys.foldl (fun process key => (process.load codec key).2) before

namespace BundleProcess

variable (codec : CastCodec) (process : BundleProcess)

theorem loads_none : OnlyLoads codec process process := ⟨[], rfl⟩

theorem loads_one (key : BundleKey) : OnlyLoads codec process (process.load codec key).2 := ⟨[key], rfl⟩

theorem loads_trans (before middle after : BundleProcess) (first : OnlyLoads codec before middle)
    (second : OnlyLoads codec middle after) : OnlyLoads codec before after := by
  obtain ⟨keys, rfl⟩ := first
  obtain ⟨more, rfl⟩ := second
  exact ⟨keys ++ more, (List.foldl_append).symm⟩

theorem then_loads {α β : Type} (before : BundleProcess) (outcome : Except PyError α × BundleProcess)
    (next : α → BundleProcess → Except PyError β × BundleProcess) (first : OnlyLoads codec before outcome.2)
    (rest : ∀ value, OnlyLoads codec outcome.2 (next value outcome.2).2) :
    OnlyLoads codec before (andThen outcome next).2 := by
  obtain ⟨raised | value, middle⟩ := outcome
  · exact first
  · exact loads_trans codec before middle _ first (rest value)

theorem primary_loads (bundleId : String) : OnlyLoads codec process (process.loadPrimary codec bundleId).2 :=
  then_loads codec process _ _ (loads_none codec process) fun _ => loads_one codec process _

theorem primaries_loads (bundleIds : List String) :
    OnlyLoads codec process (process.loadPrimaries codec bundleIds).2 := by
  induction bundleIds generalizing process with
  | nil => exact loads_none codec process
  | cons bundleId rest ih =>
      refine then_loads codec process _ _ (primary_loads codec process bundleId) fun _ => ?_
      exact then_loads codec _ _ _ (ih _) fun _ => loads_none codec _

theorem compile_loads {ω : Type} (env : GatewayEnv ω) (bundleRef : List (String × Json)) :
    OnlyLoads codec process (process.compileRef codec env bundleRef).2 := by
  rw [compileRef]
  cases referredKey env bundleRef with
  | error raised => exact loads_none codec process
  | ok key => exact loads_one codec process key

theorem preview_loads {ω : Type} (env : GatewayEnv ω) (bundleId : String) (version : Int)
    (params : Option (List (String × Json))) :
    OnlyLoads codec process (process.previewCompiledInvocation codec env bundleId version params).2 := by
  cases params with
  | some params => exact compile_loads codec process env _
  | none => exact then_loads codec process _ _ (loads_one codec process _) fun _ => compile_loads codec _ env _

theorem inspect_loads {ω : Type} (env : GatewayEnv ω) (bundleId : String) (version : Int)
    (params : Option (List (String × Json))) :
    OnlyLoads codec process (process.inspectSemanticBundleDetail codec env bundleId version params).2 := by
  refine then_loads codec process _ _ (loads_one codec process _) fun _ => ?_
  exact then_loads codec _ _ _ (preview_loads codec _ env bundleId version params) fun _ => loads_none codec _

variable {codec}

theorem then_ok {α β : Type} (outcome : Except PyError α × BundleProcess)
    (next : α → BundleProcess → Except PyError β × BundleProcess) (result : β)
    (ok : (andThen outcome next).1 = .ok result) :
    ∃ value, outcome.1 = .ok value ∧ andThen outcome next = next value outcome.2 := by
  obtain ⟨raised | value, process⟩ := outcome
  · cases ok
  · exact ⟨value, rfl, rfl⟩

theorem primary_ok (bundleId : String) (manifest : BundleManifest)
    (loaded : (process.loadPrimary codec bundleId).1 = .ok manifest) :
    ∃ version, process.shelf.primaryVersion codec bundleId = .ok version ∧
      process.loadPrimary codec bundleId = process.load codec (bundleId, version) :=
  then_ok _ _ manifest loaded

end BundleProcess

namespace BundleLedger

variable {codec : CastCodec} (reads : codec.coerce.ReadsAsInt) (shelf : Shelf)

theorem load_held (moves : List BundleMove) (key : BundleKey) (manifest : BundleManifest)
    (loaded : ((run codec shelf moves).process.load codec key).1 = .ok manifest) :
    Held codec shelf moves key manifest := by
  have sound : Sound codec shelf moves := run_sound shelf moves
  rcases load_cases shelf moves sound key with ⟨own, within, served⟩ | ⟨-, current⟩
  · rw [served] at loaded
    cases loaded
    exact sound.held _ (within_mem _ _ _ within)
  · rw [current] at loaded
    exact held_now shelf moves key manifest loaded

include reads in
theorem held_version (moves : List BundleMove) (key : BundleKey) (manifest : BundleManifest)
    (held : Held codec shelf moves key manifest) : (manifest.version : Int) = key.2 := by
  obtain ⟨earlier, later, -, -, loads⟩ := held
  exact Shelf.load_version codec _ reads key manifest loads

def primaryEntry (bundleId : String) (manifest : BundleManifest) : BundleKey × BundleManifest :=
  ((bundleId, manifest.version), manifest)

include reads in
theorem primary_served (moves : List BundleMove) (bundleId : String) (manifest : BundleManifest)
    (loaded : ((run codec shelf moves).process.loadPrimary codec bundleId).1 = .ok manifest) :
    (run codec shelf moves).process.shelf.primaryVersion codec bundleId = .ok manifest.version ∧
      ((run codec shelf moves).process.loadPrimary codec bundleId).2 =
        (run codec shelf (moves ++ [.load (bundleId, manifest.version)])).process ∧
      (run codec shelf (moves ++ [.load (bundleId, manifest.version)])).served =
        (run codec shelf moves).served ++ [primaryEntry bundleId manifest] := by
  obtain ⟨version, onDisk, isLoad⟩ := BundleProcess.primary_ok _ bundleId manifest loaded
  rw [isLoad] at loaded ⊢
  have same : (manifest.version : Int) = version :=
    held_version reads shelf moves _ manifest (load_held shelf moves _ manifest loaded)
  refine ⟨onDisk.trans (congrArg _ same.symm), ?_, ?_⟩
  · rw [run_snoc, same]
    rfl
  · rw [run_snoc, same]
    change _ ++ Lru.logged _ ((run codec shelf moves).process.load codec (bundleId, version)).1 = _
    rw [loaded, primaryEntry, same]
    rfl

include reads in
theorem primaries_served (moves : List BundleMove) (bundleIds : List String) (manifests : List BundleManifest)
    (loaded : ((run codec shelf moves).process.loadPrimaries codec bundleIds).1 = .ok manifests) :
    List.Forall₂ (fun bundleId manifest =>
        (run codec shelf moves).process.shelf.primaryVersion codec bundleId = .ok (manifest : BundleManifest).version)
      bundleIds manifests ∧
    ∃ keys : List BundleKey,
      ((run codec shelf moves).process.loadPrimaries codec bundleIds).2 =
        (run codec shelf (moves ++ keys.map .load)).process ∧
      (run codec shelf (moves ++ keys.map .load)).served =
        (run codec shelf moves).served ++ List.zipWith primaryEntry bundleIds manifests := by
  induction bundleIds generalizing moves manifests with
  | nil =>
      cases loaded
      refine ⟨.nil, [], ?_, ?_⟩
      · rw [List.map_nil, List.append_nil]
        rfl
      · rw [List.map_nil, List.append_nil, List.zipWith_nil_left, List.append_nil]
  | cons bundleId rest ih =>
      obtain ⟨manifest, first, isRest⟩ := BundleProcess.then_ok _ _ manifests loaded
      obtain ⟨onDisk, process, served⟩ := primary_served reads shelf moves bundleId manifest first
      change BundleProcess.loadPrimaries codec (bundleId :: rest) _ = _ at isRest
      rw [process] at isRest
      rw [isRest] at loaded
      obtain ⟨others, more, isLast⟩ := BundleProcess.then_ok _ _ manifests loaded
      rw [isLast] at loaded
      cases loaded
      obtain ⟨versions, keys, last, log⟩ := ih (moves ++ [.load (bundleId, manifest.version)]) others more
      have shelfKept : (run codec shelf (moves ++ [.load (bundleId, manifest.version)])).process.shelf =
          (run codec shelf moves).process.shelf := by
        rw [run_snoc]
        rfl
      rw [shelfKept] at versions
      have grouped := List.append_cons moves (.load (bundleId, manifest.version)) (keys.map .load)
      refine ⟨.cons onDisk versions, (bundleId, manifest.version) :: keys, ?_, ?_⟩
      · rw [isRest, isLast]
        exact last.trans (congrArg (fun own => (run codec shelf own).process) grouped.symm)
      · rw [List.map_cons, grouped, log, served, List.zipWith_cons_cons, List.append_assoc]
        rfl

end BundleLedger

open BundleLedger in
theorem bundle_cache_exact (codec : CastCodec) (reads : codec.coerce.ReadsAsInt) (shelf : Shelf)
    (moves : List BundleMove) :
    let ledger := run codec shelf moves
    (∀ key manifest, (ledger.process.load codec key).1 = .ok manifest →
      (manifest.version : Int) = key.2 ∧ Held codec shelf moves key manifest) ∧
    (∀ key manifest, Within 32 ledger.served key manifest → (ledger.process.load codec key).1 = .ok manifest) ∧
    (∀ key, (∀ manifest, ¬ Within 32 ledger.served key manifest) →
      (ledger.process.load codec key).1 = ledger.process.shelf.loadBundle codec key) ∧
    (∀ key manifest, ledger.process.shelf.loadBundle codec key = .ok manifest →
      (∀ old, Held codec shelf moves key old → old = manifest) → (ledger.process.load codec key).1 = .ok manifest) ∧
    (∀ kind rows, (ledger.process.listBundleCatalog codec kind).1 = .ok rows →
      ∃ manifests, List.Forall₂ (fun bundleId manifest =>
          ledger.process.shelf.primaryVersion codec bundleId = .ok (manifest : BundleManifest).version)
        ledger.process.shelf.listBundleIds manifests ∧
        rows = (manifests.filter fun manifest => kind.all (· = manifest.kind)).map catalogEntryDict) ∧
    ∀ (ω : Type) (env : GatewayEnv ω) (bundleId : String) (version : Int) (params : Option (List (String × Json)))
      (kind : Option BundleKind) (bundleRef : List (String × Json)),
      OnlyLoads codec ledger.process (ledger.process.listBundleCatalog codec kind).2 ∧
      OnlyLoads codec ledger.process
        (ledger.process.inspectSemanticBundleDetail codec env bundleId version params).2 ∧
      OnlyLoads codec ledger.process (ledger.process.compileRef codec env bundleRef).2 := by
  intro ledger
  have sound : Sound codec shelf moves := run_sound shelf moves
  refine ⟨?_, ?_, ?_, ?_, ?_, ?_⟩
  · intro key manifest loaded
    have held := load_held shelf moves key manifest loaded
    exact ⟨held_version reads shelf moves key manifest held, held⟩
  · intro key manifest within
    exact Lru.call_kept _ _ key _ manifest sound.tracks within
  · intro key gone
    exact Lru.call_fresh _ _ key _ sound.tracks gone
  · intro key manifest fresh steady
    rcases load_cases shelf moves sound key with ⟨old, within, served⟩ | ⟨-, current⟩
    · rw [← steady old (sound.held _ (within_mem _ _ _ within))]
      exact served
    · exact current.trans fresh
  · intro kind rows listed
    obtain ⟨manifests, loaded, made⟩ := (map_ok _ _ rows).mp listed
    exact ⟨manifests, (primaries_served reads shelf moves _ manifests loaded).1, made.symm⟩
  · intro ω env bundleId version params kind bundleRef
    exact ⟨BundleProcess.primaries_loads codec _ _, BundleProcess.inspect_loads codec _ env bundleId version params,
      BundleProcess.compile_loads codec _ env bundleRef⟩

theorem plain_reads_as_int : plainCodec.coerce.ReadsAsInt := by
  intro value own other coerced read
  cases value with
  | int number =>
      cases coerced
      cases read
      rfl
  | bool | float | str => cases coerced

def probeText : String := "\x7b\"id\": \"probe\", \"version\": 1, \"kind\": \"cast\", \"template\": \x7b\x7d\x7d"

def probeShelf : Shelf :=
  { package := { stems := ["probe"], file := fun bundleId =>
      if bundleId = "probe" then some (.ok probeText.toList) else none } }

theorem stale_probe_served : ∃ manifest,
    ((BundleLedger.run plainCodec probeShelf [.load ("probe", 1), .edit {}]).process.load plainCodec ("probe", 1)).1 =
      .ok manifest ∧
    (manifest.version : Int) = 1 ∧
    ({} : Shelf).loadBundle plainCodec ("probe", 1) = .error (Shelf.notFound "probe") := by
  have served : ((BundleLedger.run plainCodec probeShelf [.load ("probe", 1), .edit {}]).process.load plainCodec
      ("probe", 1)).1.isOk = true := by decide +kernel
  obtain ⟨manifest, loaded⟩ := is_ok _ served
  have exact_cache := bundle_cache_exact plainCodec plain_reads_as_int probeShelf [.load ("probe", 1), .edit {}]
  exact ⟨manifest, loaded, (exact_cache.1 _ manifest loaded).1, rfl⟩

end Vermyth
