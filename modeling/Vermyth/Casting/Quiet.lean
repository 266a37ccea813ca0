import Vermyth.Casting.Tools
import Vermyth.Engine.DivergenceLaws
import Vermyth.Foundation.Raises

set_option autoImplicit false

namespace Vermyth

open Foundation

def Quiet (raised : PyError) : Prop := ∀ a b, raised ≠ basisMismatch a b

theorem mismatch_text_head (a b : SemanticVector) :
    ("incompatible basis versions: left=v" ++ toString a.normalizedBasisVersion ++ " right=v" ++
      toString b.normalizedBasisVersion ++ "; upsample explicitly first").toList.head? = some 'i' := by
  simp [String.toList_append]

theorem quiet_text (opening rest : String) (c : Char) (starts : opening.toList.head? = some c) (other : c ≠ 'i') :
    Quiet (.valueError (opening ++ rest)) := by
  intro a b same
  have texts := PyError.valueError.inj same
  have heads := congrArg (fun text : String => text.toList.head?) texts
  rw [mismatch_text_head] at heads
  simp only [String.toList_append, List.head?_append, starts] at heads
  exact other (Option.some.inj heads)

theorem quiet_invalid (model field : String) (c : Char) (starts : model.toList.head? = some c) (other : c ≠ 'i') :
    Quiet (invalid model field) := by
  have text : model ++ "." ++ field = model ++ ("." ++ field) := String.append_assoc
  rw [invalid, text]
  exact quiet_text model _ c starts other

theorem quiet_key (key : String) : Quiet (.keyError key) := by
  intro a b same
  cases same

theorem quiet_overflow (text : String) : Quiet (.overflowError text) := by
  intro a b same
  cases same

theorem quiet_runtime (text : String) : Quiet (.runtimeError text) := by
  intro a b same
  cases same

theorem quiet_wrapped (tool : String) (raised : PyError) (quiet : Quiet raised) : Quiet (wrapRaised tool raised) := by
  cases raised with
  | valueError text => exact quiet
  | keyError key => exact quiet_key key
  | typeError text => exact quiet_runtime _
  | runtimeError text => exact quiet_runtime _
  | overflowError text => exact quiet_runtime _
  | attributeError text => exact quiet_runtime _
  | indexError text => exact quiet_runtime _
  | fileNotFoundError text => exact quiet_runtime _
  | other text => exact quiet_runtime _

theorem sql_integer_quiet (value : Int) : OnlyRaises Quiet (sqlInteger value) := by
  rw [sqlInteger]
  apply raises_ite
  · intro _
    exact raises_ok Quiet value
  · intro _
    exact raises_error Quiet _ (quiet_overflow _)

theorem resolve_quiet (registry : AspectRegistry) (name : String) : OnlyRaises Quiet (registry.resolve name) := by
  rw [AspectRegistry.resolve]
  cases registry.fullOrder.find? fun aspect => aspect.name = name with
  | none => exact raises_error Quiet _ (quiet_key name)
  | some aspect => exact raises_ok Quiet aspect

theorem resolve_names_quiet (registry : AspectRegistry) (names : List String) :
    OnlyRaises Quiet (resolveNames registry names) :=
  raises_map_m Quiet _ names fun name _ => resolve_quiet registry name

theorem query_seeds_quiet (registry : AspectRegistry) (order : SetOrder) (asked : AspectSet) (table : SeedTable) :
    OnlyRaises Quiet (querySeeds registry order (some asked) none table) := by
  apply raises_map_m
  intro row _
  rw [deserializeGlyphSeed, GlyphSeedRow.aspectPatternJson, read_names_json]
  apply raises_bind
  · exact raises_ok Quiet _
  · intro names _
    apply raises_bind
    · exact resolve_names_quiet registry names
    · intro aspects _
      exact raises_ok Quiet _

theorem glyph_seed_quiet (registry : AspectRegistry) (order : SetOrder) (seedId : String) (pattern : AspectSet)
    (count : Int) (mean rate : ℚ) (candidate : Option EffectClass) (crystallized : Bool) (generation : Int) :
    OnlyRaises Quiet
      (GlyphSeed.make registry order seedId pattern count mean rate candidate crystallized generation) := by
  have refused (field : String) : Quiet (invalid "GlyphSeed" field) :=
    quiet_invalid "GlyphSeed" field 'G' (by decide) (by decide)
  rw [GlyphSeed.make]
  split_ifs
  all_goals first | exact raises_error Quiet _ (refused _) | exact raises_ok Quiet _

theorem accumulate_quiet (registry : AspectRegistry) (order : SetOrder) (drawn : String) (result : SeedCast)
    (seeds : List GlyphSeed) : OnlyRaises Quiet (accumulate registry order drawn result seeds) := by
  rw [accumulate]
  cases seeds.find? fun seed => seed.aspectPattern.members = result.aspects.members with
  | none =>
      apply raises_ite
      · intro _
        exact raises_ok Quiet none
      · intro _
        exact raises_map Quiet _ _ (glyph_seed_quiet _ _ _ _ _ _ _ _ _ _)
  | some matching => exact raises_map Quiet _ _ (glyph_seed_quiet _ _ _ _ _ _ _ _ _ _)

theorem resolved_sigil_quiet (registry : AspectRegistry) (order : SetOrder) (name : String) (aspects : AspectSet)
    (effectClass : EffectClass) (ceiling : ℚ) (severity : ContradictionSeverity) :
    OnlyRaises Quiet (ResolvedSigil.make registry order name aspects effectClass ceiling severity) := by
  have refused (field : String) : Quiet (invalid "Sigil" field) :=
    quiet_invalid "Sigil" field 'S' (by decide) (by decide)
  rw [ResolvedSigil.make]
  split_ifs
  all_goals first | exact raises_error Quiet _ (refused _) | exact raises_ok Quiet _

theorem compose_quiet (composition : CompositionEngine) (registry : AspectRegistry) (order : SetOrder)
    (aspects : AspectSet) : OnlyRaises Quiet (composition.compose registry order aspects) := by
  rw [CompositionEngine.compose]
  apply raises_ite
  · intro _
    exact raises_error Quiet _ (quiet_text "aspects must contain at least one AspectID" "" 'a' (by decide) (by decide))
  · intro _
    apply raises_ite
    · intro _
      exact raises_error Quiet _
        (quiet_text "aspects must contain at most three AspectIDs" "" 'a' (by decide) (by decide))
    · intro _
      cases held : composition.entry? (canonicalAspectKey registry aspects) with
      | none =>
          simp only [held]
          have text : "no defined resolution for aspect combination: '" ++ canonicalAspectKey registry aspects ++ "'" =
              "no defined resolution for aspect combination: '" ++ (canonicalAspectKey registry aspects ++ "'") :=
            String.append_assoc
          refine raises_error Quiet _ ?_
          rw [CompositionEngine.noResolution, text]
          exact quiet_text _ _ 'n' (by decide) (by decide)
      | some raw =>
          simp only [held]
          exact resolved_sigil_quiet _ _ _ _ _ _ _

theorem crystallize_quiet (registry : AspectRegistry) (order : SetOrder) (composition : CompositionEngine)
    (seed : GlyphSeed) : OnlyRaises Quiet (crystallize registry order composition seed) := by
  rw [crystallize]
  split_ifs
  · exact raises_ok Quiet none
  · exact raises_ok Quiet none
  · cases seed.candidateEffectClass with
    | none => exact raises_ok Quiet none
    | some effectClass =>
        apply raises_bind
        · exact compose_quiet composition registry order seed.aspectPattern
        · intro base _
          apply raises_bind
          · exact resolved_sigil_quiet _ _ _ _ _ _ _
          · intro sigil _
            exact raises_ok Quiet _

theorem write_seed_quiet (seed : GlyphSeed) (table : SeedTable) : OnlyRaises Quiet (writeSeed seed table) := by
  rw [writeSeed]
  apply raises_bind _ _ _ (sql_integer_quiet _)
  intro _ _
  apply raises_bind _ _ _ (sql_integer_quiet _)
  intro _ _
  apply raises_bind _ _ _ (sql_integer_quiet _)
  intro _ _
  exact raises_ok Quiet _

theorem write_crystal_quiet (crystal : CrystallizedSigil) (table : CrystallizedTable) :
    OnlyRaises Quiet (writeCrystallizedSigil crystal table) := by
  rw [writeCrystallizedSigil]
  apply raises_bind _ _ _ (sql_integer_quiet _)
  intro _ _
  apply raises_bind _ _ _ (sql_integer_quiet _)
  intro _ _
  exact raises_ok Quiet _

theorem crystallize_seed_quiet (env : SeedEnv) (seed : GlyphSeed) (now : Datetime) (grimoire : Grimoire) :
    OnlyRaises Quiet (crystallizeSeed env seed now grimoire).1 := by
  rw [crystallizeSeed]
  have reset := write_seed_quiet (resetSeed seed) grimoire.seeds
  revert reset
  generalize writeSeed (resetSeed seed) grimoire.seeds = outcome
  intro reset
  cases crystal : crystallize env.registry env.order env.engine seed with
  | error raised => exact raises_error Quiet _ (crystallize_quiet _ _ _ _ raised crystal)
  | ok grown =>
      cases grown with
      | none => exact raises_ok Quiet ()
      | some sigil =>
          dsimp only
          cases written : writeCrystallizedSigil (crystalRow sigil seed now) grimoire.crystallized with
          | error raised => exact raises_error Quiet _ (write_crystal_quiet _ _ raised written)
          | ok crystallized =>
              cases outcome with
              | error raised => exact raises_error Quiet _ (reset raised rfl)
              | ok seeds => exact raises_ok Quiet ()

theorem accumulate_seed_quiet (env : SeedEnv) (asked : AspectSet) (result : SeedCast) (draw : SeedDraw)
    (store : SeedStore) : OnlyRaises Quiet (accumulateSeed env asked result draw store).1 := by
  rw [accumulateSeed]
  cases queried : querySeeds env.registry env.order (some asked) none store.grimoire.seeds with
  | error raised => exact raises_error Quiet _ (query_seeds_quiet _ _ _ _ raised queried)
  | ok seeds =>
      dsimp only
      cases grown : accumulate env.registry env.order draw.seedId result seeds with
      | error raised => exact raises_error Quiet _ (accumulate_quiet _ _ _ _ _ raised grown)
      | ok seed =>
          cases seed with
          | none => exact raises_ok Quiet ()
          | some seed =>
              dsimp only
              cases written : writeSeed (keptId seeds seed) store.grimoire.seeds with
              | error raised => exact raises_error Quiet _ (write_seed_quiet _ _ raised written)
              | ok table => exact crystallize_seed_quiet _ _ _ _

theorem classify_quiet (math : VectorMath) (castId parentCastId : String) (parent child : SemanticVector)
    (thresholds : DivergenceThresholds) (computedAt : Datetime) :
    OnlyRaises Quiet (classify math castId parentCastId parent child thresholds computedAt) := by
  obtain ⟨report, classified, -⟩ := classify_measures math castId parentCastId parent child thresholds computedAt
  rw [classified]
  exact raises_ok Quiet report

theorem channel_state_quiet (channel : Option ChannelState) (result : CastRecord) (stamp : ChannelStamp) :
    OnlyRaises Quiet (ResonanceEngine.channelAfter channel result stamp) := by
  have refused (field : String) : Quiet (invalid "ChannelState" field) :=
    quiet_invalid "ChannelState" field 'C' (by decide) (by decide)
  rw [ResonanceEngine.channelAfter, ChannelState.make]
  split_ifs
  all_goals first | exact raises_error Quiet _ (refused _) | exact raises_ok Quiet _

theorem policy_decision_quiet (model : PolicyModel) (thresholds : PolicyThresholds) (input : DecisionInput)
    (castId : String) (intent : Intent) (parentCastId : Option String) (stamp : DecisionStamp) :
    OnlyRaises Quiet (policyDecision model thresholds input castId intent parentCastId stamp) := by
  have component (name : String) (value weight : ℚ) (explanation : String) :
      OnlyRaises Quiet (scoreComponent name value weight explanation) := by
    have refused (field : String) : Quiet (invalid "ScoreComponent" field) :=
      quiet_invalid "ScoreComponent" field 'S' (by decide) (by decide)
    rw [scoreComponent]
    split_ifs
    all_goals first | exact raises_error Quiet _ (refused _) | exact raises_ok Quiet _
  rw [policyDecision, ruling, scorers]
  apply raises_bind
  · apply raises_bind
    · apply raises_bind _ _ _ (component _ _ _ _)
      intro _ _
      apply raises_bind _ _ _ (component _ _ _ _)
      intro _ _
      apply raises_bind _ _ _ (component _ _ _ _)
      intro _ _
      apply raises_bind _ _ _ (component _ _ _ _)
      intro _ _
      exact raises_ok Quiet _
    · intro _ _
      exact raises_ok Quiet _
  · intro _ _
    exact raises_ok Quiet _

namespace CastProcess

variable (process : CastProcess)

theorem read_cast_quiet (castId : String) : OnlyRaises Quiet (process.readCast castId) := by
  rw [readCast]
  cases process.casts.find? castId with
  | none => exact raises_error Quiet _ (quiet_key castId)
  | some record =>
      apply raises_bind
      · exact resolve_names_quiet process.registry record.sigil.aspects.names
      · intro _ _
        exact raises_ok Quiet _

theorem write_cast_quiet (record : CastRecord) : OnlyRaises Quiet (process.writeCast record) := by
  rw [writeCast]
  cases process.casts.insert? record with
  | none =>
      have text : "CastResult with cast_id '" ++ record.castId ++ "' already exists" =
          "CastResult with cast_id '" ++ (record.castId ++ "' already exists") := String.append_assoc
      refine raises_error Quiet _ ?_
      rw [text]
      exact quiet_text _ _ 'C' (by decide) (by decide)
  | some casts =>
      apply raises_bind
      · exact sql_integer_quiet _
      · intro _ _
        exact raises_ok Quiet _

theorem write_channel_quiet (state : ChannelState) : OnlyRaises Quiet (process.writeChannelState state) := by
  rw [writeChannelState]
  apply raises_bind _ _ _ (sql_integer_quiet _)
  intro _ _
  apply raises_bind _ _ _ (sql_integer_quiet _)
  intro _ _
  apply raises_bind _ _ _ (sql_integer_quiet _)
  intro _ _
  exact raises_ok Quiet _

theorem write_decision_quiet (decision : PolicyDecision) : OnlyRaises Quiet (process.writePolicyDecision decision) := by
  rw [writePolicyDecision]
  by_cases stored : process.casts.Has decision.castId
  · rw [if_pos stored]
    exact raises_ok Quiet _
  · rw [if_neg stored]
    exact raises_error Quiet _ (quiet_runtime _)

theorem attach_parent_quiet (result : CastRecord) (parentCastId branchId : Option String) (draws : CallDraws) :
    OnlyRaises Quiet (process.attachParent result parentCastId branchId draws) := by
  cases parentCastId with
  | none => exact raises_ok Quiet _
  | some parentCastId =>
      rw [attachParent]
      apply raises_bind
      · exact process.read_cast_quiet parentCastId
      · intro parent _
        apply raises_bind
        · exact classify_quiet _ _ _ _ _ _ _
        · intro _ _
          exact raises_ok Quiet _

theorem keep_cast_quiet (asked : AspectSet) (result : CastRecord) (draw : SeedDraw) :
    OnlyRaises Quiet (process.keepCast asked result draw).1 := by
  have grows := accumulate_seed_quiet process.env asked result.seedCast draw process.seeds
  rw [keepCast, growSeed]
  cases grown : (accumulateSeed process.env asked result.seedCast draw process.seeds).1 with
  | error raised => exact raises_error Quiet _ (grows raised grown)
  | ok _ =>
      dsimp only
      cases written : writeCast { process with
          seeds := (accumulateSeed process.env asked result.seedCast draw process.seeds).2 } result with
      | error raised => exact raises_error Quiet _ (write_cast_quiet _ result raised written)
      | ok after => exact raises_ok Quiet _

theorem write_fluid_result_quiet (result : CastRecord) (draws : CallDraws) (draw : SeedDraw) :
    OnlyRaises Quiet (process.writeFluidResult result draws draw).1 := by
  have reports : OnlyRaises Quiet (process.writeFluidReport result draws) := by
    rw [writeFluidReport]
    cases result.lineage with
    | none => exact raises_ok Quiet _
    | some lineage =>
        apply raises_bind
        · exact process.read_cast_quiet lineage.parentCastId
        · intro parent _
          apply raises_bind
          · exact classify_quiet _ _ _ _ _ _ _
          · intro _ _
            exact raises_ok Quiet _
  rw [writeFluidResult]
  cases written : process.writeFluidReport result draws with
  | error raised => exact raises_error Quiet _ (reports raised written)
  | ok reported => exact reported.keep_cast_quiet _ _ _

theorem write_results_quiet (draws : CallDraws) (results : List CastRecord) (place : Nat) :
    OnlyRaises Quiet (writeResults draws results place process).1 := by
  induction results generalizing place process with
  | nil => exact raises_ok Quiet ()
  | cons result rest ih =>
      have quiet := process.write_fluid_result_quiet result draws (draws.seed place)
      rw [writeResults]
      cases written : process.writeFluidResult result draws (draws.seed place) with
      | mk outcome left =>
          rw [written] at quiet
          cases outcome with
          | error raised => exact raises_error Quiet _ (quiet raised rfl)
          | ok _ => exact ih left (place + 1)

theorem geometric_channel_quiet (arguments : GeometricArguments) (result : CastRecord) (draws : CallDraws) :
    OnlyRaises Quiet (process.geometricChannel arguments result draws) := by
  rw [geometricChannel]
  cases arguments.branchId with
  | none => exact raises_ok Quiet _
  | some branchId =>
      apply raises_bind
      · exact channel_state_quiet _ _ _
      · intro state _
        exact process.write_channel_quiet state

theorem decide_status_quiet (arguments : DecideArguments) (result : CastRecord) (draws : CallDraws) :
    OnlyRaises Quiet (process.decideStatus arguments result draws) := by
  rw [decideStatus]
  cases arguments.parentCastId with
  | none => exact raises_ok Quiet _
  | some parentCastId =>
      apply raises_bind
      · exact process.read_cast_quiet parentCastId
      · intro parent _
        apply raises_bind
        · exact classify_quiet _ _ _ _ _ _ _
        · intro _ _
          exact raises_ok Quiet _

end CastProcess

end Vermyth
