import Vermyth.Adapters.Scope
import Vermyth.Arcane.Recommend

set_option autoImplicit false

namespace Vermyth

open Foundation

structure Recommends (env : RuleEnv) (skillId : String) (arguments : List (String × Json))
    (manifest : BundleManifest) (spec : BundleRecommendationSpec) (tier : RecommendationTier) : Prop where
  declared : manifest.recommendation = some spec
  targets : skillId ∈ spec.targetSkills
  first : ∃ before after, spec.tiers = before ++ tier :: after ∧
    ∀ other ∈ before, allRules env arguments other.requireAll = .ok false
  passes : allRules env arguments tier.requireAll = .ok true

section Rows

variable (env : RuleEnv) (skillId : String) (arguments : List (String × Json))

theorem first_tier_found (tiers : List RecommendationTier) (tier : RecommendationTier)
    (found : firstTier env arguments tiers = .ok (some tier)) :
    allRules env arguments tier.requireAll = .ok true ∧ ∃ before after, tiers = before ++ tier :: after ∧
      ∀ other ∈ before, allRules env arguments other.requireAll = .ok false := by
  induction tiers with
  | nil => cases found
  | cons own rest ih =>
      obtain ⟨holds, checked, next⟩ := (bind_ok _ _ _).mp found
      cases holds with
      | true =>
          cases next
          exact ⟨checked, [], rest, rfl, fun _ member => absurd member List.not_mem_nil⟩
      | false =>
          obtain ⟨passes, before, after, rfl, failed⟩ := ih next
          exact ⟨passes, own :: before, after, rfl, List.forall_mem_cons.mpr ⟨checked, failed⟩⟩

theorem first_tier_of (before after : List RecommendationTier) (tier : RecommendationTier)
    (failed : ∀ other ∈ before, allRules env arguments other.requireAll = .ok false)
    (passes : allRules env arguments tier.requireAll = .ok true) :
    firstTier env arguments (before ++ tier :: after) = .ok (some tier) := by
  induction before with
  | nil => exact bind_step passes _
  | cons own rest ih =>
      obtain ⟨first, others⟩ := List.forall_mem_cons.mp failed
      exact (bind_step first _).trans (ih others)

theorem evaluate_rows (manifest : BundleManifest) (rows : List RecommendationRow)
    (evaluated : evaluateBundle env skillId arguments manifest = .ok rows) (row : RecommendationRow) :
    row ∈ rows ↔ ∃ spec tier, Recommends env skillId arguments manifest spec tier ∧
      row = recommendationRow manifest spec tier := by
  rw [evaluateBundle] at evaluated
  cases declared : manifest.recommendation with
  | none =>
      rw [declared] at evaluated
      cases evaluated
      refine iff_of_false List.not_mem_nil fun recommended => ?_
      obtain ⟨spec, tier, own, -⟩ := recommended
      rw [own.declared] at declared
      cases declared
  | some spec =>
      rw [declared] at evaluated
      by_cases targets : skillId ∈ spec.targetSkills
      · simp only [if_pos targets] at evaluated
        obtain ⟨found, first, made⟩ := (bind_ok _ _ _).mp evaluated
        cases made
        constructor
        · intro member
          obtain ⟨tier, rfl, rfl⟩ := Option.map_eq_some_iff.mp (Option.mem_toList.mp member)
          obtain ⟨passes, place⟩ := first_tier_found env arguments spec.tiers tier first
          exact ⟨spec, tier, ⟨declared, targets, place, passes⟩, rfl⟩
        · intro recommended
          obtain ⟨other, tier, own, rfl⟩ := recommended
          rw [own.declared] at declared
          cases declared
          obtain ⟨before, after, split, failed⟩ := own.first
          rw [split, first_tier_of env arguments before after tier failed own.passes] at first
          cases first
          exact List.mem_singleton.mpr rfl
      · simp only [if_neg targets] at evaluated
        cases evaluated
        refine iff_of_false List.not_mem_nil fun recommended => targets ?_
        obtain ⟨other, tier, own, -⟩ := recommended
        have both := own.declared
        rw [declared] at both
        cases both
        exact own.targets

theorem evaluate_bundles (bundleIds : List String) (process : BundleProcess) (rows : List RecommendationRow)
    (evaluated : (evaluateBundles env skillId arguments bundleIds process).1 = .ok rows) :
    ∃ manifests, process.loadPrimaries env.toCastCodec bundleIds =
        (.ok manifests, (evaluateBundles env skillId arguments bundleIds process).2) ∧
      ∀ row, row ∈ rows ↔ ∃ manifest ∈ manifests, ∃ spec tier,
        Recommends env skillId arguments manifest spec tier ∧ row = recommendationRow manifest spec tier := by
  induction bundleIds generalizing process rows with
  | nil =>
      cases evaluated
      exact ⟨[], rfl, fun row => ⟨fun member => absurd member List.not_mem_nil,
        fun found => absurd found.choose_spec.1 List.not_mem_nil⟩⟩
  | cons bundleId rest ih =>
      obtain ⟨manifest, loaded, isOwn⟩ := BundleProcess.then_ok _ _ rows evaluated
      change evaluateBundles env skillId arguments (bundleId :: rest) process = _ at isOwn
      rw [isOwn] at evaluated
      obtain ⟨own, ofOwn, isRest⟩ := BundleProcess.then_ok _ _ rows evaluated
      rw [isRest] at evaluated
      obtain ⟨others, ofRest, isLast⟩ := BundleProcess.then_ok _ _ rows evaluated
      rw [isLast] at evaluated
      obtain ⟨manifests, more, exactly⟩ := ih _ others ofRest
      refine ⟨manifest :: manifests, ?_, ?_⟩
      · rw [isOwn, isRest, isLast, BundleProcess.loadPrimaries]
        have paired : process.loadPrimary env.toCastCodec bundleId =
            (.ok manifest, (process.loadPrimary env.toCastCodec bundleId).2) := Prod.ext loaded rfl
        rw [paired]
        change BundleProcess.andThen (BundleProcess.loadPrimaries env.toCastCodec rest _) _ = _
        rw [more]
        rfl
      · intro row
        cases evaluated
        rw [List.mem_append, evaluate_rows env skillId arguments manifest own ofOwn row, exactly row]
        constructor
        · rintro (first | ⟨later, member, found⟩)
          · exact ⟨manifest, List.mem_cons_self, first⟩
          · exact ⟨later, List.mem_cons_of_mem _ member, found⟩
        · rintro ⟨later, member, found⟩
          obtain rfl | inRest := List.mem_cons.mp member
          · exact .inl found
          · exact .inr ⟨later, inRest, found⟩

end Rows

theorem before_refl (row : RecommendationRow) : row.Before row := .inr ⟨rfl, le_refl _⟩

instance : IsTrans RecommendationRow RecommendationRow.Before := ⟨by
  rintro a b c (less | ⟨same, first⟩) (lessNext | ⟨sameNext, second⟩)
  · exact .inl (lt_trans lessNext less)
  · exact .inl (sameNext ▸ less)
  · exact .inl (same ▸ lessNext)
  · exact .inr ⟨same.trans sameNext, le_trans first second⟩⟩

instance : Std.Total RecommendationRow.Before := ⟨by
  intro a b
  rcases lt_trichotomy a.strength b.strength with less | same | greater
  · exact .inr (.inl less)
  · rcases le_total a.bundleId b.bundleId with first | second
    · exact .inl (.inr ⟨same, first⟩)
    · exact .inr (.inr ⟨same.symm, second⟩)
  · exact .inl (.inl greater)⟩

theorem dict_pop_set (fields : List (String × Json)) (key : String) (value : Json) :
    dictPop key (dictSet fields (key, value)) = dictPop key fields := by
  have popped : ∀ own : List (String × Json),
      dictPop key (own.map fun old => if old.1 = key then (key, value) else old) = dictPop key own := by
    intro own
    induction own with
    | nil => rfl
    | cons field rest ih =>
        rw [dictPop, dictPop] at ih
        rw [dictPop, dictPop, List.map_cons]
        by_cases same : field.1 = key
        · rw [if_pos same, List.filter_cons_of_neg (by simp), List.filter_cons_of_neg (by simpa using same), ih]
        · rw [if_neg same, List.filter_cons_of_pos (by simpa using same),
            List.filter_cons_of_pos (by simpa using same), ih]
  rw [dictSet]
  by_cases present : (key, value).1 ∈ fields.map Prod.fst
  · rw [if_pos present]
    exact popped fields
  · rw [if_neg present, dictPop, List.filter_append, List.filter_cons_of_neg (by simp), List.filter_nil,
      List.append_nil]
    rfl

theorem strip_set (input : List (String × Json)) (value : Json) :
    stripBundleKeys (dictSet input ("semantic_bundle", value)) = stripBundleKeys input := by
  rw [stripBundleKeys, stripBundleKeys, dict_pop_set]

theorem dict_of_has (pairs base : List (String × Json)) (key : String)
    (present : (base.lookup key).isSome ∨ key ∈ pairs.map Prod.fst) :
    ((pairs.foldl dictSet base).lookup key).isSome := by
  induction pairs generalizing base with
  | nil => exact present.resolve_right List.not_mem_nil
  | cons pair rest ih =>
      obtain ⟨own, value⟩ := pair
      rw [List.foldl_cons]
      refine ih _ ?_
      rw [lookup_dict_set]
      by_cases same : key = own
      · rw [if_pos same]
        exact .inl rfl
      · rw [if_neg same]
        refine present.imp_right fun member => ?_
        exact (List.mem_cons.mp member).resolve_left same

theorem placeholders_complete (paramKeys : List String) :
    (paramKeys.filter fun key => ((placeholderParams paramKeys).lookup key).isNone) = [] := by
  refine List.filter_eq_nil_iff.mpr fun key member => ?_
  have present : ((placeholderParams paramKeys).lookup key).isSome := by
    refine dict_of_has _ [] key (.inr ?_)
    rw [List.map_map]
    exact List.mem_map.mpr ⟨key, member, rfl⟩
  rw [Option.isNone_eq_false_iff.mpr present]
  exact Bool.false_ne_true

theorem py_dict_obj (fields : List (String × Json)) : pyDict (.obj fields) = .ok fields := by
  cases fields <;> rfl

section Adopted

variable {ω : Type} (env : GatewayEnv ω)

theorem compile_upgrade (text : ∀ own, env.pyStr (.str own) = own) (manifest : SemanticBundleManifest)
    (loads : env.loadBundle manifest.id manifest.version = .ok manifest) :
    compileSemanticBundleRef env (upgradeRef manifest) =
      compileManifest env manifest (placeholderParams manifest.paramKeys) := by
  change (do
    let params ← pyDict (.obj (placeholderParams manifest.paramKeys))
    let own ← env.loadBundle (env.pyStr (.str manifest.id)) manifest.version
    let missing := own.paramKeys.filter fun key => (params.lookup key).isNone
    if !missing.isEmpty then
      .error (.valueError ("bundle " ++ env.pyStr (.str manifest.id) ++ " missing params: " ++ toString missing))
    else compileManifest env own params) = _
  rw [text, py_dict_obj]
  refine (bind_step loads _).trans ?_
  dsimp only
  rw [placeholders_complete]
  rfl

theorem compile_provenance (manifest : SemanticBundleManifest) (params : List (String × Json))
    (inv : CompiledInvocation) (compiled : compileManifest env manifest params = .ok inv) :
    inv.skillId = manifest.kind.skillId ∧
      inv.arcaneProvenance = [("bundle_id", .str manifest.id), ("bundle_version", .int manifest.version),
        ("kind", .str manifest.kind.skillId)] := by
  obtain ⟨body, -, rest⟩ := (bind_ok _ _ _).mp compiled
  cases kind : manifest.kind with
  | decide =>
      simp only [kind] at rest
      obtain ⟨input, -, made⟩ := (bind_ok _ _ _).mp rest
      cases made
      exact ⟨rfl, rfl⟩
  | cast | compileProgram =>
      simp only [kind] at rest
      cases rest
      exact ⟨rfl, rfl⟩

theorem upgrade_extracted (manifest : SemanticBundleManifest) (input : List (String × Json)) :
    extractSemanticBundleRef (dictSet input ("semantic_bundle", .obj (upgradeRef manifest))) =
      some (upgradeRef manifest) := by
  rw [extractSemanticBundleRef, lookup_dict_set, if_pos rfl]

theorem upgrade_expands (text : ∀ own, env.pyStr (.str own) = own) (manifest : SemanticBundleManifest)
    (loads : env.loadBundle manifest.id manifest.version = .ok manifest) (skillId : String)
    (input : List (String × Json)) :
    expandTaskInput env skillId (dictSet input ("semantic_bundle", .obj (upgradeRef manifest))) =
      (compileManifest env manifest (placeholderParams manifest.paramKeys)).map fun inv =>
        (manifest.kind.skillId, dictMerge (stripBundleKeys input) inv.input,
          some [("bundle_id", .str manifest.id), ("bundle_version", .int manifest.version),
            ("kind", .str manifest.kind.skillId)]) := by
  rw [expandTaskInput, upgrade_extracted]
  change (compileSemanticBundleRef env (upgradeRef manifest) >>= fun inv =>
    .ok (inv.skillId, dictMerge (stripBundleKeys _) inv.input, some inv.arcaneProvenance)) = _
  rw [compile_upgrade env text manifest loads, strip_set]
  cases compiled : compileManifest env manifest (placeholderParams manifest.paramKeys) with
  | error raised => rfl
  | ok inv =>
      obtain ⟨skill, provenance⟩ := compile_provenance env manifest _ inv compiled
      rw [← provenance, ← skill]
      rfl

end Adopted

theorem listed_within (served : List (BundleKey × BundleManifest)) (bundleIds : List String)
    (manifests : List BundleManifest) (paired : bundleIds.length = manifests.length) (distinct : bundleIds.Nodup)
    (few : bundleIds.length ≤ 32) (pair : String × BundleManifest) (member : pair ∈ bundleIds.zip manifests) :
    Within 32 (served ++ List.zipWith BundleLedger.primaryEntry bundleIds manifests) (pair.1, pair.2.version)
      pair.2 := by
  obtain ⟨before, after, split⟩ := List.append_of_mem member
  have names : before.map Prod.fst ++ pair.1 :: after.map Prod.fst = bundleIds := by
    rw [← List.map_cons, ← List.map_append, ← split, List.map_fst_zip paired.le]
  let entry (own : String × BundleManifest) := BundleLedger.primaryEntry own.1 own.2
  have log : List.zipWith BundleLedger.primaryEntry bundleIds manifests =
      before.map entry ++ ((pair.1, (pair.2.version : Int)), pair.2) :: after.map entry := by
    rw [← List.map_uncurry_zip_eq_zipWith, split, List.map_append, List.map_cons]
    rfl
  refine ⟨served ++ before.map entry, after.map entry, by rw [log, List.append_assoc], ?_, ?_⟩
  · intro repeated
    rw [List.map_map] at repeated
    obtain ⟨other, inAfter, same⟩ := List.mem_map.mp repeated
    rw [← names] at distinct
    refine (List.nodup_cons.mp (List.nodup_append.mp distinct).2.1).1 ?_
    rw [← congrArg Prod.fst same]
    exact List.mem_map_of_mem inAfter
  · refine (List.dedup_sublist _).length_le.trans_lt ?_
    rw [List.length_map, List.length_map]
    have total := congrArg List.length names
    rw [List.length_append, List.length_cons, List.length_map, List.length_map] at total
    omega

theorem ids_distinct (shelf : Shelf) : shelf.listBundleIds.Nodup :=
  (List.perm_insertionSort _ _).nodup_iff.mpr (List.nodup_dedup _)

theorem has_upgrade (manifest : SemanticBundleManifest) (input : List (String × Json)) :
    hasBundleRef (dictSet input ("semantic_bundle", .obj (upgradeRef manifest))) = true := by
  rw [hasBundleRef, upgrade_extracted]
  rfl

theorem listed_serves (codec : CastCodec) (reads : codec.coerce.ReadsAsInt) (shelf : Shelf) (moves : List BundleMove)
    (bundleIds : List String) (manifests : List BundleManifest) (distinct : bundleIds.Nodup)
    (few : bundleIds.length ≤ 32) (named : ∀ pair ∈ bundleIds.zip manifests, pair.2.id = pair.1)
    (loaded : ((BundleLedger.run codec shelf moves).process.loadPrimaries codec bundleIds).1 = .ok manifests)
    (manifest : BundleManifest) (member : manifest ∈ manifests) :
    (((BundleLedger.run codec shelf moves).process.loadPrimaries codec bundleIds).2.load codec
      (manifest.id, manifest.version)).1 = .ok manifest := by
  obtain ⟨versions, keys, process, log⟩ := BundleLedger.primaries_served reads shelf moves bundleIds manifests loaded
  have paired := versions.length_eq
  have inZip : ∃ bundleId, (bundleId, manifest) ∈ bundleIds.zip manifests := by
    rw [← List.map_snd_zip paired.ge] at member
    obtain ⟨pair, inside, rfl⟩ := List.mem_map.mp member
    exact ⟨pair.1, inside⟩
  obtain ⟨bundleId, inside⟩ := inZip
  have own : manifest.id = bundleId := named _ inside
  have within := listed_within (BundleLedger.run codec shelf moves).served bundleIds manifests paired distinct few _
    inside
  rw [← log] at within
  rw [process, own]
  exact Lru.call_kept _ _ _ _ manifest (BundleLedger.run_sound shelf _).tracks within

theorem recommendations_exact {ω : Type} (env : RuleEnv) (gateway : GatewayEnv ω)
    (reads : env.coerce.ReadsAsInt) (text : ∀ own, gateway.pyStr (.str own) = own) (shelf : Shelf)
    (moves : List BundleMove) (skillId : String) (arguments : List (String × Json)) (minStrength : ℚ)
    (report : RecommendationReport) (plain : hasBundleRef arguments = false)
    (asked : (recommendForPlainInvocation env skillId arguments minStrength
      (BundleLedger.run env.toCastCodec shelf moves).process).1 = .ok report) :
    let codec := env.toCastCodec
    let before := (BundleLedger.run codec shelf moves).process
    let after := (recommendForPlainInvocation env skillId arguments minStrength before).2
    OnlyLoads codec before after ∧ ∃ manifests,
      List.Forall₂ (fun bundleId manifest =>
          before.shelf.primaryVersion codec bundleId = .ok (manifest : BundleManifest).version)
        before.shelf.listBundleIds manifests ∧
      (∀ row ∈ report.recommendations, minStrength ≤ row.strength ∧ ∃ manifest ∈ manifests, ∃ spec tier,
        Recommends env skillId arguments manifest spec tier ∧ row = recommendationRow manifest spec tier) ∧
      (∀ manifest ∈ manifests, ∀ spec tier, Recommends env skillId arguments manifest spec tier →
        minStrength ≤ tier.strength →
        ∃ row ∈ report.recommendations, row.bundleId = manifest.id ∧
          row.Before (recommendationRow manifest spec tier)) ∧
      (report.recommendations.map RecommendationRow.bundleId).Nodup ∧
      report.recommendations.Pairwise RecommendationRow.Before ∧
      ((∀ pair ∈ before.shelf.listBundleIds.zip manifests, pair.2.id = pair.1) →
        before.shelf.listBundleIds.length ≤ 32 → ∀ row ∈ report.recommendations, ∃ manifest ∈ manifests,
          ∃ spec tier ref, Recommends env skillId arguments manifest spec tier ∧
          row = recommendationRow manifest spec tier ∧ item row.guidedUpgrade "semantic_bundle" = .ok (.obj ref) ∧
          ∀ (skill : String) (input : List (String × Json)),
            expandTaskInput (after.gateway codec gateway) skill (dictSet input ("semantic_bundle", .obj ref)) =
              ((compileManifest (after.gateway codec gateway) manifest.toSemanticBundleManifest
                (placeholderParams manifest.paramKeys)).map fun inv =>
                (row.targetSkill, dictMerge (stripBundleKeys input) inv.input,
                  some [("bundle_id", .str row.bundleId), ("bundle_version", .int row.version),
                    ("kind", .str row.targetSkill)])) ∧
            (recommendForPlainInvocation env skill (dictSet input ("semantic_bundle", .obj ref)) minStrength
              after).1.map RecommendationReport.recommendations = .ok []) := by
  intro codec before after
  have isPlain : ¬ hasBundleRef arguments = true := by
    rw [plain]
    exact Bool.false_ne_true
  have evaluates : recommendForPlainInvocation env skillId arguments minStrength before = _ := if_neg isPlain
  change (recommendForPlainInvocation env skillId arguments minStrength before).1 = .ok report at asked
  rw [evaluates] at asked
  obtain ⟨rows, evaluated, reported⟩ := BundleProcess.then_ok _ _ report asked
  rw [reported] at asked
  cases asked
  obtain ⟨manifests, loaded, exactly⟩ := evaluate_bundles env skillId arguments _ before rows evaluated
  have state : after = (before.loadPrimaries codec before.shelf.listBundleIds).2 := by
    rw [loaded]
    exact congrArg Prod.snd (evaluates.trans reported)
  have listed : (before.loadPrimaries codec before.shelf.listBundleIds).1 = .ok manifests :=
    congrArg Prod.fst loaded
  have chosen := strongest_chosen RecommendationRow.bundleId RecommendationRow.Before before_refl
    (rows.filter fun row => minStrength ≤ row.strength)
  refine ⟨?_, manifests, (BundleLedger.primaries_served reads shelf moves _ manifests listed).1, ?_, ?_,
    chosen.distinct, chosen.sorted, ?_⟩
  · rw [state]
    exact BundleProcess.primaries_loads codec before _
  · intro row member
    obtain ⟨inRows, strong⟩ := List.mem_filter.mp (chosen.chosenOf row member)
    exact ⟨of_decide_eq_true strong, (exactly row).mp inRows⟩
  · intro manifest member spec tier recommends strong
    have inRows := (exactly _).mpr ⟨manifest, member, spec, tier, recommends, rfl⟩
    exact chosen.covers _ (List.mem_filter.mpr ⟨inRows, decide_eq_true strong⟩)
  · intro named few row member
    obtain ⟨inRows, -⟩ := List.mem_filter.mp (chosen.chosenOf row member)
    obtain ⟨manifest, inside, spec, tier, recommends, rfl⟩ := (exactly row).mp inRows
    have serves := listed_serves codec reads shelf moves _ manifests (ids_distinct before.shelf) few named listed
      manifest inside
    refine ⟨manifest, inside, spec, tier, upgradeRef manifest.toSemanticBundleManifest, recommends, rfl, rfl, ?_⟩
    intro skill input
    constructor
    · refine upgrade_expands (after.gateway codec gateway) text manifest.toSemanticBundleManifest ?_ skill input
      change (after.load codec (manifest.id, manifest.version)).1.map _ = _
      rw [state, serves]
      rfl
    · have adopted := has_upgrade manifest.toSemanticBundleManifest input
      rw [recommendForPlainInvocation, if_pos adopted]
      rfl

def plainRuleEnv : RuleEnv := { plainCodec with upper := String.toUpper }

def pingText : String :=
  "\x7b\"id\": \"ping\", \"version\": 2, \"kind\": \"cast\", \"template\": \x7b\"objective\": \"ping\"\x7d, " ++
    "\"recommendation\": \x7b\"target_skills\": [\"cast\"], \"why_better\": \"shorter\", \"tiers\": " ++
    "[\x7b\"match_kind\": \"exact\", \"strength\": 1, \"require_all\": " ++
    "[\x7b\"op\": \"objective_starts_with\", \"value\": \"ping\"\x7d]\x7d]\x7d\x7d"

def pingShelf : Shelf :=
  { package := { stems := ["ping"], file := fun bundleId =>
      if bundleId = "ping" then some (.ok pingText.toList) else none } }

def pingArguments : List (String × Json) := [("objective", .str "ping the peer")]

theorem ping_recommended : ∃ report after,
    recommendForPlainInvocation plainRuleEnv "cast" pingArguments defaultMinStrength
      (BundleLedger.run plainCodec pingShelf [.restart]).process = (.ok report, after) ∧
    report.recommendations.map RecommendationRow.bundleId = ["ping"] ∧
    ∀ row ∈ report.recommendations, defaultMinStrength ≤ row.strength ∧ ∃ ref,
      item row.guidedUpgrade "semantic_bundle" = .ok (.obj ref) ∧
        (recommendForPlainInvocation plainRuleEnv "cast" (dictSet pingArguments ("semantic_bundle", .obj ref))
          defaultMinStrength after).1.map RecommendationReport.recommendations = .ok [] := by
  have answers : ((recommendForPlainInvocation plainRuleEnv "cast" pingArguments defaultMinStrength
      (BundleLedger.run plainCodec pingShelf [.restart]).process).1.toOption.any fun report =>
        decide (report.recommendations.map RecommendationRow.bundleId = ["ping"])) = true := by decide +kernel
  obtain ⟨report, asked, listed⟩ := ok_where _ _ answers
  have ids : report.recommendations.map RecommendationRow.bundleId = ["ping"] := of_decide_eq_true listed
  obtain ⟨-, manifests, versions, rows, -, -, -, adopted⟩ := recommendations_exact plainRuleEnv probeEnv
    plain_reads_as_int (fun _ => rfl) pingShelf [.restart] "cast" pingArguments defaultMinStrength report rfl asked
  have shelved : (BundleLedger.run plainRuleEnv.toCastCodec pingShelf [.restart]).process.shelf.listBundleIds =
      ["ping"] := by decide +kernel
  rw [shelved] at versions adopted
  obtain ⟨manifest, others, -, none, rfl⟩ := List.forall₂_cons_left_iff.mp versions
  obtain rfl := List.forall₂_nil_left_iff.mp none
  have named (row : RecommendationRow) (member : row ∈ report.recommendations) : manifest.id = "ping" := by
    obtain ⟨-, own, isOwn, spec, tier, -, rfl⟩ := rows row member
    have isPing := List.mem_map_of_mem (f := RecommendationRow.bundleId) member
    rw [ids] at isPing
    rw [← List.mem_singleton.mp isOwn]
    exact List.mem_singleton.mp isPing
  refine ⟨report, (recommendForPlainInvocation plainRuleEnv "cast" pingArguments defaultMinStrength
    (BundleLedger.run plainCodec pingShelf [.restart]).process).2, by rw [← asked], ids,
    fun row member => ⟨(rows row member).1, ?_⟩⟩
  obtain ⟨_, _, _, _, ref, _, _, upgrade, again⟩ := adopted (fun pair isPair => by
    obtain rfl := List.mem_singleton.mp isPair
    exact named row member) (by decide) row member
  exact ⟨ref, upgrade, (again "cast" pingArguments).2⟩

end Vermyth
