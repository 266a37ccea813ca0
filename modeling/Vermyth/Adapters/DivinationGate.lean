import Vermyth.Adapters.Scope
import Vermyth.Arcane.WardDocuments
import Vermyth.Casting.BasisMismatch
import Vermyth.Casting.DecideDispatch

set_option autoImplicit false

namespace Vermyth

theorem dict_of_absent (fields : List (String × Json)) (key : String) (absent : ∀ field ∈ fields, field.1 ≠ key) :
    (dictOf fields).lookup key = none := by
  induction fields with
  | nil => rfl
  | cons field rest ih =>
      obtain ⟨own, value⟩ := field
      rw [List.forall_mem_cons] at absent
      rw [dictOf, List.foldl_cons, lookup_dict_update, ih absent.2, lookup_dict_set, if_neg (Ne.symm absent.1)]
      rfl

theorem dict_of_only (fields : List (String × Json)) (key : String) (value : Json)
    (present : ∃ field ∈ fields, field.1 = key) (only : ∀ field ∈ fields, field.1 = key → field.2 = value) :
    (dictOf fields).lookup key = some value := by
  induction fields with
  | nil =>
      obtain ⟨field, member, -⟩ := present
      exact absurd member List.not_mem_nil
  | cons field rest ih =>
      obtain ⟨own, first⟩ := field
      rw [List.forall_mem_cons] at only
      rw [dictOf, List.foldl_cons, lookup_dict_update]
      by_cases later : ∃ field ∈ rest, field.1 = key
      · rw [ih later only.2]
        rfl
      · push Not at later
        obtain ⟨field, member, named⟩ := present
        rcases List.mem_cons.mp member with rfl | other
        · rw [dict_of_absent rest key later, lookup_dict_set, if_pos named.symm, ← only.1 named]
          rfl
        · exact absurd named (later field other)

theorem merged_only (base other : List (String × Json)) (key : String) (value : Json)
    (present : ∃ field ∈ other, field.1 = key) (only : ∀ field ∈ other, field.1 = key → field.2 = value) :
    (dictMerge base other).lookup key = some value := by
  rw [dictMerge, lookup_dict_update, dict_of_only other key value present only]
  rfl

theorem mem_dict_set (base : List (String × Json)) (own : String) (value : Json) (field : String × Json)
    (member : field ∈ dictSet base (own, value)) : field = (own, value) ∨ (field ∈ base ∧ field.1 ≠ own) := by
  rw [dictSet] at member
  split_ifs at member with held
  · obtain ⟨old, inside, rfl⟩ := List.mem_map.mp member
    by_cases replaced : old.1 = own
    · exact Or.inl (if_pos replaced)
    · rw [if_neg replaced]
      exact Or.inr ⟨inside, replaced⟩
  · rcases List.mem_append.mp member with inside | last
    · exact Or.inr ⟨inside, fun same => held (List.mem_map.mpr ⟨field, inside, same⟩)⟩
    · exact Or.inl (List.mem_singleton.mp last)

theorem dict_set_present (base : List (String × Json)) (own : String) (value : Json) :
    ∃ field ∈ dictSet base (own, value), field.1 = own := by
  rw [dictSet]
  split_ifs with held
  · obtain ⟨old, inside, named⟩ := List.mem_map.mp held
    exact ⟨(own, value), List.mem_map.mpr ⟨old, inside, if_pos named⟩, rfl⟩
  · exact ⟨(own, value), List.mem_append_right _ List.mem_cons_self, rfl⟩

theorem dict_set_keeps (base : List (String × Json)) (own key : String) (value : Json) (different : key ≠ own)
    (present : ∃ field ∈ base, field.1 = key) : ∃ field ∈ dictSet base (own, value), field.1 = key := by
  obtain ⟨field, member, named⟩ := present
  refine ⟨field, ?_, named⟩
  have kept : field.1 ≠ own := fun same => different (named.symm.trans same)
  rw [dictSet]
  split_ifs with held
  · exact List.mem_map.mpr ⟨field, member, if_neg kept⟩
  · exact List.mem_append_left _ member

variable {ω : Type}

-- The bundle that a reference loads, and the parameters it gives.
def BundleOf (env : GatewayEnv ω) (ref : List (String × Json)) (manifest : SemanticBundleManifest)
    (params : List (String × Json)) : Prop :=
  ∃ bundleId versionText version, ref.lookup "bundle_id" = some bundleId ∧ ref.lookup "version" = some versionText ∧
    pyInt versionText = .ok version ∧ pyDict (payloadGet ref "params" .null) = .ok params ∧
    env.loadBundle (env.pyStr bundleId) version = .ok manifest

section Compile

variable (env : GatewayEnv ω)

theorem bundle_of_named (ref : List (String × Json)) (manifest : SemanticBundleManifest)
    (params : List (String × Json)) (names : BundleOf env ref manifest params) : ref ≠ [] := by
  obtain ⟨bundleId, -, -, held, -⟩ := names
  rintro rfl
  cases held

theorem compile_ref_bundle (ref : List (String × Json)) (manifest : SemanticBundleManifest)
    (params : List (String × Json)) (inv : CompiledInvocation) (names : BundleOf env ref manifest params)
    (compiled : compileSemanticBundleRef env ref = .ok inv) : compileManifest env manifest params = .ok inv := by
  obtain ⟨bundleId, versionText, version, hasId, hasVersion, reads, given, loads⟩ := names
  simp only [compileSemanticBundleRef, hasId, hasVersion, bind_ok] at compiled
  obtain ⟨name, named, own, same, others, alike, loaded, found, compiled⟩ := compiled
  obtain rfl := Except.ok.inj named
  obtain rfl := Except.ok.inj (same.symm.trans reads)
  obtain rfl := Except.ok.inj (alike.symm.trans given)
  obtain rfl := Except.ok.inj (found.symm.trans loads)
  split_ifs at compiled
  · contradiction
  · exact compiled

theorem format_lookup (params fields formatted : List (String × Json)) (key : String) (value : Json)
    (formats : formatFields env params fields = .ok formatted) (held : fields.lookup key = some value) :
    ∃ own, formatTemplate env params value = .ok own ∧ formatted.lookup key = some own := by
  induction fields generalizing formatted with
  | nil => cases held
  | cons field rest ih =>
      obtain ⟨first, entry⟩ := field
      rw [formatFields, bind_ok] at formats
      obtain ⟨own, shown, formats⟩ := formats
      obtain ⟨others, later, formats⟩ := (bind_ok _ _ _).mp formats
      obtain rfl := Except.ok.inj formats
      rw [lookup_entry] at held
      by_cases here : key = first
      · rw [if_pos here] at held
        obtain rfl := Option.some.inj held
        exact ⟨own, shown, by rw [lookup_entry, if_pos here]⟩
      · rw [if_neg here] at held
        obtain ⟨found, made, kept⟩ := ih others later held
        exact ⟨found, made, by rw [lookup_entry, if_neg here, kept]⟩

theorem format_object (params fields : List (String × Json)) (own : Json)
    (formats : formatTemplate env params (.obj fields) = .ok own) :
    ∃ formatted, formatFields env params fields = .ok formatted ∧ own = .obj formatted := by
  rw [formatTemplate, bind_ok] at formats
  obtain ⟨formatted, shown, formats⟩ := formats
  exact ⟨formatted, shown, (Except.ok.inj formats).symm⟩

theorem format_items_empty (params : List (String × Json)) (items formatted : List Json)
    (formats : formatItems env params items = .ok formatted) : formatted.isEmpty = items.isEmpty := by
  cases items with
  | nil =>
      obtain rfl := Except.ok.inj formats
      rfl
  | cons item rest =>
      rw [formatItems, bind_ok] at formats
      obtain ⟨first, -, formats⟩ := formats
      obtain ⟨others, -, formats⟩ := (bind_ok _ _ _).mp formats
      obtain rfl := Except.ok.inj formats
      rfl

theorem format_fields_empty (params fields formatted : List (String × Json))
    (formats : formatFields env params fields = .ok formatted) : formatted.isEmpty = fields.isEmpty := by
  cases fields with
  | nil =>
      obtain rfl := Except.ok.inj formats
      rfl
  | cons field rest =>
      obtain ⟨key, value⟩ := field
      rw [formatFields, bind_ok] at formats
      obtain ⟨first, -, formats⟩ := formats
      obtain ⟨others, -, formats⟩ := (bind_ok _ _ _).mp formats
      obtain rfl := Except.ok.inj formats
      rfl

-- Thresholds that are there, and that the parameters do not make empty where
-- they are a text.
def CarriesThresholds (params div : List (String × Json)) : Prop :=
  ∃ ward, div.lookup "thresholds" = some ward ∧ ward.truthy = true ∧
    ∀ text, ward = .str text → env.formatText text params ≠ .ok ""

theorem format_truthy (params : List (String × Json)) (value own : Json)
    (formats : formatTemplate env params value = .ok own) (filled : value.truthy = true)
    (texts : ∀ text, value = .str text → env.formatText text params ≠ .ok "") : own.truthy = true := by
  cases value with
  | str text =>
      rw [formatTemplate] at formats
      split at formats
      · rename_i shown read
        obtain rfl := Except.ok.inj formats
        refine bne_iff_ne.mpr ?_
        rintro rfl
        exact texts text rfl read
      · obtain rfl := Except.ok.inj formats
        exact filled
      · contradiction
  | arr items =>
      rw [formatTemplate, bind_ok] at formats
      obtain ⟨formatted, shown, formats⟩ := formats
      obtain rfl := Except.ok.inj formats
      rw [Json.truthy, format_items_empty env params items formatted shown]
      exact filled
  | obj fields =>
      obtain ⟨formatted, shown, rfl⟩ := format_object env params fields own formats
      rw [Json.truthy, format_fields_empty env params fields formatted shown]
      exact filled
  | _ =>
      obtain rfl := Except.ok.inj formats
      exact filled

theorem divined_input (body inp div : List (String × Json)) (divines : body.lookup "_divination" = some (.obj div))
    (requires : div.lookup "require_causal_context" = some (.bool true))
    (applied : applyDivination env body = .ok inp) :
    ((∃ field ∈ inp, field.1 = "__require_causal_root__") ∧
        ∀ field ∈ inp, field.1 = "__require_causal_root__" → field.2 = .bool true) ∧
      ((payloadGet div "thresholds" .null).truthy = true → ∃ merged,
        (∃ field ∈ inp, field.1 = "thresholds") ∧ ∀ field ∈ inp, field.1 = "thresholds" → field.2 = merged) := by
  have required : (payloadGet div "require_causal_context" .null).truthy = true := by
    rw [payloadGet, requires]
    rfl
  have flagged := dict_set_present (dictPop "_divination" body) "__require_causal_root__" (.bool true)
  have flags : ∀ field ∈ dictSet (dictPop "_divination" body) ("__require_causal_root__", .bool true),
      field.1 = "__require_causal_root__" → field.2 = .bool true := by
    intro field member named
    rcases mem_dict_set _ _ _ _ member with rfl | ⟨-, other⟩
    · rfl
    · exact absurd named other
  rw [applyDivination, divines] at applied
  simp only [if_pos required] at applied
  by_cases ward : (payloadGet div "thresholds" .null).truthy = true
  · rw [if_pos ward] at applied
    obtain ⟨merged, -, applied⟩ := (bind_ok _ _ _).mp applied
    obtain rfl := Except.ok.inj applied
    refine ⟨⟨dict_set_keeps _ _ _ _ (by decide) flagged, ?_⟩, fun _ => ⟨merged, dict_set_present _ _ _, ?_⟩⟩
    · intro field member named
      rcases mem_dict_set _ _ _ _ member with rfl | ⟨inside, -⟩
      · exact absurd named (show "thresholds" ≠ "__require_causal_root__" by decide)
      · exact flags field inside named
    · intro field member named
      rcases mem_dict_set _ _ _ _ member with rfl | ⟨-, other⟩
      · rfl
      · exact absurd named other
  · rw [if_neg ward] at applied
    obtain rfl := Except.ok.inj applied
    exact ⟨⟨flagged, flags⟩, fun filled => absurd filled ward⟩

-- Where the environment merges as merge_ward_into_thresholds does, decide reads
-- the thresholds of the bundle with its ward laid over them.
theorem divined_thresholds (coerce : Coercions) (keeps : coerce.Keeps)
    (merges : env.mergeWard = mergeWardDocuments coerce) (body inp div : List (String × Json))
    (divines : body.lookup "_divination" = some (.obj div))
    (warded : (payloadGet div "thresholds" .null).truthy = true) (applied : applyDivination env body = .ok inp) :
    ∃ base ward, WardSpec.modelValidate coerce (payloadGet div "thresholds" .null) = .ok ward ∧
      PolicyThresholds.modelValidate coerce (payloadGet inp "thresholds" .null) =
        .ok (mergeWardIntoThresholds base ward) := by
  rw [applyDivination, divines] at applied
  simp only [if_pos warded] at applied
  obtain ⟨merged, laid, applied⟩ := (bind_ok _ _ _).mp applied
  obtain rfl := Except.ok.inj applied
  rw [merges] at laid
  obtain ⟨base, ward, -, isWard, reads⟩ := merged_ward_read coerce keeps _ _ _ laid
  refine ⟨base, ward, isWard, ?_⟩
  rw [payloadGet, lookup_dict_set, if_pos rfl]
  exact reads

theorem compile_divined (manifest : SemanticBundleManifest) (params : List (String × Json)) (inv : CompiledInvocation)
    (decides : manifest.kind = .decide) (compiled : compileManifest env manifest params = .ok inv) :
    ∃ body, formatFields env params manifest.template = .ok body ∧ applyDivination env body = .ok inv.input := by
  obtain ⟨body, shown, compiled⟩ := (bind_ok _ _ _).mp compiled
  simp only [decides] at compiled
  obtain ⟨inp, applied, compiled⟩ := (bind_ok _ _ _).mp compiled
  obtain rfl := Except.ok.inj compiled
  exact ⟨body, shown, applied⟩

variable (tools : DecideEnv)

def bundleThresholds (manifest : SemanticBundleManifest) (params : List (String × Json)) :
    Except PyError (Option PolicyThresholds) := do
  let inv ← compileManifest env manifest params
  given (PolicyThresholds.modelValidate tools.coerce) (((dictOf inv.input).lookup "thresholds").getD .null)

end Compile

theorem call_gated (tools : DecideEnv) (process : CastProcess) (arguments : List (String × Json)) (call : EngineCall)
    (reached : decideCall tools process arguments = .ok call) :
    ((payloadGet arguments "__require_causal_root__" .null).truthy = true → call.causalRootCastId.truthy = true) ∧
      given (PolicyThresholds.modelValidate tools.coerce) (payloadGet arguments "thresholds" .null) =
        .ok call.thresholds := by
  simp only [decideCall] at reached
  split_ifs at reached with gate
  obtain ⟨intent, -, reached⟩ := (bind_ok _ _ _).mp reached
  obtain ⟨aspects, -, reached⟩ := (bind_ok _ _ _).mp reached
  obtain ⟨vector, -, reached⟩ := (bind_ok _ _ _).mp reached
  obtain ⟨thresholds, validated, reached⟩ := (bind_ok _ _ _).mp reached
  obtain ⟨effects, -, reached⟩ := (bind_ok _ _ _).mp reached
  obtain ⟨model, -, reached⟩ := (bind_ok _ _ _).mp reached
  obtain rfl := Except.ok.inj reached
  refine ⟨?_, validated⟩
  intro required
  by_contra rootless
  exact gate ⟨required, rootless⟩

theorem divination_gate_holds (gateway : GatewayEnv ω) (tools : DecideEnv) (process : CastProcess)
    (manifest : SemanticBundleManifest) (params div : List (String × Json)) (decides : manifest.kind = .decide)
    (divines : manifest.template.lookup "_divination" = some (.obj div))
    (requires : div.lookup "require_causal_context" = some (.bool true)) (skillId tool : String)
    (inp ref merged : List (String × Json)) (provenance : Option (List (String × Json))) (call : EngineCall)
    (extracted : extractSemanticBundleRef inp = some ref) (names : BundleOf gateway ref manifest params)
    (expanded : expandTaskInput gateway skillId inp = .ok (tool, merged, provenance))
    (reached : decideCall tools process merged = .ok call) :
    call.causalRootCastId.truthy = true ∧
      (CarriesThresholds gateway params div → bundleThresholds gateway tools manifest params = .ok call.thresholds) := by
  have named := bundle_of_named gateway ref manifest params names
  obtain ⟨inv, compiled, same⟩ := (expand_bundle gateway skillId inp ref extracted named _).mp expanded
  obtain ⟨rfl, rfl, -⟩ : tool = inv.skillId ∧ merged = dictMerge (stripBundleKeys inp) inv.input ∧ _ = _ := by
    simpa using same
  have own := compile_ref_bundle gateway ref manifest params inv names compiled
  obtain ⟨body, shown, applied⟩ := compile_divined gateway manifest params inv decides own
  obtain ⟨formatted, shape, divined⟩ := format_lookup gateway params _ body _ _ shown divines
  obtain ⟨block, shownBlock, rfl⟩ := format_object gateway params div formatted shape
  obtain ⟨flag, shownFlag, required⟩ := format_lookup gateway params _ block _ _ shownBlock requires
  obtain rfl := Except.ok.inj shownFlag
  obtain ⟨⟨flagged, flags⟩, warded⟩ := divined_input gateway body inv.input block divined required applied
  obtain ⟨gated, validated⟩ := call_gated tools process _ call reached
  constructor
  · apply gated
    rw [payloadGet, merged_only _ _ _ _ flagged flags]
    rfl
  · rintro ⟨ward, held, filled, texts⟩
    obtain ⟨shownWard, wardShape, wardHeld⟩ := format_lookup gateway params _ block _ _ shownBlock held
    have truthy : (payloadGet block "thresholds" .null).truthy = true := by
      rw [payloadGet, wardHeld]
      exact format_truthy gateway params ward shownWard wardShape filled texts
    obtain ⟨thresholds, present, only⟩ := warded truthy
    rw [payloadGet, merged_only _ _ _ _ present only] at validated
    rw [bundleThresholds, own]
    change given _ (((dictOf inv.input).lookup "thresholds").getD .null) = _
    rw [dict_of_only _ _ _ present only]
    exact validated

def studyIntent : Json :=
  .obj [("objective", .str "study"), ("scope", .str ""), ("reversibility", .str "REVERSIBLE"),
    ("side_effect_tolerance", .str "NONE")]

def auditDivination : List (String × Json) :=
  [("require_causal_context", .bool true), ("thresholds", .obj [("allow_min_resonance", .float (9 / 10))])]

def auditBundle : SemanticBundleManifest where
  id := "audited_study"
  version := 1
  kind := .decide
  template := [("intent", studyIntent), ("_divination", .obj auditDivination)]

def auditEnv : GatewayEnv Unit :=
  { probeEnv with
    loadBundle := fun bundleId version =>
      if bundleId = auditBundle.id ∧ version = 1 then .ok auditBundle
      else .error (.valueError ("semantic bundle not found: " ++ bundleId))
    mergeWard := mergeWardDocuments plainCoercions }

def plainDecideEnv : DecideEnv where
  coerce := plainCoercions
  pyStr := fun value => value.text?.getD ""
  pyFloat := fun value => (plainCoercions.float? value).elim (.error (.typeError "float() argument")) .ok
  readThresholdsFile := fun _ => .error (.fileNotFoundError "No such file or directory")

def auditRef : List (String × Json) := [("bundle_id", .str "audited_study"), ("version", .int 1)]

def forgedInput : List (String × Json) :=
  [("semantic_bundle", .obj auditRef), ("__require_causal_root__", .bool false), ("_divination", .obj []),
    ("thresholds", .obj [("allow_min_resonance", .float 0)]), ("causal_root_cast_id", .str "root-cast")]

theorem audit_bundle_of : BundleOf auditEnv auditRef auditBundle [] :=
  ⟨.str "audited_study", .int 1, 1, rfl, rfl, rfl, rfl, rfl⟩

theorem divination_gate_holds_forged : ∃ tool merged provenance call,
    expandTaskInput auditEnv "decide" forgedInput = .ok (tool, merged, provenance) ∧
      decideCall plainDecideEnv (newProcess {}) merged = .ok call ∧ call.causalRootCastId.truthy = true ∧
      bundleThresholds auditEnv plainDecideEnv auditBundle [] = .ok call.thresholds := by
  have reaches : (expandTaskInput auditEnv "decide" forgedInput >>= fun expanded =>
      decideCall plainDecideEnv (newProcess {}) expanded.2.1).isOk = true := by decide +kernel
  obtain ⟨call, made⟩ := is_ok _ reaches
  obtain ⟨⟨tool, merged, provenance⟩, expanded, reached⟩ := (bind_ok _ _ _).mp made
  obtain ⟨rooted, own⟩ := divination_gate_holds auditEnv plainDecideEnv (newProcess {}) auditBundle [] auditDivination
    rfl rfl rfl "decide" tool forgedInput auditRef merged provenance call rfl audit_bundle_of expanded reached
  refine ⟨tool, merged, provenance, call, expanded, reached, rooted, own ⟨_, rfl, rfl, ?_⟩⟩
  rintro text ⟨⟩

end Vermyth
