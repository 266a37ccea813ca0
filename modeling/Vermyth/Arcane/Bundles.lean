import Vermyth.Adapters.Gateway
import Vermyth.Casting.ProgramDocuments
import Vermyth.Foundation.Lru

set_option autoImplicit false

namespace Vermyth

open Foundation

-- Field(min_length=1)
abbrev SolidText := { text : String // text ≠ "" }

inductive MatchKind where
  | exact
  | strong
  | advisory
deriving DecidableEq, Repr

def MatchKind.all : List MatchKind := [.exact, .strong, .advisory]

def MatchKind.value : MatchKind → String
  | .exact => "exact"
  | .strong => "strong"
  | .advisory => "advisory"

structure RecommendationRule where
  op : SolidText
  value : Json := .null
  path : Option String := none
  field : Option String := none
  negate : Bool := false
  minLen : Option Nat := none
  maxLen : Option Nat := none
  ruleId : Option String := none

structure RecommendationTier where
  matchKind : MatchKind
  strength : ℚ
  requireAll : List RecommendationRule := []
  strengthUnit : InUnit strength

structure BundleRecommendationSpec where
  targetSkills : List String := ["decide"]
  whyBetter : SolidText
  tiers : List RecommendationTier
  tiersNonempty : tiers ≠ []

inductive BundleStability where
  | stable
  | experimental
deriving DecidableEq, Repr

def BundleStability.all : List BundleStability := [.stable, .experimental]

def BundleStability.value : BundleStability → String
  | .stable => "stable"
  | .experimental => "experimental"

inductive BundleLibrary where
  | canonical
  | extended
deriving DecidableEq, Repr

def BundleLibrary.all : List BundleLibrary := [.canonical, .extended]

def BundleLibrary.value : BundleLibrary → String
  | .canonical => "canonical"
  | .extended => "extended"

def BundleKind.all : List BundleKind := [.decide, .cast, .compileProgram]

structure BundleManifest extends SemanticBundleManifest where
  summary : Option String := none
  description : Option String := none
  recommendedFor : List String := []
  stability : Option BundleStability := none
  library : Option BundleLibrary := none
  recommendation : Option BundleRecommendationSpec := none
  idFits : TextFits 120 id
  versioned : 1 ≤ version

section Validate

variable (coerce : Coercions)

def solid? (value : Json) : Option SolidText := do
  let text ← value.text?
  if solid : text ≠ "" then some ⟨text, solid⟩ else none

-- Field(default=None, ge=0)
def natural? (value : Json) : Option Nat := (coerce.int? 0 value).map Int.toNat

def rule? (value : Json) : Option RecommendationRule := do
  let fields ← onlyFields ["op", "value", "path", "field", "negate", "min_len", "max_len", "rule_id"] value
  let op ← (fields.lookup "op").bind solid?
  let path ← (fields.lookup "path").elim (some none) (nullable Json.text?)
  let field ← (fields.lookup "field").elim (some none) (nullable Json.text?)
  let negate ← (fields.lookup "negate").elim (some false) coerce.bool?
  let minLen ← (fields.lookup "min_len").elim (some none) (nullable (natural? coerce))
  let maxLen ← (fields.lookup "max_len").elim (some none) (nullable (natural? coerce))
  let ruleId ← (fields.lookup "rule_id").elim (some none) (nullable Json.text?)
  return { op, value := (fields.lookup "value").getD .null, path, field, negate, minLen, maxLen, ruleId }

def tier? (value : Json) : Option RecommendationTier := do
  let fields ← onlyFields ["match_kind", "strength", "require_all"] value
  let matchKind ← (fields.lookup "match_kind").bind (enum? MatchKind.all MatchKind.value)
  let strength ← (fields.lookup "strength").bind coerce.float?
  let requireAll ← (fields.lookup "require_all").elim (some []) (items? (rule? coerce))
  if strengthUnit : InUnit strength then some { matchKind, strength, requireAll, strengthUnit } else none

def recommendationSpec? (value : Json) : Option BundleRecommendationSpec := do
  let fields ← onlyFields ["target_skills", "why_better", "tiers"] value
  let targetSkills ← (fields.lookup "target_skills").elim (some ["decide"]) (items? Json.text?)
  let whyBetter ← (fields.lookup "why_better").bind solid?
  let tiers ← (fields.lookup "tiers").bind (items? (tier? coerce))
  if tiersNonempty : tiers ≠ [] then some { targetSkills, whyBetter, tiers, tiersNonempty } else none

def dict? : Json → Option (List (String × Json))
  | .obj fields => some fields
  | _ => none

def manifestFieldNames : List String :=
  ["id", "version", "kind", "template", "param_keys", "summary", "description", "recommended_for", "stability",
    "library", "recommendation"]

-- Field(ge=1)
def positive? (value : Json) : Option { count : Nat // 1 ≤ count } := do
  let count ← coerce.int? 1 value
  if positive : 1 ≤ count.toNat then some ⟨count.toNat, positive⟩ else none

-- SemanticBundleManifest.model_validate
def manifestValidate (fields : List (String × Json)) : Except PyError BundleManifest := do
  let model := "SemanticBundleManifest"
  forbidExtra manifestFieldNames fields model
  let id ← readField (fitting? 120) none fields model "id"
  let version ← readField (positive? coerce) none fields model "version"
  let kind ← readField (enum? BundleKind.all BundleKind.skillId) none fields model "kind"
  let template ← readField dict? none fields model "template"
  let paramKeys ← readField (items? Json.text?) (some []) fields model "param_keys"
  let summary ← readField (nullable Json.text?) (some none) fields model "summary"
  let description ← readField (nullable Json.text?) (some none) fields model "description"
  let recommendedFor ← readField (items? Json.text?) (some []) fields model "recommended_for"
  let stability ← readField (nullable (enum? BundleStability.all BundleStability.value)) (some none) fields model
    "stability"
  let library ← readField (nullable (enum? BundleLibrary.all BundleLibrary.value)) (some none) fields model "library"
  let recommendation ← readField (nullable (recommendationSpec? coerce)) (some none) fields model "recommendation"
  return { id := id.1, version := version.1, kind, template, paramKeys, summary, description, recommendedFor,
           stability, library, recommendation, idFits := id.2, versioned := version.2 }

end Validate

-- A directory of bundles: the stems its glob finds, and what is_file and
-- read_text make of the file of an id.
structure Folder where
  stems : List String := []
  file : String → Option (Except PyError (List Char)) := fun _ => none

-- The package data, and the directory that VERMYTH_ARCANE_BUNDLE_DIR names.
structure Shelf where
  package : Folder := {}
  overlay : Option Folder := none

abbrev BundleKey := String × Int

namespace Shelf

variable (codec : CastCodec) (shelf : Shelf)

-- _primary_bundle_path
def primary (bundleId : String) : Option (Except PyError (List Char)) :=
  (shelf.package.file bundleId).or (shelf.overlay.bind fun folder => folder.file bundleId)

def notFound (bundleId : String) : PyError := .fileNotFoundError ("semantic bundle not found: " ++ bundleId)

-- json.loads(path.read_text())
def readRaw (text : Except PyError (List Char)) : Except PyError Json := do
  (loads codec.readFloat (← text)).elim (.error (.valueError "Expecting value")) .ok

def rawFields : Json → Except PyError (List (String × Json))
  | .obj fields => .ok fields
  | other => .error (.attributeError ("'" ++ other.typeName ++ "' object has no attribute 'get'"))

def mismatch (key : BundleKey) (got : Json) : PyError :=
  .valueError ("bundle version mismatch: " ++ key.1 ++ " want " ++ toString key.2 ++ " got " ++ codec.pyStr got)

-- The body of load_bundle.
def loadBundle (key : BundleKey) : Except PyError BundleManifest :=
  match shelf.primary key.1 with
  | none => .error (notFound key.1)
  | some text => do
      let fields ← rawFields (← readRaw codec text)
      let version ← pyInt (payloadGet fields "version" (.int 0))
      if version = key.2 then manifestValidate codec.coerce fields
      else .error (mismatch codec key (payloadGet fields "version" .null))

-- The version of a bundle's file, as _load_manifest_for_bundle reads it.
def primaryVersion (bundleId : String) : Except PyError Int :=
  match shelf.primary bundleId with
  | none => .error (notFound bundleId)
  | some text => do
      let raw ← readRaw codec text
      pyInt (← item raw "version")

def listBundleIds : List String :=
  (shelf.package.stems ++ (shelf.overlay.elim [] Folder.stems)).dedup.insertionSort (· ≤ ·)

end Shelf

-- A process: the directories as they are, and what lru_cache keeps of
-- load_bundle.
structure BundleProcess where
  shelf : Shelf := {}
  cache : Lru BundleKey BundleManifest 32 := .empty

namespace BundleProcess

variable (codec : CastCodec)

-- load_bundle
def load (key : BundleKey) (process : BundleProcess) : Except PyError BundleManifest × BundleProcess :=
  let called := process.cache.call key (process.shelf.loadBundle codec key)
  (called.1, { process with cache := called.2 })

-- What follows an outcome that did not raise.
def andThen {α β : Type} (outcome : Except PyError α × BundleProcess)
    (next : α → BundleProcess → Except PyError β × BundleProcess) : Except PyError β × BundleProcess :=
  match outcome with
  | (.error raised, process) => (.error raised, process)
  | (.ok value, process) => next value process

-- load_primary_bundle_manifest
def loadPrimary (bundleId : String) (process : BundleProcess) : Except PyError BundleManifest × BundleProcess :=
  andThen (process.shelf.primaryVersion codec bundleId, process) fun version process =>
    process.load codec (bundleId, version)

def loadPrimaries : List String → BundleProcess → Except PyError (List BundleManifest) × BundleProcess
  | [], process => (.ok [], process)
  | bundleId :: rest, process =>
      andThen (process.loadPrimary codec bundleId) fun manifest process =>
        andThen (loadPrimaries rest process) fun manifests process => (.ok (manifest :: manifests), process)

end BundleProcess

def recommendationCatalogHint (manifest : BundleManifest) : Option Json :=
  manifest.recommendation.map fun spec =>
    .obj [("target_skills", dumpList .str spec.targetSkills), ("tier_count", .int spec.tiers.length),
      ("match_kinds", dumpList (fun tier => .str tier.matchKind.value) spec.tiers)]

def catalogEntryDict (manifest : BundleManifest) : List (String × Json) :=
  [("bundle_id", .str manifest.id), ("version", .int manifest.version), ("kind", .str manifest.kind.skillId),
    ("param_keys", dumpList .str manifest.paramKeys), ("summary", orNull .str manifest.summary),
    ("description", orNull .str manifest.description), ("recommended_for", dumpList .str manifest.recommendedFor),
    ("stability", .str (manifest.stability.getD .stable).value), ("target_skill", .str manifest.kind.skillId)] ++
  (manifest.library.map fun library => ("library", .str library.value)).toList ++
  ((recommendationCatalogHint manifest).map fun hint => ("recommendation", hint)).toList

def placeholderParams (paramKeys : List String) : List (String × Json) :=
  dictOf (paramKeys.map fun key => (key, .str ("<" ++ key ++ ">")))

def upgradeRef (manifest : SemanticBundleManifest) : List (String × Json) :=
  [("bundle_id", .str manifest.id), ("version", .int manifest.version),
    ("params", .obj (placeholderParams manifest.paramKeys))]

def invocationPattern : String :=
  "Pass semantic_bundle alongside other fields on task input or tool arguments; " ++
    "the server expands before dispatch (same as MCP/HTTP parity paths)."

def buildGuidedUpgrade (manifest : SemanticBundleManifest) : Json :=
  let version := toString manifest.version
  .obj [("semantic_bundle", .obj (upgradeRef manifest)),
    ("inspect", .obj [("mcp_tool", .str "inspect_semantic_bundle"),
      ("mcp_arguments", .obj [("bundle_id", .str manifest.id), ("version", .int manifest.version)]),
      ("http_get_path", .str ("/arcane/bundles/" ++ manifest.id ++ "?version=" ++ version)),
      ("mcp_resource_uri", .str ("vermyth://semantic_bundle/" ++ manifest.id ++ "?version=" ++ version))]),
    ("invoke", .obj [("target_skill", .str manifest.kind.skillId), ("pattern", .str invocationPattern)])]

namespace BundleProcess

variable (codec : CastCodec)

def listBundleCatalog (kind : Option BundleKind) (process : BundleProcess) :
    Except PyError (List (List (String × Json))) × BundleProcess :=
  let loaded := process.loadPrimaries codec process.shelf.listBundleIds
  (loaded.1.map fun manifests =>
    (manifests.filter fun manifest => kind.all (· = manifest.kind)).map catalogEntryDict, loaded.2)

variable {ω : Type}

-- The gateway of a process, whose load_bundle answers from what it keeps.
def gateway (env : GatewayEnv ω) (process : BundleProcess) : GatewayEnv ω :=
  { env with loadBundle := fun bundleId version =>
      (process.load codec (bundleId, version)).1.map BundleManifest.toSemanticBundleManifest }

-- What compile_semantic_bundle_ref asks load_bundle for.
def referredKey (env : GatewayEnv ω) (bundleRef : List (String × Json)) : Except PyError BundleKey := do
  let bundleId ← match bundleRef.lookup "bundle_id" with
    | some value => .ok (env.pyStr value)
    | none => .error (.keyError "bundle_id")
  let version ← match bundleRef.lookup "version" with
    | some value => pyInt value
    | none => .error (.keyError "version")
  let _ ← pyDict (payloadGet bundleRef "params" .null)
  return (bundleId, version)

def compileRef (env : GatewayEnv ω) (bundleRef : List (String × Json)) (process : BundleProcess) :
    Except PyError CompiledInvocation × BundleProcess :=
  (compileSemanticBundleRef (process.gateway codec env) bundleRef,
    match referredKey env bundleRef with
    | .ok key => (process.load codec key).2
    | .error _ => process)

structure BundleDetail where
  manifest : BundleManifest
  compiledPreview : CompiledInvocation
  refExample : List (String × Json)
  guidedUpgrade : Json

def refWith (bundleId : String) (version : Int) (params : List (String × Json)) : List (String × Json) :=
  [("bundle_id", .str bundleId), ("version", .int version), ("params", .obj params)]

def previewCompiledInvocation (env : GatewayEnv ω) (bundleId : String) (version : Int)
    (params : Option (List (String × Json))) (process : BundleProcess) :
    Except PyError CompiledInvocation × BundleProcess :=
  match params with
  | some params => process.compileRef codec env (refWith bundleId version params)
  | none =>
      andThen (process.load codec (bundleId, version)) fun manifest process =>
        process.compileRef codec env (refWith bundleId version (placeholderParams manifest.paramKeys))

def inspectSemanticBundleDetail (env : GatewayEnv ω) (bundleId : String) (version : Int)
    (params : Option (List (String × Json))) (process : BundleProcess) :
    Except PyError BundleDetail × BundleProcess :=
  andThen (process.load codec (bundleId, version)) fun manifest process =>
    andThen (process.previewCompiledInvocation codec env bundleId version params) fun compiledPreview process =>
      (.ok { manifest, compiledPreview,
             refExample := refWith bundleId version (params.getD (placeholderParams manifest.paramKeys))
             guidedUpgrade := buildGuidedUpgrade manifest.toSemanticBundleManifest }, process)

end BundleProcess

end Vermyth
