import Vermyth.Arcane.BundleCache
import Vermyth.Foundation.Strongest

set_option autoImplicit false

namespace Vermyth

open Foundation

-- a == b: a dict has no order, and numbers are equal by their value.
mutual

def Json.equal : Json → Json → Bool
  | .arr items, .arr others => equalItems items others
  | .obj fields, .obj others => fields.length == others.length && equalFields fields others
  | .str text, other => other.text? == some text
  | .null, .null => true
  | .bool value, other => (Json.bool value).number? == other.number?
  | .int value, other => (Json.int value).number? == other.number?
  | .float value, other => (Json.float value).number? == other.number?
  | _, _ => false

def equalItems : List Json → List Json → Bool
  | [], [] => true
  | item :: rest, other :: others => item.equal other && equalItems rest others
  | _, _ => false

def equalFields : List (String × Json) → List (String × Json) → Bool
  | [], _ => true
  | (key, value) :: rest, others => (others.lookup key).any value.equal && equalFields rest others

end

example : (Json.obj [("a", .int 1), ("b", .null)]).equal (.obj [("b", .null), ("a", .float 1)]) = true ∧
    (Json.str "1").equal (.int 1) = false := by decide +kernel

-- What the rules rest on outside src: the codec of the rows, and str.upper.
structure RuleEnv extends CastCodec where
  upper : String → String

section Rules

variable (env : RuleEnv)

def normAspects : Json → List String
  | .arr items => items.map fun item => env.upper (pyStrip (env.pyStr item))
  | _ => []

def intentSlice (arguments : List (String × Json)) : List (String × Json) :=
  match arguments.lookup "intent" with
  | some (.obj intent) => intent
  | _ =>
      ["objective", "scope", "reversibility", "side_effect_tolerance"].filterMap fun key =>
        (arguments.lookup key).map fun value => (key, value)

def intentSubsetEq (intent required : List (String × Json)) : Bool :=
  required.all fun field => (payloadGet intent field.1 .null).equal field.2

def floatsEq (thresholds : List (String × Json)) : List (String × Json) → Except PyError Bool
  | [] => .ok true
  | (key, value) :: rest => do
      let got ← env.pyFloat (payloadGet thresholds key .null)
      let want ← env.pyFloat value
      if got = want then floatsEq thresholds rest else return false

def thresholdsEq (thresholds : Json) (required : List (String × Json)) : Except PyError Bool :=
  match thresholds with
  | .obj own =>
      match floatsEq env own required with
      | .error (.typeError _) => .ok false
      | .error (.valueError _) => .ok false
      | outcome => outcome
  | _ => .ok false

def objectiveOf (arguments : List (String × Json)) : String :=
  env.pyStr (payloadGet (intentSlice arguments) "objective" (.str ""))

abbrev RuleOp := RecommendationRule → List (String × Json) → Except PyError Bool

def opAspectsEq : RuleOp := fun rule arguments =>
  match rule.value with
  | .arr items =>
      .ok (normAspects env (payloadGet arguments "aspects" .null) = items.map fun item => env.upper (env.pyStr item))
  | _ => .ok false

def opIntentSubsetEq : RuleOp := fun rule arguments =>
  match rule.value with
  | .obj required => .ok (intentSubsetEq (intentSlice arguments) required)
  | _ => .ok false

def opThresholdsEq : RuleOp := fun rule arguments =>
  match rule.value with
  | .obj required => thresholdsEq env (payloadGet arguments "thresholds" .null) required
  | _ => .ok false

def opObjectiveStartsWith : RuleOp := fun rule arguments =>
  let start := if rule.value.truthy then env.pyStr rule.value else ""
  .ok (start.toList.isPrefixOf (objectiveOf env arguments).toList != rule.negate)

def opObjectiveLengthBetween : RuleOp := fun rule arguments =>
  let objective := objectiveOf env arguments
  .ok (pyStrip objective != "" && rule.minLen.all (· ≤ objective.length) && rule.maxLen.all (objective.length ≤ ·))

def opFieldEq : RuleOp := fun rule arguments =>
  match rule.path.filter (· ≠ "") with
  | none => .ok false
  | some path => .ok ((arguments.lookup path).any fun value => value.equal rule.value)

def opFieldPresent : RuleOp := fun rule arguments =>
  match rule.path.filter (· ≠ "") with
  | none => .ok false
  | some path => .ok (payloadGet arguments path .null).truthy

def ruleOps : List (String × RuleOp) :=
  [("aspects_eq", opAspectsEq env), ("intent_subset_eq", opIntentSubsetEq), ("thresholds_eq", opThresholdsEq env),
    ("objective_starts_with", opObjectiveStartsWith env),
    ("objective_length_between", opObjectiveLengthBetween env), ("field_eq", opFieldEq),
    ("field_present", opFieldPresent)]

def evalRule (rule : RecommendationRule) (arguments : List (String × Json)) : Except PyError Bool :=
  match (ruleOps env).lookup rule.op.1 with
  | none => .ok false
  | some op => op rule arguments

def allRules (arguments : List (String × Json)) : List RecommendationRule → Except PyError Bool
  | [] => .ok true
  | rule :: rest => do if ← evalRule env rule arguments then allRules arguments rest else return false

def firstTier (arguments : List (String × Json)) :
    List RecommendationTier → Except PyError (Option RecommendationTier)
  | [] => .ok none
  | tier :: rest => do
      if ← allRules env arguments tier.requireAll then return some tier else firstTier arguments rest

end Rules

def matchedFeatureTag (rule : RecommendationRule) : String :=
  match rule.ruleId.filter (· ≠ "") with
  | some ruleId => "rule:" ++ rule.op.1 ++ ":" ++ ruleId
  | none => "rule:" ++ rule.op.1

structure RecommendationRow where
  bundleId : String
  version : Nat
  strength : ℚ
  matchKind : MatchKind
  matchedFeatures : List String
  targetSkill : String
  whyBetter : String
  guidedUpgrade : Json

def recommendationRow (manifest : BundleManifest) (spec : BundleRecommendationSpec) (tier : RecommendationTier) :
    RecommendationRow where
  bundleId := manifest.id
  version := manifest.version
  strength := tier.strength
  matchKind := tier.matchKind
  matchedFeatures := tier.requireAll.map matchedFeatureTag ++
    ["tier:" ++ tier.matchKind.value, "bundle:" ++ manifest.id]
  targetSkill := manifest.kind.skillId
  whyBetter := spec.whyBetter.1
  guidedUpgrade := buildGuidedUpgrade manifest.toSemanticBundleManifest

def RecommendationRow.Before (a b : RecommendationRow) : Prop :=
  b.strength < a.strength ∨ a.strength = b.strength ∧ a.bundleId ≤ b.bundleId

instance : DecidableRel RecommendationRow.Before := fun a b =>
  inferInstanceAs (Decidable (b.strength < a.strength ∨ a.strength = b.strength ∧ a.bundleId ≤ b.bundleId))

structure RecommendationReport where
  skillId : String
  recommendations : List RecommendationRow
  advisory : Option Bool
  note : String

def alreadyBundled : String := "input already contains semantic_bundle; nothing to suggest"

def recommendationNote : String :=
  "Recommendations are manifest-driven and inspectable; verify with inspect_semantic_bundle before adopting"

section Recommend

variable (env : RuleEnv) (skillId : String) (arguments : List (String × Json))

-- _evaluate_bundle
def evaluateBundle (manifest : BundleManifest) : Except PyError (List RecommendationRow) :=
  match manifest.recommendation with
  | none => .ok []
  | some spec =>
      if skillId ∈ spec.targetSkills then do
        return ((← firstTier env arguments spec.tiers).map (recommendationRow manifest spec)).toList
      else .ok []

open BundleProcess in
def evaluateBundles : List String → BundleProcess → Except PyError (List RecommendationRow) × BundleProcess
  | [], process => (.ok [], process)
  | bundleId :: rest, process =>
      andThen (process.loadPrimary env.toCastCodec bundleId) fun manifest process =>
        andThen (evaluateBundle env skillId arguments manifest, process) fun rows process =>
          andThen (evaluateBundles rest process) fun others process => (.ok (rows ++ others), process)

def hasBundleRef : Bool :=
  match extractSemanticBundleRef arguments with
  | none | some [] => false
  | some _ => true

-- recommend_for_plain_invocation
def recommendForPlainInvocation (minStrength : ℚ) (process : BundleProcess) :
    Except PyError RecommendationReport × BundleProcess :=
  if hasBundleRef arguments then
    (.ok { skillId, recommendations := [], advisory := none, note := alreadyBundled }, process)
  else
    BundleProcess.andThen (evaluateBundles env skillId arguments process.shelf.listBundleIds process)
      fun rows process =>
        (.ok { skillId
               recommendations := strongest RecommendationRow.bundleId RecommendationRow.Before
                 (rows.filter fun row => minStrength ≤ row.strength)
               advisory := some true, note := recommendationNote }, process)

-- What tool_recommend_semantic_bundles asks for where no strength is given.
def defaultMinStrength : ℚ := 55 / 100

end Recommend

end Vermyth
