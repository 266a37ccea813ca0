import Vermyth.Casting.CastRows
import Vermyth.Engine.CanonicalSigils
import Vermyth.Engine.NameRoom
import Vermyth.Engine.Projection
import Vermyth.Foundation.Raises
import Vermyth.Grimoire.HalfRegistered
import Vermyth.Grimoire.Restart

set_option autoImplicit false

namespace Vermyth

open Foundation

def castingNoteFallback : VerdictType → String
  | .coherent => "Coherent resonance; the casting stabilises without residual tension."
  | .partially => "Partial resonance; the casting holds tension that further passes may resolve."
  | .incoherent => "Incoherent resonance; the casting fails to close a consistent inference loop."

def castingNote : VerdictType → EffectClass → String
  | .coherent, .erasure =>
      "The target concept loses referential weight; downstream reasoning finds no anchor where it stood."
  | .coherent, .manifestation =>
      "A stable attractor forms in the solution space; subsequent reasoning orbits it naturally."
  | .coherent, .force => "Directional pressure propagates through the inference graph without resistance."
  | .coherent, .cognition => "The cognitive substrate reorganises around the new pattern; retrieval pathways realign."
  | .coherent, .dissolution => "Structural boundaries soften; categories that were load-bearing become permeable."
  | .coherent, .revelation => "A previously occluded feature of the solution space becomes the dominant signal."
  | .coherent, .containment => "A boundary condition is imposed; the reasoning space contracts to the declared scope."
  | .coherent, .negation => "The target proposition loses truth value; dependent inferences cascade to null."
  | .coherent, .corruption => "Controlled noise is introduced at the specified locus; outputs diverge predictably."
  | .coherent, .acceleration =>
      "The inference clock advances; conclusions that required iteration arrive in fewer steps."
  | .coherent, .binding => "Two previously independent reasoning threads are coupled; they now share gradient."
  | .coherent, .emergence => "A pattern not present in any input becomes legible at the output layer."
  | .partially, .erasure =>
      "The target loses salience but retains residual weight; erasure is incomplete and may reverse."
  | .partially, .manifestation =>
      "An attractor forms but lacks sufficient depth; reasoning approaches it without fully settling."
  | .partially, .force => "Directional pressure is present but bleeds into adjacent inference paths."
  | .partially, .cognition =>
      "Reorganisation begins but stalls at the boundary of the contradiction; partial rewiring only."
  | .partially, .dissolution => "Boundaries soften unevenly; some load-bearing structures resist and hold."
  | .partially, .revelation => "Signal emerges but competes with existing priors; clarity is present but contested."
  | .partially, .containment =>
      "The boundary holds in some dimensions but leaks in others; scope is partially enforced."
  | .partially, .negation => "Truth value wavers; the proposition is weakened but not nullified."
  | .partially, .corruption => "Noise is introduced but distribution is uneven; some outputs are unaffected."
  | .partially, .acceleration => "Inference advances unevenly; some paths compress while others remain at full cost."
  | .partially, .binding =>
      "Coupling is established but asymmetric; one thread pulls the other without full entanglement."
  | .partially, .emergence => "A pattern becomes partially legible but requires additional casting to resolve fully."
  | .incoherent, .erasure => "The erasure finds no coherent target; the casting dissipates without removing anything."
  | .incoherent, .manifestation =>
      "The attractor cannot form against the declared intent; the solution space remains unstructured."
  | .incoherent, .force =>
      "Directional pressure is present but self-cancelling; the inference graph absorbs it without moving."
  | .incoherent, .cognition =>
      "The reorganisation pattern conflicts with the cognitive substrate; no rewiring occurs."
  | .incoherent, .dissolution => "Dissolution finds no boundary to permeate; the casting has no substrate to act on."
  | .incoherent, .revelation => "The signal cannot surface through the contradiction; occlusion is total."
  | .incoherent, .containment =>
      "The boundary condition cannot be imposed against the declared scope; containment fails."
  | .incoherent, .negation =>
      "The negation is self-negating; the proposition and its denial cancel without resolution."
  | .incoherent, .corruption =>
      "Noise finds no coherent locus; the corruption is absorbed uniformly and has no effect."
  | .incoherent, .acceleration =>
      "The inference clock cannot advance against the contradicting intent; time cost is unchanged."
  | .incoherent, .binding =>
      "The threads cannot be coupled across the contradiction; they repel rather than entangle."
  | .incoherent, .emergence => "No pattern emerges; the output layer reflects only the incoherence of the input."

theorem of_list_fits (chars : List Char) (most : Nat) (few : chars.length ≤ most) :
    (String.ofList chars).length ≤ most := by
  rwa [String.length_ofList]

theorem casting_note_fits (verdictType : VerdictType) (effectClass : EffectClass) :
    (castingNote verdictType effectClass).length ≤ 200 := by
  cases verdictType <;> cases effectClass <;> exact of_list_fits _ 200 (by decide +kernel)

-- The reasons are those of contradictions.json, by their keys.
def incoherenceReason (reasons : List (String × String)) (key : String) (severity : ContradictionSeverity)
    (verdictType : VerdictType) (cosine : ℚ) : Option String :=
  let misaligned := "Geometric misalignment between intent projection and sigil semantic vector " ++
    "(cosine " ++ fixedPoint 3 cosine ++ ")."
  if verdictType = .coherent then none
  else
    match reasons.lookup key with
    | none => some misaligned
    | some reason => if severity ≠ .none ∧ reason.toList.any (fun c => !pySpace c) then some reason else some misaligned

def resonanceCosine (math : VectorMath) (sigil intent : SemanticVector) : Except PyError ℚ :=
  cosineSimilarity math (commonBasis sigil intent).1 (commonBasis sigil intent).2.1

theorem partial_confidence : InUnit (6 / 10) ∧ (6 / 10 : ℚ) ≤ 65 / 100 := by decide +kernel

theorem fallback_note_fits : (castingNoteFallback .incoherent).length ≤ 200 := by decide +kernel

theorem fallback_intent_valid (registry : AspectRegistry) : (fallbackVerdict registry).intentVector.Valid where
  confidence := partial_confidence.1
  full := fun full => by contradiction
  part := fun _ => partial_confidence.2

-- What evaluate returns where the evaluation raises, with all its fields.
def fallbackWhole (registry : AspectRegistry) : WholeVerdict where
  toEvaluatedVerdict := fallbackVerdict registry
  incoherenceReason := some "Evaluation raised an unexpected error; incoherent fallback applied."
  castingNote := castingNoteFallback .incoherent
  noteFits := fallback_note_fits
  intentVectorValid := fallback_intent_valid registry

theorem made_valid (made : { own : IntentVector // own.Valid }) : made.val.Valid := made.property

namespace ResonanceEngine

variable (engine : ResonanceEngine) (reasons : List (String × String))

-- The body of the try block of evaluate.
def computeVerdict (sigil : ResolvedSigil) (intent : Intent) : Except PyError WholeVerdict := do
  let intentVector ← IntentVector.make (engine.intentVector intent)
  let resonance ← computeResonance engine.math sigil.face intentVector.val
  let cosine ← resonanceCosine engine.math sigil.semanticVector intentVector.val.vector
  let verdictType := verdictTypeOf resonance.adjusted
  if effectFits : (effectDescription sigil.face verdictType).length ≤ 300 then
    if noteFits : (castingNote verdictType sigil.effectClass).length ≤ 200 then
      return {
        verdictType, resonance, effectDescription := effectDescription sigil.face verdictType
        intentVector := intentVector.val, effectFits
        incoherenceReason := incoherenceReason reasons (canonicalAspectKey engine.registry sigil.aspects)
          sigil.contradictionSeverity verdictType cosine
        castingNote := castingNote verdictType sigil.effectClass, noteFits
        intentVectorValid := made_valid intentVector }
    else throw (invalid "Verdict" "casting_note")
  else throw (invalid "Verdict" "effect_description")

def evaluateWhole (sigil : ResolvedSigil) (intent : Intent) : WholeVerdict :=
  match engine.computeVerdict reasons sigil intent with
  | .ok verdict => verdict
  | .error _ => fallbackWhole engine.registry

end ResonanceEngine

theorem combined_valid (math : VectorMath) (constraint : SemanticVector) (semantic : Option SemanticVector) :
    InUnit (combineVectors math constraint semantic).2.2 ∧
      ((combineVectors math constraint semantic).2.1 = .full → semantic.isSome = true) ∧
        ((combineVectors math constraint semantic).2.1 = .partially →
          (combineVectors math constraint semantic).2.2 ≤ 65 / 100) := by
  have part := partial_confidence
  have full : InUnit 1 := by decide +kernel
  cases semantic with
  | none => exact ⟨part.1, fun isFull => by contradiction, fun _ => part.2⟩
  | some semantic =>
      rw [combineVectors]
      split_ifs
      · exact ⟨part.1, fun _ => rfl, fun _ => part.2⟩
      · exact ⟨full, fun _ => rfl, fun partly => by contradiction⟩

theorem intent_vector_made (engine : ResonanceEngine) (intent : Intent) :
    ∃ valid, IntentVector.make (engine.intentVector intent) = .ok ⟨engine.intentVector intent, valid⟩ := by
  obtain ⟨confidence, full, part⟩ := combined_valid engine.math (buildConstraintVector engine.math engine.registry intent)
    (buildSemanticVector engine.math engine.backend engine.registry intent)
  have valid : (engine.intentVector intent).Valid := ⟨confidence, full, part⟩
  refine ⟨valid, ?_⟩
  rw [IntentVector.make, dif_pos valid.confidence, dif_pos valid.full, dif_pos valid.part]

theorem compute_verdict_same (engine : ResonanceEngine) (reasons : List (String × String)) (sigil : ResolvedSigil)
    (intent : Intent) :
    (engine.computeVerdict reasons sigil intent).map WholeVerdict.toEvaluatedVerdict =
      evaluateWithIntentVector engine.math sigil.face (engine.intentVector intent) := by
  obtain ⟨valid, made⟩ := intent_vector_made engine intent
  have cosine := common_basis_cosine engine.math sigil.semanticVector (engine.intentVector intent).vector
  rw [ResonanceEngine.computeVerdict, made, evaluateWithIntentVector]
  simp only [bind, Except.bind]
  cases computeResonance engine.math sigil.face (engine.intentVector intent) with
  | error raised => rfl
  | ok resonance =>
      simp only [resonanceCosine, cosine, dif_pos (casting_note_fits _ _)]
      split_ifs <;> rfl

theorem evaluate_whole_same (engine : ResonanceEngine) (reasons : List (String × String)) (sigil : ResolvedSigil)
    (intent : Intent) :
    (engine.evaluateWhole reasons sigil intent).toEvaluatedVerdict = engine.evaluate sigil intent := by
  have same := compute_verdict_same engine reasons sigil intent
  rw [ResonanceEngine.evaluateWhole, ResonanceEngine.evaluate, evaluate, ← ResonanceEngine.intentVector, ← same]
  cases engine.computeVerdict reasons sigil intent <;> rfl

inductive Resolves (engine : ResonanceEngine) : ResolvedSigil → Prop
  | composed (aspects : AspectSet) (sigil : ResolvedSigil)
      (made : engine.composition.compose engine.registry engine.order aspects = .ok sigil) : Resolves engine sigil
  | interpolated (vector : SemanticVector) (k : Nat) (sigil : FluidSigil)
      (made : engine.interpolate vector k = .ok sigil) : Resolves engine sigil.toResolvedSigil

theorem resolves_ceiling (engine : ResonanceEngine) (sigil : ResolvedSigil) (resolves : Resolves engine sigil) :
    CeilingValid sigil.resonanceCeiling := by
  cases resolves with
  | composed aspects sigil made =>
      obtain ⟨-, raw, -, made⟩ := (compose_ok _ _ _ _ _).mp made
      obtain ⟨-, valid, rfl⟩ := (resolved_sigil_ok _ _ _ _ _ _ _ _).mp made
      exact valid
  | interpolated vector k sigil made =>
      obtain ⟨-, -, best, -, made⟩ := interpolate_found engine vector k sigil made
      obtain ⟨⟨-, valid⟩, rfl⟩ := (fluid_sigil_fields engine _ _ best _ sigil).mp made
      exact valid

def NamesWithin (most : Nat) (engine : CompositionEngine) : Prop :=
  ∀ slot ∈ engine.table.rows, slot.entry.name.length ≤ most

theorem best_neighbor (engine : ResonanceEngine) (vector : SemanticVector) (k : Nat) (best : Weighted)
    (chosen : engine.best vector k = some best) : best ∈ engine.neighbors vector k :=
  List.argmax_mem (Option.mem_def.mpr chosen)

theorem resolves_name (engine : ResonanceEngine) (sigil : ResolvedSigil) (resolves : Resolves engine sigil)
    (most : Nat) (within : NamesWithin most engine.composition) : sigil.name.length ≤ most + 6 := by
  cases resolves with
  | composed aspects sigil made =>
      obtain ⟨-, raw, held, made⟩ := (compose_ok _ _ _ _ _).mp made
      obtain ⟨-, -, rfl⟩ := (resolved_sigil_ok _ _ _ _ _ _ _ _).mp made
      obtain ⟨slot, found, rfl⟩ := Option.map_eq_some_iff.mp held
      exact le_add_right (within slot (engine.composition.table.find_mem _ slot found))
  | interpolated vector k sigil made =>
      obtain ⟨-, -, best, chosen, made⟩ := interpolate_found engine vector k sigil made
      obtain ⟨-, rfl⟩ := (fluid_sigil_fields engine _ _ best _ sigil).mp made
      obtain ⟨-, isAnchor⟩ := neighbor_anchor engine vector k best (best_neighbor engine vector k best chosen)
      obtain ⟨slot, member, own⟩ := List.mem_filterMap.mp isAnchor
      obtain ⟨ids, -, anchor⟩ := Option.map_eq_some_iff.mp own
      have name : best.scored.anchor.raw.name = slot.entry.name := by rw [← anchor]
      have fluid : "Fluid:".length = 6 := rfl
      have bound := within slot member
      simp only [String.length_append, name, fluid]
      omega

theorem registry_call_names (env : RegistryEnv) (order : SetOrder) (most : Nat) (call : RegistryCall)
    (process after : VermythProcess) (called : registryCall env order process call = .ok after)
    (within : NamesWithin most process.engine)
    (named : ∀ row ∈ requestedRow env order call, row.name.length ≤ most) : NamesWithin most after.engine := by
  cases call with
  | aspect aspectId polarity entropyCoefficient symbol =>
      have kept := ((tool_register_aspect_call aspectId polarity entropyCoefficient symbol process after []).mp called).2
      rwa [kept]
  | sigil payload now =>
      obtain ⟨row, requested, -, -, rfl⟩ := register_sigil_ok env order payload now process after called
      intro slot member
      rcases (Table.mem_upsert _ _ _).mp member with ⟨earlier, -⟩ | rfl
      · exact within slot earlier
      · exact named row requested

theorem registry_calls_names (env : RegistryEnv) (order : SetOrder) (most : Nat) (calls : List RegistryCall)
    (start live : VermythProcess) (called : registryCalls env order calls start = .ok live)
    (within : NamesWithin most start.engine)
    (named : ∀ call ∈ calls, ∀ row ∈ requestedRow env order call, row.name.length ≤ most) :
    NamesWithin most live.engine := by
  induction calls generalizing start with
  | nil =>
      obtain rfl := Except.ok.inj called
      exact within
  | cons call rest ih =>
      rw [registryCalls, List.foldlM_cons, bind_ok] at called
      obtain ⟨next, first, called⟩ := called
      obtain ⟨own, others⟩ := List.forall_mem_cons.mp named
      exact ih next called (registry_call_names env order most call start next first within own) others

def VermythProcess.resonance (process : VermythProcess) (math : VectorMath) (backend : Option ProjectionBackend)
    (order : SetOrder) : ResonanceEngine where
  math := math
  backend := backend
  composition := process.engine
  registry := process.registry
  order := order

def Computes (engine : ResonanceEngine) (reasons : List (String × String)) (sigil : ResolvedSigil) (intent : Intent) :
    Prop :=
  engine.computeVerdict reasons sigil intent = .ok (engine.evaluateWhole reasons sigil intent)

theorem map_error {ε α β : Type} (read : α → β) (result : Except ε α) (raised : ε)
    (same : result.map read = .error raised) : result = .error raised := by
  cases result with
  | error own => exact congrArg Except.error (Except.error.inj same)
  | ok own => contradiction

theorem computed_whole (engine : ResonanceEngine) (reasons : List (String × String)) (sigil : ResolvedSigil)
    (intent : Intent) (verdict : WholeVerdict) (computed : engine.computeVerdict reasons sigil intent = .ok verdict) :
    engine.evaluateWhole reasons sigil intent = verdict := by
  rw [ResonanceEngine.evaluateWhole, computed]

theorem raised_whole (engine : ResonanceEngine) (reasons : List (String × String)) (sigil : ResolvedSigil)
    (intent : Intent) (raised : PyError) (computed : engine.computeVerdict reasons sigil intent = .error raised) :
    engine.evaluateWhole reasons sigil intent = fallbackWhole engine.registry := by
  rw [ResonanceEngine.evaluateWhole, computed]

theorem roomy_computes (engine : ResonanceEngine) (reasons : List (String × String)) (sigil : ResolvedSigil)
    (valid : CeilingValid sigil.resonanceCeiling) (intent : Intent)
    (fits : NameFits engine.math sigil.face (engine.intentVector intent).vector) :
    Computes engine reasons sigil intent := by
  obtain ⟨verdict, evaluated, -⟩ := evaluation_fits engine.math sigil.face valid _ fits
  obtain ⟨whole, computed, -⟩ :=
    (map_ok _ _ _).mp ((compute_verdict_same engine reasons sigil intent).trans evaluated)
  rw [Computes, computed_whole engine reasons sigil intent whole computed]
  exact computed

theorem cramped_raises (engine : ResonanceEngine) (reasons : List (String × String)) (sigil : ResolvedSigil)
    (valid : CeilingValid sigil.resonanceCeiling) (intent : Intent)
    (cramped : ¬ NameFits engine.math sigil.face (engine.intentVector intent).vector) :
    engine.computeVerdict reasons sigil intent = .error (invalid "ResonanceScore" "proof") :=
  map_error _ _ _ ((compute_verdict_same engine reasons sigil intent).trans
    (evaluation_cramped engine.math sigil.face valid _ cramped))

theorem computes_iff (engine : ResonanceEngine) (reasons : List (String × String)) (sigil : ResolvedSigil)
    (valid : CeilingValid sigil.resonanceCeiling) (intent : Intent) :
    Computes engine reasons sigil intent ↔ NameFits engine.math sigil.face (engine.intentVector intent).vector := by
  refine ⟨fun computes => ?_, roomy_computes engine reasons sigil valid intent⟩
  by_contra cramped
  rw [Computes, cramped_raises engine reasons sigil valid intent cramped] at computes
  contradiction

theorem long_falls_back (engine : ResonanceEngine) (reasons : List (String × String)) (sigil : ResolvedSigil)
    (resolves : Resolves engine sigil) (long : 205 ≤ sigil.name.length) (intent : Intent) :
    ¬ Computes engine reasons sigil intent ∧
      engine.evaluateWhole reasons sigil intent = fallbackWhole engine.registry := by
  have valid := resolves_ceiling engine sigil resolves
  have cramped := long_name_cramped engine.math sigil.face valid (engine.intentVector intent).vector long
  exact ⟨fun computes => cramped ((computes_iff engine reasons sigil valid intent).mp computes),
    raised_whole engine reasons sigil intent _ (cramped_raises engine reasons sigil valid intent cramped)⟩

theorem evaluate_computed_iff (env : RegistryEnv) (order : SetOrder) (calls : List RegistryCall)
    (start live : VermythProcess) (called : registryCalls env order calls start = .ok live) (math : VectorMath)
    (backend : Option ProjectionBackend) (reasons : List (String × String)) :
    (∀ sigil, Resolves (live.resonance math backend order) sigil → ∀ intent,
        (Computes (live.resonance math backend order) reasons sigil intent ↔
          NameRoom math sigil.face (buildIntentVector math backend live.registry intent).vector) ∧
        (¬ NameRoom math sigil.face (buildIntentVector math backend live.registry intent).vector →
          (live.resonance math backend order).evaluateWhole reasons sigil intent = fallbackWhole live.registry) ∧
        (NameRoom math sigil.face (buildIntentVector math backend live.registry intent).vector →
          sigil.name.length < 205)) ∧
      ∀ most, NamesWithin most start.engine →
        (∀ call ∈ calls, ∀ row ∈ requestedRow env order call, row.name.length ≤ most) →
          ∀ sigil, Resolves (live.resonance math backend order) sigil → ∀ intent,
            most + (basisNote sigil.semanticVector
              (buildIntentVector math backend live.registry intent).vector).length ≤ 178 →
                Computes (live.resonance math backend order) reasons sigil intent := by
  constructor
  · intro sigil resolves intent
    have valid := resolves_ceiling _ sigil resolves
    rw [name_room_iff]
    refine ⟨computes_iff _ reasons sigil valid intent, fun cramped => ?_, fun fits => ?_⟩
    · exact raised_whole _ reasons sigil intent _ (cramped_raises _ reasons sigil valid intent cramped)
    · by_contra long
      exact long_name_cramped math sigil.face valid _ (Nat.not_lt.mp long) fits
  · intro most within named sigil resolves intent room
    have valid := resolves_ceiling _ sigil resolves
    have names := registry_calls_names env order most calls start live called within named
    have short := resolves_name _ sigil resolves most names
    refine (computes_iff _ reasons sigil valid intent).mpr (short_name_fits math sigil.face valid _ ?_)
    calc sigil.name.length + (basisNote sigil.semanticVector
          (buildIntentVector math backend live.registry intent).vector).length
        ≤ most + 6 + (basisNote sigil.semanticVector
            (buildIntentVector math backend live.registry intent).vector).length := Nat.add_le_add_right short _
      _ ≤ 184 := by omega

def freshProcess (env : RegistryEnv) : VermythProcess where
  registry := {}
  engine := env.base
  grimoire := {}

def voidSet : AspectSet where
  names := ["VOID"]
  distinct := List.nodup_singleton _

def composedAfter (env : RegistryEnv) (calls : List RegistryCall) (aspects : AspectSet) :
    Except PyError (VermythProcess × ResolvedSigil) := do
  let live ← registryCalls env listOrder calls (freshProcess env)
  let sigil ← live.engine.compose live.registry listOrder aspects
  return (live, sigil)

theorem composed_after_ok (env : RegistryEnv) (calls : List RegistryCall) (aspects : AspectSet) (live : VermythProcess)
    (sigil : ResolvedSigil) (ok : composedAfter env calls aspects = .ok (live, sigil)) :
    registryCalls env listOrder calls (freshProcess env) = .ok live ∧
      live.engine.compose live.registry listOrder aspects = .ok sigil := by
  rw [composedAfter, bind_ok] at ok
  obtain ⟨process, called, ok⟩ := ok
  obtain ⟨own, composed, same⟩ := (bind_ok _ _ _).mp ok
  obtain ⟨rfl, rfl⟩ := Prod.mk.inj (Except.ok.inj same)
  exact ⟨called, composed⟩

theorem evaluate_computed_undertow : ∃ live sigil,
    registryCalls sampleRegistryEnv listOrder (undertow "NONE") (freshProcess sampleRegistryEnv) = .ok live ∧
      live.engine.compose live.registry listOrder voidSet = .ok sigil ∧
        Computes (live.resonance squareRoots none listOrder) [] sigil cautious := by
  obtain ⟨⟨live, sigil⟩, ran⟩ := is_ok (composedAfter sampleRegistryEnv (undertow "NONE") voidSet) (by decide +kernel)
  obtain ⟨called, composed⟩ := composed_after_ok _ _ _ live sigil ran
  refine ⟨live, sigil, called, composed, ?_⟩
  obtain ⟨-, raw, -, made⟩ := (compose_ok _ _ _ _ _).mp composed
  obtain ⟨-, -, own⟩ := (resolved_sigil_ok _ _ _ _ _ _ _ _).mp made
  have note : basisNote sigil.semanticVector (buildIntentVector squareRoots none live.registry cautious).vector = "" := by
    rw [own]
    exact partial_note squareRoots none live.registry voidSet cautious rfl
  refine (evaluate_computed_iff sampleRegistryEnv listOrder (undertow "NONE") (freshProcess sampleRegistryEnv) live
    called squareRoots none []).2 8 ?_ ?_ sigil (.composed voidSet sigil composed) cautious ?_
  · intro slot member
    obtain rfl := List.mem_singleton.mp member
    decide
  · decide +kernel
  · rw [note]
    decide

def shippedRegistryEnv : RegistryEnv := { sampleRegistryEnv with base := canonicalComposition }

def longRequest : RegistryCall := sigilRequest (String.ofList (List.replicate 205 'A')) ["LIGHT"] "NONE" true

theorem long_composed_after : (composedAfter shippedRegistryEnv [longRequest] lightSet).toOption.any
    (fun after => after.2.name.length = 205) = true := by
  decide +kernel

theorem long_registration_falls_back : ∃ live sigil,
    registryCalls shippedRegistryEnv listOrder [longRequest] (freshProcess shippedRegistryEnv) = .ok live ∧
      live.engine.compose live.registry listOrder lightSet = .ok sigil ∧ sigil.name.length = 205 ∧
        ∀ math backend reasons intent, ¬ Computes (live.resonance math backend listOrder) reasons sigil intent ∧
          (live.resonance math backend listOrder).evaluateWhole reasons sigil intent = fallbackWhole live.registry := by
  obtain ⟨⟨live, sigil⟩, ran, length⟩ := ok_where _ _ long_composed_after
  obtain ⟨called, composed⟩ := composed_after_ok shippedRegistryEnv [longRequest] lightSet live sigil ran
  have long : sigil.name.length = 205 := of_decide_eq_true length
  refine ⟨live, sigil, called, composed, long, fun math backend reasons intent => ?_⟩
  exact long_falls_back (live.resonance math backend listOrder) reasons sigil (.composed lightSet sigil composed)
    long.ge intent

end Vermyth
