import Mathlib.Data.Nat.Sqrt
import Mathlib.Tactic.Linarith
import Vermyth.Engine.BasisExtension
import Vermyth.Grimoire.PatternLookup

set_option autoImplicit false

namespace Vermyth

open Foundation

structure VerdictReading where
  raw : ℚ
  adjusted : ℚ
  ceilingApplied : Bool
  verdictType : VerdictType
  projectionMethod : ProjectionMethod
  confidence : ℚ
deriving DecidableEq

def EvaluatedVerdict.reading (verdict : EvaluatedVerdict) : VerdictReading where
  raw := verdict.resonance.raw
  adjusted := verdict.resonance.adjusted
  ceilingApplied := verdict.resonance.ceilingApplied
  verdictType := verdict.verdictType
  projectionMethod := verdict.intentVector.projectionMethod
  confidence := verdict.intentVector.confidence

def readingAt (sigil : SigilFace) (intentVector : IntentVector) (cosine : ℚ) : VerdictReading where
  raw := (cosine + 1) / 2
  adjusted := adjustedBy sigil.resonanceCeiling (penalized sigil.contradictionSeverity cosine)
  ceilingApplied := ceilingApplied sigil.resonanceCeiling (penalized sigil.contradictionSeverity cosine)
  verdictType := verdictTypeOf (adjustedBy sigil.resonanceCeiling (penalized sigil.contradictionSeverity cosine))
  projectionMethod := intentVector.projectionMethod
  confidence := intentVector.confidence

def basisNote (sigil intent : SemanticVector) : String := (commonBasis sigil intent).2.2

def wordsAround (math : VectorMath) (sigil : SigilFace) (intent : SemanticVector) : Nat :=
  (proofText { sigil with name := "" } (cosine math sigil.semanticVector.components intent.components)
    (basisNote sigil.semanticVector intent)).length

def NameFits (math : VectorMath) (sigil : SigilFace) (intent : SemanticVector) : Prop :=
  sigil.name.length + wordsAround math sigil intent ≤ 300

instance (math : VectorMath) (sigil : SigilFace) (intent : SemanticVector) : Decidable (NameFits math sigil intent) :=
  inferInstanceAs (Decidable (_ ≤ _))

theorem alignment_word_length (cosine : ℚ) : 6 ≤ (alignmentWord cosine).length := by
  rw [alignmentWord]
  split_ifs <;> decide

theorem regroup_around (a b c name d e f g h i j k : String) :
    a ++ b ++ c ++ name ++ d ++ e ++ f ++ g ++ h ++ i ++ j ++ k =
      a ++ b ++ c ++ name ++ (d ++ e ++ f ++ g ++ h ++ i ++ j ++ k) := by
  simp only [String.append_assoc]

theorem proof_text_split (sigil : SigilFace) (cosine : ℚ) (note : String) :
    ∃ opening closing : String, 29 ≤ opening.length ∧
      ∀ name, proofText { sigil with name := name } cosine note = opening ++ name ++ closing := by
  refine ⟨"Intent vector aligns " ++ alignmentWord cosine ++ " with ", " (cosine " ++ fixedPoint 3 cosine ++
    "); " ++ penaltyPhrase sigil.contradictionSeverity ++ "; ceiling " ++
    ceilDesc sigil.resonanceCeiling (penalized sigil.contradictionSeverity cosine) ++ "." ++ note, ?_, ?_⟩
  · have word := alignment_word_length cosine
    have around : "Intent vector aligns ".length = 21 ∧ " with ".length = 6 := by decide
    rw [String.length_append, String.length_append, around.1, around.2]
    omega
  · intro name
    exact regroup_around _ _ _ name _ _ _ _ _ _ _ _

theorem proof_text_length (sigil : SigilFace) (cosine : ℚ) (note : String) :
    (proofText sigil cosine note).length =
      sigil.name.length + (proofText { sigil with name := "" } cosine note).length := by
  obtain ⟨opening, closing, -, split⟩ := proof_text_split sigil cosine note
  have whole := split sigil.name
  rw [whole, split, String.length_append, String.length_append, String.length_append, String.length_append,
    String.length_empty]
  omega

theorem name_fits_proof (math : VectorMath) (sigil : SigilFace) (intent : SemanticVector) :
    NameFits math sigil intent ↔ (proofText sigil (cosine math sigil.semanticVector.components intent.components)
      (basisNote sigil.semanticVector intent)).length ≤ 300 := by
  rw [proof_text_length, NameFits, wordsAround]

theorem joined_length (a b c d e : String) :
    (a ++ b ++ c ++ d ++ e).length = a.length + b.length + c.length + d.length + e.length := by
  simp only [String.length_append]

theorem effect_description_length (sigil : SigilFace) (verdictType : VerdictType) :
    (effectDescription sigil verdictType).length = 15 + sigil.name.length + 2 + verdictType.value.length + 2 :=
  joined_length "Evaluation for " sigil.name " (" verdictType.value ")."

theorem name_fits_effect (math : VectorMath) (sigil : SigilFace) (intent : SemanticVector)
    (fits : NameFits math sigil intent) (verdictType : VerdictType) :
    (effectDescription sigil verdictType).length ≤ 300 := by
  obtain ⟨opening, closing, enough, split⟩ := proof_text_split sigil
    (cosine math sigil.semanticVector.components intent.components) (basisNote sigil.semanticVector intent)
  rw [NameFits, wordsAround, split, String.length_append, String.length_append] at fits
  have value : verdictType.value.length ≤ 10 := by cases verdictType <;> decide
  rw [effect_description_length]
  omega

theorem common_basis_cosine (math : VectorMath) (sigil intent : SemanticVector) :
    cosineSimilarity math (commonBasis sigil intent).1 (commonBasis sigil intent).2.1 =
      .ok (cosine math sigil.components intent.components) := by
  by_cases same : sigil.normalizedBasisVersion = intent.normalizedBasisVersion
  · rw [commonBasis, if_pos same]
    exact if_pos same
  · rw [commonBasis, if_neg same]
    refine (if_pos rfl).trans ?_
    rw [same_cosine math _ _ _ _ (upsample_same sigil _ _) (upsample_same intent _ _)]

theorem raw_in_unit (x : ℚ) (range : -1 ≤ x ∧ x ≤ 1) : InUnit ((x + 1) / 2) := by
  obtain ⟨least, most⟩ := range
  constructor
  · linarith
  · linarith

theorem adjusted_in_unit (severity : ContradictionSeverity) (ceiling x : ℚ) (valid : CeilingValid ceiling) :
    InUnit (adjustedBy ceiling (penalized severity x)) :=
  ⟨le_min (le_max_left _ _) valid.1, le_trans (min_le_right _ _) valid.2⟩

theorem evaluation_fits (math : VectorMath) (sigil : SigilFace) (valid : CeilingValid sigil.resonanceCeiling)
    (intentVector : IntentVector) (fits : NameFits math sigil intentVector.vector) :
    ∃ verdict, evaluateWithIntentVector math sigil intentVector = .ok verdict ∧ verdict.reading =
      readingAt sigil intentVector (cosine math sigil.semanticVector.components intentVector.vector.components) := by
  have shared := common_basis_cosine math sigil.semanticVector intentVector.vector
  have raw := raw_in_unit _ (cosine_range math sigil.semanticVector.components intentVector.vector.components)
  have adjusted := adjusted_in_unit sigil.contradictionSeverity sigil.resonanceCeiling
    (cosine math sigil.semanticVector.components intentVector.vector.components) valid
  have proof := (name_fits_proof math sigil intentVector.vector).mp fits
  have effect := name_fits_effect math sigil intentVector.vector fits
  rw [basisNote] at proof
  simp only [evaluateWithIntentVector, computeResonance, shared, bind, Except.bind, ScoredResonance.make, dif_pos raw,
    dif_pos adjusted, dif_pos proof, dif_pos (effect _)]
  exact ⟨_, rfl, rfl⟩

theorem evaluation_cramped (math : VectorMath) (sigil : SigilFace) (valid : CeilingValid sigil.resonanceCeiling)
    (intentVector : IntentVector) (cramped : ¬ NameFits math sigil intentVector.vector) :
    evaluateWithIntentVector math sigil intentVector = .error (invalid "ResonanceScore" "proof") := by
  have shared := common_basis_cosine math sigil.semanticVector intentVector.vector
  have raw := raw_in_unit _ (cosine_range math sigil.semanticVector.components intentVector.vector.components)
  have adjusted := adjusted_in_unit sigil.contradictionSeverity sigil.resonanceCeiling
    (cosine math sigil.semanticVector.components intentVector.vector.components) valid
  rw [name_fits_proof, basisNote] at cramped
  simp only [evaluateWithIntentVector, computeResonance, shared, bind, Except.bind, ScoredResonance.make, dif_pos raw,
    dif_pos adjusted, dif_neg cramped]

def fallbackReading : VerdictReading where
  raw := 0
  adjusted := 0
  ceilingApplied := false
  verdictType := .incoherent
  projectionMethod := .partially
  confidence := 6 / 10

theorem evaluate_reading (math : VectorMath) (backend : Option ProjectionBackend) (registry : AspectRegistry)
    (sigil : SigilFace) (valid : CeilingValid sigil.resonanceCeiling) (intent : Intent) :
    (evaluate math backend registry sigil intent).reading =
      if NameFits math sigil (buildIntentVector math backend registry intent).vector then
        readingAt sigil (buildIntentVector math backend registry intent) (cosine math sigil.semanticVector.components
          (buildIntentVector math backend registry intent).vector.components)
      else fallbackReading := by
  by_cases fits : NameFits math sigil (buildIntentVector math backend registry intent).vector
  · obtain ⟨verdict, evaluated, reading⟩ := evaluation_fits math sigil valid _ fits
    rw [if_pos fits, evaluate, evaluated]
    exact reading
  · rw [if_neg fits, evaluate, evaluation_cramped math sigil valid _ fits]
    rfl

theorem partial_constraint (math : VectorMath) (constraint : SemanticVector) (semantic : Option SemanticVector)
    (partly : (combineVectors math constraint semantic).2.1 = .partially) :
    (combineVectors math constraint semantic).1 = constraint := by
  cases semantic with
  | none => rfl
  | some semantic =>
      rw [combineVectors] at partly ⊢
      by_cases zero : l2Norm math (combinedComponents constraint semantic) = 0
      · rw [if_pos zero]
      · rw [if_neg zero] at partly
        contradiction

theorem partial_note (math : VectorMath) (backend : Option ProjectionBackend) (registry : AspectRegistry)
    (aspects : AspectSet) (intent : Intent)
    (partly : (buildIntentVector math backend registry intent).projectionMethod = .partially) :
    basisNote (fromAspects registry aspects) (buildIntentVector math backend registry intent).vector = "" := by
  have constraint : (buildIntentVector math backend registry intent).vector =
      buildConstraintVector math registry intent := partial_constraint math _ _ partly
  have same : (fromAspects registry aspects).normalizedBasisVersion =
      (buildConstraintVector math registry intent).normalizedBasisVersion := rfl
  rw [constraint, basisNote, commonBasis, if_pos same]

theorem compose_ok (engine : CompositionEngine) (registry : AspectRegistry) (order : SetOrder) (aspects : AspectSet)
    (sigil : ResolvedSigil) :
    engine.compose registry order aspects = .ok sigil ↔ aspects.Sized ∧ ∃ raw,
      engine.entry? (canonicalAspectKey registry aspects) = some raw ∧
        ResolvedSigil.make registry order raw.name aspects raw.effectClass raw.resonanceCeiling
          (contradictionSeverityForKey engine.contradictions (canonicalAspectKey registry aspects) raw) =
            .ok sigil := by
  rw [CompositionEngine.compose, AspectSet.Sized]
  by_cases empty : aspects.names.length < 1
  · simp [empty, Nat.not_le.mpr empty]
  · by_cases many : 3 < aspects.names.length
    · simp [empty, many, Nat.not_le.mpr many]
    · rw [if_neg empty, if_neg many]
      have sized : 1 ≤ aspects.names.length ∧ aspects.names.length ≤ 3 := ⟨by omega, by omega⟩
      rcases held : engine.entry? (canonicalAspectKey registry aspects) with _ | raw
      · simp [held]
      · simp [held, sized]

theorem composed_again (engine : CompositionEngine) (order : SetOrder) (earlier later : AspectRegistry)
    (extension : later.Extends earlier) (aspects : AspectSet) (canonical : aspects.Canonical) (sigil : ResolvedSigil)
    (composed : engine.compose earlier order aspects = .ok sigil) :
    engine.compose later order aspects = .ok { sigil with semanticVector := fromAspects later aspects } ∧
      CeilingValid sigil.resonanceCeiling ∧ sigil.semanticVector = fromAspects earlier aspects := by
  obtain ⟨sized, raw, held, made⟩ := (compose_ok engine earlier order aspects sigil).mp composed
  obtain ⟨-, valid, rfl⟩ := (resolved_sigil_ok _ _ _ _ _ _ _ _).mp made
  refine ⟨?_, valid, rfl⟩
  rw [compose_ok, extension_key earlier later extension aspects canonical]
  exact ⟨sized, raw, held, (resolved_sigil_ok _ _ _ _ _ _ _ _).mpr ⟨sized, valid, rfl⟩⟩

theorem words_around_same (math : VectorMath) (sigil again : SigilFace) (intent more : SemanticVector)
    (severity : again.contradictionSeverity = sigil.contradictionSeverity)
    (ceiling : again.resonanceCeiling = sigil.resonanceCeiling)
    (cosines : cosine math again.semanticVector.components more.components =
      cosine math sigil.semanticVector.components intent.components)
    (notes : basisNote again.semanticVector more = basisNote sigil.semanticVector intent) :
    wordsAround math again more = wordsAround math sigil intent := by
  rw [wordsAround, wordsAround, cosines, notes]
  obtain ⟨name, severityAgain, ceilingAgain, vectorAgain⟩ := again
  obtain rfl : severityAgain = sigil.contradictionSeverity := severity
  obtain rfl : ceilingAgain = sigil.resonanceCeiling := ceiling
  rfl

theorem choice_same_iff (P Q : Prop) [Decidable P] [Decidable Q] (a b fallback : VerdictReading) (same : a = b)
    (told : b = fallback → (P ↔ Q)) : (if P then a else fallback) = (if Q then b else fallback) ↔ (P ↔ Q) := by
  by_cases left : P
  · by_cases right : Q
    · simp [left, right, same]
    · rw [if_pos left, if_neg right, same]
      exact ⟨told, fun both => absurd (both.mp left) right⟩
  · by_cases right : Q
    · rw [if_neg left, if_pos right]
      exact ⟨fun equal => told equal.symm, fun both => absurd (both.mpr right) left⟩
    · simp [left, right]

theorem verdict_kept_iff (math : VectorMath) (backend : Option ProjectionBackend) (six : SixComponents backend)
    (engine : CompositionEngine) (order : SetOrder) (earlier later : AspectRegistry)
    (registered : AspectsRegistered earlier later) (aspects : AspectSet) (canonical : aspects.Canonical)
    (sigil : ResolvedSigil) (composed : engine.compose earlier order aspects = .ok sigil) (intent : Intent) :
    ∃ again, engine.compose later order aspects = .ok again ∧
      ((evaluate math backend later again.face intent).reading =
          (evaluate math backend earlier sigil.face intent).reading ↔
        (NameFits math again.face (buildIntentVector math backend later intent).vector ↔
          NameFits math sigil.face (buildIntentVector math backend earlier intent).vector)) := by
  have extension := registered_extends earlier later registered
  obtain ⟨recomposed, valid, vector⟩ :=
    composed_again engine order earlier later extension aspects canonical sigil composed
  refine ⟨_, recomposed, ?_⟩
  have intents := intent_vector_same math backend six earlier later intent
  have aligned : SameCoeffs (fromAspects later aspects).components sigil.face.semanticVector.components := by
    rw [ResolvedSigil.face, vector]
    exact extension_aspects earlier later extension aspects canonical
  have cosines := same_cosine math _ _ _ _ aligned intents.vector
  have readings : readingAt (ResolvedSigil.face { sigil with semanticVector := fromAspects later aspects })
      (buildIntentVector math backend later intent) (cosine math (fromAspects later aspects).components
        (buildIntentVector math backend later intent).vector.components) =
      readingAt sigil.face (buildIntentVector math backend earlier intent)
        (cosine math sigil.face.semanticVector.components
          (buildIntentVector math backend earlier intent).vector.components) := by
    rw [readingAt, readingAt, cosines, intents.projectionMethod, intents.confidence]
    rfl
  have notes (partly : (buildIntentVector math backend earlier intent).projectionMethod = .partially) :
      basisNote (fromAspects later aspects) (buildIntentVector math backend later intent).vector =
        basisNote sigil.face.semanticVector (buildIntentVector math backend earlier intent).vector := by
    rw [partial_note math backend later aspects intent (intents.projectionMethod.trans partly), ResolvedSigil.face,
      vector, partial_note math backend earlier aspects intent partly]
  rw [evaluate_reading math backend later _ valid intent, evaluate_reading math backend earlier _ valid intent]
  apply choice_same_iff _ _ _ _ _ readings
  -- The fallback is of a partial projection, as is then the reading.
  intro fallback
  have partly : (buildIntentVector math backend earlier intent).projectionMethod = .partially :=
    congrArg VerdictReading.projectionMethod fallback
  have words := words_around_same math sigil.face (ResolvedSigil.face { sigil with
    semanticVector := fromAspects later aspects }) _ _ rfl rfl cosines (notes partly)
  rw [NameFits, NameFits, words]
  rfl

-- Exact on the squares of rationals. Elsewhere the root is that of the parts,
-- rounded down, so that the scores of an example are not those of math.sqrt:
-- the cast of FORM has 3/4 here, and 0.78 there.
def squareRoots : VectorMath where
  sqrt := fun x => (Nat.sqrt x.num.toNat : ℚ) / Nat.sqrt x.den
  exp := fun _ => 1
  sqrtNonneg := fun _ => div_nonneg (Nat.cast_nonneg _) (Nat.cast_nonneg _)
  expPos := fun _ => by decide +kernel

def lightSet : AspectSet where
  names := ["LIGHT"]
  distinct := List.nodup_singleton _

-- A sigil that replaces the one of the data files, under a longer name.
def longNamed : CompositionEngine where
  table := Table.empty.upsert
    { key := "LIGHT"
      entry := { name := String.ofList (List.replicate 180 'A'), effectClass := .revelation, resonanceCeiling := 1 } }

def longSigil : ResolvedSigil where
  name := String.ofList (List.replicate 180 'A')
  aspects := lightSet
  effectClass := .revelation
  resonanceCeiling := 1
  contradictionSeverity := .none
  semanticVector := fromAspects {} lightSet

def alignedBackend : ProjectionBackend := fun _ _ =>
  .ok (.arr [.float (1 / 2), .float (1 / 2), .int 0, .int 0, .float (1 / 2), .float (1 / 2)])

def cautious : Intent where
  objective := "archive the log"
  scope := "one file"
  reversibility := .irreversible
  sideEffectTolerance := .none

theorem harmony_named : aspectName "HARMONY" = true ∧ "HARMONY".length ≤ 30 := by decide +kernel

theorem harmony_marked : "H".length = 1 := rfl

theorem harmony_positive : (1 : Int) = -1 ∨ (1 : Int) = 1 := Or.inr rfl

def harmonyAspect : RegisteredAspect where
  name := "HARMONY"
  polarity := 1
  entropyCoefficient := 1
  symbol := "H"
  nameValid := harmony_named
  polarityValid := harmony_positive
  entropyRange := full_entropy
  symbolLength := harmony_marked

def withHarmony : AspectRegistry where
  registered := [harmonyAspect]
  basisVersion := 1

theorem harmony_registered : AspectsRegistered {} withHarmony :=
  .more {} {} withHarmony harmonyAspect 1 (.nothing {}) (by decide +kernel)

theorem aligned_backend_six : SixComponents (some alignedBackend) := by
  intro project isAgreeing
  obtain rfl := Option.some.inj isAgreeing
  exact ⟨_, rfl, fun _ _ => rfl⟩

theorem light_canonical : lightSet.Canonical := by
  intro name member
  obtain rfl := List.mem_singleton.mp member
  decide

theorem long_composed : longNamed.compose {} listOrder lightSet = .ok longSigil := by decide +kernel

def longAgain : ResolvedSigil := { longSigil with semanticVector := fromAspects withHarmony lightSet }

theorem long_name_length : (String.ofList (List.replicate 180 'A')).length = 180 := by
  rw [String.length_ofList, List.length_replicate]

theorem long_ceiling : CeilingValid 1 := by decide +kernel

theorem long_fits : NameFits squareRoots longSigil.face
    (buildIntentVector squareRoots (some alignedBackend) {} cautious).vector := by
  have around : wordsAround squareRoots longSigil.face
      (buildIntentVector squareRoots (some alignedBackend) {} cautious).vector = 100 := by decide +kernel
  have name : longSigil.face.name.length = 180 := long_name_length
  rw [NameFits, around, name]
  decide

theorem long_cramped : ¬ NameFits squareRoots longAgain.face
    (buildIntentVector squareRoots (some alignedBackend) withHarmony cautious).vector := by
  have around : wordsAround squareRoots longAgain.face
      (buildIntentVector squareRoots (some alignedBackend) withHarmony cautious).vector = 132 := by decide +kernel
  have name : longAgain.face.name.length = 180 := long_name_length
  rw [NameFits, around, name]
  decide

theorem long_reading : readingAt longSigil.face (buildIntentVector squareRoots (some alignedBackend) {} cautious)
    (cosine squareRoots longSigil.face.semanticVector.components
      (buildIntentVector squareRoots (some alignedBackend) {} cautious).vector.components) =
      { raw := 3 / 4, adjusted := 3 / 4, ceilingApplied := false, verdictType := .coherent,
        projectionMethod := .full, confidence := 1 } := by
  decide +kernel

theorem long_name_kept_iff : ∃ again, longNamed.compose withHarmony listOrder lightSet = .ok again ∧
    ((evaluate squareRoots (some alignedBackend) withHarmony again.face cautious).reading =
        (evaluate squareRoots (some alignedBackend) {} longSigil.face cautious).reading ↔
      (NameFits squareRoots again.face
          (buildIntentVector squareRoots (some alignedBackend) withHarmony cautious).vector ↔
        NameFits squareRoots longSigil.face
          (buildIntentVector squareRoots (some alignedBackend) {} cautious).vector)) :=
  verdict_kept_iff squareRoots (some alignedBackend) aligned_backend_six longNamed listOrder {} withHarmony
    harmony_registered lightSet light_canonical longSigil long_composed cautious

theorem long_name_falls_back :
    SixComponents (some alignedBackend) ∧ AspectsRegistered {} withHarmony ∧ lightSet.Canonical ∧
      (longNamed.compose {} listOrder lightSet).map
          (fun sigil => (evaluate squareRoots (some alignedBackend) {} sigil.face cautious).reading) =
        .ok { raw := 3 / 4, adjusted := 3 / 4, ceilingApplied := false, verdictType := .coherent,
              projectionMethod := .full, confidence := 1 } ∧
      (longNamed.compose withHarmony listOrder lightSet).map
          (fun sigil => (evaluate squareRoots (some alignedBackend) withHarmony sigil.face cautious).reading) =
        .ok { raw := 0, adjusted := 0, ceilingApplied := false, verdictType := .incoherent,
              projectionMethod := .partially, confidence := 6 / 10 } := by
  have again := (composed_again longNamed listOrder {} withHarmony (registered_extends {} withHarmony harmony_registered)
    lightSet light_canonical longSigil long_composed).1
  refine ⟨aligned_backend_six, harmony_registered, light_canonical, ?_, ?_⟩
  · rw [long_composed]
    refine congrArg Except.ok ?_
    exact (evaluate_reading squareRoots _ {} longSigil.face long_ceiling cautious).trans
      ((if_pos long_fits).trans long_reading)
  · rw [again]
    refine congrArg Except.ok ?_
    exact (evaluate_reading squareRoots _ withHarmony longAgain.face long_ceiling cautious).trans (if_neg long_cramped)

end Vermyth
