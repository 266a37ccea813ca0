import Mathlib.Tactic.Positivity
import Vermyth.Engine.Causal
import Vermyth.Engine.Reexpression

set_option autoImplicit false

namespace Vermyth

open Foundation

def CastRecord.withVector (record : CastRecord) (vector : SemanticVector) : CastRecord :=
  { record with sigil := { record.sigil with semanticVector := vector } }

def CastRecord.vector (record : CastRecord) : SemanticVector := record.sigil.semanticVector

def CastRecord.Before (source target : CastRecord) : Prop := source.timestamp.instant < target.timestamp.instant

instance (source target : CastRecord) : Decidable (source.Before target) := inferInstanceAs (Decidable (_ < _))

def dueEdge (math : VectorMath) (source target : CastRecord) (stamp : EdgeStamp) : Option CausalEdge :=
  let sim := clipComponent (paddedCosine math source.vector target.vector)
  let weight := edgeStrength sim (elapsedSeconds source target)
  if source.timestamp.instant < target.timestamp.instant ∧ 20 / 100 ≤ weight then
    some { edgeId := stamp.edgeId, sourceCastId := source.castId, targetCastId := target.castId,
           edgeType := edgeType source target sim, weight := weight, createdAt := stamp.createdAt,
           weightRange := clamp_in_unit _ }
  else none

theorem edge_strength_monotone (sim higher sooner later : ℚ) (least : -1 ≤ sim) (similar : sim ≤ higher)
    (closer : sooner ≤ later) : edgeStrength sim later ≤ edgeStrength higher sooner := by
  have waits : (0 : ℚ) ≤ max 0 sooner := le_max_left _ _
  have decay : 1 / (1 + max 0 later / 3600) ≤ 1 / (1 + max 0 sooner / 3600) := by
    apply one_div_le_one_div_of_le (by positivity)
    have longer : max 0 sooner ≤ max 0 later := max_le_max le_rfl closer
    linarith
  have factor : (sim + 1) / 2 ≤ (higher + 1) / 2 := by linarith
  have nonneg : 0 ≤ (higher + 1) / 2 := by linarith
  have fades : 0 ≤ 1 / (1 + max 0 later / 3600) := by positivity
  exact clamp_mono _ _ (mul_le_mul factor decay fades nonneg)

section Inference

variable (math : VectorMath) (source target : CastRecord) (stamp : EdgeStamp)

theorem infer_same (same : source.Before target →
      source.vector.normalizedBasisVersion = target.vector.normalizedBasisVersion) :
    inferCausalEdge math source target stamp = .ok (dueEdge math source target stamp) := by
  have shown := padded_cosine math source.vector target.vector
  rw [inferCausalEdge, dueEdge]
  by_cases late : target.timestamp.instant ≤ source.timestamp.instant
  · rw [if_pos late, if_neg fun due => not_lt.mpr late due.1]
  · have basis := same (not_le.mp late)
    have similar : cosineSimilarity math source.sigil.semanticVector target.sigil.semanticVector =
        .ok (clipComponent (paddedCosine math source.vector target.vector)) := by
      rw [← shown]
      exact if_pos basis
    rw [if_neg late, similar]
    dsimp only
    by_cases weak : edgeStrength (clipComponent (paddedCosine math source.vector target.vector))
        (elapsedSeconds source target) < 20 / 100
    · rw [if_pos weak, if_neg fun due => not_lt.mpr due.2 weak]
    · rw [if_neg weak, if_pos ⟨not_le.mp late, not_lt.mp weak⟩]

theorem infer_other (before : source.Before target)
    (other : source.vector.normalizedBasisVersion ≠ target.vector.normalizedBasisVersion) :
    inferCausalEdge math source target stamp = .error (basisMismatch source.vector target.vector) := by
  have differ : cosineSimilarity math source.sigil.semanticVector target.sigil.semanticVector =
      .error (basisMismatch source.vector target.vector) := if_neg other
  rw [inferCausalEdge, if_neg (not_le.mpr before), differ]

theorem infer_ok (edge : Option CausalEdge) (inferred : inferCausalEdge math source target stamp = .ok edge) :
    edge = dueEdge math source target stamp := by
  by_cases same : source.Before target →
      source.vector.normalizedBasisVersion = target.vector.normalizedBasisVersion
  · rw [infer_same math source target stamp same] at inferred
    exact (Except.ok.inj inferred).symm
  · rw [infer_other math source target stamp (Classical.not_imp.mp same).1 (Classical.not_imp.mp same).2] at inferred
    contradiction

theorem due_edge_some (edge : CausalEdge) (due : dueEdge math source target stamp = some edge) :
    source.Before target ∧ edge.sourceCastId = source.castId ∧ edge.targetCastId = target.castId ∧
      edge.weight = edgeStrength (clipComponent (paddedCosine math source.vector target.vector))
        (elapsedSeconds source target) ∧ 20 / 100 ≤ edge.weight := by
  rw [dueEdge] at due
  split_ifs at due with holds
  obtain rfl := Option.some.inj due
  exact ⟨holds.1, rfl, rfl, rfl, holds.2⟩

theorem infer_some (edge : CausalEdge) (inferred : inferCausalEdge math source target stamp = .ok (some edge)) :
    source.Before target ∧ edge.sourceCastId = source.castId ∧ edge.targetCastId = target.castId ∧
      edge.weight = edgeStrength (clipComponent (paddedCosine math source.vector target.vector))
        (elapsedSeconds source target) ∧ 20 / 100 ≤ edge.weight :=
  due_edge_some math source target stamp edge (infer_ok math source target stamp _ inferred).symm

theorem due_edge_ordered (again more : CastRecord) (other : EdgeStamp) (edge : CausalEdge)
    (due : dueEdge math source target stamp = some edge) (before : again.Before more)
    (closer : elapsedSeconds again more ≤ elapsedSeconds source target)
    (similar : paddedCosine math source.vector target.vector ≤ paddedCosine math again.vector more.vector) :
    ∃ heavier, dueEdge math again more other = some heavier ∧ edge.weight ≤ heavier.weight := by
  obtain ⟨-, -, -, weight, enough⟩ := due_edge_some math source target stamp edge due
  have order := edge_strength_monotone _ _ _ _ (clip_range (paddedCosine math source.vector target.vector)).1
    (clip_monotone similar) closer
  rw [weight] at enough
  rw [dueEdge, if_pos ⟨before, enough.trans order⟩]
  exact ⟨_, rfl, weight.trans_le order⟩

theorem due_edge_reexpressed (left right : SemanticVector) (ofLeft : Reexpressed source.vector left)
    (ofRight : Reexpressed target.vector right) :
    dueEdge math (source.withVector left) (target.withVector right) stamp = dueEdge math source target stamp := by
  have cosines : clipComponent (paddedCosine math left right) =
      clipComponent (paddedCosine math source.vector target.vector) := by
    rw [← padded_cosine, ← padded_cosine, reexpressed_cosine math _ _ left right ofLeft ofRight]
  simp only [dueEdge, CastRecord.withVector, CastRecord.vector] at cosines ⊢
  simp only [cosines]
  rfl

end Inference

structure InfersFreely (math : VectorMath) (source target : CastRecord) (left right : SemanticVector) : Prop where
  total : ∀ stamp, ∃ inferred, inferCausalEdge math source target stamp = .ok inferred
  oriented : ∀ stamp edge, inferCausalEdge math source target stamp = .ok (some edge) →
    source.timestamp.instant < target.timestamp.instant ∧ edge.sourceCastId = source.castId ∧
      edge.targetCastId = target.castId
  weighed : ∀ stamp edge, inferCausalEdge math source target stamp = .ok (some edge) →
    20 / 100 ≤ edge.weight ∧ edge.weight ≤ 1
  ordered : ∀ stamp edge, inferCausalEdge math source target stamp = .ok (some edge) →
    ∀ again more : CastRecord, again.timestamp.instant < more.timestamp.instant →
      elapsedSeconds again more ≤ elapsedSeconds source target →
        paddedCosine math source.vector target.vector ≤ paddedCosine math again.vector more.vector →
          ∀ other inferred, inferCausalEdge math again more other = .ok inferred →
            ∃ heavier, inferred = some heavier ∧ edge.weight ≤ heavier.weight
  reexpressed : ∀ stamp, inferCausalEdge math (source.withVector left) (target.withVector right) stamp =
    inferCausalEdge math source target stamp

def BasesAgree (source target : CastRecord) (left right : SemanticVector) : Prop :=
  source.vector.normalizedBasisVersion = target.vector.normalizedBasisVersion ∧
    left.normalizedBasisVersion = right.normalizedBasisVersion

theorem infers_freely_iff (math : VectorMath) (source target : CastRecord) (left right : SemanticVector)
    (ofLeft : Reexpressed source.vector left) (ofRight : Reexpressed target.vector right) :
    InfersFreely math source target left right ↔
      (source.timestamp.instant < target.timestamp.instant → BasesAgree source target left right) := by
  constructor
  · rintro ⟨total, -, -, -, reexpressed⟩ before
    have stamp : EdgeStamp := { edgeId := "", createdAt := source.timestamp }
    obtain ⟨inferred, ok⟩ := total stamp
    constructor
    · by_contra other
      rw [infer_other math source target stamp before other] at ok
      contradiction
    · by_contra other
      have again := reexpressed stamp
      rw [ok, infer_other math (source.withVector left) (target.withVector right) stamp before other] at again
      contradiction
  · intro agree
    constructor
    · intro stamp
      exact ⟨_, infer_same math source target stamp fun before => (agree before).1⟩
    · intro stamp edge inferred
      obtain ⟨before, sourceId, targetId, -⟩ := infer_some math source target stamp edge inferred
      exact ⟨before, sourceId, targetId⟩
    · intro stamp edge inferred
      obtain ⟨-, -, -, -, enough⟩ := infer_some math source target stamp edge inferred
      exact ⟨enough, edge.weightRange.2⟩
    · intro stamp edge inferred again more before closer similar other found foundEdge
      obtain ⟨heavier, due, weight⟩ := due_edge_ordered math source target stamp again more other edge
        (infer_ok math source target stamp _ inferred).symm before closer similar
      exact ⟨heavier, (infer_ok math again more other found foundEdge).trans due, weight⟩
    · intro stamp
      rw [infer_same math source target stamp fun before => (agree before).1,
        infer_same math (source.withVector left) (target.withVector right) stamp fun before => (agree before).2,
        due_edge_reexpressed math source target stamp left right ofLeft ofRight]

end Vermyth
