import Vermyth.Engine.BasisVerdict

set_option autoImplicit false

namespace Vermyth

open Foundation

theorem round_half_even_le (value : ℚ) (most : Int) (below : value ≤ most) : roundHalfEven value ≤ most := by
  have whole := Rat.floor_monotone below
  rw [Rat.floor_intCast] at whole
  rw [roundHalfEven]
  rcases whole.lt_or_eq with less | same
  · split_ifs <;> omega
  · -- The value is the bound itself, and nothing is left to round.
    have exact_value : value = most := le_antisymm below (same ▸ Rat.floor_le value)
    have rest : value - (value.floor : ℚ) < 1 / 2 := by
      rw [same, ← exact_value, sub_self]
      decide +kernel
    rw [if_pos rest]
    exact same.le

theorem fixed_point_least (digits : Nat) (value : ℚ) : digits + 2 ≤ (fixedPoint digits value).length := by
  have whole : 0 < (toString ((roundHalfEven (|value| * 10 ^ digits)).toNat / 10 ^ digits)).length := Nat.length_repr_pos
  have point : ".".length = 1 := rfl
  rw [fixedPoint]
  simp only [String.length_append, String.length_ofList, List.length_replicate, point]
  omega

theorem fixed_point_most (digits : Nat) (some : 0 < digits) (value : ℚ) (range : |value| ≤ 1) :
    (fixedPoint digits value).length ≤ digits + 3 := by
  have scale : (0 : ℚ) ≤ 10 ^ digits := by positivity
  have scaled : (roundHalfEven (|value| * 10 ^ digits)).toNat ≤ 10 ^ digits := by
    have bound : |value| * 10 ^ digits ≤ ((10 ^ digits : Int) : ℚ) := by
      push_cast
      exact mul_le_of_le_one_left scale range
    have rounded := round_half_even_le _ _ bound
    exact Int.toNat_le.mpr (by exact_mod_cast rounded)
  have whole : (toString ((roundHalfEven (|value| * 10 ^ digits)).toNat / 10 ^ digits)).length ≤ 1 := by
    have few : (roundHalfEven (|value| * 10 ^ digits)).toNat / 10 ^ digits ≤ 1 :=
      Nat.div_le_of_le_mul (by rwa [Nat.mul_one])
    exact (Nat.length_repr_le_iff Nat.one_pos).mpr (by omega)
  have fraction : (toString ((roundHalfEven (|value| * 10 ^ digits)).toNat % 10 ^ digits)).length ≤ digits :=
    (Nat.length_repr_le_iff some).mpr (Nat.mod_lt _ (by positivity))
  have sign : (if value < 0 then "-" else "").length ≤ 1 := by
    split_ifs <;> decide
  have point : ".".length = 1 := rfl
  rw [fixedPoint]
  simp only [String.length_append, String.length_ofList, List.length_replicate, point]
  omega

theorem alignment_word_most (cosine : ℚ) : (alignmentWord cosine).length ≤ 10 := by
  rw [alignmentWord]
  split_ifs <;> decide

theorem penalty_phrase_length (severity : ContradictionSeverity) :
    24 ≤ (penaltyPhrase severity).length ∧ (penaltyPhrase severity).length ≤ 34 := by
  cases severity <;> decide

theorem ceil_desc_length (ceiling penalized : ℚ) (valid : CeilingValid ceiling) :
    11 ≤ (ceilDesc ceiling penalized).length ∧ (ceilDesc ceiling penalized).length ≤ 16 := by
  rw [ceilDesc]
  split_ifs
  · have opening : "applied at ".length = 11 := by decide
    have most := fixed_point_most 2 Nat.two_pos ceiling (abs_le.mpr ⟨by linarith [valid.1], valid.2⟩)
    rw [String.length_append, opening]
    omega
  · decide

theorem words_joined (a b c d e f g h i j k l : String) :
    (a ++ b ++ c ++ d ++ e ++ f ++ g ++ h ++ i ++ j ++ k ++ l).length =
      a.length + b.length + c.length + d.length + e.length + f.length + g.length + h.length + i.length + j.length +
        k.length + l.length := by
  simp only [String.length_append]

theorem proof_words (sigil : SigilFace) (cosine : ℚ) (note : String) :
    (proofText { sigil with name := "" } cosine note).length = 21 + (alignmentWord cosine).length + 6 + 0 + 9 +
      (fixedPoint 3 cosine).length + 3 + (penaltyPhrase sigil.contradictionSeverity).length + 10 +
      (ceilDesc sigil.resonanceCeiling (penalized sigil.contradictionSeverity cosine)).length + 1 + note.length :=
  words_joined "Intent vector aligns " (alignmentWord cosine) " with " "" " (cosine " (fixedPoint 3 cosine) "); "
    (penaltyPhrase sigil.contradictionSeverity) "; ceiling "
    (ceilDesc sigil.resonanceCeiling (penalized sigil.contradictionSeverity cosine)) "." note

def NameRoom (math : VectorMath) (sigil : SigilFace) (intent : SemanticVector) : Prop :=
  let cos := cosine math sigil.semanticVector.components intent.components
  sigil.name.length + (alignmentWord cos).length + (fixedPoint 3 cos).length +
    (penaltyPhrase sigil.contradictionSeverity).length +
      (ceilDesc sigil.resonanceCeiling (penalized sigil.contradictionSeverity cos)).length +
        (basisNote sigil.semanticVector intent).length ≤ 250

instance (math : VectorMath) (sigil : SigilFace) (intent : SemanticVector) : Decidable (NameRoom math sigil intent) :=
  inferInstanceAs (Decidable (_ ≤ _))

theorem name_room_iff (math : VectorMath) (sigil : SigilFace) (intent : SemanticVector) :
    NameRoom math sigil intent ↔ NameFits math sigil intent := by
  rw [NameFits, wordsAround, proof_words, NameRoom]
  constructor
  · intro room
    omega
  · intro fits
    omega

theorem words_around_range (math : VectorMath) (sigil : SigilFace) (valid : CeilingValid sigil.resonanceCeiling)
    (intent : SemanticVector) :
    96 ≤ wordsAround math sigil intent ∧
      wordsAround math sigil intent ≤ 116 + (basisNote sigil.semanticVector intent).length := by
  have range := cosine_range math sigil.semanticVector.components intent.components
  rw [wordsAround, proof_words]
  generalize cosine math sigil.semanticVector.components intent.components = cos at range
  have word := alignment_word_length cos
  have longWord := alignment_word_most cos
  have least := fixed_point_least 3 cos
  have most := fixed_point_most 3 (by decide) cos (abs_le.mpr range)
  obtain ⟨shortPenalty, longPenalty⟩ := penalty_phrase_length sigil.contradictionSeverity
  obtain ⟨shortCeiling, longCeiling⟩ :=
    ceil_desc_length sigil.resonanceCeiling (penalized sigil.contradictionSeverity cos) valid
  omega

theorem short_name_fits (math : VectorMath) (sigil : SigilFace) (valid : CeilingValid sigil.resonanceCeiling)
    (intent : SemanticVector)
    (short : sigil.name.length + (basisNote sigil.semanticVector intent).length ≤ 184) : NameFits math sigil intent := by
  have most := (words_around_range math sigil valid intent).2
  rw [NameFits]
  omega

theorem long_name_cramped (math : VectorMath) (sigil : SigilFace) (valid : CeilingValid sigil.resonanceCeiling)
    (intent : SemanticVector) (long : 205 ≤ sigil.name.length) : ¬ NameFits math sigil intent := by
  have least := (words_around_range math sigil valid intent).1
  rw [NameFits]
  omega

end Vermyth
