import Mathlib.Algebra.Order.Ring.Abs
import Mathlib.Tactic.Linarith
import Mathlib.Tactic.NormNum
import Mathlib.Tactic.Ring
import Vermyth.Casting.Tools

set_option autoImplicit false

namespace Vermyth

open Foundation CastProcess

-- A byte of the digest, mapped into [-1, 1].
def byteUnit (byte : UInt8) : ℚ := (byte.toNat : ℚ) / 255 * 2 - 1

-- hashlib.sha256(text.encode("utf-8")).digest() gives 32 bytes for any text.
def hash4 (sha256 : String → Vector UInt8 32) (text : String) : List ℚ :=
  let h := sha256 text
  [byteUnit h[0], byteUnit h[1], byteUnit h[2], byteUnit h[3]]

def revMap : ReversibilityClass → ℚ
  | .reversible => -1
  | .partially => 0
  | .irreversible => 1

def tolMap : SideEffectTolerance → ℚ
  | .none => 0
  | .low => 33 / 100
  | .medium => 66 / 100
  | .high => 1

def intent4 (intent : Intent) : List ℚ :=
  [revMap intent.reversibility, tolMap intent.sideEffectTolerance,
    min 1 (max 0 ((intent.scope.length : ℚ) / 200)), min 1 (max 0 ((intent.objective.length : ℚ) / 500))]

def lineage4 (sha256 : String → Vector UInt8 32) (lineage : Option Lineage) : List ℚ :=
  lineage.elim [0, 0, 0, 0] fun given => hash4 sha256 given.parentCastId

def Geometric.encodePacket (sha256 : String → Vector UInt8 32) (vector : SemanticVector) (intent : Intent)
    (lineage : Option Lineage) (version : Int := 1) : Except PyError GeometricPacket :=
  let first := vector.components.take 6
  let a := if first.length < 6 then first ++ List.replicate (6 - first.length) 0 else first
  let i := intent4 intent
  let proof := coeff a 0 * coeff i 0 + coeff a 1 * coeff i 1 + coeff a 2 * coeff i 2 + coeff a 3 * coeff i 3
  GeometricPacket.make (a ++ i ++ lineage4 sha256 lineage ++ [proof]) version

def CastProcess.GeometricPacket.lineageHash (packet : GeometricPacket) : List ℚ := (packet.payload.drop 10).take 4

-- The parent cannot be told from its hash. Lineage draws the branch_id it is
-- not given.
def CastProcess.GeometricPacket.lineage (packet : GeometricPacket) (branchId : String) : Option Lineage :=
  if packet.lineageHash.any fun x => 1 / 1000000000000 < |x| then
    some { parentCastId := "HASHED_PARENT", depth := 1, branchId, divergenceVector := none, depthPos := le_rfl }
  else none

def Geometric.decodePacket (packet : GeometricPacket) (branchId : String) : SemanticVector × Intent × Option Lineage :=
  (packet.aspectVector, packet.intent, packet.lineage branchId)

-- No byte lies in the middle, so that a hash is never taken for no lineage.
theorem byte_unit_apart (byte : UInt8) : 1 / 1000000000000 < |byteUnit byte| := by
  rw [byteUnit, lt_abs]
  rcases Nat.lt_or_ge byte.toNat 128 with low | high
  · have bound : (byte.toNat : ℚ) ≤ 127 := by exact_mod_cast Nat.le_of_lt_succ low
    right
    linarith
  · have bound : (128 : ℚ) ≤ byte.toNat := by exact_mod_cast high
    left
    linarith

theorem reversibility_decodes (reversibility : ReversibilityClass) :
    (if revMap reversibility ≤ -1 / 2 then ReversibilityClass.reversible
      else if 1 / 2 ≤ revMap reversibility then .irreversible else .partially) = reversibility := by
  cases reversibility <;> norm_num [revMap]

theorem tolerance_decodes (tolerance : SideEffectTolerance) :
    (if tolMap tolerance ≤ 20 / 100 then SideEffectTolerance.none
      else if tolMap tolerance ≤ 50 / 100 then .low
      else if tolMap tolerance ≤ 85 / 100 then .medium else .high) = tolerance := by
  cases tolerance <;> norm_num [tolMap]

theorem six_split (items : List ℚ) (six : items.length = 6) : ∃ a b c d e f, items = [a, b, c, d, e, f] := by
  obtain _ | ⟨a, _ | ⟨b, _ | ⟨c, _ | ⟨d, _ | ⟨e, _ | ⟨f, _ | ⟨g, rest⟩⟩⟩⟩⟩⟩⟩ := items <;>
    first | exact ⟨a, b, c, d, e, f, rfl⟩ | simp at six

theorem first_six (vector : SemanticVector) : (vector.components.take 6).length = 6 := by
  rw [List.length_take]
  exact Nat.min_eq_left vector.atLeastSix

theorem lineage_four (sha256 : String → Vector UInt8 32) (lineage : Option Lineage) :
    (lineage4 sha256 lineage).length = 4 := by
  cases lineage <;> rfl

theorem geometric_payload (sha256 : String → Vector UInt8 32) (vector : SemanticVector) (intent : Intent)
    (lineage : Option Lineage) :
    ∃ packet, Geometric.encodePacket sha256 vector intent lineage = .ok packet ∧
      packet.payload = vector.components.take 6 ++ intent4 intent ++ lineage4 sha256 lineage ++
        [coeff (vector.components.take 6) 0 * coeff (intent4 intent) 0 +
          coeff (vector.components.take 6) 1 * coeff (intent4 intent) 1 +
          coeff (vector.components.take 6) 2 * coeff (intent4 intent) 2 +
          coeff (vector.components.take 6) 3 * coeff (intent4 intent) 3] := by
  have whole : ¬ (vector.components.take 6).length < 6 := by rw [first_six]; decide
  simp only [Geometric.encodePacket, if_neg whole, GeometricPacket.make]
  rw [if_neg (by decide), if_neg (by decide), dif_pos]
  · exact ⟨_, rfl, rfl⟩
  · rw [List.length_append, List.length_append, List.length_append, first_six, lineage_four]
    exact le_rfl

theorem geometric_lineage (packet : GeometricPacket) (branchId : String) :
    (packet.lineage branchId).isSome = packet.lineageHash.any fun x => 1 / 1000000000000 < |x| := by
  rw [GeometricPacket.lineage]
  cases packet.lineageHash.any fun x => 1 / 1000000000000 < |x| <;> rfl

theorem lineage_marked (sha256 : String → Vector UInt8 32) (lineage : Option Lineage) :
    ((lineage4 sha256 lineage).any fun x => 1 / 1000000000000 < |x|) = lineage.isSome := by
  cases lineage with
  | none => norm_num [lineage4]
  | some given =>
      rw [List.any_eq_true.mpr]
      · rfl
      · exact ⟨_, List.mem_cons_self, decide_eq_true (byte_unit_apart _)⟩

theorem aspect_vector_ext (a b : GeometricPacket) (same : a.aspectVector.components = b.aspectVector.components) :
    a.aspectVector = b.aspectVector := by
  simp only [GeometricPacket.aspectVector, SemanticVector.mk.injEq, and_true]
  exact same

theorem geometric_encoded (sha256 : String → Vector UInt8 32) (branchId : String) (vector : SemanticVector)
    (intent : Intent) (lineage : Option Lineage) :
    ∃ packet, Geometric.encodePacket sha256 vector intent lineage = .ok packet ∧ packet.Proved ∧
      (Geometric.decodePacket packet branchId).1.components = vector.components.take 6 ∧
      (Geometric.decodePacket packet branchId).2.1.reversibility = intent.reversibility ∧
      (Geometric.decodePacket packet branchId).2.1.sideEffectTolerance = intent.sideEffectTolerance ∧
      (Geometric.decodePacket packet branchId).2.2.isSome = lineage.isSome := by
  obtain ⟨packet, encoded, payload⟩ := geometric_payload sha256 vector intent lineage
  obtain ⟨a, b, c, d, e, f, six⟩ := six_split _ (first_six vector)
  rw [six] at payload
  refine ⟨packet, encoded, ?_, ?_, ?_, ?_, ?_⟩
  · have last : packet.payload.getLast?.getD 0 = coeff [a, b, c, d, e, f] 0 * coeff (intent4 intent) 0 +
        coeff [a, b, c, d, e, f] 1 * coeff (intent4 intent) 1 + coeff [a, b, c, d, e, f] 2 * coeff (intent4 intent) 2 +
        coeff [a, b, c, d, e, f] 3 * coeff (intent4 intent) 3 := by
      rw [payload, List.getLast?_concat]
      rfl
    have expected : ((List.range 4).map fun i => coeff packet.payload i * coeff packet.payload (6 + i)).sum =
        packet.payload.getLast?.getD 0 := by
      rw [last, payload]
      change a * coeff (intent4 intent) 0 + (b * coeff (intent4 intent) 1 +
        (c * coeff (intent4 intent) 2 + (d * coeff (intent4 intent) 3 + 0))) = _
      simp only [coeff, List.getD_cons_zero, List.getD_cons_succ]
      ring
    rw [GeometricPacket.Proved, expected, sub_self, abs_zero]
    norm_num
  · change packet.payload.take 6 = _
    rw [payload, six]
    rfl
  · have held : coeff packet.payload 6 = revMap intent.reversibility := by rw [payload]; rfl
    change (if coeff packet.payload 6 ≤ -1 / 2 then _ else if 1 / 2 ≤ coeff packet.payload 6 then _ else _) = _
    rw [held]
    exact reversibility_decodes intent.reversibility
  · have held : coeff packet.payload 7 = tolMap intent.sideEffectTolerance := by rw [payload]; rfl
    change (if coeff packet.payload 7 ≤ 20 / 100 then _ else if coeff packet.payload 7 ≤ 50 / 100 then _
      else if coeff packet.payload 7 ≤ 85 / 100 then _ else _) = _
    rw [held]
    exact tolerance_decodes intent.sideEffectTolerance
  · have hash : packet.lineageHash = lineage4 sha256 lineage := by
      rw [GeometricPacket.lineageHash, payload]
      cases lineage <;> rfl
    rw [Geometric.decodePacket, geometric_lineage, hash, lineage_marked]

theorem geometric_round_trip (sha256 : String → Vector UInt8 32) (branchId : String) :
    (∀ vector intent lineage, ∃ packet, Geometric.encodePacket sha256 vector intent lineage = .ok packet ∧
      packet.Proved ∧ (Geometric.decodePacket packet branchId).1.components = vector.components.take 6 ∧
      (Geometric.decodePacket packet branchId).2.1.reversibility = intent.reversibility ∧
      (Geometric.decodePacket packet branchId).2.1.sideEffectTolerance = intent.sideEffectTolerance ∧
      (Geometric.decodePacket packet branchId).2.2.isSome = lineage.isSome) ∧
    ∀ (packet : GeometricPacket) lineage, ∃ again,
      Geometric.encodePacket sha256 (Geometric.decodePacket packet branchId).1
        (Geometric.decodePacket packet branchId).2.1 lineage = .ok again ∧
      (Geometric.decodePacket again branchId).1 = (Geometric.decodePacket packet branchId).1 ∧
      (Geometric.decodePacket again branchId).2.1.reversibility =
        (Geometric.decodePacket packet branchId).2.1.reversibility ∧
      (Geometric.decodePacket again branchId).2.1.sideEffectTolerance =
        (Geometric.decodePacket packet branchId).2.1.sideEffectTolerance := by
  refine ⟨geometric_encoded sha256 branchId, ?_⟩
  intro packet lineage
  obtain ⟨again, encoded, _, components, reversibility, tolerance, _⟩ := geometric_encoded sha256 branchId
    (Geometric.decodePacket packet branchId).1 (Geometric.decodePacket packet branchId).2.1 lineage
  refine ⟨again, encoded, ?_, reversibility, tolerance⟩
  have six : (Geometric.decodePacket packet branchId).1.components.take 6 =
      (Geometric.decodePacket packet branchId).1.components :=
    (List.take_take ..).trans rfl
  exact aspect_vector_ext again packet (components.trans six)

end Vermyth
