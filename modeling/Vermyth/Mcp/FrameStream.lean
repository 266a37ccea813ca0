import Mathlib.Algebra.Group.Nat.Defs
import Vermyth.Foundation.Delimited
import Vermyth.Mcp.BinaryTransport

set_option autoImplicit false

namespace Vermyth

open Foundation

def BinaryFrame.Small (frame : BinaryFrame) : Prop := frame.payload.length < lengthBound

def IsValueError (raised : PyError) : Prop := ∃ text, raised = .valueError text

-- The bytes of encode_frame of one frame after another.
def encodeFrames (frames : List BinaryFrame) : Except PyError Bytes := do
  let encoded ← frames.mapM fun frame => encodeFrame frame.frameType frame.payload
  return encoded.flatten

-- What decode_frame_from_buffer returns when it is called again and again.
def decodeFrames (stream : Bytes) : List BinaryFrame × Ending PyError := decodeAll decodeFrame stream

theorem length_bytes_read (a b c d : UInt8) : lengthBytes (readLength a b c d) = [a, b, c, d] := by
  have bounds := And.intro a.toNat_lt (And.intro b.toNat_lt (And.intro c.toNat_lt d.toNat_lt))
  have first : (((a.toNat * 256 + b.toNat) * 256 + c.toNat) * 256 + d.toNat) / 16777216 = a.toNat := by omega
  have second : (((a.toNat * 256 + b.toNat) * 256 + c.toNat) * 256 + d.toNat) / 65536 % 256 = b.toNat := by omega
  have third : (((a.toNat * 256 + b.toNat) * 256 + c.toNat) * 256 + d.toNat) / 256 % 256 = c.toNat := by omega
  have fourth : (((a.toNat * 256 + b.toNat) * 256 + c.toNat) * 256 + d.toNat) % 256 = d.toNat := by omega
  have byte (value : Nat) (own : UInt8) (same : value % 256 = own.toNat) : UInt8.ofNat value = own := by
    apply UInt8.toNat_inj.mp
    rw [UInt8.toNat_ofNat']
    exact same
  rw [lengthBytes, readLength, byte _ a (by rw [first]; omega), byte _ b second, byte _ c third, byte _ d fourth]

theorem read_length_small (a b c d : UInt8) : readLength a b c d < lengthBound := by
  have bounds := And.intro a.toNat_lt (And.intro b.toNat_lt (And.intro c.toNat_lt d.toNat_lt))
  rw [readLength, lengthBound]
  omega

theorem decode_frame_wrote (stream : Bytes) (frame : BinaryFrame) (rest : Bytes)
    (decoded : decodeFrame stream = .ok (some (frame, rest))) : frame.Small ∧ stream = frame.wire ++ rest := by
  unfold decodeFrame at decoded
  split at decoded
  · cases decoded
  · rename_i m n o p version frameType a b c d tail
    dsimp only at decoded
    split_ifs at decoded with magic current whole
    obtain ⟨rfl, rfl⟩ := Prod.mk.inj (Option.some.inj (Except.ok.inj decoded))
    have long : (tail.take (readLength a b c d)).length = readLength a b c d := not_not.mp whole
    have small := read_length_small a b c d
    refine ⟨?_, ?_⟩
    · rw [BinaryFrame.Small, long]
      exact small
    · have opening : [m, n, o, p] = frameMagic := not_not.mp magic
      have numbered : version = frameVersion := not_not.mp current
      rw [BinaryFrame.wire, long, length_bytes_read, ← opening, numbered]
      simp only [List.cons_append, List.nil_append, List.take_append_drop]
  · contradiction

theorem decode_frame_none (stream : Bytes) (decoded : decodeFrame stream = .ok none) : stream = [] := by
  unfold decodeFrame at decoded
  split at decoded
  · rfl
  · dsimp only at decoded
    split_ifs at decoded
    cases decoded
  · contradiction

theorem decode_short (stream : Bytes) (some : stream ≠ []) (short : stream.length < 10) :
    decodeFrame stream = .error (.valueError "incomplete frame header") := by
  unfold decodeFrame
  split
  · contradiction
  · simp only [List.length_cons] at short
    omega
  · rfl

theorem decode_cut (frame : BinaryFrame) (small : frame.Small) (part : Bytes)
    (less : part.length < frame.payload.length) :
    decodeFrame (frameMagic ++ frameVersion :: frame.frameType :: (lengthBytes frame.payload.length ++ part)) =
      .error (.valueError "incomplete frame payload") := by
  change decodeFrame (86 :: 77 :: 84 :: 72 :: frameVersion :: frame.frameType :: _ :: _ :: _ :: _ :: part) = _
  have cut : (part.take frame.payload.length).length ≠ frame.payload.length := by
    rw [List.length_take]
    omega
  rw [decodeFrame]
  simp only [read_length_bytes frame.payload.length small, frameMagic, ne_eq, not_true_eq_false, if_false,
    if_pos cut]

theorem frame_cut (frame : BinaryFrame) (pre : Bytes) (small : frame.Small) (front : pre <+: frame.wire)
    (some : pre ≠ []) (strict : pre ≠ frame.wire) : ∃ raised, decodeFrame pre = .error raised ∧ IsValueError raised := by
  by_cases short : pre.length < 10
  · exact ⟨_, decode_short pre some short, _, rfl⟩
  · let header := frameMagic ++ frameVersion :: frame.frameType :: lengthBytes frame.payload.length
    have whole : frame.wire = header ++ frame.payload := by simp [BinaryFrame.wire, header]
    have long : header.length = 10 := by simp [header, frameMagic, lengthBytes]
    have within : header <+: pre := by
      refine List.prefix_of_prefix_length_le ?_ front (by omega)
      rw [whole]
      exact List.prefix_append _ _
    obtain ⟨part, rfl⟩ := within
    rw [whole] at front strict
    have partFront := (List.prefix_append_right_inj header).mp front
    have less : part.length < frame.payload.length := by
      refine lt_of_le_of_ne partFront.length_le fun same => strict ?_
      rw [partFront.eq_of_length same]
    have shown : header ++ part =
        frameMagic ++ frameVersion :: frame.frameType :: (lengthBytes frame.payload.length ++ part) := by
      simp [header]
    have refused := decode_cut frame small part less
    rw [← shown] at refused
    exact ⟨_, refused, _, rfl⟩

theorem frames_delimited : Delimited decodeFrame BinaryFrame.wire BinaryFrame.Small IsValueError where
  atEnd := rfl
  onlyAtEnd := decode_frame_none
  reads := fun frame rest small => decode_wire frame small rest
  wrote := decode_frame_wrote
  cut := frame_cut
  nonempty := by
    intro frame same
    have length := wire_length frame
    rw [same, List.length_nil] at length
    omega

theorem encode_frames_ok (frames : List BinaryFrame) (small : ∀ frame ∈ frames, frame.Small) :
    encodeFrames frames = .ok (frames.flatMap BinaryFrame.wire) := by
  have each : ∀ frames : List BinaryFrame, (∀ frame ∈ frames, frame.Small) →
      frames.mapM (fun frame => encodeFrame frame.frameType frame.payload) = .ok (frames.map BinaryFrame.wire) := by
    intro frames small
    induction frames with
    | nil => rfl
    | cons frame rest ih =>
        obtain ⟨first, later⟩ := List.forall_mem_cons.mp small
        rw [List.mapM_cons, encode_frame_wire frame first, ih later]
        rfl
  rw [encodeFrames, each frames small]
  rfl

theorem framing_prefix_code :
    (∀ frames : List BinaryFrame, (∀ frame ∈ frames, frame.payload.length < 2 ^ 32) →
      ∃ stream, encodeFrames frames = .ok stream ∧ decodeFrames stream = (frames, .finished) ∧
        ∀ pre, pre <+: stream → pre ≠ stream → ∃ whole next later, frames = whole ++ next :: later ∧
          ∃ wholeBytes longer, encodeFrames whole = .ok wholeBytes ∧ wholeBytes <+: pre ∧
            encodeFrames (whole ++ [next]) = .ok longer ∧ ¬ longer <+: pre ∧
            (decodeFrames pre).1 = whole ∧
            (pre = wholeBytes → (decodeFrames pre).2 = .finished) ∧
            (pre ≠ wholeBytes → ∃ text, (decodeFrames pre).2 = .raised (.valueError text))) ∧
      ∀ stream frames, decodeFrames stream = (frames, .finished) →
        (∀ frame ∈ frames, frame.payload.length < 2 ^ 32) ∧ encodeFrames frames = .ok stream := by
  constructor
  · intro frames small
    refine ⟨_, encode_frames_ok frames small, decode_all_wires frames_delimited frames small, ?_⟩
    intro pre front strict
    obtain ⟨whole, tail, split, within, most, read, finished, raised⟩ :=
      rounds_prefix frames_delimited frames small pre front _ (Nat.lt_succ_self _)
    cases tail with
    | nil =>
        rw [List.append_nil] at split
        subst split
        exact absurd (List.IsPrefix.eq_of_length front (le_antisymm front.length_le within.length_le)) strict
    | cons next later =>
        subst split
        have smallWhole : ∀ frame ∈ whole, frame.Small :=
          fun frame member => small frame (List.mem_append_left _ member)
        have smallLonger : ∀ frame ∈ whole ++ [next], frame.Small := by
          intro frame member
          apply small frame
          rw [List.append_cons]
          exact List.mem_append_left _ member
        refine ⟨whole, next, later, rfl, _, _, encode_frames_ok whole smallWhole, within,
          encode_frames_ok (whole ++ [next]) smallLonger, most next rfl, read, finished, ?_⟩
        intro inside
        obtain ⟨error, ⟨text, rfl⟩, ended⟩ := raised inside
        exact ⟨text, ended⟩
  · intro stream frames read
    obtain ⟨small, rfl⟩ := rounds_wrote frames_delimited _ stream frames read
    exact ⟨small, encode_frames_ok frames small⟩

def shortFrames : List BinaryFrame :=
  [{ frameType := FrameType.packet, payload := [104, 105] }, { frameType := FrameType.sessionClose, payload := [] }]

theorem short_frames_return : ∃ stream, encodeFrames shortFrames = .ok stream ∧
    decodeFrames stream = (shortFrames, .finished) := by
  obtain ⟨stream, encoded, decoded, -⟩ := framing_prefix_code.1 shortFrames (by decide)
  exact ⟨stream, encoded, decoded⟩

end Vermyth
