import Vermyth.Schema.Value

set_option autoImplicit false

namespace Vermyth

abbrev Bytes := List UInt8

namespace FrameType

def sessionOpen : UInt8 := 1
def sessionAck : UInt8 := 2
def sessionClose : UInt8 := 3
def packet : UInt8 := 10
def response : UInt8 := 11
def gossipPush : UInt8 := 20
def gossipPull : UInt8 := 21
def gossipAck : UInt8 := 22
def causalSync : UInt8 := 30
def error : UInt8 := 255

end FrameType

structure BinaryFrame where
  frameType : UInt8
  payload : Bytes
deriving DecidableEq

def frameMagic : Bytes := [86, 77, 84, 72]
def frameVersion : UInt8 := 1
def lengthBound : Nat := 4294967296

-- struct.pack(">I", length)
def lengthBytes (length : Nat) : Bytes :=
  [UInt8.ofNat (length / 16777216), UInt8.ofNat (length / 65536), UInt8.ofNat (length / 256), UInt8.ofNat length]

def readLength (a b c d : UInt8) : Nat := ((a.toNat * 256 + b.toNat) * 256 + c.toNat) * 256 + d.toNat

-- struct.pack raises on a payload whose length does not fit in four bytes.
def encodeFrame (frameType : UInt8) (payload : Bytes) : Except PyError Bytes :=
  if payload.length < lengthBound then
    .ok (frameMagic ++ frameVersion :: frameType :: (lengthBytes payload.length ++ payload))
  else .error (.other "'I' format requires 0 <= number <= 4294967295")

-- decode_frame_from_buffer: the first frame and what follows it; none at the end.
def decodeFrame (input : Bytes) : Except PyError (Option (BinaryFrame × Bytes)) :=
  match input with
  | [] => .ok none
  | m :: n :: o :: p :: version :: frameType :: a :: b :: c :: d :: rest =>
      if [m, n, o, p] ≠ frameMagic then .error (.valueError "invalid magic")
      else if version ≠ frameVersion then .error (.valueError "unsupported binary transport version")
      else
        let payload := rest.take (readLength a b c d)
        if payload.length ≠ readLength a b c d then .error (.valueError "incomplete frame payload")
        else .ok (some ({ frameType, payload }, rest.drop (readLength a b c d)))
  | _ => .error (.valueError "incomplete frame header")

def BinaryFrame.wire (frame : BinaryFrame) : Bytes :=
  frameMagic ++ frameVersion :: frame.frameType :: (lengthBytes frame.payload.length ++ frame.payload)

theorem read_length_bytes (length : Nat) (small : length < lengthBound) :
    readLength (UInt8.ofNat (length / 16777216)) (UInt8.ofNat (length / 65536)) (UInt8.ofNat (length / 256))
      (UInt8.ofNat length) = length := by
  simp only [readLength, UInt8.toNat_ofNat', lengthBound] at *
  omega

theorem encode_frame_wire (frame : BinaryFrame) (small : frame.payload.length < lengthBound) :
    encodeFrame frame.frameType frame.payload = .ok frame.wire := if_pos small

theorem decode_wire (frame : BinaryFrame) (small : frame.payload.length < lengthBound) (rest : Bytes) :
    decodeFrame (frame.wire ++ rest) = .ok (some (frame, rest)) := by
  change decodeFrame (86 :: 77 :: 84 :: 72 :: frameVersion :: frame.frameType :: _ :: _ :: _ :: _ ::
    (frame.payload ++ rest)) = _
  rw [decodeFrame]
  simp only [read_length_bytes frame.payload.length small, List.take_left, List.drop_left, frameMagic, ne_eq,
    not_true_eq_false, if_false]

theorem wire_length (frame : BinaryFrame) : frame.wire.length = frame.payload.length + 10 := by
  simp [BinaryFrame.wire, frameMagic, lengthBytes]

end Vermyth
