import CanGw.Frame

/-!
# Struct images

`nla_memcpy` and `nla_put` move structs as raw memory, so a netlink payload is
the byte image of a struct. This module gives the image of every struct the
gateway copies, in host byte order (fixed here as little-endian), and shows
that reading an image back gives the struct.

`struct cgw_frame_mod` and the two checksum structs are declared in
`socketcan/can/gw.h`, which is not part of the source; their layouts follow
the payload descriptions of the specification.
-/

namespace CanGw

/-- The `count` low bytes of `value`, least significant first. -/
def encodeLE (value : Nat) : Nat → List Byte
  | 0 => []
  | count + 1 => BitVec.ofNat 8 value :: encodeLE (value / 256) count

/-- The number whose little-endian image is `bytes`. -/
def decodeLE : List Byte → Nat
  | [] => 0
  | byte :: rest => byte.toNat + 256 * decodeLE rest

@[simp] theorem length_encodeLE (value count : Nat) : (encodeLE value count).length = count := by
  induction count generalizing value with
  | zero => rfl
  | succ count inductionHypothesis => simp [encodeLE, inductionHypothesis]

/-- Reading back `count` bytes recovers the value modulo `256 ^ count`. -/
theorem decodeLE_encodeLE (value count : Nat) :
    decodeLE (encodeLE value count) = value % 256 ^ count := by
  induction count generalizing value with
  | zero => simp [encodeLE, decodeLE, Nat.mod_one]
  | succ count inductionHypothesis =>
      have split : value % 256 ^ (count + 1) = value % 256 + 256 * (value / 256 % 256 ^ count) := by
        rw [Nat.pow_succ', Nat.mod_mul]
      simp [encodeLE, decodeLE, inductionHypothesis, split]

/-- A `w`-bit value survives its image when `count` bytes hold `w` bits. -/
theorem ofNat_decodeLE_encodeLE {w : Nat} (value : BitVec w) (count : Nat)
    (fits : w ≤ 8 * count) :
    BitVec.ofNat w (decodeLE (encodeLE value.toNat count)) = value := by
  have bound : value.toNat < 256 ^ count :=
    calc value.toNat < 2 ^ w := value.isLt
      _ ≤ 2 ^ (8 * count) := Nat.pow_le_pow_right (by decide) fits
      _ = 256 ^ count := by rw [Nat.pow_mul]
  rw [decodeLE_encodeLE, Nat.mod_eq_of_lt bound, BitVec.ofNat_toNat, BitVec.setWidth_eq]

/-- The leading field of an image is read back from its first `count` bytes. -/
theorem ofNat_decodeLE_take {w : Nat} (value : BitVec w) (count : Nat) (fits : w ≤ 8 * count)
    (rest : List Byte) :
    BitVec.ofNat w (decodeLE ((encodeLE value.toNat count ++ rest).take count)) = value := by
  rw [List.take_left' (length_encodeLE _ _), ofNat_decodeLE_encodeLE value count fits]

/-- A byte sequence paired with proof that its length is exactly `count`. -/
abbrev SizedBytes (count : Nat) := {bytes : List Byte // bytes.length = count}

/-- The host-order image of a `u32`, as `nla_put_u32` writes it. -/
def u32Image (value : BitVec 32) : List Byte := encodeLE value.toNat 4

/-- The `u32` that `nla_memcpy` reads from a 4-byte payload. -/
def u32OfImage (bytes : List Byte) : BitVec 32 := BitVec.ofNat 32 (decodeLE bytes)

@[simp] theorem length_u32Image (value : BitVec 32) : (u32Image value).length = 4 := by
  simp [u32Image]

@[simp] theorem u32OfImage_u32Image (value : BitVec 32) : u32OfImage (u32Image value) = value :=
  ofNat_decodeLE_encodeLE value 4 (by decide)

namespace CanFrame

/-- `sizeof(struct can_frame)`. -/
def size : Nat := 16

/-- The memory image of a frame: identifier, length code, padding, payload. -/
def image (cf : CanFrame) : List Byte :=
  encodeLE cf.canId.toNat 4 ++ [cf.canDlc] ++ encodeLE cf.pad.toNat 3 ++ encodeLE cf.data.toNat 8

/-- The frame whose image starts `bytes`. -/
def ofImage (bytes : List Byte) : CanFrame where
  canId := BitVec.ofNat 32 (decodeLE (bytes.take 4))
  canDlc := (bytes.drop 4).headD 0
  pad := BitVec.ofNat 24 (decodeLE ((bytes.drop 5).take 3))
  data := BitVec.ofNat 64 (decodeLE ((bytes.drop 8).take 8))

@[simp] theorem length_image (cf : CanFrame) : cf.image.length = size := by
  simp [image, size]

/-- A frame is read back from its image, whatever follows it. -/
@[simp] theorem ofImage_image_append (cf : CanFrame) (rest : List Byte) :
    ofImage (cf.image ++ rest) = cf := by
  obtain ⟨canId, canDlc, pad, data⟩ := cf
  have afterId : (image ⟨canId, canDlc, pad, data⟩ ++ rest).drop 4 =
      canDlc :: (encodeLE pad.toNat 3 ++ (encodeLE data.toNat 8 ++ rest)) := by
    simp [image, List.drop_left' (length_encodeLE _ _)]
  have afterDlc : (image ⟨canId, canDlc, pad, data⟩ ++ rest).drop 5 =
      encodeLE pad.toNat 3 ++ (encodeLE data.toNat 8 ++ rest) := by
    rw [show 5 = 4 + 1 from rfl, ← List.drop_drop, afterId, List.drop_one, List.tail_cons]
  have afterPad : (image ⟨canId, canDlc, pad, data⟩ ++ rest).drop 8 = encodeLE data.toNat 8 ++ rest := by
    rw [show 8 = 5 + 3 from rfl, ← List.drop_drop, afterDlc, List.drop_left' (length_encodeLE _ _)]
  simp only [ofImage, afterId, afterDlc, afterPad, List.headD_cons,
    ofNat_decodeLE_take pad 3 (by decide), ofNat_decodeLE_take data 8 (by decide)]
  simp [image, ofNat_decodeLE_encodeLE canId 4 (by decide)]

end CanFrame

namespace CanFilter

/-- `sizeof(struct can_filter)`. -/
def size : Nat := 8

/-- The memory image of a filter: identifier, then mask. -/
def image (filter : CanFilter) : List Byte :=
  encodeLE filter.canId.toNat 4 ++ encodeLE filter.canMask.toNat 4

/-- The filter an 8-byte payload holds. -/
def ofImage (bytes : List Byte) : CanFilter where
  canId := BitVec.ofNat 32 (decodeLE (bytes.take 4))
  canMask := BitVec.ofNat 32 (decodeLE (bytes.drop 4))

@[simp] theorem length_image (filter : CanFilter) : filter.image.length = size := by
  simp [image, size]

@[simp] theorem ofImage_image (filter : CanFilter) : ofImage filter.image = filter := by
  cases filter with
  | mk canId canMask =>
      simp only [ofImage, image, ofNat_decodeLE_take canId 4 (by decide),
        List.drop_left' (length_encodeLE _ _), ofNat_decodeLE_encodeLE canMask 4 (by decide)]

end CanFilter

/-- `struct cgw_frame_mod`, the payload of a `CGW_MOD_*` attribute: the selector
byte and the operand frame. -/
structure CgwFrameMod where
  cf : CanFrame
  modtype : Byte
  deriving DecidableEq, Repr

/-- Modelled from the spec: `CGW_MODATTR_LEN`, the size of the payload
`{modtype: u8 selector, cf: Frame}` (`socketcan/can/gw.h` is not in the source). -/
def CGW_MODATTR_LEN : Nat := 1 + CanFrame.size

namespace CgwFrameMod

/-- Modelled from the spec: the image of `{modtype: u8 selector, cf: Frame}`,
selector first. -/
def image (mb : CgwFrameMod) : List Byte := mb.modtype :: mb.cf.image

/-- The `struct cgw_frame_mod` that `nla_memcpy` fills from a payload. -/
def ofImage (bytes : List Byte) : CgwFrameMod where
  cf := CanFrame.ofImage (bytes.drop 1)
  modtype := bytes.getD 0 0

@[simp] theorem length_image (mb : CgwFrameMod) : mb.image.length = CGW_MODATTR_LEN := by
  simp [image, CGW_MODATTR_LEN, Nat.add_comm]

@[simp] theorem ofImage_image (mb : CgwFrameMod) : ofImage mb.image = mb := by
  have frame := CanFrame.ofImage_image_append mb.cf []
  simp only [List.append_nil] at frame
  simp [ofImage, image, frame]

end CgwFrameMod

/-- Modelled from the spec: `CGW_CS_XOR_LEN`, the size of the XOR checksum stage
`(from_idx, to_idx, result_idx, init_xor_val)`, one byte each. -/
def CGW_CS_XOR_LEN : Nat := 4

/-- Modelled from the spec: `CGW_CS_CRC8_LEN`, the size of the CRC8 checksum
stage `(from_idx, to_idx, result_idx, init_crc_val, final_xor_val, profile,
table[256])`, one byte each and 256 for the table. -/
def CGW_CS_CRC8_LEN : Nat := 6 + 256

/-- A checksum stage as `gw.c` handles it: its memory image. The source reads
only the three signed indices at its start and copies the rest. -/
abbrev CsumStage (size : Nat) := SizedBytes size

namespace CsumStage

variable {size : Nat}

/-- `from_idx`, the first byte; `CGW_CS_DISABLED` there turns the stage off. -/
def fromIdx (stage : CsumStage size) : Byte := stage.1.getD 0 0

/-- `to_idx`, the second byte. -/
def toIdx (stage : CsumStage size) : Byte := stage.1.getD 1 0

/-- `result_idx`, the third byte. -/
def resultIdx (stage : CsumStage size) : Byte := stage.1.getD 2 0

end CsumStage

/-- `struct cgw_csum_xor`. -/
abbrev CgwCsumXor := CsumStage CGW_CS_XOR_LEN

/-- `struct cgw_csum_crc8`. -/
abbrev CgwCsumCrc8 := CsumStage CGW_CS_CRC8_LEN

end CanGw
