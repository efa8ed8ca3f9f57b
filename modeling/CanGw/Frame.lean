import Mathlib.Data.List.Basic
import Mathlib.Algebra.Order.Ring.Nat

/-!
# Frames and the modification table

`struct can_frame`, `struct can_filter` and the twelve `MODFUNC` functions of
`gw.c`. A frame keeps the three padding bytes in front of its 8-aligned payload,
because `canframecpy` exists to keep them out of `struct cf_mod`. The payload is
one 64-bit word, which is how every `*_data` function reads it.

The twelve functions differ only in their operation and their frame element, so
they share `modfuncOp`; `ModFunc` names each of them as the source does.
-/

namespace CanGw

/-- A byte of a frame, a message or a struct image. -/
abbrev Byte := BitVec 8

/-- `struct can_frame`: the identifier with its flag bits, the data length code,
the padding before the payload, and the payload as one 64-bit word. -/
structure CanFrame where
  canId : BitVec 32
  canDlc : Byte
  pad : BitVec 24
  data : BitVec 64
  deriving DecidableEq, Repr

namespace CanFrame

/-- The frame `memset` leaves in a modification slot that no attribute filled. -/
def zero : CanFrame := ⟨0, 0, 0, 0⟩

end CanFrame

/-- `struct can_filter`: a frame is accepted when its identifier agrees with
`canId` on the bits of `canMask`. -/
structure CanFilter where
  canId : BitVec 32
  canMask : BitVec 32
  deriving DecidableEq, Repr

/-- The four modification kinds, in the order `cgw_parse_attr` scans them. -/
inductive ModKind
  | and
  | or
  | xor
  | set
  deriving DecidableEq, Repr

/-- The frame element a modification function rewrites. -/
inductive ModField
  | id
  | dlc
  | data
  deriving DecidableEq, Repr

/-- The compound assignment of a kind: `&=`, `|=`, `^=` or `=`. -/
def ModKind.op (kind : ModKind) {w : Nat} (value operand : BitVec w) : BitVec w :=
  match kind with
  | .and => value &&& operand
  | .or => value ||| operand
  | .xor => value ^^^ operand
  | .set => operand

/-- `MODFUNC(mod_<kind>_<field>, cf-><field> op= mod->modframe.<kind>.<field>)`
with the operand frame already selected. -/
def modfuncOp (kind : ModKind) (field : ModField) (operand cf : CanFrame) : CanFrame :=
  match field with
  | .id => { cf with canId := kind.op cf.canId operand.canId }
  | .dlc => { cf with canDlc := kind.op cf.canDlc operand.canDlc }
  | .data => { cf with data := kind.op cf.data operand.data }

/-- The pointers that `cf_mod.modfunc` can hold: the twelve `MODFUNC` functions. -/
inductive ModFunc
  | modAndId | modAndDlc | modAndData
  | modOrId | modOrDlc | modOrData
  | modXorId | modXorDlc | modXorData
  | modSetId | modSetDlc | modSetData
  deriving DecidableEq, Repr

namespace ModFunc

/-- The function `cgw_parse_attr` installs for a kind and a selected element. -/
def of : ModKind → ModField → ModFunc
  | .and, .id => modAndId
  | .and, .dlc => modAndDlc
  | .and, .data => modAndData
  | .or, .id => modOrId
  | .or, .dlc => modOrDlc
  | .or, .data => modOrData
  | .xor, .id => modXorId
  | .xor, .dlc => modXorDlc
  | .xor, .data => modXorData
  | .set, .id => modSetId
  | .set, .dlc => modSetDlc
  | .set, .data => modSetData

/-- The kind whose operand frame the function reads. -/
def kind : ModFunc → ModKind
  | modAndId | modAndDlc | modAndData => .and
  | modOrId | modOrDlc | modOrData => .or
  | modXorId | modXorDlc | modXorData => .xor
  | modSetId | modSetDlc | modSetData => .set

/-- The frame element the function rewrites. -/
def field : ModFunc → ModField
  | modAndId | modOrId | modXorId | modSetId => .id
  | modAndDlc | modOrDlc | modXorDlc | modSetDlc => .dlc
  | modAndData | modOrData | modXorData | modSetData => .data

@[simp] theorem kind_of (kind : ModKind) (field : ModField) : (of kind field).kind = kind := by
  cases kind <;> cases field <;> rfl

@[simp] theorem field_of (kind : ModKind) (field : ModField) : (of kind field).field = field := by
  cases kind <;> cases field <;> rfl

end ModFunc

/-- `canframecpy`: copy identifier, length code and payload member by member,
so the padding of `dst` (zeroed by the caller's `memset`) is kept. -/
def canframecpy (dst src : CanFrame) : CanFrame :=
  { dst with canId := src.canId, canDlc := src.canDlc, data := src.data }

@[simp] theorem canframecpy_canId (dst src : CanFrame) : (canframecpy dst src).canId = src.canId :=
  rfl

@[simp] theorem canframecpy_canDlc (dst src : CanFrame) :
    (canframecpy dst src).canDlc = src.canDlc := rfl

@[simp] theorem canframecpy_data (dst src : CanFrame) : (canframecpy dst src).data = src.data :=
  rfl

@[simp] theorem canframecpy_pad (dst src : CanFrame) : (canframecpy dst src).pad = dst.pad :=
  rfl

/-- A modification function writes only its own element, so the padding of the
frame it runs on is never touched. -/
@[simp] theorem modfuncOp_pad (kind : ModKind) (field : ModField) (operand cf : CanFrame) :
    (modfuncOp kind field operand cf).pad = cf.pad := by
  cases field <;> rfl

/-- A modification function reads the operand only through the element it rewrites,
which is all `canframecpy` has to carry over. -/
theorem modfuncOp_canframecpy (kind : ModKind) (field : ModField) (dst src cf : CanFrame) :
    modfuncOp kind field (canframecpy dst src) cf = modfuncOp kind field src cf := by
  cases field <;> rfl

end CanGw
