import CanGw.Layout

/-!
# Gateway jobs

`struct cf_mod`, `struct can_can_gw` and `struct cgw_job`. A job lives on
`cgw_list` under its address (`JobPtr`); its `src.dev` and `dst.dev` are device
addresses (`DevPtr`). The `list` and `rcu` members are not modelled: the list
linkage is the order of `cgw_list`, and `rcu` is never used by the source.

`GwHeader` collects the values of `socketcan/can/gw.h` that neither the source
nor the specification fixes; every definition that reads one takes the header
as a parameter, so the results hold for every choice of them.
-/

namespace CanGw

/-- The values of `socketcan/can/gw.h` used by `gw.c` that neither the source nor
the specification gives. -/
structure GwHeader where
  cgwTypeCanCan : Byte
  cgwModId : Byte
  cgwModDlc : Byte
  cgwModData : Byte
  cgwFlagsCanEcho : BitVec 16
  cgwFlagsCanSrcTstamp : BitVec 16
  deriving Repr

/-- The `CGW_MOD_*` selector bit of a frame element. -/
def GwHeader.modBit (header : GwHeader) : ModField → Byte
  | .id => header.cgwModId
  | .dlc => header.cgwModDlc
  | .data => header.cgwModData

/-- Modelled from the spec: `MAX_MODFUNCTIONS`, the system-wide maximum of
`N = 17` operators. -/
def MAX_MODFUNCTIONS : Nat := 17

/-- `CGW_CS_DISABLED`, the `from_idx` of a checksum stage that is off. -/
def CGW_CS_DISABLED : Byte := 42

/-- One value per modification kind, like the `and`, `or`, `xor` and `set`
members of `cf_mod.modframe` and `cf_mod.modtype`. -/
structure PerKind (α : Type) where
  and : α
  or : α
  xor : α
  set : α
  deriving DecidableEq, Repr

namespace PerKind

variable {α : Type}

/-- The member of a kind. -/
def get (slots : PerKind α) : ModKind → α
  | .and => slots.and
  | .or => slots.or
  | .xor => slots.xor
  | .set => slots.set

/-- Overwrite the member of a kind. -/
def update (slots : PerKind α) (kind : ModKind) (value : α) : PerKind α :=
  match kind with
  | .and => { slots with and := value }
  | .or => { slots with or := value }
  | .xor => { slots with xor := value }
  | .set => { slots with set := value }

/-- The same value in every member. -/
def uniform (value : α) : PerKind α := ⟨value, value, value, value⟩

@[simp] theorem get_update_self (slots : PerKind α) (kind : ModKind) (value : α) :
    (slots.update kind value).get kind = value := by
  cases kind <;> rfl

@[simp] theorem get_update_of_ne (slots : PerKind α) {kind other : ModKind} (value : α)
    (different : other ≠ kind) : (slots.update kind value).get other = slots.get other := by
  cases kind <;> cases other <;> first | rfl | exact absurd rfl different

@[simp] theorem update_get (slots : PerKind α) (kind : ModKind) :
    slots.update kind (slots.get kind) = slots := by
  cases kind <;> rfl

@[simp] theorem get_uniform (value : α) (kind : ModKind) : (uniform value).get kind = value := by
  cases kind <;> rfl

/-- Slots are equal exactly when every kind's member is. -/
theorem ext_get {left right : PerKind α} (same : ∀ kind, left.get kind = right.get kind) :
    left = right := by
  cases left
  cases right
  simp only [PerKind.mk.injEq]
  exact ⟨same .and, same .or, same .xor, same .set⟩

end PerKind

/-- A checksum stage turned off: `memset` to zero, then `from_idx = CGW_CS_DISABLED`. -/
def CsumStage.disabled (size : Nat) : CsumStage size :=
  ⟨(List.replicate size 0).set 0 CGW_CS_DISABLED, by simp⟩

/-- The `csum` member of `struct cf_mod`. -/
structure CfModCsum where
  xor : CgwCsumXor
  crc8 : CgwCsumCrc8
  deriving DecidableEq

/-- `struct cf_mod`: the operand frames and selector bytes per kind, the table of
`MAX_MODFUNCTIONS` function pointers (`none` is `NULL`), and the checksum stages. -/
structure CfMod where
  modframe : PerKind CanFrame
  modtype : PerKind Byte
  modfunc : List (Option ModFunc)
  csum : CfModCsum
  deriving DecidableEq

/-- `cgw_parse_attr`'s starting point: `memset(mod, 0, sizeof(*mod))`, then both
checksum stages marked `CGW_CS_DISABLED`. -/
def CfMod.init : CfMod where
  modframe := .uniform .zero
  modtype := .uniform 0
  modfunc := List.replicate MAX_MODFUNCTIONS none
  csum := ⟨CsumStage.disabled _, CsumStage.disabled _⟩

/-- A function of the table applied as `(*modfunc)(cf, mod)`: it reads its
operand from `mod` when it runs. -/
def ModFunc.call (func : ModFunc) (cf : CanFrame) (mod : CfMod) : CanFrame :=
  modfuncOp func.kind func.field (mod.modframe.get func.kind) cf

/-- `struct can_can_gw`: the filter and the two interface indices (`int`). -/
structure CanCanGw where
  filter : CanFilter
  srcIdx : BitVec 32
  dstIdx : BitVec 32
  deriving DecidableEq, Repr

/-- The `can_can_gw` that `cgw_parse_attr` starts from (`memset` to zero). -/
def CanCanGw.zero : CanCanGw := ⟨⟨0, 0⟩, 0, 0⟩

/-- The address of a `struct net_device`. -/
abbrev DevPtr := Nat

/-- The address of a `struct cgw_job`. -/
abbrev JobPtr := Nat

/-- `struct cgw_job`, without its list linkage and its unused `rcu` head. -/
structure CgwJob where
  handledFrames : BitVec 32
  droppedFrames : BitVec 32
  mod : CfMod
  src : DevPtr
  dst : DevPtr
  ccgw : CanCanGw
  gwtype : Byte
  flags : BitVec 16
  deriving DecidableEq

end CanGw
