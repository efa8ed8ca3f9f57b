import CanGw.Netlink

/-!
# Parsing a gateway request

`cgw_parse_attr` turns the attribute table of a request into a `cf_mod` and a
`can_can_gw`. Every attribute it reads is taken only when its payload has the
exact length of the struct it fills; otherwise the attribute is treated as
absent, except that `CGW_SRC_IF` and `CGW_DST_IF` still count as present for the
"two interfaces are mandatory" check.

The four `CGW_MOD_*` blocks are one definition, `modBlock`, applied in the scan
order AND, OR, XOR, SET; the two checksum blocks are `csumBlock`. The closed
forms `modframeOf`, `modtypeOf` and `installed` describe what the four blocks
leave behind, and `modBlocks_eq` proves that they do. `cgw_chk_csum_parms`
accepts exactly the stages whose indices are in `-8..7` (`cgwChkCsumParms_eq`).
-/

namespace CanGw

variable (header : GwHeader)

/-- `cgw_chk_csum_parms`: 0 when the three signed indices lie in `-8..7`. -/
def cgwChkCsumParms (frIdx toIdx reIdx : Byte) : Int :=
  if -9 < frIdx.toInt ∧ frIdx.toInt < 8 ∧ -9 < toIdx.toInt ∧ toIdx.toInt < 8 ∧
      -9 < reIdx.toInt ∧ reIdx.toInt < 8
  then 0 else -EINVAL

/-- The three indices of a checksum stage lie in `-8..7` as signed bytes. -/
def CsumStage.IndicesInRange {size : Nat} (stage : CsumStage size) : Prop :=
  ∀ idx ∈ [stage.fromIdx, stage.toIdx, stage.resultIdx], -8 ≤ idx.toInt ∧ idx.toInt ≤ 7

instance {size : Nat} (stage : CsumStage size) : Decidable stage.IndicesInRange :=
  inferInstanceAs (Decidable (∀ idx ∈ [stage.fromIdx, stage.toIdx, stage.resultIdx], -8 ≤ idx.toInt ∧ idx.toInt ≤ 7))

/-- The payload of a kind's `CGW_MOD_*` attribute, when it is present with
`CGW_MODATTR_LEN` bytes (`nla_memcpy(&mb, ...)`). -/
def acceptedMod (tb : AttrTable) (kind : ModKind) : Option CgwFrameMod :=
  match tb kind.attr with
  | some attr =>
      if attr.payload.length = CGW_MODATTR_LEN then some (CgwFrameMod.ofImage attr.payload) else none
  | none => none

/-- `mod->modfunc[modidx++] = func` when the selector bit is set. -/
def installModfunc (selected : Bool) (func : ModFunc) (acc : CfMod × Nat) : CfMod × Nat :=
  if selected then ({ acc.1 with modfunc := acc.1.modfunc.set acc.2 (some func) }, acc.2 + 1)
  else acc

/-- One `CGW_MOD_*` block, given the payload it accepted: `canframecpy` the
operand, store the selector byte, append the kind's selected functions in the
order ID, DLC, DATA. -/
def modBlock (kind : ModKind) : Option CgwFrameMod → CfMod × Nat → CfMod × Nat
  | none, acc => acc
  | some mb, (mod, modidx) =>
      ({ mod with
          modframe := mod.modframe.update kind (canframecpy (mod.modframe.get kind) mb.cf)
          modtype := mod.modtype.update kind mb.modtype }, modidx)
        |> installModfunc (mb.modtype &&& header.cgwModId ≠ 0) (.of kind .id)
        |> installModfunc (mb.modtype &&& header.cgwModDlc ≠ 0) (.of kind .dlc)
        |> installModfunc (mb.modtype &&& header.cgwModData ≠ 0) (.of kind .data)

/-- The order in which `cgw_parse_attr` scans the modification attributes. -/
def modKinds : List ModKind := [.and, .or, .xor, .set]

/-- The four `CGW_MOD_*` blocks, from the zeroed `cf_mod` and `modidx = 0`. -/
def modBlocks (accepted : ModKind → Option CgwFrameMod) : CfMod × Nat :=
  modKinds.foldl (fun acc kind => modBlock header kind (accepted kind) acc) (CfMod.init, 0)

/-- A checksum attribute that is present with the stage's length. -/
def acceptedCsum {size : Nat} (tb : AttrTable) (type : CgwAttrType) : Option (CsumStage size) :=
  match tb type with
  | some attr => if fits : attr.payload.length = size then some ⟨attr.payload, fits⟩ else none
  | none => none

/-- One checksum block: copy an accepted stage over `stage`, then reject it
when `cgw_chk_csum_parms` does. -/
def csumBlock {size : Nat} (tb : AttrTable) (type : CgwAttrType) (stage : CsumStage size) :
    Except Int (CsumStage size) :=
  match acceptedCsum tb type with
  | some copied =>
      let err := cgwChkCsumParms copied.fromIdx copied.toIdx copied.resultIdx
      if err ≠ 0 then .error err else .ok copied
  | none => .ok stage

/-- An interface index as `cgw_parse_attr` reads it: the `u32` of a 4-byte
payload, and 0 (from `memset`) for any other length. -/
def ifIndexOf (attr : NlAttr) : BitVec 32 :=
  if attr.payload.length = 4 then u32OfImage attr.payload else 0

/-- The filter of the request: `CGW_FILTER` when it has `sizeof(struct can_filter)`
bytes, the zero (match-all) filter otherwise. -/
def filterOf (tb : AttrTable) : CanFilter :=
  match tb .filter with
  | some attr => if attr.payload.length = CanFilter.size then CanFilter.ofImage attr.payload else ⟨0, 0⟩
  | none => ⟨0, 0⟩

/-- The `CGW_TYPE_CAN_CAN` part of `cgw_parse_attr`. -/
def cgwParseCanCanGw (tb : AttrTable) : Except Int CanCanGw :=
  match tb .srcIf, tb .dstIf with
  | some src, some dst =>
      let ccgw : CanCanGw := ⟨filterOf tb, ifIndexOf src, ifIndexOf dst⟩
      if ccgw.srcIdx = 0 ∧ ccgw.dstIdx = 0 then .ok ccgw
      else if ccgw.srcIdx = 0 ∨ ccgw.dstIdx = 0 then .error (-ENODEV)
      else .ok ccgw
  | _, _ => .error (-ENODEV)

/-- The checksum part of `cgw_parse_attr`, the XOR stage before the CRC8 stage. -/
def cgwParseCsum (tb : AttrTable) (mod : CfMod) : Except Int CfMod := do
  let xor ← csumBlock tb .csXor mod.csum.xor
  let crc8 ← csumBlock tb .csCrc8 mod.csum.crc8
  pure { mod with csum := ⟨xor, crc8⟩ }

/-- `cgw_parse_attr(nlh, mod, CGW_TYPE_CAN_CAN, ccgw)`; both callers pass
`CGW_TYPE_CAN_CAN`, so the other gateway types are not modelled. The checksum
part runs only when a function was installed (`if (modidx)`). -/
def cgwParseAttr (nlh : NlMsg) : Except Int (CfMod × CanCanGw) := do
  let tb ← nlmsgParse nlh
  let blocks := modBlocks header (acceptedMod tb)
  let mod ← (if blocks.2 ≠ 0 then cgwParseCsum tb blocks.1 else pure blocks.1)
  let ccgw ← cgwParseCanCanGw tb
  pure (mod, ccgw)

/-! ## What the four modification blocks leave behind -/

/-- The elements a selector byte selects, in the order ID, DLC, DATA. -/
def selectedFields (modtype : Byte) : List ModField :=
  [ModField.id, .dlc, .data].filter fun field => modtype &&& header.modBit field ≠ 0

/-- The functions one block installs. -/
def blockFuncs (kind : ModKind) : Option CgwFrameMod → List ModFunc
  | some mb => (selectedFields header mb.modtype).map (ModFunc.of kind)
  | none => []

/-- All installed functions, in table order. -/
def installed (accepted : ModKind → Option CgwFrameMod) : List ModFunc :=
  modKinds.flatMap fun kind => blockFuncs header kind (accepted kind)

/-- The operand frame a kind ends with. -/
def frameOf : Option CgwFrameMod → CanFrame
  | some mb => canframecpy .zero mb.cf
  | none => .zero

/-- The selector byte a kind ends with. -/
def modtypeOf : Option CgwFrameMod → Byte
  | some mb => mb.modtype
  | none => 0

/-- `mod.modfunc` holds exactly `funcs` from index 0 and `NULL` after them. -/
def Contiguous (mod : CfMod) (funcs : List ModFunc) : Prop :=
  mod.modfunc = funcs.map some ++ List.replicate (MAX_MODFUNCTIONS - funcs.length) none

theorem length_selectedFields_le (modtype : Byte) : (selectedFields header modtype).length ≤ 3 :=
  List.length_filter_le _ _

theorem length_blockFuncs_le (kind : ModKind) (accepted : Option CgwFrameMod) :
    (blockFuncs header kind accepted).length ≤ 3 := by
  cases accepted with
  | none => simp [blockFuncs]
  | some mb => simpa [blockFuncs] using length_selectedFields_le header mb.modtype

/-- Installing after a contiguous prefix extends it, while a slot is free. -/
theorem installModfunc_contiguous {acc : CfMod × Nat} {funcs : List ModFunc} (selected : Bool)
    (func : ModFunc) (contiguous : Contiguous acc.1 funcs) (index : acc.2 = funcs.length)
    (free : funcs.length < MAX_MODFUNCTIONS) :
    Contiguous (installModfunc selected func acc).1 (funcs ++ if selected then [func] else []) ∧
      (installModfunc selected func acc).2 = (funcs ++ if selected then [func] else []).length := by
  obtain ⟨mod, modidx⟩ := acc
  simp only at contiguous index
  subst index
  cases selected with
  | false => simpa [installModfunc] using contiguous
  | true =>
      have slot : MAX_MODFUNCTIONS - funcs.length = MAX_MODFUNCTIONS - (funcs.length + 1) + 1 := by
        omega
      simp only [installModfunc, if_true, Contiguous] at contiguous ⊢
      rw [contiguous, slot, List.replicate_succ,
        List.set_append_right _ _ (by rw [List.length_map])]
      simp

theorem length_ite_singleton_le {α : Type} (selected : Bool) (item : α) :
    (if selected = true then [item] else []).length ≤ 1 := by
  cases selected <;> simp

@[simp] theorem installModfunc_modframe (selected : Bool) (func : ModFunc) (acc : CfMod × Nat) :
    (installModfunc selected func acc).1.modframe = acc.1.modframe := by
  cases selected <;> rfl

@[simp] theorem installModfunc_modtype (selected : Bool) (func : ModFunc) (acc : CfMod × Nat) :
    (installModfunc selected func acc).1.modtype = acc.1.modtype := by
  cases selected <;> rfl

@[simp] theorem installModfunc_csum (selected : Bool) (func : ModFunc) (acc : CfMod × Nat) :
    (installModfunc selected func acc).1.csum = acc.1.csum := by
  cases selected <;> rfl

theorem selectedFields_eq (modtype : Byte) :
    (selectedFields header modtype).map (ModFunc.of kind) =
      ((if modtype &&& header.cgwModId ≠ 0 then [ModFunc.of kind .id] else []) ++
        if modtype &&& header.cgwModDlc ≠ 0 then [ModFunc.of kind .dlc] else []) ++
        if modtype &&& header.cgwModData ≠ 0 then [ModFunc.of kind .data] else [] := by
  unfold selectedFields
  by_cases idSet : modtype &&& header.cgwModId ≠ 0 <;> by_cases dlcSet : modtype &&& header.cgwModDlc ≠ 0 <;>
    by_cases dataSet : modtype &&& header.cgwModData ≠ 0 <;>
    simp only [List.filter_cons, List.filter_nil, GwHeader.modBit, idSet, dlcSet, dataSet, decide_True, decide_False,
      if_true, if_false, List.map_cons, List.map_nil, List.nil_append, List.cons_append, not_false_eq_true,
      ne_eq, not_true_eq_false, Bool.false_eq_true]

/-- One block on a contiguous table with room for three more functions: the
kind's slots take the accepted payload and its functions follow the prefix. -/
theorem modBlock_eq {acc : CfMod × Nat} {funcs : List ModFunc} (kind : ModKind)
    (accepted : Option CgwFrameMod) (contiguous : Contiguous acc.1 funcs)
    (index : acc.2 = funcs.length) (room : funcs.length + 3 ≤ MAX_MODFUNCTIONS)
    (frameUntouched : acc.1.modframe.get kind = .zero) (typeUntouched : acc.1.modtype.get kind = 0) :
    let result := modBlock header kind accepted acc
    result.1.modframe = acc.1.modframe.update kind (frameOf accepted) ∧
      result.1.modtype = acc.1.modtype.update kind (modtypeOf accepted) ∧
      result.1.csum = acc.1.csum ∧
      Contiguous result.1 (funcs ++ blockFuncs header kind accepted) ∧
      result.2 = (funcs ++ blockFuncs header kind accepted).length := by
  obtain ⟨mod, modidx⟩ := acc
  simp only at contiguous index frameUntouched typeUntouched ⊢
  subst index
  cases accepted with
  | none =>
      simp only [modBlock, frameOf, modtypeOf, blockFuncs, List.append_nil]
      rw [← frameUntouched, ← typeUntouched]
      simpa using contiguous
  | some mb =>
      let start : CfMod × Nat := ({ mod with
        modframe := mod.modframe.update kind (canframecpy (mod.modframe.get kind) mb.cf)
        modtype := mod.modtype.update kind mb.modtype }, funcs.length)
      have first := @installModfunc_contiguous start funcs
        (decide (mb.modtype &&& header.cgwModId ≠ 0)) (.of kind .id) contiguous rfl (by omega)
      have second := installModfunc_contiguous
        (decide (mb.modtype &&& header.cgwModDlc ≠ 0)) (.of kind .dlc) first.1 first.2
        (by
          have := length_ite_singleton_le (decide (mb.modtype &&& header.cgwModId ≠ 0)) (ModFunc.of kind .id)
          simp only [List.length_append]; omega)
      have third := installModfunc_contiguous
        (decide (mb.modtype &&& header.cgwModData ≠ 0)) (.of kind .data) second.1 second.2
        (by
          have := length_ite_singleton_le (decide (mb.modtype &&& header.cgwModId ≠ 0)) (ModFunc.of kind .id)
          have := length_ite_singleton_le (decide (mb.modtype &&& header.cgwModDlc ≠ 0)) (ModFunc.of kind .dlc)
          simp only [List.length_append]; omega)
      simp only [decide_eq_true_eq] at third
      refine ⟨by simp [modBlock, start, frameUntouched, frameOf], by simp [modBlock, start, modtypeOf],
        by simp [modBlock, start], ?_⟩
      simpa only [modBlock, blockFuncs, selectedFields_eq, List.append_assoc] using third

/-- The slots every kind ends with. -/
def modframeOf (accepted : ModKind → Option CgwFrameMod) : PerKind CanFrame :=
  ⟨frameOf (accepted .and), frameOf (accepted .or), frameOf (accepted .xor), frameOf (accepted .set)⟩

/-- The selector bytes every kind ends with. -/
def modtypesOf (accepted : ModKind → Option CgwFrameMod) : PerKind Byte :=
  ⟨modtypeOf (accepted .and), modtypeOf (accepted .or), modtypeOf (accepted .xor),
    modtypeOf (accepted .set)⟩

@[simp] theorem get_modframeOf (accepted : ModKind → Option CgwFrameMod) (kind : ModKind) :
    (modframeOf accepted).get kind = frameOf (accepted kind) := by
  cases kind <;> rfl

@[simp] theorem get_modtypesOf (accepted : ModKind → Option CgwFrameMod) (kind : ModKind) :
    (modtypesOf accepted).get kind = modtypeOf (accepted kind) := by
  cases kind <;> rfl

theorem length_installed_le (accepted : ModKind → Option CgwFrameMod) :
    (installed header accepted).length ≤ 12 := by
  have := length_blockFuncs_le header .and (accepted .and)
  have := length_blockFuncs_le header .or (accepted .or)
  have := length_blockFuncs_le header .xor (accepted .xor)
  have := length_blockFuncs_le header .set (accepted .set)
  simp only [installed, modKinds, List.flatMap_cons, List.flatMap_nil, List.length_append,
    List.append_nil]
  omega

/-- The four blocks leave each kind's accepted payload in its slots, the checksum
stages as `memset` left them, and the installed functions contiguous from 0. -/
theorem modBlocks_eq (accepted : ModKind → Option CgwFrameMod) :
    let result := modBlocks header accepted
    result.1.modframe = modframeOf accepted ∧ result.1.modtype = modtypesOf accepted ∧
      result.1.csum = CfMod.init.csum ∧ Contiguous result.1 (installed header accepted) ∧
      result.2 = (installed header accepted).length := by
  have start : Contiguous CfMod.init [] := by simp [Contiguous, CfMod.init]
  have bound := fun kind => length_blockFuncs_le header kind (accepted kind)
  have andBlock := @modBlock_eq header (CfMod.init, 0) [] .and (accepted .and) start rfl
    (by decide) rfl rfl
  have orBlock := modBlock_eq header .or (accepted .or) andBlock.2.2.2.1 andBlock.2.2.2.2
    (by have := bound .and; simp [MAX_MODFUNCTIONS]; omega) (by rw [andBlock.1]; rfl) (by rw [andBlock.2.1]; rfl)
  have xorBlock := modBlock_eq header .xor (accepted .xor) orBlock.2.2.2.1 orBlock.2.2.2.2
    (by have := bound .and; have := bound .or; simp [MAX_MODFUNCTIONS]; omega)
    (by rw [orBlock.1, andBlock.1]; rfl) (by rw [orBlock.2.1, andBlock.2.1]; rfl)
  have setBlock := modBlock_eq header .set (accepted .set) xorBlock.2.2.2.1 xorBlock.2.2.2.2
    (by have := bound .and; have := bound .or; have := bound .xor; simp [MAX_MODFUNCTIONS]; omega)
    (by rw [xorBlock.1, orBlock.1, andBlock.1]; rfl)
    (by rw [xorBlock.2.1, orBlock.2.1, andBlock.2.1]; rfl)
  simp only [modBlocks, modKinds, List.foldl_cons, List.foldl_nil]
  refine ⟨?_, ?_, ?_, ?_⟩
  · rw [setBlock.1, xorBlock.1, orBlock.1, andBlock.1]; rfl
  · rw [setBlock.2.1, xorBlock.2.1, orBlock.2.1, andBlock.2.1]; rfl
  · rw [setBlock.2.2.1, xorBlock.2.2.1, orBlock.2.2.1, andBlock.2.2.1]
  · simpa [installed, modKinds] using setBlock.2.2.2

/-! ## How parsing fails -/

/-- A failed bind failed in its first computation or in its continuation. -/
theorem bind_eq_error {ε α β : Type} {x : Except ε α} {f : α → Except ε β} {err : ε}
    (failed : x >>= f = .error err) : x = .error err ∨ ∃ value, x = .ok value ∧ f value = .error err := by
  cases x with
  | error e => cases failed; exact .inl rfl
  | ok value => exact .inr ⟨value, rfl, failed⟩

/-- A successful bind succeeded in both parts. -/
theorem bind_eq_ok {ε α β : Type} {x : Except ε α} {f : α → Except ε β} {result : β}
    (succeeded : x >>= f = .ok result) : ∃ value, x = .ok value ∧ f value = .ok result := by
  cases x with
  | error e => cases succeeded
  | ok value => exact ⟨value, rfl, succeeded⟩

theorem nlmsgParse_error {nlh : NlMsg} {err : Int} (failed : nlmsgParse nlh = .error err) :
    err = -EINVAL := by
  unfold nlmsgParse at failed
  split_ifs at failed
  exact (Except.error.inj failed).symm

/-- A request that `nlmsg_parse` accepts passes the length test of both handlers. -/
theorem payloadLen_of_nlmsgParse {nlh : NlMsg} {tb : AttrTable} (parsed : nlmsgParse nlh = .ok tb) :
    ¬ nlh.payloadLen < RTCANMSG_LEN := by
  unfold nlmsgParse at parsed
  split_ifs at parsed with short
  unfold NlMsg.payloadLen
  unfold NLMSG_HDRLEN RTCANMSG_LEN at short ⊢
  omega

/-- `cgw_chk_csum_parms` accepts a stage exactly when its indices are in range,
and otherwise returns `-EINVAL`. -/
theorem cgwChkCsumParms_eq {size : Nat} (stage : CsumStage size) :
    cgwChkCsumParms stage.fromIdx stage.toIdx stage.resultIdx = if stage.IndicesInRange then 0 else -EINVAL := by
  simp only [cgwChkCsumParms, CsumStage.IndicesInRange, List.mem_cons, List.mem_singleton, List.not_mem_nil,
    or_false, forall_eq_or_imp, forall_eq]
  congr 1
  apply propext
  omega

theorem csumBlock_error {size : Nat} {tb : AttrTable} {type : CgwAttrType} {stage : CsumStage size}
    {err : Int} (failed : csumBlock tb type stage = .error err) : err = -EINVAL := by
  unfold csumBlock at failed
  split at failed
  · dsimp only at failed
    rw [cgwChkCsumParms_eq] at failed
    split_ifs at failed with inRange accepted
    · exact absurd rfl accepted
    · exact (Except.error.inj failed).symm
  · cases failed

/-- A checksum attribute of the right length with an index out of range fails its block. -/
theorem csumBlock_of_out_of_range {size : Nat} {tb : AttrTable} {type : CgwAttrType} {copied : CsumStage size}
    (stage : CsumStage size) (accepted : acceptedCsum tb type = some copied) (outOfRange : ¬ copied.IndicesInRange) :
    csumBlock tb type stage = .error (-EINVAL) := by
  have einval : -EINVAL ≠ 0 := by decide
  simp only [csumBlock, accepted, cgwChkCsumParms_eq, if_neg outOfRange, if_pos einval]

theorem cgwParseCsum_error {tb : AttrTable} {mod : CfMod} {err : Int}
    (failed : cgwParseCsum tb mod = .error err) : err = -EINVAL := by
  rcases bind_eq_error failed with xorFailed | ⟨_, -, failed⟩
  · exact csumBlock_error xorFailed
  rcases bind_eq_error failed with crcFailed | ⟨_, -, pureFailed⟩
  · exact csumBlock_error crcFailed
  · cases pureFailed

theorem cgwParseCanCanGw_error {tb : AttrTable} {err : Int} (failed : cgwParseCanCanGw tb = .error err) :
    err = -ENODEV := by
  unfold cgwParseCanCanGw at failed
  split at failed
  · dsimp only at failed
    split_ifs at failed
    exact (Except.error.inj failed).symm
  · exact (Except.error.inj failed).symm

/-- `cgw_parse_attr` fails with `-EINVAL` (message or checksum stage) or
`-ENODEV` (interfaces). -/
theorem cgwParseAttr_error {nlh : NlMsg} {err : Int} (failed : cgwParseAttr header nlh = .error err) :
    err = -EINVAL ∨ err = -ENODEV := by
  rcases bind_eq_error failed with parseFailed | ⟨tb, -, failed⟩
  · exact .inl (nlmsgParse_error parseFailed)
  dsimp only at failed
  rcases bind_eq_error failed with csumFailed | ⟨_, -, failed⟩
  · split_ifs at csumFailed
    · exact .inl (cgwParseCsum_error csumFailed)
    · cases csumFailed
  rcases bind_eq_error failed with ccgwFailed | ⟨_, -, pureFailed⟩
  · exact .inr (cgwParseCanCanGw_error ccgwFailed)
  · cases pureFailed

/-- With a function installed, a checksum attribute of the right length whose
indices are out of range makes `cgw_parse_attr` fail with `-EINVAL`, whether it
is the XOR stage or the CRC8 stage behind an accepted XOR stage. -/
theorem cgwParseAttr_of_out_of_range {nlh : NlMsg} {tb : AttrTable} (table : nlmsgParse nlh = .ok tb)
    (modified : installed header (acceptedMod tb) ≠ [])
    (outOfRange : (∃ stage : CgwCsumXor, acceptedCsum tb .csXor = some stage ∧ ¬ stage.IndicesInRange) ∨
      ∃ stage : CgwCsumCrc8, acceptedCsum tb .csCrc8 = some stage ∧ ¬ stage.IndicesInRange) :
    cgwParseAttr header nlh = .error (-EINVAL) := by
  have counted : (modBlocks header (acceptedMod tb)).2 ≠ 0 := by
    rw [(modBlocks_eq header (acceptedMod tb)).2.2.2.2]
    exact fun empty => modified (List.eq_nil_of_length_eq_zero empty)
  have csumFailed : cgwParseCsum tb (modBlocks header (acceptedMod tb)).1 = .error (-EINVAL) := by
    rcases outOfRange with ⟨stage, accepted, bad⟩ | ⟨stage, accepted, bad⟩
    · simp only [cgwParseCsum, bind, Except.bind, csumBlock_of_out_of_range _ accepted bad]
    rcases xorBlock : csumBlock tb .csXor (modBlocks header (acceptedMod tb)).1.csum.xor with err | xor
    · simp only [cgwParseCsum, bind, Except.bind, xorBlock, csumBlock_error xorBlock]
    · simp only [cgwParseCsum, bind, Except.bind, xorBlock, csumBlock_of_out_of_range _ accepted bad]
  simp only [cgwParseAttr, table, bind, Except.bind, if_pos counted, csumFailed]

/-! ## What an accepted request parses to -/

theorem cgwParseCsum_ok {tb : AttrTable} {mod mod' : CfMod} (parsed : cgwParseCsum tb mod = .ok mod') :
    ∃ xor crc8, csumBlock tb .csXor mod.csum.xor = .ok xor ∧ csumBlock tb .csCrc8 mod.csum.crc8 = .ok crc8 ∧
      mod' = { mod with csum := ⟨xor, crc8⟩ } := by
  obtain ⟨xor, xorOk, parsed⟩ := bind_eq_ok parsed
  obtain ⟨crc8, crcOk, parsed⟩ := bind_eq_ok parsed
  exact ⟨xor, crc8, xorOk, crcOk, (Except.ok.inj parsed).symm⟩

/-- An accepted request: its attribute table, the four blocks, the checksum
part when a function was installed, and the interfaces. -/
theorem cgwParseAttr_ok {nlh : NlMsg} {mod : CfMod} {ccgw : CanCanGw}
    (parsed : cgwParseAttr header nlh = .ok (mod, ccgw)) :
    ∃ tb, nlmsgParse nlh = .ok tb ∧ cgwParseCanCanGw tb = .ok ccgw ∧
      ((modBlocks header (acceptedMod tb)).2 = 0 ∧ mod = (modBlocks header (acceptedMod tb)).1 ∨
        (modBlocks header (acceptedMod tb)).2 ≠ 0 ∧
          cgwParseCsum tb (modBlocks header (acceptedMod tb)).1 = .ok mod) := by
  obtain ⟨tb, tableOk, parsed⟩ := bind_eq_ok parsed
  dsimp only at parsed
  obtain ⟨mod', modOk, parsed⟩ := bind_eq_ok parsed
  obtain ⟨ccgw', ccgwOk, parsed⟩ := bind_eq_ok parsed
  obtain ⟨rfl, rfl⟩ := Prod.mk.inj (Except.ok.inj parsed)
  refine ⟨tb, tableOk, ccgwOk, ?_⟩
  split_ifs at modOk with installedSome
  · exact .inr ⟨installedSome, modOk⟩
  · exact .inl ⟨not_not.mp installedSome, (Except.ok.inj modOk).symm⟩

/-- The slots and the table of an accepted request are those of its four
blocks: the checksum part writes only the checksum stages. -/
theorem cgwParseAttr_ok_mod {nlh : NlMsg} {mod : CfMod} {ccgw : CanCanGw}
    (parsed : cgwParseAttr header nlh = .ok (mod, ccgw)) :
    ∃ tb, nlmsgParse nlh = .ok tb ∧ mod.modframe = modframeOf (acceptedMod tb) ∧
      mod.modtype = modtypesOf (acceptedMod tb) ∧ Contiguous mod (installed header (acceptedMod tb)) := by
  obtain ⟨tb, tableOk, -, blocks⟩ := cgwParseAttr_ok header parsed
  have closed := modBlocks_eq header (acceptedMod tb)
  refine ⟨tb, tableOk, ?_⟩
  rcases blocks with ⟨-, rfl⟩ | ⟨-, csumOk⟩
  · exact ⟨closed.1, closed.2.1, closed.2.2.2.1⟩
  · obtain ⟨_, _, -, -, rfl⟩ := cgwParseCsum_ok csumOk
    exact ⟨closed.1, closed.2.1, closed.2.2.2.1⟩

end CanGw
