import CanGw.RoundTrip
import CanGw.Modification

/-!
# What the comparisons of `cgw_remove_job` compare

`cgw_remove_job` finds its job by comparing the request's header flags and the
bytes of its parsed `cf_mod` and `can_can_gw` with a listed job's. The
configuration a request stands for in the specification is less than those
bytes: the header flags, the operator list of the modification blocks with each
operand reduced to the element the operator reads, the enabled checksum stages,
the filter and the two indices (`JobConfig`, `requestConfig`).

The comparison is equality of the selector byte and the whole operand frame of
every kind, the enabled checksum stages and the `can_can_gw`
(`ParsedMod.eq_iff`, `cgwJobMatches_iff`). Equal bytes give equal configurations, but two
requests that differ only in an operand byte no selected element reads, or in a
selector bit that installs nothing, stand for one configuration and do not match.
-/

namespace CanGw

variable (header : GwHeader)

/-- The element of an operand that an operator on `field` reads, alone in an
otherwise zero frame. -/
def fieldOf (field : ModField) (f : CanFrame) : CanFrame :=
  match field with
  | .id => { CanFrame.zero with canId := f.canId }
  | .dlc => { CanFrame.zero with canDlc := f.canDlc }
  | .data => { CanFrame.zero with data := f.data }

/-- An operator as the specification lists it: kind, field and the value it reads. -/
def ModOp.config (op : ModOp) : ModKind × ModField × CanFrame := (op.kind, op.field, fieldOf op.field op.operand)

/-- A checksum stage when it is enabled. -/
def enabledStage {size : Nat} (stage : CsumStage size) : Option (CsumStage size) :=
  if stage.fromIdx = CGW_CS_DISABLED then none else some stage

/-- The job configuration a request denotes in the specification's terms. -/
structure JobConfig where
  flags : BitVec 16
  ops : List (ModKind × ModField × CanFrame)
  xor : Option CgwCsumXor
  crc8 : Option CgwCsumCrc8
  ccgw : CanCanGw
  deriving DecidableEq

/-- The configuration of a request with table `tb` that parsed to `mod` and `ccgw`. -/
def jobConfig (flags : BitVec 16) (tb : AttrTable) (mod : CfMod) (ccgw : CanCanGw) : JobConfig :=
  ⟨flags, (refOps header tb).map ModOp.config, enabledStage mod.csum.xor, enabledStage mod.csum.crc8, ccgw⟩

/-- The configuration a request denotes, when `cgw_parse_attr` accepts it. -/
def requestConfig (nlh : NlMsg) : Option JobConfig :=
  match nlmsgParse nlh, cgwParseAttr header nlh with
  | .ok tb, .ok (mod, ccgw) => some (jobConfig header nlh.rtcan.flags tb mod ccgw)
  | _, _ => none

/-- The operator list a `cf_mod` holds, read from its selector bytes and slots. -/
def slotOps (modtype : PerKind Byte) (modframe : PerKind CanFrame) : List (ModKind × ModField × CanFrame) :=
  modKinds.flatMap fun kind =>
    (selectedFields header (modtype.get kind)).map fun field => (kind, field, fieldOf field (modframe.get kind))

/-! ## The operator list is in the slots -/

theorem fieldOf_canframecpy (field : ModField) (f : CanFrame) : fieldOf field (canframecpy .zero f) = fieldOf field f := by
  cases field <;> rfl

theorem refKindOps_config (tb : AttrTable) (kind : ModKind) :
    (refKindOps header tb kind).map ModOp.config =
      (selectedFields header (modtypeOf (acceptedMod tb kind))).map fun field =>
        (kind, field, fieldOf field (frameOf (acceptedMod tb kind))) := by
  unfold refKindOps acceptedMod
  cases tb kind.attr with
  | none => simp [selectedFields, modtypeOf]
  | some attr =>
      by_cases fits : attr.payload.length = CGW_MODATTR_LEN
      · simp [fits, selectedFields, modtypeOf, frameOf, ModOp.config, fieldOf_canframecpy]
      · simp [fits, selectedFields, modtypeOf]

theorem refOps_config (tb : AttrTable) :
    (refOps header tb).map ModOp.config = slotOps header (modtypesOf (acceptedMod tb)) (modframeOf (acceptedMod tb)) := by
  simp only [refOps, slotOps, List.map_flatMap, refKindOps_config, modKinds]
  rfl

/-- The configuration of an accepted request, read from what it parsed to. -/
theorem requestConfig_eq {nlh : NlMsg} {mod : CfMod} {ccgw : CanCanGw}
    (parsed : cgwParseAttr header nlh = .ok (mod, ccgw)) :
    requestConfig header nlh = some ⟨nlh.rtcan.flags, slotOps header mod.modtype mod.modframe,
      enabledStage mod.csum.xor, enabledStage mod.csum.crc8, ccgw⟩ := by
  obtain ⟨tb, table, frames, types, -⟩ := cgwParseAttr_ok_mod header parsed
  simp only [requestConfig, table, parsed, jobConfig, refOps_config, frames, types]

/-! ## Parsed `cf_mod`s are equal when their slots are -/

theorem CsumParsed.eq_of_enabledStage {size : Nat} {stage stage' : CsumStage size} (parsed : CsumParsed stage)
    (parsed' : CsumParsed stage') (same : enabledStage stage = enabledStage stage') : stage = stage' := by
  unfold enabledStage at same
  by_cases off : stage.fromIdx = CGW_CS_DISABLED <;> by_cases off' : stage'.fromIdx = CGW_CS_DISABLED <;>
    simp only [off, off', if_true, if_false, reduceCtorEq, Option.some.injEq] at same
  · rw [parsed.1 off, parsed'.1 off']
  · exact same

theorem ParsedMod.eq_iff {mod mod' : CfMod} (parsed : ParsedMod header mod) (parsed' : ParsedMod header mod') :
    mod = mod' ↔ mod.modtype = mod'.modtype ∧ mod.modframe = mod'.modframe ∧
      enabledStage mod.csum.xor = enabledStage mod'.csum.xor ∧ enabledStage mod.csum.crc8 = enabledStage mod'.csum.crc8 := by
  constructor
  · rintro rfl
    exact ⟨rfl, rfl, rfl, rfl⟩
  · rintro ⟨types, frames, xor, crc8⟩
    have funcs : mod.modfunc = mod'.modfunc := by rw [parsed.contiguous, parsed'.contiguous, types]
    have csum : mod.csum = mod'.csum := congrArg₂ CfModCsum.mk (parsed.xor.eq_of_enabledStage parsed'.xor xor)
      (parsed.crc8.eq_of_enabledStage parsed'.crc8 crc8)
    exact cfMod_ext frames types funcs csum

/-- The comparisons of `cgw_remove_job` between a request and the job of
another accepted request report equality exactly when both have the same header
flags, the same selector byte and operand frame for every kind, the same enabled
checksum stages and the same filter and indices; equality gives the same
configuration. -/
theorem cgwJobMatches_iff_slots {nlh nlh' : NlMsg} {mod mod' : CfMod} {ccgw ccgw' : CanCanGw} (job : CgwJob)
    (parsed : cgwParseAttr header nlh = .ok (mod, ccgw)) (parsed' : cgwParseAttr header nlh' = .ok (mod', ccgw'))
    (stored : job.flags = nlh'.rtcan.flags ∧ job.mod = mod' ∧ job.ccgw = ccgw') :
    (cgwJobMatches nlh.rtcan.flags mod ccgw job = true ↔
      nlh.rtcan.flags = nlh'.rtcan.flags ∧ mod.modtype = mod'.modtype ∧ mod.modframe = mod'.modframe ∧
        enabledStage mod.csum.xor = enabledStage mod'.csum.xor ∧
        enabledStage mod.csum.crc8 = enabledStage mod'.csum.crc8 ∧ ccgw = ccgw') ∧
    (cgwJobMatches nlh.rtcan.flags mod ccgw job = true → requestConfig header nlh = requestConfig header nlh') := by
  obtain ⟨flags, rfl, rfl⟩ := stored
  rw [cgwJobMatches_iff, flags, eq_comm, @eq_comm _ job.mod, @eq_comm _ job.ccgw,
    (parsedMod_of_cgwParseAttr header parsed).eq_iff header (parsedMod_of_cgwParseAttr header parsed')]
  refine ⟨by simp only [and_assoc], ?_⟩
  rintro ⟨sameFlags, ⟨types, frames, xor, crc8⟩, rfl⟩
  rw [requestConfig_eq header parsed, requestConfig_eq header parsed', sameFlags, types, frames, xor, crc8]

theorem cgwJobMatches_iff_slots_selfRoute :
    cgwParseAttr ⟨1, 1, 2, 4, 1, 2⟩ selfRoute = .ok (CfMod.init, ⟨⟨0, 0⟩, 1, 1⟩) ∧
      cgwJobMatches selfRoute.rtcan.flags CfMod.init ⟨⟨0, 0⟩, 1, 1⟩ ⟨0, 0, CfMod.init, 1, 1, ⟨⟨0, 0⟩, 1, 1⟩, 1, 0⟩ =
        true :=
  have parsed : cgwParseAttr ⟨1, 1, 2, 4, 1, 2⟩ selfRoute = .ok (CfMod.init, ⟨⟨0, 0⟩, 1, 1⟩) := by rfl
  ⟨parsed, (cgwJobMatches_iff_slots _ _ parsed parsed ⟨rfl, rfl, rfl⟩).1.mpr ⟨rfl, rfl, rfl, rfl, rfl, rfl⟩⟩

/-- Two requests with an AND on the identifier by 1 that differ only in the data
bytes of the operand, which the operator never reads, denote one configuration;
yet the DEL of one does not find the job that the ADD of the other created. So
do a request whose `CGW_MOD_AND` has selector 8, a bit that names no element
and installs no function, and `selfRoute`, which has no `CGW_MOD_AND`. -/
theorem cgwRemoveJob_misses_same_config :
    let request := fun data : BitVec 64 =>
      let attrs : List NlAttr :=
        [⟨.modAnd, (⟨⟨1, 0, 0, data⟩, 1⟩ : CgwFrameMod).image⟩, ⟨.srcIf, u32Image 1⟩, ⟨.dstIf, u32Image 1⟩]
      (⟨nlmsgLenOf attrs, ⟨AF_CAN, 1, 0⟩, attrs⟩ : NlMsg)
    let created := cgwCreateJob ⟨1, 1, 2, 4, 1, 2⟩ ⟨true, 7, true⟩ (registerNetdevice .loaded GwSystem.init.gw can0)
      (request 0)
    let unselected : NlMsg :=
      let attrs : List NlAttr :=
        [⟨.modAnd, (⟨CanFrame.zero, 8⟩ : CgwFrameMod).image⟩, ⟨.srcIf, u32Image 1⟩, ⟨.dstIf, u32Image 1⟩]
      ⟨nlmsgLenOf attrs, ⟨AF_CAN, 1, 0⟩, attrs⟩
    let createdUnselected := cgwCreateJob ⟨1, 1, 2, 4, 1, 2⟩ ⟨true, 7, true⟩
      (registerNetdevice .loaded GwSystem.init.gw can0) unselected
    (requestConfig ⟨1, 1, 2, 4, 1, 2⟩ (request 0)).isSome ∧
      requestConfig ⟨1, 1, 2, 4, 1, 2⟩ (request 0) = requestConfig ⟨1, 1, 2, 4, 1, 2⟩ (request 5) ∧
      created.1 = 0 ∧ (cgwRemoveJob ⟨1, 1, 2, 4, 1, 2⟩ created.2 (request 5)).1 = -EINVAL ∧
      (requestConfig ⟨1, 1, 2, 4, 1, 2⟩ unselected).isSome ∧
      requestConfig ⟨1, 1, 2, 4, 1, 2⟩ unselected = requestConfig ⟨1, 1, 2, 4, 1, 2⟩ selfRoute ∧
      createdUnselected.1 = 0 ∧ (cgwRemoveJob ⟨1, 1, 2, 4, 1, 2⟩ createdUnselected.2 selfRoute).1 = -EINVAL := by
  set_option maxRecDepth 2000 in
  decide

end CanGw

