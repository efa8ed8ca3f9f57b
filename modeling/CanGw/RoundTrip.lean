import CanGw.Dump

/-!
# Listing a job and parsing it back

A LIST reply is meant to be replayable: a DEL request made of the message
`cgw_put_job` writes for a job should name that job. Whether it does depends on
what `cgw_parse_attr` can leave in a `cf_mod`, which `ParsedMod` collects: every
operand slot is a `canframecpy` copy, the table holds the functions of the
stored selector bytes, and each checksum stage is either off or one that
`cgw_chk_csum_parms` accepts, and on only when a function is installed.

`cgw_put_job` writes a `CGW_MOD_*` attribute only for a kind whose selector is
set. An attribute accepted with selector 0 still leaves its operand in the
slot, so the listed message loses it; for every other job the message parses
back to the same `cf_mod` and `can_can_gw` (`cgwParseAttr_cgwJobMsg`).

Every listed job of a reachable state is one `cgw_create_job` built from a
request `cgw_parse_attr` accepted: type `CGW_TYPE_CAN_CAN`, both indices set,
and a `cf_mod` with the shape `ParsedMod` describes (`JobWellFormed`). No later
operation changes a job's configuration; only its counters move, and the
message carries them. So the round trip holds for the jobs of every reachable
state, counted or not.
-/

namespace CanGw

variable (header : GwHeader)

/-! ## What parsing leaves in a `cf_mod` -/

/-- The functions the four blocks install for given selector bytes. -/
def installedOf (modtype : PerKind Byte) : List ModFunc :=
  modKinds.flatMap fun kind => (selectedFields header (modtype.get kind)).map (ModFunc.of kind)

/-- A checksum stage as `cgw_parse_attr` leaves it: off exactly when its
`from_idx` is `CGW_CS_DISABLED`, and otherwise accepted by `cgw_chk_csum_parms`. -/
def CsumParsed {size : Nat} (stage : CsumStage size) : Prop :=
  (stage.fromIdx = CGW_CS_DISABLED → stage = CsumStage.disabled size) ∧
    (stage.fromIdx ≠ CGW_CS_DISABLED → cgwChkCsumParms stage.fromIdx stage.toIdx stage.resultIdx = 0)

/-- What every accepted request leaves in its `cf_mod`. -/
structure ParsedMod (mod : CfMod) : Prop where
  slots : ∀ kind, canframecpy .zero (mod.modframe.get kind) = mod.modframe.get kind
  contiguous : Contiguous mod (installedOf header mod.modtype)
  csumOff : installedOf header mod.modtype = [] → mod.csum = CfMod.init.csum
  xor : CsumParsed mod.csum.xor
  crc8 : CsumParsed mod.csum.crc8

theorem blockFuncs_eq (kind : ModKind) (accepted : Option CgwFrameMod) :
    blockFuncs header kind accepted = (selectedFields header (modtypeOf accepted)).map (ModFunc.of kind) := by
  cases accepted with
  | none => simp [blockFuncs, modtypeOf, selectedFields]
  | some mb => rfl

/-- The installed functions are those of the stored selector bytes. -/
theorem installed_eq_installedOf (accepted : ModKind → Option CgwFrameMod) :
    installed header accepted = installedOf header (modtypesOf accepted) := by
  simp only [installed, installedOf, blockFuncs_eq]
  congr 1
  funext kind
  cases kind <;> rfl

theorem fromIdx_disabled (size : Nat) : (CsumStage.disabled (size + 1)).fromIdx = CGW_CS_DISABLED := by
  simp [CsumStage.disabled, CsumStage.fromIdx, List.replicate_succ]

theorem cgwChkCsumParms_disabled (toIdx reIdx : Byte) : cgwChkCsumParms CGW_CS_DISABLED toIdx reIdx ≠ 0 := by
  unfold cgwChkCsumParms
  rw [if_neg fun ⟨_, tooBig, _⟩ => absurd tooBig (by decide)]
  decide

theorem csumParsed_disabled (size : Nat) : CsumParsed (CsumStage.disabled (size + 1)) :=
  ⟨fun _ => rfl, fun enabled => absurd (fromIdx_disabled size) enabled⟩

/-- A checksum block run on a stage that is off leaves a stage as
`cgw_parse_attr` leaves it. -/
theorem csumParsed_of_csumBlock {size : Nat} {tb : AttrTable} {type : CgwAttrType} {stage : CsumStage (size + 1)}
    (ok : csumBlock tb type (CsumStage.disabled (size + 1)) = .ok stage) : CsumParsed stage := by
  unfold csumBlock at ok
  split at ok
  · rename_i copied _
    dsimp only at ok
    split_ifs at ok with rejected
    obtain rfl := Except.ok.inj ok
    refine ⟨fun off => ?_, fun _ => not_not.mp rejected⟩
    rw [off] at rejected
    exact absurd (not_not.mp rejected) (cgwChkCsumParms_disabled _ _)
  · obtain rfl := Except.ok.inj ok
    exact csumParsed_disabled size

theorem canframecpy_zero_frameOf (accepted : Option CgwFrameMod) :
    canframecpy .zero (frameOf accepted) = frameOf accepted := by
  cases accepted <;> rfl

/-- Every `cf_mod` that `cgw_parse_attr` returns is a `ParsedMod`. -/
theorem parsedMod_of_cgwParseAttr {nlh : NlMsg} {mod : CfMod} {ccgw : CanCanGw}
    (parsed : cgwParseAttr header nlh = .ok (mod, ccgw)) : ParsedMod header mod := by
  obtain ⟨tb, -, -, blocks⟩ := cgwParseAttr_ok header parsed
  obtain ⟨frames, types, csumInit, contiguous, count⟩ := modBlocks_eq header (acceptedMod tb)
  rw [installed_eq_installedOf] at contiguous count
  have slots : ∀ kind, canframecpy .zero ((modframeOf (acceptedMod tb)).get kind) =
      (modframeOf (acceptedMod tb)).get kind := by
    intro kind
    rw [get_modframeOf]
    exact canframecpy_zero_frameOf _
  rcases blocks with ⟨none, rfl⟩ | ⟨some, csumOk⟩
  · rw [count, List.length_eq_zero] at none
    refine ⟨by rw [frames]; exact slots, by rwa [types], fun _ => csumInit, ?_, ?_⟩ <;>
      rw [csumInit] <;> exact csumParsed_disabled _
  · obtain ⟨xor, crc8, xorOk, crcOk, rfl⟩ := cgwParseCsum_ok csumOk
    rw [csumInit] at xorOk crcOk
    refine ⟨by simpa [frames] using slots, by simpa [types] using contiguous, fun empty => ?_,
      csumParsed_of_csumBlock xorOk, csumParsed_of_csumBlock crcOk⟩
    rw [types] at empty
    rw [count, empty] at some
    exact absurd rfl some

/-- A stage `cgw_parse_attr` leaves is off, or its indices are in range. -/
theorem CsumParsed.disabled_or_inRange {size : Nat} {stage : CsumStage size} (parsed : CsumParsed stage) :
    stage = CsumStage.disabled size ∨ stage.IndicesInRange := by
  by_cases off : stage.fromIdx = CGW_CS_DISABLED
  · exact .inl (parsed.1 off)
  · have accepted := parsed.2 off
    rw [cgwChkCsumParms_eq] at accepted
    by_cases inRange : stage.IndicesInRange
    · exact .inr inRange
    · rw [if_neg inRange] at accepted
      exact absurd accepted (by decide)

/-- A checksum stage is on only when `modfunc[0]` is set. -/
theorem ParsedMod.modfunc_head_of_enabled {mod : CfMod} (parsed : ParsedMod header mod)
    (enabled : mod.csum.xor.fromIdx ≠ CGW_CS_DISABLED ∨ mod.csum.crc8.fromIdx ≠ CGW_CS_DISABLED) :
    (mod.modfunc.headD none).isSome := by
  rw [parsed.contiguous]
  cases funcs : installedOf header mod.modtype with
  | nil =>
      have off := parsed.csumOff funcs
      rcases enabled with enabled | enabled <;> exact absurd (by rw [off]; exact fromIdx_disabled _) enabled
  | cons func rest => rfl

/-- The checksum stages of every accepted request are off (`from_idx` is
`CGW_CS_DISABLED` and every other byte 0) or have their three indices in
`-8..7`, and one is on only when `modfunc[0]` is set. With a function installed,
a `CGW_CS_XOR` or `CGW_CS_CRC8` attribute of the right length with an index out
of range makes `cgw_parse_attr` fail with `-EINVAL`. -/
theorem cgwParseAttr_csum_forms (nlh : NlMsg) :
    (∀ mod ccgw, cgwParseAttr header nlh = .ok (mod, ccgw) →
      (mod.csum.xor = CsumStage.disabled _ ∨ mod.csum.xor.IndicesInRange) ∧
        (mod.csum.crc8 = CsumStage.disabled _ ∨ mod.csum.crc8.IndicesInRange) ∧
        (mod.csum.xor.fromIdx ≠ CGW_CS_DISABLED ∨ mod.csum.crc8.fromIdx ≠ CGW_CS_DISABLED →
          (mod.modfunc.headD none).isSome)) ∧
      ∀ tb, nlmsgParse nlh = .ok tb → installed header (acceptedMod tb) ≠ [] →
        ((∃ stage : CgwCsumXor, acceptedCsum tb .csXor = some stage ∧ ¬ stage.IndicesInRange) ∨
          ∃ stage : CgwCsumCrc8, acceptedCsum tb .csCrc8 = some stage ∧ ¬ stage.IndicesInRange) →
        cgwParseAttr header nlh = .error (-EINVAL) := by
  refine ⟨fun mod ccgw parsed => ?_, fun tb table modified outOfRange =>
    cgwParseAttr_of_out_of_range header table modified outOfRange⟩
  have parsedMod := parsedMod_of_cgwParseAttr header parsed
  exact ⟨parsedMod.xor.disabled_or_inRange, parsedMod.crc8.disabled_or_inRange,
    parsedMod.modfunc_head_of_enabled header⟩

/-! ## The table of a listed job -/

/-- The table of a listed job's attributes: `cgw_put_job` puts each type at most
once, under the condition it checks. -/
theorem nlaParse_cgwJobAttrs (gwj : CgwJob) (type : CgwAttrType) :
    nlaParse (cgwJobAttrs header gwj) type =
      match type with
      | .modAnd => (modAttr gwj.mod .and).head?
      | .modOr => (modAttr gwj.mod .or).head?
      | .modXor => (modAttr gwj.mod .xor).head?
      | .modSet => (modAttr gwj.mod .set).head?
      | .csXor => if gwj.mod.csum.xor.fromIdx ≠ CGW_CS_DISABLED then some ⟨.csXor, gwj.mod.csum.xor.1⟩ else none
      | .csCrc8 =>
          if gwj.mod.csum.crc8.fromIdx ≠ CGW_CS_DISABLED then some ⟨.csCrc8, gwj.mod.csum.crc8.1⟩ else none
      | .filter =>
          if gwj.gwtype = header.cgwTypeCanCan ∧ (gwj.ccgw.filter.canId ≠ 0 ∨ gwj.ccgw.filter.canMask ≠ 0) then
            some ⟨.filter, gwj.ccgw.filter.image⟩ else none
      | .srcIf => if gwj.gwtype = header.cgwTypeCanCan then some ⟨.srcIf, u32Image gwj.ccgw.srcIdx⟩ else none
      | .dstIf => if gwj.gwtype = header.cgwTypeCanCan then some ⟨.dstIf, u32Image gwj.ccgw.dstIdx⟩ else none
      | .handled => if gwj.handledFrames ≠ 0 then some ⟨.handled, u32Image gwj.handledFrames⟩ else none
      | .dropped => if gwj.droppedFrames ≠ 0 then some ⟨.dropped, u32Image gwj.droppedFrames⟩ else none
      | .unknown _ => none := by
  simp only [nlaParse, cgwJobAttrs, modKinds, List.flatMap_cons, List.flatMap_nil, List.append_nil,
    List.filter_append, apply_ite (List.filter _), List.filter_cons, List.filter_nil]
  cases type <;> simp [modAttr, ModKind.attr, PerKind.get, apply_ite (List.filter _), List.filter_cons] <;>
    split_ifs <;> simp_all

theorem nlaParse_modAttr (gwj : CgwJob) (kind : ModKind) :
    nlaParse (cgwJobAttrs header gwj) kind.attr = (modAttr gwj.mod kind).head? := by
  cases kind <;> exact nlaParse_cgwJobAttrs header gwj _

theorem acceptedMod_cgwJobAttrs (gwj : CgwJob) (kind : ModKind) :
    acceptedMod (nlaParse (cgwJobAttrs header gwj)) kind =
      if gwj.mod.modtype.get kind ≠ 0 then some ⟨gwj.mod.modframe.get kind, gwj.mod.modtype.get kind⟩
      else none := by
  rw [acceptedMod, nlaParse_modAttr, modAttr]
  split_ifs <;> simp [CgwFrameMod.length_image]

/-- A listed checksum stage is read back. -/
theorem csumBlock_listed {size : Nat} {tb : AttrTable} {type : CgwAttrType} {stage : CsumStage (size + 1)}
    (parsedStage : CsumParsed stage)
    (listed : tb type = if stage.fromIdx ≠ CGW_CS_DISABLED then some ⟨type, stage.1⟩ else none) :
    csumBlock tb type (CsumStage.disabled (size + 1)) = .ok stage := by
  unfold csumBlock acceptedCsum
  rw [listed]
  split_ifs with enabled
  · simp [stage.2, parsedStage.2 enabled]
  · simp [(parsedStage.1 (not_not.mp enabled)).symm]

theorem cgwParseCanCanGw_listed (gwj : CgwJob) (canCan : gwj.gwtype = header.cgwTypeCanCan)
    (srcSet : gwj.ccgw.srcIdx ≠ 0) (dstSet : gwj.ccgw.dstIdx ≠ 0) :
    cgwParseCanCanGw (nlaParse (cgwJobAttrs header gwj)) = .ok gwj.ccgw := by
  have filter : filterOf (nlaParse (cgwJobAttrs header gwj)) = gwj.ccgw.filter := by
    rw [filterOf, nlaParse_cgwJobAttrs]
    dsimp only
    split_ifs with present
    · simp
    · have zero : gwj.ccgw.filter.canId = 0 ∧ gwj.ccgw.filter.canMask = 0 := by
        simpa [canCan, not_or] using present
      exact (congrArg₂ CanFilter.mk zero.1 zero.2).symm
  unfold cgwParseCanCanGw
  rw [nlaParse_cgwJobAttrs, nlaParse_cgwJobAttrs]
  dsimp only
  rw [if_pos canCan, if_pos canCan]
  simp only [ifIndexOf, length_u32Image, if_true, u32OfImage_u32Image, filter]
  rw [if_neg fun both => srcSet both.1, if_neg fun either => either.elim srcSet dstSet]

/-! ## The listed message parses back -/

theorem cfMod_ext {mod mod' : CfMod} (frames : mod.modframe = mod'.modframe) (types : mod.modtype = mod'.modtype)
    (funcs : mod.modfunc = mod'.modfunc) (csum : mod.csum = mod'.csum) : mod = mod' := by
  cases mod
  cases mod'
  simp only at frames types funcs csum
  simp only [frames, types, funcs, csum]

/-- `cgw_parse_attr` from its three parts. -/
theorem cgwParseAttr_of_parts {nlh : NlMsg} {tb : AttrTable} {mod : CfMod} {ccgw : CanCanGw}
    (table : nlmsgParse nlh = .ok tb)
    (modOk : (if (modBlocks header (acceptedMod tb)).2 ≠ 0 then cgwParseCsum tb (modBlocks header (acceptedMod tb)).1
      else pure (modBlocks header (acceptedMod tb)).1) = .ok mod)
    (interfaces : cgwParseCanCanGw tb = .ok ccgw) : cgwParseAttr header nlh = .ok (mod, ccgw) := by
  simp only [cgwParseAttr, table, bind, Except.bind, modOk, interfaces]
  rfl

/-- A job whose `cf_mod` is one that parsing leaves, with no operand in the slot
of a kind whose selector is 0, and with both interface indices set, is listed
as a message that parses back to its `cf_mod` and `can_can_gw`. -/
theorem cgwParseAttr_cgwJobMsg (gwj : CgwJob) (parsedMod : ParsedMod header gwj.mod)
    (zeroSlots : ∀ kind, gwj.mod.modtype.get kind = 0 → gwj.mod.modframe.get kind = .zero)
    (canCan : gwj.gwtype = header.cgwTypeCanCan) (srcSet : gwj.ccgw.srcIdx ≠ 0) (dstSet : gwj.ccgw.dstIdx ≠ 0) :
    cgwParseAttr header (cgwJobMsg header gwj) = .ok (gwj.mod, gwj.ccgw) := by
  have accepted := acceptedMod_cgwJobAttrs header gwj
  obtain ⟨frames, types, csumInit, contiguous, count⟩ :=
    modBlocks_eq header (acceptedMod (nlaParse (cgwJobAttrs header gwj)))
  have sameFrames : modframeOf (acceptedMod (nlaParse (cgwJobAttrs header gwj))) = gwj.mod.modframe := by
    refine PerKind.ext_get fun kind => ?_
    rw [get_modframeOf, accepted]
    split_ifs with selected
    · exact parsedMod.slots kind
    · exact (zeroSlots kind (not_not.mp selected)).symm
  have sameTypes : modtypesOf (acceptedMod (nlaParse (cgwJobAttrs header gwj))) = gwj.mod.modtype := by
    refine PerKind.ext_get fun kind => ?_
    rw [get_modtypesOf, accepted]
    split_ifs with selected
    · rfl
    · exact (not_not.mp selected).symm
  rw [installed_eq_installedOf, sameTypes] at contiguous count
  have sameFuncs := contiguous.trans parsedMod.contiguous.symm
  refine cgwParseAttr_of_parts header (nlmsgParse_of_nlmsgLenOf _ _) ?_
    (cgwParseCanCanGw_listed header gwj canCan srcSet dstSet)
  split_ifs with installedSome
  · have xorOk : csumBlock (nlaParse (cgwJobAttrs header gwj)) .csXor
        (modBlocks header (acceptedMod (nlaParse (cgwJobAttrs header gwj)))).1.csum.xor = .ok gwj.mod.csum.xor := by
      rw [csumInit]
      exact csumBlock_listed parsedMod.xor (nlaParse_cgwJobAttrs header gwj .csXor)
    have crcOk : csumBlock (nlaParse (cgwJobAttrs header gwj)) .csCrc8
        (modBlocks header (acceptedMod (nlaParse (cgwJobAttrs header gwj)))).1.csum.crc8 = .ok gwj.mod.csum.crc8 := by
      rw [csumInit]
      exact csumBlock_listed parsedMod.crc8 (nlaParse_cgwJobAttrs header gwj .csCrc8)
    simp only [cgwParseCsum, xorOk, crcOk, bind, Except.bind, pure, Except.pure]
    exact congrArg Except.ok (cfMod_ext (frames.trans sameFrames) (types.trans sameTypes) sameFuncs rfl)
  · have none : installedOf header gwj.mod.modtype = [] := by
      rw [← List.length_eq_zero, ← count]
      exact not_not.mp installedSome
    exact congrArg Except.ok (cfMod_ext (frames.trans sameFrames) (types.trans sameTypes) sameFuncs
      (csumInit.trans (parsedMod.csumOff none).symm))

/-! ## Every listed job is well formed -/

/-- What `cgw_create_job` guarantees of the job it lists: the request's type,
which it checked, both indices set, and the `cf_mod` of an accepted request. -/
structure JobWellFormed (gwj : CgwJob) : Prop where
  canCan : gwj.gwtype = header.cgwTypeCanCan
  srcSet : gwj.ccgw.srcIdx ≠ 0
  dstSet : gwj.ccgw.dstIdx ≠ 0
  parsed : ParsedMod header gwj.mod

/-- Every listed job is well formed. -/
def JobsWellFormed (st : GwState) : Prop := ∀ entry ∈ st.cgwList, JobWellFormed header entry.2

/-- `JobWellFormed` reads the type, the `can_can_gw` and the `cf_mod`, none of
which the counters touch. -/
theorem JobWellFormed.of_config {gwj gwj' : CgwJob} (holds : JobWellFormed header gwj)
    (mod : gwj'.mod = gwj.mod) (gwtype : gwj'.gwtype = gwj.gwtype) (ccgw : gwj'.ccgw = gwj.ccgw) :
    JobWellFormed header gwj' := by
  obtain ⟨canCan, srcSet, dstSet, parsed⟩ := holds
  rw [← mod, ← gwtype, ← ccgw] at *
  exact ⟨canCan, srcSet, dstSet, parsed⟩

/-- A counter update changes no job's configuration. -/
theorem GwState.config_countJob {st : GwState} {job : JobPtr} {handled : Bool} {entry : JobPtr × CgwJob}
    (member : entry ∈ (st.countJob job handled).cgwList) :
    ∃ orig ∈ st.cgwList, entry.2.mod = orig.2.mod ∧ entry.2.gwtype = orig.2.gwtype ∧
      entry.2.ccgw = orig.2.ccgw := by
  obtain ⟨orig, origMember, rfl⟩ := List.mem_map.mp member
  refine ⟨orig, origMember, ?_⟩
  split_ifs <;> cases handled <;> exact ⟨rfl, rfl, rfl⟩

/-- The job `cgw_create_job` adds is well formed. -/
theorem jobsWellFormed_cgwCreateJob {st : GwState} (env : CreateEnv) (nlh : NlMsg)
    (holds : JobsWellFormed header st) : JobsWellFormed header (cgwCreateJob header env st nlh).2 := by
  rcases cgwCreateJob_cases header env st nlh with ⟨-, same⟩ | ⟨gwj, created, listed⟩
  · rwa [same]
  rw [listed]
  intro entry member
  rcases List.mem_cons.mp member with rfl | member
  · exact ⟨created.fromHeader.2.2.1.trans created.canCan, created.srcSet, created.dstSet,
      parsedMod_of_cgwParseAttr header created.parsed⟩
  · exact holds entry member

theorem jobsWellFormed_step {s s' : GwSystem} (holds : JobsWellFormed header s.gw) (step : GwStep header s s') :
    JobsWellFormed header s'.gw := by
  cases step with
  | createJob env nlh => exact jobsWellFormed_cgwCreateJob header env nlh holds
  | removeJob nlh => exact fun entry member => holds entry (mem_of_mem_cgwRemoveJob header member)
  | registerDevice dev =>
      simp only [GwSystem.withGw_gw, registerNetdevice_eq]
      exact holds
  | unregisterDevice dev =>
      exact fun entry member => holds entry ((cgwList_sublist_callNetdeviceNotifiers _ _ _ dev).subset member)
  | rcvCount job handled =>
      intro entry member
      obtain ⟨orig, origMember, mod, gwtype, ccgw⟩ := GwState.config_countJob member
      exact (holds orig origMember).of_config header mod gwtype ccgw
  | removeAllJobs => exact fun entry member => absurd member (List.not_mem_nil entry)
  | rcvStart | rcvEnd | gracePeriod | unregisterRtnl | unregisterNotifier | destroyCache => exact holds

theorem jobsWellFormed_of_reachable {s : GwSystem} (reachable : Reachable header s) :
    JobsWellFormed header s.gw := by
  induction reachable with
  | init => exact fun entry member => absurd member (List.not_mem_nil entry)
  | step _ step holds => exact jobsWellFormed_step header holds step

/-- In every reachable state every listed job has type `CGW_TYPE_CAN_CAN`, both
indices set, and the `cf_mod` of an accepted request: operand slots as
`canframecpy` fills them, the functions its selector bytes name from index 0
with `NULL` after them, and each checksum stage off or accepted by
`cgw_chk_csum_parms`, both off when no function is installed. -/
theorem cgwList_jobs_wellFormed {s : GwSystem} (reachable : Reachable header s) :
    ∀ entry ∈ s.gw.cgwList, JobWellFormed header entry.2 :=
  jobsWellFormed_of_reachable header reachable

theorem cgwList_jobs_wellFormed_andRoute :
    (routed andRoute).gw.cgwList ≠ [] ∧
      ∀ entry ∈ (routed andRoute).gw.cgwList, JobWellFormed ⟨1, 1, 2, 4, 1, 2⟩ entry.2 :=
  ⟨by decide, cgwList_jobs_wellFormed _ (routed_reachable andRoute)⟩

/-! ## LIST then DEL -/

/-- The message `cgw_put_job` appends, when it appends one. -/
theorem eq_cgwJobMsg_of_put {skb : DumpSkb} {gwj : CgwJob} {listed : NlMsg}
    (put : (cgwPutJob header skb gwj).2.msgs = skb.msgs ++ [listed]) : listed = cgwJobMsg header gwj := by
  rw [cgwPutJob_eq] at put
  split_ifs at put
  · simpa [DumpSkb.append] using put.symm
  · simpa using congrArg List.length put

/-- In every reachable state, a listed job with no operand in the slot of a kind
whose selector is 0, whatever its counters, is listed by `cgw_put_job` as a
message that parses back to the job's `cf_mod` and `can_can_gw` and carries its
flags; a DEL request made of that message, sent to any registry that lists a
job with the same flags, `cf_mod` and `can_can_gw`, removes the first such job
and frees it. -/
theorem cgwPutJob_parses_back {s : GwSystem} (reachable : Reachable header s) {addr : JobPtr} {gwj : CgwJob}
    (member : (addr, gwj) ∈ s.gw.cgwList)
    (zeroSlots : ∀ kind, gwj.mod.modtype.get kind = 0 → gwj.mod.modframe.get kind = .zero)
    (skb : DumpSkb) (listed : NlMsg) (put : (cgwPutJob header skb gwj).2.msgs = skb.msgs ++ [listed]) :
    cgwParseAttr header listed = .ok (gwj.mod, gwj.ccgw) ∧ listed.rtcan.flags = gwj.flags ∧
      ∀ st' : GwState, (∃ entry ∈ st'.cgwList, cgwJobMatches gwj.flags gwj.mod gwj.ccgw entry.2 = true) →
        ∃ before entry after, st'.cgwList = before ++ entry :: after ∧
          entry.2.flags = gwj.flags ∧ entry.2.mod = gwj.mod ∧ entry.2.ccgw = gwj.ccgw ∧
          (∀ other ∈ before, cgwJobMatches gwj.flags gwj.mod gwj.ccgw other.2 = false) ∧
          cgwRemoveJob header st' listed =
            (0, ({ st'.rxUnregister (rxKey entry) with cgwList := before ++ after }).kmemCacheFree entry.1) := by
  have wellFormed := jobsWellFormed_of_reachable header reachable _ member
  obtain rfl := eq_cgwJobMsg_of_put header put
  have roundTrip := cgwParseAttr_cgwJobMsg header gwj wellFormed.parsed zeroSlots wellFormed.canCan
    wellFormed.srcSet wellFormed.dstSet
  refine ⟨roundTrip, rfl, fun st' present => ?_⟩
  obtain ⟨before, entry, after, split, matched, earlier, removed⟩ := cgwRemoveJob_of_match header rfl
    wellFormed.canCan roundTrip (fun both => wellFormed.srcSet both.1) present
  obtain ⟨flags, mod, ccgw⟩ := (cgwJobMatches_iff _ _ _ _).mp matched
  exact ⟨before, entry, after, split, flags, mod, ccgw, earlier, removed⟩

/-- The job `andRoute` lists, after it has counted a frame: its message carries
`CGW_HANDLED` and the `CGW_MOD_AND` attribute, and parses back. -/
theorem cgwPutJob_parses_back_counted :
    ∃ s, Reachable ⟨1, 1, 2, 4, 1, 2⟩ s ∧ ∃ gwj, (7, gwj) ∈ s.gw.cgwList ∧ gwj.handledFrames = 1 ∧
      gwj.mod.modtype.get .and = 7 ∧ (∀ kind, gwj.mod.modtype.get kind = 0 → gwj.mod.modframe.get kind = .zero) ∧
      (cgwPutJob ⟨1, 1, 2, 4, 1, 2⟩ ⟨[], 0, 100⟩ gwj).2.msgs = [] ++ [cgwJobMsg ⟨1, 1, 2, 4, 1, 2⟩ gwj] ∧
      cgwParseAttr ⟨1, 1, 2, 4, 1, 2⟩ (cgwJobMsg ⟨1, 1, 2, 4, 1, 2⟩ gwj) = .ok (gwj.mod, gwj.ccgw) ∧
      (cgwJobMsg ⟨1, 1, 2, 4, 1, 2⟩ gwj).rtcan.flags = gwj.flags := by
  have started := (routed_reachable andRoute).step (.rcvStart ⟨1, 0, 0, 7⟩ (.inl (by decide)))
  have counted := started.step (.rcvCount 7 true (List.mem_singleton_self 7))
  refine ⟨_, counted, _, List.mem_singleton_self _, by decide, by decide, ?_⟩
  refine (fun zeroSlots put => ⟨zeroSlots, put, ?_⟩) (fun kind => by cases kind <;> decide) (by decide)
  obtain ⟨parsed, flags, -⟩ := cgwPutJob_parses_back _ counted (List.mem_singleton_self _) zeroSlots _ _ put
  exact ⟨parsed, flags⟩

/-- An accepted `CGW_MOD_AND` attribute with selector 0 leaves its operand in the
job's `cf_mod`, but `cgw_put_job` does not list it: the listed message parses to
another `cf_mod`, and a DEL request made of it removes nothing. -/
theorem cgwPutJob_drops_unselected_operand :
    let attrs : List NlAttr := [⟨.modAnd, (⟨⟨1, 0, 0, 0⟩, 0⟩ : CgwFrameMod).image⟩, ⟨.srcIf, u32Image 1⟩,
      ⟨.dstIf, u32Image 1⟩]
    let created := cgwCreateJob ⟨1, 1, 2, 4, 1, 2⟩ ⟨true, 7, true⟩
      (registerNetdevice .loaded GwSystem.init.gw can0) ⟨nlmsgLenOf attrs, ⟨AF_CAN, 1, 0⟩, attrs⟩
    created.1 = 0 ∧ ∃ entry ∈ created.2.cgwList,
      (cgwPutJob ⟨1, 1, 2, 4, 1, 2⟩ ⟨[], 0, 64⟩ entry.2).2.msgs.length = 1 ∧
      ∀ listed ∈ (cgwPutJob ⟨1, 1, 2, 4, 1, 2⟩ ⟨[], 0, 64⟩ entry.2).2.msgs,
        (cgwParseAttr ⟨1, 1, 2, 4, 1, 2⟩ listed).toOption ≠ some (entry.2.mod, entry.2.ccgw) ∧
        (cgwRemoveJob ⟨1, 1, 2, 4, 1, 2⟩ created.2 listed).1 = -EINVAL ∧
        (cgwRemoveJob ⟨1, 1, 2, 4, 1, 2⟩ created.2 listed).2.cgwList = created.2.cgwList := by
  set_option maxRecDepth 2000 in
  decide

end CanGw

