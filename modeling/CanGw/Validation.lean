import CanGw.System

/-!
# Attributes of the wrong length

`cgw_parse_attr` copies an attribute only when its payload has exactly the
length of the struct it fills. An attribute of another length is not an error.
`nla_parse` keeps the last attribute of each type; when that one has the wrong
length, a modification, checksum or filter type reads as if no attribute of the
type were present, and an interface type still counts as present but leaves its
index at the 0 of the `memset`. `sizedTable` applies those readings to a table; the
`RTM_NEWROUTE` and `RTM_DELROUTE` handlers return the same for a request as for
any request with the same header whose table is the `sizedTable` of its own
(`cgwCreateJob_sized`, `cgwRemoveJob_sized`). A DEL request whose interface attributes both
have the wrong length therefore reads two zero indices and flushes every job.
-/

namespace CanGw

variable (header : GwHeader)

/-- The payload length `cgw_parse_attr` copies for each attribute type it reads. -/
def cgwAttrLen : CgwAttrType → Option Nat
  | .modAnd | .modOr | .modXor | .modSet => some CGW_MODATTR_LEN
  | .csXor => some CGW_CS_XOR_LEN
  | .csCrc8 => some CGW_CS_CRC8_LEN
  | .filter => some CanFilter.size
  | .srcIf | .dstIf => some 4
  | _ => none

/-- An entry of type `type` as `cgw_parse_attr` reads it: dropped when it has the
wrong length, except that an interface attribute becomes index 0. -/
def sizedAttr (type : CgwAttrType) (attr : NlAttr) : Option NlAttr :=
  match cgwAttrLen type with
  | none => some attr
  | some len =>
      if attr.payload.length = len then some attr
      else if type = .srcIf ∨ type = .dstIf then some ⟨type, u32Image 0⟩ else none

/-- The table with every entry read as `sizedAttr` reads it. -/
def sizedTable (tb : AttrTable) : AttrTable := fun type => (tb type).bind (sizedAttr type)

/-! ## The table that `cgw_parse_attr` sees -/

theorem sizedTable_copied {tb : AttrTable} {type : CgwAttrType} {len : Nat} (copied : cgwAttrLen type = some len)
    (notSrc : type ≠ .srcIf) (notDst : type ≠ .dstIf) :
    sizedTable tb type = (tb type).filter fun attr => attr.payload.length = len := by
  unfold sizedTable sizedAttr
  cases tb type with
  | none => rfl
  | some attr => by_cases fits : attr.payload.length = len <;> simp [copied, fits, notSrc, notDst, Option.filter]

theorem sizedTable_interface {tb : AttrTable} {type : CgwAttrType} (interface : type = .srcIf ∨ type = .dstIf) :
    sizedTable tb type = (tb type).map fun attr => if attr.payload.length = 4 then attr else ⟨type, u32Image 0⟩ := by
  have len : cgwAttrLen type = some 4 := by rcases interface with rfl | rfl <;> rfl
  unfold sizedTable sizedAttr
  cases tb type with
  | none => rfl
  | some attr => by_cases fits : attr.payload.length = 4 <;> simp [len, fits, interface]

/-- A sized interface attribute holds the index of the original. -/
theorem ifIndexOf_sized (type : CgwAttrType) (attr : NlAttr) :
    ifIndexOf (if attr.payload.length = 4 then attr else ⟨type, u32Image 0⟩) = ifIndexOf attr := by
  by_cases fits : attr.payload.length = 4 <;> simp [ifIndexOf, fits]

/-- Reading a copied attribute through `sizedTable` changes nothing: the test
`nla_len(...) == len` already drops what `sizedTable` drops. -/
theorem filter_copy {β : Type} (entry : Option NlAttr) (len : Nat) (copy : NlAttr → β) (absent : β) :
    (match entry.filter fun attr => attr.payload.length = len with
      | some attr => if attr.payload.length = len then copy attr else absent
      | none => absent) =
    (match entry with
      | some attr => if attr.payload.length = len then copy attr else absent
      | none => absent) := by
  cases entry with
  | none => rfl
  | some attr => by_cases fits : attr.payload.length = len <;> simp [fits, Option.filter]

theorem acceptedMod_sizedTable (tb : AttrTable) : acceptedMod (sizedTable tb) = acceptedMod tb := by
  funext kind
  unfold acceptedMod
  rw [sizedTable_copied (by cases kind <;> rfl) (by cases kind <;> nofun) (by cases kind <;> nofun)]
  exact filter_copy _ _ _ _

theorem acceptedCsum_sizedTable {size : Nat} (tb : AttrTable) {type : CgwAttrType} (copied : cgwAttrLen type = some size)
    (notSrc : type ≠ .srcIf) (notDst : type ≠ .dstIf) :
    @acceptedCsum size (sizedTable tb) type = acceptedCsum tb type := by
  unfold acceptedCsum
  rw [sizedTable_copied copied notSrc notDst]
  cases tb type with
  | none => rfl
  | some attr => by_cases fits : attr.payload.length = size <;> simp [fits, Option.filter]

theorem csumBlock_sizedTable {size : Nat} (tb : AttrTable) {type : CgwAttrType} (stage : CsumStage size)
    (copied : cgwAttrLen type = some size) (notSrc : type ≠ .srcIf) (notDst : type ≠ .dstIf) :
    csumBlock (sizedTable tb) type stage = csumBlock tb type stage := by
  unfold csumBlock
  rw [acceptedCsum_sizedTable tb copied notSrc notDst]

theorem filterOf_sizedTable (tb : AttrTable) : filterOf (sizedTable tb) = filterOf tb := by
  unfold filterOf
  rw [sizedTable_copied (rfl : cgwAttrLen .filter = some CanFilter.size) nofun nofun]
  exact filter_copy _ _ _ _

theorem cgwParseCanCanGw_sizedTable (tb : AttrTable) : cgwParseCanCanGw (sizedTable tb) = cgwParseCanCanGw tb := by
  unfold cgwParseCanCanGw
  rw [sizedTable_interface (.inl rfl), sizedTable_interface (.inr rfl), filterOf_sizedTable]
  cases tb .srcIf <;> cases tb .dstIf <;> simp only [Option.map, ifIndexOf_sized]

/-- `cgw_parse_attr` returns the same for two requests when the table of the
second is the `sizedTable` of the first. -/
theorem cgwParseAttr_sized {nlh nlh' : NlMsg} {tb : AttrTable} (parsed : nlmsgParse nlh = .ok tb)
    (sized : nlmsgParse nlh' = .ok (sizedTable tb)) : cgwParseAttr header nlh' = cgwParseAttr header nlh := by
  simp only [cgwParseAttr, cgwParseCsum, parsed, sized, bind, Except.bind, acceptedMod_sizedTable, cgwParseCanCanGw_sizedTable,
    csumBlock_sizedTable tb _ (rfl : cgwAttrLen .csXor = some CGW_CS_XOR_LEN) nofun nofun,
    csumBlock_sizedTable tb _ (rfl : cgwAttrLen .csCrc8 = some CGW_CS_CRC8_LEN) nofun nofun]

/-- The successful results of the `CGW_TYPE_CAN_CAN` part. -/
theorem cgwParseCanCanGw_ok {tb : AttrTable} {ccgw : CanCanGw} (parsed : cgwParseCanCanGw tb = .ok ccgw) :
    ∃ src dst, tb .srcIf = some src ∧ tb .dstIf = some dst ∧ ccgw = ⟨filterOf tb, ifIndexOf src, ifIndexOf dst⟩ := by
  unfold cgwParseCanCanGw at parsed
  split at parsed
  · dsimp only at parsed
    split_ifs at parsed <;> cases parsed <;> exact ⟨_, _, ‹_›, ‹_›, rfl⟩
  · cases parsed

/-! ## The handlers -/

section Handlers

variable {nlh nlh' : NlMsg} {tb : AttrTable}

theorem cgwCreateJob_sized (env : CreateEnv) (st : GwState) (parsed : nlmsgParse nlh = .ok tb)
    (sized : nlmsgParse nlh' = .ok (sizedTable tb)) (sameHeader : nlh'.rtcan = nlh.rtcan) :
    cgwCreateJob header env st nlh' = cgwCreateJob header env st nlh := by
  simp only [cgwCreateJob, sameHeader, cgwParseAttr_sized header parsed sized, payloadLen_of_nlmsgParse parsed,
    payloadLen_of_nlmsgParse sized]

theorem cgwRemoveJob_sized (st : GwState) (parsed : nlmsgParse nlh = .ok tb)
    (sized : nlmsgParse nlh' = .ok (sizedTable tb)) (sameHeader : nlh'.rtcan = nlh.rtcan) :
    cgwRemoveJob header st nlh' = cgwRemoveJob header st nlh := by
  simp only [cgwRemoveJob, sameHeader, cgwParseAttr_sized header parsed sized, payloadLen_of_nlmsgParse parsed,
    payloadLen_of_nlmsgParse sized]

end Handlers

/-- The remove-all branch of `cgw_remove_job`: both interface attributes are
present and both read 0. -/
theorem flush_iff {nlh : NlMsg} {tb : AttrTable} {mod : CfMod} {ccgw : CanCanGw} (parsed : nlmsgParse nlh = .ok tb)
    (accepted : cgwParseAttr header nlh = .ok (mod, ccgw)) :
    ccgw.srcIdx = 0 ∧ ccgw.dstIdx = 0 ↔ (tb .srcIf).map ifIndexOf = some 0 ∧ (tb .dstIf).map ifIndexOf = some 0 := by
  obtain ⟨tb', parsed', canCan, -⟩ := cgwParseAttr_ok header accepted
  obtain rfl : tb' = tb := Except.ok.inj (parsed'.symm.trans parsed)
  obtain ⟨src, dst, srcAttr, dstAttr, rfl⟩ := cgwParseCanCanGw_ok canCan
  simp only [srcAttr, dstAttr, Option.map_some', Option.some.injEq]

/-- Attributes of the wrong length are read as `sizedTable` reads them and never
rejected: both handlers return for a request what they return for any request
with the same header whose table is the sized one. A handler that fails leaves
`cgw_list` and the receivers as they were. For a request of family `AF_CAN` and
type `CGW_TYPE_CAN_CAN` that `cgw_parse_attr` accepts, `cgw_remove_job` returns
0 from its remove-all branch exactly when both interface attributes are present
and both read 0, as a 4-byte 0 and a payload of any other length both do, and
otherwise removes the first match or fails. -/
theorem cgwRequest_ignores_missized (env : CreateEnv) (st : GwState) (nlh : NlMsg) :
    ((cgwCreateJob header env st nlh).1 < 0 →
      (cgwCreateJob header env st nlh).2.cgwList = st.cgwList ∧ (cgwCreateJob header env st nlh).2.rx = st.rx) ∧
    ((cgwRemoveJob header st nlh).1 < 0 → (cgwRemoveJob header st nlh).2 = st) ∧
    ∀ tb, nlmsgParse nlh = .ok tb →
      (∀ nlh', nlh'.rtcan = nlh.rtcan → nlmsgParse nlh' = .ok (sizedTable tb) →
        cgwCreateJob header env st nlh' = cgwCreateJob header env st nlh ∧
          cgwRemoveJob header st nlh' = cgwRemoveJob header st nlh) ∧
      ∀ mod ccgw, nlh.rtcan.canFamily = AF_CAN → nlh.rtcan.gwtype = header.cgwTypeCanCan →
        cgwParseAttr header nlh = .ok (mod, ccgw) →
        cgwRemoveJob header st nlh =
          if (tb .srcIf).map ifIndexOf = some 0 ∧ (tb .dstIf).map ifIndexOf = some 0 then (0, cgwRemoveAllJobs st)
          else match cgwRemoveFirst (cgwJobMatches nlh.rtcan.flags mod ccgw) st.cgwList with
            | (none, _) => (-EINVAL, st)
            | (some entry, rest) =>
                (0, ({ st.rxUnregister (rxKey entry) with cgwList := rest }).kmemCacheFree entry.1) := by
  refine ⟨fun failed => ?_, fun failed => ?_, fun tb parsed =>
    ⟨fun nlh' sameHeader sized => ⟨cgwCreateJob_sized header env st parsed sized sameHeader,
      cgwRemoveJob_sized header st parsed sized sameHeader⟩, fun mod ccgw family canCan accepted => ?_⟩⟩
  · rcases cgwCreateJob_cases header env st nlh with ⟨-, unchanged⟩ | ⟨_, -, listed⟩
    · rw [unchanged]
      exact ⟨rfl, rfl⟩
    · rw [listed] at failed
      exact absurd failed (lt_irrefl 0)
  · rcases cgwRemoveJob_cases header st nlh with ⟨-, unchanged⟩ | ⟨_, _, -, ⟨-, -, removed⟩ | ⟨_, _, _, -, -, -, removed⟩⟩
    · exact unchanged
    all_goals rw [removed] at failed; exact absurd failed (lt_irrefl 0)
  · rw [cgwRemoveJob_of_parsed header family canCan accepted]
    exact if_congr (flush_iff header parsed accepted) rfl rfl

/-- Of two `CGW_MOD_AND` attributes, a well-sized one and a three-byte one after
it, `nla_parse` keeps the second, and the request reads as one with no
`CGW_MOD_AND` at all. -/
theorem cgwRequest_ignores_missized_modAnd :
    let attrs : List NlAttr := [⟨.modAnd, (⟨⟨0x7FF, 8, 0, 0xFF⟩, 7⟩ : CgwFrameMod).image⟩, ⟨.modAnd, [1, 2, 3]⟩,
      ⟨.srcIf, u32Image 1⟩, ⟨.dstIf, u32Image 1⟩]
    cgwCreateJob ⟨1, 1, 2, 4, 1, 2⟩ ⟨true, 7, true⟩ (registerNetdevice .loaded GwSystem.init.gw can0) selfRoute =
      cgwCreateJob ⟨1, 1, 2, 4, 1, 2⟩ ⟨true, 7, true⟩ (registerNetdevice .loaded GwSystem.init.gw can0)
        ⟨nlmsgLenOf attrs, ⟨AF_CAN, 1, 0⟩, attrs⟩ := by
  intro attrs
  have sized : nlmsgParse selfRoute = .ok (sizedTable (nlaParse attrs)) := by
    rw [selfRoute, nlmsgParse_of_nlmsgLenOf]
    exact congrArg Except.ok (funext fun type => by cases type <;> rfl)
  exact (((cgwRequest_ignores_missized _ _ _ ⟨nlmsgLenOf attrs, ⟨AF_CAN, 1, 0⟩, attrs⟩).2.2 _
    (nlmsgParse_of_nlmsgLenOf _ _)).1 selfRoute rfl sized).1

/-- A DEL request that names interface 1 with two-byte interface attributes
flushes the registry instead of failing. -/
theorem cgwRemoveJob_flushes_on_short_ifindex :
    let attrs : List NlAttr := [⟨.srcIf, [1, 0]⟩, ⟨.dstIf, [1, 0]⟩]
    (routed selfRoute).gw.cgwList.length = 1 ∧
      (cgwRemoveJob ⟨1, 1, 2, 4, 1, 2⟩ (routed selfRoute).gw ⟨nlmsgLenOf attrs, ⟨AF_CAN, 1, 0⟩, attrs⟩).1 = 0 ∧
      (cgwRemoveJob ⟨1, 1, 2, 4, 1, 2⟩ (routed selfRoute).gw ⟨nlmsgLenOf attrs, ⟨AF_CAN, 1, 0⟩, attrs⟩).2.cgwList =
        [] := by
  decide

end CanGw

