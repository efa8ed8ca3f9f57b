import CanGw.Job

/-!
# Netlink messages

A gateway request or response: the `nlmsg_len` field of `struct nlmsghdr`, the
`struct rtcanmsg` family header, and the attributes behind it. An attribute is
its type and payload; its `nla_len` is the payload length plus `NLA_HDRLEN`, and
it occupies `NLA_HDRLEN + NLA_ALIGN(len)` bytes of the message.

`nlmsgParse` is `nlmsg_parse(nlh, sizeof(struct rtcanmsg), tb, CGW_MAX, NULL)`:
it walks the attributes that fit in `nlmsg_len` (`nla_for_each_attr`) and keeps,
per type, the last one (`tb[type] = nla`). With no policy it checks no payload
length, which is why `cgw_parse_attr` compares every `nla_len` itself.
-/

namespace CanGw

/-- `EINVAL`. -/
def EINVAL : Int := 22
/-- `ENOMEM`. -/
def ENOMEM : Int := 12
/-- `ENODEV`. -/
def ENODEV : Int := 19
/-- `EMSGSIZE`. -/
def EMSGSIZE : Int := 90
/-- `EPFNOSUPPORT`. -/
def EPFNOSUPPORT : Int := 96
/-- `AF_CAN`, the address family of a gateway request. -/
def AF_CAN : Byte := 29

/-- Modelled from the spec: the attribute tags of the gateway's wire model
(`MOD_AND` to `HANDLED`/`DROPPED`); `unknown` is any other tag. -/
inductive CgwAttrType
  | modAnd | modOr | modXor | modSet
  | csXor | csCrc8
  | filter
  | srcIf | dstIf
  | handled | dropped
  | unknown (tag : Nat)
  deriving DecidableEq, Repr

/-- The `CGW_MOD_*` attribute of a modification kind. -/
def ModKind.attr : ModKind → CgwAttrType
  | .and => .modAnd
  | .or => .modOr
  | .xor => .modXor
  | .set => .modSet

/-- A netlink attribute: its type and its payload. -/
structure NlAttr where
  type : CgwAttrType
  payload : List Byte
  deriving DecidableEq, Repr

/-- `NLA_HDRLEN`. -/
def NLA_HDRLEN : Nat := 4

/-- `NLA_ALIGN(len)`: rounded up to a multiple of 4. -/
def nlaAlign (len : Nat) : Nat := (len + 3) / 4 * 4

/-- `NLMSG_HDRLEN`. -/
def NLMSG_HDRLEN : Nat := 16

/-- `sizeof(struct rtcanmsg)`, already a multiple of 4. -/
def RTCANMSG_LEN : Nat := 4

/-- `struct rtcanmsg`, the family header of a gateway message. -/
structure RtCanMsg where
  canFamily : Byte
  gwtype : Byte
  flags : BitVec 16
  deriving DecidableEq, Repr

/-- A netlink message of the gateway: `nlmsg_len`, the family header and the
attribute stream behind it. -/
structure NlMsg where
  nlmsgLen : Nat
  rtcan : RtCanMsg
  attrs : List NlAttr
  deriving DecidableEq, Repr

/-- `nlmsg_len(nlh)`: the length of the payload behind the netlink header. -/
def NlMsg.payloadLen (nlh : NlMsg) : Nat := nlh.nlmsgLen - NLMSG_HDRLEN

/-- `nla_for_each_attr` over `rem` bytes: the attributes taken while `nla_ok`
holds, each consuming its aligned length. -/
def nlaWithin : Nat → List NlAttr → List NlAttr
  | _, [] => []
  | rem, attr :: rest =>
      if NLA_HDRLEN + attr.payload.length ≤ rem then
        attr :: nlaWithin (rem - (NLA_HDRLEN + nlaAlign attr.payload.length)) rest
      else []

/-- The table `tb` that `nla_parse` fills. -/
abbrev AttrTable := CgwAttrType → Option NlAttr

/-- `nla_parse` without a policy: per type, the last attribute of that type. -/
def nlaParse (attrs : List NlAttr) : AttrTable :=
  fun type => (attrs.filter (·.type = type)).getLast?

/-- `nlmsg_parse(nlh, sizeof(struct rtcanmsg), tb, CGW_MAX, NULL)`. -/
def nlmsgParse (nlh : NlMsg) : Except Int AttrTable :=
  if nlh.nlmsgLen < NLMSG_HDRLEN + RTCANMSG_LEN then .error (-EINVAL)
  else .ok (nlaParse (nlaWithin (nlh.nlmsgLen - NLMSG_HDRLEN - RTCANMSG_LEN) nlh.attrs))

/-- The bytes an attribute occupies: `NLA_HDRLEN + NLA_ALIGN(nla_len)`. -/
def NlAttr.totalSize (attr : NlAttr) : Nat := NLA_HDRLEN + nlaAlign attr.payload.length

/-- The message length that covers exactly a header and the given attributes. -/
def nlmsgLenOf (attrs : List NlAttr) : Nat :=
  NLMSG_HDRLEN + RTCANMSG_LEN + (attrs.map NlAttr.totalSize).sum

/-- Every attribute is walked when the window covers all of them. -/
theorem nlaWithin_of_sum_le (attrs : List NlAttr) (rem : Nat)
    (fits : (attrs.map NlAttr.totalSize).sum ≤ rem) : nlaWithin rem attrs = attrs := by
  induction attrs generalizing rem with
  | nil => rfl
  | cons attr rest inductionHypothesis =>
      have aligned : attr.payload.length ≤ nlaAlign attr.payload.length := by
        unfold nlaAlign; omega
      simp only [List.map_cons, List.sum_cons, NlAttr.totalSize] at fits
      rw [nlaWithin, if_pos (by omega), inductionHypothesis _ (by omega)]

/-- A message whose length covers exactly its attributes is parsed whole. -/
theorem nlmsgParse_of_nlmsgLenOf (rtcan : RtCanMsg) (attrs : List NlAttr) :
    nlmsgParse ⟨nlmsgLenOf attrs, rtcan, attrs⟩ = .ok (nlaParse attrs) := by
  have window : nlmsgLenOf attrs - NLMSG_HDRLEN - RTCANMSG_LEN = (attrs.map NlAttr.totalSize).sum := by
    unfold nlmsgLenOf; omega
  have long : ¬ nlmsgLenOf attrs < NLMSG_HDRLEN + RTCANMSG_LEN := by unfold nlmsgLenOf; omega
  simp only [nlmsgParse, if_neg long, window, nlaWithin_of_sum_le attrs _ le_rfl]

end CanGw
