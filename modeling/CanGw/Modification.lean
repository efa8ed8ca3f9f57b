import CanGw.System

/-!
# What a job does to a frame

The specification describes a job's modifications as a list of operators read
off the request: for each kind in the order AND, OR, XOR, SET whose `MOD`
attribute is present with a `CGW_MODATTR_LEN` payload, and for each element in
the order ID, DLC, DATA whose bit is set in that attribute's selector, the
element is combined with the operand's element (`SET` copies it), the payload
taken as one 64-bit word. `refOps` is that list and `refApply` applies it; they
follow the specification's words and share only the payload layouts with the
code.

The code gets there another way: `cgw_parse_attr` copies each operand into its
kind's slot with `canframecpy` and fills a table of function pointers, and each
function reads its operand from the slot when `can_can_gw_rcv` calls it.
`modLoopFrame_refOps` proves the two agree, and the last theorem of this
module carries that to every job that `cgw_create_job` adds.
-/

namespace CanGw

variable (header : GwHeader)

/-- One operator of the specification: a kind, an element and the operand. -/
structure ModOp where
  kind : ModKind
  field : ModField
  operand : CanFrame
  deriving DecidableEq, Repr

/-- The specification's operator: `field := field op operand.field`, and for
`SET` `field := operand.field`. -/
def ModOp.apply (op : ModOp) (f : CanFrame) : CanFrame :=
  match op.kind, op.field with
  | .and, .id => { f with canId := f.canId &&& op.operand.canId }
  | .and, .dlc => { f with canDlc := f.canDlc &&& op.operand.canDlc }
  | .and, .data => { f with data := f.data &&& op.operand.data }
  | .or, .id => { f with canId := f.canId ||| op.operand.canId }
  | .or, .dlc => { f with canDlc := f.canDlc ||| op.operand.canDlc }
  | .or, .data => { f with data := f.data ||| op.operand.data }
  | .xor, .id => { f with canId := f.canId ^^^ op.operand.canId }
  | .xor, .dlc => { f with canDlc := f.canDlc ^^^ op.operand.canDlc }
  | .xor, .data => { f with data := f.data ^^^ op.operand.data }
  | .set, .id => { f with canId := op.operand.canId }
  | .set, .dlc => { f with canDlc := op.operand.canDlc }
  | .set, .data => { f with data := op.operand.data }

/-- The specification's operators of one kind: none unless the kind's attribute
is present with `CGW_MODATTR_LEN` bytes, then one per selected element. -/
def refKindOps (tb : AttrTable) (kind : ModKind) : List ModOp :=
  match tb kind.attr with
  | some attr =>
      if attr.payload.length = CGW_MODATTR_LEN then
        let mb := CgwFrameMod.ofImage attr.payload
        ([ModField.id, .dlc, .data].filter fun field => mb.modtype &&& header.modBit field ≠ 0).map
          fun field => ⟨kind, field, mb.cf⟩
      else []
  | none => []

/-- The specification's operator list of a request, kinds in the order AND, OR,
XOR, SET. -/
def refOps (tb : AttrTable) : List ModOp :=
  [ModKind.and, .or, .xor, .set].flatMap (refKindOps header tb)

/-- The operators applied in order. -/
def refApply (ops : List ModOp) (f : CanFrame) : CanFrame := ops.foldl (fun f op => op.apply f) f

/-! ## The code computes the specification's operators -/

/-- The function the code installs for an operator. -/
def ModOp.func (op : ModOp) : ModFunc := ModFunc.of op.kind op.field

theorem ModOp.apply_eq (op : ModOp) (f : CanFrame) : op.apply f = modfuncOp op.kind op.field op.operand f := by
  rcases op with ⟨_ | _ | _ | _, _ | _ | _, _⟩ <;> rfl

/-- A block installs the functions of its kind's operators. -/
theorem blockFuncs_acceptedMod (tb : AttrTable) (kind : ModKind) :
    blockFuncs header kind (acceptedMod tb kind) = (refKindOps header tb kind).map ModOp.func := by
  unfold acceptedMod refKindOps
  cases tb kind.attr with
  | none => rfl
  | some attr =>
      by_cases fits : attr.payload.length = CGW_MODATTR_LEN
      · simp [fits, blockFuncs, selectedFields, Function.comp_def, ModOp.func]
      · simp [fits, blockFuncs]

theorem installed_acceptedMod (tb : AttrTable) :
    installed header (acceptedMod tb) = (refOps header tb).map ModOp.func := by
  simp [installed, refOps, modKinds, blockFuncs_acceptedMod, List.map_flatMap]

/-- The slot of an operator's kind holds a copy of its operand. -/
theorem modframeOf_refOps {tb : AttrTable} {op : ModOp} (member : op ∈ refOps header tb) :
    (modframeOf (acceptedMod tb)).get op.kind = canframecpy .zero op.operand := by
  obtain ⟨kind, -, member⟩ := List.mem_flatMap.mp member
  unfold refKindOps at member
  split at member
  · rename_i attr found
    split_ifs at member with fits
    · obtain ⟨field, -, rfl⟩ := List.mem_map.mp member
      cases kind <;> simp [modframeOf, PerKind.get, frameOf, acceptedMod, found, fits]
    · exact absurd member (List.not_mem_nil _)
  · exact absurd member (List.not_mem_nil _)

/-- The loop over the installed functions computes the specification's
operators, each function reading a copy of its operand from its slot. -/
theorem modLoopFrame_refOps (mod : CfMod) (ops : List ModOp)
    (slots : ∀ op ∈ ops, mod.modframe.get op.kind = canframecpy .zero op.operand) (f : CanFrame) :
    modLoopFrame mod (ops.map ModOp.func) f = refApply ops f := by
  induction ops generalizing f with
  | nil => rfl
  | cons op rest inductionHypothesis =>
      have step : op.func.call f mod = op.apply f := by
        rw [ModFunc.call, ModOp.func, ModFunc.kind_of, ModFunc.field_of,
          slots op (List.mem_cons_self _ _), modfuncOp_canframecpy, ModOp.apply_eq]
      simp only [modLoopFrame, refApply, List.map_cons, List.foldl_cons] at inductionHypothesis ⊢
      rw [step, inductionHypothesis fun other member => slots other (List.mem_cons_of_mem _ member)]

theorem takeSome_map_some_append (funcs : List ModFunc) (nulls : Nat) :
    takeSome (funcs.map some ++ List.replicate nulls none) = funcs := by
  induction funcs with
  | nil => cases nulls <;> rfl
  | cons func rest inductionHypothesis => simp [takeSome, inductionHypothesis]

/-- The loop calls exactly the functions of a contiguous table. -/
theorem takeSome_contiguous {mod : CfMod} {funcs : List ModFunc} (contiguous : Contiguous mod funcs)
    (fits : funcs.length ≤ MAX_MODFUNCTIONS) : takeSome (mod.modfunc.take MAX_MODFUNCTIONS) = funcs := by
  have whole : mod.modfunc.take MAX_MODFUNCTIONS = mod.modfunc := by
    rw [List.take_of_length_le]
    rw [contiguous, List.length_append, List.length_map, List.length_replicate]
    omega
  rw [whole, contiguous, takeSome_map_some_append]

/-! ## Every job `cgw_create_job` adds -/

/-- For a request that `cgw_create_job` accepts, the job it adds holds the
specification's operators in its table from index 0, at most 12 of them and
`NULL` after them, and every invocation that forwards a frame sends the
specification's operators applied to the incoming frame: that is the frame
at the checksum stage, and both checksum functions are empty. -/
theorem cgwCreateJob_modifies_as_reference (env : CreateEnv) (st : GwState) (nlh : NlMsg)
    (accepted : (cgwCreateJob header env st nlh).1 = 0) :
    ∃ gwj tb, nlmsgParse nlh = .ok tb ∧
      (cgwCreateJob header env st nlh).2.cgwList = (env.addr, gwj) :: st.cgwList ∧
      (refOps header tb).length ≤ 12 ∧
      gwj.mod.modfunc = (refOps header tb).map (fun op => some (ModFunc.of op.kind op.field)) ++
        List.replicate (MAX_MODFUNCTIONS - (refOps header tb).length) none ∧
      ∀ (rcvEnv : RcvEnv) (heap : FrameHeap) (skb : SkBuff), skb.sk ≠ .cgwSkMagic →
        rcvEnv.dstUp = true → rcvEnv.allocOk = true → skb.data < heap.length →
        ∃ send, (canCanGwRcv header rcvEnv heap skb gwj).sent = some send ∧ send.skb.dev = gwj.dst ∧
          (canCanGwRcv header rcvEnv heap skb gwj).heap.read send.skb.data =
            refApply (refOps header tb) (heap.read skb.data) := by
  rcases cgwCreateJob_cases header env st nlh with ⟨negative, -⟩ | ⟨gwj, created, listed⟩
  · omega
  obtain ⟨tb, tableOk, slots, -, contiguous⟩ := cgwParseAttr_ok_mod header created.parsed
  rw [installed_acceptedMod] at contiguous
  have short : (refOps header tb).length ≤ 12 := by
    simpa [installed_acceptedMod] using length_installed_le header (acceptedMod tb)
  have calls : gwj.calls = (refOps header tb).map ModOp.func :=
    takeSome_contiguous contiguous (by simp [MAX_MODFUNCTIONS]; omega)
  refine ⟨gwj, tb, tableOk, by rw [listed], short, by simpa [Contiguous, List.map_map] using contiguous,
    fun rcvEnv heap skb unmarked up allocated inBounds => ?_⟩
  obtain ⟨⟨send, sent, -, toDst, frame⟩, -⟩ :=
    canCanGwRcv_of_forward header heap gwj unmarked up allocated inBounds
  refine ⟨send, sent, toDst, ?_⟩
  rw [frame, calls, modLoopFrame_refOps]
  intro op member
  rw [slots, modframeOf_refOps header member]

/-- `andRoute` installs three functions: the AND of the identifier, the length
and the data. -/
theorem cgwCreateJob_modifies_as_reference_andRoute :
    let st := registerNetdevice .loaded GwSystem.init.gw can0
    (cgwCreateJob ⟨1, 1, 2, 4, 1, 2⟩ ⟨true, 7, true⟩ st andRoute).1 = 0 ∧
    ((cgwCreateJob ⟨1, 1, 2, 4, 1, 2⟩ ⟨true, 7, true⟩ st andRoute).2.cgwList.map fun entry => entry.2.calls.length) =
      [3] ∧
    ∃ gwj tb, nlmsgParse andRoute = .ok tb ∧
      (cgwCreateJob ⟨1, 1, 2, 4, 1, 2⟩ ⟨true, 7, true⟩ st andRoute).2.cgwList = (7, gwj) :: st.cgwList ∧
      (refOps ⟨1, 1, 2, 4, 1, 2⟩ tb).length ≤ 12 ∧
      gwj.mod.modfunc = (refOps ⟨1, 1, 2, 4, 1, 2⟩ tb).map (fun op => some (ModFunc.of op.kind op.field)) ++
        List.replicate (MAX_MODFUNCTIONS - (refOps ⟨1, 1, 2, 4, 1, 2⟩ tb).length) none ∧
      ∀ (rcvEnv : RcvEnv) (heap : FrameHeap) (skb : SkBuff), skb.sk ≠ .cgwSkMagic →
        rcvEnv.dstUp = true → rcvEnv.allocOk = true → skb.data < heap.length →
        ∃ send, (canCanGwRcv ⟨1, 1, 2, 4, 1, 2⟩ rcvEnv heap skb gwj).sent = some send ∧
          send.skb.dev = gwj.dst ∧
          (canCanGwRcv ⟨1, 1, 2, 4, 1, 2⟩ rcvEnv heap skb gwj).heap.read send.skb.data =
            refApply (refOps ⟨1, 1, 2, 4, 1, 2⟩ tb) (heap.read skb.data) := by
  intro st
  have accepted : (cgwCreateJob ⟨1, 1, 2, 4, 1, 2⟩ ⟨true, 7, true⟩ st andRoute).1 = 0 := by decide
  exact ⟨accepted, by decide, cgwCreateJob_modifies_as_reference _ _ _ _ accepted⟩

end CanGw
