import CanGw.Parse

/-!
# The receive path

`can_can_gw_rcv`, the function the CAN core calls for every frame a job's filter
accepts. A buffer is a header (`SkBuff`) pointing at a frame in `FrameHeap`:
`skb_clone` makes a new header on the same frame, `skb_copy` a new header on a
fresh copy. The modification loop and the checksum stage write through
`nskb->data`, so whether they can reach the incoming buffer's frame is a
question about which index they write, and `canCanGwRcv_spec` answers it.

The checksum functions `cgw_csum_do_xor` and `cgw_csum_do_crc8` are empty in the
source (`TODO: perform checksum update`) and are modelled as such.

`rcvRun` is a sequence of invocations on one job. Each invocation counts one
frame, handled or dropped, unless its buffer is marked (`canCanGwRcv_counts`),
so over a run the 32-bit counters follow the successful `can_send` calls and
the unmarked buffers (`rcvRun_counters`).
-/

namespace CanGw

variable (header : GwHeader)

/-- The `sk` pointer of a buffer: `CGW_SK_MAGIC` (the address of the module's
notifier block) or any other owner. -/
inductive SkOwner
  | cgwSkMagic
  | other (owner : Nat)
  deriving DecidableEq, Repr

/-- The frame buffers; a buffer's `data` indexes this list. -/
abbrev FrameHeap := List CanFrame

/-- The frame stored at an index. -/
def FrameHeap.read (heap : FrameHeap) (index : Nat) : CanFrame := heap.getD index .zero

/-- Apply a function to the frame at `buf`, as `(*modfunc)(cf, mod)` does. -/
def FrameHeap.apply (heap : FrameHeap) (buf : Nat) (func : CanFrame → CanFrame) : FrameHeap :=
  heap.set buf (func (heap.read buf))

namespace FrameHeap

@[simp] theorem length_apply (heap : FrameHeap) (buf : Nat) (func : CanFrame → CanFrame) :
    (heap.apply buf func).length = heap.length := List.length_set ..

theorem read_apply_self {heap : FrameHeap} {buf : Nat} (func : CanFrame → CanFrame)
    (inBounds : buf < heap.length) : (heap.apply buf func).read buf = func (heap.read buf) := by
  simp [apply, read, List.getD_eq_getElem?_getD, List.getElem?_set, inBounds]

theorem read_apply_of_ne {heap : FrameHeap} {buf index : Nat} (func : CanFrame → CanFrame)
    (different : index ≠ buf) : (heap.apply buf func).read index = heap.read index := by
  simp [apply, read, List.getD_eq_getElem?_getD, List.getElem?_set, different.symm]

/-- Writing back the frame that is already there changes nothing. -/
theorem apply_read (heap : FrameHeap) (buf : Nat) : heap.apply buf (fun cf => cf) = heap := by
  apply List.ext_getElem?
  intro index
  by_cases same : buf = index
  · subst same
    by_cases inBounds : buf < heap.length
    · simp [apply, read, List.getD_eq_getElem?_getD, List.getElem?_set, inBounds]
    · simp [apply, List.set_eq_of_length_le (Nat.le_of_not_lt inBounds)]
  · simp [apply, List.getElem?_set, same]

theorem read_append_of_lt {heap : FrameHeap} {index : Nat} (rest : FrameHeap)
    (inBounds : index < heap.length) : (heap ++ rest).read index = heap.read index := by
  simp [read, List.getD_eq_getElem?_getD, List.getElem?_append_left inBounds]

@[simp] theorem read_append_length (heap : FrameHeap) (cf : CanFrame) :
    (heap ++ [cf]).read heap.length = cf := by
  simp [read, List.getD_eq_getElem?_getD]

end FrameHeap

/-- The members of `struct sk_buff` the gateway uses: owner, device, timestamp
and the frame it points at. -/
structure SkBuff where
  sk : SkOwner
  dev : DevPtr
  tstamp : BitVec 64
  data : Nat
  deriving DecidableEq, Repr

/-- What the environment decides in one invocation: `IFF_UP` on the destination,
whether `skb_copy`/`skb_clone` return a buffer, and whether `can_send` returns 0. -/
structure RcvEnv where
  dstUp : Bool
  allocOk : Bool
  sendOk : Bool
  deriving DecidableEq, Repr

/-- A call `can_send(nskb, gwj->flags & CGW_FLAGS_CAN_ECHO)`. -/
structure CanSend where
  skb : SkBuff
  echo : Bool
  deriving DecidableEq, Repr

/-- `skb_clone`: a new header on the same frame. -/
def skbClone (skb : SkBuff) : SkBuff := skb

/-- `skb_copy`: a new header on a fresh copy of the frame. -/
def skbCopy (heap : FrameHeap) (skb : SkBuff) : FrameHeap × SkBuff :=
  (heap ++ [heap.read skb.data], { skb with data := heap.length })

/-- The `while` loop over `modfunc[0 .. MAX_MODFUNCTIONS)`: call each function up
to the first `NULL`, counting calls in `modidx`. -/
def cgwModLoop (mod : CfMod) (buf : Nat) : List (Option ModFunc) → Nat → FrameHeap → Nat × FrameHeap
  | some func :: rest, modidx, heap =>
      cgwModLoop mod buf rest (modidx + 1) (heap.apply buf (func.call · mod))
  | _, modidx, heap => (modidx, heap)

/-- `cgw_csum_do_xor`, empty in the source. -/
def cgwCsumDoXor (cf : CanFrame) (_xor : CgwCsumXor) : CanFrame := cf

/-- `cgw_csum_do_crc8`, empty in the source. -/
def cgwCsumDoCrc8 (cf : CanFrame) (_crc8 : CgwCsumCrc8) : CanFrame := cf

/-- The checksum stage after a modification: each enabled stage in the order XOR, CRC8. -/
def cgwCsumStage (mod : CfMod) (buf : Nat) (heap : FrameHeap) : FrameHeap :=
  let heap :=
    if mod.csum.xor.fromIdx ≠ CGW_CS_DISABLED then heap.apply buf (cgwCsumDoXor · mod.csum.xor)
    else heap
  if mod.csum.crc8.fromIdx ≠ CGW_CS_DISABLED then heap.apply buf (cgwCsumDoCrc8 · mod.csum.crc8)
  else heap

namespace CgwJob

/-- `gwj->dropped_frames++`, wrapping at 2^32. -/
def countDropped (gwj : CgwJob) : CgwJob := { gwj with droppedFrames := gwj.droppedFrames + 1 }

/-- `gwj->handled_frames++`, wrapping at 2^32. -/
def countHandled (gwj : CgwJob) : CgwJob := { gwj with handledFrames := gwj.handledFrames + 1 }

end CgwJob

/-- The result of one invocation: the job with its counters, the frame buffers,
and the `can_send` call, if one was made. -/
structure RcvOut where
  job : CgwJob
  heap : FrameHeap
  sent : Option CanSend

/-- Step 3: `skb_copy` when `modfunc[0]` is set, `skb_clone` otherwise. -/
def cgwCloneOrCopy (gwj : CgwJob) (heap : FrameHeap) (skb : SkBuff) : FrameHeap × SkBuff :=
  if (gwj.mod.modfunc.headD none).isSome then skbCopy heap skb else (heap, skbClone skb)

/-- Steps 4 to 6 on the new buffer: mark it, point it at the destination, run
the modification loop and the checksum stage, clear the timestamp unless
`CGW_FLAGS_CAN_SRC_TSTAMP` is set. -/
def cgwPrepare (gwj : CgwJob) (buffer : FrameHeap × SkBuff) : FrameHeap × SkBuff :=
  let nskb := { buffer.2 with sk := .cgwSkMagic, dev := gwj.dst }
  let (modidx, heap) :=
    cgwModLoop gwj.mod nskb.data (gwj.mod.modfunc.take MAX_MODFUNCTIONS) 0 buffer.1
  let heap := if modidx ≠ 0 then cgwCsumStage gwj.mod nskb.data heap else heap
  let nskb :=
    if gwj.flags &&& header.cgwFlagsCanSrcTstamp = 0 then { nskb with tstamp := 0 } else nskb
  (heap, nskb)

/-- Step 7: `can_send` the buffer and count its result. -/
def cgwSend (env : RcvEnv) (gwj : CgwJob) (buffer : FrameHeap × SkBuff) : RcvOut :=
  let send : CanSend := ⟨buffer.2, gwj.flags &&& header.cgwFlagsCanEcho ≠ 0⟩
  if env.sendOk then ⟨gwj.countHandled, buffer.1, some send⟩
  else ⟨gwj.countDropped, buffer.1, some send⟩

/-- `can_can_gw_rcv(skb, gwj)`. -/
def canCanGwRcv (env : RcvEnv) (heap : FrameHeap) (skb : SkBuff) (gwj : CgwJob) : RcvOut :=
  if skb.sk = .cgwSkMagic then ⟨gwj, heap, none⟩
  else if !env.dstUp then ⟨gwj.countDropped, heap, none⟩
  else if !env.allocOk then ⟨gwj.countDropped, heap, none⟩
  else cgwSend header env gwj (cgwPrepare header gwj (cgwCloneOrCopy gwj heap skb))

@[simp] theorem cgwSend_heap (env : RcvEnv) (gwj : CgwJob) (buffer : FrameHeap × SkBuff) :
    (cgwSend header env gwj buffer).heap = buffer.1 := by
  unfold cgwSend; split <;> rfl

@[simp] theorem cgwSend_sent (env : RcvEnv) (gwj : CgwJob) (buffer : FrameHeap × SkBuff) :
    (cgwSend header env gwj buffer).sent =
      some ⟨buffer.2, gwj.flags &&& header.cgwFlagsCanEcho ≠ 0⟩ := by
  unfold cgwSend; split <;> rfl

@[simp] theorem cgwSend_job (env : RcvEnv) (gwj : CgwJob) (buffer : FrameHeap × SkBuff) :
    (cgwSend header env gwj buffer).job =
      if env.sendOk then gwj.countHandled else gwj.countDropped := by
  unfold cgwSend; split <;> simp_all

/-! ## One invocation -/

/-- The functions the loop calls: the table's entries up to the first `NULL`. -/
def takeSome : List (Option ModFunc) → List ModFunc
  | some func :: rest => func :: takeSome rest
  | _ => []

/-- The frame the loop leaves: each called function applied in order. -/
def modLoopFrame (mod : CfMod) (funcs : List ModFunc) (cf : CanFrame) : CanFrame :=
  funcs.foldl (fun cf func => func.call cf mod) cf

/-- The loop calls the functions up to the first `NULL`, writes only the frame
at `buf`, and leaves there what they compute in order. -/
theorem cgwModLoop_spec (mod : CfMod) (buf : Nat) (slots : List (Option ModFunc)) (modidx : Nat)
    (heap : FrameHeap) (inBounds : buf < heap.length) :
    let result := cgwModLoop mod buf slots modidx heap
    result.1 = modidx + (takeSome slots).length ∧ result.2.length = heap.length ∧
      result.2.read buf = modLoopFrame mod (takeSome slots) (heap.read buf) ∧
      ∀ index, index ≠ buf → result.2.read index = heap.read index := by
  induction slots generalizing modidx heap with
  | nil => simp [cgwModLoop, takeSome, modLoopFrame]
  | cons slot rest inductionHypothesis =>
      cases slot with
      | none => simp [cgwModLoop, takeSome, modLoopFrame]
      | some func =>
          have next := inductionHypothesis (modidx + 1) (heap.apply buf (func.call · mod))
            (by simpa using inBounds)
          simp only [cgwModLoop, takeSome, List.length_cons, modLoopFrame, List.foldl_cons] at next ⊢
          refine ⟨by omega, by simpa using next.2.1, ?_, fun index different => ?_⟩
          · rw [next.2.2.1, FrameHeap.read_apply_self _ inBounds]
          · rw [next.2.2.2 index different, FrameHeap.read_apply_of_ne _ different]

/-- The checksum functions are empty, so the checksum stage changes no frame. -/
@[simp] theorem cgwCsumStage_eq (mod : CfMod) (buf : Nat) (heap : FrameHeap) :
    cgwCsumStage mod buf heap = heap := by
  simp only [cgwCsumStage, cgwCsumDoXor, cgwCsumDoCrc8, FrameHeap.apply_read, ite_self]

/-- The functions an invocation calls on a job's frame. -/
def CgwJob.calls (gwj : CgwJob) : List ModFunc := takeSome (gwj.mod.modfunc.take MAX_MODFUNCTIONS)

/-- The calls are empty exactly when `modfunc[0]` is `NULL`. -/
theorem CgwJob.calls_eq_nil_iff (gwj : CgwJob) :
    gwj.calls = [] ↔ (gwj.mod.modfunc.headD none).isSome = false := by
  rcases gwj with ⟨_, _, ⟨_, _, _ | ⟨_ | _, _⟩, _⟩, _, _, _, _, _⟩ <;>
    simp [CgwJob.calls, takeSome, MAX_MODFUNCTIONS]

/-- Steps 4 to 6 on a buffer whose frame is in the heap: the new header is
marked and sent to the destination, and the frame it points at is the
modification loop's result; no other frame changes. -/
theorem cgwPrepare_spec (gwj : CgwJob) (heap : FrameHeap) (nskb : SkBuff)
    (inBounds : nskb.data < heap.length) :
    let result := cgwPrepare header gwj (heap, nskb)
    result.2.sk = .cgwSkMagic ∧ result.2.dev = gwj.dst ∧ result.2.data = nskb.data ∧
      result.1.length = heap.length ∧
      result.1.read nskb.data = modLoopFrame gwj.mod gwj.calls (heap.read nskb.data) ∧
      ∀ index, index ≠ nskb.data → result.1.read index = heap.read index := by
  have loop := cgwModLoop_spec gwj.mod nskb.data (gwj.mod.modfunc.take MAX_MODFUNCTIONS) 0 heap
    inBounds
  simp only [cgwPrepare, cgwCsumStage_eq, ite_self]
  split_ifs <;> exact ⟨rfl, rfl, rfl, loop.2.1, loop.2.2.1, loop.2.2.2⟩

theorem cgwModLoop_of_takeSome_eq_nil (mod : CfMod) (buf : Nat) {slots : List (Option ModFunc)}
    (modidx : Nat) (heap : FrameHeap) (empty : takeSome slots = []) :
    cgwModLoop mod buf slots modidx heap = (modidx, heap) := by
  rcases slots with _ | ⟨_ | _, _⟩ <;> simp_all [cgwModLoop, takeSome]

/-- A buffer this module already routed is ignored: nothing is counted, copied
or sent. -/
theorem canCanGwRcv_of_marked (env : RcvEnv) (heap : FrameHeap) {skb : SkBuff} (gwj : CgwJob)
    (marked : skb.sk = .cgwSkMagic) : canCanGwRcv header env heap skb gwj = ⟨gwj, heap, none⟩ := by
  simp [canCanGwRcv, marked]

/-- A destination that is down or a failed allocation counts one drop and sends
nothing. -/
theorem canCanGwRcv_of_failed {env : RcvEnv} (heap : FrameHeap) {skb : SkBuff} (gwj : CgwJob)
    (unmarked : skb.sk ≠ .cgwSkMagic) (failed : env.dstUp = false ∨ env.allocOk = false) :
    canCanGwRcv header env heap skb gwj = ⟨gwj.countDropped, heap, none⟩ := by
  rcases failed with down | noMemory <;> simp [canCanGwRcv, unmarked, *]

/-- Otherwise the invocation makes one `can_send` call, on a marked buffer for the
destination whose frame is the loop's result on the incoming frame, and counts
its outcome. No frame that existed before changes, and none at all when
`modfunc[0]` is `NULL`. -/
theorem canCanGwRcv_of_forward {env : RcvEnv} (heap : FrameHeap) {skb : SkBuff} (gwj : CgwJob)
    (unmarked : skb.sk ≠ .cgwSkMagic) (up : env.dstUp = true) (allocated : env.allocOk = true)
    (inBounds : skb.data < heap.length) :
    let out := canCanGwRcv header env heap skb gwj
    (∃ send, out.sent = some send ∧ send.skb.sk = .cgwSkMagic ∧ send.skb.dev = gwj.dst ∧
        out.heap.read send.skb.data = modLoopFrame gwj.mod gwj.calls (heap.read skb.data)) ∧
      heap.length ≤ out.heap.length ∧
      (∀ index, index < heap.length → out.heap.read index = heap.read index) ∧
      (gwj.calls = [] → out.heap = heap) ∧
      out.job = if env.sendOk then gwj.countHandled else gwj.countDropped := by
  have forward : canCanGwRcv header env heap skb gwj =
      cgwSend header env gwj (cgwPrepare header gwj (cgwCloneOrCopy gwj heap skb)) := by
    simp [canCanGwRcv, unmarked, up, allocated]
  simp only [forward, cgwSend_heap, cgwSend_sent, cgwSend_job, Option.some.injEq, exists_eq_left',
    and_true]
  by_cases copied : (gwj.mod.modfunc.headD none).isSome = true
  · have someCalls : gwj.calls ≠ [] := fun noCalls => by
      rw [CgwJob.calls_eq_nil_iff] at noCalls
      simp_all
    have prepared := cgwPrepare_spec header gwj (heap ++ [heap.read skb.data])
      { skb with data := heap.length } (by simp)
    simp only [cgwCloneOrCopy, copied, if_true, skbCopy] at prepared ⊢
    refine ⟨⟨prepared.1, prepared.2.1, ?_⟩, by simp [prepared.2.2.2.1], fun index inHeap => ?_,
      fun noCalls => absurd noCalls someCalls⟩
    · simpa [prepared.2.2.1] using prepared.2.2.2.2.1
    · rw [prepared.2.2.2.2.2 index (Nat.ne_of_lt inHeap), FrameHeap.read_append_of_lt _ inHeap]
  · have noCalls : gwj.calls = [] := by rwa [CgwJob.calls_eq_nil_iff, ← Bool.not_eq_true]
    have prepared := cgwPrepare_spec header gwj heap (skbClone skb) inBounds
    have unchanged : (cgwPrepare header gwj (heap, skbClone skb)).1 = heap := by
      simp [cgwPrepare, cgwModLoop_of_takeSome_eq_nil _ _ _ _ (show takeSome _ = [] from noCalls)]
    simp only [cgwCloneOrCopy, copied, if_false, Bool.false_eq_true] at prepared ⊢
    refine ⟨⟨prepared.1, prepared.2.1, ?_⟩, by rw [unchanged], fun index _ => by rw [unchanged],
      fun _ => unchanged⟩
    rw [prepared.2.2.1, unchanged, noCalls]
    rfl

/-! ## Runs of invocations on one job -/

/-- Invocations of `can_can_gw_rcv` on one job, one after another, each with the
environment it meets and the buffer the CAN core passes. The result is the job
and the `can_send` calls made, each with whether it returned 0. -/
def rcvRun (heap : FrameHeap) (gwj : CgwJob) : List (RcvEnv × SkBuff) → CgwJob × List (CanSend × Bool)
  | [] => (gwj, [])
  | (env, skb) :: rest =>
      let out := canCanGwRcv header env heap skb gwj
      let after := rcvRun out.heap out.job rest
      (after.1, (out.sent.map fun send => (send, env.sendOk)).toList ++ after.2)

/-- One invocation: a marked buffer changes nothing; any other counts a handled
frame exactly when `can_send` was called and returned 0 and a dropped frame
otherwise, and the one buffer it can send is the clone or copy it prepared. -/
theorem canCanGwRcv_counts (env : RcvEnv) (heap : FrameHeap) (skb : SkBuff) (gwj : CgwJob) :
    let out := canCanGwRcv header env heap skb gwj
    (skb.sk = .cgwSkMagic → out.job = gwj ∧ out.sent = none) ∧
      (skb.sk ≠ .cgwSkMagic →
        out.job = (if out.sent.isSome && env.sendOk then gwj.countHandled else gwj.countDropped) ∧
        ∀ send ∈ out.sent, send.skb = (cgwPrepare header gwj (cgwCloneOrCopy gwj heap skb)).2) := by
  refine ⟨fun marked => by simp [canCanGwRcv_of_marked header env heap gwj marked], fun unmarked => ?_⟩
  by_cases forwarded : env.dstUp = true ∧ env.allocOk = true
  · have forward : canCanGwRcv header env heap skb gwj =
        cgwSend header env gwj (cgwPrepare header gwj (cgwCloneOrCopy gwj heap skb)) := by
      simp [canCanGwRcv, unmarked, forwarded.1, forwarded.2]
    simp [forward]
  · have failed : env.dstUp = false ∨ env.allocOk = false := by
      cases up : env.dstUp <;> cases ok : env.allocOk <;> simp_all
    simp [canCanGwRcv_of_failed header heap gwj unmarked failed]

/-- The `can_send` calls of one invocation that returned 0. -/
theorem countP_sent (sent : Option CanSend) (ok : Bool) :
    (sent.map fun send => (send, ok)).toList.countP (·.2) = if sent.isSome && ok then 1 else 0 := by
  cases sent <;> cases ok <;> rfl

/-- One invocation in numbers: the handled counter moves by the `can_send` call
that returned 0, if any, and the two counters together by one exactly when the
buffer is unmarked. -/
theorem canCanGwRcv_counters (env : RcvEnv) (heap : FrameHeap) (skb : SkBuff) (gwj : CgwJob) :
    let out := canCanGwRcv header env heap skb gwj
    out.job.handledFrames = gwj.handledFrames + BitVec.ofNat 32 (if out.sent.isSome && env.sendOk then 1 else 0) ∧
      out.job.handledFrames + out.job.droppedFrames =
        gwj.handledFrames + gwj.droppedFrames + BitVec.ofNat 32 (if skb.sk ≠ .cgwSkMagic then 1 else 0) := by
  obtain ⟨ofMarked, ofUnmarked⟩ := canCanGwRcv_counts header env heap skb gwj
  dsimp only
  by_cases marked : skb.sk = .cgwSkMagic
  · obtain ⟨job, sent⟩ := ofMarked marked
    simp [job, sent, marked]
  · rw [(ofUnmarked marked).1]
    generalize ((canCanGwRcv header env heap skb gwj).sent.isSome && env.sendOk) = handled
    cases handled <;> simp [marked, CgwJob.countHandled, CgwJob.countDropped] <;> bv_omega

/-- Over a run, the handled counter moves by the successful `can_send` calls and
the two counters together by the unmarked invocations, modulo 2^32. -/
theorem rcvRun_counters (heap : FrameHeap) (gwj : CgwJob) (inputs : List (RcvEnv × SkBuff)) :
    let run := rcvRun header heap gwj inputs
    run.1.handledFrames = gwj.handledFrames + BitVec.ofNat 32 (run.2.countP (·.2)) ∧
      run.1.handledFrames + run.1.droppedFrames = gwj.handledFrames + gwj.droppedFrames +
        BitVec.ofNat 32 (inputs.countP fun input => input.2.sk ≠ .cgwSkMagic) := by
  induction inputs generalizing heap gwj with
  | nil => simp [rcvRun]
  | cons input rest inductionHypothesis =>
      obtain ⟨env, skb⟩ := input
      obtain ⟨handled, total⟩ := inductionHypothesis (canCanGwRcv header env heap skb gwj).heap
        (canCanGwRcv header env heap skb gwj).job
      obtain ⟨handledOne, totalOne⟩ := canCanGwRcv_counters header env heap skb gwj
      simp only [rcvRun, List.countP_append, List.countP_cons, countP_sent, decide_eq_true_eq] at handled total ⊢
      rw [total, totalOne, handled, handledOne]
      refine ⟨?_, ?_⟩
      · rw [BitVec.ofNat_add, BitVec.add_assoc]
      · rw [Nat.add_comm, BitVec.ofNat_add, BitVec.add_assoc]

/-- Every invocation of `can_can_gw_rcv` on a job leaves its counters as the
frames it handled and dropped say, and over any run of invocations, from any
counters, the handled counter grows by the `can_send` calls that returned 0 and
the two together by the invocations on unmarked buffers, both modulo 2^32. -/
theorem canCanGwRcv_counter_accounting (gwj : CgwJob) :
    (∀ env heap skb,
      let out := canCanGwRcv header env heap skb gwj
      (skb.sk = .cgwSkMagic → out.job = gwj ∧ out.sent = none) ∧
        (skb.sk ≠ .cgwSkMagic →
          out.job = (if out.sent.isSome && env.sendOk then gwj.countHandled else gwj.countDropped) ∧
          ∀ send ∈ out.sent, send.skb = (cgwPrepare header gwj (cgwCloneOrCopy gwj heap skb)).2)) ∧
      ∀ heap inputs,
        let run := rcvRun header heap gwj inputs
        run.1.handledFrames = gwj.handledFrames + BitVec.ofNat 32 (run.2.countP (·.2)) ∧
          run.1.handledFrames + run.1.droppedFrames = gwj.handledFrames + gwj.droppedFrames +
            BitVec.ofNat 32 (inputs.countP fun input => input.2.sk ≠ .cgwSkMagic) :=
  ⟨fun env heap skb => canCanGwRcv_counts header env heap skb gwj,
    fun heap inputs => rcvRun_counters header heap gwj inputs⟩

end CanGw
