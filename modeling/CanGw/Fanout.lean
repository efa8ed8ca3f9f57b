import CanGw.Rcv

/-!
# One buffer, many jobs

The CAN core hands one received buffer to every receiver registered on its
device, one after the other. Jobs that modify frames work on `skb_copy`, the
others on `skb_clone` and write nothing, so no invocation changes the incoming
frame. What each invocation does is then a function of that frame, its own job
and its own environment (`rcvEffect`), and the order of the receivers changes
nothing but the order of the results.
-/

namespace CanGw

variable (header : GwHeader)

/-- What one invocation does, seen from outside the buffers: the job it leaves
and the destination and frame of the buffer it sends. -/
def rcvEffect (env : RcvEnv) (frame : CanFrame) (skb : SkBuff) (gwj : CgwJob) :
    CgwJob × Option (DevPtr × CanFrame) :=
  if skb.sk = .cgwSkMagic then (gwj, none)
  else if env.dstUp && env.allocOk then
    (if env.sendOk then gwj.countHandled else gwj.countDropped,
      some (gwj.dst, modLoopFrame gwj.mod gwj.calls frame))
  else (gwj.countDropped, none)

/-- The CAN core passing one buffer to each receiver in turn; each receiver is a
job with the environment its invocation meets. -/
def rcvEach (heap : FrameHeap) (skb : SkBuff) :
    List (CgwJob × RcvEnv) → FrameHeap × List (CgwJob × Option (DevPtr × CanFrame))
  | [] => (heap, [])
  | (gwj, env) :: rest =>
      let out := canCanGwRcv header env heap skb gwj
      let after := rcvEach out.heap skb rest
      (after.1, (out.job, out.sent.map fun send => (send.skb.dev, out.heap.read send.skb.data)) :: after.2)

/-- One invocation leaves every existing frame as it was and does what
`rcvEffect` says of the incoming frame. -/
theorem canCanGwRcv_effect (env : RcvEnv) (heap : FrameHeap) (skb : SkBuff) (gwj : CgwJob)
    (inBounds : skb.data < heap.length) :
    let out := canCanGwRcv header env heap skb gwj
    (out.job, out.sent.map fun send => (send.skb.dev, out.heap.read send.skb.data)) =
        rcvEffect env (heap.read skb.data) skb gwj ∧
      heap.length ≤ out.heap.length ∧ ∀ index, index < heap.length → out.heap.read index = heap.read index := by
  by_cases marked : skb.sk = .cgwSkMagic
  · simp [canCanGwRcv_of_marked header env heap gwj marked, rcvEffect, marked]
  by_cases forwarded : env.dstUp = true ∧ env.allocOk = true
  · obtain ⟨⟨send, sent, _, dev, frame⟩, longer, kept, -, job⟩ :=
      canCanGwRcv_of_forward header heap gwj marked forwarded.1 forwarded.2 inBounds
    simp only [sent, Option.map_some', job, dev, frame, rcvEffect, marked, forwarded, if_false,
      Bool.and_self, if_true]
    exact ⟨trivial, longer, kept⟩
  · have failed : env.dstUp = false ∨ env.allocOk = false := by
      cases up : env.dstUp <;> cases ok : env.allocOk <;> simp_all
    simp only [canCanGwRcv_of_failed header heap gwj marked failed, rcvEffect, marked, if_false]
    rcases failed with down | noMemory <;> simp [*]

/-- Over any list of receivers, the incoming frame ends as it began and every
invocation does what `rcvEffect` says of it. -/
theorem rcvEach_eq (heap : FrameHeap) (skb : SkBuff) (jobs : List (CgwJob × RcvEnv))
    (inBounds : skb.data < heap.length) :
    (rcvEach header heap skb jobs).1.read skb.data = heap.read skb.data ∧
      (rcvEach header heap skb jobs).2 =
        jobs.map fun entry => rcvEffect entry.2 (heap.read skb.data) skb entry.1 := by
  induction jobs generalizing heap with
  | nil => simp [rcvEach]
  | cons entry rest inductionHypothesis =>
      obtain ⟨gwj, env⟩ := entry
      obtain ⟨effect, longer, kept⟩ := canCanGwRcv_effect header env heap skb gwj inBounds
      have next := inductionHypothesis (canCanGwRcv header env heap skb gwj).heap
        (Nat.lt_of_lt_of_le inBounds longer)
      rw [kept skb.data inBounds] at next
      exact ⟨next.1, by simp only [rcvEach, effect, next.2, List.map_cons]⟩

/-- The incoming frame is unchanged after every invocation, and for any order of
the receivers the results (each job's counters, each sent destination and
frame) are the same up to that order. -/
theorem rcvEach_order_independent (heap : FrameHeap) (skb : SkBuff)
    (jobs : List (CgwJob × RcvEnv)) (inBounds : skb.data < heap.length) :
    (∀ count, (rcvEach header heap skb (jobs.take count)).1.read skb.data = heap.read skb.data) ∧
      ∀ reordered, reordered.Perm jobs →
        (rcvEach header heap skb reordered).2.Perm (rcvEach header heap skb jobs).2 := by
  refine ⟨fun count => (rcvEach_eq header heap skb _ inBounds).1, fun reordered permuted => ?_⟩
  rw [(rcvEach_eq header heap skb reordered inBounds).2, (rcvEach_eq header heap skb jobs inBounds).2]
  exact permuted.map _

/-- A job that sets the identifier to 0x123 on its way to device 2 and one that
forwards to device 3 unchanged, both receiving the frame in a heap that holds
just it: the first sends the modified frame, the second the incoming one. -/
theorem rcvEach_order_independent_two_jobs :
    let setId : CgwJob := ⟨0, 0, { CfMod.init with
      modframe := ⟨.zero, .zero, .zero, ⟨0x123, 0, 0, 0⟩⟩, modtype := ⟨0, 0, 0, 1⟩,
      modfunc := some .modSetId :: List.replicate 16 none }, 1, 2, ⟨⟨0, 0⟩, 1, 2⟩, 1, 0⟩
    let plain : CgwJob := ⟨0, 0, CfMod.init, 1, 3, ⟨⟨0, 0⟩, 1, 3⟩, 1, 0⟩
    let jobs := [(setId, (⟨true, true, true⟩ : RcvEnv)), (plain, ⟨true, true, true⟩)]
    0 < [CanFrame.zero].length ∧
      (rcvEach ⟨1, 1, 2, 4, 1, 2⟩ [CanFrame.zero] ⟨.other 0, 1, 0, 0⟩ jobs).2.map Prod.snd =
        [some (2, ⟨0x123, 0, 0, 0⟩), some (3, CanFrame.zero)] ∧
      (∀ count, (rcvEach ⟨1, 1, 2, 4, 1, 2⟩ [CanFrame.zero] ⟨.other 0, 1, 0, 0⟩ (jobs.take count)).1.read 0 =
        CanFrame.zero) ∧
      ∀ reordered, reordered.Perm jobs →
        (rcvEach ⟨1, 1, 2, 4, 1, 2⟩ [CanFrame.zero] ⟨.other 0, 1, 0, 0⟩ reordered).2.Perm
          (rcvEach ⟨1, 1, 2, 4, 1, 2⟩ [CanFrame.zero] ⟨.other 0, 1, 0, 0⟩ jobs).2 := by
  intro setId plain jobs
  exact ⟨by decide, by decide,
    rcvEach_order_independent ⟨1, 1, 2, 4, 1, 2⟩ [CanFrame.zero] ⟨.other 0, 1, 0, 0⟩ jobs (by decide)⟩

end CanGw
