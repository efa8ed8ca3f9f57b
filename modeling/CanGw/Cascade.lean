import CanGw.System
import Mathlib.Logic.Relation
import Mathlib.Algebra.BigOperators.Group.List

/-!
# The cascade of one external frame

`can_send` hands a buffer back to the CAN core, which may deliver it again, with
its `sk` kept, to the receivers on the buffer's device: a local echo, or the
loopback of the device. With a job from a device to itself, or jobs that form a
cycle of devices, such a delivery reaches the gateway again. `can_can_gw_rcv`
marks every buffer it sends with `CGW_SK_MAGIC` and ignores a marked buffer, so
an external frame on a device is forwarded at most once by each receiver
registered there, and by nothing else.

`CascadeStep` lets the core call the next receiver of any buffer in flight, in
any interleaving, and deliver each sent buffer again any number of times. Which
receivers a frame passes is the CAN core's filter matching, which is not in the
source; it is the parameter `accepts`. The registry is any `GwState`.
-/

namespace CanGw

variable (header : GwHeader) (accepts : RxEntry → CanFrame → Bool) (rx : List RxEntry)

/-- A buffer the CAN core is handing to the receivers of its device, with the
jobs it has still to call. -/
structure Delivery where
  skb : SkBuff
  receivers : List JobPtr

/-- The jobs of the receivers on a buffer's device whose filter its frame passes. -/
def receiversFor (heap : FrameHeap) (skb : SkBuff) : List JobPtr :=
  (rx.filter fun entry => entry.dev = skb.dev && accepts entry (heap.read skb.data)).map RxEntry.job

/-- The job a receiver entry names. -/
def GwState.jobAt (st : GwState) (ptr : JobPtr) : Option CgwJob := st.cgwList.lookup ptr

/-- The gateway and the CAN core while frames are handled: the frames, the jobs
with their counters, the buffers in flight, and each `can_send` call made so
far with the job that made it. -/
structure Cascade where
  heap : FrameHeap
  jobs : JobPtr → Option CgwJob
  inFlight : List Delivery
  sends : List (JobPtr × CanSend)

/-- An external buffer arrives: the core starts delivering it on its device. -/
def Cascade.start (jobs : JobPtr → Option CgwJob) (heap : FrameHeap) (skb : SkBuff) : Cascade :=
  ⟨heap, jobs, [⟨skb, receiversFor accepts rx heap skb⟩], []⟩

/-- The core calls job `gwj` at `ptr` on the buffer `skb`, whose receivers
`rest` are still to come; a buffer the call sends is delivered again `copies`
times. -/
def Cascade.call (bus : Cascade) (before after : List Delivery) (skb : SkBuff) (ptr : JobPtr)
    (rest : List JobPtr) (gwj : CgwJob) (env : RcvEnv) (copies : Nat) : Cascade :=
  let out := canCanGwRcv header env bus.heap skb gwj
  ⟨out.heap, Function.update bus.jobs ptr (some out.job),
    before ++ ⟨skb, rest⟩ :: after ++
      out.sent.toList.flatMap fun send => List.replicate copies ⟨send.skb, receiversFor accepts rx out.heap send.skb⟩,
    bus.sends ++ out.sent.toList.map (ptr, ·)⟩

/-- One step of the CAN core, on any buffer in flight. -/
inductive CascadeStep : Cascade → Cascade → Prop
  /-- The next receiver of a buffer is called. -/
  | call {bus : Cascade} {before after : List Delivery} {skb : SkBuff} {ptr : JobPtr} {rest : List JobPtr}
      {gwj : CgwJob} (env : RcvEnv) (copies : Nat) (next : bus.inFlight = before ++ ⟨skb, ptr :: rest⟩ :: after)
      (found : bus.jobs ptr = some gwj) :
      CascadeStep bus (bus.call header accepts rx before after skb ptr rest gwj env copies)
  /-- A buffer that has reached all its receivers leaves. -/
  | finish {bus : Cascade} {before after : List Delivery} {skb : SkBuff}
      (next : bus.inFlight = before ++ ⟨skb, []⟩ :: after) :
      CascadeStep bus { bus with inFlight := before ++ after }

/-! ## One invocation -/

theorem cgwPrepare_sk (gwj : CgwJob) (buffer : FrameHeap × SkBuff) :
    (cgwPrepare header gwj buffer).2.sk = .cgwSkMagic := by
  simp only [cgwPrepare]
  split_ifs <;> rfl

/-- Every buffer `can_can_gw_rcv` sends is marked. -/
theorem canCanGwRcv_sent_marked {env : RcvEnv} {heap : FrameHeap} {skb : SkBuff} {gwj : CgwJob} {send : CanSend}
    (sent : send ∈ (canCanGwRcv header env heap skb gwj).sent) : send.skb.sk = .cgwSkMagic := by
  unfold canCanGwRcv at sent
  split_ifs at sent
  all_goals first
    | cases sent
    | rw [cgwSend_sent, Option.mem_some_iff] at sent
      rw [← sent]
      exact cgwPrepare_sk header gwj _

/-- A call on a marked buffer changes nothing but the receivers left. -/
theorem call_of_marked {bus : Cascade} {before after : List Delivery} {skb : SkBuff} {ptr : JobPtr}
    {rest : List JobPtr} {gwj : CgwJob} (env : RcvEnv) (copies : Nat) (marked : skb.sk = .cgwSkMagic)
    (found : bus.jobs ptr = some gwj) :
    bus.call header accepts rx before after skb ptr rest gwj env copies =
      { bus with inFlight := before ++ ⟨skb, rest⟩ :: after } := by
  rw [Cascade.call, canCanGwRcv_of_marked header env bus.heap gwj marked, ← found, Function.update_eq_self]
  simp

/-! ## Work left -/

/-- The receivers still to call on unmarked buffers. -/
def unmarkedWork (inFlight : List Delivery) : Nat :=
  ((inFlight.filter fun delivery => delivery.skb.sk ≠ .cgwSkMagic).map fun delivery => delivery.receivers.length).sum

/-- One unit per receiver still to call and per buffer in flight. -/
def pendingWork (inFlight : List Delivery) : Nat := (inFlight.map fun delivery => delivery.receivers.length + 1).sum

@[simp] theorem unmarkedWork_append (left right : List Delivery) :
    unmarkedWork (left ++ right) = unmarkedWork left + unmarkedWork right := by
  simp [unmarkedWork, List.filter_append, List.sum_append]

@[simp] theorem pendingWork_append (left right : List Delivery) :
    pendingWork (left ++ right) = pendingWork left + pendingWork right := by
  simp [pendingWork, List.sum_append]

theorem unmarkedWork_cons (delivery : Delivery) (rest : List Delivery) :
    unmarkedWork (delivery :: rest) =
      (if delivery.skb.sk = .cgwSkMagic then 0 else delivery.receivers.length) + unmarkedWork rest := by
  by_cases marked : delivery.skb.sk = .cgwSkMagic <;> simp [unmarkedWork, List.filter_cons, marked]

@[simp] theorem pendingWork_cons (delivery : Delivery) (rest : List Delivery) :
    pendingWork (delivery :: rest) = delivery.receivers.length + 1 + pendingWork rest := by
  simp [pendingWork]

/-- The buffers a call sends are marked, and so are their deliveries. -/
theorem redelivered_marked {env : RcvEnv} {heap heap' : FrameHeap} {skb : SkBuff} {gwj : CgwJob} {copies : Nat}
    {delivery : Delivery}
    (member : delivery ∈ (canCanGwRcv header env heap skb gwj).sent.toList.flatMap fun send =>
      List.replicate copies ⟨send.skb, receiversFor accepts rx heap' send.skb⟩) :
    delivery.skb.sk = .cgwSkMagic := by
  obtain ⟨send, sent, copy⟩ := List.mem_flatMap.mp member
  rw [(List.mem_replicate.mp copy).2]
  exact canCanGwRcv_sent_marked header (Option.mem_toList.mp sent)

theorem filter_unmarked_eq_nil {deliveries : List Delivery} (marked : ∀ delivery ∈ deliveries, delivery.skb.sk = .cgwSkMagic) :
    deliveries.filter (fun delivery => delivery.skb.sk ≠ .cgwSkMagic) = [] :=
  List.filter_eq_nil_iff.mpr fun delivery member => by simp [marked delivery member]

/-- A call on an unmarked buffer consumes one of its receivers and adds only
marked buffers. -/
theorem unmarkedWork_call_lt {bus : Cascade} {before after : List Delivery} {skb : SkBuff} {ptr : JobPtr}
    {rest : List JobPtr} (gwj : CgwJob) (env : RcvEnv) (copies : Nat)
    (inFlight : bus.inFlight = before ++ ⟨skb, ptr :: rest⟩ :: after) (unmarked : skb.sk ≠ .cgwSkMagic) :
    unmarkedWork (bus.call header accepts rx before after skb ptr rest gwj env copies).inFlight <
      unmarkedWork bus.inFlight := by
  have added : unmarkedWork ((canCanGwRcv header env bus.heap skb gwj).sent.toList.flatMap fun send =>
      List.replicate copies ⟨send.skb, receiversFor accepts rx (canCanGwRcv header env bus.heap skb gwj).heap
        send.skb⟩) = 0 := by
    rw [unmarkedWork, filter_unmarked_eq_nil fun _ member => redelivered_marked header accepts rx member]
    rfl
  simp only [Cascade.call, inFlight, unmarkedWork_append, unmarkedWork_cons, unmarked, added, if_false,
    List.length_cons]
  omega

/-- The measure every step lowers: unmarked work first, then all work. -/
def cascadeMeasure (bus : Cascade) : Nat × Nat := (unmarkedWork bus.inFlight, pendingWork bus.inFlight)

theorem cascadeMeasure_step {bus next : Cascade} (step : CascadeStep header accepts rx bus next) :
    Prod.Lex (· < ·) (· < ·) (cascadeMeasure next) (cascadeMeasure bus) := by
  cases step with
  | @call before after skb ptr rest gwj env copies inFlight found =>
      by_cases marked : skb.sk = .cgwSkMagic
      · rw [call_of_marked header accepts rx env copies marked found]
        refine Prod.Lex.right' _ (le_of_eq ?_) ?_ <;> simp [cascadeMeasure, inFlight, unmarkedWork_cons, marked]
      · exact Prod.Lex.left _ _ (unmarkedWork_call_lt header accepts rx gwj env copies inFlight marked)
  | @finish before after skb inFlight =>
      refine Prod.Lex.right' _ (le_of_eq ?_) ?_ <;> simp [cascadeMeasure, inFlight, unmarkedWork_cons]

/-- No run of the CAN core on the gateway's buffers goes on forever. -/
theorem cascadeStep_wellFounded : WellFounded fun next bus => CascadeStep header accepts rx bus next :=
  Subrelation.wf (cascadeMeasure_step header accepts rx)
    (InvImage.wf cascadeMeasure (Prod.lex Nat.lt_wfRel Nat.lt_wfRel).wf)

/-! ## What one external buffer leads to -/

/-- A list that is a sublist of `[y]` and has `x` between `before` and `after`. -/
theorem eq_of_append_cons_sublist {α : Type} {before after : List α} {x y : α}
    (sub : (before ++ x :: after).Sublist [y]) : before = [] ∧ after = [] ∧ x = y := by
  have length := sub.length_le
  simp only [List.length_append, List.length_cons, List.length_nil] at length
  obtain rfl : before = [] := List.length_eq_zero.mp (by omega)
  obtain rfl : after = [] := List.length_eq_zero.mp (by omega)
  exact ⟨rfl, rfl, List.mem_singleton.mp (List.singleton_sublist.mp sub)⟩

/-- What holds in every state that the cascade of the external buffer `skb`
reaches, `receivers` being the receivers it started with: every send is marked;
the jobs that sent are, in order, among the receivers already called; and `skb`
is in flight at most once, with the receivers not yet called. -/
structure Confined (skb : SkBuff) (receivers : List JobPtr) (bus : Cascade) : Prop where
  sendsMarked : ∀ send ∈ bus.sends, send.2.skb.sk = .cgwSkMagic
  progress : ∃ called rest, called ++ rest = receivers ∧ (bus.sends.map Prod.fst).Sublist called ∧
    (bus.inFlight.filter fun delivery => delivery.skb.sk ≠ .cgwSkMagic).Sublist [⟨skb, rest⟩]

theorem confined_start (jobs : JobPtr → Option CgwJob) (heap : FrameHeap) {skb : SkBuff}
    (external : skb.sk ≠ .cgwSkMagic) :
    Confined skb (receiversFor accepts rx heap skb) (Cascade.start accepts rx jobs heap skb) :=
  ⟨nofun, [], receiversFor accepts rx heap skb, rfl, .slnil, by simp [Cascade.start, external]⟩

theorem confined_step {skb : SkBuff} {receivers : List JobPtr} {bus next : Cascade}
    (holds : Confined skb receivers bus) (step : CascadeStep header accepts rx bus next) :
    Confined skb receivers next := by
  obtain ⟨marked, called, rest, split, sent, external⟩ := holds
  cases step with
  | @call before after skb' ptr rest' gwj env copies inFlight found =>
      rw [inFlight, List.filter_append, List.filter_cons] at external
      by_cases isMarked : skb'.sk = .cgwSkMagic
      · rw [call_of_marked header accepts rx env copies isMarked found]
        refine ⟨marked, called, rest, split, sent, ?_⟩
        simpa [List.filter_append, List.filter_cons, isMarked] using external
      · simp only [isMarked, ne_eq, not_false_eq_true, decide_True, if_true] at external
        obtain ⟨beforeClean, afterClean, same⟩ := eq_of_append_cons_sublist external
        cases same
        refine ⟨fun send member => ?_, called ++ [ptr], rest', by simpa using split, ?_, ?_⟩
        · simp only [Cascade.call, List.mem_append, List.mem_map, Option.mem_toList] at member
          rcases member with old | ⟨send', now, rfl⟩
          · exact marked send old
          · exact canCanGwRcv_sent_marked header now
        · simp only [Cascade.call, List.map_append]
          refine sent.append ?_
          cases (canCanGwRcv header env bus.heap skb gwj).sent <;> simp
        · simp only [Cascade.call, List.filter_append, List.filter_cons, beforeClean, afterClean, isMarked,
            filter_unmarked_eq_nil fun _ member => redelivered_marked header accepts rx member]
          simp [isMarked]
  | @finish before after skb' inFlight =>
      refine ⟨marked, called, rest, split, sent, List.Sublist.trans ?_ external⟩
      rw [inFlight]
      exact ((List.sublist_cons_self _ after).append_left before).filter _

theorem confined_of_run {skb : SkBuff} {receivers : List JobPtr} {start bus : Cascade}
    (initial : Confined skb receivers start) (run : Relation.ReflTransGen (CascadeStep header accepts rx) start bus) :
    Confined skb receivers bus := by
  induction run with
  | refl => exact initial
  | tail _ step holds => exact confined_step header accepts rx holds step

/-- A step leaves the frames, the counters and the sends as they were unless it
calls a receiver of an unmarked buffer. -/
theorem cascadeStep_quiet_or_unmarked {bus next : Cascade} (step : CascadeStep header accepts rx bus next) :
    (next.heap = bus.heap ∧ next.jobs = bus.jobs ∧ next.sends = bus.sends) ∨
      unmarkedWork next.inFlight < unmarkedWork bus.inFlight := by
  cases step with
  | @call before after skb ptr rest gwj env copies inFlight found =>
      by_cases marked : skb.sk = .cgwSkMagic
      · rw [call_of_marked header accepts rx env copies marked found]
        exact .inl ⟨rfl, rfl, rfl⟩
      · exact .inr (unmarkedWork_call_lt header accepts rx gwj env copies inFlight marked)
  | finish => exact .inl ⟨rfl, rfl, rfl⟩

/-- In a reachable state a job has at most one receiver: the receivers are the
listed jobs', and those have distinct addresses. -/
theorem receiversFor_nodup {s : GwSystem} (reachable : Reachable header s) (heap : FrameHeap) (skb : SkBuff) :
    (receiversFor accepts s.gw.rx heap skb).Nodup := by
  have jobs : (s.gw.rx.map RxEntry.job).Nodup := by
    have perm := (rxMatches_of_reachable header reachable).1.map RxEntry.job
    rw [List.map_map] at perm
    exact perm.nodup_iff.mpr (cgwList_nodup_of_reachable header reachable)
  exact jobs.sublist ((List.filter_sublist _).map _)

/-- An external buffer `skb` arriving in any reachable state (any jobs, any graph
of devices, with loops and cycles) under any filter semantics: in every state
its cascade reaches, every buffer the gateway has sent is marked, and the jobs
that sent are distinct and, in order, among the receivers of `skb` on its
device; every step calls a receiver of an unmarked buffer or leaves the frames,
the counters and the sends as they were; and no cascade runs forever. -/
theorem cascade_forwards_once (s : GwSystem) (reachable : Reachable header s) (heap : FrameHeap) (skb : SkBuff)
    (external : skb.sk ≠ .cgwSkMagic) :
    (∀ bus, Relation.ReflTransGen (CascadeStep header accepts s.gw.rx)
        (Cascade.start accepts s.gw.rx s.gw.jobAt heap skb) bus →
      (∀ send ∈ bus.sends, send.2.skb.sk = .cgwSkMagic) ∧
        (bus.sends.map Prod.fst).Sublist (receiversFor accepts s.gw.rx heap skb) ∧ (bus.sends.map Prod.fst).Nodup) ∧
    (∀ bus next, CascadeStep header accepts s.gw.rx bus next →
      (next.heap = bus.heap ∧ next.jobs = bus.jobs ∧ next.sends = bus.sends) ∨
        unmarkedWork next.inFlight < unmarkedWork bus.inFlight) ∧
    WellFounded fun next bus => CascadeStep header accepts s.gw.rx bus next := by
  refine ⟨fun bus run => ?_, fun _ _ => cascadeStep_quiet_or_unmarked header accepts s.gw.rx,
    cascadeStep_wellFounded header accepts s.gw.rx⟩
  obtain ⟨marked, called, rest, split, sent, -⟩ :=
    confined_of_run header accepts s.gw.rx (confined_start accepts s.gw.rx s.gw.jobAt heap external) run
  have receivers := sent.trans (split ▸ List.sublist_append_left called rest)
  exact ⟨marked, receivers, (receiversFor_nodup header accepts reachable heap skb).sublist receivers⟩

theorem cascade_forwards_once_andRoute :
    (routed andRoute).gw.cgwList ≠ [] ∧ (⟨.other 0, 1, 0, 0⟩ : SkBuff).sk ≠ .cgwSkMagic ∧
      WellFounded fun next bus => CascadeStep ⟨1, 1, 2, 4, 1, 2⟩ (fun _ _ => true) (routed andRoute).gw.rx bus next := by
  have external : (⟨.other 0, 1, 0, 0⟩ : SkBuff).sk ≠ .cgwSkMagic := by decide
  exact ⟨by decide, external,
    (cascade_forwards_once _ _ _ (routed_reachable andRoute) [CanFrame.zero] _ external).2.2⟩

end CanGw
