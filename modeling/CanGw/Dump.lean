import CanGw.System

/-!
# Listing the jobs

`cgw_put_job` appends one message for a job to the reply buffer of a dump:
`nlmsg_put` of the header, then each attribute whose condition holds, each
`nla_put` checked against the room left; when one does not fit,
`nlmsg_cancel` removes the whole message. `cgw_dump_jobs` walks `cgw_list`
from its head, skips the first `cb->args[0]` jobs, puts the others until one
does not fit, and stores in `cb->args[0]` the index it stopped at.

A buffer is the messages it holds, the bytes they take and its size. `cgwJobMsg`
is the message `cgw_put_job` builds for a job, in closed form; `cgwPutJob_eq`
says it is appended whole when it fits and nothing happens otherwise.

A LIST enumeration is a sequence of calls sharing `cb->args[0]`; between calls
`can_can_gw_rcv` may move the counters of the jobs, which the messages carry.
As long as nothing but counters changes, the calls report every job once, in
order (`dumpRun_reports_each_once`).
-/

namespace CanGw

variable (header : GwHeader)

/-- The reply buffer of a dump: the messages put into it, the bytes they take,
and its size. -/
structure DumpSkb where
  msgs : List NlMsg
  len : Nat
  size : Nat

namespace DumpSkb

/-- `skb_tailroom(skb)`. -/
def tailroom (skb : DumpSkb) : Nat := skb.size - skb.len

/-- A finished message in the buffer. -/
def append (skb : DumpSkb) (nlh : NlMsg) : DumpSkb :=
  { skb with msgs := skb.msgs ++ [nlh], len := skb.len + nlh.nlmsgLen }

/-- Finished messages in the buffer, in order. -/
def appendAll (skb : DumpSkb) (msgs : List NlMsg) : DumpSkb := msgs.foldl append skb

@[simp] theorem tailroom_append (skb : DumpSkb) (nlh : NlMsg) :
    (skb.append nlh).tailroom = skb.tailroom - nlh.nlmsgLen := by
  simp only [tailroom, append]
  omega

@[simp] theorem appendAll_nil (skb : DumpSkb) : skb.appendAll [] = skb := rfl

@[simp] theorem appendAll_cons (skb : DumpSkb) (nlh : NlMsg) (msgs : List NlMsg) :
    skb.appendAll (nlh :: msgs) = (skb.append nlh).appendAll msgs := rfl

@[simp] theorem msgs_appendAll (skb : DumpSkb) (msgs : List NlMsg) :
    (skb.appendAll msgs).msgs = skb.msgs ++ msgs := by
  induction msgs generalizing skb with
  | nil => simp
  | cons nlh rest inductionHypothesis => simp [inductionHypothesis, append]

end DumpSkb

/-- The `CGW_MOD_*` attribute of a kind, put when its selector byte is set:
`mb` holds the kind's operand frame and selector. -/
def modAttr (mod : CfMod) (kind : ModKind) : List NlAttr :=
  if mod.modtype.get kind ≠ 0 then [⟨kind.attr, (⟨mod.modframe.get kind, mod.modtype.get kind⟩ : CgwFrameMod).image⟩]
  else []

/-- The attributes `cgw_put_job` puts for a job, in its order: the counters when
not zero, the modifications whose selector is set, the enabled checksum
stages, and for a CAN-to-CAN job the filter when not zero and both indices. -/
def cgwJobAttrs (gwj : CgwJob) : List NlAttr :=
  (if gwj.handledFrames ≠ 0 then [⟨.handled, u32Image gwj.handledFrames⟩] else []) ++
  (if gwj.droppedFrames ≠ 0 then [⟨.dropped, u32Image gwj.droppedFrames⟩] else []) ++
  modKinds.flatMap (modAttr gwj.mod) ++
  (if gwj.mod.csum.xor.fromIdx ≠ CGW_CS_DISABLED then [⟨.csXor, gwj.mod.csum.xor.1⟩] else []) ++
  (if gwj.mod.csum.crc8.fromIdx ≠ CGW_CS_DISABLED then [⟨.csCrc8, gwj.mod.csum.crc8.1⟩] else []) ++
  if gwj.gwtype = header.cgwTypeCanCan then
    (if gwj.ccgw.filter.canId ≠ 0 ∨ gwj.ccgw.filter.canMask ≠ 0 then
      [⟨.filter, gwj.ccgw.filter.image⟩] else []) ++
    [⟨.srcIf, u32Image gwj.ccgw.srcIdx⟩, ⟨.dstIf, u32Image gwj.ccgw.dstIdx⟩]
  else []

/-- `nla_put` into the message being built, with the room left in the buffer:
it fails when the room is below `nla_total_size(len)`; otherwise the attribute
is appended and `nlmsg_len += NLA_HDRLEN + NLA_ALIGN(len)`. -/
def nlaPut (built : Nat × NlMsg) (attr : NlAttr) : Option (Nat × NlMsg) :=
  if built.1 < attr.totalSize then none
  else some (built.1 - attr.totalSize,
    { built.2 with nlmsgLen := built.2.nlmsgLen + attr.totalSize, attrs := built.2.attrs ++ [attr] })

/-- `cgw_put_job(skb, gwj)`: `nlmsg_put` of the header and the `rtcanmsg`, then
every attribute; a failure cancels the whole message and returns `-EMSGSIZE`,
success returns `skb->len`. -/
def cgwPutJob (skb : DumpSkb) (gwj : CgwJob) : Int × DumpSkb :=
  if skb.tailroom < NLMSG_HDRLEN + RTCANMSG_LEN then (-EMSGSIZE, skb)
  else
    let start : NlMsg := ⟨NLMSG_HDRLEN + RTCANMSG_LEN, ⟨AF_CAN, gwj.gwtype, gwj.flags⟩, []⟩
    match (cgwJobAttrs header gwj).foldlM nlaPut (skb.tailroom - start.nlmsgLen, start) with
    | none => (-EMSGSIZE, skb)
    | some (_, nlh) => ((skb.append nlh).len, skb.append nlh)

/-- The loop of `cgw_dump_jobs` at index `idx`: skip the jobs before `sIdx`,
put the others, and stop at the first that does not fit. -/
def cgwDumpLoop (sIdx : Nat) : List (JobPtr × CgwJob) → Nat → DumpSkb → Nat × DumpSkb
  | [], idx, skb => (idx, skb)
  | entry :: rest, idx, skb =>
      if idx < sIdx then cgwDumpLoop sIdx rest (idx + 1) skb
      else
        let put := cgwPutJob header skb entry.2
        if put.1 < 0 then (idx, put.2) else cgwDumpLoop sIdx rest (idx + 1) put.2

/-- `cgw_dump_jobs(skb, cb)` over `cgw_list`: the new `cb->args[0]` and the
buffer. -/
def cgwDumpJobs (skb : DumpSkb) (cursor : Nat) (list : List (JobPtr × CgwJob)) : Nat × DumpSkb :=
  cgwDumpLoop header cursor list 0 skb

/-! ## The message of a job -/

/-- The message `cgw_put_job` builds for a job. -/
def cgwJobMsg (gwj : CgwJob) : NlMsg :=
  ⟨nlmsgLenOf (cgwJobAttrs header gwj), ⟨AF_CAN, gwj.gwtype, gwj.flags⟩, cgwJobAttrs header gwj⟩

/-- The attributes are put one after another while they fit in the room left. -/
theorem foldlM_nlaPut (attrs : List NlAttr) (room : Nat) (nlh : NlMsg) :
    attrs.foldlM nlaPut (room, nlh) =
      if (attrs.map NlAttr.totalSize).sum ≤ room then
        some (room - (attrs.map NlAttr.totalSize).sum,
          { nlh with nlmsgLen := nlh.nlmsgLen + (attrs.map NlAttr.totalSize).sum, attrs := nlh.attrs ++ attrs })
      else none := by
  induction attrs generalizing room nlh with
  | nil => simp
  | cons attr rest inductionHypothesis =>
      rw [List.foldlM_cons, nlaPut]
      by_cases fits : room < attr.totalSize
      · have tooBig : ¬ ((attr :: rest).map NlAttr.totalSize).sum ≤ room := by simp; omega
        rw [if_pos fits, if_neg tooBig]
        rfl
      · rw [if_neg fits]
        simp only [Option.bind_eq_bind, Option.some_bind, inductionHypothesis, List.map_cons,
          List.sum_cons, List.append_assoc, List.singleton_append]
        split_ifs <;> first | omega | simp [Nat.sub_sub, Nat.add_assoc]

/-- `cgw_put_job` appends the job's message whole when it fits and changes
nothing otherwise. -/
theorem cgwPutJob_eq (skb : DumpSkb) (gwj : CgwJob) :
    cgwPutJob header skb gwj =
      if (cgwJobMsg header gwj).nlmsgLen ≤ skb.tailroom then
        (((skb.append (cgwJobMsg header gwj)).len : Int), skb.append (cgwJobMsg header gwj))
      else (-EMSGSIZE, skb) := by
  have headerLen : NLMSG_HDRLEN + RTCANMSG_LEN = 20 := rfl
  unfold cgwPutJob
  simp only [foldlM_nlaPut, cgwJobMsg, nlmsgLenOf, headerLen]
  by_cases fits : 20 + ((cgwJobAttrs header gwj).map NlAttr.totalSize).sum ≤ skb.tailroom
  · rw [if_neg (by omega), if_pos (by omega), if_pos fits]
    rfl
  · by_cases room : skb.tailroom < 20
    · rw [if_pos room, if_neg fits]
    · rw [if_neg room, if_neg (by omega), if_neg fits]

/-! ## One call of `cgw_dump_jobs` -/

/-- How many jobs from the head of a list fit one after another in `room` bytes. -/
def fitting (list : List (JobPtr × CgwJob)) (room : Nat) : Nat :=
  match list with
  | [] => 0
  | entry :: rest =>
      if (cgwJobMsg header entry.2).nlmsgLen ≤ room then
        fitting rest (room - (cgwJobMsg header entry.2).nlmsgLen) + 1
      else 0

/-- The messages of some jobs. -/
def jobMsgs (list : List (JobPtr × CgwJob)) : List NlMsg := list.map fun entry => cgwJobMsg header entry.2

theorem fitting_le (list : List (JobPtr × CgwJob)) (room : Nat) : fitting header list room ≤ list.length := by
  induction list generalizing room with
  | nil => exact le_rfl
  | cons entry rest inductionHypothesis =>
      rw [fitting]
      split_ifs
      · simpa using inductionHypothesis _
      · simp

/-- Past the cursor the loop puts the jobs that fit, in order, and stops at the
first that does not. -/
theorem cgwDumpLoop_put (sIdx : Nat) (list : List (JobPtr × CgwJob)) (idx : Nat) (skb : DumpSkb)
    (past : sIdx ≤ idx) :
    cgwDumpLoop header sIdx list idx skb =
      (idx + fitting header list skb.tailroom,
        skb.appendAll (jobMsgs header (list.take (fitting header list skb.tailroom)))) := by
  induction list generalizing idx skb with
  | nil => simp [cgwDumpLoop, fitting, jobMsgs]
  | cons entry rest inductionHypothesis =>
      rw [cgwDumpLoop, if_neg (by omega), cgwPutJob_eq]
      rw [fitting]
      by_cases fits : (cgwJobMsg header entry.2).nlmsgLen ≤ skb.tailroom
      · have nonneg : ¬ ((skb.append (cgwJobMsg header entry.2)).len : Int) < 0 := by omega
        simp only [if_pos fits, if_neg nonneg]
        rw [inductionHypothesis _ _ (by omega), DumpSkb.tailroom_append]
        simp [jobMsgs, Nat.add_assoc, Nat.add_comm 1]
      · have negative : -EMSGSIZE < 0 := by decide
        simp [fits, negative, jobMsgs]

/-- Skipping up to the cursor, as long as the list reaches it. -/
theorem cgwDumpLoop_skip (sIdx : Nat) (list : List (JobPtr × CgwJob)) (idx : Nat) (skb : DumpSkb)
    (before : idx ≤ sIdx) (reaches : sIdx - idx ≤ list.length) :
    cgwDumpLoop header sIdx list idx skb = cgwDumpLoop header sIdx (list.drop (sIdx - idx)) sIdx skb := by
  induction list generalizing idx with
  | nil =>
      have here : idx = sIdx := by simp at reaches; omega
      subst here
      rw [Nat.sub_self, List.drop_zero]
  | cons entry rest inductionHypothesis =>
      by_cases skipped : idx < sIdx
      · rw [cgwDumpLoop, if_pos skipped, inductionHypothesis _ (by omega) (by simp at reaches; omega),
          show sIdx - idx = sIdx - (idx + 1) + 1 by omega, List.drop_succ_cons]
      · have here : idx = sIdx := by omega
        subst here
        rw [Nat.sub_self, List.drop_zero]

/-- One call from a cursor within the list puts the jobs after the cursor that
fit, in order, and moves the cursor past them. -/
theorem cgwDumpJobs_eq (skb : DumpSkb) (cursor : Nat) (list : List (JobPtr × CgwJob))
    (within : cursor ≤ list.length) :
    cgwDumpJobs header skb cursor list =
      (cursor + fitting header (list.drop cursor) skb.tailroom,
        skb.appendAll (jobMsgs header ((list.drop cursor).take (fitting header (list.drop cursor) skb.tailroom)))) := by
  rw [cgwDumpJobs, cgwDumpLoop_skip header cursor list 0 skb (Nat.zero_le _) (by omega), Nat.sub_zero,
    cgwDumpLoop_put header cursor _ cursor skb le_rfl]

/-- A buffer that holds the first job's message takes at least that job. -/
theorem fitting_pos {entry : JobPtr × CgwJob} {rest : List (JobPtr × CgwJob)} {room : Nat}
    (fits : (cgwJobMsg header entry.2).nlmsgLen ≤ room) : 0 < fitting header (entry :: rest) room := by
  rw [fitting, if_pos fits]
  omega

/-- One call into an empty buffer that holds any one message of the list, from a
cursor within it, reports the next `taken` jobs, at least one when any is left,
and moves the cursor past them. -/
theorem cgwDumpJobs_call {list : List (JobPtr × CgwJob)} {size cursor : Nat} (within : cursor ≤ list.length)
    (room : ∀ entry ∈ list, (cgwJobMsg header entry.2).nlmsgLen ≤ size) :
    ∃ taken ≤ list.length - cursor, (cursor < list.length → 0 < taken) ∧
      (cgwDumpJobs header ⟨[], 0, size⟩ cursor list).1 = cursor + taken ∧
      (cgwDumpJobs header ⟨[], 0, size⟩ cursor list).2.msgs = jobMsgs header ((list.drop cursor).take taken) := by
  have call := cgwDumpJobs_eq header ⟨[], 0, size⟩ cursor list within
  simp only [DumpSkb.tailroom, Nat.sub_zero] at call
  refine ⟨fitting header (list.drop cursor) size, by simpa using fitting_le header (list.drop cursor) size,
    fun inside => ?_, by rw [call], by rw [call, DumpSkb.msgs_appendAll, List.nil_append]⟩
  obtain ⟨entry, rest, split⟩ := List.exists_cons_of_length_pos (by simp; omega : 0 < (list.drop cursor).length)
  rw [split]
  exact fitting_pos header (room entry (List.mem_of_mem_drop (by rw [split]; exact List.mem_cons_self _ _)))

/-! ## A LIST enumeration -/

/-- A job apart from its counters. -/
def CgwJob.config (gwj : CgwJob) : CgwJob := { gwj with handledFrames := 0, droppedFrames := 0 }

/-- The jobs of a list, each apart from its counters. -/
def configs (list : List (JobPtr × CgwJob)) : List (JobPtr × CgwJob) :=
  list.map fun entry => (entry.1, entry.2.config)

@[simp] theorem length_configs (list : List (JobPtr × CgwJob)) : (configs list).length = list.length :=
  List.length_map _ _

theorem configs_append (front back : List (JobPtr × CgwJob)) :
    configs (front ++ back) = configs front ++ configs back :=
  List.map_append _ _ _

theorem configs_drop (count : Nat) (list : List (JobPtr × CgwJob)) :
    configs (list.drop count) = (configs list).drop count :=
  List.map_drop _ _ _

theorem configs_take (count : Nat) (list : List (JobPtr × CgwJob)) :
    configs (list.take count) = (configs list).take count :=
  List.map_take _ _ _

/-- A LIST enumeration: one `cgw_dump_jobs` call per buffer size and list, the
list as that call sees it, each call into an empty buffer, all sharing
`cb->args[0]` from the given cursor; the messages each call appends. -/
def dumpRun : Nat → List (Nat × List (JobPtr × CgwJob)) → List (List NlMsg)
  | _, [] => []
  | cursor, (size, list) :: calls =>
      let call := cgwDumpJobs header ⟨[], 0, size⟩ cursor list
      call.2.msgs :: dumpRun call.1 calls

section Enumeration

variable (list : List (JobPtr × CgwJob)) (calls : List (Nat × List (JobPtr × CgwJob)))

/-- From a cursor within the list, enough calls whose lists differ from `list`
in counters only, and whose buffers each hold any one message of their list,
report from each call's list a run of jobs in order, together the jobs after
the cursor up to counters, and the last call appends nothing. -/
theorem dumpRun_from (cursor : Nat) (within : cursor ≤ list.length)
    (countersOnly : ∀ call ∈ calls, configs call.2 = configs list)
    (room : ∀ call ∈ calls, ∀ entry ∈ call.2, (cgwJobMsg header entry.2).nlmsgLen ≤ call.1)
    (enough : list.length - cursor < calls.length) :
    ∃ parts : List (List (JobPtr × CgwJob)), List.Forall₂ (fun part call => part.Sublist call.2) parts calls ∧
      dumpRun header cursor calls = parts.map (jobMsgs header) ∧
      configs parts.flatten = configs (list.drop cursor) ∧ (dumpRun header cursor calls).getLast? = some [] := by
  induction calls generalizing cursor with
  | nil => simp at enough
  | cons call calls inductionHypothesis =>
      obtain ⟨size, current⟩ := call
      have sameConfigs := countersOnly _ (List.mem_cons_self _ _)
      have sameLength : current.length = list.length := by rw [← length_configs, sameConfigs, length_configs]
      obtain ⟨taken, bounded, progress, moved, reported⟩ :=
        cgwDumpJobs_call header (sameLength ▸ within) (room _ (List.mem_cons_self _ _))
      rw [sameLength] at bounded progress
      have part : ((current.drop cursor).take taken).Sublist current :=
        (List.take_sublist _ _).trans (List.drop_sublist _ _)
      have partConfigs : configs ((current.drop cursor).take taken) = ((configs list).drop cursor).take taken := by
        rw [configs_take, configs_drop, sameConfigs]
      simp only [dumpRun, moved, reported]
      cases calls with
      | nil =>
          have finished : cursor = list.length := by simp at enough; omega
          subst finished
          have none : current.drop list.length = [] := by simp [sameLength]
          refine ⟨[[]], .cons (by simp) .nil, ?_, by simp [configs], ?_⟩ <;> simp [none, dumpRun, jobMsgs]
      | cons next calls =>
          obtain ⟨parts, sliced, restReported, restConfigs, last⟩ := inductionHypothesis (cursor + taken) (by omega)
            (fun call member => countersOnly call (List.mem_cons_of_mem _ member))
            (fun call member => room call (List.mem_cons_of_mem _ member))
            (by by_cases inside : cursor < list.length <;> simp at enough ⊢ <;> have := progress <;> omega)
          refine ⟨_ :: parts, .cons part sliced, by rw [restReported]; rfl, ?_, by simpa using last⟩
          rw [List.flatten_cons, configs_append, partConfigs, restConfigs, configs_drop, configs_drop,
            ← List.drop_drop taken cursor, List.take_append_drop]

/-- A LIST enumeration from `cb->args[0] = 0` with one call more than there are
jobs, whose buffers each hold any one job's message, with nothing but the
counters changing between calls: each call reports whole messages of jobs as
that call sees them, in list order; together the calls report every job of
`cgw_list` exactly once, in list order; and the last call appends nothing. -/
theorem dumpRun_reports_each_once
    (countersOnly : ∀ call ∈ calls, configs call.2 = configs list)
    (room : ∀ call ∈ calls, ∀ entry ∈ call.2, (cgwJobMsg header entry.2).nlmsgLen ≤ call.1)
    (enough : list.length < calls.length) :
    ∃ parts : List (List (JobPtr × CgwJob)), List.Forall₂ (fun part call => part.Sublist call.2) parts calls ∧
      dumpRun header 0 calls = parts.map (jobMsgs header) ∧
      configs parts.flatten = configs list ∧ (dumpRun header 0 calls).getLast? = some [] :=
  dumpRun_from header list calls 0 (Nat.zero_le _) countersOnly room (by omega)

end Enumeration

/-- Two jobs, the first reported by the first call; a frame is counted on each
before the second call, which reports the second job with its counter. -/
theorem dumpRun_reports_each_once_counted :
    let job : CgwJob := ⟨0, 0, CfMod.init, 1, 1, ⟨⟨0, 0⟩, 1, 1⟩, 1, 0⟩
    let echo : CgwJob := { job with flags := 1 }
    let calls := [(44, [(7, job), (8, echo)]), (44, [(7, job.countHandled), (8, echo.countHandled)]),
      (44, [(7, job.countHandled), (8, echo.countHandled)])]
    (∀ call ∈ calls, configs call.2 = configs [(7, job), (8, echo)]) ∧
      (∀ call ∈ calls, ∀ entry ∈ call.2, (cgwJobMsg ⟨1, 1, 2, 4, 1, 2⟩ entry.2).nlmsgLen ≤ call.1) ∧
      dumpRun ⟨1, 1, 2, 4, 1, 2⟩ 0 calls =
        [[cgwJobMsg ⟨1, 1, 2, 4, 1, 2⟩ job], [cgwJobMsg ⟨1, 1, 2, 4, 1, 2⟩ echo.countHandled], []] ∧
      ∃ parts : List (List (JobPtr × CgwJob)), List.Forall₂ (fun part call => part.Sublist call.2) parts calls ∧
        dumpRun ⟨1, 1, 2, 4, 1, 2⟩ 0 calls = parts.map (jobMsgs ⟨1, 1, 2, 4, 1, 2⟩) ∧
        configs parts.flatten = configs [(7, job), (8, echo)] ∧
        (dumpRun ⟨1, 1, 2, 4, 1, 2⟩ 0 calls).getLast? = some [] := by
  intro job echo calls
  have countersOnly : ∀ call ∈ calls, configs call.2 = configs [(7, job), (8, echo)] := by
    intro call member
    simp only [calls, List.mem_cons, List.mem_singleton, List.not_mem_nil, or_false] at member
    rcases member with rfl | rfl | rfl <;> rfl
  have room : ∀ call ∈ calls, ∀ entry ∈ call.2, (cgwJobMsg ⟨1, 1, 2, 4, 1, 2⟩ entry.2).nlmsgLen ≤ call.1 := by
    intro call member
    simp only [calls, List.mem_cons, List.mem_singleton, List.not_mem_nil, or_false] at member
    rcases member with rfl | rfl | rfl <;> simp only [List.mem_cons, List.mem_singleton, List.not_mem_nil,
      or_false, forall_eq_or_imp, forall_eq] <;> exact ⟨by decide, by decide⟩
  exact ⟨countersOnly, room, by decide, dumpRun_reports_each_once _ _ _ countersOnly room (by decide)⟩

/-- A job added between two calls makes the next call report again the job the
previous call reported last: `hlist_add_head_rcu` shifts every index that
`cb->args[0]` counts. Job 7 has counted a frame, so its message, with
`CGW_HANDLED`, is no other job's. -/
theorem cgwDumpJobs_reports_job_twice :
    ∃ s s', Reachable ⟨1, 1, 2, 4, 1, 2⟩ s ∧ GwStep ⟨1, 1, 2, 4, 1, 2⟩ s s' ∧
      ∃ entry ∈ s.gw.cgwList, entry ∈ s'.gw.cgwList ∧ entry.2.handledFrames = 1 ∧
        (∀ other ∈ s'.gw.cgwList, other ≠ entry →
          cgwJobMsg ⟨1, 1, 2, 4, 1, 2⟩ other.2 ≠ cgwJobMsg ⟨1, 1, 2, 4, 1, 2⟩ entry.2) ∧
        let first := cgwDumpJobs ⟨1, 1, 2, 4, 1, 2⟩ ⟨[], 0, 44⟩ 0 s.gw.cgwList
        first.2.msgs = [cgwJobMsg ⟨1, 1, 2, 4, 1, 2⟩ entry.2] ∧
          (cgwDumpJobs ⟨1, 1, 2, 4, 1, 2⟩ ⟨[], 0, 44⟩ first.1 s'.gw.cgwList).2.msgs =
            [cgwJobMsg ⟨1, 1, 2, 4, 1, 2⟩ entry.2] := by
  have started := (routed_reachable selfRoute).step (.rcvStart ⟨1, 0, 0, 7⟩ (.inl (by decide)))
  have counted := started.step (.rcvCount 7 true (List.mem_singleton_self 7))
  set_option maxRecDepth 2000 in
  exact ⟨_, _, counted, .createJob ⟨true, 8, true⟩ selfRoute rfl (by decide), _, List.mem_singleton_self _,
    by decide, by decide, by decide, by decide⟩

end CanGw

