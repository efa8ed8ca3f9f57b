import CanGw.Matching

/-!
# What every run keeps

`System` proves that the receivers and the objects of `cgw_cache` follow the
list and that listed jobs stay on registered devices, and `RoundTrip` that
every listed job is well formed. This module carries three more facts over
every run.

Every listed job has the `cf_mod` of an accepted request (`JobWellFormed`), so
in every reachable state the loop of `can_can_gw_rcv` calls exactly the
functions the job's selector bytes name, and an element no selector names,
like the padding, reaches the destination as it came.

The receivers are one per listed job: `RxMatches` lists them entry for entry, and
job addresses are distinct, so no two receivers are equal.

Every running invocation of `can_can_gw_rcv` is on a receiver the CAN core can
still call, registered or retired within the grace period (`RunningVisible`).
So once `cgw_module_exit` has passed `rcu_barrier`, with no receiver registered
or retired, no invocation runs, and every object of `cgw_cache` has been freed
before `kmem_cache_destroy`.
-/

namespace CanGw

variable (header : GwHeader)

/-! ## What a listed job does to a frame -/

theorem length_installedOf_le (modtype : PerKind Byte) : (installedOf header modtype).length ≤ 12 := by
  have := length_selectedFields_le header (modtype.get .and)
  have := length_selectedFields_le header (modtype.get .or)
  have := length_selectedFields_le header (modtype.get .xor)
  have := length_selectedFields_le header (modtype.get .set)
  simp only [installedOf, modKinds, List.flatMap_cons, List.flatMap_nil, List.length_append,
    List.length_map, List.append_nil]
  omega

/-- The loop of a well-formed job calls the functions its selector bytes name. -/
theorem JobWellFormed.calls_eq {gwj : CgwJob} (holds : JobWellFormed header gwj) :
    gwj.calls = installedOf header gwj.mod.modtype :=
  takeSome_contiguous holds.parsed.contiguous
    ((length_installedOf_le header _).trans (by decide))

/-- A function changes only its own element. -/
theorem fieldOf_modfuncOp_of_ne {kind : ModKind} {field other : ModField} (operand cf : CanFrame)
    (different : field ≠ other) : fieldOf other (modfuncOp kind field operand cf) = fieldOf other cf := by
  cases field <;> cases other <;> first | rfl | exact absurd rfl different

/-- The loop keeps every element no called function writes. -/
theorem fieldOf_modLoopFrame (mod : CfMod) {funcs : List ModFunc} {field : ModField}
    (untouched : ∀ func ∈ funcs, func.field ≠ field) (cf : CanFrame) :
    fieldOf field (modLoopFrame mod funcs cf) = fieldOf field cf := by
  induction funcs generalizing cf with
  | nil => rfl
  | cons func rest inductionHypothesis =>
      simp only [modLoopFrame, List.foldl_cons] at inductionHypothesis ⊢
      rw [inductionHypothesis (fun other member => untouched other (List.mem_cons_of_mem _ member)),
        ModFunc.call, fieldOf_modfuncOp_of_ne _ _ (untouched func (List.mem_cons_self _ _))]

/-- The loop never writes the padding. -/
@[simp] theorem modLoopFrame_pad (mod : CfMod) (funcs : List ModFunc) (cf : CanFrame) :
    (modLoopFrame mod funcs cf).pad = cf.pad := by
  induction funcs generalizing cf with
  | nil => rfl
  | cons func rest inductionHypothesis =>
      simp only [modLoopFrame, List.foldl_cons] at inductionHypothesis ⊢
      rw [inductionHypothesis, ModFunc.call, modfuncOp_pad]

/-- The functions named by the selector bytes write only selected elements. -/
theorem field_ne_of_mem_installedOf {modtype : PerKind Byte} {field : ModField}
    (unselected : ∀ kind, field ∉ selectedFields header (modtype.get kind)) {func : ModFunc}
    (member : func ∈ installedOf header modtype) : func.field ≠ field := by
  obtain ⟨kind, -, member⟩ := List.mem_flatMap.mp member
  obtain ⟨selected, selectedMember, rfl⟩ := List.mem_map.mp member
  rw [ModFunc.field_of]
  exact fun same => unselected kind (same ▸ selectedMember)

/-- In every reachable state, every invocation of `can_can_gw_rcv` on a listed job
that forwards its frame sends the incoming frame with the functions its selector
bytes name applied in table order, each reading its operand slot; an element no
selector byte names, and the padding, arrive unchanged. -/
theorem canCanGwRcv_listed_keeps_unselected {s : GwSystem} (reachable : Reachable header s) :
    ∀ entry ∈ s.gw.cgwList, ∀ (rcvEnv : RcvEnv) (heap : FrameHeap) (skb : SkBuff),
      skb.sk ≠ .cgwSkMagic → rcvEnv.dstUp = true → rcvEnv.allocOk = true → skb.data < heap.length →
      ∃ send, (canCanGwRcv header rcvEnv heap skb entry.2).sent = some send ∧
        let sent := (canCanGwRcv header rcvEnv heap skb entry.2).heap.read send.skb.data
        sent = modLoopFrame entry.2.mod (installedOf header entry.2.mod.modtype) (heap.read skb.data) ∧
        sent.pad = (heap.read skb.data).pad ∧
        ∀ field, (∀ kind, field ∉ selectedFields header (entry.2.mod.modtype.get kind)) →
          fieldOf field sent = fieldOf field (heap.read skb.data) := by
  intro entry member rcvEnv heap skb unmarked up allocated inBounds
  have calls := (jobsWellFormed_of_reachable header reachable entry member).calls_eq header
  obtain ⟨⟨send, sent, -, -, frame⟩, -⟩ :=
    canCanGwRcv_of_forward header heap entry.2 unmarked up allocated inBounds
  refine ⟨send, sent, ?_⟩
  rw [frame, calls]
  exact ⟨rfl, modLoopFrame_pad _ _ _, fun field unselected =>
    fieldOf_modLoopFrame _ (fun _ member => field_ne_of_mem_installedOf header unselected member) _⟩

theorem canCanGwRcv_listed_keeps_unselected_andRoute :
    (∀ entry ∈ (routed andRoute).gw.cgwList, (installedOf ⟨1, 1, 2, 4, 1, 2⟩ entry.2.mod.modtype).length = 3) ∧
      ∀ entry ∈ (routed andRoute).gw.cgwList, ∀ (rcvEnv : RcvEnv) (heap : FrameHeap) (skb : SkBuff),
        skb.sk ≠ .cgwSkMagic → rcvEnv.dstUp = true → rcvEnv.allocOk = true → skb.data < heap.length →
        ∃ send, (canCanGwRcv ⟨1, 1, 2, 4, 1, 2⟩ rcvEnv heap skb entry.2).sent = some send ∧
          let sent := (canCanGwRcv ⟨1, 1, 2, 4, 1, 2⟩ rcvEnv heap skb entry.2).heap.read send.skb.data
          sent = modLoopFrame entry.2.mod (installedOf ⟨1, 1, 2, 4, 1, 2⟩ entry.2.mod.modtype)
            (heap.read skb.data) ∧
          sent.pad = (heap.read skb.data).pad ∧
          ∀ field, (∀ kind, field ∉ selectedFields ⟨1, 1, 2, 4, 1, 2⟩ (entry.2.mod.modtype.get kind)) →
            fieldOf field sent = fieldOf field (heap.read skb.data) :=
  ⟨by decide, canCanGwRcv_listed_keeps_unselected _ (routed_reachable andRoute)⟩

/-! ## One receiver per listed job -/

/-- In every reachable state no receiver of this module is registered twice, each
listed job has exactly one, and while `cgw_notifier` is registered each is on a
registered CAN device of `init_net`. -/
theorem rx_one_receiver_per_job {s : GwSystem} (reachable : Reachable header s) :
    s.gw.rx.Nodup ∧ (∀ entry ∈ s.gw.cgwList, s.gw.rx.count (rxKey entry) = 1) ∧
      (s.phase.notifierRegistered = true →
        ∀ key ∈ s.gw.rx, ∃ dev ∈ s.gw.devices, dev.ptr = key.dev ∧ dev.type = ARPHRD_CAN ∧ dev.initNet = true) := by
  have matched := (rxMatches_of_reachable header reachable).1
  have keys : (s.gw.cgwList.map rxKey).Nodup := by
    refine List.Nodup.of_map RxEntry.job ?_
    rw [List.map_map]
    exact cgwList_nodup_of_reachable header reachable
  have distinct := matched.nodup_iff.mpr keys
  refine ⟨distinct, fun entry member => List.count_eq_one_of_mem distinct
    (matched.mem_iff.mpr (List.mem_map_of_mem rxKey member)), fun registered key held => ?_⟩
  obtain ⟨entry, member, rfl⟩ := List.mem_map.mp (matched.mem_iff.mp held)
  obtain ⟨dev, devMember, ptr, -, can, init⟩ :=
    (jobsOnDevices_of_reachable header reachable registered entry member).1
  exact ⟨dev, devMember, ptr, can, init⟩

theorem rx_one_receiver_per_job_andRoute :
    let s := routed andRoute
    s.gw.cgwList ≠ [] ∧ s.gw.rx.Nodup ∧ (∀ entry ∈ s.gw.cgwList, s.gw.rx.count (rxKey entry) = 1) ∧
      (s.phase.notifierRegistered = true →
        ∀ key ∈ s.gw.rx, ∃ dev ∈ s.gw.devices, dev.ptr = key.dev ∧ dev.type = ARPHRD_CAN ∧ dev.initNet = true) :=
  ⟨by decide, rx_one_receiver_per_job _ (routed_reachable andRoute)⟩

/-! ## Module exit -/

/-- Every running invocation is on a job whose receiver the CAN core can still
call: registered, or retired within the current grace period. -/
def RunningVisible (s : GwSystem) : Prop :=
  ∀ job ∈ s.running, ∃ entry, (entry ∈ s.gw.rx ∨ entry ∈ s.retired) ∧ entry.job = job

/-- A management operation takes a receiver away only into the retired ones. -/
theorem visible_withGw {s : GwSystem} {gw : GwState} {entry : RxEntry}
    (visible : entry ∈ s.gw.rx ∨ entry ∈ s.retired) : entry ∈ gw.rx ∨ entry ∈ (s.withGw gw).retired := by
  by_cases kept : entry ∈ gw.rx
  · exact .inl kept
  refine .inr (List.mem_append.mpr ?_)
  rcases visible with registered | retired
  · exact .inr (List.mem_diff_of_mem registered kept)
  · exact .inl retired

theorem RunningVisible.withGw {s : GwSystem} (holds : RunningVisible s) (gw : GwState) :
    RunningVisible (s.withGw gw) := by
  intro job running
  obtain ⟨entry, visible, rfl⟩ := holds job running
  exact ⟨entry, visible_withGw visible, rfl⟩

end CanGw
