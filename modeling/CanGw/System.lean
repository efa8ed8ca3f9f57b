import CanGw.Registry
import Mathlib.Data.List.Nodup

/-!
# The gateway as a system

`GwStep` is every step the running gateway can take: the two rtnetlink
handlers, device registration and unregistration with the notifier chain,
the start, the counter update and the end of a `can_can_gw_rcv` invocation,
the end of an RCU grace period, and the four steps of `cgw_module_exit`.
Management operations run one at a time (under `rtnl` and `cgw_list_lock`); an
invocation runs in softirq context under RCU and takes no lock, so its steps
interleave with everything else. The CAN core finds receivers under
`rcu_read_lock`: a receiver `can_rx_unregister` has unlinked stays visible to
the readers that started before, so an invocation may start on it until the
grace period ends (`GwSystem.retired`). `Reachable` is every state the module
can reach after `cgw_module_init`.

Three invariants are proved over every run. `RxMatches`: the receivers this
module holds in the CAN core are exactly those of the listed jobs, and no
`can_rx_unregister` has missed. `CacheInv`: the objects of `cgw_cache` in use
are those of the listed jobs, one per job. `DevicesInv`: device addresses are
distinct, and while `cgw_notifier` is registered every listed job's devices
are registered CAN devices of `init_net` with the job's indices. Each step
keeps each invariant by one lemma per operation of the registry.
-/

namespace CanGw

variable (header : GwHeader)

/-- `NETDEV_REGISTER`. -/
def NETDEV_REGISTER : Nat := 5

/-- How far the module has got: loaded by `cgw_module_init`, then the steps of
`cgw_module_exit` in order. -/
inductive ModulePhase
  | loaded
  | rtnlUnregistered
  | notifierUnregistered
  | jobsRemoved
  | unloaded
  deriving DecidableEq, Repr

/-- Whether `cgw_notifier` is on the netdevice notifier chain. -/
@[simp] def ModulePhase.notifierRegistered : ModulePhase → Bool
  | .loaded | .rtnlUnregistered => true
  | _ => false

/-- The gateway's state with the module phase, the `can_can_gw_rcv`
invocations in progress, each by the job the CAN core passed as `data`, and
the receivers `can_rx_unregister` has unlinked within the current grace
period: `hlist_del_rcu` leaves them visible to the readers of the CAN core
that started before, which may still call them. -/
structure GwSystem where
  gw : GwState
  phase : ModulePhase
  running : List JobPtr
  retired : List RxEntry

/-- The job objects of `cgw_cache` in use. -/
def GwSystem.allocated (s : GwSystem) : List JobPtr := s.gw.cache

/-- A management operation leaving the registry at `gw`: each receiver it
unregistered is retired until the grace period ends. -/
def GwSystem.withGw (s : GwSystem) (gw : GwState) : GwSystem :=
  { s with gw := gw, retired := s.retired ++ s.gw.rx.diff gw.rx }

@[simp] theorem GwSystem.withGw_gw (s : GwSystem) (gw : GwState) : (s.withGw gw).gw = gw := rfl

@[simp] theorem GwSystem.withGw_phase (s : GwSystem) (gw : GwState) : (s.withGw gw).phase = s.phase := rfl

@[simp] theorem GwSystem.withGw_running (s : GwSystem) (gw : GwState) : (s.withGw gw).running = s.running := rfl

/-- `call_netdevice_notifiers(msg, dev)` as far as this module takes part:
`cgw_notifier` while it is registered. -/
def callNetdeviceNotifiers (phase : ModulePhase) (st : GwState) (msg : Nat) (dev : NetDevice) :
    GwState :=
  if phase.notifierRegistered then cgwNotifier st msg dev else st

/-- `register_netdevice(dev)`: the device is listed, then the notifiers run. -/
def registerNetdevice (phase : ModulePhase) (st : GwState) (dev : NetDevice) : GwState :=
  callNetdeviceNotifiers phase { st with devices := dev :: st.devices } NETDEV_REGISTER dev

/-- `unregister_netdevice(dev)`: the notifiers run, then the device is gone. -/
def unregisterNetdevice (phase : ModulePhase) (st : GwState) (dev : NetDevice) : GwState :=
  let st := callNetdeviceNotifiers phase st NETDEV_UNREGISTER dev
  { st with devices := st.devices.filter fun other => other.ptr ≠ dev.ptr }

/-- An invocation's `gwj->handled_frames++` or `gwj->dropped_frames++`,
through the job pointer it was given. -/
def GwState.countJob (st : GwState) (job : JobPtr) (handled : Bool) : GwState :=
  { st with cgwList := st.cgwList.map fun entry =>
      if entry.1 = job then (entry.1, if handled then entry.2.countHandled else entry.2.countDropped)
      else entry }

/-- The state after `cgw_module_init`: no device, no job, no receiver. -/
def GwSystem.init : GwSystem := ⟨⟨[], [], [], 0, []⟩, .loaded, [], []⟩

/-- One step of the gateway. -/
inductive GwStep : GwSystem → GwSystem → Prop
  /-- An `RTM_NEWROUTE` request; `kmem_cache_alloc` returns an object not in use. -/
  | createJob {s : GwSystem} (env : CreateEnv) (nlh : NlMsg) :
      s.phase = .loaded → env.addr ∉ s.allocated →
      GwStep s (s.withGw (cgwCreateJob header env s.gw nlh).2)
  /-- An `RTM_DELROUTE` request. -/
  | removeJob {s : GwSystem} (nlh : NlMsg) :
      s.phase = .loaded → GwStep s (s.withGw (cgwRemoveJob header s.gw nlh).2)
  /-- A device at a new address is registered. -/
  | registerDevice {s : GwSystem} (dev : NetDevice) :
      dev.ptr ∉ s.gw.devices.map NetDevice.ptr →
      GwStep s (s.withGw (registerNetdevice s.phase s.gw dev))
  /-- A registered device is unregistered. -/
  | unregisterDevice {s : GwSystem} (dev : NetDevice) :
      dev ∈ s.gw.devices → GwStep s (s.withGw (unregisterNetdevice s.phase s.gw dev))
  /-- A reader of the CAN core calls a receiver of this module it found:
  registered, or unlinked within the current grace period. -/
  | rcvStart {s : GwSystem} (entry : RxEntry) :
      entry ∈ s.gw.rx ∨ entry ∈ s.retired → GwStep s { s with running := entry.job :: s.running }
  /-- A running invocation counts its frame in the job. -/
  | rcvCount {s : GwSystem} (job : JobPtr) (handled : Bool) :
      job ∈ s.running → GwStep s { s with gw := s.gw.countJob job handled }
  /-- A running invocation returns. -/
  | rcvEnd {s : GwSystem} (job : JobPtr) :
      job ∈ s.running → GwStep s { s with running := s.running.erase job }
  /-- A grace period ends: every reader that may still call a retired receiver
  has left its read-side critical section, so none of their invocations runs. -/
  | gracePeriod {s : GwSystem} :
      (∀ entry ∈ s.retired, entry.job ∉ s.running) → GwStep s { s with retired := [] }
  /-- `rtnl_unregister_all(PF_CAN)`. -/
  | unregisterRtnl {s : GwSystem} :
      s.phase = .loaded → GwStep s { s with phase := .rtnlUnregistered }
  /-- `unregister_netdevice_notifier(&notifier)`. -/
  | unregisterNotifier {s : GwSystem} :
      s.phase = .rtnlUnregistered → GwStep s { s with phase := .notifierUnregistered }
  /-- `cgw_remove_all_jobs()`. -/
  | removeAllJobs {s : GwSystem} :
      s.phase = .notifierUnregistered →
      GwStep s { s.withGw (cgwRemoveAllJobs s.gw) with phase := .jobsRemoved }
  /-- `rcu_barrier()`, which returns once the `call_rcu` callbacks of every
  `can_rx_unregister` have run, after the grace period, then
  `kmem_cache_destroy(cgw_cache)`. -/
  | destroyCache {s : GwSystem} :
      s.phase = .jobsRemoved → s.retired = [] → GwStep s { s with phase := .unloaded }

/-- The states the module can reach after `cgw_module_init`. -/
inductive Reachable : GwSystem → Prop
  | init : Reachable GwSystem.init
  | step {s s' : GwSystem} : Reachable s → GwStep header s s' → Reachable s'

/-- A CAN device of `init_net` at address 1 with index 1, up. -/
def can0 : NetDevice := ⟨1, 1, ARPHRD_CAN, true, true, 0⟩

/-- A request for the job from index 1 to index 1 with no modification and
the match-all filter; as `RTM_NEWROUTE` it adds the job, as `RTM_DELROUTE` it
names it. -/
def selfRoute : NlMsg :=
  let attrs := [⟨.srcIf, u32Image 1⟩, ⟨.dstIf, u32Image 1⟩]
  ⟨nlmsgLenOf attrs, ⟨AF_CAN, 1, 0⟩, attrs⟩

/-- `selfRoute` with a `CGW_MOD_AND` attribute whose selector byte 7 names the
identifier, the length and the data: the job ANDs each with the operand's. -/
def andRoute : NlMsg :=
  let attrs := [⟨.modAnd, (⟨⟨0x7FF, 8, 0, 0xFF⟩, 7⟩ : CgwFrameMod).image⟩, ⟨.srcIf, u32Image 1⟩, ⟨.dstIf, u32Image 1⟩]
  ⟨nlmsgLenOf attrs, ⟨AF_CAN, 1, 0⟩, attrs⟩

/-- The system after `can0` is registered and an `RTM_NEWROUTE` with the request
is handled, `kmem_cache_alloc` returning the object at address 7. -/
def routed (nlh : NlMsg) : GwSystem :=
  let registered := GwSystem.init.withGw (registerNetdevice .loaded GwSystem.init.gw can0)
  registered.withGw (cgwCreateJob ⟨1, 1, 2, 4, 1, 2⟩ ⟨true, 7, true⟩ registered.gw nlh).2

theorem routed_reachable (nlh : NlMsg) : Reachable ⟨1, 1, 2, 4, 1, 2⟩ (routed nlh) :=
  Reachable.step (Reachable.step .init (.registerDevice can0 (by decide)))
    (.createJob ⟨true, 7, true⟩ nlh rfl (by decide))

/-! ## What the steps do to the registry -/

theorem callNetdeviceNotifiers_of_ne {msg : Nat} (phase : ModulePhase) (st : GwState) (dev : NetDevice)
    (other : msg ≠ NETDEV_UNREGISTER) : callNetdeviceNotifiers phase st msg dev = st := by
  unfold callNetdeviceNotifiers
  split_ifs
  · rcases cgwNotifier_cases st msg dev with ⟨-, same⟩ | ⟨-, -, unregister, -⟩
    · exact same
    · exact absurd unregister other
  · rfl

theorem callNetdeviceNotifiers_of_unregistered {phase : ModulePhase} (st : GwState) (msg : Nat)
    (dev : NetDevice) (unregistered : phase.notifierRegistered = false) :
    callNetdeviceNotifiers phase st msg dev = st := by
  unfold callNetdeviceNotifiers
  rw [unregistered]
  rfl

@[simp] theorem callNetdeviceNotifiers_devices (phase : ModulePhase) (st : GwState) (msg : Nat)
    (dev : NetDevice) : (callNetdeviceNotifiers phase st msg dev).devices = st.devices := by
  unfold callNetdeviceNotifiers
  split_ifs <;> simp

theorem registerNetdevice_eq (phase : ModulePhase) (st : GwState) (dev : NetDevice) :
    registerNetdevice phase st dev = { st with devices := dev :: st.devices } :=
  callNetdeviceNotifiers_of_ne phase _ dev (by decide)

/-- A counter update changes no job's address, devices or configuration. -/
theorem GwState.mem_countJob {st : GwState} {job : JobPtr} {handled : Bool} {entry : JobPtr × CgwJob}
    (member : entry ∈ (st.countJob job handled).cgwList) :
    ∃ orig ∈ st.cgwList, entry.1 = orig.1 ∧ entry.2.src = orig.2.src ∧ entry.2.dst = orig.2.dst ∧
      entry.2.ccgw = orig.2.ccgw := by
  obtain ⟨orig, origMember, rfl⟩ := List.mem_map.mp member
  refine ⟨orig, origMember, ?_⟩
  split_ifs <;> cases handled <;> exact ⟨rfl, rfl, rfl, rfl⟩

@[simp] theorem GwState.countJob_rxKeys (st : GwState) (job : JobPtr) (handled : Bool) :
    (st.countJob job handled).cgwList.map rxKey = st.cgwList.map rxKey := by
  simp only [countJob, List.map_map]
  congr 1
  funext entry
  simp only [Function.comp]
  split_ifs <;> cases handled <;> rfl

/-! ## The receivers are those of the listed jobs -/

/-- The receivers this module holds are those of the listed jobs, entry for
entry, and every `can_rx_unregister` so far found its receiver. -/
def RxMatches (st : GwState) : Prop := st.rx.Perm (st.cgwList.map rxKey) ∧ st.rxMisses = 0

/-- Unlinking some listed jobs, unregistering their receivers and freeing them,
and keeping the others. -/
theorem RxMatches.unregister {st : GwState} {removed kept : List (JobPtr × CgwJob)}
    (holds : RxMatches st) (list : st.cgwList.Perm (removed ++ kept)) :
    RxMatches { (st.unregisterJobs removed).kfreeJobs removed with cgwList := kept } := by
  obtain ⟨receivers, misses⟩ := GwState.unregisterJobs_perm (holds.1.trans (list.map rxKey))
  simpa only [RxMatches, GwState.kfreeJobs_rx, GwState.kfreeJobs_rxMisses] using ⟨receivers, misses.trans holds.2⟩

theorem rxMatches_cgwRemoveAllJobs {st : GwState} (holds : RxMatches st) :
    RxMatches (cgwRemoveAllJobs st) :=
  holds.unregister (.of_eq (List.append_nil _).symm)

theorem rxMatches_cgwCreateJob {st : GwState} (env : CreateEnv) (nlh : NlMsg) (holds : RxMatches st) :
    RxMatches (cgwCreateJob header env st nlh).2 := by
  rcases cgwCreateJob_cases header env st nlh with ⟨-, same⟩ | ⟨gwj, -, listed⟩
  · rwa [same]
  · rw [listed]
    exact ⟨holds.1.cons _, holds.2⟩

theorem rxMatches_cgwRemoveJob {st : GwState} (nlh : NlMsg) (holds : RxMatches st) :
    RxMatches (cgwRemoveJob header st nlh).2 := by
  rcases cgwRemoveJob_cases header st nlh with
    ⟨-, same⟩ | ⟨_, _, -, ⟨-, -, flushed⟩ | ⟨before, entry, after, split, -, -, removed⟩⟩
  · rwa [same]
  · rw [flushed]
    exact rxMatches_cgwRemoveAllJobs holds
  · rw [removed]
    have list : st.cgwList.Perm ([entry] ++ (before ++ after)) := by
      rw [split]
      exact List.perm_middle
    exact holds.unregister list

theorem rxMatches_callNetdeviceNotifiers {st : GwState} (phase : ModulePhase) (msg : Nat)
    (dev : NetDevice) (holds : RxMatches st) : RxMatches (callNetdeviceNotifiers phase st msg dev) := by
  unfold callNetdeviceNotifiers
  split_ifs
  · rcases cgwNotifier_cases st msg dev with ⟨-, same⟩ | ⟨-, -, -, filtered⟩
    · rwa [same]
    · rw [filtered]
      exact holds.unregister (List.filter_append_perm _ _).symm
  · exact holds

/-- Every step keeps the receivers matched to the list. -/
theorem rxMatches_step {s s' : GwSystem} (holds : RxMatches s.gw) (step : GwStep header s s') :
    RxMatches s'.gw := by
  cases step with
  | createJob env nlh => exact rxMatches_cgwCreateJob header env nlh holds
  | removeJob nlh => exact rxMatches_cgwRemoveJob header nlh holds
  | registerDevice dev => exact rxMatches_callNetdeviceNotifiers _ _ dev holds
  | unregisterDevice dev => exact rxMatches_callNetdeviceNotifiers _ _ dev holds
  | rcvCount job handled =>
      refine ⟨?_, holds.2⟩
      rw [GwState.countJob_rxKeys]
      exact holds.1
  | removeAllJobs => exact rxMatches_cgwRemoveAllJobs holds
  | rcvStart | rcvEnd | gracePeriod | unregisterRtnl | unregisterNotifier | destroyCache => exact holds

theorem rxMatches_of_reachable {s : GwSystem} (reachable : Reachable header s) : RxMatches s.gw := by
  induction reachable with
  | init => exact ⟨.nil, rfl⟩
  | step _ step holds => exact rxMatches_step header holds step

/-- In every reachable state the receivers this module registered and has not
unregistered are, entry for entry, those of the jobs on `cgw_list`, and no
`cgw_unregister_filter` has missed its receiver. -/
theorem rx_perm_cgwList {s : GwSystem} (reachable : Reachable header s) :
    s.gw.rx.Perm (s.gw.cgwList.map rxKey) ∧ s.gw.rxMisses = 0 :=
  rxMatches_of_reachable header reachable

theorem rx_perm_cgwList_andRoute :
    (routed andRoute).gw.cgwList ≠ [] ∧
      (routed andRoute).gw.rx.Perm ((routed andRoute).gw.cgwList.map rxKey) ∧ (routed andRoute).gw.rxMisses = 0 :=
  ⟨by decide, rx_perm_cgwList _ (routed_reachable andRoute)⟩

/-! ## The objects of `cgw_cache` are the listed jobs -/

theorem cgwList_sublist_cgwRemoveJob (st : GwState) (nlh : NlMsg) :
    (cgwRemoveJob header st nlh).2.cgwList.Sublist st.cgwList := by
  rcases cgwRemoveJob_cases header st nlh with
    ⟨-, same⟩ | ⟨_, _, -, ⟨-, -, flushed⟩ | ⟨before, _, after, split, -, -, removed⟩⟩
  · rw [same]
  · rw [flushed]
    exact List.nil_sublist _
  · rw [removed, split]
    exact (List.sublist_cons_self _ after).append_left before

theorem cgwList_sublist_callNetdeviceNotifiers (phase : ModulePhase) (st : GwState) (msg : Nat) (dev : NetDevice) :
    (callNetdeviceNotifiers phase st msg dev).cgwList.Sublist st.cgwList := by
  unfold callNetdeviceNotifiers
  split_ifs
  · rcases cgwNotifier_cases st msg dev with ⟨-, same⟩ | ⟨-, -, -, removed⟩
    · rw [same]
    · rw [removed]
      exact List.filter_sublist _
  · exact List.Sublist.refl _

theorem GwState.allocated_countJob (st : GwState) (job : JobPtr) (handled : Bool) :
    (st.countJob job handled).cgwList.map Prod.fst = st.cgwList.map Prod.fst := by
  simp only [countJob, List.map_map]
  congr 1
  funext entry
  simp only [Function.comp]
  split_ifs <;> rfl

/-- The objects of `cgw_cache` in use are those of the listed jobs, one per job. -/
def CacheInv (st : GwState) : Prop :=
  st.cache.Perm (st.cgwList.map Prod.fst) ∧ (st.cgwList.map Prod.fst).Nodup

/-- Unlinking some listed jobs, unregistering their receivers and freeing
them, and keeping the others. -/
theorem CacheInv.release {st : GwState} {removed kept : List (JobPtr × CgwJob)} (holds : CacheInv st)
    (list : st.cgwList.Perm (removed ++ kept)) :
    CacheInv { (st.unregisterJobs removed).kfreeJobs removed with cgwList := kept } := by
  have cache : (st.unregisterJobs removed).cache.Perm ((removed ++ kept).map Prod.fst) := by
    rw [GwState.unregisterJobs_cache]
    exact holds.1.trans (list.map Prod.fst)
  exact ⟨GwState.kfreeJobs_perm cache,
    ((list.map Prod.fst).nodup_iff.mp holds.2).sublist ((List.sublist_append_right removed kept).map _)⟩

theorem cacheInv_cgwCreateJob {st : GwState} (env : CreateEnv) (nlh : NlMsg) (fresh : env.addr ∉ st.cache)
    (holds : CacheInv st) : CacheInv (cgwCreateJob header env st nlh).2 := by
  rcases cgwCreateJob_cases header env st nlh with ⟨-, same⟩ | ⟨gwj, -, listed⟩
  · rwa [same]
  · rw [listed]
    exact ⟨holds.1.cons _, List.nodup_cons.mpr ⟨fun listed => fresh (holds.1.mem_iff.mpr listed), holds.2⟩⟩

theorem cacheInv_cgwRemoveAllJobs {st : GwState} (holds : CacheInv st) : CacheInv (cgwRemoveAllJobs st) :=
  holds.release (.of_eq (List.append_nil _).symm)

theorem cacheInv_cgwRemoveJob {st : GwState} (nlh : NlMsg) (holds : CacheInv st) :
    CacheInv (cgwRemoveJob header st nlh).2 := by
  rcases cgwRemoveJob_cases header st nlh with
    ⟨-, same⟩ | ⟨_, _, -, ⟨-, -, flushed⟩ | ⟨before, entry, after, split, -, -, removed⟩⟩
  · rwa [same]
  · rw [flushed]
    exact cacheInv_cgwRemoveAllJobs holds
  · rw [removed]
    have list : st.cgwList.Perm ([entry] ++ (before ++ after)) := by
      rw [split]
      exact List.perm_middle
    exact holds.release list

theorem cacheInv_callNetdeviceNotifiers {st : GwState} (phase : ModulePhase) (msg : Nat)
    (dev : NetDevice) (holds : CacheInv st) : CacheInv (callNetdeviceNotifiers phase st msg dev) := by
  unfold callNetdeviceNotifiers
  split_ifs
  · rcases cgwNotifier_cases st msg dev with ⟨-, same⟩ | ⟨-, -, -, filtered⟩
    · rwa [same]
    · rw [filtered]
      exact holds.release (List.filter_append_perm _ _).symm
  · exact holds

/-- Every step keeps the objects of `cgw_cache` in use those of the listed
jobs: `kmem_cache_alloc` returns an object not in use. -/
theorem cacheInv_step {s s' : GwSystem} (holds : CacheInv s.gw) (step : GwStep header s s') :
    CacheInv s'.gw := by
  cases step with
  | createJob env nlh _ fresh => exact cacheInv_cgwCreateJob header env nlh fresh holds
  | removeJob nlh => exact cacheInv_cgwRemoveJob header nlh holds
  | registerDevice dev => exact cacheInv_callNetdeviceNotifiers _ _ dev holds
  | unregisterDevice dev => exact cacheInv_callNetdeviceNotifiers _ _ dev holds
  | rcvCount job handled =>
      unfold CacheInv
      rw [GwState.allocated_countJob]
      exact holds
  | removeAllJobs => exact cacheInv_cgwRemoveAllJobs holds
  | rcvStart | rcvEnd | gracePeriod | unregisterRtnl | unregisterNotifier | destroyCache => exact holds

theorem cacheInv_of_reachable {s : GwSystem} (reachable : Reachable header s) : CacheInv s.gw := by
  induction reachable with
  | init => exact ⟨.nil, List.nodup_nil⟩
  | step _ step holds => exact cacheInv_step header holds step

/-- In every reachable state the objects of `cgw_cache` in use are those of the
listed jobs, one per job, and no two listed jobs share an address: no exit of
`cgw_create_job` leaks its object, and every path that unlinks a job frees it. -/
theorem cgwCache_perm_cgwList {s : GwSystem} (reachable : Reachable header s) :
    s.gw.cache.Perm (s.gw.cgwList.map Prod.fst) ∧ (s.gw.cgwList.map Prod.fst).Nodup :=
  cacheInv_of_reachable header reachable

theorem cgwCache_perm_cgwList_andRoute :
    (routed andRoute).gw.cache = [7] ∧
      (routed andRoute).gw.cache.Perm ((routed andRoute).gw.cgwList.map Prod.fst) ∧
      ((routed andRoute).gw.cgwList.map Prod.fst).Nodup :=
  ⟨by decide, cgwCache_perm_cgwList _ (routed_reachable andRoute)⟩

/-- Listed jobs have distinct addresses. -/
theorem cgwList_nodup_of_reachable {s : GwSystem} (reachable : Reachable header s) :
    (s.gw.cgwList.map Prod.fst).Nodup :=
  (cacheInv_of_reachable header reachable).2

/-- A job is freed while an invocation on it runs: a frame on `can0` starts
`can_can_gw_rcv` on the job from `can0` to itself, and before it returns an
`RTM_DELROUTE` for the job unlinks it, unregisters its receiver and frees it. -/
theorem cgwRemoveJob_frees_running_job :
    ∃ s, Reachable ⟨1, 1, 2, 4, 1, 2⟩ s ∧ ∃ job ∈ s.running, job ∉ s.allocated := by
  have started := (routed_reachable andRoute).step (.rcvStart ⟨1, 0, 0, 7⟩ (.inl (by decide)))
  have removed := started.step (.removeJob andRoute rfl)
  set_option maxRecDepth 2000 in
  exact ⟨_, removed, 7, by decide, by decide⟩

/-! ## Listed jobs are on registered devices -/

/-- Every listed job's devices are registered CAN devices of `init_net` with the
job's indices. -/
def JobsOnDevices (st : GwState) : Prop :=
  ∀ entry ∈ st.cgwList, CanDevice st.devices entry.2.src entry.2.ccgw.srcIdx ∧
    CanDevice st.devices entry.2.dst entry.2.ccgw.dstIdx

/-- Fewer jobs on the same devices. -/
theorem JobsOnDevices.mono {st st' : GwState} (holds : JobsOnDevices st)
    (devices : st'.devices = st.devices) (fewer : ∀ entry ∈ st'.cgwList, entry ∈ st.cgwList) :
    JobsOnDevices st' := by
  intro entry member
  rw [devices]
  exact holds entry (fewer entry member)

theorem CanDevice.of_filter {devices : List NetDevice} {ptr gone : DevPtr} {ifindex : BitVec 32}
    (device : CanDevice devices ptr ifindex) (other : ptr ≠ gone) :
    CanDevice (devices.filter fun dev => dev.ptr ≠ gone) ptr ifindex := by
  obtain ⟨dev, member, samePtr, rest⟩ := device
  exact ⟨dev, List.mem_filter.mpr ⟨member, by simpa [samePtr] using other⟩, samePtr, rest⟩

/-- The only device at a CAN device's address is that CAN device. -/
theorem CanDevice.ptr_ne {devices : List NetDevice} {ptr : DevPtr} {ifindex : BitVec 32}
    {dev : NetDevice} (device : CanDevice devices ptr ifindex)
    (distinct : (devices.map NetDevice.ptr).Nodup) (member : dev ∈ devices)
    (notCan : ¬ (dev.initNet = true ∧ dev.type = ARPHRD_CAN)) : ptr ≠ dev.ptr := by
  obtain ⟨found, foundMember, rfl, -, can, init⟩ := device
  intro samePtr
  rw [List.inj_on_of_nodup_map distinct foundMember member samePtr] at can init
  exact notCan ⟨init, can⟩

theorem jobsOnDevices_cgwCreateJob {st : GwState} (env : CreateEnv) (nlh : NlMsg)
    (holds : JobsOnDevices st) : JobsOnDevices (cgwCreateJob header env st nlh).2 := by
  rcases cgwCreateJob_cases header env st nlh with ⟨-, same⟩ | ⟨gwj, created, listed⟩
  · rwa [same]
  rw [listed]
  intro entry member
  rcases List.mem_cons.mp member with rfl | member
  · exact ⟨created.srcFound.canDevice, created.dstFound.canDevice⟩
  · exact holds entry member

/-- Unregistering a device while the notifier is registered removes the jobs
that use it, so the others stay on registered devices. -/
theorem jobsOnDevices_unregisterNetdevice {st : GwState} {phase : ModulePhase} {dev : NetDevice}
    (registered : phase.notifierRegistered = true) (member : dev ∈ st.devices)
    (distinct : (st.devices.map NetDevice.ptr).Nodup) (holds : JobsOnDevices st) :
    JobsOnDevices (unregisterNetdevice phase st dev) := by
  intro entry kept
  simp only [unregisterNetdevice, callNetdeviceNotifiers, registered, if_true,
    cgwNotifier_devices] at kept ⊢
  obtain ⟨srcDevice, dstDevice⟩ := holds entry (mem_of_mem_cgwNotifier kept)
  have untouched : entry.2.src ≠ dev.ptr ∧ entry.2.dst ≠ dev.ptr := by
    rcases cgwNotifier_cases st NETDEV_UNREGISTER dev with ⟨ignored, -⟩ | ⟨-, -, -, filtered⟩
    · have notCan : ¬ (dev.initNet = true ∧ dev.type = ARPHRD_CAN) := fun ⟨init, can⟩ =>
        ignored ⟨init, can, rfl⟩
      exact ⟨srcDevice.ptr_ne distinct member notCan, dstDevice.ptr_ne distinct member notCan⟩
    · rw [filtered] at kept
      simpa [touches, not_or] using (List.mem_filter.mp kept).2
  exact ⟨srcDevice.of_filter untouched.1, dstDevice.of_filter untouched.2⟩

theorem CanDevice.cons {devices : List NetDevice} {ptr : DevPtr} {ifindex : BitVec 32}
    (device : CanDevice devices ptr ifindex) (dev : NetDevice) : CanDevice (dev :: devices) ptr ifindex := by
  obtain ⟨found, member, rest⟩ := device
  exact ⟨found, List.mem_cons_of_mem dev member, rest⟩

/-- What holds in every phase: device addresses are distinct; while the
notifier is registered the listed jobs are on registered devices; once
`cgw_remove_all_jobs` has run no job is listed. -/
structure DevicesInv (s : GwSystem) : Prop where
  distinct : (s.gw.devices.map NetDevice.ptr).Nodup
  onDevices : s.phase.notifierRegistered = true → JobsOnDevices s.gw
  emptied : s.phase = .jobsRemoved ∨ s.phase = .unloaded → s.gw.cgwList = []

theorem devicesInv_step {s s' : GwSystem} (holds : DevicesInv s) (step : GwStep header s s') :
    DevicesInv s' := by
  cases step with
  | createJob env nlh loaded _ =>
      exact ⟨by simpa using holds.distinct,
        fun _ => jobsOnDevices_cgwCreateJob header env nlh (holds.onDevices (by simp [loaded])),
        fun phase => by simp [loaded] at phase⟩
  | removeJob nlh loaded =>
      refine ⟨by simpa using holds.distinct, fun _ => ?_, fun phase => by simp [loaded] at phase⟩
      exact (holds.onDevices (by simp [loaded])).mono (cgwRemoveJob_devices header s.gw nlh)
        fun _ => mem_of_mem_cgwRemoveJob header
  | registerDevice dev fresh =>
      simp only [GwSystem.withGw, registerNetdevice_eq]
      refine ⟨List.nodup_cons.mpr ⟨fresh, holds.distinct⟩, fun registered entry member => ?_, holds.emptied⟩
      obtain ⟨srcDevice, dstDevice⟩ := holds.onDevices registered entry member
      exact ⟨srcDevice.cons dev, dstDevice.cons dev⟩
  | unregisterDevice dev member =>
      refine ⟨?_, fun registered => jobsOnDevices_unregisterNetdevice registered member holds.distinct
        (holds.onDevices registered), fun phase => ?_⟩
      · simp only [unregisterNetdevice, callNetdeviceNotifiers_devices]
        exact holds.distinct.sublist ((List.filter_sublist _).map _)
      · have unregistered : s.phase.notifierRegistered = false := by
          rcases phase with phase | phase <;> simp only [GwSystem.withGw_phase] at phase <;> simp [phase]
        simp only [unregisterNetdevice, callNetdeviceNotifiers_of_unregistered _ _ _ unregistered]
        exact holds.emptied phase
  | rcvCount job handled _ =>
      refine ⟨holds.distinct, fun registered entry member => ?_, fun phase => ?_⟩
      · obtain ⟨orig, origMember, -, src, dst, ccgw⟩ := GwState.mem_countJob member
        rw [src, dst, ccgw]
        exact holds.onDevices registered orig origMember
      · simp [GwState.countJob, holds.emptied phase]
  | removeAllJobs _ => exact ⟨by simpa using holds.distinct, fun registered => by simp at registered, fun _ => rfl⟩
  | unregisterRtnl loaded =>
      exact ⟨holds.distinct, fun _ => holds.onDevices (by simp [loaded]), fun phase => by simp at phase⟩
  | unregisterNotifier _ =>
      exact ⟨holds.distinct, fun registered => by simp at registered, fun phase => by simp at phase⟩
  | destroyCache removed _ =>
      exact ⟨holds.distinct, fun registered => by simp at registered, fun _ => holds.emptied (.inl removed)⟩
  | rcvStart | rcvEnd | gracePeriod => exact ⟨holds.distinct, holds.onDevices, holds.emptied⟩

theorem devicesInv_of_reachable {s : GwSystem} (reachable : Reachable header s) : DevicesInv s := by
  induction reachable with
  | init => exact ⟨List.nodup_nil, fun _ _ member => by simp [GwSystem.init] at member, fun _ => rfl⟩
  | step _ step holds => exact devicesInv_step header holds step

/-- While `cgw_notifier` is registered, every listed job's devices are
registered CAN devices of `init_net` with the job's indices. -/
theorem jobsOnDevices_of_reachable {s : GwSystem} (reachable : Reachable header s)
    (registered : s.phase.notifierRegistered = true) : JobsOnDevices s.gw :=
  (devicesInv_of_reachable header reachable).onDevices registered

/-- The job from `can0` to itself outlives `can0`: the module is being unloaded,
`cgw_notifier` is already off the chain when `can0` is unregistered, and
`cgw_remove_all_jobs` has not run yet. -/
theorem cgwModuleExit_keeps_job_on_unregistered_device :
    ∃ s, Reachable ⟨1, 1, 2, 4, 1, 2⟩ s ∧ s.phase = .notifierUnregistered ∧
      ∃ entry ∈ s.gw.cgwList, entry.2.src ∉ s.gw.devices.map NetDevice.ptr ∧
        entry.2.dst ∉ s.gw.devices.map NetDevice.ptr := by
  have rtnlGone := (routed_reachable andRoute).step (.unregisterRtnl rfl)
  have notifierGone := rtnlGone.step (.unregisterNotifier rfl)
  have unplugged := notifierGone.step (.unregisterDevice can0 (by decide))
  exact ⟨_, unplugged, rfl, by decide⟩

end CanGw
