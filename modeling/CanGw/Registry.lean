import CanGw.Rcv
import Mathlib.Data.List.Perm.Basic

/-!
# The job registry

The management side of `gw.c`: `cgw_create_job`, `cgw_remove_job`,
`cgw_remove_all_jobs` and `cgw_notifier`, each a function of the gateway state
`GwState`: the registered devices, `cgw_list` (head first), and the receivers
this module holds in the CAN core.

The CAN core and the device layer appear through what the source calls:
`dev_get_by_index` and `dev_put` move a device's reference count,
`can_rx_register` adds a receiver (or fails, as the allocation in `CreateEnv`
says), and `can_rx_unregister` removes one. When `can_rx_unregister` finds no
such receiver the CAN core only logs an error; `rxMisses` counts those calls.

`unregisterJobs_perm` is the one fact about removal that everything else uses:
unregistering the receivers of some jobs of the list leaves exactly the
receivers of the others. Each operation then has one lemma that says
everything it can do to the list and the receivers (`cgwCreateJob_cases`,
`cgwRemoveJob_cases`, `cgwNotifier_cases`).

The `goto` ladder of `cgw_create_job` puts back every device reference it took
(`devPut_devHold`), so its device part is either a failure with the state it was
given or `cgw_register_filter` of the job (`cgwCreateAttach_eq_register`). The
removal laws state the whole new list and receiver list: a flush or the
notifier unregisters one receiver per removed job (`unregisterJobs_rx`).

The last section is about how the operations compose: a DEL sent right after
an accepted ADD of the same request gives back the state before the ADD, and
`cgw_notifier` run twice for one device does no more than once.
-/

namespace CanGw

variable (header : GwHeader)

/-- `ARPHRD_CAN`, the device type of a CAN interface. -/
def ARPHRD_CAN : Nat := 280

/-- `NETDEV_UNREGISTER`. -/
def NETDEV_UNREGISTER : Nat := 6

/-- A registered network device, with what the gateway reads of it. -/
structure NetDevice where
  ptr : DevPtr
  ifindex : BitVec 32
  type : Nat
  initNet : Bool
  up : Bool
  refcnt : Nat
  deriving DecidableEq, Repr

/-- A receiver registered by this module: device, filter and the job passed as
`data`. The function is always `can_can_gw_rcv`. -/
structure RxEntry where
  dev : DevPtr
  canId : BitVec 32
  canMask : BitVec 32
  job : JobPtr
  deriving DecidableEq, Repr

/-- The receiver key `cgw_register_filter` and `cgw_unregister_filter` pass for a job. -/
def rxKey (entry : JobPtr × CgwJob) : RxEntry :=
  ⟨entry.2.src, entry.2.ccgw.filter.canId, entry.2.ccgw.filter.canMask, entry.1⟩

/-- The state the management operations act on: the registered devices,
`cgw_list`, the receivers this module holds in the CAN core, how many
`can_rx_unregister` calls found no receiver, and the objects of `cgw_cache` in
use. -/
structure GwState where
  devices : List NetDevice
  cgwList : List (JobPtr × CgwJob)
  rx : List RxEntry
  rxMisses : Nat
  cache : List JobPtr

namespace GwState

/-- Change one device's reference count. -/
def mapRefcnt (st : GwState) (ptr : DevPtr) (change : Nat → Nat) : GwState :=
  { st with devices := st.devices.map fun dev =>
      if dev.ptr = ptr then { dev with refcnt := change dev.refcnt } else dev }

/-- `dev_hold`, the reference `dev_get_by_index` takes. -/
def devHold (st : GwState) (ptr : DevPtr) : GwState := st.mapRefcnt ptr (· + 1)

/-- `dev_put`. -/
def devPut (st : GwState) (ptr : DevPtr) : GwState := st.mapRefcnt ptr (· - 1)

/-- `dev_get_by_index(&init_net, ifindex)`: the device of that index in
`init_net`; the caller takes a reference with `devHold`. -/
def devGetByIndex (st : GwState) (ifindex : BitVec 32) : Option NetDevice :=
  st.devices.find? fun dev => dev.initNet && dev.ifindex = ifindex

/-- `can_rx_unregister` of a receiver key. -/
def rxUnregister (st : GwState) (key : RxEntry) : GwState :=
  if key ∈ st.rx then { st with rx := st.rx.erase key } else { st with rxMisses := st.rxMisses + 1 }

/-- `cgw_unregister_filter` for each job of a list, in order. -/
def unregisterJobs (st : GwState) (entries : List (JobPtr × CgwJob)) : GwState :=
  entries.foldl (fun st entry => st.rxUnregister (rxKey entry)) st

/-- `kmem_cache_alloc(cgw_cache, GFP_KERNEL)` returning the object at `addr`. -/
def kmemCacheAlloc (st : GwState) (addr : JobPtr) : GwState := { st with cache := addr :: st.cache }

/-- `kmem_cache_free(cgw_cache, gwj)`; `kfree(gwj)` of an object of `cgw_cache`
does the same. -/
def kmemCacheFree (st : GwState) (addr : JobPtr) : GwState := { st with cache := st.cache.erase addr }

/-- `kfree` of each job of a list, in order. -/
def kfreeJobs (st : GwState) (entries : List (JobPtr × CgwJob)) : GwState :=
  entries.foldl (fun st entry => st.kmemCacheFree entry.1) st

end GwState

/-- What `kmem_cache_alloc` and `can_rx_register` decide for one `cgw_create_job`. -/
structure CreateEnv where
  allocOk : Bool
  addr : JobPtr
  rxOk : Bool
  deriving DecidableEq, Repr

/-- The part of `cgw_create_job` after a successful `dev_get_by_index` of both
devices of the right type: `cgw_register_filter` under the list lock, and on
success `hlist_add_head_rcu`. -/
def cgwRegisterJob (env : CreateEnv) (st : GwState) (gwj : CgwJob) : Int × GwState :=
  if env.rxOk then
    (0, { st with rx := rxKey (env.addr, gwj) :: st.rx, cgwList := (env.addr, gwj) :: st.cgwList })
  else (-ENOMEM, st)

/-- The device part of `cgw_create_job`, from the parsed attributes to the
`goto` ladder that releases the device references on every path. -/
def cgwCreateAttach (env : CreateEnv) (st : GwState) (rtcan : RtCanMsg) (mod : CfMod)
    (ccgw : CanCanGw) : Int × GwState :=
  if ccgw.srcIdx = 0 ∨ ccgw.dstIdx = 0 then (-ENODEV, st)
  else match st.devGetByIndex ccgw.srcIdx with
    | none => (-ENODEV, st)
    | some src =>
        let st := st.devHold src.ptr
        if src.type ≠ ARPHRD_CAN then (-ENODEV, st.devPut src.ptr)
        else match st.devGetByIndex ccgw.dstIdx with
          | none => (-ENODEV, st.devPut src.ptr)
          | some dst =>
              let st := st.devHold dst.ptr
              if dst.type ≠ ARPHRD_CAN then (-ENODEV, (st.devPut dst.ptr).devPut src.ptr)
              else
                let gwj : CgwJob := ⟨0, 0, mod, src.ptr, dst.ptr, ccgw, rtcan.gwtype, rtcan.flags⟩
                let (err, st) := cgwRegisterJob env st gwj
                (err, (st.devPut dst.ptr).devPut src.ptr)

/-- The `out:` label of `cgw_create_job`: on an error the job's object goes
back to `cgw_cache`. -/
def cgwCreateOut (addr : JobPtr) (result : Int × GwState) : Int × GwState :=
  if result.1 ≠ 0 then (result.1, result.2.kmemCacheFree addr) else result

/-- `cgw_create_job`: the `RTM_NEWROUTE` handler. -/
def cgwCreateJob (env : CreateEnv) (st : GwState) (nlh : NlMsg) : Int × GwState :=
  if nlh.payloadLen < RTCANMSG_LEN then (-EINVAL, st)
  else if nlh.rtcan.canFamily ≠ AF_CAN then (-EPFNOSUPPORT, st)
  else if nlh.rtcan.gwtype ≠ header.cgwTypeCanCan then (-EINVAL, st)
  else if !env.allocOk then (-ENOMEM, st)
  else
    let st := st.kmemCacheAlloc env.addr
    cgwCreateOut env.addr <| match cgwParseAttr header nlh with
      | .error err => (err, st)
      | .ok (mod, ccgw) => cgwCreateAttach env st nlh.rtcan mod ccgw

/-- `cgw_remove_all_jobs`: unlink, unregister and free every job. The receivers
and the objects are apart, so unregistering all, then freeing all, is what the
loop leaves. -/
def cgwRemoveAllJobs (st : GwState) : GwState :=
  { (st.unregisterJobs st.cgwList).kfreeJobs st.cgwList with cgwList := [] }

/-- The three comparisons `cgw_remove_job` makes: flags, then `memcmp` of the
`cf_mod`, then `memcmp` of the `can_can_gw`. -/
def cgwJobMatches (flags : BitVec 16) (mod : CfMod) (ccgw : CanCanGw) (gwj : CgwJob) : Bool :=
  gwj.flags = flags && gwj.mod = mod && gwj.ccgw = ccgw

/-- The loop of `cgw_remove_job`: the first matching job is unlinked and
returned; every other job keeps its place. -/
def cgwRemoveFirst (found : CgwJob → Bool) :
    List (JobPtr × CgwJob) → Option (JobPtr × CgwJob) × List (JobPtr × CgwJob)
  | [] => (none, [])
  | entry :: rest =>
      if found entry.2 then (some entry, rest)
      else
        let result := cgwRemoveFirst found rest
        (result.1, entry :: result.2)

/-- `cgw_remove_job`: the `RTM_DELROUTE` handler. -/
def cgwRemoveJob (st : GwState) (nlh : NlMsg) : Int × GwState :=
  if nlh.payloadLen < RTCANMSG_LEN then (-EINVAL, st)
  else if nlh.rtcan.canFamily ≠ AF_CAN then (-EPFNOSUPPORT, st)
  else if nlh.rtcan.gwtype ≠ header.cgwTypeCanCan then (-EINVAL, st)
  else match cgwParseAttr header nlh with
    | .error err => (err, st)
    | .ok (mod, ccgw) =>
        if ccgw.srcIdx = 0 ∧ ccgw.dstIdx = 0 then (0, cgwRemoveAllJobs st)
        else match cgwRemoveFirst (cgwJobMatches nlh.rtcan.flags mod ccgw) st.cgwList with
          | (none, _) => (-EINVAL, st)
          | (some entry, rest) => (0, ({ st.rxUnregister (rxKey entry) with cgwList := rest }).kmemCacheFree entry.1)

/-- Whether a job uses a device as source or destination. -/
def touches (dev : DevPtr) (entry : JobPtr × CgwJob) : Bool :=
  entry.2.src = dev || entry.2.dst = dev

/-- `cgw_notifier(msg, dev)`: on `NETDEV_UNREGISTER` of a CAN device of
`init_net`, remove every job that uses it. -/
def cgwNotifier (st : GwState) (msg : Nat) (dev : NetDevice) : GwState :=
  if !dev.initNet then st
  else if dev.type ≠ ARPHRD_CAN then st
  else if msg = NETDEV_UNREGISTER then
    { (st.unregisterJobs (st.cgwList.filter (touches dev.ptr))).kfreeJobs (st.cgwList.filter (touches dev.ptr)) with
      cgwList := st.cgwList.filter fun entry => !touches dev.ptr entry }
  else st

/-! ## What each operation can do -/

/-- A device of `init_net` and type `ARPHRD_CAN` with the given address and index. -/
def CanDevice (devices : List NetDevice) (ptr : DevPtr) (ifindex : BitVec 32) : Prop :=
  ∃ dev ∈ devices, dev.ptr = ptr ∧ dev.ifindex = ifindex ∧ dev.type = ARPHRD_CAN ∧ dev.initNet = true

namespace GwState

@[simp] theorem mapRefcnt_cgwList (st : GwState) (ptr : DevPtr) (change : Nat → Nat) :
    (st.mapRefcnt ptr change).cgwList = st.cgwList := rfl

@[simp] theorem mapRefcnt_rx (st : GwState) (ptr : DevPtr) (change : Nat → Nat) :
    (st.mapRefcnt ptr change).rx = st.rx := rfl

@[simp] theorem mapRefcnt_rxMisses (st : GwState) (ptr : DevPtr) (change : Nat → Nat) :
    (st.mapRefcnt ptr change).rxMisses = st.rxMisses := rfl

theorem mapRefcnt_mapRefcnt (st : GwState) (ptr : DevPtr) (change change' : Nat → Nat) :
    (st.mapRefcnt ptr change).mapRefcnt ptr change' = st.mapRefcnt ptr (change' ∘ change) := by
  simp only [mapRefcnt, List.map_map, mk.injEq, and_true]
  congr 1
  funext dev
  by_cases same : dev.ptr = ptr <;> simp [same]

theorem mapRefcnt_id (st : GwState) (ptr : DevPtr) : st.mapRefcnt ptr (fun refcnt => refcnt) = st := by
  simp [mapRefcnt]

/-- A `dev_put` after a `dev_hold` of the same device gives back the state. -/
@[simp] theorem devPut_devHold (st : GwState) (ptr : DevPtr) : (st.devHold ptr).devPut ptr = st := by
  rw [devPut, devHold, mapRefcnt_mapRefcnt]
  exact mapRefcnt_id st ptr

/-- The puts after registering a job between two holds leave only the registration. -/
theorem devPut_devPut_registered (st : GwState) (src dst : DevPtr) (rx : List RxEntry)
    (list : List (JobPtr × CgwJob)) :
    (({ (st.devHold src).devHold dst with rx := rx, cgwList := list } : GwState).devPut dst).devPut src =
      { st with rx := rx, cgwList := list } :=
  congrArg (fun restored : GwState => ({ restored with rx := rx, cgwList := list } : GwState))
    (show ((st.devHold src).devHold dst |>.devPut dst).devPut src = st by rw [devPut_devHold, devPut_devHold])

theorem devGetByIndex_mapRefcnt (st : GwState) (ptr : DevPtr) (change : Nat → Nat) (ifindex : BitVec 32) :
    (st.mapRefcnt ptr change).devGetByIndex ifindex = (st.devGetByIndex ifindex).map fun dev =>
      if dev.ptr = ptr then { dev with refcnt := change dev.refcnt } else dev := by
  simp only [devGetByIndex, mapRefcnt, List.find?_map]
  congr 2
  funext dev
  by_cases same : dev.ptr = ptr <;> simp [same]

/-- The device `dev_get_by_index` returns is a registered device of `init_net`
with that index. -/
theorem devGetByIndex_spec {st : GwState} {ifindex : BitVec 32} {dev : NetDevice}
    (found : st.devGetByIndex ifindex = some dev) :
    dev ∈ st.devices ∧ dev.initNet = true ∧ dev.ifindex = ifindex := by
  have matched := List.find?_some found
  simp only [Bool.and_eq_true, decide_eq_true_eq] at matched
  exact ⟨List.mem_of_find?_eq_some found, matched⟩

@[simp] theorem rxUnregister_devices (st : GwState) (key : RxEntry) :
    (st.rxUnregister key).devices = st.devices := by
  unfold rxUnregister; split <;> rfl

@[simp] theorem rxUnregister_cgwList (st : GwState) (key : RxEntry) :
    (st.rxUnregister key).cgwList = st.cgwList := by
  unfold rxUnregister; split <;> rfl

/-- `can_rx_unregister` removes one receiver with the key, if there is one. -/
@[simp] theorem rxUnregister_rx (st : GwState) (key : RxEntry) : (st.rxUnregister key).rx = st.rx.erase key := by
  unfold rxUnregister
  split_ifs with present
  · rfl
  · exact (List.erase_of_not_mem present).symm

@[simp] theorem unregisterJobs_devices (st : GwState) (entries : List (JobPtr × CgwJob)) :
    (st.unregisterJobs entries).devices = st.devices := by
  induction entries generalizing st with
  | nil => rfl
  | cons entry rest inductionHypothesis =>
      simp only [unregisterJobs, List.foldl_cons] at inductionHypothesis ⊢
      rw [inductionHypothesis, rxUnregister_devices]

@[simp] theorem unregisterJobs_cgwList (st : GwState) (entries : List (JobPtr × CgwJob)) :
    (st.unregisterJobs entries).cgwList = st.cgwList := by
  induction entries generalizing st with
  | nil => rfl
  | cons entry rest inductionHypothesis =>
      simp only [unregisterJobs, List.foldl_cons] at inductionHypothesis ⊢
      rw [inductionHypothesis, rxUnregister_cgwList]

/-- Unregistering the receivers of some jobs removes one receiver per job. -/
theorem unregisterJobs_rx (st : GwState) (entries : List (JobPtr × CgwJob)) :
    (st.unregisterJobs entries).rx = st.rx.diff (entries.map rxKey) := by
  induction entries generalizing st with
  | nil => rfl
  | cons entry rest inductionHypothesis =>
      simp only [unregisterJobs, List.foldl_cons, List.map_cons, List.diff_cons] at inductionHypothesis ⊢
      rw [inductionHypothesis, rxUnregister_rx]

/-- When the receivers are those of `removed ++ kept`, unregistering the
receivers of `removed` finds each of them and leaves those of `kept`. -/
theorem unregisterJobs_perm {st : GwState} {removed kept : List (JobPtr × CgwJob)}
    (matching : st.rx.Perm ((removed ++ kept).map rxKey)) :
    (st.unregisterJobs removed).rx.Perm (kept.map rxKey) ∧
      (st.unregisterJobs removed).rxMisses = st.rxMisses := by
  induction removed generalizing st with
  | nil => simpa [unregisterJobs] using matching
  | cons entry rest inductionHypothesis =>
      have present : rxKey entry ∈ st.rx := matching.mem_iff.mpr (by simp)
      have erased : (st.rx.erase (rxKey entry)).Perm ((rest ++ kept).map rxKey) := by
        simpa using matching.erase (rxKey entry)
      have next := @inductionHypothesis { st with rx := st.rx.erase (rxKey entry) } erased
      simpa [unregisterJobs, rxUnregister, present] using next


@[simp] theorem mapRefcnt_cache (st : GwState) (ptr : DevPtr) (change : Nat → Nat) :
    (st.mapRefcnt ptr change).cache = st.cache := rfl

@[simp] theorem rxUnregister_cache (st : GwState) (key : RxEntry) : (st.rxUnregister key).cache = st.cache := by
  unfold rxUnregister; split <;> rfl

@[simp] theorem unregisterJobs_cache (st : GwState) (entries : List (JobPtr × CgwJob)) :
    (st.unregisterJobs entries).cache = st.cache := by
  induction entries generalizing st with
  | nil => rfl
  | cons entry rest inductionHypothesis =>
      simp only [unregisterJobs, List.foldl_cons] at inductionHypothesis ⊢
      rw [inductionHypothesis, rxUnregister_cache]

/-- A free right after the allocation gives back the state. -/
@[simp] theorem kmemCacheFree_kmemCacheAlloc (st : GwState) (addr : JobPtr) :
    (st.kmemCacheAlloc addr).kmemCacheFree addr = st := by
  simp [kmemCacheFree, kmemCacheAlloc]

/-- Freeing some jobs removes one object per job from the cache. -/
theorem kfreeJobs_eq (st : GwState) (entries : List (JobPtr × CgwJob)) :
    st.kfreeJobs entries = { st with cache := st.cache.diff (entries.map Prod.fst) } := by
  induction entries generalizing st with
  | nil => rfl
  | cons entry rest inductionHypothesis =>
      simp only [kfreeJobs, List.foldl_cons] at inductionHypothesis ⊢
      rw [inductionHypothesis]
      simp [kmemCacheFree]

@[simp] theorem kfreeJobs_devices (st : GwState) (entries : List (JobPtr × CgwJob)) :
    (st.kfreeJobs entries).devices = st.devices := by
  rw [kfreeJobs_eq]

@[simp] theorem kfreeJobs_rx (st : GwState) (entries : List (JobPtr × CgwJob)) :
    (st.kfreeJobs entries).rx = st.rx := by
  rw [kfreeJobs_eq]

@[simp] theorem kfreeJobs_rxMisses (st : GwState) (entries : List (JobPtr × CgwJob)) :
    (st.kfreeJobs entries).rxMisses = st.rxMisses := by
  rw [kfreeJobs_eq]

/-- When the cache holds the objects of `removed ++ kept`, freeing `removed`
leaves those of `kept`. -/
theorem kfreeJobs_perm {st : GwState} {removed kept : List (JobPtr × CgwJob)}
    (matching : st.cache.Perm ((removed ++ kept).map Prod.fst)) :
    (st.kfreeJobs removed).cache.Perm (kept.map Prod.fst) := by
  rw [kfreeJobs_eq]
  induction removed generalizing st with
  | nil => simpa using matching
  | cons entry rest inductionHypothesis =>
      have erased : (st.cache.erase entry.1).Perm ((rest ++ kept).map Prod.fst) := by
        simpa using matching.erase entry.1
      simpa using @inductionHypothesis { st with cache := st.cache.erase entry.1 } erased

end GwState

/-- `dev_get_by_index(&init_net, ifindex)` returns a device of type `ARPHRD_CAN` at `ptr`. -/
def ResolvesToCan (st : GwState) (ifindex : BitVec 32) (ptr : DevPtr) : Prop :=
  ∃ dev, st.devGetByIndex ifindex = some dev ∧ dev.ptr = ptr ∧ dev.type = ARPHRD_CAN

/-- A reference count does not change what an index resolves to. -/
theorem resolvesToCan_mapRefcnt {st : GwState} {ptr : DevPtr} {change : Nat → Nat} {ifindex : BitVec 32}
    {target : DevPtr} : ResolvesToCan (st.mapRefcnt ptr change) ifindex target ↔ ResolvesToCan st ifindex target := by
  simp only [ResolvesToCan, GwState.devGetByIndex_mapRefcnt, Option.map_eq_some']
  constructor
  · rintro ⟨_, ⟨dev, found, rfl⟩, samePtr, sameType⟩
    exact ⟨dev, found, by split_ifs at samePtr <;> assumption, by split_ifs at sameType <;> assumption⟩
  · rintro ⟨dev, found, samePtr, sameType⟩
    exact ⟨_, ⟨dev, found, rfl⟩, by split_ifs <;> assumption, by split_ifs <;> assumption⟩

theorem ResolvesToCan.canDevice {st : GwState} {ifindex : BitVec 32} {ptr : DevPtr}
    (resolved : ResolvesToCan st ifindex ptr) : CanDevice st.devices ptr ifindex := by
  obtain ⟨dev, found, rfl, can⟩ := resolved
  obtain ⟨member, init, index⟩ := GwState.devGetByIndex_spec found
  exact ⟨dev, member, rfl, index, can, init⟩

/-- A job as `cgw_create_job` fills it from the request header: counters
zero, and the header's `gwtype` and `flags`. -/
def CgwJob.FromHeader (rtcan : RtCanMsg) (gwj : CgwJob) : Prop :=
  gwj.handledFrames = 0 ∧ gwj.droppedFrames = 0 ∧ gwj.gwtype = rtcan.gwtype ∧ gwj.flags = rtcan.flags

/-- What `cgw_create_job` puts in a job it lists: zero counters and the header's
flags and type, having checked the family and the type; the `cf_mod` and
`can_can_gw` that `cgw_parse_attr` returned; and the devices `dev_get_by_index`
resolved from nonzero indices to CAN devices. -/
structure CreatedJob (st : GwState) (nlh : NlMsg) (gwj : CgwJob) : Prop where
  fromHeader : gwj.FromHeader nlh.rtcan
  family : nlh.rtcan.canFamily = AF_CAN
  canCan : nlh.rtcan.gwtype = header.cgwTypeCanCan
  parsed : cgwParseAttr header nlh = .ok (gwj.mod, gwj.ccgw)
  srcSet : gwj.ccgw.srcIdx ≠ 0
  dstSet : gwj.ccgw.dstIdx ≠ 0
  srcFound : ResolvesToCan st gwj.ccgw.srcIdx gwj.src
  dstFound : ResolvesToCan st gwj.ccgw.dstIdx gwj.dst

theorem cgwCreateOut_of_ne {addr : JobPtr} {err : Int} (st : GwState) (failed : err ≠ 0) :
    cgwCreateOut addr (err, st) = (err, st.kmemCacheFree addr) :=
  if_pos failed

theorem cgwCreateOut_zero (addr : JobPtr) (st : GwState) : cgwCreateOut addr (0, st) = (0, st) :=
  if_neg (not_not.mpr rfl)

/-- `cgw_register_filter` under the list lock: a failure leaves the state, a
success lists the job with its receiver. -/
theorem cgwRegisterJob_cases (env : CreateEnv) (st : GwState) (gwj : CgwJob) :
    cgwRegisterJob env st gwj = (-ENOMEM, st) ∨
      cgwRegisterJob env st gwj =
        (0, { st with cgwList := (env.addr, gwj) :: st.cgwList, rx := rxKey (env.addr, gwj) :: st.rx }) := by
  unfold cgwRegisterJob
  split_ifs
  · exact .inr rfl
  · exact .inl rfl

/-- The device part of `cgw_create_job` either fails with `-ENODEV` and the state
it was given, or resolves both indices to CAN devices and is
`cgw_register_filter` of the job: every reference it took is put back on every
path. -/
theorem cgwCreateAttach_eq_register (env : CreateEnv) (st : GwState) (rtcan : RtCanMsg) (mod : CfMod)
    (ccgw : CanCanGw) :
    cgwCreateAttach env st rtcan mod ccgw = (-ENODEV, st) ∨
      ∃ src dst, ccgw.srcIdx ≠ 0 ∧ ccgw.dstIdx ≠ 0 ∧ ResolvesToCan st ccgw.srcIdx src ∧
        ResolvesToCan st ccgw.dstIdx dst ∧
        cgwCreateAttach env st rtcan mod ccgw =
          cgwRegisterJob env st ⟨0, 0, mod, src, dst, ccgw, rtcan.gwtype, rtcan.flags⟩ := by
  unfold cgwCreateAttach
  by_cases zero : ccgw.srcIdx = 0 ∨ ccgw.dstIdx = 0
  · exact .inl (if_pos zero)
  rw [if_neg zero]
  rcases foundSrc : st.devGetByIndex ccgw.srcIdx with _ | src
  · exact .inl rfl
  dsimp only
  by_cases srcType : src.type ≠ ARPHRD_CAN
  · rw [if_pos srcType, GwState.devPut_devHold]
    exact .inl rfl
  rw [if_neg srcType]
  rcases foundDst : (st.devHold src.ptr).devGetByIndex ccgw.dstIdx with _ | dst
  · exact .inl (by rw [GwState.devPut_devHold])
  dsimp only
  by_cases dstType : dst.type ≠ ARPHRD_CAN
  · rw [if_pos dstType, GwState.devPut_devHold, GwState.devPut_devHold]
    exact .inl rfl
  rw [if_neg dstType]
  refine .inr ⟨src.ptr, dst.ptr, fun set => zero (.inl set), fun set => zero (.inr set),
    ⟨src, foundSrc, rfl, not_not.mp srcType⟩, resolvesToCan_mapRefcnt.mp ⟨dst, foundDst, rfl, not_not.mp dstType⟩, ?_⟩
  unfold cgwRegisterJob
  split_ifs
  · exact congrArg _ (GwState.devPut_devPut_registered _ _ _ _ _)
  · simp only [GwState.devPut_devHold]

/-- `cgw_create_job` up to its device part: the header checks and the
allocation fail with a negative error and the state they were given; after the
allocation an error of `cgw_parse_attr` goes through `out:`, which frees the
object again. -/
theorem cgwCreateJob_eq_attach (env : CreateEnv) (st : GwState) (nlh : NlMsg) :
    ((cgwCreateJob header env st nlh).1 < 0 ∧ (cgwCreateJob header env st nlh).2 = st) ∨
      ∃ mod ccgw, nlh.rtcan.canFamily = AF_CAN ∧ nlh.rtcan.gwtype = header.cgwTypeCanCan ∧
        cgwParseAttr header nlh = .ok (mod, ccgw) ∧
        cgwCreateJob header env st nlh =
          cgwCreateOut env.addr (cgwCreateAttach env (st.kmemCacheAlloc env.addr) nlh.rtcan mod ccgw) := by
  have einval : -EINVAL < 0 := by decide
  have epfnosupport : -EPFNOSUPPORT < 0 := by decide
  have enomem : -ENOMEM < 0 := by decide
  unfold cgwCreateJob
  by_cases short : nlh.payloadLen < RTCANMSG_LEN
  · rw [if_pos short]
    exact .inl ⟨einval, rfl⟩
  rw [if_neg short]
  by_cases family : nlh.rtcan.canFamily ≠ AF_CAN
  · rw [if_pos family]
    exact .inl ⟨epfnosupport, rfl⟩
  rw [if_neg family]
  by_cases canCan : nlh.rtcan.gwtype ≠ header.cgwTypeCanCan
  · rw [if_pos canCan]
    exact .inl ⟨einval, rfl⟩
  rw [if_neg canCan]
  by_cases noMemory : !env.allocOk
  · rw [if_pos noMemory]
    exact .inl ⟨enomem, rfl⟩
  rw [if_neg noMemory]
  rcases parsed : cgwParseAttr header nlh with err | ⟨mod, ccgw⟩
  · have negative : err < 0 := by rcases cgwParseAttr_error header parsed with rfl | rfl <;> decide
    refine .inl ?_
    rw [cgwCreateOut_of_ne _ negative.ne, GwState.kmemCacheFree_kmemCacheAlloc]
    exact ⟨negative, rfl⟩
  · exact .inr ⟨mod, ccgw, not_not.mp family, not_not.mp canCan, rfl, rfl⟩

/-- Everything `cgw_create_job` can do: fail with a negative error and give back
the state, or list at the head a job it built from the request, with its
receiver and its object of `cgw_cache`. -/
theorem cgwCreateJob_cases (env : CreateEnv) (st : GwState) (nlh : NlMsg) :
    ((cgwCreateJob header env st nlh).1 < 0 ∧ (cgwCreateJob header env st nlh).2 = st) ∨
      ∃ gwj, CreatedJob header st nlh gwj ∧ cgwCreateJob header env st nlh =
        (0, { st with
          cgwList := (env.addr, gwj) :: st.cgwList, rx := rxKey (env.addr, gwj) :: st.rx,
          cache := env.addr :: st.cache }) := by
  have enodev : -ENODEV < 0 := by decide
  have enomem : -ENOMEM < 0 := by decide
  rcases cgwCreateJob_eq_attach header env st nlh with failed | ⟨mod, ccgw, family, canCan, parsed, attached⟩
  · exact .inl failed
  rw [attached]
  rcases cgwCreateAttach_eq_register env (st.kmemCacheAlloc env.addr) nlh.rtcan mod ccgw with
    failed | ⟨src, dst, srcSet, dstSet, srcFound, dstFound, registered⟩
  · rw [failed, cgwCreateOut_of_ne _ enodev.ne, GwState.kmemCacheFree_kmemCacheAlloc]
    exact .inl ⟨enodev, rfl⟩
  rw [registered]
  rcases cgwRegisterJob_cases env (st.kmemCacheAlloc env.addr)
      ⟨0, 0, mod, src, dst, ccgw, nlh.rtcan.gwtype, nlh.rtcan.flags⟩ with failed | listed
  · rw [failed, cgwCreateOut_of_ne _ enomem.ne, GwState.kmemCacheFree_kmemCacheAlloc]
    exact .inl ⟨enomem, rfl⟩
  · rw [listed, cgwCreateOut_zero]
    exact .inr ⟨⟨0, 0, mod, src, dst, ccgw, nlh.rtcan.gwtype, nlh.rtcan.flags⟩,
      ⟨⟨rfl, rfl, rfl, rfl⟩, family, canCan, parsed, srcSet, dstSet, srcFound, dstFound⟩, rfl⟩

/-- Every exit of the `goto` ladder of `cgw_create_job`: it fails with a negative
error and the state it was given (list, receivers, reference counts and
`cgw_cache`, so the object it allocated has been freed), or it returns 0 having
listed one new job at the head with its receiver and its object, and changed
nothing else. That job has zero counters and the header's flags and type, the
parsed `cf_mod` and `can_can_gw`, and nonzero indices that `dev_get_by_index`
resolves to CAN devices at its `src` and `dst`. On both, each reference taken
is put back. -/
theorem cgwCreateJob_every_exit (env : CreateEnv) (st : GwState) (nlh : NlMsg) :
    let result := cgwCreateJob header env st nlh
    (result.1 < 0 ∧ result.2 = st) ∨
      ∃ gwj, result = (0, { st with
          cgwList := (env.addr, gwj) :: st.cgwList, rx := rxKey (env.addr, gwj) :: st.rx,
          cache := env.addr :: st.cache }) ∧
        gwj.FromHeader nlh.rtcan ∧ cgwParseAttr header nlh = .ok (gwj.mod, gwj.ccgw) ∧
        gwj.ccgw.srcIdx ≠ 0 ∧ gwj.ccgw.dstIdx ≠ 0 ∧
        ResolvesToCan st gwj.ccgw.srcIdx gwj.src ∧ ResolvesToCan st gwj.ccgw.dstIdx gwj.dst := by
  rcases cgwCreateJob_cases header env st nlh with failed | ⟨gwj, created, listed⟩
  · exact .inl failed
  · exact .inr ⟨gwj, listed, created.fromHeader, created.parsed, created.srcSet, created.dstSet,
      created.srcFound, created.dstFound⟩

/-- The loop of `cgw_remove_job` is `find?` and `eraseP` of the first match. -/
theorem cgwRemoveFirst_eq (found : CgwJob → Bool) (list : List (JobPtr × CgwJob)) :
    cgwRemoveFirst found list = (list.find? (found ·.2), list.eraseP (found ·.2)) := by
  induction list with
  | nil => rfl
  | cons entry rest inductionHypothesis =>
      unfold cgwRemoveFirst
      cases hit : found entry.2 <;> simp [hit, inductionHypothesis]

/-- The entry the loop unlinks is the first match; the others keep their order. -/
theorem cgwRemoveFirst_some {found : CgwJob → Bool} {list rest : List (JobPtr × CgwJob)}
    {entry : JobPtr × CgwJob} (removed : cgwRemoveFirst found list = (some entry, rest)) :
    ∃ before after, list = before ++ entry :: after ∧ rest = before ++ after ∧ found entry.2 = true ∧
      ∀ other ∈ before, found other.2 = false := by
  rw [cgwRemoveFirst_eq, Prod.mk.injEq] at removed
  obtain ⟨hit, before, after, split, earlier⟩ := List.find?_eq_some.mp removed.1
  simp only [Bool.not_eq_true'] at earlier
  refine ⟨before, after, split, ?_, hit, earlier⟩
  rw [← removed.2, split, List.eraseP_append_right _ fun other member => by simp [earlier other member]]
  simp [hit]

@[simp] theorem cgwRemoveAllJobs_rx (st : GwState) :
    (cgwRemoveAllJobs st).rx = st.rx.diff (st.cgwList.map rxKey) :=
  (GwState.kfreeJobs_rx _ _).trans (GwState.unregisterJobs_rx st st.cgwList)

/-- Everything `cgw_remove_job` can do: fail with a negative error and change
nothing, flush every job for a request whose indices are both 0, or unlink the
first job that matches the parsed request, unregister its receiver and free it. -/
theorem cgwRemoveJob_cases (st : GwState) (nlh : NlMsg) :
    ((cgwRemoveJob header st nlh).1 < 0 ∧ (cgwRemoveJob header st nlh).2 = st) ∨
      ∃ mod ccgw, cgwParseAttr header nlh = .ok (mod, ccgw) ∧
        ((ccgw.srcIdx = 0 ∧ ccgw.dstIdx = 0 ∧ cgwRemoveJob header st nlh = (0, cgwRemoveAllJobs st)) ∨
          ∃ before entry after, st.cgwList = before ++ entry :: after ∧
            cgwJobMatches nlh.rtcan.flags mod ccgw entry.2 = true ∧
            (∀ other ∈ before, cgwJobMatches nlh.rtcan.flags mod ccgw other.2 = false) ∧
            cgwRemoveJob header st nlh =
              (0, ({ st.rxUnregister (rxKey entry) with cgwList := before ++ after }).kmemCacheFree entry.1)) := by
  have einval : -EINVAL < 0 := by decide
  have epfnosupport : -EPFNOSUPPORT < 0 := by decide
  have enodev : -ENODEV < 0 := by decide
  unfold cgwRemoveJob
  by_cases short : nlh.payloadLen < RTCANMSG_LEN
  · rw [if_pos short]
    exact .inl ⟨einval, rfl⟩
  rw [if_neg short]
  by_cases family : nlh.rtcan.canFamily ≠ AF_CAN
  · rw [if_pos family]
    exact .inl ⟨epfnosupport, rfl⟩
  rw [if_neg family]
  by_cases canCan : nlh.rtcan.gwtype ≠ header.cgwTypeCanCan
  · rw [if_pos canCan]
    exact .inl ⟨einval, rfl⟩
  rw [if_neg canCan]
  rcases parsed : cgwParseAttr header nlh with err | ⟨mod, ccgw⟩
  · rcases cgwParseAttr_error header parsed with rfl | rfl
    · exact .inl ⟨einval, rfl⟩
    · exact .inl ⟨enodev, rfl⟩
  dsimp only
  by_cases flush : ccgw.srcIdx = 0 ∧ ccgw.dstIdx = 0
  · rw [if_pos flush]
    exact .inr ⟨mod, ccgw, rfl, .inl ⟨flush.1, flush.2, rfl⟩⟩
  rw [if_neg flush]
  split
  · exact .inl ⟨einval, rfl⟩
  rename_i entry rest removed
  obtain ⟨before, after, split, rfl, matched, earlier⟩ := cgwRemoveFirst_some removed
  exact .inr ⟨mod, ccgw, rfl, .inr ⟨before, entry, after, split, matched, earlier, rfl⟩⟩

theorem cgwJobMatches_iff (flags : BitVec 16) (mod : CfMod) (ccgw : CanCanGw) (gwj : CgwJob) :
    cgwJobMatches flags mod ccgw gwj = true ↔ gwj.flags = flags ∧ gwj.mod = mod ∧ gwj.ccgw = ccgw := by
  simp [cgwJobMatches, and_assoc]

/-- `cgw_remove_job` past the header checks, for a request `cgw_parse_attr`
accepts: the flush or the loop over `cgw_list`. -/
theorem cgwRemoveJob_of_parsed {st : GwState} {nlh : NlMsg} {mod : CfMod} {ccgw : CanCanGw}
    (family : nlh.rtcan.canFamily = AF_CAN) (canCan : nlh.rtcan.gwtype = header.cgwTypeCanCan)
    (parsed : cgwParseAttr header nlh = .ok (mod, ccgw)) :
    cgwRemoveJob header st nlh =
      if ccgw.srcIdx = 0 ∧ ccgw.dstIdx = 0 then (0, cgwRemoveAllJobs st)
      else match cgwRemoveFirst (cgwJobMatches nlh.rtcan.flags mod ccgw) st.cgwList with
        | (none, _) => (-EINVAL, st)
        | (some entry, rest) => (0, ({ st.rxUnregister (rxKey entry) with cgwList := rest }).kmemCacheFree entry.1) := by
  obtain ⟨tb, table, -⟩ := cgwParseAttr_ok header parsed
  unfold cgwRemoveJob
  rw [if_neg (payloadLen_of_nlmsgParse table), if_neg (not_not.mpr family), if_neg (not_not.mpr canCan), parsed]

/-- A well-formed request whose parsed configuration matches a listed job, and
does not ask for a flush, removes the first matching job. -/
theorem cgwRemoveJob_of_match {st : GwState} {nlh : NlMsg} {mod : CfMod} {ccgw : CanCanGw}
    (family : nlh.rtcan.canFamily = AF_CAN) (canCan : nlh.rtcan.gwtype = header.cgwTypeCanCan)
    (parsed : cgwParseAttr header nlh = .ok (mod, ccgw)) (notFlush : ¬ (ccgw.srcIdx = 0 ∧ ccgw.dstIdx = 0))
    (present : ∃ entry ∈ st.cgwList, cgwJobMatches nlh.rtcan.flags mod ccgw entry.2 = true) :
    ∃ before entry after, st.cgwList = before ++ entry :: after ∧
      cgwJobMatches nlh.rtcan.flags mod ccgw entry.2 = true ∧
      (∀ other ∈ before, cgwJobMatches nlh.rtcan.flags mod ccgw other.2 = false) ∧
      cgwRemoveJob header st nlh =
        (0, ({ st.rxUnregister (rxKey entry) with cgwList := before ++ after }).kmemCacheFree entry.1) := by
  rw [cgwRemoveJob_of_parsed header family canCan parsed, if_neg notFlush]
  split
  · rename_i rest missed
    rw [cgwRemoveFirst_eq, Prod.mk.injEq, List.find?_eq_none] at missed
    obtain ⟨entry, member, matched⟩ := present
    exact absurd matched (missed.1 entry member)
  · rename_i entry rest removed
    obtain ⟨before, after, split, rfl, matched, earlier⟩ := cgwRemoveFirst_some removed
    exact ⟨before, entry, after, split, matched, earlier, rfl⟩

/-- A DEL request that `cgw_parse_attr` accepts: of another family it is refused
with `-EPFNOSUPPORT`, and of family `AF_CAN` but another type with `-EINVAL`,
changing nothing. Of family `AF_CAN` and type `CGW_TYPE_CAN_CAN`: with both
indices 0 it empties the list and unregisters one receiver per job; otherwise,
when no job matches, it fails with `-EINVAL` and changes nothing, and when one
does, it returns 0 having unlinked the first match in list order and
unregistered its receiver alone, every other job keeping its place, its
counters and its receiver. -/
theorem cgwRemoveJob_removes_first_match {st : GwState} {nlh : NlMsg} {mod : CfMod} {ccgw : CanCanGw}
    (parsed : cgwParseAttr header nlh = .ok (mod, ccgw)) :
    let found := cgwJobMatches nlh.rtcan.flags mod ccgw
    let result := cgwRemoveJob header st nlh
    (nlh.rtcan.canFamily ≠ AF_CAN → result = (-EPFNOSUPPORT, st)) ∧
    (nlh.rtcan.canFamily = AF_CAN → nlh.rtcan.gwtype ≠ header.cgwTypeCanCan → result = (-EINVAL, st)) ∧
    (nlh.rtcan.canFamily = AF_CAN → nlh.rtcan.gwtype = header.cgwTypeCanCan →
      (ccgw.srcIdx = 0 ∧ ccgw.dstIdx = 0 →
          result.1 = 0 ∧ result.2.cgwList = [] ∧ result.2.rx = st.rx.diff (st.cgwList.map rxKey)) ∧
        (¬ (ccgw.srcIdx = 0 ∧ ccgw.dstIdx = 0) →
          ((∀ entry ∈ st.cgwList, found entry.2 = false) → result.1 = -EINVAL ∧ result.2 = st) ∧
          ((∃ entry ∈ st.cgwList, found entry.2 = true) →
            ∃ before entry after, st.cgwList = before ++ entry :: after ∧ found entry.2 = true ∧
              (∀ other ∈ before, found other.2 = false) ∧
              result.1 = 0 ∧ result.2.cgwList = before ++ after ∧ result.2.rx = st.rx.erase (rxKey entry)))) := by
  obtain ⟨tb, table, -⟩ := cgwParseAttr_ok header parsed
  have long := payloadLen_of_nlmsgParse table
  dsimp only
  refine ⟨fun family => ?_, fun family canCan => ?_, fun family canCan => ?_⟩
  · unfold cgwRemoveJob
    rw [if_neg long, if_pos family]
  · unfold cgwRemoveJob
    rw [if_neg long, if_neg (not_not.mpr family), if_pos canCan]
  rw [cgwRemoveJob_of_parsed header family canCan parsed]
  refine ⟨fun flush => ?_, fun notFlush => ?_⟩
  · rw [if_pos flush]
    exact ⟨rfl, rfl, cgwRemoveAllJobs_rx st⟩
  rw [if_neg notFlush]
  rcases removed : cgwRemoveFirst (cgwJobMatches nlh.rtcan.flags mod ccgw) st.cgwList with ⟨_ | entry, rest⟩
  · refine ⟨fun _ => ⟨rfl, rfl⟩, fun ⟨entry, member, matched⟩ => ?_⟩
    rw [cgwRemoveFirst_eq, Prod.mk.injEq, List.find?_eq_none] at removed
    exact absurd matched (by simpa using removed.1 entry member)
  · obtain ⟨before, after, split, rfl, matched, earlier⟩ := cgwRemoveFirst_some removed
    refine ⟨fun none => absurd matched (by simp [none entry (by simp [split])]), fun _ => ?_⟩
    exact ⟨before, entry, after, split, matched, earlier, rfl, rfl, GwState.rxUnregister_rx st _⟩

theorem cgwRemoveJob_removes_first_match_selfJob :
    let ccgw : CanCanGw := ⟨⟨0, 0⟩, 1, 1⟩
    let attrs : List NlAttr := [⟨.srcIf, u32Image 1⟩, ⟨.dstIf, u32Image 1⟩]
    let request : NlMsg := ⟨nlmsgLenOf attrs, ⟨AF_CAN, 1, 0⟩, attrs⟩
    let job : JobPtr × CgwJob := (7, ⟨0, 0, CfMod.init, 1, 1, ccgw, 1, 0⟩)
    cgwParseAttr ⟨1, 1, 2, 4, 1, 2⟩ request = .ok (CfMod.init, ccgw) ∧
      (cgwRemoveJob ⟨1, 1, 2, 4, 1, 2⟩ ⟨[], [job], [rxKey job], 0, [7]⟩ request).1 = 0 := by
  intro ccgw attrs request job
  have parsed : cgwParseAttr ⟨1, 1, 2, 4, 1, 2⟩ request = .ok (CfMod.init, ccgw) := by rfl
  obtain ⟨-, -, accepted⟩ := @cgwRemoveJob_removes_first_match ⟨1, 1, 2, 4, 1, 2⟩ ⟨[], [job], [rxKey job], 0, [7]⟩
    request CfMod.init ccgw parsed
  obtain ⟨_, _, _, -, -, -, removed, -⟩ :=
    ((accepted rfl rfl).2 (by decide)).2 ⟨job, List.mem_singleton_self _, by simp [job, cgwJobMatches]⟩
  exact ⟨parsed, removed⟩

/-- A DEL request of family `AF_CAN` and type 2, which rtnetlink hands to
`cgw_remove_job`, is refused with `-EINVAL` before the listed job is looked at,
though `cgw_parse_attr` accepts it, its indices are not both 0, and the job
matches its flags, `cf_mod` and `can_can_gw`. -/
theorem cgwRemoveJob_refuses_other_gwtype :
    let ccgw : CanCanGw := ⟨⟨0, 0⟩, 1, 1⟩
    let attrs : List NlAttr := [⟨.srcIf, u32Image 1⟩, ⟨.dstIf, u32Image 1⟩]
    let request : NlMsg := ⟨nlmsgLenOf attrs, ⟨AF_CAN, 2, 0⟩, attrs⟩
    let job : JobPtr × CgwJob := (7, ⟨0, 0, CfMod.init, 1, 1, ccgw, 1, 0⟩)
    cgwParseAttr ⟨1, 1, 2, 4, 1, 2⟩ request = .ok (CfMod.init, ccgw) ∧ ¬ (ccgw.srcIdx = 0 ∧ ccgw.dstIdx = 0) ∧
      cgwJobMatches request.rtcan.flags CfMod.init ccgw job.2 = true ∧
      cgwRemoveJob ⟨1, 1, 2, 4, 1, 2⟩ ⟨[], [job], [rxKey job], 0, [7]⟩ request =
        (-EINVAL, ⟨[], [job], [rxKey job], 0, [7]⟩) :=
  ⟨by rfl, by decide, by simp [cgwJobMatches], by rfl⟩

/-- Everything `cgw_notifier` can do: nothing unless the message is
`NETDEV_UNREGISTER` of a CAN device of `init_net`, and then remove the jobs
that use the device with their receivers and free them. -/
theorem cgwNotifier_cases (st : GwState) (msg : Nat) (dev : NetDevice) :
    (¬ (dev.initNet = true ∧ dev.type = ARPHRD_CAN ∧ msg = NETDEV_UNREGISTER) ∧ cgwNotifier st msg dev = st) ∨
      dev.initNet = true ∧ dev.type = ARPHRD_CAN ∧ msg = NETDEV_UNREGISTER ∧
        cgwNotifier st msg dev =
          { (st.unregisterJobs (st.cgwList.filter (touches dev.ptr))).kfreeJobs (st.cgwList.filter (touches dev.ptr)) with
            cgwList := st.cgwList.filter fun entry => !touches dev.ptr entry } := by
  unfold cgwNotifier
  split_ifs with notInit notCan unregister
  · exact .inl ⟨fun ⟨init, _⟩ => by simp [init] at notInit, rfl⟩
  · exact .inl ⟨fun ⟨_, can, _⟩ => notCan can, rfl⟩
  · exact .inr ⟨by simpa using notInit, not_not.mp notCan, unregister, rfl⟩
  · exact .inl ⟨fun ⟨_, _, msgIs⟩ => unregister msgIs, rfl⟩

/-- `cgw_notifier` on `NETDEV_UNREGISTER` of a CAN device of `init_net` keeps, in
order, the jobs that use the device neither as source nor as destination, and
unregisters one receiver for each job it drops, a job from the device to itself
included; on any other message or device it changes neither. -/
theorem cgwNotifier_removes_jobs_on_device (st : GwState) (msg : Nat) (dev : NetDevice) :
    let result := cgwNotifier st msg dev
    (dev.initNet = true ∧ dev.type = ARPHRD_CAN ∧ msg = NETDEV_UNREGISTER →
        result.cgwList = st.cgwList.filter (fun entry => entry.2.src ≠ dev.ptr ∧ entry.2.dst ≠ dev.ptr) ∧
        result.rx = st.rx.diff ((st.cgwList.filter (touches dev.ptr)).map rxKey)) ∧
      (¬ (dev.initNet = true ∧ dev.type = ARPHRD_CAN ∧ msg = NETDEV_UNREGISTER) →
        result.cgwList = st.cgwList ∧ result.rx = st.rx) := by
  rcases cgwNotifier_cases st msg dev with ⟨ignored, same⟩ | ⟨init, can, unregister, filtered⟩
  · rw [same]
    exact ⟨fun unregistered => absurd unregistered ignored, fun _ => ⟨rfl, rfl⟩⟩
  · rw [filtered]
    exact ⟨fun _ => ⟨List.filter_congr fun entry _ => by simp [touches],
      (GwState.kfreeJobs_rx _ _).trans (GwState.unregisterJobs_rx _ _)⟩, fun ignored => absurd ⟨init, can, unregister⟩ ignored⟩

/-! ## What the operations leave alone -/

@[simp] theorem cgwRemoveAllJobs_devices (st : GwState) : (cgwRemoveAllJobs st).devices = st.devices :=
  (GwState.kfreeJobs_devices _ _).trans (GwState.unregisterJobs_devices st st.cgwList)

@[simp] theorem cgwNotifier_devices (st : GwState) (msg : Nat) (dev : NetDevice) :
    (cgwNotifier st msg dev).devices = st.devices := by
  rcases cgwNotifier_cases st msg dev with ⟨-, same⟩ | ⟨-, -, -, filtered⟩
  · rw [same]
  · rw [filtered]
    exact (GwState.kfreeJobs_devices _ _).trans (GwState.unregisterJobs_devices _ _)

@[simp] theorem cgwCreateJob_devices (env : CreateEnv) (st : GwState) (nlh : NlMsg) :
    (cgwCreateJob header env st nlh).2.devices = st.devices := by
  rcases cgwCreateJob_cases header env st nlh with ⟨-, same⟩ | ⟨_, -, listed⟩
  · rw [same]
  · rw [listed]

@[simp] theorem cgwRemoveJob_devices (st : GwState) (nlh : NlMsg) :
    (cgwRemoveJob header st nlh).2.devices = st.devices := by
  rcases cgwRemoveJob_cases header st nlh with ⟨-, same⟩ | ⟨_, _, -, ⟨-, -, flushed⟩ | ⟨_, _, _, -, -, -, removed⟩⟩
  · rw [same]
  · rw [flushed, cgwRemoveAllJobs_devices]
  · rw [removed]
    exact GwState.rxUnregister_devices st _

/-- `cgw_remove_job` keeps no job that was not listed. -/
theorem mem_of_mem_cgwRemoveJob {st : GwState} {nlh : NlMsg} {entry : JobPtr × CgwJob}
    (kept : entry ∈ (cgwRemoveJob header st nlh).2.cgwList) : entry ∈ st.cgwList := by
  rcases cgwRemoveJob_cases header st nlh with ⟨-, same⟩ | ⟨_, _, -, ⟨-, -, flushed⟩ | ⟨before, _, after, split, -, -, removed⟩⟩
  · rwa [same] at kept
  · simp [flushed, cgwRemoveAllJobs] at kept
  · rw [removed] at kept
    rw [split]
    simp only [GwState.kmemCacheFree, List.mem_append, List.mem_cons] at kept ⊢
    tauto

/-- `cgw_notifier` keeps no job that was not listed. -/
theorem mem_of_mem_cgwNotifier {st : GwState} {msg : Nat} {dev : NetDevice} {entry : JobPtr × CgwJob}
    (kept : entry ∈ (cgwNotifier st msg dev).cgwList) : entry ∈ st.cgwList := by
  rcases cgwNotifier_cases st msg dev with ⟨-, same⟩ | ⟨-, -, -, filtered⟩
  · rwa [same] at kept
  · rw [filtered] at kept
    exact List.mem_of_mem_filter kept

/-! ## How the operations compose -/

/-- An `RTM_DELROUTE` with the request of an `RTM_NEWROUTE` that `cgw_create_job`
accepted, sent right after it, returns 0 and gives back exactly the state before
the ADD: the new job is the first match even when an identical job was listed
before, and its receiver is the one unregistered. -/
theorem cgwRemoveJob_undoes_cgwCreateJob (env : CreateEnv) (st : GwState) (nlh : NlMsg)
    (accepted : (cgwCreateJob header env st nlh).1 = 0) :
    cgwRemoveJob header (cgwCreateJob header env st nlh).2 nlh = (0, st) := by
  rcases cgwCreateJob_cases header env st nlh with ⟨negative, -⟩ | ⟨gwj, created, listed⟩
  · omega
  have first : cgwJobMatches nlh.rtcan.flags gwj.mod gwj.ccgw gwj = true :=
    (cgwJobMatches_iff _ _ _ _).mpr ⟨created.fromHeader.2.2.2, rfl, rfl⟩
  rw [listed, cgwRemoveJob_of_parsed header created.family created.canCan created.parsed,
    if_neg fun flush => created.srcSet flush.1]
  simp only [cgwRemoveFirst, first, if_true, GwState.rxUnregister, GwState.kmemCacheFree, List.mem_cons_self,
    List.erase_cons_head]

theorem cgwRemoveJob_undoes_cgwCreateJob_sameJob :
    let attrs : List NlAttr := [⟨.srcIf, u32Image 1⟩, ⟨.dstIf, u32Image 1⟩]
    let request : NlMsg := ⟨nlmsgLenOf attrs, ⟨AF_CAN, 1, 0⟩, attrs⟩
    let job : JobPtr × CgwJob := (3, ⟨0, 0, CfMod.init, 1, 1, ⟨⟨0, 0⟩, 1, 1⟩, 1, 0⟩)
    let st : GwState := ⟨[⟨1, 1, ARPHRD_CAN, true, true, 0⟩], [job], [rxKey job], 0, [3]⟩
    (cgwCreateJob ⟨1, 1, 2, 4, 1, 2⟩ ⟨true, 7, true⟩ st request).1 = 0 ∧
      cgwRemoveJob ⟨1, 1, 2, 4, 1, 2⟩ (cgwCreateJob ⟨1, 1, 2, 4, 1, 2⟩ ⟨true, 7, true⟩ st request).2 request =
        (0, st) := by
  intro attrs request job st
  have accepted : (cgwCreateJob ⟨1, 1, 2, 4, 1, 2⟩ ⟨true, 7, true⟩ st request).1 = 0 := by decide
  exact ⟨accepted, cgwRemoveJob_undoes_cgwCreateJob _ _ _ _ accepted⟩

/-- `cgw_notifier` for a device no listed job uses changes nothing. -/
theorem cgwNotifier_of_unused {st : GwState} {msg : Nat} {dev : NetDevice}
    (unused : ∀ entry ∈ st.cgwList, touches dev.ptr entry = false) : cgwNotifier st msg dev = st := by
  rcases cgwNotifier_cases st msg dev with ⟨-, same⟩ | ⟨-, -, -, filtered⟩
  · exact same
  · rw [filtered, List.filter_eq_nil_iff.mpr fun entry member => Bool.eq_false_iff.mp (unused entry member),
      List.filter_eq_self.mpr fun entry member => Bool.not_eq_eq_eq_not.mpr (unused entry member)]
    simp [GwState.kfreeJobs, GwState.unregisterJobs]

/-- A second `cgw_notifier` call with the same message and device finds no job
using the device and changes nothing: no receiver is unregistered twice. -/
theorem cgwNotifier_idempotent (st : GwState) (msg : Nat) (dev : NetDevice) :
    cgwNotifier (cgwNotifier st msg dev) msg dev = cgwNotifier st msg dev := by
  rcases cgwNotifier_cases st msg dev with ⟨-, same⟩ | ⟨-, -, -, filtered⟩
  · rw [same, same]
  · rw [filtered]
    exact cgwNotifier_of_unused fun entry kept => Bool.not_eq_eq_eq_not.mp (List.mem_filter.mp kept).2

end CanGw
