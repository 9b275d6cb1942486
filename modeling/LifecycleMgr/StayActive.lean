import LifecycleMgr.Registry

/-!
The locks that clients take to keep the TCU active, and the one flag that tells
the MCU about them. What a call into the registry does to the locks is said once
(`locks_register`, `locks_unRegister`, `locks_granted`). Every answered
request sends its own wish as the flag, whatever the others hold, so the flag
agrees with the locks exactly in the runs in which no release meets another
client's lock (`release_honoured_iff`) and no lock is left behind by the
unregistration of its holder (`no_orphan_iff`).
-/
namespace LifecycleMgr
open Runs Keyed

/-- A client is registered and its record says that it holds a lock. -/
def HoldsLock (m : Manager) (n : List UInt8) : Prop := ∃ c ∈ m.mClients, c.name = n ∧ c.stayActive = .LC_LOCK

instance (m : Manager) (n : List UInt8) : Decidable (HoldsLock m n) :=
  inferInstanceAs (Decidable (∃ c ∈ m.mClients, _))

/-- Some record says that its client holds a lock. -/
def Locked (m : Manager) : Prop := ∃ c ∈ m.mClients, c.stayActive = .LC_LOCK

instance (m : Manager) : Decidable (Locked m) := inferInstanceAs (Decidable (∃ c ∈ m.mClients, _))

theorem locked_iff (m : Manager) : Locked m ↔ ∃ n, HoldsLock m n := by
  constructor
  · rintro ⟨c,member,lock⟩
    exact ⟨c.name,c,member,rfl,lock⟩
  · rintro ⟨_,c,member,_,lock⟩
    exact ⟨c,member,lock⟩

theorem lock_registered {m : Manager} {n : List UInt8} (lock : HoldsLock m n) : n ∈ clientNames m := by
  obtain ⟨c,member,rfl,_⟩ := lock
  exact List.mem_map_of_mem member

section
variable {p : Platform} {m : Manager} {n : List UInt8}

/-- A new client holds no lock. -/
theorem locks_register (name : ClientName) (pState : LCState) (pStatus : LCStatus) :
    HoldsLock (registryNext p m (.register name pState pStatus)) n ↔ HoldsLock m n := by
  rw [registryNext]
  by_cases blank : cleanClientName p.charSigned name = []
  · rw [register_blank blank]
  · by_cases kept : cleanClientName p.charSigned name ∈ clientNames m ∨
        pStatus = .LC_STS_OK_CLIENT_ALREADY_REGISTERED
    · rw [register_kept blank kept]
    · rw [not_or] at kept
      rw [register_new blank kept.1 kept.2]
      constructor
      · rintro ⟨c,member,named,lock⟩
        rw [List.mem_append,List.mem_singleton] at member
        rcases member with old | rfl
        · exact ⟨c,old,named,lock⟩
        · cases lock
      · rintro ⟨c,member,named,lock⟩
        exact ⟨c,List.mem_append_left _ member,named,lock⟩

/-- The lock of an unregistered client goes with its record. -/
theorem locks_unRegister (registered : Registered p m) (name : ClientName) :
    HoldsLock (registryNext p m (.unRegister name)) n ↔
      HoldsLock m n ∧ n ≠ cleanClientName p.charSigned name := by
  rw [registryNext]
  by_cases blank : cleanClientName p.charSigned name = []
  · rw [unRegister_blank blank,blank]
    exact ⟨fun lock => ⟨lock,registered.nonempty n (lock_registered lock)⟩,And.left⟩
  · by_cases present : cleanClientName p.charSigned name ∈ clientNames m
    · rw [unRegister_present blank present]
      simp only [HoldsLock,eraseP_eq_filter registered.distinct,List.mem_filter,decide_eq_true_eq]
      constructor
      · rintro ⟨c,⟨member,other⟩,rfl,lock⟩
        exact ⟨⟨c,member,rfl,lock⟩,other⟩
      · rintro ⟨⟨c,member,rfl,lock⟩,other⟩
        exact ⟨c,⟨member,other⟩,rfl,lock⟩
    · rw [unRegister_absent blank present]
      exact ⟨fun lock => ⟨lock,fun same => present (same ▸ lock_registered lock)⟩,And.left⟩

/-- A granted request decides about its client's lock only. -/
theorem locks_granted (registered : Registered p m) {name : ClientName} {v : LCStayActive}
    (known : name ∈ clientNames m)
    (allowed : StayActiveAllowed m.nadLifecycleState m.nadAdditionalInfo v) :
    HoldsLock (registryNext p m (.stayActive name v)) n ↔
      if n = name then v = .LC_LOCK else HoldsLock m n := by
  rw [registryNext,stayActive_granted known allowed]
  simp only [HoldsLock,setStayActive,updateFirst_eq_map registered.distinct,List.mem_map]
  by_cases own : n = name
  · subst n
    rw [if_pos rfl]
    constructor
    · rintro ⟨_,⟨c,member,rfl⟩,named,lock⟩
      by_cases same : c.name = name
      · rw [if_pos same] at lock
        exact lock
      · rw [if_neg same] at named
        exact absurd named same
    · rintro rfl
      obtain ⟨c,member,named⟩ := List.mem_map.mp known
      exact ⟨_,⟨c,member,rfl⟩,by rw [if_pos named]; exact named,by rw [if_pos named]⟩
  · rw [if_neg own]
    constructor
    · rintro ⟨_,⟨c,member,rfl⟩,named,lock⟩
      by_cases same : c.name = name
      · rw [if_pos same] at named
        exact absurd (named.symm.trans same) own
      · rw [if_neg same] at named lock
        exact ⟨c,member,named,lock⟩
    · rintro ⟨c,member,rfl,lock⟩
      exact ⟨c,⟨c,member,if_neg own⟩,rfl,lock⟩

/-- A request that is not granted leaves the registry. -/
theorem registry_kept {name : ClientName} {v : LCStayActive}
    (refused : ¬ (name ∈ clientNames m ∧ StayActiveAllowed m.nadLifecycleState m.nadAdditionalInfo v)) :
    registryNext p m (.stayActive name v) = m := by
  rw [registryNext]
  by_cases known : name ∈ clientNames m
  · rw [stayActive_refused known (fun allowed => refused ⟨known,allowed⟩)]
  · rw [stayActive_unknown known]

end

/-! ### Releases -/

/-- The locks after an operation that calls into the registry are those after the call. -/
theorem locks_call {p : Platform} {m : Manager} (ready : m.noTCUPowerMode = true) {c : Call} {call : RegistryCall}
    (calls : c.op.registryCall p = some call) (n : List UInt8) :
    HoldsLock ((manager p).next m c) n ↔ HoldsLock (registryNext p m call) n := by
  have clients := step_clients p ready c
  rw [calls] at clients
  rw [HoldsLock,clients]; rfl

/-- A granted stay-active request that takes the wish to stay active back leaves no lock. -/
def ReleaseHonoured (p : Platform) (m : Manager) (c : Call) : Prop :=
  ∀ name v, c.op.registryCall p = some (.stayActive name v) →
    (evaluateLCStayActive m name v).2.2 = .LC_STS_OK →
    sendPendingAction .STAY_INACTIVE ∈ (evaluateLCStayActive m name v).2.1 →
    ¬ Locked ((manager p).next m c)

/-- A registered client that is granted anything but a lock is the only one that may hold a lock. -/
def ReleasesLast (p : Platform) (m : Manager) (c : Call) : Prop :=
  ∀ name v, c.op.registryCall p = some (.stayActive name v) → name ∈ clientNames m →
    v ≠ .LC_LOCK → StayActiveAllowed m.nadLifecycleState m.nadAdditionalInfo v →
    ∀ n, HoldsLock m n → n = name

private theorem release_step {p : Platform} (m : Manager) (c : Call) (running : Running p m) :
    ReleaseHonoured p m c ↔ ReleasesLast p m c := by
  constructor
  · intro honoured name v calls known notLock allowed n lock
    have granted := stayActive_granted known allowed
    have unlocked := honoured name v calls (by rw [granted])
      (by rw [granted,if_neg notLock]; exact List.mem_singleton.mpr rfl)
    by_contra other
    have kept : HoldsLock (registryNext p m (.stayActive name v)) n := by
      rw [locks_granted running.registered known allowed,if_neg other]
      exact lock
    exact unlocked ((locked_iff _).mpr ⟨n,(locks_call running.ready calls n).mpr kept⟩)
  · intro last name v calls answered sent locked
    obtain ⟨known,allowed⟩ := (stayActive_ok_iff m name v).mp answered
    have notLock : v ≠ .LC_LOCK := by
      rintro rfl
      rw [stayActive_granted known allowed,if_pos rfl] at sent
      exact absurd (List.mem_singleton.mp sent) (by decide)
    obtain ⟨n,lock⟩ := (locked_iff _).mp locked
    rw [locks_call running.ready calls n,locks_granted running.registered known allowed] at lock
    by_cases own : n = name
    · rw [if_pos own] at lock
      exact notLock lock
    · rw [if_neg own] at lock
      exact own (last name v calls known notLock allowed n lock)

/-- A run honours every release exactly when, at every release it grants, no other client holds a lock. -/
theorem release_honoured_iff (p : Platform) (info : AdditionalLifecycleStateInfo) (run : List Call) :
    (manager p).Throughout (ReleaseHonoured p) (.constructed p info) run ↔
      (manager p).Throughout (ReleasesLast p) (.constructed p info) run :=
  Machine.throughout_congr (manager p) (running_next p) release_step (running_constructed p info) run

/-- Two clients take a lock, and one of them releases its own. -/
def bothLockOneReleases : List Call :=
  [(Op.mcu (.setPowerMode 8)).call,
    (Op.dbus (.LC_RegisterClient clientA)).call,
    (Op.dbus (.LC_RegisterClient clientB)).call,
    (Op.dbus (.LC_StayActive clientA .LC_LOCK)).call,
    (Op.dbus (.LC_StayActive clientB .LC_LOCK)).call,
    (Op.dbus (.LC_StayActive clientA .LC_RELEASE)).call]

/-- The release is answered as granted and takes back the wish to stay active, and the other lock remains. -/
theorem release_meets_other_lock :
    ¬ (manager samplePlatform).Throughout (ReleaseHonoured samplePlatform)
      (.constructed samplePlatform sampleInfo) bothLockOneReleases := by
  intro honoured
  have unlocked := honoured.2.2.2.2.2.1 clientA .LC_RELEASE rfl (by decide) (by decide)
  exact unlocked (by decide)

/-! ### The last flag sent -/

/-- The values of `PENDING_TCU_ACTION` sent to the MCU, in order. -/
def pendingActions (outputs : List Output) : List StayActiveStatus :=
  outputs.filterMap (fun o => match o with
    | .updateTcuParameters param => some param.pendingTcuAction
    | _ => none)

/-- The last value sent, after further outputs. -/
def lastAction (last : Option StayActiveStatus) (outputs : List Output) : Option StayActiveStatus :=
  (pendingActions outputs).getLast?.or last

/-- A call of an operation that calls into the registry. -/
def RegistryRequest (p : Platform) : Type := { c : Call // (c.op.registryCall p).isSome = true }

/-- The manager while it serves registry requests, with the last flag it sent. -/
def requests (p : Platform) : Machine (Manager × Option StayActiveStatus) (RegistryRequest p) Output :=
  Machine.observe ⟨fun m c => managerStep p m c.1⟩
    (fun last m c => lastAction last (managerStep p m c.1).2)

/-- After `setPowerMode(SYSTEM_LC_TIMED)`, whose value is 8. -/
def timed (p : Platform) (info : AdditionalLifecycleStateInfo) : Manager × Option StayActiveStatus :=
  let entered := setPowerMode p (.constructed p info) 8
  (entered.1,lastAction none entered.2)

/-- The flag that a stay-active request leaves as the last one sent: every request of a known
    client sends one, and only a granted lock sends `STAY_ACTIVE`. -/
def lastRequested (m : Manager) (name : ClientName) (v : LCStayActive) (last : Option StayActiveStatus) :
    Option StayActiveStatus :=
  if name ∈ clientNames m then
    if v = .LC_LOCK ∧ StayActiveAllowed m.nadLifecycleState m.nadAdditionalInfo v then some .STAY_ACTIVE
    else some .STAY_INACTIVE
  else last

theorem last_sent (m : Manager) (name : ClientName) (v : LCStayActive) (last : Option StayActiveStatus) :
    lastAction last (evaluateLCStayActive m name v).2.1 = lastRequested m name v last := by
  rw [lastAction,lastRequested,stayActive_sent]
  by_cases known : name ∈ clientNames m
  · rw [if_pos known,if_pos known]
    split <;> rfl
  · rw [if_neg known,if_neg known]; rfl

private theorem last_evaluated (m : Manager) (name : ClientName) (v : LCStayActive) (last : Option StayActiveStatus)
    {answer : Output} (silent : pendingActions [answer] = []) :
    lastAction last ((evaluateLCStayActive m name v).2.1 ++ [answer]) = lastRequested m name v last := by
  have actions : pendingActions ((evaluateLCStayActive m name v).2.1 ++ [answer]) =
      pendingActions (evaluateLCStayActive m name v).2.1 := by
    rw [pendingActions,List.filterMap_append,← pendingActions,← pendingActions,silent,List.append_nil]
  rw [← last_sent,lastAction,lastAction,actions]

private theorem last_unRegistered (p : Platform) (m : Manager) (name : ClientName) (last : Option StayActiveStatus) :
    lastAction last (lcUnRegisterClient p m name).2 = last := by
  rw [unRegister_out]
  split <;> rfl

/-- Of the calls into the registry only stay-active requests send the flag. -/
theorem last_call (p : Platform) (m : Manager) (c : Call) {call : RegistryCall}
    (calls : c.op.registryCall p = some call) (last : Option StayActiveStatus) :
    lastAction last (managerStep p m c).2 = match call with
      | .stayActive name v => lastRequested m name v last
      | _ => last := by
  obtain ⟨op,env⟩ := c
  cases op with
  | dbus request =>
    cases request with
    | LC_RegisterClient name => obtain rfl := Option.some.inj calls; rfl
    | LC_UnRegisterClient name =>
      obtain rfl := Option.some.inj calls
      exact last_unRegistered p m name last
    | LC_StayActive name v =>
      obtain rfl := Option.some.inj calls
      exact last_evaluated m name v last rfl
    | _ => simp [Op.registryCall] at calls
  | legato request =>
    cases request with
    | lifecycle_RegisterClient name => obtain rfl := Option.some.inj calls; rfl
    | lifecycle_LC_StayActive name v =>
      obtain rfl := Option.some.inj calls
      exact last_evaluated m (cString name) _ last rfl
    | _ => simp [Op.registryCall] at calls
  | mcu update => simp [Op.registryCall] at calls

/-- The last flag sent is not an orphan: it does not ask to stay active without a lock. -/
def NoOrphan (x : Manager × Option StayActiveStatus) : Prop := x.2 = some .STAY_ACTIVE → Locked x.1

instance (x : Manager × Option StayActiveStatus) : Decidable (NoOrphan x) := inferInstanceAs (Decidable (_ → _))

/-- Whoever is unregistered while the TCU was last told to stay active leaves another client's lock. -/
def LeavesLock (p : Platform) (x : Manager × Option StayActiveStatus) (c : RegistryRequest p) : Prop :=
  ∀ name, c.1.op.registryCall p = some (.unRegister name) →
    cleanClientName p.charSigned name ∈ clientNames x.1 → x.2 = some .STAY_ACTIVE →
    ∃ n, HoldsLock x.1 n ∧ n ≠ cleanClientName p.charSigned name

private theorem orphan_step {p : Platform} (x : Manager × Option StayActiveStatus) (c : RegistryRequest p)
    (running : Running p x.1) (good : NoOrphan x) : NoOrphan ((requests p).next x c) ↔ LeavesLock p x c := by
  obtain ⟨m,last⟩ := x
  obtain ⟨call,calls⟩ := Option.isSome_iff_exists.mp c.2
  have lastNext : ((requests p).next (m,last) c).2 = _ := last_call p m c.1 calls last
  have lockedNext : Locked ((requests p).next (m,last) c).1 ↔ ∃ n, HoldsLock (registryNext p m call) n := by
    rw [locked_iff]
    exact exists_congr (locks_call running.ready calls)
  rw [NoOrphan,lastNext,lockedNext,LeavesLock]
  cases call with
  | register name pState pStatus =>
    refine iff_of_true ?_ (fun name' other => ?_)
    · intro active
      obtain ⟨n,lock⟩ := (locked_iff m).mp (good active)
      exact ⟨n,(locks_register name pState pStatus).mpr lock⟩
    · rw [calls] at other
      cases other
  | unRegister name =>
    simp only [locks_unRegister running.registered]
    constructor
    · intro kept name' same _ active
      rw [calls] at same
      obtain rfl : name = name' := by cases same; rfl
      exact kept active
    · intro leaves active
      by_cases present : cleanClientName p.charSigned name ∈ clientNames m
      · exact leaves name calls present active
      · obtain ⟨n,lock⟩ := (locked_iff m).mp (good active)
        exact ⟨n,lock,fun same => present (same ▸ lock_registered lock)⟩
  | stayActive name v =>
    refine iff_of_true ?_ (fun name' other => ?_)
    · intro active
      simp only [lastRequested] at active
      by_cases known : name ∈ clientNames m
      · rw [if_pos known] at active
        by_cases locks : v = .LC_LOCK ∧ StayActiveAllowed m.nadLifecycleState m.nadAdditionalInfo v
        · exact ⟨name,(locks_granted running.registered known locks.2).mpr (by rw [if_pos rfl]; exact locks.1)⟩
        · rw [if_neg locks] at active
          cases active
      · rw [if_neg known] at active
        rw [registry_kept (fun both => known both.1)]
        exact (locked_iff m).mp (good active)
    · rw [calls] at other
      cases other

/-- After `setPowerMode(SYSTEM_LC_TIMED)` a run of registry requests leaves no orphaned flag exactly when
    no unregistration takes the last lock away while the TCU was last told to stay active. -/
theorem no_orphan_iff (p : Platform) (info : AdditionalLifecycleStateInfo) (run : List (RegistryRequest p)) :
    (requests p).Always NoOrphan (timed p info) run ↔ (requests p).Throughout (LeavesLock p) (timed p info) run := by
  have keeps : ∀ x (c : RegistryRequest p), Running p x.1 → Running p ((requests p).next x c).1 :=
    fun x c running => running_next p x.1 c.1 running
  have start : Running p (timed p info).1 :=
    running_next p _ (Op.mcu (.setPowerMode 8)).call (running_constructed p info)
  have silent : (timed p info).2 = none := rfl
  exact Machine.always_iff_throughout (requests p) keeps orphan_step start (fun active => by simp [silent] at active) run

/-- A client takes a lock and is unregistered. -/
def lockAndUnRegister : List (RegistryRequest samplePlatform) :=
  [⟨(Op.dbus (.LC_RegisterClient clientA)).call,rfl⟩,
    ⟨(Op.dbus (.LC_StayActive clientA .LC_LOCK)).call,rfl⟩,
    ⟨(Op.dbus (.LC_UnRegisterClient clientA)).call,rfl⟩]

theorem lock_orphaned :
    ¬ (requests samplePlatform).Always NoOrphan (timed samplePlatform sampleInfo) lockAndUnRegister := by
  decide

end LifecycleMgr
