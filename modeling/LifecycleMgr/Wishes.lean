import LifecycleMgr.Pauses
import LifecycleMgr.StayAliveMode

namespace LifecycleMgr
open Runs

/-- The value of `PENDING_TCU_ACTION` last told to the MCU, after an action. The mode that opens a window tells
    it when the window ends. -/
def toldIn (s : Threads) (a : Action) (last : Option StayActiveStatus) : Option StayActiveStatus :=
  match a with
  | .call c => if Enabled s (.call c) ∧ ¬ OpensWindow s (.call c) then toldBy s.manager c.op last else last
  | .wakeupWrite => last
  | .tcuOnlyExpiry => if s.window.isSome then some .STAY_INACTIVE else last

theorem last_append (last : Option StayActiveStatus) (front back : List Output) :
    lastAction last (front ++ back) = lastAction (lastAction last front) back := by
  rw [lastAction,lastAction,lastAction,pendingActions,List.filterMap_append,← pendingActions,← pendingActions,
    List.getLast?_append,Option.or_assoc]

theorem last_notify (last : Option StayActiveStatus) (m : Manager) :
    lastAction last (notifyAllRegisteredClientsNadStateInfo m).2 = last := by
  rw [notify_out]
  split <;> rfl

section
variable (p : Platform) {s : Threads}

private theorem last_evaluated_window (last : Option StayActiveStatus) (m : Manager) (state : LCState) :
    lastAction last (evaluateAndBroadcastPowerMode m state).2.1 = last := by
  unfold evaluateAndBroadcastPowerMode
  split
  · rw [last_append,last_notify]; rfl
  · exact last_notify last _

private theorem told_call (ready : s.manager.noTCUPowerMode = true) {c : Call} (enabled : Enabled s (.call c))
    (last : Option StayActiveStatus) : lastAction last (callStep p s c).2 = toldIn s (.call c) last := by
  have sequential := last_told p ready c last
  rw [toldIn]
  obtain ⟨op,env⟩ := c
  cases op with
  | dbus request =>
    rw [if_pos ⟨enabled,fun opens => opens.2⟩,← sequential]
    cases request with
    | LC_Wakeup =>
      show lastAction last (lcWakeupTest s.manager).2.1 = lastAction last (lcWakeup s.manager).2
      rw [lcWakeup,test_inCall]
      by_cases listen : inListen s.manager.nadLifecycleState = true
      · rw [if_pos listen,last_append,lcWakeupWrite,last_append,last_notify]; rfl
      · rw [if_neg listen]
    | _ => rfl
  | legato request =>
    rw [if_pos ⟨enabled,fun opens => opens.2⟩,← sequential]
    cases request <;> rfl
  | mcu update =>
    cases update with
    | setPowerMode powerMode =>
      show lastAction last (setPowerModeEntry p s.manager powerMode).2.1 = _
      by_cases opens : PowerModeStates.ofInt powerMode = some .SYSTEM_LC_TCU_ONLY
      · rw [if_neg (fun both => both.2 ⟨enabled,opens⟩),entry_tcuOnly p ready opens]
        exact last_evaluated_window last _ _
      · rw [if_pos ⟨enabled,fun both => opens both.2⟩,← sequential]
        show _ = lastAction last (setPowerMode p s.manager powerMode).2
        rw [setPowerMode,entry_window p ready,if_neg opens]; rfl
    | _ =>
      rw [if_pos ⟨enabled,fun opens => opens.2⟩,← sequential]
      rfl

/-- The last value sent, after an action, is the last one told. -/
theorem told_action (ready : s.manager.noTCUPowerMode = true) (a : Action) (last : Option StayActiveStatus) :
    lastAction last ((threads p).out s a) = toldIn s a last := by
  show lastAction last (actionStep p s a).2 = _
  rcases action_cases p s a with
    ⟨disabled,stays⟩ | ⟨c,rfl,enabled,called⟩ | ⟨rfl,_,written⟩ | ⟨rfl,isOpen,expired⟩
  · rw [stays]
    cases a with
    | call c => exact (if_neg (fun both => disabled both.1)).symm
    | wakeupWrite => rfl
    | tcuOnlyExpiry => exact (if_neg disabled).symm
  · rw [called]
    exact told_call p ready enabled last
  · rw [written,lcWakeupWrite,last_append,last_notify]; rfl
  · rw [expired]
    exact (if_pos isOpen).symm

/-- Also when the pauses are told apart. -/
def toldAt (s : Pausing) (i : PausingAction) (last : Option StayActiveStatus) : Option StayActiveStatus :=
  match i with
  | .take a => if s.Blocked a then last else toldIn s.threads a last
  | .pauseEnd => last

theorem told_pausing {s : Pausing} (ready : s.threads.manager.noTCUPowerMode = true) (i : PausingAction)
    (last : Option StayActiveStatus) : lastAction last ((pausing p).out s i) = toldAt s i last := by
  show lastAction last (pausingStep p s i).2 = _
  rcases pausing_cases p s i with ⟨blocked,stays⟩ | ⟨a,rfl,free,taken⟩ | ⟨a,rfl,free,pauses,begun⟩ | ⟨rfl,_,ended⟩
  · rw [stays]
    cases i with
    | take a => exact (if_pos (blocked a rfl)).symm
    | pauseEnd => rfl
  · rw [taken,toldAt,if_neg free]
    exact told_action p ready a last
  · rw [begun,toldAt,if_neg free]
    cases a with
    | call c => exact (if_neg (fun both => both.2 pauses.1)).symm
    | wakeupWrite | tcuOnlyExpiry => exact pauses.1.elim
  · rw [ended,evaluateAfterPause,last_append,last_notify]; rfl

end

/-- The call into the registry that an action makes, if any. -/
def PausingAction.registryCall (p : Platform) : PausingAction → Option RegistryCall
  | .take a => a.registryCall p
  | .pauseEnd => none

/-- The registry after such a call, if any. -/
def registryAfter (p : Platform) (m : Manager) : Option RegistryCall → Manager
  | some call => registryNext p m call
  | none => m

/-- The thread of the MCU client does not call into the registry. -/
private theorem uncalled_byClientThread (p : Platform) {a : Action} (own : a.byClientThread = true) :
    a.registryCall p = none := by
  cases a with
  | call c =>
    obtain ⟨op,env⟩ := c
    cases op with
    | mcu update => rfl
    | _ => cases own
  | _ => rfl

theorem clients_pausing (p : Platform) (s : Pausing) (i : PausingAction)
    (ready : s.threads.manager.noTCUPowerMode = true) :
    ((pausing p).next s i).threads.manager.mClients =
      (registryAfter p s.threads.manager (i.registryCall p)).mClients := by
  show (pausingStep p s i).1.threads.manager.mClients = _
  rcases pausing_cases p s i with ⟨blocked,stays⟩ | ⟨a,rfl,_,taken⟩ | ⟨a,rfl,_,⟨opens,_,_⟩,begun⟩ | ⟨rfl,_,ended⟩
  · rw [stays]
    cases i with
    | take a =>
      rw [PausingAction.registryCall,uncalled_byClientThread p (blocked a rfl).2]; rfl
    | pauseEnd => rfl
  · rw [taken]
    refine (clients_action p s.threads a ready).trans ?_
    rw [PausingAction.registryCall]
    cases a.registryCall p <;> rfl
  · rw [begun,PausingAction.registryCall,uncalled_byClientThread p (opens_byClientThread opens).1]; rfl
  · rw [ended,evaluateAfterPause,notify_mClients]; rfl

/-- The MCU was told last to stay active if some client holds a lock, and only then. -/
def WishTrue (x : Pausing × Option StayActiveStatus) : Prop :=
  x.2 = some .STAY_ACTIVE ↔ Locked x.1.threads.manager

/-- What an operation that makes no call into the registry tells the MCU at once, if anything. -/
def Op.tells (m : Manager) : Op → Option StayActiveStatus
  | .dbus .LC_Wakeup => if inListen m.nadLifecycleState then some .STAY_ACTIVE else none
  | .dbus .LC_JumpToListen2 => some .STAY_INACTIVE
  | .mcu (.setPowerMode powerMode) =>
    if PowerModeStates.ofInt powerMode = some .SYSTEM_LC_STAY_ALIVE_SERVICES ∧
        m.nadLifecycleState ≠ .NAD_STAY_ALIVE_SERVICES then some .STAY_ACTIVE
    else none
  | _ => none

/-- A registration tells nothing, an unregistration should not take the last lock away, a release should be of
    the last lock, a refusal should meet none, and so should the end of a window; what else tells anything tells what
    is so. -/
def TellsTruth (p : Platform) (s : Threads) : Action → Prop
  | .call c =>
    match c.op.registryCall p with
    | some (.register _ _ _) => True
    | some (.unRegister name) =>
      HoldsLock s.manager (cleanClientName p.charSigned name) →
        ∃ n, HoldsLock s.manager n ∧ n ≠ cleanClientName p.charSigned name
    | some (.stayActive name v) => name ∈ clientNames s.manager →
      (StayActiveAllowed s.manager.nadLifecycleState s.manager.nadAdditionalInfo v → v ≠ .LC_LOCK →
          ∀ n, HoldsLock s.manager n → n = name) ∧
        (¬ StayActiveAllowed s.manager.nadLifecycleState s.manager.nadAdditionalInfo v → ¬ Locked s.manager)
    | none => Enabled s (.call c) → ∀ status, c.op.tells s.manager = some status →
      (status = .STAY_ACTIVE ↔ Locked s.manager)
  | .wakeupWrite => True
  | .tcuOnlyExpiry => s.window.isSome = true → ¬ Locked s.manager

def TellsTruthAt (p : Platform) (x : Pausing × Option StayActiveStatus) : PausingAction → Prop
  | .take a => ¬ x.1.Blocked a → TellsTruth p x.1.threads a
  | .pauseEnd => True

/-- All interleavings, with the value told to the MCU last. -/
def wishes (p : Platform) : Machine (Pausing × Option StayActiveStatus) PausingAction Output :=
  (pausing p).observe (fun last s i => lastAction last ((pausing p).out s i))

/-- What an operation tells is decided by its call into the registry, or else by the operation itself. -/
private theorem toldBy_eq (p : Platform) (m : Manager) (op : Op) (last : Option StayActiveStatus)
    (opens : ¬ op.OpensWindow) : toldBy m op last = match op.registryCall p with
      | some (.stayActive name v) => lastRequested m name v last
      | some _ => last
      | none => (op.tells m).or last := by
  cases op with
  | dbus request =>
    cases request with
    | LC_Wakeup =>
      show (if inListen m.nadLifecycleState then some .STAY_ACTIVE else last) =
        (if inListen m.nadLifecycleState then some .STAY_ACTIVE else none).or last
      split <;> rfl
    | _ => rfl
  | legato request => cases request <;> rfl
  | mcu update =>
    cases update with
    | setPowerMode powerMode =>
      show modeTold m powerMode last = (if _ ∧ _ then some .STAY_ACTIVE else none).or last
      unfold modeTold
      cases mode : PowerModeStates.ofInt powerMode with
      | none => rfl
      | some mode' =>
        cases mode' with
        | SYSTEM_LC_TCU_ONLY => exact absurd mode opens
        | SYSTEM_LC_STAY_ALIVE_SERVICES =>
          simp only [true_and]
          split <;> rfl
        | _ => simp
    | _ => rfl

section
variable {p : Platform} {s : Threads} {last : Option StayActiveStatus}

/-- An unregistration keeps the wish true exactly when it takes the last lock away from nobody. -/
private theorem truth_unRegister (running : Running p s.manager) (good : last = some .STAY_ACTIVE ↔ Locked s.manager)
    (name : ClientName) :
    (last = some .STAY_ACTIVE ↔ Locked (registryNext p s.manager (.unRegister name))) ↔
      (HoldsLock s.manager (cleanClientName p.charSigned name) →
        ∃ n, HoldsLock s.manager n ∧ n ≠ cleanClientName p.charSigned name) := by
  rw [good,locked_iff,locked_iff]
  simp only [locks_unRegister running.registered]
  constructor
  · intro same held
    exact same.mp ⟨_,held⟩
  · intro left
    constructor
    · rintro ⟨n,lock⟩
      by_cases own : n = cleanClientName p.charSigned name
      · exact left (own ▸ lock)
      · exact ⟨n,lock,own⟩
    · rintro ⟨n,lock,_⟩
      exact ⟨n,lock⟩

/-- After a granted request a lock is held by the client that asked for it, or by another. -/
private theorem locked_granted (running : Running p s.manager) {name : ClientName} {v : LCStayActive}
    (known : name ∈ clientNames s.manager)
    (allowed : StayActiveAllowed s.manager.nadLifecycleState s.manager.nadAdditionalInfo v) :
    Locked (registryNext p s.manager (.stayActive name v)) ↔
      v = .LC_LOCK ∨ ∃ n, HoldsLock s.manager n ∧ n ≠ name := by
  rw [locked_iff]
  simp only [locks_granted running.registered known allowed]
  constructor
  · rintro ⟨n,lock⟩
    by_cases own : n = name
    · rw [if_pos own] at lock
      exact .inl lock
    · rw [if_neg own] at lock
      exact .inr ⟨n,lock,own⟩
  · rintro (lock | ⟨n,lock,other⟩)
    · exact ⟨name,by rw [if_pos rfl]; exact lock⟩
    · exact ⟨n,by rw [if_neg other]; exact lock⟩

/-- A request keeps the wish true exactly when it is granted to the only holder of a lock, or asks for a lock, or is
    refused while none is held. -/
private theorem truth_stayActive (running : Running p s.manager) {name : ClientName} (v : LCStayActive)
    (known : name ∈ clientNames s.manager) :
    (lastRequested s.manager name v last = some .STAY_ACTIVE ↔
        Locked (registryNext p s.manager (.stayActive name v))) ↔
      (StayActiveAllowed s.manager.nadLifecycleState s.manager.nadAdditionalInfo v → v ≠ .LC_LOCK →
          ∀ n, HoldsLock s.manager n → n = name) ∧
        (¬ StayActiveAllowed s.manager.nadLifecycleState s.manager.nadAdditionalInfo v → ¬ Locked s.manager) := by
  rw [lastRequested,if_pos known]
  by_cases allowed : StayActiveAllowed s.manager.nadLifecycleState s.manager.nadAdditionalInfo v
  · rw [locked_granted running known allowed]
    by_cases lock : v = .LC_LOCK
    · rw [if_pos ⟨lock,allowed⟩]
      exact iff_of_true (iff_of_true rfl (.inl lock))
        ⟨fun _ release => absurd lock release,fun refused => absurd allowed refused⟩
    · rw [if_neg (fun both => lock both.1)]
      simp only [lock,false_or,reduceCtorEq,Option.some.injEq,false_iff,not_exists,not_and_not_right]
      constructor
      · intro alone
        exact ⟨fun _ _ n held => alone n held,fun refused => absurd allowed refused⟩
      · rintro ⟨tells,_⟩ n held
        exact tells allowed lock n held
  · rw [registry_kept (fun both => allowed both.2),if_neg (fun both => allowed both.2)]
    simp only [reduceCtorEq,Option.some.injEq,false_iff]
    exact ⟨fun unlocked => ⟨fun granted => absurd granted allowed,fun _ => unlocked⟩,fun tells => tells.2 allowed⟩

/-- A call into the registry keeps the wish true exactly when it tells the truth. -/
private theorem truth_registry (running : Running p s.manager) (good : last = some .STAY_ACTIVE ↔ Locked s.manager)
    {c : Call} {call : RegistryCall} (calls : c.op.registryCall p = some call) :
    ((match call with
        | .stayActive name v => lastRequested s.manager name v last
        | _ => last) = some .STAY_ACTIVE ↔ Locked (registryNext p s.manager call)) ↔ TellsTruth p s (.call c) := by
  rw [TellsTruth,calls]
  cases call with
  | register name pState pStatus =>
    rw [locked_iff]
    simp only [locks_register,← locked_iff]
    exact iff_of_true good trivial
  | unRegister name => exact truth_unRegister running good name
  | stayActive name v =>
    by_cases known : name ∈ clientNames s.manager
    · simp only [known,true_imp_iff]
      exact truth_stayActive running v known
    · simp only [lastRequested,if_neg known]
      rw [registry_kept (fun both => known both.1)]
      exact iff_of_true good (fun present => absurd present known)

/-- The mode that opens a window tells nothing yet, and calls nothing in the registry. -/
private theorem opens_untold {op : Op} (opens : op.OpensWindow) (m : Manager) :
    op.tells m = none ∧ op.registryCall p = none := by
  cases op with
  | mcu update =>
    cases update with
    | setPowerMode powerMode =>
      have only : PowerModeStates.ofInt powerMode = some .SYSTEM_LC_TCU_ONLY := opens
      exact ⟨by simp [Op.tells,only],rfl⟩
    | _ => exact opens.elim
  | _ => exact opens.elim

/-- An action keeps the wish true exactly when it tells the truth. -/
private theorem truth_action (running : Running p s.manager) (good : last = some .STAY_ACTIVE ↔ Locked s.manager)
    (a : Action) :
    (toldIn s a last = some .STAY_ACTIVE ↔ Locked (registryAfter p s.manager (a.registryCall p))) ↔
      TellsTruth p s a := by
  cases a with
  | call c =>
    rw [toldIn,Action.registryCall]
    by_cases told : Enabled s (.call c) ∧ ¬ OpensWindow s (.call c)
    · have opens : ¬ c.op.OpensWindow := fun opens => told.2 ⟨told.1,opens⟩
      rw [if_pos told,toldBy_eq p s.manager c.op last opens]
      cases calls : c.op.registryCall p with
      | some call =>
        rw [← truth_registry running good calls]
        cases call <;> exact Iff.rfl
      | none =>
        rw [TellsTruth,calls]
        show ((c.op.tells s.manager).or last = some .STAY_ACTIVE ↔ Locked s.manager) ↔ _
        cases tells : c.op.tells s.manager with
        | none =>
          refine iff_of_true good (fun _ status other => ?_)
          cases other
        | some status =>
          simp only [Option.some_or,Option.some.injEq]
          constructor
          · rintro kept _ _ rfl
            exact kept
          · intro truth
            exact truth told.1 status rfl
    · rw [if_neg told]
      by_cases enabled : Enabled s (.call c)
      · have opens : c.op.OpensWindow := by
          by_contra closed
          exact told ⟨enabled,fun opens => closed opens.2⟩
        obtain ⟨untold,unregistered⟩ := opens_untold (p := p) opens s.manager
        rw [TellsTruth,unregistered]
        refine iff_of_true good (fun _ status tells => ?_)
        rw [untold] at tells
        cases tells
      · have unregistered : c.op.registryCall p = none := by
          obtain ⟨op,env⟩ := c
          cases op with
          | mcu update => rfl
          | _ => exact absurd trivial enabled
        rw [TellsTruth,unregistered]
        exact iff_of_true good (fun enabled' => absurd enabled' enabled)
  | wakeupWrite => exact iff_of_true good trivial
  | tcuOnlyExpiry =>
    rw [toldIn,TellsTruth]
    show _ ↔ (_ → ¬ Locked s.manager)
    by_cases isOpen : s.window.isSome = true
    · simp [isOpen,Action.registryCall,registryAfter]
    · simp only [isOpen]
      exact iff_of_true good (fun closed => Bool.noConfusion closed)

end

private theorem truth_step {p : Platform} (x : Pausing × Option StayActiveStatus) (i : PausingAction)
    (running : Running p x.1.threads.manager) (good : WishTrue x) :
    WishTrue ((wishes p).next x i) ↔ TellsTruthAt p x i := by
  obtain ⟨s,last⟩ := x
  have told : ((wishes p).next (s,last) i).2 = toldAt s i last := told_pausing p running.ready i last
  have locked : Locked ((wishes p).next (s,last) i).1.threads.manager ↔
      Locked (registryAfter p s.threads.manager (i.registryCall p)) := by
    have clients := clients_pausing p s i running.ready
    rw [Locked,Locked,← clients]; rfl
  rw [WishTrue,told,locked]
  cases i with
  | take a =>
    show (toldAt s (.take a) last = _ ↔ Locked (registryAfter p _ (a.registryCall p))) ↔ (¬ s.Blocked a → _)
    rw [toldAt]
    by_cases blocked : s.Blocked a
    · rw [if_pos blocked,uncalled_byClientThread p blocked.2]
      exact iff_of_true good (fun free => absurd blocked free)
    · rw [if_neg blocked,forall_prop_of_true blocked]
      exact truth_action running good a
  | pauseEnd => exact iff_of_true good trivial

end LifecycleMgr
