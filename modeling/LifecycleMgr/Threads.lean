import LifecycleMgr.Registry

/-!
The manager served by several threads. The thread of the MCU client delivers
power modes and sensor values and sleeps through a TCU-only window; the threads
of the servers execute requests meanwhile, and an execution of `LC_Wakeup` is
interrupted by its remote call. The pause before a window is not an action here
but part of the power mode (`pausing` has the two apart). An interleaving is a sequence of actions; an
action whose thread cannot take it leaves everything as it is. Completing every
operation before the next one starts gives the sequential manager
(`complete_eq`).
-/
namespace LifecycleMgr
open Runs

/-- The manager, the seconds of the open TCU-only window, and the number of
    executions of `LC_Wakeup` that are in their remote call. -/
structure Threads where
  manager : Manager
  window : Option Nat
  wakeups : Nat
  deriving DecidableEq

inductive Action
  /-- An operation, up to its sleep or its remote call if it has one. -/
  | call (c : Call)
  /-- The rest of an `LC_Wakeup` after its remote call. -/
  | wakeupWrite
  /-- The rest of a `setPowerMode` after its TCU-only window. -/
  | tcuOnlyExpiry
  deriving DecidableEq

/-- The updates that the thread of the MCU client delivers; the other comes from the netlink socket. -/
def McuUpdate.fromClientThread : McuUpdate → Bool
  | .setSocketWakeupSource _ => false
  | _ => true

/-- Whether a thread can take the action. -/
def Enabled (s : Threads) : Action → Prop
  | .call { op := .mcu update, .. } => s.window = none ∨ update.fromClientThread = false
  | .call _ => True
  | .wakeupWrite => 0 < s.wakeups
  | .tcuOnlyExpiry => s.window.isSome = true

instance (s : Threads) : ∀ a, Decidable (Enabled s a)
  | .call { op := .mcu _, .. } => inferInstanceAs (Decidable (_ ∨ _))
  | .call { op := .dbus _, .. } => isTrue trivial
  | .call { op := .legato _, .. } => isTrue trivial
  | .wakeupWrite => inferInstanceAs (Decidable (0 < s.wakeups))
  | .tcuOnlyExpiry => inferInstanceAs (Decidable (s.window.isSome = true))

/-- A call, up to the write of an `LC_Wakeup` after its remote call and up to the end of the window of a TCU-only
    mode. The two seconds that such a mode waits before its window are counted to this step; the machine `pausing`
    takes the mode apart there. -/
def callStep (p : Platform) (s : Threads) (c : Call) : Threads × List Output :=
  match c.op with
  | .dbus .LC_Wakeup =>
    let tested := lcWakeupTest s.manager
    ({ s with manager := tested.1, wakeups := if tested.2.2 then s.wakeups + 1 else s.wakeups },tested.2.1)
  | .mcu (.setPowerMode powerMode) =>
    let entered := setPowerModeEntry p s.manager powerMode
    ({ s with manager := entered.1, window := entered.2.2 },entered.2.1)
  | _ =>
    let executed := managerStep p s.manager c
    ({ s with manager := executed.1 },executed.2)

def actionStep (p : Platform) (s : Threads) (a : Action) : Threads × List Output :=
  if Enabled s a then
    match a with
    | .call c => callStep p s c
    | .wakeupWrite =>
      let written := lcWakeupWrite s.manager
      ({ s with manager := written.1, wakeups := s.wakeups - 1 },written.2)
    | .tcuOnlyExpiry => ({ s with window := none },tcuOnlyTimerExpiry)
  else (s,[])

/-- The manager under all interleavings of its threads. -/
def threads (p : Platform) : Machine Threads Action Output := ⟨actionStep p⟩

def Threads.constructed (p : Platform) (info : AdditionalLifecycleStateInfo) : Threads where
  manager := .constructed p info
  window := none
  wakeups := 0

/-- No operation has begun; the event id may have been created by then. -/
def Threads.started (p : Platform) (info : AdditionalLifecycleStateInfo) (created : Bool) : Threads where
  manager := .started p info created
  window := none
  wakeups := 0

/-- An action that no thread can take does nothing; one that a thread can take is a call, or the rest of one. -/
theorem action_cases (p : Platform) (s : Threads) (a : Action) :
    ¬ Enabled s a ∧ actionStep p s a = (s,[]) ∨
      (∃ c, a = .call c ∧ Enabled s a ∧ actionStep p s a = callStep p s c) ∨
      (a = .wakeupWrite ∧ Enabled s a ∧ actionStep p s a =
        ({ s with manager := (lcWakeupWrite s.manager).1, wakeups := s.wakeups - 1 },(lcWakeupWrite s.manager).2)) ∨
      a = .tcuOnlyExpiry ∧ Enabled s a ∧ actionStep p s a = ({ s with window := none },tcuOnlyTimerExpiry) := by
  by_cases enabled : Enabled s a
  · refine .inr ?_
    cases a with
    | call c => exact .inl ⟨c,rfl,enabled,if_pos enabled⟩
    | wakeupWrite => exact .inr (.inl ⟨rfl,enabled,if_pos enabled⟩)
    | tcuOnlyExpiry => exact .inr (.inr ⟨rfl,enabled,if_pos enabled⟩)
  · exact .inl ⟨enabled,if_neg enabled⟩

theorem callStep_manager (p : Platform) (s : Threads) (c : Call) :
    (callStep p s c).1.manager =
      if c.op = .dbus .LC_Wakeup ∧ inListen s.manager.nadLifecycleState then s.manager
      else (manager p).next s.manager c := by
  obtain ⟨op,env⟩ := c
  cases op with
  | dbus request =>
    cases request with
    | LC_Wakeup =>
      by_cases listen : inListen s.manager.nadLifecycleState = true
      · rw [if_pos ⟨rfl,listen⟩]
        show (lcWakeupTest s.manager).1 = s.manager
        rw [test_listen listen]
      · rw [if_neg (fun both => listen both.2)]
        show (lcWakeupTest s.manager).1 = (lcWakeup s.manager).1
        rw [lcWakeup,if_neg (by rw [test_inCall]; exact listen)]
    | _ => rw [if_neg (fun both => by cases both.1)]; rfl
  | legato request => rw [if_neg (fun both => by cases both.1)]; rfl
  | mcu update =>
    rw [if_neg (fun both => by cases both.1)]
    cases update <;> rfl

theorem callStep_wakeups (p : Platform) (s : Threads) (c : Call) :
    (callStep p s c).1.wakeups =
      if c.op = .dbus .LC_Wakeup ∧ inListen s.manager.nadLifecycleState then s.wakeups + 1 else s.wakeups := by
  obtain ⟨op,env⟩ := c
  cases op with
  | dbus request =>
    cases request with
    | LC_Wakeup =>
      show (if (lcWakeupTest s.manager).2.2 = true then s.wakeups + 1 else s.wakeups) = _
      rw [test_inCall]
      by_cases listen : inListen s.manager.nadLifecycleState = true
      · rw [if_pos listen,if_pos ⟨rfl,listen⟩]
      · rw [if_neg listen,if_neg (fun both => listen both.2)]
    | _ => rw [if_neg (fun both => by cases both.1)]; rfl
  | legato request => rw [if_neg (fun both => by cases both.1)]; rfl
  | mcu update =>
    rw [if_neg (fun both => by cases both.1)]
    cases update <;> rfl

theorem running_action (p : Platform) (s : Threads) (a : Action) (running : Running p s.manager) :
    Running p ((threads p).next s a).manager := by
  show Running p (actionStep p s a).1.manager
  rcases action_cases p s a with ⟨_,stays⟩ | ⟨c,_,_,called⟩ | ⟨_,_,written⟩ | ⟨_,_,expired⟩
  · rw [stays]
    exact running
  · rw [called,callStep_manager]
    split
    · exact running
    · exact running_next p s.manager c running
  · rw [written]
    exact running_notify running .NAD_STAY_ALIVE_SERVICES s.manager.nadAdditionalInfo s.manager.bBuBMode
  · rw [expired]
    exact running

/-- The call into the registry that an action makes, if any. -/
def Action.registryCall (p : Platform) : Action → Option RegistryCall
  | .call c => c.op.registryCall p
  | _ => none

/-- Under all interleavings the registry changes by the calls into it only. -/
theorem clients_action (p : Platform) (s : Threads) (a : Action) (ready : s.manager.noTCUPowerMode = true) :
    ((threads p).next s a).manager.mClients = match a.registryCall p with
      | some call => (registryNext p s.manager call).mClients
      | none => s.manager.mClients := by
  show (actionStep p s a).1.manager.mClients = _
  rcases action_cases p s a with
    ⟨disabled,stays⟩ | ⟨c,rfl,_,called⟩ | ⟨rfl,_,written⟩ | ⟨rfl,_,expired⟩
  · have unregistered : a.registryCall p = none := by
      cases a with
      | call c =>
        -- only the thread of the MCU client can be blocked
        obtain ⟨op,env⟩ := c
        cases op with
        | mcu update => rfl
        | _ => exact absurd trivial disabled
      | wakeupWrite | tcuOnlyExpiry => rfl
    rw [stays,unregistered]
  · rw [called,callStep_manager]
    split
    · rename_i inCall
      rw [Action.registryCall,inCall.1]; rfl
    · exact step_clients p ready c
  · rw [written]
    show (lcWakeupWrite s.manager).1.mClients = _
    rw [lcWakeupWrite,notify_mClients]; rfl
  · rw [expired]; rfl

/-- What is left to do after the first action of an operation. -/
def rest : List Action := [.wakeupWrite,.tcuOnlyExpiry]

/-- An operation and, when it sleeps or calls, the rest of it at once. -/
def complete (c : Call) : List Action := .call c :: rest

section
variable (p : Platform) (m : Manager)

private theorem rest_over : (threads p).run ⟨m,none,0⟩ rest = ⟨m,none,0⟩ ∧
    (threads p).outputs ⟨m,none,0⟩ rest = [] := ⟨rfl,rfl⟩

private theorem rest_wakeup : (threads p).run ⟨m,none,1⟩ rest = ⟨(lcWakeupWrite m).1,none,0⟩ ∧
    (threads p).outputs ⟨m,none,1⟩ rest = (lcWakeupWrite m).2 := ⟨rfl,List.append_nil _⟩

private theorem rest_window (timerVal : Nat) : (threads p).run ⟨m,some timerVal,0⟩ rest = ⟨m,none,0⟩ ∧
    (threads p).outputs ⟨m,some timerVal,0⟩ rest = tcuOnlyTimerExpiry := ⟨rfl,rfl⟩

private theorem complete_call (c : Call) : (threads p).run ⟨m,none,0⟩ (complete c) =
      (threads p).run (callStep p ⟨m,none,0⟩ c).1 rest ∧
    (threads p).outputs ⟨m,none,0⟩ (complete c) =
      (callStep p ⟨m,none,0⟩ c).2 ++ (threads p).outputs (callStep p ⟨m,none,0⟩ c).1 rest := by
  have called : (threads p).step ⟨m,none,0⟩ (.call c) = callStep p ⟨m,none,0⟩ c := by
    obtain ⟨op,env⟩ := c
    cases op <;> rfl
  simp only [complete,Machine.run,Machine.outputs,Machine.next,Machine.out,called,and_self]

/-- An operation that is completed before anything else runs is a step of the sequential manager. -/
theorem complete_eq (c : Call) : (threads p).run ⟨m,none,0⟩ (complete c) = ⟨(manager p).next m c,none,0⟩ ∧
    (threads p).outputs ⟨m,none,0⟩ (complete c) = (manager p).out m c := by
  rw [(complete_call p m c).1,(complete_call p m c).2]
  -- an operation that is over after its first action
  have finished : ∀ m' outputs, callStep p ⟨m,none,0⟩ c = (⟨m',none,0⟩,outputs) → managerStep p m c = (m',outputs) →
      (threads p).run (callStep p ⟨m,none,0⟩ c).1 rest = ⟨(managerStep p m c).1,none,0⟩ ∧
        (callStep p ⟨m,none,0⟩ c).2 ++ (threads p).outputs (callStep p ⟨m,none,0⟩ c).1 rest =
          (managerStep p m c).2 := by
    intro m' outputs called executed
    rw [called,executed]
    exact ⟨(rest_over p m').1,List.append_nil outputs⟩
  show _ = Threads.mk (managerStep p m c).1 none 0 ∧ _ = (managerStep p m c).2
  obtain ⟨op,env⟩ := c
  cases op with
  | dbus request =>
    cases request with
    | LC_Wakeup =>
      by_cases listen : inListen m.nadLifecycleState = true
      · have called : callStep p ⟨m,none,0⟩ ⟨.dbus .LC_Wakeup,env⟩ = (⟨m,none,1⟩,[sendPendingAction .STAY_ACTIVE]) := by
          simp only [callStep,test_listen listen,if_true]
        have executed : managerStep p m ⟨.dbus .LC_Wakeup,env⟩ =
            ((lcWakeupWrite m).1,sendPendingAction .STAY_ACTIVE :: (lcWakeupWrite m).2) := wakeup_listen listen
        rw [called,executed,(rest_wakeup p m).1,(rest_wakeup p m).2]
        exact ⟨rfl,rfl⟩
      · refine finished (lcWakeupTest m).1 (lcWakeupTest m).2.1 ?_ ?_
        · simp only [callStep,test_inCall,if_neg listen]
        · show lcWakeup m = _
          rw [lcWakeup,if_neg (by rw [test_inCall]; exact listen)]
    | _ => exact finished _ _ rfl rfl
  | legato request => exact finished _ _ rfl rfl
  | mcu update =>
    cases update with
    | setPowerMode powerMode =>
      show (threads p).run ⟨(setPowerModeEntry p m powerMode).1,(setPowerModeEntry p m powerMode).2.2,0⟩ rest =
          ⟨(setPowerModeEntry p m powerMode).1,none,0⟩ ∧
        (setPowerModeEntry p m powerMode).2.1 ++ (threads p).outputs
            ⟨(setPowerModeEntry p m powerMode).1,(setPowerModeEntry p m powerMode).2.2,0⟩ rest =
          (setPowerMode p m powerMode).2
      rw [setPowerMode]
      cases window : (setPowerModeEntry p m powerMode).2.2 with
      | none => exact ⟨(rest_over p _).1,List.append_nil _⟩
      | some timerVal => exact ⟨(rest_window p _ timerVal).1,rfl⟩
    | _ => exact finished _ _ rfl rfl

end
end LifecycleMgr
