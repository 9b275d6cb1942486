import LifecycleMgr.Pauses
import Mathlib.Algebra.Order.Group.Multiset

namespace LifecycleMgr
open Runs

inductive RequestKind
  | LC_GetPowerState_plus | LC_RegisterClient | LC_UnRegisterClient | LC_Emergency | LC_Wakeup | LC_StayActive
  | LC_SetRTC | LC_JumpToListen2
  | lifecycle_GetLifeCycleState_plus | lifecycle_RegisterClient | lifecycle_LC_Emergency | lifecycle_LC_StayActive
  deriving DecidableEq

/-- The kind of request that an operation is, if it is one. -/
def Op.kind : Op → Option RequestKind
  | .dbus .LC_GetPowerState_plus => some .LC_GetPowerState_plus
  | .dbus (.LC_RegisterClient _) => some .LC_RegisterClient
  | .dbus (.LC_UnRegisterClient _) => some .LC_UnRegisterClient
  | .dbus (.LC_Emergency _ _) => some .LC_Emergency
  | .dbus .LC_Wakeup => some .LC_Wakeup
  | .dbus (.LC_StayActive _ _) => some .LC_StayActive
  | .dbus (.LC_SetRTC _) => some .LC_SetRTC
  | .dbus .LC_JumpToListen2 => some .LC_JumpToListen2
  | .legato .lifecycle_GetLifeCycleState_plus => some .lifecycle_GetLifeCycleState_plus
  | .legato (.lifecycle_RegisterClient _) => some .lifecycle_RegisterClient
  | .legato (.lifecycle_LC_Emergency _ _) => some .lifecycle_LC_Emergency
  | .legato (.lifecycle_LC_StayActive _ _) => some .lifecycle_LC_StayActive
  | .mcu _ => none

/-- What an operation asks to be answered: every request but an unregistration of a name of padding only. -/
def Op.asks (p : Platform) : Op → Multiset RequestKind
  | .dbus (.LC_UnRegisterClient name) =>
    if cleanClientName p.charSigned name = [] then 0 else {.LC_UnRegisterClient}
  | op => op.kind.elim 0 ({·})

theorem kind_of_asks {p : Platform} {op : Op} {kind : RequestKind} (asked : kind ∈ op.asks p) :
    op.kind = some kind := by
  have named : ∀ other, op.asks p = {other} → op.kind = some other → op.kind = some kind := by
    intro other asks same
    rw [asks] at asked
    rw [Multiset.mem_singleton.mp asked]
    exact same
  cases op with
  | dbus request =>
    cases request with
    | LC_UnRegisterClient name =>
      rw [Op.asks] at asked
      split at asked
      · exact absurd asked (Multiset.notMem_zero kind)
      · rw [Multiset.mem_singleton.mp asked]; rfl
    | _ => exact named _ rfl rfl
  | legato request => cases request <;> exact named _ rfl rfl
  | mcu update => exact absurd asked (Multiset.notMem_zero kind)

def Action.asks (p : Platform) : Action → Multiset RequestKind
  | .call c => c.op.asks p
  | _ => 0

def PausingAction.asks (p : Platform) : PausingAction → Multiset RequestKind
  | .take a => a.asks p
  | .pauseEnd => 0

/-- The kind of request that an output answers, if it is an answer. -/
def Output.answers : Output → Multiset RequestKind
  | .reply (.getPowerStatePlus _ _) => {.LC_GetPowerState_plus}
  | .reply (.registerClient _ _) => {.LC_RegisterClient}
  | .reply (.unRegisterClient _) => {.LC_UnRegisterClient}
  | .reply (.emergency _) => {.LC_Emergency}
  | .reply (.wakeup _) => {.LC_Wakeup}
  | .reply (.stayActive _) => {.LC_StayActive}
  | .reply (.setRTC _) => {.LC_SetRTC}
  | .reply (.jumpToListen2 _) => {.LC_JumpToListen2}
  | .leReply (.getLifeCycleStatePlus _) => {.lifecycle_GetLifeCycleState_plus}
  | .leReply (.registerClient _ _) => {.lifecycle_RegisterClient}
  | .leReply (.emergency _) => {.lifecycle_LC_Emergency}
  | .leReply (.stayActive _) => {.lifecycle_LC_StayActive}
  | _ => 0

def answered (outputs : List Output) : Multiset RequestKind := Machine.sent Output.answers outputs

/-- The executions of `LC_Wakeup` in their remote call. -/
def unanswered (s : Threads) : Multiset RequestKind := Multiset.replicate s.wakeups .LC_Wakeup

/-- The same of the threads and a pause. -/
def pending (s : Pausing) : Multiset RequestKind := unanswered s.threads

private theorem answered_append (front back : List Output) :
    answered (front ++ back) = answered front + answered back := Machine.sent_append _ front back

private theorem answered_notify (m : Manager) : answered (notifyAllRegisteredClientsNadStateInfo m).2 = 0 := by
  rw [notify_out]
  split <;> rfl

private theorem answered_trigger (env : Env) (state : LCState) : answered (triggerLCEmergency env state).1 = 0 := by
  cases state <;> rfl

private theorem answered_stayActive (m : Manager) (name : ClientName) (v : LCStayActive) :
    answered (evaluateLCStayActive m name v).2.1 = 0 := by
  rw [stayActive_sent]
  split <;> rfl

private theorem answered_switch (m : Manager) (powerMode : Int) : answered (powerModeSwitch m powerMode).2.1 = 0 := by
  unfold powerModeSwitch
  split
  · rfl
  · split <;> rfl
  · split <;> rfl

private theorem answered_evaluate (m : Manager) (state : LCState) :
    answered (evaluateAndBroadcastPowerMode m state).2.1 = 0 := by
  unfold evaluateAndBroadcastPowerMode
  split
  · rw [answered_append,answered_notify]; rfl
  · exact answered_notify _

private theorem answered_entry (p : Platform) (m : Manager) (powerMode : Int) :
    answered (setPowerModeEntry p m powerMode).2.1 = 0 := by
  have switched := answered_switch m powerMode
  unfold setPowerModeEntry
  simp only
  split
  · rw [answered_append,switched,answered_evaluate]; rfl
  · split <;> exact switched

private theorem answered_unRegister (p : Platform) (m : Manager) (name : ClientName) :
    answered (lcUnRegisterClient p m name).2 = (Op.dbus (.LC_UnRegisterClient name)).asks p := by
  rw [unRegister_out,Op.asks]
  split <;> rfl

private theorem answered_write (m : Manager) : answered (lcWakeupWrite m).2 = {.LC_Wakeup} := by
  rw [lcWakeupWrite,answered_append,answered_notify]; rfl

/-- Up to its remote call `LC_Wakeup` answers unless it is in the call now. -/
private theorem answered_test (m : Manager) :
    answered (lcWakeupTest m).2.1 = if inListen m.nadLifecycleState then 0 else {.LC_Wakeup} := by
  cases woken : wokenState m.nadLifecycleState with
  | none =>
    have notListen : ¬ inListen m.nadLifecycleState = true := by
      rw [← test_inCall,test_refused woken]
      exact Bool.false_ne_true
    rw [test_refused woken,if_neg notListen]; rfl
  | some state =>
    rcases wokenState_cases woken with ⟨law,_⟩ | ⟨listen,_⟩
    · rw [test_law law,law,answered_append,answered_notify]; rfl
    · rw [test_listen listen,if_pos listen]; rfl

/-- A call answers what it asks, unless it is in its remote call now. -/
private theorem answered_call (p : Platform) (s : Threads) (c : Call) :
    answered (callStep p s c).2 =
      if c.op = .dbus .LC_Wakeup ∧ inListen s.manager.nadLifecycleState then 0 else c.op.asks p := by
  obtain ⟨op,env⟩ := c
  cases op with
  | dbus request =>
    cases request with
    | LC_Wakeup =>
      show answered (lcWakeupTest s.manager).2.1 = _
      rw [answered_test]
      by_cases listen : inListen s.manager.nadLifecycleState = true
      · rw [if_pos listen,if_pos ⟨rfl,listen⟩]
      · rw [if_neg listen,if_neg (fun both => listen both.2)]; rfl
    | LC_Emergency name state =>
      rw [if_neg (fun both => by cases both.1)]
      show answered (lcEmergency env state) = _
      rw [lcEmergency,answered_append,answered_trigger]; rfl
    | LC_StayActive name stayActive =>
      rw [if_neg (fun both => by cases both.1)]
      show answered (lcStayActive s.manager name stayActive).2 = _
      rw [lcStayActive,answered_append,answered_stayActive]; rfl
    | LC_UnRegisterClient name =>
      rw [if_neg (fun both => by cases both.1)]
      exact answered_unRegister p s.manager name
    | _ => rw [if_neg (fun both => by cases both.1)]; rfl
  | legato request =>
    rw [if_neg (fun both => by cases both.1)]
    cases request with
    | lifecycle_LC_Emergency name state =>
      show answered (lifecycleLCEmergency env state) = _
      rw [lifecycleLCEmergency,answered_append,answered_trigger]; rfl
    | lifecycle_LC_StayActive name stayActive =>
      show answered (lifecycleLCStayActive s.manager name stayActive).2 = _
      rw [lifecycleLCStayActive,answered_append,answered_stayActive]; rfl
    | _ => rfl
  | mcu update =>
    rw [if_neg (fun both => by cases both.1)]
    cases update with
    | setPowerMode powerMode => exact answered_entry p s.manager powerMode
    | setLCMainBattery batteryStatus | setLCVTMstate vtmState => exact answered_notify _
    | _ => rfl

/-- An action answers what it asks, or an execution of `LC_Wakeup` that was in its remote call. -/
theorem answered_action (p : Platform) (s : Threads) (a : Action) :
    unanswered ((threads p).next s a) + answered ((threads p).out s a) = unanswered s + a.asks p := by
  show unanswered (actionStep p s a).1 + answered (actionStep p s a).2 = _
  rcases action_cases p s a with
    ⟨disabled,stays⟩ | ⟨c,rfl,_,called⟩ | ⟨rfl,enabled,written⟩ | ⟨rfl,_,expired⟩
  · have unasked : a.asks p = 0 := by
      cases a with
      | call c =>
        -- only the thread of the MCU client can be blocked
        obtain ⟨op,env⟩ := c
        cases op with
        | mcu update => rfl
        | _ => exact absurd trivial disabled
      | _ => rfl
    rw [stays,unasked]; rfl
  · rw [called,answered_call,unanswered,callStep_wakeups,unanswered]
    by_cases inCall : c.op = .dbus .LC_Wakeup ∧ inListen s.manager.nadLifecycleState
    · have asked : (Action.call c).asks p = {.LC_Wakeup} := by
        rw [Action.asks,inCall.1]; rfl
      rw [if_pos inCall,if_pos inCall,asked,Multiset.replicate_add,add_zero]; rfl
    · rw [if_neg inCall,if_neg inCall]; rfl
  · obtain ⟨others,one⟩ : ∃ others, s.wakeups = others + 1 := Nat.exists_eq_add_one.mpr enabled
    rw [written,answered_write,unanswered,unanswered,one,Multiset.replicate_add]
    exact (add_zero _).symm
  · rw [expired]; rfl

/-- Any other answer is one to the request that the action makes. -/
theorem asked_of_answer (p : Platform) {s : Threads} {a : Action} {o : Output} {kind : RequestKind}
    (member : o ∈ (threads p).out s a) (answer : kind ∈ o.answers) (other : kind ≠ .LC_Wakeup) : kind ∈ a.asks p := by
  have inside : ∀ outputs : List Output, o ∈ outputs → kind ∈ answered outputs := by
    intro outputs
    induction outputs with
    | nil => exact fun absent => absurd absent List.not_mem_nil
    | cons first rest ih =>
      intro member
      rw [answered,Machine.sent_cons,Multiset.mem_add]
      rcases List.mem_cons.mp member with rfl | later
      · exact .inl answer
      · exact .inr (ih later)
  have balance := answered_action p s a
  have total : kind ∈ unanswered s + a.asks p := by
    rw [← balance,Multiset.mem_add]
    exact .inr (inside _ member)
  rcases Multiset.mem_add.mp total with waiting | asked
  · exact absurd (Multiset.eq_of_mem_replicate waiting) other
  · exact asked

/-- What the thread of the MCU client takes is no request. -/
private theorem asks_byClientThread (p : Platform) {a : Action} (own : a.byClientThread = true) : a.asks p = 0 := by
  cases a with
  | call c =>
    obtain ⟨op,env⟩ := c
    cases op with
    | mcu update => rfl
    | _ => cases own
  | _ => rfl

theorem answered_step (p : Platform) (s : Pausing) (i : PausingAction) :
    pending ((pausing p).next s i) + Machine.sent Output.answers ((pausing p).out s i) = pending s + i.asks p := by
  show unanswered (pausingStep p s i).1.threads + answered (pausingStep p s i).2 = unanswered s.threads + i.asks p
  rcases pausing_cases p s i with
    ⟨blocked,stays⟩ | ⟨a,rfl,_,taken⟩ | ⟨a,rfl,_,⟨opens,_,_⟩,begun⟩ | ⟨rfl,_,ended⟩
  · have unasked : i.asks p = 0 := by
      cases i with
      | take a => exact asks_byClientThread p (blocked a rfl).2
      | pauseEnd => rfl
    rw [stays,unasked]; rfl
  · rw [taken]
    exact answered_action p s.threads a
  · rw [begun,PausingAction.asks,asks_byClientThread p (opens_byClientThread opens).1]; rfl
  · have announced : answered (evaluateAfterPause s.threads.manager).2.1 = 0 := by
      rw [evaluateAfterPause,answered_append,answered_notify]; rfl
    rw [ended,announced]; rfl

theorem answers_balance (p : Platform) (s : Pausing) (run : List PausingAction) :
    pending ((pausing p).run s run) + answered ((pausing p).outputs s run) =
      pending s + (run.map (PausingAction.asks p)).sum := by
  have conserved := Machine.run_conserves (pausing p) (fun _ _ kept => kept)
    (fun s i (_ : True) => answered_step p s i) (s := s) trivial run
  rw [Machine.total_inputs] at conserved
  exact conserved

end LifecycleMgr
