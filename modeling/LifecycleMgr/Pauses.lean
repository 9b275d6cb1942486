import LifecycleMgr.Actions
import LifecycleMgr.Refinements

/-!
The threads at a finer grain. A TCU-only mode that does not come from a listen mode or
the shutdown writes the power state, pauses for two seconds, and only then reads the
source of the wakeup, broadcasts and begins its window. `threads` counts the pause to
the step that ends it. Here the other threads run during the pause, too, and find a
state that has not been announced. Every interleaving of `threads` is one in which
nothing runs in a pause (`threads_paused`).
-/
namespace LifecycleMgr
open Runs

/-- `evaluateAndBroadcastPowerMode` up to its pause. -/
def evaluateUntilPause (m : Manager) (currPowMode : LCState) : Manager := { m with nadLifecycleState := currPowMode }

/-- The rest of it up to the sleep of `startTCUOnlyTimer`, with the timer it started. -/
def evaluateAfterPause (m : Manager) : Manager × List Output × Nat :=
  let notified := notifyAllRegisteredClientsNadStateInfo m
  let timerVal := if m.nadAdditionalInfo.nadWakeupSource = .WAKE_UP_ACCELEROMETER then 120 else 21
  (notified.1,notified.2 ++ [.startTCUOnlyTimer timerVal],timerVal)

theorem evaluate_paused {m : Manager} (outside : wokenFrom m.nadLifecycleState = false) :
    evaluateAndBroadcastPowerMode m .NAD_STAY_ALIVE_SERVICES =
      ((evaluateAfterPause (evaluateUntilPause m .NAD_STAY_ALIVE_SERVICES)).1,
        (evaluateAfterPause (evaluateUntilPause m .NAD_STAY_ALIVE_SERVICES)).2.1,
        some (evaluateAfterPause (evaluateUntilPause m .NAD_STAY_ALIVE_SERVICES)).2.2) := by
  unfold evaluateAndBroadcastPowerMode
  simp only [outside]
  rfl

/-- After the pause one window begins. -/
theorem timers_afterPause (m : Manager) : timers (evaluateAfterPause m).2.1 = [(evaluateAfterPause m).2.2] := by
  rw [evaluateAfterPause,timers,List.filterMap_append,notify_out]
  split <;> rfl

/-- A TCU-only mode evaluates the state of stay-alive services. -/
theorem entry_tcuOnly (p : Platform) {m : Manager} (ready : m.noTCUPowerMode = true) {powerMode : Int}
    (only : PowerModeStates.ofInt powerMode = some .SYSTEM_LC_TCU_ONLY) :
    setPowerModeEntry p m powerMode = evaluateAndBroadcastPowerMode m .NAD_STAY_ALIVE_SERVICES := by
  have switched : powerModeSwitch m powerMode = (m,[],some .NAD_STAY_ALIVE_SERVICES) := by
    unfold powerModeSwitch
    rw [only]; rfl
  unfold setPowerModeEntry
  simp only [switched]
  rw [if_pos ⟨by rw [only]; simp,ready⟩]
  simp only [Option.getD_some,List.nil_append]

/-- The threads, and whether the thread of the MCU client is in the pause of a TCU-only mode. -/
structure Pausing where
  threads : Threads
  pausing : Bool
  deriving DecidableEq

inductive PausingAction
  /-- An action of `threads`; a TCU-only mode that pauses is taken up to its pause. -/
  | take (a : Action)
  /-- The rest of such a mode, up to its window. -/
  | pauseEnd
  deriving DecidableEq

/-- The actions of the thread of the MCU client. -/
def Action.byClientThread : Action → Bool
  | .call { op := .mcu update, .. } => update.fromClientThread
  | .call _ => false
  | .wakeupWrite => false
  | .tcuOnlyExpiry => true

/-- The action is a TCU-only mode that pauses. -/
def Pauses (s : Threads) (a : Action) : Prop :=
  OpensWindow s a ∧ s.manager.noTCUPowerMode = true ∧ wokenFrom s.manager.nadLifecycleState = false

instance (s : Threads) (a : Action) : Decidable (Pauses s a) := inferInstanceAs (Decidable (_ ∧ _))

/-- The thread of the MCU client takes no action in its pause. -/
def Pausing.Blocked (s : Pausing) (a : Action) : Prop := s.pausing = true ∧ a.byClientThread = true

instance (s : Pausing) (a : Action) : Decidable (s.Blocked a) := inferInstanceAs (Decidable (_ ∧ _))

def pausingStep (p : Platform) (s : Pausing) : PausingAction → Pausing × List Output
  | .take a =>
    if s.Blocked a then (s,[])
    else if Pauses s.threads a then
      ({ threads := { s.threads with manager := evaluateUntilPause s.threads.manager .NAD_STAY_ALIVE_SERVICES }
         pausing := true },[])
    else
      let taken := actionStep p s.threads a
      ({ s with threads := taken.1 },taken.2)
  | .pauseEnd =>
    if s.pausing then
      let ended := evaluateAfterPause s.threads.manager
      ({ threads := { s.threads with manager := ended.1, window := some ended.2.2 }
         pausing := false },ended.2.1)
    else (s,[])

/-- The manager under all interleavings of its threads, also those that run in a pause. -/
def pausing (p : Platform) : Machine Pausing PausingAction Output := ⟨pausingStep p⟩

/-- No operation has begun; the event id may have been created by then. -/
def Pausing.started (p : Platform) (info : AdditionalLifecycleStateInfo) (created : Bool) : Pausing where
  threads := .started p info created
  pausing := false

/-- Only the thread of the MCU client opens a window, and when none is open. -/
theorem opens_byClientThread {s : Threads} {a : Action} (opens : OpensWindow s a) :
    a.byClientThread = true ∧ s.window = none := by
  cases a with
  | call c =>
    obtain ⟨enabled,only⟩ := opens
    obtain ⟨op,env⟩ := c
    cases op with
    | mcu update =>
      cases update with
      | setPowerMode powerMode => exact ⟨rfl,enabled.resolve_right (by simp [McuUpdate.fromClientThread])⟩
      | _ => exact only.elim
    | _ => exact only.elim
  | _ => exact opens.elim

/-- An action does nothing, or is one of `threads`, or begins or ends a pause. -/
theorem pausing_cases (p : Platform) (s : Pausing) (i : PausingAction) :
    ((∀ a, i = .take a → s.Blocked a) ∧ pausingStep p s i = (s,[])) ∨
      (∃ a, i = .take a ∧ ¬ s.Blocked a ∧ pausingStep p s i =
        ({ s with threads := (threads p).next s.threads a },(threads p).out s.threads a)) ∨
      (∃ a, i = .take a ∧ ¬ s.Blocked a ∧ Pauses s.threads a ∧ pausingStep p s i =
        ({ threads := { s.threads with manager := evaluateUntilPause s.threads.manager .NAD_STAY_ALIVE_SERVICES }
           pausing := true },[])) ∨
      (i = .pauseEnd ∧ s.pausing = true ∧ pausingStep p s i =
        ({ threads :=
             { s.threads with
               manager := (evaluateAfterPause s.threads.manager).1
               window := some (evaluateAfterPause s.threads.manager).2.2 }
           pausing := false },(evaluateAfterPause s.threads.manager).2.1)) := by
  cases i with
  | take a =>
    by_cases blocked : s.Blocked a
    · refine .inl ⟨?_,if_pos blocked⟩
      rintro _ ⟨⟩
      exact blocked
    · by_cases pauses : Pauses s.threads a
      · refine .inr (.inr (.inl ⟨a,rfl,blocked,pauses,?_⟩))
        rw [pausingStep,if_neg blocked,if_pos pauses]
      · refine .inr (.inl ⟨a,rfl,blocked,?_⟩)
        rw [pausingStep,if_neg blocked,if_neg pauses]
        rfl
  | pauseEnd =>
    by_cases inPause : s.pausing = true
    · exact .inr (.inr (.inr ⟨rfl,inPause,if_pos inPause⟩))
    · exact .inl ⟨fun _ taken => (by cases taken),if_neg inPause⟩

theorem running_pausing (p : Platform) (s : Pausing) (i : PausingAction) (running : Running p s.threads.manager) :
    Running p ((pausing p).next s i).threads.manager := by
  show Running p (pausingStep p s i).1.threads.manager
  rcases pausing_cases p s i with ⟨_,stays⟩ | ⟨a,_,_,taken⟩ | ⟨a,_,_,_,begun⟩ | ⟨_,_,ended⟩
  · rw [stays]
    exact running
  · rw [taken]
    exact running_action p s.threads a running
  · rw [begun]
    exact ⟨running.ready,running.registered.distinct,running.registered.nonempty,running.registered.cleaned⟩
  · rw [ended]
    exact running_notify running s.threads.manager.nadLifecycleState s.threads.manager.nadAdditionalInfo
      s.threads.manager.bBuBMode

/-- An action, with the end of its pause at once. -/
def unpaused (a : Action) : List PausingAction := [.take a,.pauseEnd]

private theorem unpaused_eq (p : Platform) (s : Threads) (a : Action) :
    (pausing p).run ⟨s,false⟩ (unpaused a) = ⟨(threads p).next s a,false⟩ ∧
      (pausing p).outputs ⟨s,false⟩ (unpaused a) = (threads p).out s a := by
  have idle : ¬ (Pausing.mk s false).Blocked a := fun blocked => Bool.false_ne_true blocked.1
  by_cases pauses : Pauses s a
  · have begun : (pausing p).step ⟨s,false⟩ (.take a) =
        (⟨{ s with manager := evaluateUntilPause s.manager .NAD_STAY_ALIVE_SERVICES },true⟩,[]) := by
      show pausingStep p ⟨s,false⟩ (.take a) = _
      rw [pausingStep,if_neg idle,if_pos pauses]
    obtain ⟨opens,ready,outside⟩ := pauses
    cases a with
    | call c =>
      obtain ⟨op,env⟩ := c
      cases op with
      | mcu update =>
        cases update with
        | setPowerMode powerMode =>
          have taken : (threads p).step s (.call ⟨.mcu (.setPowerMode powerMode),env⟩) =
              ({ s with
                  manager := (setPowerModeEntry p s.manager powerMode).1
                  window := (setPowerModeEntry p s.manager powerMode).2.2 },
                (setPowerModeEntry p s.manager powerMode).2.1) := if_pos opens.1
          have only : PowerModeStates.ofInt powerMode = some .SYSTEM_LC_TCU_ONLY := opens.2
          rw [entry_tcuOnly p ready only,evaluate_paused outside] at taken
          simp only [unpaused,Machine.run,Machine.outputs,Machine.next,Machine.out,begun,taken]
          exact ⟨rfl,List.append_nil _⟩
        | _ => exact opens.2.elim
      | _ => exact opens.2.elim
    | _ => exact opens.elim
  · have taken : (pausing p).step ⟨s,false⟩ (.take a) = (⟨(threads p).next s a,false⟩,(threads p).out s a) := by
      show pausingStep p ⟨s,false⟩ (.take a) = _
      rw [pausingStep,if_neg idle,if_neg pauses]
      rfl
    simp only [unpaused,Machine.run,Machine.outputs,Machine.next,Machine.out,taken]
    exact ⟨rfl,List.append_nil _⟩

/-- Every interleaving of `threads` is one in which nothing runs in a pause. -/
theorem threads_paused (p : Platform) (s : Threads) (run : List Action) :
    (pausing p).run ⟨s,false⟩ (run.flatMap unpaused) = ⟨(threads p).run s run,false⟩ ∧
      (pausing p).outputs ⟨s,false⟩ (run.flatMap unpaused) = (threads p).outputs s run := by
  have step : ∀ s t a, t = Pausing.mk s false →
      (pausing p).run t (unpaused a) = ⟨(threads p).next s a,false⟩ ∧
        (pausing p).outputs t (unpaused a) = (threads p).out s a := by
    rintro s t a rfl
    exact unpaused_eq p s a
  exact Machine.run_expands (threads p) (pausing p) step (rfl : Pausing.mk s false = ⟨s,false⟩) run

end LifecycleMgr
