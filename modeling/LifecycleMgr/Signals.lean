import LifecycleMgr.Manager

namespace LifecycleMgr
open Runs

/-- The calls to the MCU and the beginnings of windows. -/
def signals (outputs : List Output) : List Output :=
  outputs.filter (fun o => match o with
    | .updateTcuParameters _ => true
    | .updateEmergencyCallStatus _ => true
    | .setSocPeriodicWakeUpTimer _ => true
    | .startTCUOnlyTimer _ => true
    | _ => false)

/-- The seconds of the TCU-only window that is opened in a state. -/
def windowLength (m : Manager) : Nat :=
  if wokenFrom m.nadLifecycleState then 200
  else if m.nadAdditionalInfo.nadWakeupSource = .WAKE_UP_ACCELEROMETER then 120
  else 21

/-- A power mode signals its window and the end of it, or that the TCU has to stay active. -/
def modeSignals (m : Manager) (powerMode : Int) : List Output :=
  match PowerModeStates.ofInt powerMode with
  | some .SYSTEM_LC_TCU_ONLY => [.startTCUOnlyTimer (windowLength m),sendPendingAction .STAY_INACTIVE]
  | some .SYSTEM_LC_STAY_ALIVE_SERVICES =>
    if m.nadLifecycleState ≠ .NAD_STAY_ALIVE_SERVICES then [sendPendingAction .STAY_ACTIVE] else []
  | _ => []

/-- What an operation signals, in order. -/
def signalsOf (m : Manager) (c : Call) : List Output :=
  match c.op with
  | .dbus (.LC_Emergency _ state) => (triggerLCEmergency c.env state).1
  | .dbus .LC_Wakeup => if inListen m.nadLifecycleState then [sendPendingAction .STAY_ACTIVE] else []
  | .dbus (.LC_StayActive name stayActive) => (evaluateLCStayActive m name stayActive).2.1
  | .dbus (.LC_SetRTC timeout) =>
    [.setSocPeriodicWakeUpTimer { wakeUpTimerVal := timeout, powerModeVal := .SYSTEM_LC_LISTEN_MODE_1 }]
  | .dbus .LC_JumpToListen2 =>
    [.updateTcuParameters
      { pendingTcuAction := .STAY_INACTIVE, serviceProviderConnectionStatus := some .INACTIVE }]
  | .legato (.lifecycle_LC_Emergency _ state) => (triggerLCEmergency c.env (leLcStateToCapiLcState state)).1
  | .legato (.lifecycle_LC_StayActive name stayActive) =>
    (evaluateLCStayActive m (cString name) (leLcStayActiveToCapiLcStayActive stayActive)).2.1
  | .mcu (.setPowerMode powerMode) => modeSignals m powerMode
  | _ => []

theorem signals_append (front back : List Output) : signals (front ++ back) = signals front ++ signals back :=
  List.filter_append front back

@[simp] theorem signals_notify (m : Manager) : signals (notifyAllRegisteredClientsNadStateInfo m).2 = [] := by
  rw [notify_out]
  split <;> rfl

private theorem signals_trigger (env : Env) (state : LCState) {answer : Output} (unsignalled : signals [answer] = []) :
    signals ((triggerLCEmergency env state).1 ++ [answer]) = (triggerLCEmergency env state).1 := by
  rw [signals_append,unsignalled,List.append_nil]
  cases state <;> rfl

private theorem signals_stayActive (m : Manager) (name : ClientName) (v : LCStayActive) {answer : Output}
    (unsignalled : signals [answer] = []) :
    signals ((evaluateLCStayActive m name v).2.1 ++ [answer]) = (evaluateLCStayActive m name v).2.1 := by
  rw [signals_append,unsignalled,List.append_nil,stayActive_sent]
  split <;> rfl

/-- Up to its sleep a mapped power mode signals the window it opens. -/
theorem signals_evaluate (m : Manager) (state : LCState) :
    signals (evaluateAndBroadcastPowerMode m state).2.1 =
      if state = .NAD_STAY_ALIVE_SERVICES then [.startTCUOnlyTimer (windowLength m)] else [] := by
  unfold evaluateAndBroadcastPowerMode
  split
  · rw [signals_append,signals_notify]; rfl
  · exact signals_notify _

private theorem modeSignals_mapped (m : Manager) {powerMode : Int} {state : LCState}
    (mapped : mappedState powerMode = some state) :
    modeSignals m powerMode = if state = .NAD_STAY_ALIVE_SERVICES then
      [.startTCUOnlyTimer (windowLength m),sendPendingAction .STAY_INACTIVE] else [] := by
  have tcuOnly := mapped_tcuOnly mapped
  unfold mappedState at mapped
  unfold modeSignals
  cases mode : PowerModeStates.ofInt powerMode with
  | none => simp [mode] at mapped
  | some mode' =>
    rw [mode,Option.bind_some] at mapped
    rw [mode] at tcuOnly
    cases mode' with
    | SYSTEM_LC_TCU_ONLY => rw [if_pos (tcuOnly.mpr rfl)]
    | SYSTEM_LC_STAY_ALIVE_SERVICES => simp [dbusPowerMode] at mapped
    | _ => rw [if_neg (show ¬ state = .NAD_STAY_ALIVE_SERVICES from fun opens => by cases tcuOnly.mp opens)]

private theorem modeSignals_unmapped (m : Manager) {powerMode : Int} (unmapped : mappedState powerMode = none) :
    modeSignals m powerMode =
      if PowerModeStates.ofInt powerMode = some .SYSTEM_LC_STAY_ALIVE_SERVICES ∧
          m.nadLifecycleState ≠ .NAD_STAY_ALIVE_SERVICES then [sendPendingAction .STAY_ACTIVE] else [] := by
  unfold mappedState at unmapped
  unfold modeSignals
  cases mode : PowerModeStates.ofInt powerMode with
  | none => rfl
  | some mode' =>
    rw [mode,Option.bind_some] at unmapped
    cases mode' with
    | SYSTEM_LC_STAY_ALIVE_SERVICES => simp only [true_and]
    | SYSTEM_LC_CAN_NETWORK_SLEEP_STATUS | SYSTEM_LC_GO_TO_SLEEP_AGAIN => rfl
    | _ => simp [dbusPowerMode] at unmapped

private theorem signals_setPowerMode (p : Platform) {m : Manager} (ready : m.noTCUPowerMode = true) (powerMode : Int) :
    signals (setPowerMode p m powerMode).2 = modeSignals m powerMode := by
  cases mapped : mappedState powerMode with
  | none =>
    rw [setPowerMode,entry_unmapped p ready mapped,modeSignals_unmapped m mapped]
    split <;> rfl
  | some state =>
    obtain ⟨bub,entered⟩ := entry_mapped p ready mapped
    rw [setPowerMode,entered,modeSignals_mapped m mapped]
    by_cases opens : state = .NAD_STAY_ALIVE_SERVICES
    · have window : (evaluateAndBroadcastPowerMode { m with bBuBMode := bub } state).2.2.isSome = true := by
        rw [evaluateAndBroadcastPowerMode,if_pos opens]; rfl
      simp only [window,if_true]
      rw [signals_append,signals_evaluate,if_pos opens,if_pos opens]; rfl
    · have noWindow : (evaluateAndBroadcastPowerMode { m with bBuBMode := bub } state).2.2.isSome = false := by
        rw [evaluateAndBroadcastPowerMode,if_neg opens]; rfl
      simp only [noWindow,Bool.false_eq_true,if_false]
      rw [signals_evaluate,if_neg opens,if_neg opens]

/-- An operation signals what `signalsOf` says. -/
theorem step_signals (p : Platform) {m : Manager} (ready : m.noTCUPowerMode = true) (c : Call) :
    signals ((manager p).out m c) = signalsOf m c := by
  obtain ⟨op,env⟩ := c
  cases op with
  | dbus request =>
    cases request with
    | LC_Emergency name state => exact signals_trigger env state rfl
    | LC_StayActive name stayActive => exact signals_stayActive m name stayActive rfl
    | LC_Wakeup =>
      show signals (lcWakeup m).2 = if inListen m.nadLifecycleState then [sendPendingAction .STAY_ACTIVE] else []
      rcases wakeup_cases m with ⟨listen,wakes⟩ | ⟨law,wakes⟩ | ⟨woken,refuses⟩
      · rw [wakes,if_pos listen]
        show sendPendingAction .STAY_ACTIVE :: signals (lcWakeupWrite m).2 = _
        rw [lcWakeupWrite,signals_append,signals_notify]; rfl
      · rw [wakes,law,signals_append,signals_notify]; rfl
      · have notListen : ¬ inListen m.nadLifecycleState = true := by
          rw [← test_inCall,test_refused woken]
          exact Bool.false_ne_true
        rw [refuses,if_neg notListen]; rfl
    | LC_UnRegisterClient name =>
      show signals (lcUnRegisterClient p m name).2 = []
      rw [unRegister_out]
      split <;> rfl
    | _ => rfl
  | legato request =>
    cases request with
    | lifecycle_LC_Emergency name state => exact signals_trigger env (leLcStateToCapiLcState state) rfl
    | lifecycle_LC_StayActive name stayActive =>
      exact signals_stayActive m (cString name) (leLcStayActiveToCapiLcStayActive stayActive) rfl
    | _ => rfl
  | mcu update =>
    cases update with
    | setPowerMode powerMode => exact signals_setPowerMode p ready powerMode
    | setLCMainBattery batteryStatus | setLCVTMstate vtmState => exact signals_notify _
    | _ => rfl

end LifecycleMgr
