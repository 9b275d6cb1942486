import LifecycleMgr.Legato

/-!
What the MCU tells the manager: the power mode, the wakeup source and the
sensors. A mapped power mode writes the power state, broadcasts it and, for the
TCU-only mode, falls asleep for a window at whose end it tells the MCU that the
TCU need not stay active. The window blocks only the thread of the MCU client,
so `setPowerMode` is given in two parts, up to the sleep (`setPowerModeEntry`)
and after it (`tcuOnlyTimerExpiry`).
-/
namespace LifecycleMgr

def setNWSync (m : Manager) (nwSync : Bool) : Manager :=
  if nwSync then { m with nadAdditionalInfo := { m.nadAdditionalInfo with nadCanStatus := .LC_CAN_STS_ON } }
  else { m with nadAdditionalInfo := { m.nadAdditionalInfo with nadCanStatus := .LC_CAN_STS_OFF } }

/-- The source a reason from the power manager stands for; `none` where the switch assigns nothing. -/
def pmWakeupSource (state : LCState) (wakeupReason : UInt32) : Option LCWakeupSource :=
  match wakeupReason.toNat with
  | 1 => some .WAKE_UP_CAN
  | 12 => some .WAKE_UP_MAINBATTERY
  | 3 => some .WAKE_UP_SMS
  | 9 => some .WAKE_UP_ACCELEROMETER
  | 13 =>
    if state = .NAD_LISTEN_1 ∨ state = .NAD_SHUTDOWN then some .WAKE_UP_LM1_RTC
    else if state = .NAD_LISTEN_3 then some .WAKE_UP_LM3_RTC
    else none
  | 7 => some .WAKE_UP_LM3_RTC
  | _ => none

/-- The source a reason from the netlink socket stands for; `none` where the switch assigns nothing. -/
def socketWakeupSource (state : LCState) (wakeupReason : UInt32) : Option LCWakeupSource :=
  match wakeupReason.toNat with
  | 4 => some .WAKE_UP_MQTT
  | 0 => some .WAKE_UP_SMS
  | 2 => some .WAKE_UNKNOWN
  | 3 =>
    if state = .NAD_LISTEN_1 ∨ state = .NAD_SHUTDOWN then some .WAKE_UP_LM1_RTC
    else if state = .NAD_LISTEN_3 then some .WAKE_UP_LM3_RTC
    else none
  | _ => some .WAKE_UNKNOWN

/-- The assignment to `NAD_WakeupSource` that both setters make. -/
def assignWakeupSource (m : Manager) (source : Option LCWakeupSource) : Manager :=
  { m with nadAdditionalInfo :=
      { m.nadAdditionalInfo with nadWakeupSource := source.getD m.nadAdditionalInfo.nadWakeupSource } }

def setPMWakeupSource (m : Manager) (wakeupReason : UInt32) : Manager :=
  assignWakeupSource m (pmWakeupSource m.nadLifecycleState wakeupReason)

def setSocketWakeupSource (m : Manager) (wakeupReason : UInt32) : Manager :=
  assignWakeupSource m (socketWakeupSource m.nadLifecycleState wakeupReason)

def setLCMainBattery (m : Manager) (batteryStatus : Bool) : Manager × List Output :=
  notifyAllRegisteredClientsNadStateInfo
    { m with nadAdditionalInfo :=
        { m.nadAdditionalInfo with
          nadMainBatteryStatus := if batteryStatus then .LC_MAIN_BATT_STS_OK else .LC_MAIN_BATT_STS_NOK } }

def setLCVTMstate (m : Manager) (vtmState : Bool) : Manager × List Output :=
  notifyAllRegisteredClientsNadStateInfo
    { m with nadAdditionalInfo :=
        { m.nadAdditionalInfo with nadVTMstate := if vtmState then .LC_VTM_T_OVERTEMP else .LC_VTM_T_NORMAL } }

/-- The state that a case of the switch in `setPowerMode` assigns to `dbusPowerMode`, if any. -/
def dbusPowerMode : PowerModeStates → Option LCState
  | .SYSTEM_LC_INIT_PHASE_2 => some .NAD_INIT
  | .SYSTEM_LC_INIT_PHASE_1 => some .NAD_INIT
  | .SYSTEM_LC_OFF => some .NAD_OFF
  | .SYSTEM_LC_BACKUP_BATTERY => some .NAD_BACKUP_BATTERY
  | .SYSTEM_LC_STAY_ALIVE_SERVICES => none
  | .SYSTEM_LC_TIMED => some .NAD_STAY_ALIVE_CONNECTED
  | .SYSTEM_LC_STANDBY => some .NAD_SLEEP
  | .SYSTEM_LC_DEEP_SLEEP => some .NAD_DEEP_SLEEP
  | .SYSTEM_LC_LISTEN_MODE_1 => some .NAD_LISTEN_1
  | .SYSTEM_LC_LISTEN_MODE_2 => some .NAD_LISTEN_2
  | .SYSTEM_LC_LISTEN_MODE_3 => some .NAD_LISTEN_3
  | .SYSTEM_LC_PARTIAL_OPERATION => some .NAD_REMOTE_WAKE
  | .SYSTEM_LC_FULL_OPERATION => some .NAD_ON
  | .SYSTEM_LC_NAD_ON => some .NAD_ON
  | .SYSTEM_LC_MAINTENANCE => some .NAD_MAINTENANCE
  | .SYSTEM_LC_BENCH => some .NAD_TEST_MODE
  | .SYSTEM_LC_LOGISTICS => some .NAD_LOGISTIC
  | .SYSTEM_LC_RESET => some .NAD_RESET
  | .SYSTEM_LC_IDLE => some .NAD_IDLE
  | .SYSTEM_LC_SUSPEND_TO_RAM => some .NAD_SHUTDOWN
  | .SYSTEM_LC_TCU_ONLY => some .NAD_STAY_ALIVE_SERVICES
  | .SYSTEM_LC_NAD_EMERGENCY_LAW => some .NAD_EMERGENCY_LAW
  | .SYSTEM_LC_NAD_EMERGENCY => some .NAD_EMERGENCY
  | .SYSTEM_LC_NAD_EMERGENCY_LAW_LP => some .NAD_EMERGENCY_LAW_LP
  | .SYSTEM_LC_CAN_NETWORK_SLEEP_STATUS => none
  | .SYSTEM_LC_GO_TO_SLEEP_AGAIN => none

/-- The state that a value of the power mode maps to, if it is mapped. -/
def mappedState (powerMode : Int) : Option LCState := (PowerModeStates.ofInt powerMode).bind dbusPowerMode

/-- The switch of `setPowerMode`, with what it assigns to `dbusPowerMode`. -/
def powerModeSwitch (m : Manager) (powerMode : Int) : Manager × List Output × Option LCState :=
  match PowerModeStates.ofInt powerMode with
  | some .SYSTEM_LC_BACKUP_BATTERY => ({ m with bBuBMode := true },[],dbusPowerMode .SYSTEM_LC_BACKUP_BATTERY)
  | some .SYSTEM_LC_STAY_ALIVE_SERVICES =>
    if m.nadLifecycleState ≠ .NAD_STAY_ALIVE_SERVICES then (m,[sendPendingAction .STAY_ACTIVE],none)
    else (m,[],none)
  | mode =>
    match mode.bind dbusPowerMode with
    | some state => (m,[],some state)
    -- the default case
    | none => ({ m with noTCUPowerMode := false },[],none)

/-- The state from which the TCU-only mode opens the long window. -/
def wokenFrom (state : LCState) : Bool :=
  state = .NAD_LISTEN_1 ∨ state = .NAD_LISTEN_2 ∨ state = .NAD_LISTEN_3 ∨ state = .NAD_SHUTDOWN

/-- `evaluateAndBroadcastPowerMode` up to the sleep of `startTCUOnlyTimer`, with the timer it started.
    The pause of two seconds before the two shorter windows belongs to this part. -/
def evaluateAndBroadcastPowerMode (m : Manager) (currPowMode : LCState) : Manager × List Output × Option Nat :=
  let notified := notifyAllRegisteredClientsNadStateInfo { m with nadLifecycleState := currPowMode }
  if currPowMode = .NAD_STAY_ALIVE_SERVICES then
    let timerVal :=
      if wokenFrom m.nadLifecycleState then 200
      else if m.nadAdditionalInfo.nadWakeupSource = .WAKE_UP_ACCELEROMETER then 120
      else 21
    (notified.1,notified.2 ++ [.startTCUOnlyTimer timerVal],some timerVal)
  else (notified.1,notified.2,none)

/-- `setPowerMode` up to the sleep of a TCU-only window, with the timer of the window. -/
def setPowerModeEntry (p : Platform) (m : Manager) (powerMode : Int) : Manager × List Output × Option Nat :=
  let switched := powerModeSwitch m powerMode
  if PowerModeStates.ofInt powerMode ≠ some .SYSTEM_LC_STAY_ALIVE_SERVICES ∧ switched.1.noTCUPowerMode = true then
    -- an unassigned `dbusPowerMode` is as `LC_State` value-initialises
    let broadcast := evaluateAndBroadcastPowerMode switched.1 (switched.2.2.getD p.initState)
    (broadcast.1,switched.2.1 ++ broadcast.2.1,broadcast.2.2)
  else if switched.1.noTCUPowerMode = false then ({ switched.1 with noTCUPowerMode := true },switched.2.1,none)
  else (switched.1,switched.2.1,none)

/-- What `startTCUOnlyTimer` does after its sleep. -/
def tcuOnlyTimerExpiry : List Output := [sendPendingAction .STAY_INACTIVE]

def setPowerMode (p : Platform) (m : Manager) (powerMode : Int) : Manager × List Output :=
  let entered := setPowerModeEntry p m powerMode
  (entered.1,if entered.2.2.isSome then entered.2.1 ++ tcuOnlyTimerExpiry else entered.2.1)

private theorem switch_mapped (m : Manager) {powerMode : Int} {state : LCState}
    (mapped : mappedState powerMode = some state) :
    PowerModeStates.ofInt powerMode ≠ some .SYSTEM_LC_STAY_ALIVE_SERVICES ∧
      ∃ bub, powerModeSwitch m powerMode = ({ m with bBuBMode := bub },[],some state) := by
  unfold mappedState at mapped
  unfold powerModeSwitch
  cases mode : PowerModeStates.ofInt powerMode with
  | none => simp [mode] at mapped
  | some mode' =>
    rw [mode,Option.bind_some] at mapped
    cases mode' with
    | SYSTEM_LC_STAY_ALIVE_SERVICES => simp [dbusPowerMode] at mapped
    | SYSTEM_LC_BACKUP_BATTERY => exact ⟨by simp,true,by rw [← mapped]⟩
    | _ => exact ⟨by simp,m.bBuBMode,by simp only [Option.bind_some,mapped]⟩

/-- Only the TCU-only mode maps to the state of stay-alive services. -/
theorem mapped_tcuOnly {powerMode : Int} {state : LCState} (mapped : mappedState powerMode = some state) :
    state = .NAD_STAY_ALIVE_SERVICES ↔ PowerModeStates.ofInt powerMode = some .SYSTEM_LC_TCU_ONLY := by
  unfold mappedState at mapped
  cases mode : PowerModeStates.ofInt powerMode with
  | none => simp [mode] at mapped
  | some mode' =>
    rw [mode,Option.bind_some] at mapped
    cases mode' <;> simp [dbusPowerMode] at mapped <;> subst mapped <;> simp

/-- A mapped power mode is evaluated and broadcast; `bBuBMode` is set for the backup battery. -/
theorem entry_mapped (p : Platform) {m : Manager} (ready : m.noTCUPowerMode = true) {powerMode : Int} {state : LCState}
    (mapped : mappedState powerMode = some state) :
    ∃ bub, setPowerModeEntry p m powerMode = evaluateAndBroadcastPowerMode { m with bBuBMode := bub } state := by
  obtain ⟨notStayAlive,bub,switched⟩ := switch_mapped m mapped
  refine ⟨bub,?_⟩
  unfold setPowerModeEntry
  simp only [switched]
  rw [if_pos ⟨notStayAlive,ready⟩]
  simp only [Option.getD_some,List.nil_append]

/-- An unmapped power mode leaves the manager as it was. It sends nothing, or `STAY_ACTIVE`
    for the stay-alive mode outside the state of stay-alive services. -/
theorem entry_unmapped (p : Platform) {m : Manager} (ready : m.noTCUPowerMode = true) {powerMode : Int}
    (unmapped : mappedState powerMode = none) :
    setPowerModeEntry p m powerMode =
      (m,if PowerModeStates.ofInt powerMode = some .SYSTEM_LC_STAY_ALIVE_SERVICES ∧
          m.nadLifecycleState ≠ .NAD_STAY_ALIVE_SERVICES then [sendPendingAction .STAY_ACTIVE] else [],none) := by
  have restored : { m with noTCUPowerMode := true } = m := by rw [← ready]
  unfold mappedState at unmapped
  unfold setPowerModeEntry powerModeSwitch
  cases mode : PowerModeStates.ofInt powerMode with
  | none => simp [restored]
  | some mode' =>
    rw [mode,Option.bind_some] at unmapped
    cases mode' with
    | SYSTEM_LC_STAY_ALIVE_SERVICES =>
      by_cases already : m.nadLifecycleState = .NAD_STAY_ALIVE_SERVICES
      · simp [already,ready]
      · simp [already,ready]
    | SYSTEM_LC_CAN_NETWORK_SLEEP_STATUS | SYSTEM_LC_GO_TO_SLEEP_AGAIN => simp [dbusPowerMode,restored]
    | _ => simp [dbusPowerMode] at unmapped

theorem evaluate_next (m : Manager) (state : LCState) :
    (evaluateAndBroadcastPowerMode m state).1 =
      (notifyAllRegisteredClientsNadStateInfo { m with nadLifecycleState := state }).1 := by
  unfold evaluateAndBroadcastPowerMode
  split <;> rfl

/-- A power mode writes the power state it is mapped to, `bBuBMode` and the static record. -/
theorem entry_frame (p : Platform) {m : Manager} (ready : m.noTCUPowerMode = true) (powerMode : Int) :
    ∃ bub record, (setPowerModeEntry p m powerMode).1 =
      { m with
        nadLifecycleState := (mappedState powerMode).getD m.nadLifecycleState
        bBuBMode := bub
        broadcastInfo := record } := by
  cases mapped : mappedState powerMode with
  | none => exact ⟨m.bBuBMode,m.broadcastInfo,by rw [entry_unmapped p ready mapped]; rfl⟩
  | some state =>
    obtain ⟨bub,entered⟩ := entry_mapped p ready mapped
    obtain ⟨record,notified⟩ := notify_frame { m with bBuBMode := bub, nadLifecycleState := state }
    exact ⟨bub,record,by rw [entered,evaluate_next,notified]; rfl⟩

end LifecycleMgr
