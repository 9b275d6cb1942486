import LifecycleMgr.State

/-!
The Legato server's translations and its report of a state. Each translation of
a D-Bus value also writes the value into the static record. The image of a state
on the Legato side (`leImage`) has the same names in all fields but the CAN
status, whose two literals the translation exchanges.
-/
namespace LifecycleMgr

def leWakeupSourceOf : LCWakeupSource → LeWakeupSource
  | .WAKE_UP_LM1_RTC => .LIFECYCLE_WAKE_UP_LM1_RTC
  | .WAKE_UP_MAINBATTERY => .LIFECYCLE_WAKE_UP_MAINBATTERY
  | .WAKE_UP_ACCELEROMETER => .LIFECYCLE_WAKE_UP_ACCELEROMETER
  | .WAKE_UP_CAN => .LIFECYCLE_WAKE_UP_CAN
  | .WAKE_UP_LM3_RTC => .LIFECYCLE_WAKE_UP_LM3_RTC
  | .WAKE_UP_SMS => .LIFECYCLE_WAKE_UP_SMS
  | .WAKE_UP_MQTT => .LIFECYCLE_WAKE_UP_MQTT
  | .WAKE_UNKNOWN => .LIFECYCLE_WAKE_UNKNOWN
  | .other _ => .LIFECYCLE_WAKE_UNKNOWN

def leStateOf : LCState → LeState
  | .NAD_INIT => .LIFECYCLE_NAD_INIT
  | .NAD_BACKUP_BATTERY => .LIFECYCLE_NAD_BACKUP_BATTERY
  | .NAD_DEEP_SLEEP => .LIFECYCLE_NAD_DEEP_SLEEP
  | .NAD_REMOTE_WAKE => .LIFECYCLE_NAD_REMOTE_WAKE
  | .NAD_ON => .LIFECYCLE_NAD_ON
  | .NAD_OFF => .LIFECYCLE_NAD_OFF
  | .NAD_STAY_ALIVE_SERVICES => .LIFECYCLE_NAD_STAY_ALIVE_SERVICES
  | .NAD_SHUTDOWN => .LIFECYCLE_NAD_SHUTDOWN
  | .NAD_SLEEP => .LIFECYCLE_NAD_SLEEP
  | .NAD_LISTEN_1 => .LIFECYCLE_NAD_LISTEN_1
  | .NAD_LISTEN_2 => .LIFECYCLE_NAD_LISTEN_2
  | .NAD_LISTEN_3 => .LIFECYCLE_NAD_LISTEN_3
  | .NAD_EMERGENCY => .LIFECYCLE_NAD_EMERGENCY
  | .NAD_MAINTENANCE => .LIFECYCLE_NAD_MAINTENANCE
  | .NAD_TEST_MODE => .LIFECYCLE_NAD_TEST_MODE
  | .NAD_SW_UPDATE => .LIFECYCLE_NAD_SW_UPDATE
  | .NAD_LOGISTIC => .LIFECYCLE_NAD_LOGISTIC
  | .NAD_RESET => .LIFECYCLE_NAD_RESET
  | .NAD_EMERGENCY_LAW => .LIFECYCLE_NAD_EMERGENCY_LAW
  | .NAD_IDLE => .LIFECYCLE_NAD_IDLE
  | .NAD_EMERGENCY_LAW_LP => .LIFECYCLE_NAD_EMERGENCY_LAW_LP
  | .NAD_STAY_ALIVE_CONNECTED => .LIFECYCLE_NAD_STAY_ALIVE_CONNECTED
  | .other _ => .LIFECYCLE_NAD_IDLE

def leCanStatusOf : LCCanStatus → LeCanStatus
  | .LC_CAN_STS_OFF => .LIFECYCLE_LC_CAN_STS_ON
  | .LC_CAN_STS_ON => .LIFECYCLE_LC_CAN_STS_OFF
  | .other _ => .LIFECYCLE_LC_CAN_STS_OFF

def leMainBatteryStatusOf : LCMainBatteryStatus → LeMainBatteryStatus
  | .LC_MAIN_BATT_STS_NOK => .LIFECYCLE_LC_MAIN_BATT_STS_NOK
  | .LC_MAIN_BATT_STS_OK => .LIFECYCLE_LC_MAIN_BATT_STS_OK
  | .other _ => .LIFECYCLE_LC_MAIN_BATT_STS_NOK

def leVTMstateOf : LCVTMstate → LeVTMstate
  | .LC_VTM_T_NORMAL => .LIFECYCLE_LC_VTM_T_NORMAL
  | .LC_VTM_T_OVERTEMP => .LIFECYCLE_LC_VTM_T_OVERTEMP
  | .other _ => .LIFECYCLE_LC_VTM_T_NORMAL

def capiLCWakeupToLeWakeupSource (b : BroadcastInfoPlus) (lcWakeUpSource : LCWakeupSource) :
    BroadcastInfoPlus × LeWakeupSource :=
  let wakeupSource := leWakeupSourceOf lcWakeUpSource
  ({ b with lcWakeupSource := wakeupSource },wakeupSource)

def capiLcStateToLeLcState (b : BroadcastInfoPlus) (lcstate : LCState) : BroadcastInfoPlus × LeState :=
  let state := leStateOf lcstate
  ({ b with lcState := state },state)

def capiLCCanStatusToLeCanStatus (b : BroadcastInfoPlus) (lcCanStatus : LCCanStatus) :
    BroadcastInfoPlus × LeCanStatus :=
  let state := leCanStatusOf lcCanStatus
  ({ b with lcCanStatus := state },state)

def capiLCBatteryStateToLeBatteryStatus (b : BroadcastInfoPlus) (lcBatteryStatus : LCMainBatteryStatus) :
    BroadcastInfoPlus × LeMainBatteryStatus :=
  let state := leMainBatteryStatusOf lcBatteryStatus
  ({ b with lcMainBatteryStatus := state },state)

def capiLCThermalStateToLeThermalState (b : BroadcastInfoPlus) (lcThermalState : LCVTMstate) :
    BroadcastInfoPlus × LeVTMstate :=
  let state := leVTMstateOf lcThermalState
  ({ b with lcVtmState := state },state)

def leLcStateToCapiLcState : LeState → LCState
  | .LIFECYCLE_NAD_INIT => .NAD_INIT
  | .LIFECYCLE_NAD_BACKUP_BATTERY => .NAD_BACKUP_BATTERY
  | .LIFECYCLE_NAD_ON => .NAD_ON
  | .LIFECYCLE_NAD_OFF => .NAD_OFF
  | .LIFECYCLE_NAD_STAY_ALIVE_SERVICES => .NAD_STAY_ALIVE_SERVICES
  | .LIFECYCLE_NAD_SHUTDOWN => .NAD_SHUTDOWN
  | .LIFECYCLE_NAD_SLEEP => .NAD_SLEEP
  | .LIFECYCLE_NAD_DEEP_SLEEP => .NAD_DEEP_SLEEP
  | .LIFECYCLE_NAD_LISTEN_1 => .NAD_LISTEN_1
  | .LIFECYCLE_NAD_LISTEN_2 => .NAD_LISTEN_2
  | .LIFECYCLE_NAD_LISTEN_3 => .NAD_LISTEN_3
  | .LIFECYCLE_NAD_EMERGENCY => .NAD_EMERGENCY
  | .LIFECYCLE_NAD_MAINTENANCE => .NAD_MAINTENANCE
  | .LIFECYCLE_NAD_TEST_MODE => .NAD_TEST_MODE
  | .LIFECYCLE_NAD_SW_UPDATE => .NAD_SW_UPDATE
  | .LIFECYCLE_NAD_LOGISTIC => .NAD_LOGISTIC
  | .LIFECYCLE_NAD_RESET => .NAD_RESET
  | .LIFECYCLE_NAD_EMERGENCY_LAW => .NAD_EMERGENCY_LAW
  | .LIFECYCLE_NAD_IDLE => .NAD_IDLE
  | .LIFECYCLE_NAD_EMERGENCY_LAW_LP => .NAD_EMERGENCY_LAW_LP
  | .LIFECYCLE_NAD_REMOTE_WAKE => .NAD_REMOTE_WAKE
  | .LIFECYCLE_NAD_STAY_ALIVE_CONNECTED => .NAD_STAY_ALIVE_CONNECTED
  | .other _ => .NAD_IDLE

def capiLcStatusToLeLcStatus : LCStatus → LeStatus
  | .LC_STS_NOT_OK => .LIFECYCLE_LC_STS_NOT_OK
  | .LC_STS_NOT_OK_CLIENT_NOT_REGISTERED => .LIFECYCLE_LC_STS_NOT_OK_CLIENT_NOT_REGISTERED
  | .LC_STS_OK => .LIFECYCLE_LC_STS_OK
  | .LC_STS_OK_CLIENT_ALREADY_REGISTERED => .LIFECYCLE_LC_STS_OK_CLIENT_ALREADY_REGISTERED
  | .other _ => .LIFECYCLE_LC_STS_NOT_OK

def leLcStayActiveToCapiLcStayActive : LeStayActive → LCStayActive
  | .LIFECYCLE_LC_RELEASE => .LC_RELEASE
  | .LIFECYCLE_LC_LOCK => .LC_LOCK
  | .LIFECYCLE_LC_BUB => .LC_BUB
  | .other _ => .LC_RELEASE

def advertiseEvents (m : Manager) : Manager := { m with lifecycleStateEvent := true }

def reportLcStateEventPlus (m : Manager) (lcState : LCState) (lcAdditionalInfo : AdditionalLifecycleStateInfo) :
    Manager × List Output :=
  if m.lifecycleStateEvent then
    let b := (capiLcStateToLeLcState m.broadcastInfo lcState).1
    let b := (capiLCWakeupToLeWakeupSource b lcAdditionalInfo.nadWakeupSource).1
    let b := (capiLCCanStatusToLeCanStatus b lcAdditionalInfo.nadCanStatus).1
    let b := (capiLCBatteryStateToLeBatteryStatus b lcAdditionalInfo.nadMainBatteryStatus).1
    let b := (capiLCThermalStateToLeThermalState b lcAdditionalInfo.nadVTMstate).1
    ({ m with broadcastInfo := b },[.leEventReport b])
  else (m,[])

/-- The event on D-Bus, then the report on Legato. -/
def notifyAllRegisteredClientsNadStateInfo (m : Manager) : Manager × List Output :=
  let reported := reportLcStateEventPlus m m.nadLifecycleState m.nadAdditionalInfo
  (reported.1,.fireStateEvent m.nadLifecycleState m.nadAdditionalInfo :: reported.2)

/-- The record that the translations make of a state. -/
def leImage (state : LCState) (info : AdditionalLifecycleStateInfo) : BroadcastInfoPlus where
  lcState := leStateOf state
  lcWakeupSource := leWakeupSourceOf info.nadWakeupSource
  lcCanStatus := leCanStatusOf info.nadCanStatus
  lcMainBatteryStatus := leMainBatteryStatusOf info.nadMainBatteryStatus
  lcVtmState := leVTMstateOf info.nadVTMstate

theorem report_eq {m : Manager} (created : m.lifecycleStateEvent = true) (state : LCState)
    (info : AdditionalLifecycleStateInfo) : reportLcStateEventPlus m state info =
      ({ m with broadcastInfo := leImage state info },[.leEventReport (leImage state info)]) := by
  simp [reportLcStateEventPlus,created,leImage,capiLcStateToLeLcState,capiLCWakeupToLeWakeupSource,
    capiLCCanStatusToLeCanStatus,capiLCBatteryStateToLeBatteryStatus,capiLCThermalStateToLeThermalState]

theorem notify_eq {m : Manager} (created : m.lifecycleStateEvent = true) :
    notifyAllRegisteredClientsNadStateInfo m =
      ({ m with broadcastInfo := leImage m.nadLifecycleState m.nadAdditionalInfo },
        [.fireStateEvent m.nadLifecycleState m.nadAdditionalInfo,
          .leEventReport (leImage m.nadLifecycleState m.nadAdditionalInfo)]) := by
  simp [notifyAllRegisteredClientsNadStateInfo,report_eq created]

/-- A notification puts out the event, and its report if the event id has been created. -/
theorem notify_out (m : Manager) : (notifyAllRegisteredClientsNadStateInfo m).2 =
    .fireStateEvent m.nadLifecycleState m.nadAdditionalInfo ::
      if m.lifecycleStateEvent then [.leEventReport (leImage m.nadLifecycleState m.nadAdditionalInfo)] else [] := by
  by_cases created : m.lifecycleStateEvent = true
  · rw [notify_eq created,if_pos created]
  · rw [if_neg created]
    simp only [notifyAllRegisteredClientsNadStateInfo,reportLcStateEventPlus,if_neg created]

/-- A report, and so a notification, writes the static record only. -/
theorem notify_frame (m : Manager) :
    ∃ b, (notifyAllRegisteredClientsNadStateInfo m).1 = { m with broadcastInfo := b } := by
  by_cases created : m.lifecycleStateEvent = true
  · exact ⟨leImage m.nadLifecycleState m.nadAdditionalInfo,by rw [notify_eq created]⟩
  · have quiet : reportLcStateEventPlus m m.nadLifecycleState m.nadAdditionalInfo = (m,[]) := if_neg created
    exact ⟨m.broadcastInfo,by simp only [notifyAllRegisteredClientsNadStateInfo,quiet]⟩

@[simp] theorem notify_nadLifecycleState (m : Manager) :
    (notifyAllRegisteredClientsNadStateInfo m).1.nadLifecycleState = m.nadLifecycleState := by
  obtain ⟨b,equal⟩ := notify_frame m; rw [equal]

@[simp] theorem notify_nadAdditionalInfo (m : Manager) :
    (notifyAllRegisteredClientsNadStateInfo m).1.nadAdditionalInfo = m.nadAdditionalInfo := by
  obtain ⟨b,equal⟩ := notify_frame m; rw [equal]

@[simp] theorem notify_mClients (m : Manager) :
    (notifyAllRegisteredClientsNadStateInfo m).1.mClients = m.mClients := by
  obtain ⟨b,equal⟩ := notify_frame m; rw [equal]

@[simp] theorem notify_noTCUPowerMode (m : Manager) :
    (notifyAllRegisteredClientsNadStateInfo m).1.noTCUPowerMode = m.noTCUPowerMode := by
  obtain ⟨b,equal⟩ := notify_frame m; rw [equal]

@[simp] theorem notify_lifecycleStateEvent (m : Manager) :
    (notifyAllRegisteredClientsNadStateInfo m).1.lifecycleStateEvent = m.lifecycleStateEvent := by
  obtain ⟨b,equal⟩ := notify_frame m; rw [equal]

/-- A state is translated to the literal of its name exactly when it has one. -/
theorem sameState_iff (s : LCState) (l : LeState) : SameState s l ↔ s.Named ∧ l = leStateOf s := by
  constructor
  · intro same; cases same <;> exact ⟨trivial,rfl⟩
  · rintro ⟨named,rfl⟩
    cases s with
    | other value => exact named.elim
    | _ => constructor

/-- No CAN status is translated to the literal of its name. -/
theorem canStatus_exchanged (c : LCCanStatus) : ¬ SameCanStatus c (leCanStatusOf c) := by
  intro same
  cases c <;> cases same

end LifecycleMgr
