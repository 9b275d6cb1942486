import Mathlib.Init

/-!
The enumerations of the two interfaces. Their definition files are not part of
the repository, so each type has the literals that the sources name, under the
sources' names, and `other` for any further value. The D-Bus enumerations come
first, then those of the Legato interface, whose literals repeat the D-Bus
names behind `LIFECYCLE_`, then the enumerations of the calls to the MCU. The
`Same...` relations pair the literals of the two interfaces by name.
-/
namespace LifecycleMgr

inductive LCState
  | NAD_INIT | NAD_BACKUP_BATTERY | NAD_DEEP_SLEEP | NAD_REMOTE_WAKE | NAD_ON | NAD_OFF
  | NAD_STAY_ALIVE_SERVICES | NAD_SHUTDOWN | NAD_SLEEP | NAD_LISTEN_1 | NAD_LISTEN_2 | NAD_LISTEN_3
  | NAD_EMERGENCY | NAD_MAINTENANCE | NAD_TEST_MODE | NAD_SW_UPDATE | NAD_LOGISTIC | NAD_RESET
  | NAD_EMERGENCY_LAW | NAD_IDLE | NAD_EMERGENCY_LAW_LP | NAD_STAY_ALIVE_CONNECTED
  | other (value : Int)
  deriving DecidableEq, Repr

inductive LCStatus
  | LC_STS_NOT_OK | LC_STS_NOT_OK_CLIENT_NOT_REGISTERED | LC_STS_OK | LC_STS_OK_CLIENT_ALREADY_REGISTERED
  | other (value : Int)
  deriving DecidableEq, Repr

inductive LCStayActive
  | LC_RELEASE | LC_LOCK | LC_BUB
  | other (value : Int)
  deriving DecidableEq, Repr

inductive LCWakeupSource
  | WAKE_UP_LM1_RTC | WAKE_UP_MAINBATTERY | WAKE_UP_ACCELEROMETER | WAKE_UP_CAN | WAKE_UP_LM3_RTC
  | WAKE_UP_SMS | WAKE_UP_MQTT | WAKE_UNKNOWN
  | other (value : Int)
  deriving DecidableEq, Repr

inductive LCCanStatus
  | LC_CAN_STS_OFF | LC_CAN_STS_ON
  | other (value : Int)
  deriving DecidableEq, Repr

inductive LCMainBatteryStatus
  | LC_MAIN_BATT_STS_NOK | LC_MAIN_BATT_STS_OK
  | other (value : Int)
  deriving DecidableEq, Repr

inductive LCVTMstate
  | LC_VTM_T_NORMAL | LC_VTM_T_OVERTEMP
  | other (value : Int)
  deriving DecidableEq, Repr

inductive LeState
  | LIFECYCLE_NAD_INIT | LIFECYCLE_NAD_BACKUP_BATTERY | LIFECYCLE_NAD_DEEP_SLEEP | LIFECYCLE_NAD_REMOTE_WAKE
  | LIFECYCLE_NAD_ON | LIFECYCLE_NAD_OFF | LIFECYCLE_NAD_STAY_ALIVE_SERVICES | LIFECYCLE_NAD_SHUTDOWN
  | LIFECYCLE_NAD_SLEEP | LIFECYCLE_NAD_LISTEN_1 | LIFECYCLE_NAD_LISTEN_2 | LIFECYCLE_NAD_LISTEN_3
  | LIFECYCLE_NAD_EMERGENCY | LIFECYCLE_NAD_MAINTENANCE | LIFECYCLE_NAD_TEST_MODE | LIFECYCLE_NAD_SW_UPDATE
  | LIFECYCLE_NAD_LOGISTIC | LIFECYCLE_NAD_RESET | LIFECYCLE_NAD_EMERGENCY_LAW | LIFECYCLE_NAD_IDLE
  | LIFECYCLE_NAD_EMERGENCY_LAW_LP | LIFECYCLE_NAD_STAY_ALIVE_CONNECTED
  | other (value : Int)
  deriving DecidableEq, Repr

inductive LeStatus
  | LIFECYCLE_LC_STS_NOT_OK | LIFECYCLE_LC_STS_NOT_OK_CLIENT_NOT_REGISTERED | LIFECYCLE_LC_STS_OK
  | LIFECYCLE_LC_STS_OK_CLIENT_ALREADY_REGISTERED
  deriving DecidableEq, Repr

inductive LeStayActive
  | LIFECYCLE_LC_RELEASE | LIFECYCLE_LC_LOCK | LIFECYCLE_LC_BUB
  | other (value : Int)
  deriving DecidableEq, Repr

inductive LeWakeupSource
  | LIFECYCLE_WAKE_UP_LM1_RTC | LIFECYCLE_WAKE_UP_MAINBATTERY | LIFECYCLE_WAKE_UP_ACCELEROMETER
  | LIFECYCLE_WAKE_UP_CAN | LIFECYCLE_WAKE_UP_LM3_RTC | LIFECYCLE_WAKE_UP_SMS | LIFECYCLE_WAKE_UP_MQTT
  | LIFECYCLE_WAKE_UNKNOWN
  deriving DecidableEq, Repr

inductive LeCanStatus
  | LIFECYCLE_LC_CAN_STS_OFF | LIFECYCLE_LC_CAN_STS_ON
  deriving DecidableEq, Repr

inductive LeMainBatteryStatus
  | LIFECYCLE_LC_MAIN_BATT_STS_NOK | LIFECYCLE_LC_MAIN_BATT_STS_OK
  deriving DecidableEq, Repr

inductive LeVTMstate
  | LIFECYCLE_LC_VTM_T_NORMAL | LIFECYCLE_LC_VTM_T_OVERTEMP
  deriving DecidableEq, Repr

/-- The result of a remote call. -/
inductive CallStatus
  | SUCCESS | NOT_AVAILABLE
  | other (value : Int)
  deriving DecidableEq, Repr

/-- `pStayActive_Status`, the values of `PENDING_TCU_ACTION`. -/
inductive StayActiveStatus
  | STAY_INACTIVE | STAY_ACTIVE
  deriving DecidableEq, Repr

/-- `pConnection_Status`, the values of `SERVICE_PROVIDER_CONNECTION_STATUS`. -/
inductive ConnectionStatus
  | INACTIVE | ACTIVE
  deriving DecidableEq, Repr

/-- `call_status_enum`, the values of `Update_Emergency_Call_status`. -/
inductive EmergencyCallStatus
  | NAD_ON | NAD_EMERGENCY | NAD_EMERGENCY_LAW | NAD_EMERGENCY_LAW_LP
  deriving DecidableEq, Repr

/-- The power modes of the MCU, in the order of their values. -/
inductive PowerModeStates
  | SYSTEM_LC_OFF | SYSTEM_LC_BACKUP_BATTERY | SYSTEM_LC_LOGISTICS | SYSTEM_LC_MAINTENANCE | SYSTEM_LC_RESET
  | SYSTEM_LC_BENCH | SYSTEM_LC_FULL_OPERATION | SYSTEM_LC_IDLE | SYSTEM_LC_TIMED | SYSTEM_LC_STANDBY
  | SYSTEM_LC_PARTIAL_OPERATION | SYSTEM_LC_INIT_PHASE_1 | SYSTEM_LC_INIT_PHASE_2 | SYSTEM_LC_TCU_ONLY
  | SYSTEM_LC_SUSPEND_TO_RAM | SYSTEM_LC_LISTEN_MODE_1 | SYSTEM_LC_LISTEN_MODE_2 | SYSTEM_LC_LISTEN_MODE_3
  | SYSTEM_LC_DEEP_SLEEP | SYSTEM_LC_STAY_ALIVE_SERVICES | SYSTEM_LC_CAN_NETWORK_SLEEP_STATUS
  | SYSTEM_LC_GO_TO_SLEEP_AGAIN | SYSTEM_LC_NAD_EMERGENCY_LAW | SYSTEM_LC_NAD_EMERGENCY
  | SYSTEM_LC_NAD_EMERGENCY_LAW_LP | SYSTEM_LC_NAD_ON
  deriving DecidableEq, Repr

/-- The enumerator with a value, which starts at 0 and counts up. -/
def PowerModeStates.ofInt : Int → Option PowerModeStates
  | 0 => some .SYSTEM_LC_OFF
  | 1 => some .SYSTEM_LC_BACKUP_BATTERY
  | 2 => some .SYSTEM_LC_LOGISTICS
  | 3 => some .SYSTEM_LC_MAINTENANCE
  | 4 => some .SYSTEM_LC_RESET
  | 5 => some .SYSTEM_LC_BENCH
  | 6 => some .SYSTEM_LC_FULL_OPERATION
  | 7 => some .SYSTEM_LC_IDLE
  | 8 => some .SYSTEM_LC_TIMED
  | 9 => some .SYSTEM_LC_STANDBY
  | 10 => some .SYSTEM_LC_PARTIAL_OPERATION
  | 11 => some .SYSTEM_LC_INIT_PHASE_1
  | 12 => some .SYSTEM_LC_INIT_PHASE_2
  | 13 => some .SYSTEM_LC_TCU_ONLY
  | 14 => some .SYSTEM_LC_SUSPEND_TO_RAM
  | 15 => some .SYSTEM_LC_LISTEN_MODE_1
  | 16 => some .SYSTEM_LC_LISTEN_MODE_2
  | 17 => some .SYSTEM_LC_LISTEN_MODE_3
  | 18 => some .SYSTEM_LC_DEEP_SLEEP
  | 19 => some .SYSTEM_LC_STAY_ALIVE_SERVICES
  | 20 => some .SYSTEM_LC_CAN_NETWORK_SLEEP_STATUS
  | 21 => some .SYSTEM_LC_GO_TO_SLEEP_AGAIN
  | 22 => some .SYSTEM_LC_NAD_EMERGENCY_LAW
  | 23 => some .SYSTEM_LC_NAD_EMERGENCY
  | 24 => some .SYSTEM_LC_NAD_EMERGENCY_LAW_LP
  | 25 => some .SYSTEM_LC_NAD_ON
  | _ => none

inductive SameState : LCState → LeState → Prop
  | init : SameState .NAD_INIT .LIFECYCLE_NAD_INIT
  | backupBattery : SameState .NAD_BACKUP_BATTERY .LIFECYCLE_NAD_BACKUP_BATTERY
  | deepSleep : SameState .NAD_DEEP_SLEEP .LIFECYCLE_NAD_DEEP_SLEEP
  | remoteWake : SameState .NAD_REMOTE_WAKE .LIFECYCLE_NAD_REMOTE_WAKE
  | on : SameState .NAD_ON .LIFECYCLE_NAD_ON
  | off : SameState .NAD_OFF .LIFECYCLE_NAD_OFF
  | stayAliveServices : SameState .NAD_STAY_ALIVE_SERVICES .LIFECYCLE_NAD_STAY_ALIVE_SERVICES
  | shutdown : SameState .NAD_SHUTDOWN .LIFECYCLE_NAD_SHUTDOWN
  | sleep : SameState .NAD_SLEEP .LIFECYCLE_NAD_SLEEP
  | listen1 : SameState .NAD_LISTEN_1 .LIFECYCLE_NAD_LISTEN_1
  | listen2 : SameState .NAD_LISTEN_2 .LIFECYCLE_NAD_LISTEN_2
  | listen3 : SameState .NAD_LISTEN_3 .LIFECYCLE_NAD_LISTEN_3
  | emergency : SameState .NAD_EMERGENCY .LIFECYCLE_NAD_EMERGENCY
  | maintenance : SameState .NAD_MAINTENANCE .LIFECYCLE_NAD_MAINTENANCE
  | testMode : SameState .NAD_TEST_MODE .LIFECYCLE_NAD_TEST_MODE
  | swUpdate : SameState .NAD_SW_UPDATE .LIFECYCLE_NAD_SW_UPDATE
  | logistic : SameState .NAD_LOGISTIC .LIFECYCLE_NAD_LOGISTIC
  | reset : SameState .NAD_RESET .LIFECYCLE_NAD_RESET
  | emergencyLaw : SameState .NAD_EMERGENCY_LAW .LIFECYCLE_NAD_EMERGENCY_LAW
  | idle : SameState .NAD_IDLE .LIFECYCLE_NAD_IDLE
  | emergencyLawLp : SameState .NAD_EMERGENCY_LAW_LP .LIFECYCLE_NAD_EMERGENCY_LAW_LP
  | stayAliveConnected : SameState .NAD_STAY_ALIVE_CONNECTED .LIFECYCLE_NAD_STAY_ALIVE_CONNECTED

inductive SameWakeupSource : LCWakeupSource → LeWakeupSource → Prop
  | lm1Rtc : SameWakeupSource .WAKE_UP_LM1_RTC .LIFECYCLE_WAKE_UP_LM1_RTC
  | mainBattery : SameWakeupSource .WAKE_UP_MAINBATTERY .LIFECYCLE_WAKE_UP_MAINBATTERY
  | accelerometer : SameWakeupSource .WAKE_UP_ACCELEROMETER .LIFECYCLE_WAKE_UP_ACCELEROMETER
  | can : SameWakeupSource .WAKE_UP_CAN .LIFECYCLE_WAKE_UP_CAN
  | lm3Rtc : SameWakeupSource .WAKE_UP_LM3_RTC .LIFECYCLE_WAKE_UP_LM3_RTC
  | sms : SameWakeupSource .WAKE_UP_SMS .LIFECYCLE_WAKE_UP_SMS
  | mqtt : SameWakeupSource .WAKE_UP_MQTT .LIFECYCLE_WAKE_UP_MQTT
  | unknown : SameWakeupSource .WAKE_UNKNOWN .LIFECYCLE_WAKE_UNKNOWN

inductive SameCanStatus : LCCanStatus → LeCanStatus → Prop
  | off : SameCanStatus .LC_CAN_STS_OFF .LIFECYCLE_LC_CAN_STS_OFF
  | on : SameCanStatus .LC_CAN_STS_ON .LIFECYCLE_LC_CAN_STS_ON

inductive SameMainBatteryStatus : LCMainBatteryStatus → LeMainBatteryStatus → Prop
  | nok : SameMainBatteryStatus .LC_MAIN_BATT_STS_NOK .LIFECYCLE_LC_MAIN_BATT_STS_NOK
  | ok : SameMainBatteryStatus .LC_MAIN_BATT_STS_OK .LIFECYCLE_LC_MAIN_BATT_STS_OK

inductive SameVTMstate : LCVTMstate → LeVTMstate → Prop
  | normal : SameVTMstate .LC_VTM_T_NORMAL .LIFECYCLE_LC_VTM_T_NORMAL
  | overtemp : SameVTMstate .LC_VTM_T_OVERTEMP .LIFECYCLE_LC_VTM_T_OVERTEMP

/-- A literal that the sources name. -/
def LCState.Named : LCState → Prop
  | .other _ => False
  | _ => True

end LifecycleMgr
