import LifecycleMgr.Enums

/-!
The data that the life cycle manager keeps, and everything observable that it
does: events and answers on both interfaces, and calls to the MCU. Logging is
left out.
-/
namespace LifecycleMgr

/-- What the repository leaves open: whether plain `char` is signed, and the
    literals to which the interface definitions value-initialise `LC_State` and
    `LC_Status`. -/
structure Platform where
  charSigned : Bool
  initState : LCState
  initStatus : LCStatus

/-- `additionalLifecycleStateInfo_t`. -/
structure AdditionalLifecycleStateInfo where
  nadWakeupSource : LCWakeupSource
  nadCanStatus : LCCanStatus
  nadMainBatteryStatus : LCMainBatteryStatus
  nadVTMstate : LCVTMstate
  deriving DecidableEq, Repr

/-- A platform and additional information to run examples on. -/
def samplePlatform : Platform where
  charSigned := false
  initState := .NAD_INIT
  initStatus := .LC_STS_NOT_OK

@[inherit_doc samplePlatform]
def sampleInfo : AdditionalLifecycleStateInfo where
  nadWakeupSource := .WAKE_UNKNOWN
  nadCanStatus := .LC_CAN_STS_OFF
  nadMainBatteryStatus := .LC_MAIN_BATT_STS_OK
  nadVTMstate := .LC_VTM_T_NORMAL

/-- `client_t`. -/
structure Client where
  name : List UInt8
  lcState : LCState := .NAD_IDLE
  stayActive : LCStayActive := .LC_RELEASE
  eCall : Bool := false
  eCallLaw : Bool := false
  testMode : Bool := false
  deriving DecidableEq, Repr

/-- `lifecycleBroadcastinfo_plus_type`. -/
structure BroadcastInfoPlus where
  lcState : LeState
  lcWakeupSource : LeWakeupSource
  lcCanStatus : LeCanStatus
  lcMainBatteryStatus : LeMainBatteryStatus
  lcVtmState : LeVTMstate
  deriving DecidableEq, Repr

/-- The members of the D-Bus server, and below them those of the Legato server:
    whether its event id was created, and its static record. -/
structure Manager where
  nadLifecycleState : LCState
  nadAdditionalInfo : AdditionalLifecycleStateInfo
  mClients : List Client
  bBuBMode : Bool
  noTCUPowerMode : Bool
  lifecycleStateEvent : Bool
  broadcastInfo : BroadcastInfoPlus
  deriving DecidableEq, Repr

/-- Both servers as their constructors leave them. The constructor of the D-Bus
    server does not mention its enumerations, which value-initialise. -/
def Manager.constructed (p : Platform) (info : AdditionalLifecycleStateInfo) : Manager where
  nadLifecycleState := p.initState
  nadAdditionalInfo := info
  mClients := []
  bBuBMode := false
  noTCUPowerMode := true
  lifecycleStateEvent := false
  broadcastInfo :=
    { lcState := .LIFECYCLE_NAD_IDLE
      lcWakeupSource := .LIFECYCLE_WAKE_UNKNOWN
      lcCanStatus := .LIFECYCLE_LC_CAN_STS_OFF
      lcMainBatteryStatus := .LIFECYCLE_LC_MAIN_BATT_STS_OK
      lcVtmState := .LIFECYCLE_LC_VTM_T_NORMAL }

/-- Both servers before their first operation; the event id may have been created by then. -/
def Manager.started (p : Platform) (info : AdditionalLifecycleStateInfo) (created : Bool) : Manager :=
  { Manager.constructed p info with lifecycleStateEvent := created }

/-- `tcu_parameters_type`, as far as the manager sets it. -/
structure TcuParameters where
  pendingTcuAction : StayActiveStatus
  serviceProviderConnectionStatus : Option ConnectionStatus := none
  connectionUnlockStatus : Nat := 1
  deriving DecidableEq, Repr

/-- `WakeUpTimer_t`. -/
structure WakeUpTimer where
  wakeUpTimerVal : UInt32
  powerModeVal : PowerModeStates
  deriving DecidableEq, Repr

/-- What a D-Bus request is answered. -/
inductive Reply
  | getPowerStatePlus (state : LCState) (info : AdditionalLifecycleStateInfo)
  | registerClient (status : LCStatus) (state : LCState)
  | unRegisterClient (status : LCStatus)
  | emergency (status : LCStatus)
  | wakeup (status : LCStatus)
  | stayActive (status : LCStatus)
  | setRTC (status : LCStatus)
  | jumpToListen2 (status : LCStatus)
  deriving DecidableEq, Repr

/-- What a Legato request leaves in its output parameters. -/
inductive LeReply
  | getLifeCycleStatePlus (record : BroadcastInfoPlus)
  | registerClient (status : LeStatus) (state : LeState)
  | emergency (status : LeStatus)
  | stayActive (status : LeStatus)
  deriving DecidableEq, Repr

/-- What can be observed of the manager. `startTCUOnlyTimer` is the beginning of its sleep. -/
inductive Output
  | fireStateEvent (state : LCState) (info : AdditionalLifecycleStateInfo)
  | leEventReport (record : BroadcastInfoPlus)
  | updateTcuParameters (param : TcuParameters)
  | updateEmergencyCallStatus (status : EmergencyCallStatus)
  | setSocPeriodicWakeUpTimer (timer : WakeUpTimer)
  | startTCUOnlyTimer (timerVal : Nat)
  | reply (answer : Reply)
  | leReply (answer : LeReply)
  deriving DecidableEq, Repr

/-- The call that tells the MCU whether the TCU has to stay active. -/
def sendPendingAction (action : StayActiveStatus) : Output := .updateTcuParameters { pendingTcuAction := action }

end LifecycleMgr
