import LifecycleMgr.Runs
import LifecycleMgr.Requests

/-!
The manager as a machine that executes one operation after the other: the
requests on D-Bus and on Legato, and what the MCU tells it. The operations that
touch the registry of clients are the same on both transports but for the way a
name is read (`Op.registryCall`), and no other operation touches it
(`step_clients`). An operation broadcasts at most one state (`broadcastOf`). One
that does installs this state and publishes it on both transports
(`step_broadcast`); one that does not publishes nothing (`step_quiet`).
-/
namespace LifecycleMgr
open Runs

inductive DBusRequest
  | LC_GetPowerState_plus
  | LC_RegisterClient (name : ClientName)
  | LC_UnRegisterClient (name : ClientName)
  | LC_Emergency (name : ClientName) (state : LCState)
  | LC_Wakeup
  | LC_StayActive (name : ClientName) (stayActive : LCStayActive)
  | LC_SetRTC (timeout : UInt32)
  | LC_JumpToListen2
  deriving DecidableEq

inductive LegatoRequest
  | lifecycle_GetLifeCycleState_plus
  | lifecycle_RegisterClient (name : ClientName)
  | lifecycle_LC_Emergency (name : ClientName) (state : LeState)
  | lifecycle_LC_StayActive (name : ClientName) (stayActive : LeStayActive)
  deriving DecidableEq

inductive McuUpdate
  | setPowerMode (powerMode : Int)
  | setNWSync (nwSync : Bool)
  | setPMWakeupSource (wakeupReason : UInt32)
  | setSocketWakeupSource (wakeupReason : UInt32)
  | setLCMainBattery (batteryStatus : Bool)
  | setLCVTMstate (vtmState : Bool)
  deriving DecidableEq

inductive Op
  | dbus (request : DBusRequest)
  | legato (request : LegatoRequest)
  | mcu (update : McuUpdate)
  deriving DecidableEq

/-- One execution of an operation. -/
structure Call where
  op : Op
  env : Env
  deriving DecidableEq

def dbusStep (p : Platform) (m : Manager) (env : Env) : DBusRequest → Manager × List Output
  | .LC_GetPowerState_plus => (m,lcGetPowerStatePlus m)
  | .LC_RegisterClient name => lcRegisterClient p m name
  | .LC_UnRegisterClient name => lcUnRegisterClient p m name
  | .LC_Emergency _ state => (m,lcEmergency env state)
  | .LC_Wakeup => lcWakeup m
  | .LC_StayActive name stayActive => lcStayActive m name stayActive
  | .LC_SetRTC timeout => (m,lcSetRTC timeout)
  | .LC_JumpToListen2 => (m,lcJumpToListen2)

def legatoStep (p : Platform) (m : Manager) (env : Env) : LegatoRequest → Manager × List Output
  | .lifecycle_GetLifeCycleState_plus => (m,lifecycleGetLifeCycleStatePlus m)
  | .lifecycle_RegisterClient name => lifecycleRegisterClient p m name
  | .lifecycle_LC_Emergency _ state => (m,lifecycleLCEmergency env state)
  | .lifecycle_LC_StayActive name stayActive => lifecycleLCStayActive m name stayActive

def mcuStep (p : Platform) (m : Manager) : McuUpdate → Manager × List Output
  | .setPowerMode powerMode => setPowerMode p m powerMode
  | .setNWSync nwSync => (setNWSync m nwSync,[])
  | .setPMWakeupSource wakeupReason => (setPMWakeupSource m wakeupReason,[])
  | .setSocketWakeupSource wakeupReason => (setSocketWakeupSource m wakeupReason,[])
  | .setLCMainBattery batteryStatus => setLCMainBattery m batteryStatus
  | .setLCVTMstate vtmState => setLCVTMstate m vtmState

def managerStep (p : Platform) (m : Manager) (c : Call) : Manager × List Output :=
  match c.op with
  | .dbus request => dbusStep p m c.env request
  | .legato request => legatoStep p m c.env request
  | .mcu update => mcuStep p m update

/-- The manager, executing its operations one at a time. -/
def manager (p : Platform) : Machine Manager Call Output := ⟨managerStep p⟩

/-- A call made while remote calls succeed. -/
def Op.call (op : Op) : Call := ⟨op,⟨.SUCCESS,.SUCCESS⟩⟩

/-- A call into the registry, with the name as the registry code receives it. -/
inductive RegistryCall
  | register (name : ClientName) (pState : LCState) (pStatus : LCStatus)
  | unRegister (name : ClientName)
  | stayActive (name : ClientName) (stayActive : LCStayActive)
  deriving DecidableEq

/-- The call into the registry that an operation makes, if any. -/
def Op.registryCall (p : Platform) : Op → Option RegistryCall
  | .dbus (.LC_RegisterClient name) => some (.register name .NAD_INIT .LC_STS_NOT_OK_CLIENT_NOT_REGISTERED)
  | .legato (.lifecycle_RegisterClient name) => some (.register (cString name) p.initState p.initStatus)
  | .dbus (.LC_UnRegisterClient name) => some (.unRegister name)
  | .dbus (.LC_StayActive name stayActive) => some (.stayActive name stayActive)
  | .legato (.lifecycle_LC_StayActive name stayActive) =>
    some (.stayActive (cString name) (leLcStayActiveToCapiLcStayActive stayActive))
  | _ => none

/-- What a call into the registry leaves of the manager. -/
def registryNext (p : Platform) (m : Manager) : RegistryCall → Manager
  | .register name pState pStatus => (evaluateRegisterClient p m name pState pStatus).1
  | .unRegister name => (lcUnRegisterClient p m name).1
  | .stayActive name stayActive => (evaluateLCStayActive m name stayActive).1

/-- The state in which `LC_Wakeup` leaves the manager, if it changes it. -/
def wokenState (state : LCState) : Option LCState :=
  if state = .NAD_EMERGENCY_LAW_LP then some .NAD_EMERGENCY_LAW
  else if inListen state then some .NAD_STAY_ALIVE_SERVICES
  else none

/-- The state and the additional information that an operation broadcasts, if it broadcasts. -/
def broadcastOf (m : Manager) : Op → Option (LCState × AdditionalLifecycleStateInfo)
  | .mcu (.setPowerMode powerMode) => (mappedState powerMode).map (fun state => (state,m.nadAdditionalInfo))
  | .mcu (.setLCMainBattery batteryStatus) =>
    some (m.nadLifecycleState,{ m.nadAdditionalInfo with
      nadMainBatteryStatus := if batteryStatus then .LC_MAIN_BATT_STS_OK else .LC_MAIN_BATT_STS_NOK })
  | .mcu (.setLCVTMstate vtmState) =>
    some (m.nadLifecycleState,{ m.nadAdditionalInfo with
      nadVTMstate := if vtmState then .LC_VTM_T_OVERTEMP else .LC_VTM_T_NORMAL })
  | .dbus .LC_Wakeup => (wokenState m.nadLifecycleState).map (fun state => (state,m.nadAdditionalInfo))
  | _ => none

/-- What is published for all clients: the events on D-Bus and the reports on Legato. -/
def publications (outputs : List Output) : List Output :=
  outputs.filter (fun o => match o with
    | .fireStateEvent _ _ => true
    | .leEventReport _ => true
    | _ => false)

/-- The static record after an operation that does not broadcast: a registration on Legato
    writes the state it answers. -/
def quietRecord (p : Platform) (m : Manager) : Op → BroadcastInfoPlus
  | .legato (.lifecycle_RegisterClient name) =>
    { m.broadcastInfo with
      lcState := leStateOf (evaluateRegisterClient p m (cString name) p.initState p.initStatus).2.1 }
  | _ => m.broadcastInfo

/-- The additional information after an operation that does not broadcast: the CAN status and the
    source of a wakeup are kept without a broadcast. -/
def quietInfo (m : Manager) : Op → AdditionalLifecycleStateInfo
  | .mcu (.setNWSync nwSync) => (setNWSync m nwSync).nadAdditionalInfo
  | .mcu (.setPMWakeupSource wakeupReason) => (setPMWakeupSource m wakeupReason).nadAdditionalInfo
  | .mcu (.setSocketWakeupSource wakeupReason) => (setSocketWakeupSource m wakeupReason).nadAdditionalInfo
  | _ => m.nadAdditionalInfo

/-- The manager with a broadcast state installed. Only a mapped power mode may change `bBuBMode`. -/
def installed (m : Manager) (bub : Bool) (broadcast : LCState × AdditionalLifecycleStateInfo) : Manager :=
  { m with nadLifecycleState := broadcast.1, nadAdditionalInfo := broadcast.2, bBuBMode := bub }

theorem publications_append (front back : List Output) :
    publications (front ++ back) = publications front ++ publications back := List.filter_append front back

@[simp] theorem publications_notify (m : Manager) :
    publications (notifyAllRegisteredClientsNadStateInfo m).2 = (notifyAllRegisteredClientsNadStateInfo m).2 := by
  rw [notify_out]
  split <;> rfl

private theorem evaluate_publishes (m : Manager) (state : LCState) :
    publications (evaluateAndBroadcastPowerMode m state).2.1 =
      (notifyAllRegisteredClientsNadStateInfo { m with nadLifecycleState := state }).2 := by
  unfold evaluateAndBroadcastPowerMode
  split
  · simp only [publications_append,publications_notify]
    exact List.append_nil _
  · exact publications_notify _

theorem entry_broadcasts (p : Platform) {m : Manager} (ready : m.noTCUPowerMode = true) {powerMode : Int}
    {state : LCState} (mapped : mappedState powerMode = some state) :
    ∃ bub, (setPowerModeEntry p m powerMode).1 =
        (notifyAllRegisteredClientsNadStateInfo (installed m bub (state,m.nadAdditionalInfo))).1 ∧
      publications (setPowerModeEntry p m powerMode).2.1 =
        (notifyAllRegisteredClientsNadStateInfo (installed m bub (state,m.nadAdditionalInfo))).2 := by
  obtain ⟨bub,entered⟩ := entry_mapped p ready mapped
  rw [entered]
  exact ⟨bub,evaluate_next { m with bBuBMode := bub } state,evaluate_publishes { m with bBuBMode := bub } state⟩

theorem setPowerMode_entry (p : Platform) (m : Manager) (powerMode : Int) :
    (setPowerMode p m powerMode).1 = (setPowerModeEntry p m powerMode).1 ∧
      publications (setPowerMode p m powerMode).2 = publications (setPowerModeEntry p m powerMode).2.1 := by
  refine ⟨rfl,?_⟩
  unfold setPowerMode
  simp only
  split
  · rw [publications_append]
    exact List.append_nil _
  · rfl

theorem test_law {m : Manager} (law : m.nadLifecycleState = .NAD_EMERGENCY_LAW_LP) :
    lcWakeupTest m =
      ((notifyAllRegisteredClientsNadStateInfo { m with nadLifecycleState := .NAD_EMERGENCY_LAW }).1,
        (notifyAllRegisteredClientsNadStateInfo { m with nadLifecycleState := .NAD_EMERGENCY_LAW }).2 ++
          [.reply (.wakeup .LC_STS_OK)],false) := if_pos law

theorem test_listen {m : Manager} (listen : inListen m.nadLifecycleState = true) :
    lcWakeupTest m = (m,[sendPendingAction .STAY_ACTIVE],true) := by
  have notLaw : m.nadLifecycleState ≠ .NAD_EMERGENCY_LAW_LP := by
    intro law
    rw [law] at listen
    exact absurd listen (by decide)
  rw [lcWakeupTest,if_neg notLaw,if_pos listen]

theorem test_refused {m : Manager} (refused : wokenState m.nadLifecycleState = none) :
    lcWakeupTest m = (m,[.reply (.wakeup .LC_STS_NOT_OK)],false) := by
  unfold wokenState at refused
  split at refused
  · simp at refused
  · rename_i notLaw
    split at refused
    · simp at refused
    · rename_i notListen
      rw [lcWakeupTest,if_neg notLaw,if_neg notListen]

/-- A state that `LC_Wakeup` leaves changed was the emergency call waiting or a listen mode. -/
theorem wokenState_cases {s state : LCState} (woken : wokenState s = some state) :
    s = .NAD_EMERGENCY_LAW_LP ∧ state = .NAD_EMERGENCY_LAW ∨
      inListen s = true ∧ state = .NAD_STAY_ALIVE_SERVICES := by
  unfold wokenState at woken
  split at woken
  · rename_i law
    exact .inl ⟨law,(Option.some.inj woken).symm⟩
  · split at woken
    · rename_i listen
      exact .inr ⟨listen,(Option.some.inj woken).symm⟩
    · simp at woken

/-- `LC_Wakeup` is in its remote call after its test exactly from a listen mode. -/
theorem test_inCall (m : Manager) : (lcWakeupTest m).2.2 = inListen m.nadLifecycleState := by
  cases woken : wokenState m.nadLifecycleState with
  | none =>
    have notListen : inListen m.nadLifecycleState = false := by
      rw [← Bool.not_eq_true]
      intro listen
      rw [wokenState,if_pos listen] at woken
      split at woken <;> simp at woken
    rw [test_refused woken,notListen]
  | some state =>
    rcases wokenState_cases woken with ⟨law,_⟩ | ⟨listen,_⟩
    · rw [test_law law,law]; rfl
    · rw [test_listen listen,listen]

theorem wakeup_law {m : Manager} (law : m.nadLifecycleState = .NAD_EMERGENCY_LAW_LP) :
    lcWakeup m =
      ((notifyAllRegisteredClientsNadStateInfo { m with nadLifecycleState := .NAD_EMERGENCY_LAW }).1,
        (notifyAllRegisteredClientsNadStateInfo { m with nadLifecycleState := .NAD_EMERGENCY_LAW }).2 ++
          [.reply (.wakeup .LC_STS_OK)]) := by
  rw [lcWakeup,test_law law]; rfl

theorem wakeup_listen {m : Manager} (listen : inListen m.nadLifecycleState = true) :
    lcWakeup m = ((lcWakeupWrite m).1,sendPendingAction .STAY_ACTIVE :: (lcWakeupWrite m).2) := by
  rw [lcWakeup,test_listen listen]; rfl

theorem wakeup_refused {m : Manager} (refused : wokenState m.nadLifecycleState = none) :
    lcWakeup m = (m,[.reply (.wakeup .LC_STS_NOT_OK)]) := by
  rw [lcWakeup,test_refused refused]; rfl

/-- `LC_Wakeup` calls the MCU and wakes the TCU up, or goes on to the emergency call, or refuses. -/
theorem wakeup_cases (m : Manager) :
    inListen m.nadLifecycleState = true ∧
        lcWakeup m = ((lcWakeupWrite m).1,sendPendingAction .STAY_ACTIVE :: (lcWakeupWrite m).2) ∨
      m.nadLifecycleState = .NAD_EMERGENCY_LAW_LP ∧
        lcWakeup m =
          ((notifyAllRegisteredClientsNadStateInfo { m with nadLifecycleState := .NAD_EMERGENCY_LAW }).1,
            (notifyAllRegisteredClientsNadStateInfo { m with nadLifecycleState := .NAD_EMERGENCY_LAW }).2 ++
              [.reply (.wakeup .LC_STS_OK)]) ∨
      wokenState m.nadLifecycleState = none ∧ lcWakeup m = (m,[.reply (.wakeup .LC_STS_NOT_OK)]) := by
  cases woken : wokenState m.nadLifecycleState with
  | none => exact .inr (.inr ⟨rfl,wakeup_refused woken⟩)
  | some state =>
    rcases wokenState_cases woken with ⟨law,_⟩ | ⟨listen,_⟩
    · exact .inr (.inl ⟨law,wakeup_law law⟩)
    · exact .inl ⟨listen,wakeup_listen listen⟩

theorem wakeup_broadcasts {m : Manager} {state : LCState} (woken : wokenState m.nadLifecycleState = some state) :
    (lcWakeup m).1 =
        (notifyAllRegisteredClientsNadStateInfo (installed m m.bBuBMode (state,m.nadAdditionalInfo))).1 ∧
      publications (lcWakeup m).2 =
        (notifyAllRegisteredClientsNadStateInfo (installed m m.bBuBMode (state,m.nadAdditionalInfo))).2 := by
  rcases wokenState_cases woken with ⟨law,rfl⟩ | ⟨listen,rfl⟩
  · rw [wakeup_law law]
    refine ⟨rfl,?_⟩
    rw [publications_append,publications_notify]
    exact List.append_nil _
  · rw [wakeup_listen listen]
    refine ⟨rfl,?_⟩
    show publications (lcWakeupWrite m).2 = _
    rw [lcWakeupWrite,publications_append,publications_notify]
    exact List.append_nil _

private theorem publications_unRegister (p : Platform) (m : Manager) (name : ClientName) :
    publications (lcUnRegisterClient p m name).2 = [] := by
  rw [unRegister_out]
  split <;> rfl

private theorem publications_stayActive (m : Manager) (name : ClientName) (v : LCStayActive) (answer : Output)
    (unpublished : publications [answer] = []) :
    publications ((evaluateLCStayActive m name v).2.1 ++ [answer]) = [] := by
  rw [publications_append,unpublished,List.append_nil,stayActive_sent]
  split <;> rfl

private theorem publications_trigger (env : Env) (pState : LCState) (answer : Output)
    (unpublished : publications [answer] = []) :
    publications ((triggerLCEmergency env pState).1 ++ [answer]) = [] := by
  rw [publications_append,unpublished,List.append_nil]
  cases pState <;> rfl

/-- A broadcasting operation installs what it broadcasts and notifies both transports of it. -/
theorem step_broadcast (p : Platform) {m : Manager} (ready : m.noTCUPowerMode = true) {c : Call}
    {broadcast : LCState × AdditionalLifecycleStateInfo} (broadcasts : broadcastOf m c.op = some broadcast) :
    ∃ bub, (manager p).next m c = (notifyAllRegisteredClientsNadStateInfo (installed m bub broadcast)).1 ∧
      publications ((manager p).out m c) = (notifyAllRegisteredClientsNadStateInfo (installed m bub broadcast)).2 := by
  obtain ⟨op,env⟩ := c
  cases op with
  | dbus request =>
    cases request with
    | LC_Wakeup =>
      obtain ⟨state,woken,rfl⟩ := Option.map_eq_some_iff.mp broadcasts
      exact ⟨m.bBuBMode,wakeup_broadcasts woken⟩
    | _ => simp [broadcastOf] at broadcasts
  | legato request => simp [broadcastOf] at broadcasts
  | mcu update =>
    cases update with
    | setPowerMode powerMode =>
      obtain ⟨state,mapped,rfl⟩ := Option.map_eq_some_iff.mp broadcasts
      obtain ⟨bub,next,out⟩ := entry_broadcasts p ready mapped
      obtain ⟨nextEntry,outEntry⟩ := setPowerMode_entry p m powerMode
      exact ⟨bub,nextEntry.trans next,outEntry.trans out⟩
    | setLCMainBattery batteryStatus | setLCVTMstate vtmState =>
      obtain rfl := Option.some.inj broadcasts
      exact ⟨m.bBuBMode,rfl,publications_notify _⟩
    | _ => simp [broadcastOf] at broadcasts

/-- An operation that does not broadcast publishes nothing and leaves the power state. -/
theorem step_quiet (p : Platform) {m : Manager} (ready : m.noTCUPowerMode = true) {c : Call}
    (quiet : broadcastOf m c.op = none) :
    publications ((manager p).out m c) = [] ∧
      ∃ clients, (manager p).next m c =
        { m with
          nadAdditionalInfo := quietInfo m c.op
          mClients := clients
          broadcastInfo := quietRecord p m c.op } := by
  obtain ⟨op,env⟩ := c
  cases op with
  | dbus request =>
    cases request with
    | LC_Wakeup =>
      have refused : lcWakeup m = (m,[.reply (.wakeup .LC_STS_NOT_OK)]) :=
        wakeup_refused (Option.map_eq_none_iff.mp quiet)
      refine ⟨?_,m.mClients,congrArg Prod.fst refused⟩
      show publications (lcWakeup m).2 = []
      rw [refused]; rfl
    | LC_RegisterClient name =>
      obtain ⟨clients,frame⟩ := @register_frame p m name .NAD_INIT .LC_STS_NOT_OK_CLIENT_NOT_REGISTERED
      exact ⟨rfl,clients,frame⟩
    | LC_UnRegisterClient name =>
      obtain ⟨clients,frame⟩ := @unRegister_frame p m name
      exact ⟨publications_unRegister p m name,clients,frame⟩
    | LC_StayActive name stayActive =>
      obtain ⟨clients,frame⟩ := stayActive_frame m name stayActive
      exact ⟨publications_stayActive m name stayActive _ rfl,clients,frame⟩
    | LC_Emergency name state =>
      exact ⟨publications_trigger env state _ rfl,m.mClients,rfl⟩
    | _ => exact ⟨rfl,m.mClients,rfl⟩
  | legato request =>
    cases request with
    | lifecycle_GetLifeCycleState_plus => exact ⟨rfl,m.mClients,rfl⟩
    | lifecycle_RegisterClient name =>
      obtain ⟨clients,frame⟩ := @register_frame p m (cString name) p.initState p.initStatus
      refine ⟨rfl,clients,?_⟩
      show (lifecycleRegisterClient p m name).1 = _
      unfold lifecycleRegisterClient capiLcStateToLeLcState
      simp only [frame,quietInfo,quietRecord]
    | lifecycle_LC_Emergency name state =>
      exact ⟨publications_trigger env (leLcStateToCapiLcState state) _ rfl,m.mClients,rfl⟩
    | lifecycle_LC_StayActive name stayActive =>
      obtain ⟨clients,frame⟩ := stayActive_frame m (cString name) (leLcStayActiveToCapiLcStayActive stayActive)
      exact ⟨publications_stayActive m (cString name) _ _ rfl,clients,frame⟩
  | mcu update =>
    cases update with
    | setPowerMode powerMode =>
      obtain ⟨nextEntry,outEntry⟩ := setPowerMode_entry p m powerMode
      have entered := entry_unmapped p ready (Option.map_eq_none_iff.mp quiet)
      rw [entered] at nextEntry outEntry
      refine ⟨outEntry.trans ?_,m.mClients,nextEntry⟩
      split <;> rfl
    | setNWSync nwSync => cases nwSync <;> exact ⟨rfl,m.mClients,rfl⟩
    | setPMWakeupSource wakeupReason | setSocketWakeupSource wakeupReason => exact ⟨rfl,m.mClients,rfl⟩
    | _ => simp [broadcastOf] at quiet

section
variable (p : Platform) {m : Manager} (ready : m.noTCUPowerMode = true)
include ready

theorem next_ready (c : Call) : ((manager p).next m c).noTCUPowerMode = true := by
  cases broadcasts : broadcastOf m c.op with
  | none =>
    obtain ⟨_,clients,next⟩ := step_quiet p ready broadcasts
    rw [next]; exact ready
  | some broadcast =>
    obtain ⟨bub,next,_⟩ := step_broadcast p ready broadcasts
    rw [next,notify_noTCUPowerMode]; exact ready

theorem next_created (c : Call) : ((manager p).next m c).lifecycleStateEvent = m.lifecycleStateEvent := by
  cases broadcasts : broadcastOf m c.op with
  | none =>
    obtain ⟨_,clients,next⟩ := step_quiet p ready broadcasts
    rw [next]
  | some broadcast =>
    obtain ⟨bub,next,_⟩ := step_broadcast p ready broadcasts
    rw [next,notify_lifecycleStateEvent]; rfl

/-- The power state is the one broadcast, and stays as it was when nothing is broadcast. -/
theorem next_state (c : Call) : ((manager p).next m c).nadLifecycleState =
    ((broadcastOf m c.op).map Prod.fst).getD m.nadLifecycleState := by
  cases broadcasts : broadcastOf m c.op with
  | none =>
    obtain ⟨_,clients,next⟩ := step_quiet p ready broadcasts
    rw [next]; rfl
  | some broadcast =>
    obtain ⟨bub,next,_⟩ := step_broadcast p ready broadcasts
    rw [next,notify_nadLifecycleState]; rfl

/-- The additional information is that broadcast, and otherwise what the operation keeps for itself. -/
theorem next_info (c : Call) : ((manager p).next m c).nadAdditionalInfo =
    ((broadcastOf m c.op).map Prod.snd).getD (quietInfo m c.op) := by
  cases broadcasts : broadcastOf m c.op with
  | none =>
    obtain ⟨_,clients,next⟩ := step_quiet p ready broadcasts
    rw [next]; rfl
  | some broadcast =>
    obtain ⟨bub,next,_⟩ := step_broadcast p ready broadcasts
    rw [next,notify_nadAdditionalInfo]; rfl

/-- The registry changes by the call into it that the operation makes, if any. -/
theorem step_clients (c : Call) : ((manager p).next m c).mClients =
    match c.op.registryCall p with
    | some call => (registryNext p m call).mClients
    | none => m.mClients := by
  obtain ⟨op,env⟩ := c
  cases broadcasts : broadcastOf m op with
  | none =>
    cases op with
    | dbus request =>
      cases request with
      | LC_Wakeup =>
        have refused : lcWakeup m = (m,[.reply (.wakeup .LC_STS_NOT_OK)]) :=
          wakeup_refused (Option.map_eq_none_iff.mp broadcasts)
        exact congrArg (fun stepped => stepped.1.mClients) refused
      | _ => rfl
    | legato request => cases request <;> rfl
    | mcu update =>
      cases update with
      | setPowerMode powerMode =>
        obtain ⟨nextEntry,_⟩ := setPowerMode_entry p m powerMode
        rw [entry_unmapped p ready (Option.map_eq_none_iff.mp broadcasts)] at nextEntry
        exact congrArg Manager.mClients nextEntry
      | setNWSync nwSync => cases nwSync <;> rfl
      | setPMWakeupSource wakeupReason | setSocketWakeupSource wakeupReason => rfl
      | _ => simp [broadcastOf] at broadcasts
  | some broadcast =>
    obtain ⟨bub,next,_⟩ := @step_broadcast p m ready ⟨op,env⟩ broadcast broadcasts
    have unregistered : op.registryCall p = none := by
      cases op with
      | dbus request => cases request with
        | LC_Wakeup => rfl
        | _ => simp [broadcastOf] at broadcasts
      | legato request => simp [broadcastOf] at broadcasts
      | mcu update => rfl
    rw [next,notify_mClients,unregistered]; rfl

end

end LifecycleMgr
