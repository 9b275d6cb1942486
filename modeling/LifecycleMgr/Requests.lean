import LifecycleMgr.ClientName
import LifecycleMgr.Keyed
import LifecycleMgr.PowerMode

/-!
The requests of the clients, on D-Bus and on Legato. A remote call puts its
result into a `CallStatus` of the caller; `LC_Wakeup` blocks in its call, so it is
given in two parts, up to the call (`lcWakeupTest`) and after it (`lcWakeupWrite`).
-/
namespace LifecycleMgr
open Keyed

/-- What an operation finds outside the manager: the result of its remote call,
    and what an uninitialised local of its holds. -/
structure Env where
  remote : CallStatus
  garbage : CallStatus
  deriving DecidableEq, Repr

/-! ### The requests on D-Bus -/

/-- `evaluate_RegisterClient`, with the values it leaves in `_pState` and `_pStatus`. -/
def evaluateRegisterClient (p : Platform) (m : Manager) (pClientName : ClientName) (pState : LCState)
    (pStatus : LCStatus) : Manager × LCState × LCStatus :=
  let name := cleanClientName p.charSigned pClientName
  if name.length < 1 then (m,pState,pStatus)
  else
    let tempClient : Client := { name := name, lcState := m.nadLifecycleState, stayActive := .LC_RELEASE }
    let found := m.mClients.any (fun c => c.name == name)
    let pStatus := if found then .LC_STS_OK_CLIENT_ALREADY_REGISTERED else pStatus
    if pStatus ≠ .LC_STS_OK_CLIENT_ALREADY_REGISTERED then
      ({ m with mClients := m.mClients ++ [tempClient] },m.nadLifecycleState,.LC_STS_OK)
    else (m,m.nadLifecycleState,pStatus)

def lcRegisterClient (p : Platform) (m : Manager) (pClientName : ClientName) : Manager × List Output :=
  let registered := evaluateRegisterClient p m pClientName .NAD_INIT .LC_STS_NOT_OK_CLIENT_NOT_REGISTERED
  (registered.1,[.reply (.registerClient registered.2.2 registered.2.1)])

def lcUnRegisterClient (p : Platform) (m : Manager) (pClientName : ClientName) : Manager × List Output :=
  let name := cleanClientName p.charSigned pClientName
  -- returns without a reply
  if name.length < 1 then (m,[])
  else if m.mClients.any (fun c => c.name == name) then
    ({ m with mClients := m.mClients.eraseP (fun c => c.name == name) },[.reply (.unRegisterClient .LC_STS_OK)])
  else (m,[.reply (.unRegisterClient .LC_STS_NOT_OK)])

/-- The power states in which a lock can be taken. -/
def inStayAlive (state : LCState) : Bool := state = .NAD_STAY_ALIVE_SERVICES ∨ state = .NAD_STAY_ALIVE_CONNECTED

/-- Write to the record that the search for a name stopped at. -/
def setStayActive (m : Manager) (name : ClientName) (stayActive : LCStayActive) : Manager :=
  { m with mClients :=
      updateFirst Client.name name (fun c => { c with stayActive := stayActive }) m.mClients }

/-- `evaluateLC_StayActive`, with the value it leaves in `_pStatus`. -/
def evaluateLCStayActive (m : Manager) (pClientName : ClientName) (pStayActive : LCStayActive) :
    Manager × List Output × LCStatus :=
  if m.mClients.any (fun c => c.name == pClientName) = false then (m,[],.LC_STS_NOT_OK)
  else if pStayActive = .LC_LOCK ∧ inStayAlive m.nadLifecycleState then
    (setStayActive m pClientName pStayActive,[sendPendingAction .STAY_ACTIVE],.LC_STS_OK)
  else if pStayActive = .LC_RELEASE then
    (setStayActive m pClientName pStayActive,[sendPendingAction .STAY_INACTIVE],.LC_STS_OK)
  else if pStayActive = .LC_BUB ∧ inStayAlive m.nadLifecycleState ∧
      m.nadAdditionalInfo.nadCanStatus = .LC_CAN_STS_OFF ∧
      m.nadAdditionalInfo.nadMainBatteryStatus = .LC_MAIN_BATT_STS_NOK then
    (setStayActive m pClientName pStayActive,[sendPendingAction .STAY_INACTIVE],.LC_STS_OK)
  else (m,[sendPendingAction .STAY_INACTIVE],.LC_STS_NOT_OK)

def lcStayActive (m : Manager) (pClientName : ClientName) (pStayActive : LCStayActive) : Manager × List Output :=
  let evaluated := evaluateLCStayActive m pClientName pStayActive
  (evaluated.1,evaluated.2.1 ++ [.reply (.stayActive evaluated.2.2)])

/-- `triggerLC_Emergency`: what it sends, and the value it leaves in `_pStatus`. -/
def triggerLCEmergency (env : Env) (pState : LCState) : List Output × LCStatus :=
  let called : List Output × CallStatus :=
    match pState with
    | .NAD_EMERGENCY => ([.updateEmergencyCallStatus .NAD_EMERGENCY],env.remote)
    | .NAD_EMERGENCY_LAW => ([.updateEmergencyCallStatus .NAD_EMERGENCY_LAW],env.remote)
    | .NAD_EMERGENCY_LAW_LP => ([.updateEmergencyCallStatus .NAD_EMERGENCY_LAW_LP],env.remote)
    | .NAD_ON => ([.updateEmergencyCallStatus .NAD_ON],env.remote)
    | _ => ([],env.garbage)
  (called.1,if called.2 = .SUCCESS then .LC_STS_OK else .LC_STS_NOT_OK)

def lcEmergency (env : Env) (pState : LCState) : List Output :=
  let triggered := triggerLCEmergency env pState
  triggered.1 ++ [.reply (.emergency triggered.2)]

def lcGetPowerStatePlus (m : Manager) : List Output :=
  [.reply (.getPowerStatePlus m.nadLifecycleState m.nadAdditionalInfo)]

def lcJumpToListen2 : List Output :=
  [.updateTcuParameters
      { pendingTcuAction := .STAY_INACTIVE, serviceProviderConnectionStatus := some .INACTIVE },
    .reply (.jumpToListen2 .LC_STS_OK)]

def lcSetRTC (pTimeout : UInt32) : List Output :=
  [.setSocPeriodicWakeUpTimer { wakeUpTimerVal := pTimeout, powerModeVal := .SYSTEM_LC_LISTEN_MODE_1 },
    .reply (.setRTC .LC_STS_OK)]

/-- The listen modes, from which `LC_Wakeup` calls the MCU. -/
def inListen (state : LCState) : Bool := state = .NAD_LISTEN_1 ∨ state = .NAD_LISTEN_2 ∨ state = .NAD_LISTEN_3

/-- `LC_Wakeup` up to the return of its remote call, and whether it is in that call.
    Outside the listen modes it makes no call and is over. -/
def lcWakeupTest (m : Manager) : Manager × List Output × Bool :=
  if m.nadLifecycleState = .NAD_EMERGENCY_LAW_LP then
    let notified := notifyAllRegisteredClientsNadStateInfo { m with nadLifecycleState := .NAD_EMERGENCY_LAW }
    (notified.1,notified.2 ++ [.reply (.wakeup .LC_STS_OK)],false)
  else if inListen m.nadLifecycleState then (m,[sendPendingAction .STAY_ACTIVE],true)
  else (m,[.reply (.wakeup .LC_STS_NOT_OK)],false)

/-- `LC_Wakeup` after its remote call. -/
def lcWakeupWrite (m : Manager) : Manager × List Output :=
  let notified := notifyAllRegisteredClientsNadStateInfo { m with nadLifecycleState := .NAD_STAY_ALIVE_SERVICES }
  (notified.1,notified.2 ++ [.reply (.wakeup .LC_STS_OK)])

def lcWakeup (m : Manager) : Manager × List Output :=
  let tested := lcWakeupTest m
  if tested.2.2 then
    let written := lcWakeupWrite tested.1
    (written.1,tested.2.1 ++ written.2)
  else (tested.1,tested.2.1)

/-! ### The requests on Legato -/

def lifecycleGetLifeCycleStatePlus (m : Manager) : List Output :=
  [.leReply (.getLifeCycleStatePlus m.broadcastInfo)]

def lifecycleRegisterClient (p : Platform) (m : Manager) (pClientName : ClientName) : Manager × List Output :=
  let registered := evaluateRegisterClient p m (cString pClientName) p.initState p.initStatus
  let translated := capiLcStateToLeLcState registered.1.broadcastInfo registered.2.1
  ({ registered.1 with broadcastInfo := translated.1 },
    [.leReply (.registerClient (capiLcStatusToLeLcStatus registered.2.2) translated.2)])

def lifecycleLCEmergency (env : Env) (pleState : LeState) : List Output :=
  let triggered := triggerLCEmergency env (leLcStateToCapiLcState pleState)
  triggered.1 ++ [.leReply (.emergency (capiLcStatusToLeLcStatus triggered.2))]

def lifecycleLCStayActive (m : Manager) (pClientName : ClientName) (pStayActive : LeStayActive) :
    Manager × List Output :=
  let evaluated := evaluateLCStayActive m (cString pClientName) (leLcStayActiveToCapiLcStayActive pStayActive)
  (evaluated.1,evaluated.2.1 ++ [.leReply (.stayActive (capiLcStatusToLeLcStatus evaluated.2.2))])

/-! ### What the calls into the registry do -/

/-- The names of the registered clients, in the order of registration. -/
def clientNames (m : Manager) : List (List UInt8) := m.mClients.map Client.name

/-- Whether a registered client's request is granted in a power state. -/
def StayActiveAllowed (state : LCState) (info : AdditionalLifecycleStateInfo) (v : LCStayActive) : Prop :=
  v = .LC_RELEASE ∨ v = .LC_LOCK ∧ inStayAlive state ∨
    v = .LC_BUB ∧ inStayAlive state ∧ info.nadCanStatus = .LC_CAN_STS_OFF ∧
      info.nadMainBatteryStatus = .LC_MAIN_BATT_STS_NOK

instance (state : LCState) (info : AdditionalLifecycleStateInfo) (v : LCStayActive) :
    Decidable (StayActiveAllowed state info v) := inferInstanceAs (Decidable (_ ∨ _))

theorem any_name_iff (m : Manager) (name : List UInt8) :
    m.mClients.any (fun c => c.name == name) = true ↔ name ∈ clientNames m := by
  simp only [List.any_eq_true,beq_iff_eq,clientNames,List.mem_map]

instance (m : Manager) (name : List UInt8) : Decidable (name ∈ clientNames m) :=
  decidable_of_iff _ (any_name_iff m name)

theorem stayActive_unknown {m : Manager} {name : ClientName} (unknown : name ∉ clientNames m)
    (v : LCStayActive) : evaluateLCStayActive m name v = (m,[],.LC_STS_NOT_OK) := by
  rw [evaluateLCStayActive,if_pos]
  rw [← Bool.not_eq_true,any_name_iff]
  exact unknown

/-- A granted request writes the client's record, and only a lock keeps the TCU active. -/
theorem stayActive_granted {m : Manager} {name : ClientName} (known : name ∈ clientNames m)
    {v : LCStayActive} (allowed : StayActiveAllowed m.nadLifecycleState m.nadAdditionalInfo v) :
    evaluateLCStayActive m name v = (setStayActive m name v,
      [sendPendingAction (if v = .LC_LOCK then .STAY_ACTIVE else .STAY_INACTIVE)],.LC_STS_OK) := by
  rw [evaluateLCStayActive,if_neg (by rw [(any_name_iff m _).mpr known]; simp)]
  rcases allowed with rfl | ⟨rfl,alive⟩ | ⟨rfl,alive,can,battery⟩
  · simp
  · simp [alive]
  · simp [alive,can,battery]

/-- A refused request of a registered client still takes back the wish to stay active. -/
theorem stayActive_refused {m : Manager} {name : ClientName} (known : name ∈ clientNames m)
    {v : LCStayActive} (refused : ¬ StayActiveAllowed m.nadLifecycleState m.nadAdditionalInfo v) :
    evaluateLCStayActive m name v = (m,[sendPendingAction .STAY_INACTIVE],.LC_STS_NOT_OK) := by
  rw [evaluateLCStayActive,if_neg (by rw [(any_name_iff m _).mpr known]; simp)]
  simp only [StayActiveAllowed,not_or] at refused
  rw [if_neg refused.2.1,if_neg refused.1,if_neg refused.2.2]

/-- Only a granted request is answered `LC_STS_OK`. -/
theorem stayActive_ok_iff (m : Manager) (name : ClientName) (v : LCStayActive) :
    (evaluateLCStayActive m name v).2.2 = .LC_STS_OK ↔
      name ∈ clientNames m ∧ StayActiveAllowed m.nadLifecycleState m.nadAdditionalInfo v := by
  by_cases known : name ∈ clientNames m
  · by_cases allowed : StayActiveAllowed m.nadLifecycleState m.nadAdditionalInfo v
    · simp [stayActive_granted known allowed,known,allowed]
    · simp [stayActive_refused known allowed,allowed]
  · simp [stayActive_unknown known,known]

/-- A registered client's request sends whether it is a granted lock; another one sends nothing. -/
theorem stayActive_sent (m : Manager) (name : ClientName) (v : LCStayActive) :
    (evaluateLCStayActive m name v).2.1 =
      if name ∈ clientNames m then
        [sendPendingAction (if v = .LC_LOCK ∧ StayActiveAllowed m.nadLifecycleState m.nadAdditionalInfo v
          then .STAY_ACTIVE else .STAY_INACTIVE)]
      else [] := by
  by_cases known : name ∈ clientNames m
  · by_cases allowed : StayActiveAllowed m.nadLifecycleState m.nadAdditionalInfo v
    · simp [stayActive_granted known allowed,known,allowed]
    · simp [stayActive_refused known allowed,known,allowed]
  · simp [stayActive_unknown known,known]

theorem stayActive_frame (m : Manager) (name : ClientName) (v : LCStayActive) :
    ∃ clients, (evaluateLCStayActive m name v).1 = { m with mClients := clients } := by
  by_cases known : name ∈ clientNames m
  · by_cases allowed : StayActiveAllowed m.nadLifecycleState m.nadAdditionalInfo v
    · exact ⟨_,by rw [stayActive_granted known allowed]; rfl⟩
    · exact ⟨m.mClients,by rw [stayActive_refused known allowed]⟩
  · exact ⟨m.mClients,by rw [stayActive_unknown known]⟩

section
variable {p : Platform} {m : Manager} {name : ClientName} {pState : LCState} {pStatus : LCStatus}

theorem register_blank (blank : cleanClientName p.charSigned name = []) :
    evaluateRegisterClient p m name pState pStatus = (m,pState,pStatus) := by
  simp [evaluateRegisterClient,blank]

/-- A present name, and any name that enters as already registered, is answered as registered. -/
theorem register_kept (nonblank : cleanClientName p.charSigned name ≠ [])
    (kept : cleanClientName p.charSigned name ∈ clientNames m ∨
      pStatus = .LC_STS_OK_CLIENT_ALREADY_REGISTERED) :
    evaluateRegisterClient p m name pState pStatus =
      (m,m.nadLifecycleState,.LC_STS_OK_CLIENT_ALREADY_REGISTERED) := by
  have found := any_name_iff m (cleanClientName p.charSigned name)
  rcases kept with present | rfl
  · simp [evaluateRegisterClient,nonblank,found.mpr present]
  · simp [evaluateRegisterClient,nonblank]

theorem register_new (nonblank : cleanClientName p.charSigned name ≠ [])
    (absent : cleanClientName p.charSigned name ∉ clientNames m)
    (entered : pStatus ≠ .LC_STS_OK_CLIENT_ALREADY_REGISTERED) :
    evaluateRegisterClient p m name pState pStatus =
      ({ m with mClients := m.mClients ++
          [{ name := cleanClientName p.charSigned name, lcState := m.nadLifecycleState }] },
        m.nadLifecycleState,.LC_STS_OK) := by
  have found := any_name_iff m (cleanClientName p.charSigned name)
  simp only [absent,iff_false,Bool.not_eq_true] at found
  simp [evaluateRegisterClient,nonblank,found,entered]

/-- The answer to any name but a blank one is the power state. -/
theorem register_state (nonblank : cleanClientName p.charSigned name ≠ []) :
    (evaluateRegisterClient p m name pState pStatus).2.1 = m.nadLifecycleState := by
  by_cases kept : cleanClientName p.charSigned name ∈ clientNames m ∨
      pStatus = .LC_STS_OK_CLIENT_ALREADY_REGISTERED
  · rw [register_kept nonblank kept]
  · rw [not_or] at kept
    rw [register_new nonblank kept.1 kept.2]

theorem register_frame : ∃ clients, (evaluateRegisterClient p m name pState pStatus).1 = { m with mClients := clients } := by
  by_cases blank : cleanClientName p.charSigned name = []
  · exact ⟨m.mClients,by rw [register_blank blank]⟩
  · by_cases kept : cleanClientName p.charSigned name ∈ clientNames m ∨
        pStatus = .LC_STS_OK_CLIENT_ALREADY_REGISTERED
    · exact ⟨m.mClients,by rw [register_kept blank kept]⟩
    · rw [not_or] at kept
      exact ⟨_,by rw [register_new blank kept.1 kept.2]⟩

theorem unRegister_blank (blank : cleanClientName p.charSigned name = []) :
    lcUnRegisterClient p m name = (m,[]) := by
  simp [lcUnRegisterClient,blank]

theorem unRegister_present (nonblank : cleanClientName p.charSigned name ≠ [])
    (present : cleanClientName p.charSigned name ∈ clientNames m) :
    lcUnRegisterClient p m name =
      ({ m with mClients := m.mClients.eraseP (fun c => c.name == cleanClientName p.charSigned name) },
        [.reply (.unRegisterClient .LC_STS_OK)]) := by
  have found := (any_name_iff m (cleanClientName p.charSigned name)).mpr present
  simp [lcUnRegisterClient,nonblank,found]

theorem unRegister_absent (nonblank : cleanClientName p.charSigned name ≠ [])
    (absent : cleanClientName p.charSigned name ∉ clientNames m) :
    lcUnRegisterClient p m name = (m,[.reply (.unRegisterClient .LC_STS_NOT_OK)]) := by
  have found := any_name_iff m (cleanClientName p.charSigned name)
  simp only [absent,iff_false,Bool.not_eq_true] at found
  simp [lcUnRegisterClient,nonblank,found]

/-- An unregistration answers, unless the cleaned name is empty. -/
theorem unRegister_out : (lcUnRegisterClient p m name).2 =
    if cleanClientName p.charSigned name = [] then []
    else [.reply (.unRegisterClient
      (if cleanClientName p.charSigned name ∈ clientNames m then .LC_STS_OK else .LC_STS_NOT_OK))] := by
  by_cases blank : cleanClientName p.charSigned name = []
  · rw [unRegister_blank blank,if_pos blank]
  · by_cases present : cleanClientName p.charSigned name ∈ clientNames m
    · rw [unRegister_present blank present,if_neg blank,if_pos present]
    · rw [unRegister_absent blank present,if_neg blank,if_neg present]

theorem unRegister_frame : ∃ clients, (lcUnRegisterClient p m name).1 = { m with mClients := clients } := by
  by_cases blank : cleanClientName p.charSigned name = []
  · exact ⟨m.mClients,by rw [unRegister_blank blank]⟩
  · by_cases present : cleanClientName p.charSigned name ∈ clientNames m
    · exact ⟨_,by rw [unRegister_present blank present]⟩
    · exact ⟨m.mClients,by rw [unRegister_absent blank present]⟩

end

end LifecycleMgr
