import LifecycleMgr.Manager

namespace LifecycleMgr
open Runs

/-- The manager with another static record and other clients. -/
def withUnread (m : Manager) (record : BroadcastInfoPlus) (clients : List Client) : Manager :=
  { m with broadcastInfo := record, mClients := clients }

/-- The same happens whatever the static record and the clients are, but for the record it leaves. -/
def Blind (stepped : Manager → Manager × List Output) : Prop :=
  ∀ m record clients, ∃ record', stepped (withUnread m record clients) =
    (withUnread (stepped m).1 record' clients,(stepped m).2) ∧
      (record = m.broadcastInfo → record' = (stepped m).1.broadcastInfo)

/-- What does not look at the clients does not touch them. -/
theorem blind_clients {stepped : Manager → Manager × List Output} (blind : Blind stepped) (m : Manager) :
    (stepped m).1.mClients = m.mClients := by
  obtain ⟨record',same,_⟩ := blind m m.broadcastInfo m.mClients
  have clients := congrArg (fun s : Manager × List Output => s.1.mClients) same
  exact clients

theorem notify_record (m : Manager) :
    (notifyAllRegisteredClientsNadStateInfo m).1 = { m with broadcastInfo :=
      (if m.lifecycleStateEvent then leImage m.nadLifecycleState m.nadAdditionalInfo else m.broadcastInfo) } := by
  by_cases created : m.lifecycleStateEvent = true
  · rw [notify_eq created,if_pos created]
  · have quiet : reportLcStateEventPlus m m.nadLifecycleState m.nadAdditionalInfo = (m,[]) := if_neg created
    simp only [notifyAllRegisteredClientsNadStateInfo,quiet,if_neg created]

theorem notify_blind : Blind notifyAllRegisteredClientsNadStateInfo := by
  intro m record clients
  refine ⟨if m.lifecycleStateEvent then leImage m.nadLifecycleState m.nadAdditionalInfo else record,
    Prod.ext ?_ ?_,?_⟩
  · rw [notify_record,notify_record]; rfl
  · rw [notify_out,notify_out]; rfl
  · rintro rfl
    rw [notify_record]

private theorem evaluate_blind (m : Manager) (record : BroadcastInfoPlus) (clients : List Client) (state : LCState) :
    ∃ record', evaluateAndBroadcastPowerMode (withUnread m record clients) state =
        (withUnread (evaluateAndBroadcastPowerMode m state).1 record' clients,
          (evaluateAndBroadcastPowerMode m state).2) ∧
      (record = m.broadcastInfo → record' = (evaluateAndBroadcastPowerMode m state).1.broadcastInfo) := by
  obtain ⟨record',notified,kept⟩ := notify_blind { m with nadLifecycleState := state } record clients
  have moved : { withUnread m record clients with nadLifecycleState := state } =
      withUnread { m with nadLifecycleState := state } record clients := rfl
  refine ⟨record',?_,?_⟩
  · simp only [evaluateAndBroadcastPowerMode,moved,notified]
    split <;> rfl
  · intro same
    rw [evaluate_next]
    exact kept same

private theorem switch_blind (m : Manager) (record : BroadcastInfoPlus) (clients : List Client) (powerMode : Int) :
    powerModeSwitch (withUnread m record clients) powerMode =
      (withUnread (powerModeSwitch m powerMode).1 record clients,(powerModeSwitch m powerMode).2) := by
  unfold powerModeSwitch
  split
  · rfl
  · show (if m.nadLifecycleState ≠ .NAD_STAY_ALIVE_SERVICES then _ else _) = _
    split <;> rfl
  · split <;> rfl

private theorem switch_record (m : Manager) (powerMode : Int) :
    (powerModeSwitch m powerMode).1.broadcastInfo = m.broadcastInfo := by
  unfold powerModeSwitch
  split
  · rfl
  · split <;> rfl
  · split <;> rfl

theorem entry_blind (p : Platform) (m : Manager) (record : BroadcastInfoPlus) (clients : List Client)
    (powerMode : Int) : ∃ record', setPowerModeEntry p (withUnread m record clients) powerMode =
        (withUnread (setPowerModeEntry p m powerMode).1 record' clients,(setPowerModeEntry p m powerMode).2) ∧
      (record = m.broadcastInfo → record' = (setPowerModeEntry p m powerMode).1.broadcastInfo) := by
  obtain ⟨record',evaluated,kept⟩ := evaluate_blind (powerModeSwitch m powerMode).1 record clients
    ((powerModeSwitch m powerMode).2.2.getD p.initState)
  have switched := switch_record m powerMode
  have ready : (withUnread (powerModeSwitch m powerMode).1 record clients).noTCUPowerMode =
      (powerModeSwitch m powerMode).1.noTCUPowerMode := rfl
  simp only [setPowerModeEntry,switch_blind,evaluated,ready]
  by_cases evaluates : PowerModeStates.ofInt powerMode ≠ some .SYSTEM_LC_STAY_ALIVE_SERVICES ∧
      (powerModeSwitch m powerMode).1.noTCUPowerMode = true
  · simp only [if_pos evaluates]
    exact ⟨record',rfl,fun same => kept (same.trans switched.symm)⟩
  · simp only [if_neg evaluates]
    refine ⟨record,?_,fun same => ?_⟩
    · split <;> rfl
    · rw [same,← switched]
      split <;> rfl

private theorem setPowerMode_blind (p : Platform) (powerMode : Int) : Blind (fun m => setPowerMode p m powerMode) := by
  intro m record clients
  obtain ⟨record',entered,kept⟩ := entry_blind p m record clients powerMode
  exact ⟨record',by simp only [setPowerMode,entered],kept⟩

theorem write_blind : Blind lcWakeupWrite := by
  intro m record clients
  obtain ⟨record',notified,kept⟩ := notify_blind { m with nadLifecycleState := .NAD_STAY_ALIVE_SERVICES } record clients
  have moved : { withUnread m record clients with nadLifecycleState := .NAD_STAY_ALIVE_SERVICES } =
      withUnread { m with nadLifecycleState := .NAD_STAY_ALIVE_SERVICES } record clients := rfl
  exact ⟨record',by simp only [lcWakeupWrite,moved,notified],kept⟩

private theorem wakeup_blind : Blind lcWakeup := by
  intro m record clients
  rcases wakeup_cases m with ⟨listen,wakes⟩ | ⟨law,wakes⟩ | ⟨woken,refuses⟩
  · obtain ⟨record',written,kept⟩ := write_blind m record clients
    have listen' : inListen (withUnread m record clients).nadLifecycleState = true := listen
    rw [wakes]
    exact ⟨record',by rw [wakeup_listen listen',written],kept⟩
  · obtain ⟨record',notified,kept⟩ := notify_blind { m with nadLifecycleState := .NAD_EMERGENCY_LAW } record clients
    have law' : (withUnread m record clients).nadLifecycleState = .NAD_EMERGENCY_LAW_LP := law
    have moved : { withUnread m record clients with nadLifecycleState := .NAD_EMERGENCY_LAW } =
        withUnread { m with nadLifecycleState := .NAD_EMERGENCY_LAW } record clients := rfl
    rw [wakes]
    exact ⟨record',by rw [wakeup_law law',moved,notified],kept⟩
  · have woken' : wokenState (withUnread m record clients).nadLifecycleState = none := woken
    rw [refuses]
    exact ⟨record,by rw [wakeup_refused woken'],id⟩

/-- An operation that reads neither does the same whatever the static record and the clients are. -/
theorem step_blind (p : Platform) (c : Call) (unregistered : c.op.registryCall p = none)
    (reads : c.op ≠ .legato .lifecycle_GetLifeCycleState_plus) : Blind (fun m => managerStep p m c) := by
  intro m record clients
  obtain ⟨op,env⟩ := c
  cases op with
  | dbus request =>
    cases request with
    | LC_Wakeup => exact wakeup_blind m record clients
    | LC_RegisterClient name | LC_UnRegisterClient name | LC_StayActive name v => cases unregistered
    | _ => exact ⟨record,rfl,id⟩
  | legato request =>
    cases request with
    | lifecycle_GetLifeCycleState_plus => exact absurd rfl reads
    | lifecycle_RegisterClient name | lifecycle_LC_StayActive name v => cases unregistered
    | lifecycle_LC_Emergency name state => exact ⟨record,rfl,id⟩
  | mcu update =>
    cases update with
    | setPowerMode powerMode => exact setPowerMode_blind p powerMode m record clients
    | setNWSync nwSync => cases nwSync <;> exact ⟨record,rfl,id⟩
    | setLCMainBattery batteryStatus =>
      exact notify_blind { m with nadAdditionalInfo :=
        { m.nadAdditionalInfo with
          nadMainBatteryStatus := if batteryStatus then .LC_MAIN_BATT_STS_OK else .LC_MAIN_BATT_STS_NOK } }
        record clients
    | setLCVTMstate vtmState =>
      exact notify_blind { m with nadAdditionalInfo :=
        { m.nadAdditionalInfo with
          nadVTMstate := if vtmState then .LC_VTM_T_OVERTEMP else .LC_VTM_T_NORMAL } } record clients
    | _ => exact ⟨record,rfl,id⟩

/-- The manager with another static record. -/
def withRecord (m : Manager) (record : BroadcastInfoPlus) : Manager := withUnread m record m.mClients

section
variable (p : Platform) (m : Manager) (record : BroadcastInfoPlus) (name : ClientName)

private theorem names_withRecord : clientNames (withRecord m record) = clientNames m := rfl

private theorem register_blind (pState : LCState) (pStatus : LCStatus) :
    evaluateRegisterClient p (withRecord m record) name pState pStatus =
      (withRecord (evaluateRegisterClient p m name pState pStatus).1 record,
        (evaluateRegisterClient p m name pState pStatus).2) := by
  by_cases blank : cleanClientName p.charSigned name = []
  · rw [register_blank blank,register_blank blank]
  · by_cases kept : cleanClientName p.charSigned name ∈ clientNames m ∨ pStatus = .LC_STS_OK_CLIENT_ALREADY_REGISTERED
    · rw [register_kept blank kept,register_kept blank (by rw [names_withRecord]; exact kept)]; rfl
    · rw [not_or] at kept
      rw [register_new blank kept.1 kept.2,register_new blank (by rw [names_withRecord]; exact kept.1) kept.2]; rfl

private theorem unRegister_blind : lcUnRegisterClient p (withRecord m record) name =
    (withRecord (lcUnRegisterClient p m name).1 record,(lcUnRegisterClient p m name).2) := by
  by_cases blank : cleanClientName p.charSigned name = []
  · rw [unRegister_blank blank,unRegister_blank blank]
  · by_cases present : cleanClientName p.charSigned name ∈ clientNames m
    · rw [unRegister_present blank present,unRegister_present blank (by rw [names_withRecord]; exact present)]; rfl
    · rw [unRegister_absent blank present,unRegister_absent blank (by rw [names_withRecord]; exact present)]

private theorem stayActive_blind (v : LCStayActive) : evaluateLCStayActive (withRecord m record) name v =
    (withRecord (evaluateLCStayActive m name v).1 record,(evaluateLCStayActive m name v).2) := by
  by_cases known : name ∈ clientNames m
  · have known' : name ∈ clientNames (withRecord m record) := known
    by_cases allowed : StayActiveAllowed m.nadLifecycleState m.nadAdditionalInfo v
    · have allowed' : StayActiveAllowed (withRecord m record).nadLifecycleState
          (withRecord m record).nadAdditionalInfo v := allowed
      rw [stayActive_granted known allowed,stayActive_granted known' allowed']; rfl
    · have refused' : ¬ StayActiveAllowed (withRecord m record).nadLifecycleState
          (withRecord m record).nadAdditionalInfo v := allowed
      rw [stayActive_refused known allowed,stayActive_refused known' refused']
  · have unknown' : name ∉ clientNames (withRecord m record) := known
    rw [stayActive_unknown known,stayActive_unknown unknown']

end

/-- A call into the registry does the same whatever the static record is, but for the record it leaves. -/
theorem registry_blind (p : Platform) (m : Manager) (record : BroadcastInfoPlus) (c : Call)
    (registered : (c.op.registryCall p).isSome = true) :
    ∃ record', managerStep p (withRecord m record) c =
      (withRecord (managerStep p m c).1 record',(managerStep p m c).2) := by
  obtain ⟨op,env⟩ := c
  cases op with
  | dbus request =>
    cases request with
    | LC_RegisterClient name => exact ⟨record,by simp only [managerStep,dbusStep,lcRegisterClient,register_blind]⟩
    | LC_UnRegisterClient name => exact ⟨record,unRegister_blind p m record name⟩
    | LC_StayActive name v => exact ⟨record,by simp only [managerStep,dbusStep,lcStayActive,stayActive_blind]⟩
    | _ => cases registered
  | legato request =>
    cases request with
    | lifecycle_RegisterClient name =>
      let answered := leStateOf (evaluateRegisterClient p m (cString name) p.initState p.initStatus).2.1
      refine ⟨{ record with lcState := answered },?_⟩
      obtain ⟨clients,frame⟩ := @register_frame p m (cString name) p.initState p.initStatus
      simp only [managerStep,legatoStep,lifecycleRegisterClient,register_blind,frame]; rfl
    | lifecycle_LC_StayActive name v =>
      exact ⟨record,by simp only [managerStep,legatoStep,lifecycleLCStayActive,stayActive_blind]⟩
    | _ => cases registered
  | mcu update => cases registered

end LifecycleMgr
