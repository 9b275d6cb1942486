import LifecycleMgr.Manager

/-!
The client of the services of the MCU. When the service of the power modes
becomes available, the client subscribes a listener to each of its attributes and
has a receiver thread started; nothing is ever unsubscribed. A listener runs the
handler of its attribute at every change, and the handler calls the server. So
each change is handled as often as the service has become available, and exactly
once only if that has happened once (`handled_once_iff`).
-/
namespace LifecycleMgr
open Runs

/-- `Status_type_enum`, the kinds of reports of `Battery_Thermal_Status`. -/
inductive StatusType
  | Thermal_status | MainBattery_Status | Backup_Battery_Status
  | other (value : Int)
  deriving DecidableEq, Repr

/-- `Battery_Thermal_Status_t`. -/
structure BatteryThermalStatus where
  param : StatusType
  status : Int
  deriving DecidableEq, Repr

/-- `CommonAPI_Client`: the server it reports to and whether it has been given it, how many listeners it
    has subscribed to each attribute, and how many receiver threads it has had started. -/
structure CommonApiClient where
  manager : Manager
  commonApiServer : Bool
  socWakeupReasonListeners : Nat
  batteryThermalStatusListeners : Nat
  powerModeStatusListeners : Nat
  ntwComSyncListeners : Nat
  receivers : Nat
  deriving DecidableEq

/-- `init`, which the client runs before any proxy is available. -/
def CommonApiClient.init (m : Manager) : CommonApiClient where
  manager := m
  commonApiServer := true
  socWakeupReasonListeners := 0
  batteryThermalStatusListeners := 0
  powerModeStatusListeners := 0
  ntwComSyncListeners := 0
  receivers := 0

/-- A change of an attribute. -/
inductive Change
  | socWakeupReason (wakeupReason : UInt16)
  | batteryThermalStatus (report : BatteryThermalStatus)
  | powerModeStatusMcu (powerMode : UInt16)
  | ntwComSync (ntwSync : UInt8)
  deriving DecidableEq

/-- A change as one listener handles it, with what the local of its handler holds before any assignment. -/
structure Handling where
  change : Change
  serverBatteryStatus : Bool
  deriving DecidableEq

/-- What the client does: it runs handlers, which call the server, and it asks for receiver threads. -/
inductive ClientOutput
  | handles (change : Change)
  | calls (update : McuUpdate)
  | server (output : Output)
  | qlLpmPthread
  deriving DecidableEq

/-- A call of the server. -/
def callServer (p : Platform) (s : CommonApiClient) (update : McuUpdate) : CommonApiClient × List ClientOutput :=
  let executed := mcuStep p s.manager update
  ({ s with manager := executed.1 },.calls update :: executed.2.map .server)

def onPowerModeStatusMCUAttributeChanged (p : Platform) (s : CommonApiClient) (pPowerMode : UInt32) :
    CommonApiClient × List ClientOutput :=
  if s.commonApiServer then callServer p s (.setPowerMode pPowerMode.toInt32.toInt) else (s,[])

def onSOCWakeupReasonAttribute (p : Platform) (s : CommonApiClient) (pWakeupReason : UInt32) :
    CommonApiClient × List ClientOutput :=
  if s.commonApiServer then callServer p s (.setPMWakeupSource pWakeupReason) else (s,[])

/-- `serverBatteryStatus` comes in with what it holds before any assignment. -/
def onLCBatteryStatusMCUAttributeChanged (p : Platform) (s : CommonApiClient)
    (batteryThermalStatus : BatteryThermalStatus) (serverBatteryStatus : Bool) : CommonApiClient × List ClientOutput :=
  if batteryThermalStatus.param = .Thermal_status then
    let serverThermalStatus := if batteryThermalStatus.status = 0 then true else false
    if s.commonApiServer then callServer p s (.setLCVTMstate serverThermalStatus) else (s,[])
  else
    let serverBatteryStatus :=
      if batteryThermalStatus.param = .MainBattery_Status then
        if batteryThermalStatus.status = 0 then false else true
      else if batteryThermalStatus.param = .Backup_Battery_Status then false
      else serverBatteryStatus
    if s.commonApiServer then callServer p s (.setLCMainBattery serverBatteryStatus) else (s,[])

/-- The server is called whether it is known or not. `NTW_NOT_OK` is 1. -/
def onNTWSyncChanged (p : Platform) (s : CommonApiClient) (ntwSync : UInt8) : CommonApiClient × List ClientOutput :=
  callServer p s (.setNWSync (if ntwSync = 1 then false else true))

/-- The handler that a listener runs for a change. -/
def handle (p : Platform) (s : CommonApiClient) (h : Handling) : CommonApiClient × List ClientOutput :=
  let handled := match h.change with
    | .socWakeupReason wakeupReason => onSOCWakeupReasonAttribute p s wakeupReason.toUInt32
    | .batteryThermalStatus report => onLCBatteryStatusMCUAttributeChanged p s report h.serverBatteryStatus
    | .powerModeStatusMcu powerMode => onPowerModeStatusMCUAttributeChanged p s powerMode.toUInt32
    | .ntwComSync ntwSync => onNTWSyncChanged p s ntwSync
  (handled.1,.handles h.change :: handled.2)

/-! ### Proxies and listeners -/

/-- `ql_lpm_pthread`, with whether `pthread_create` succeeds and with the value it returns. -/
def qlLpmPthread (s : CommonApiClient) (created : Bool) : CommonApiClient × Int :=
  if created then ({ s with receivers := s.receivers + 1 },0) else (s,-1)

/-- The returned value of `ql_lpm_pthread` is only logged. -/
def socLifecycleProxyAvailable (s : CommonApiClient) (created : Bool) : CommonApiClient × List ClientOutput :=
  let subscribed :=
    { s with
      socWakeupReasonListeners := s.socWakeupReasonListeners + 1
      batteryThermalStatusListeners := s.batteryThermalStatusListeners + 1
      powerModeStatusListeners := s.powerModeStatusListeners + 1 }
  ((qlLpmPthread subscribed created).1,[.qlLpmPthread])

/-- Only logs. -/
def socLifecycleProxyNotAvailable (s : CommonApiClient) : CommonApiClient × List ClientOutput := (s,[])

def socNtwApiProxyAvailable (s : CommonApiClient) : CommonApiClient × List ClientOutput :=
  ({ s with ntwComSyncListeners := s.ntwComSyncListeners + 1 },[])

/-- The listeners that a change calls. -/
def CommonApiClient.listeners (s : CommonApiClient) : Change → Nat
  | .socWakeupReason _ => s.socWakeupReasonListeners
  | .batteryThermalStatus _ => s.batteryThermalStatusListeners
  | .powerModeStatusMcu _ => s.powerModeStatusListeners
  | .ntwComSync _ => s.ntwComSyncListeners

/-- A change as a number of listeners handle it; `locals` tells what the local of each holds. -/
def handlings (change : Change) (locals : Nat → Bool) (listeners : Nat) : List Handling :=
  (List.range listeners).map (fun n => ⟨change,locals n⟩)

/-- The listeners, called one after the other. -/
def callListeners (p : Platform) : List Handling → CommonApiClient → CommonApiClient × List ClientOutput
  | [],s => (s,[])
  | h :: rest,s =>
    let first := handle p s h
    let others := callListeners p rest first.1
    (others.1,first.2 ++ others.2)

/-- What reaches the client from the middleware. -/
inductive Notification
  | socLifecycleProxyAvailable (created : Bool)
  | socLifecycleProxyNotAvailable
  | socNtwApiProxyAvailable
  | changed (change : Change) (locals : Nat → Bool)

def clientStep (p : Platform) (s : CommonApiClient) : Notification → CommonApiClient × List ClientOutput
  | .socLifecycleProxyAvailable created => socLifecycleProxyAvailable s created
  | .socLifecycleProxyNotAvailable => socLifecycleProxyNotAvailable s
  | .socNtwApiProxyAvailable => socNtwApiProxyAvailable s
  | .changed change locals => callListeners p (handlings change locals (s.listeners change)) s

def commonApiClient (p : Platform) : Machine CommonApiClient Notification ClientOutput := ⟨clientStep p⟩

/-- The call that a report of the battery or of the temperature leads to. Only a report of the temperature
    is told apart from the others before the call. -/
def BatteryThermalStatus.update (report : BatteryThermalStatus) (garbage : Bool) : McuUpdate :=
  match report.param with
  | .Thermal_status => .setLCVTMstate (report.status = 0)
  | .MainBattery_Status => .setLCMainBattery (report.status ≠ 0)
  | .Backup_Battery_Status => .setLCMainBattery false
  | .other _ => .setLCMainBattery garbage

/-- The call of the server that a handler makes. -/
def Handling.update (h : Handling) : McuUpdate :=
  match h.change with
  | .socWakeupReason wakeupReason => .setPMWakeupSource wakeupReason.toUInt32
  | .batteryThermalStatus report => report.update h.serverBatteryStatus
  | .powerModeStatusMcu powerMode => .setPowerMode powerMode.toUInt32.toInt32.toInt
  | .ntwComSync ntwSync => .setNWSync (ntwSync ≠ 1)

section
variable {p : Platform} {s : CommonApiClient} (known : s.commonApiServer = true)
include known

theorem battery_handled (report : BatteryThermalStatus) (garbage : Bool) :
    onLCBatteryStatusMCUAttributeChanged p s report garbage = callServer p s (report.update garbage) := by
  obtain ⟨param,status⟩ := report
  unfold onLCBatteryStatusMCUAttributeChanged BatteryThermalStatus.update
  by_cases zero : status = 0
  · cases param <;> simp [known,zero]
  · cases param <;> simp [known,zero]

/-- A handler makes its one call of the server. -/
theorem handle_eq (h : Handling) : handle p s h =
    ((callServer p s h.update).1,.handles h.change :: (callServer p s h.update).2) := by
  obtain ⟨change,serverBatteryStatus⟩ := h
  cases change with
  | socWakeupReason wakeupReason | powerModeStatusMcu powerMode =>
    simp only [handle,onSOCWakeupReasonAttribute,onPowerModeStatusMCUAttributeChanged,known,if_true,Handling.update]
  | batteryThermalStatus report => simp only [handle,battery_handled known,Handling.update]
  | ntwComSync ntwSync =>
    by_cases notOk : ntwSync = 1
    · simp [handle,onNTWSyncChanged,Handling.update,notOk]
    · simp [handle,onNTWSyncChanged,Handling.update,notOk]

/-- Calling listeners changes nothing of the client but the server. -/
theorem callListeners_frame (handlings : List Handling) :
    ∃ m, (callListeners p handlings s).1 = { s with manager := m } := by
  induction handlings generalizing s with
  | nil => exact ⟨s.manager,rfl⟩
  | cons h rest ih =>
    have first := congrArg Prod.fst (handle_eq (p := p) known h)
    obtain ⟨m,others⟩ := @ih (handle p s h).1 (by rw [first]; exact known)
    exact ⟨m,others.trans (by rw [first]; rfl)⟩

end

/-! ### How often a change is handled -/

/-- The changes handled, in order. -/
def handled (outputs : List ClientOutput) : List Change :=
  outputs.filterMap (fun o => match o with
    | .handles change => some change
    | _ => none)

/-- The calls of the server, in order. -/
def serverCalls (outputs : List ClientOutput) : List McuUpdate :=
  outputs.filterMap (fun o => match o with
    | .calls update => some update
    | _ => none)

/-- How often a receiver thread was asked for. -/
def receiverRequests (outputs : List ClientOutput) : Nat := outputs.count .qlLpmPthread

def Notification.isAvailable : Notification → Bool
  | .socLifecycleProxyAvailable _ => true
  | _ => false

/-- A handler runs once, calls the server once and asks for no thread. -/
private theorem handle_outputs (p : Platform) {s : CommonApiClient} (known : s.commonApiServer = true) (h : Handling) :
    handled (handle p s h).2 = [h.change] ∧ serverCalls (handle p s h).2 = [h.update] ∧
      receiverRequests (handle p s h).2 = 0 := by
  have ran : (handle p s h).2 =
      .handles h.change :: .calls h.update :: (mcuStep p s.manager h.update).2.map .server :=
    congrArg Prod.snd (handle_eq known h)
  have handledNone : handled ((mcuStep p s.manager h.update).2.map .server) = [] := by
    rw [handled,List.filterMap_map,List.filterMap_eq_nil_iff]
    exact fun _ _ => rfl
  have callsNone : serverCalls ((mcuStep p s.manager h.update).2.map .server) = [] := by
    rw [serverCalls,List.filterMap_map,List.filterMap_eq_nil_iff]
    exact fun _ _ => rfl
  have asksNone : receiverRequests ((mcuStep p s.manager h.update).2.map .server) = 0 := by
    simp [receiverRequests,List.count_eq_zero]
  rw [ran]
  exact ⟨congrArg (_ :: ·) handledNone,congrArg (_ :: ·) callsNone,asksNone⟩

/-- Every listener handles the change. -/
theorem listeners_outputs (p : Platform) (handlings : List Handling) {s : CommonApiClient}
    (known : s.commonApiServer = true) :
    handled (callListeners p handlings s).2 = handlings.map Handling.change ∧
      serverCalls (callListeners p handlings s).2 = handlings.map Handling.update ∧
      receiverRequests (callListeners p handlings s).2 = 0 := by
  induction handlings generalizing s with
  | nil => exact ⟨rfl,rfl,rfl⟩
  | cons h rest ih =>
    obtain ⟨handledFirst,callsFirst,asksFirst⟩ := handle_outputs p known h
    have next := congrArg Prod.fst (handle_eq (p := p) known h)
    obtain ⟨handledOthers,callsOthers,asksOthers⟩ := @ih (handle p s h).1 (by rw [next]; exact known)
    rw [callListeners]
    refine ⟨?_,?_,?_⟩
    · rw [handled,List.filterMap_append,← handled,← handled,handledFirst,handledOthers]; rfl
    · rw [serverCalls,List.filterMap_append,← serverCalls,← serverCalls,callsFirst,callsOthers]; rfl
    · rw [receiverRequests,List.count_append,← receiverRequests,← receiverRequests,asksFirst,asksOthers]

/-- A notification adds a listener of the power mode and a request for a thread if the service
    has become available, and nothing else. -/
private theorem notification_counts (p : Platform) {s : CommonApiClient} (known : s.commonApiServer = true)
    (i : Notification) :
    ((commonApiClient p).next s i).commonApiServer = true ∧
      ((commonApiClient p).next s i).powerModeStatusListeners =
        s.powerModeStatusListeners + (if i.isAvailable then 1 else 0) ∧
      receiverRequests ((commonApiClient p).out s i) = if i.isAvailable then 1 else 0 := by
  cases i with
  | socLifecycleProxyAvailable created => cases created <;> exact ⟨known,rfl,rfl⟩
  | socLifecycleProxyNotAvailable | socNtwApiProxyAvailable => exact ⟨known,rfl,rfl⟩
  | changed change locals =>
    let called := handlings change locals (s.listeners change)
    obtain ⟨m,frame⟩ := callListeners_frame (p := p) known called
    obtain ⟨_,_,asks⟩ := listeners_outputs p called known
    show (callListeners p called s).1.commonApiServer = true ∧
      (callListeners p called s).1.powerModeStatusListeners = _ ∧ _
    rw [frame]
    exact ⟨known,rfl,asks⟩

/-- There are as many listeners, and as many requests for threads, as the service has become available. -/
theorem run_counts (p : Platform) {s : CommonApiClient} (known : s.commonApiServer = true) (run : List Notification) :
    ((commonApiClient p).run s run).commonApiServer = true ∧
      ((commonApiClient p).run s run).powerModeStatusListeners =
        s.powerModeStatusListeners + run.countP Notification.isAvailable ∧
      receiverRequests ((commonApiClient p).outputs s run) = run.countP Notification.isAvailable := by
  induction run generalizing s with
  | nil => exact ⟨known,rfl,rfl⟩
  | cons i rest ih =>
    obtain ⟨stillKnown,listeners,asks⟩ := notification_counts p known i
    obtain ⟨knownLater,listenersLater,asksLater⟩ := ih stillKnown
    rw [Machine.run,Machine.outputs,List.countP_cons]
    refine ⟨knownLater,?_,?_⟩
    · rw [listenersLater,listeners]
      omega
    · rw [receiverRequests,List.count_append,← receiverRequests,← receiverRequests,asks,asksLater]
      omega

/-- After any notifications a change of the power mode is handled exactly once, if the service has been
    available, and a receiver thread has been asked for at most once, exactly when the service has become
    available at most once. -/
theorem handled_once_iff (p : Platform) (m : Manager) (run : List Notification) (powerMode : UInt16)
    (locals : Nat → Bool) :
    let s := (commonApiClient p).run (.init m) run
    let outputs := (commonApiClient p).out s (.changed (.powerModeStatusMcu powerMode) locals)
    ((run.any Notification.isAvailable = true →
          handled outputs = [.powerModeStatusMcu powerMode] ∧
            serverCalls outputs = [.setPowerMode powerMode.toUInt32.toInt32.toInt]) ∧
        receiverRequests ((commonApiClient p).outputs (.init m) run) ≤ 1) ↔
      run.countP Notification.isAvailable ≤ 1 := by
  intro s outputs
  obtain ⟨known,listeners,asks⟩ := run_counts p (s := .init m) rfl run
  obtain ⟨handledAll,callsAll,_⟩ := listeners_outputs p
    (handlings (.powerModeStatusMcu powerMode) locals s.powerModeStatusListeners) known
  have listenersCount : s.powerModeStatusListeners = run.countP Notification.isAvailable :=
    listeners.trans (Nat.zero_add _)
  rw [asks]
  constructor
  · exact And.right
  · intro atMostOnce
    refine ⟨fun available => ?_,atMostOnce⟩
    have once : s.powerModeStatusListeners = 1 := by
      obtain ⟨i,member,isAvailable⟩ := List.any_eq_true.mp available
      have atLeastOnce : 0 < run.countP Notification.isAvailable := List.countP_pos_iff.mpr ⟨i,member,isAvailable⟩
      omega
    rw [once] at handledAll callsAll
    refine ⟨Eq.trans ?_ handledAll,Eq.trans ?_ callsAll⟩
    · show handled (callListeners p (handlings _ locals s.powerModeStatusListeners) s).2 = _
      rw [once]
    · show serverCalls (callListeners p (handlings _ locals s.powerModeStatusListeners) s).2 = _
      rw [once]

/-- The service becomes available, is lost and becomes available again. -/
def reconnection : List Notification :=
  [.socLifecycleProxyAvailable true,.socLifecycleProxyNotAvailable,.socLifecycleProxyAvailable true]

/-- A change of the power mode is then handled twice, and a second thread has been asked for. -/
theorem handled_twice :
    let start := CommonApiClient.init (.constructed samplePlatform sampleInfo)
    let s := (commonApiClient samplePlatform).run start reconnection
    let outputs := (commonApiClient samplePlatform).out s (.changed (.powerModeStatusMcu 6) (fun _ => false))
    ¬ ((reconnection.any Notification.isAvailable = true →
          handled outputs = [.powerModeStatusMcu 6] ∧
            serverCalls outputs = [.setPowerMode (6 : UInt16).toUInt32.toInt32.toInt]) ∧
        receiverRequests ((commonApiClient samplePlatform).outputs start reconnection) ≤ 1) := by
  decide

end LifecycleMgr
