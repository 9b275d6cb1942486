import LifecycleMgr.Manager

namespace LifecycleMgr
open Runs

/-- The state events on D-Bus, in order. -/
def stateEvents (outputs : List Output) : List (LCState × AdditionalLifecycleStateInfo) :=
  outputs.filterMap (fun o => match o with
    | .fireStateEvent state info => some (state,info)
    | _ => none)

/-- The last event so far, and whether a wakeup source or a CAN status has been reported since. -/
structure EventHistory where
  last : Option (LCState × AdditionalLifecycleStateInfo) := none
  sourceReported : Bool := false
  canReported : Bool := false
  deriving DecidableEq

def Op.reportsSource : Op → Bool
  | .mcu (.setPMWakeupSource _) => true
  | .mcu (.setSocketWakeupSource _) => true
  | _ => false

def Op.reportsCan : Op → Bool
  | .mcu (.setNWSync _) => true
  | _ => false

/-- The history after one more call. -/
def EventHistory.after (p : Platform) (h : EventHistory) (m : Manager) (c : Call) : EventHistory :=
  match (stateEvents ((manager p).out m c)).getLast? with
  | some event => { last := some event }
  | none =>
    { last := h.last
      sourceReported := h.sourceReported || c.op.reportsSource
      canReported := h.canReported || c.op.reportsCan }

/-- The manager, with the history of its events. -/
def withEvents (p : Platform) : Machine (Manager × EventHistory) Call Output :=
  (manager p).observe (EventHistory.after p)

/-- An event against a state and additional information of later. -/
structure Current (event : LCState × AdditionalLifecycleStateInfo) (h : EventHistory) (state : LCState)
    (info : AdditionalLifecycleStateInfo) : Prop where
  power : event.1 = state
  mainBatteryStatus : event.2.nadMainBatteryStatus = info.nadMainBatteryStatus
  vtmState : event.2.nadVTMstate = info.nadVTMstate
  wakeupSource : event.2.nadWakeupSource ≠ info.nadWakeupSource → h.sourceReported = true
  canStatus : event.2.nadCanStatus ≠ info.nadCanStatus → h.canReported = true

/-- `LC_GetPowerState_plus` answers, and the last event is current with its answer. -/
def LastEventCurrent (x : Manager × EventHistory) : Prop :=
  ∀ event, x.2.last = some event → ∃ state info,
    lcGetPowerStatePlus x.1 = [.reply (.getPowerStatePlus state info)] ∧ Current event x.2 state info

theorem events_published (outputs : List Output) : stateEvents (publications outputs) = stateEvents outputs := by
  rw [stateEvents,stateEvents,publications,List.filterMap_filter]
  refine List.filterMap_congr fun o _ => ?_
  cases o <;> rfl

theorem events_notify (m : Manager) :
    stateEvents (notifyAllRegisteredClientsNadStateInfo m).2 = [(m.nadLifecycleState,m.nadAdditionalInfo)] := by
  rw [notify_out]
  split <;> rfl

/-- An operation fires the event of the state it broadcasts, if it broadcasts. -/
theorem step_events (p : Platform) {m : Manager} (ready : m.noTCUPowerMode = true) (c : Call) :
    stateEvents ((manager p).out m c) = (broadcastOf m c.op).toList := by
  rw [← events_published]
  cases broadcasts : broadcastOf m c.op with
  | none => rw [(step_quiet p ready broadcasts).1]; rfl
  | some broadcast =>
    obtain ⟨bub,_,published⟩ := step_broadcast p ready broadcasts
    rw [published,events_notify]; rfl

/-- What an operation keeps without a broadcast: the source of a wakeup, or the CAN status. -/
theorem quietInfo_frame (m : Manager) (op : Op) :
    (quietInfo m op).nadMainBatteryStatus = m.nadAdditionalInfo.nadMainBatteryStatus ∧
      (quietInfo m op).nadVTMstate = m.nadAdditionalInfo.nadVTMstate ∧
      ((quietInfo m op).nadWakeupSource ≠ m.nadAdditionalInfo.nadWakeupSource → op.reportsSource = true) ∧
      ((quietInfo m op).nadCanStatus ≠ m.nadAdditionalInfo.nadCanStatus → op.reportsCan = true) := by
  cases op with
  | mcu update =>
    cases update with
    | setNWSync nwSync => cases nwSync <;> exact ⟨rfl,rfl,fun moved => absurd rfl moved,fun _ => rfl⟩
    | setPMWakeupSource wakeupReason | setSocketWakeupSource wakeupReason =>
      exact ⟨rfl,rfl,fun _ => rfl,fun moved => absurd rfl moved⟩
    | _ => exact ⟨rfl,rfl,fun moved => absurd rfl moved,fun moved => absurd rfl moved⟩
  | _ => exact ⟨rfl,rfl,fun moved => absurd rfl moved,fun moved => absurd rfl moved⟩

/-- The last event is current with the fields of the manager. -/
structure UpToDate (x : Manager × EventHistory) : Prop where
  ready : x.1.noTCUPowerMode = true
  current : ∀ event, x.2.last = some event → Current event x.2 x.1.nadLifecycleState x.1.nadAdditionalInfo

private theorem upToDate_next (p : Platform) (x : Manager × EventHistory) (c : Call) (upToDate : UpToDate x) :
    UpToDate ((withEvents p).next x c) := by
  obtain ⟨m,h⟩ := x
  have state := next_state p upToDate.ready c
  have info := next_info p upToDate.ready c
  refine ⟨next_ready p upToDate.ready c,?_⟩
  rw [withEvents,Machine.observe_next,EventHistory.after,step_events p upToDate.ready c]
  simp only [state,info]
  cases broadcasts : broadcastOf m c.op with
  | none =>
    intro event last
    obtain ⟨power,battery,vtm,source,can⟩ := upToDate.current event last
    obtain ⟨batteryKept,vtmKept,sourceMoved,canMoved⟩ := quietInfo_frame m c.op
    refine ⟨power,battery.trans batteryKept.symm,vtm.trans vtmKept.symm,?_,?_⟩
    · -- the source differs from the event's because of this call, or did so before it
      intro differs
      by_cases moved : (quietInfo m c.op).nadWakeupSource = m.nadAdditionalInfo.nadWakeupSource
      · exact Bool.or_eq_true_iff.mpr (.inl (source (fun same => differs (same.trans moved.symm))))
      · exact Bool.or_eq_true_iff.mpr (.inr (sourceMoved moved))
    · intro differs
      by_cases moved : (quietInfo m c.op).nadCanStatus = m.nadAdditionalInfo.nadCanStatus
      · exact Bool.or_eq_true_iff.mpr (.inl (can (fun same => differs (same.trans moved.symm))))
      · exact Bool.or_eq_true_iff.mpr (.inr (canMoved moved))
  | some broadcast =>
    intro event last
    obtain rfl : broadcast = event := Option.some.inj last
    exact ⟨rfl,rfl,rfl,fun differs => absurd rfl differs,fun differs => absurd rfl differs⟩

/-- In every run, the last event is what a query answers, but for a wakeup source and a CAN status that
    have been reported since. -/
theorem last_event_current (p : Platform) (info : AdditionalLifecycleStateInfo) (created : Bool) (run : List Call) :
    (withEvents p).Always LastEventCurrent (.started p info created,{}) run := by
  have start : UpToDate (.started p info created,{}) := ⟨rfl,fun event last => by cases last⟩
  have answered : ∀ x, UpToDate x → LastEventCurrent x := by
    intro x upToDate event last
    exact ⟨x.1.nadLifecycleState,x.1.nadAdditionalInfo,rfl,upToDate.current event last⟩
  exact Machine.always_mono _ answered (Machine.always_of_keeps _ (upToDate_next p) start run)

end LifecycleMgr
