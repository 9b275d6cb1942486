import LifecycleMgr.Signals
import LifecycleMgr.Threads

namespace LifecycleMgr
open Runs

/-- A reason reported by the power manager or on the netlink socket. -/
inductive WakeupReport
  | pm (wakeupReason : UInt32)
  | socket (wakeupReason : UInt32)
  deriving DecidableEq

/-- The setter of the channel. -/
def WakeupReport.set (m : Manager) : WakeupReport → Manager
  | .pm wakeupReason => setPMWakeupSource m wakeupReason
  | .socket wakeupReason => setSocketWakeupSource m wakeupReason

/-- The source that the setter assigns, if it assigns one. -/
def WakeupReport.source (state : LCState) : WakeupReport → Option LCWakeupSource
  | .pm wakeupReason => pmWakeupSource state wakeupReason
  | .socket wakeupReason => socketWakeupSource state wakeupReason

/-- The states in which a wakeup by a timer has a source. -/
def TimerState (state : LCState) : Prop := state = .NAD_LISTEN_1 ∨ state = .NAD_SHUTDOWN ∨ state = .NAD_LISTEN_3

/-- The reasons with a source: on the channel of the power manager five, and the timer (13) in some states; on the
    socket all but the timer (3), and the timer in the same states. -/
def WakeupReport.Assigns (state : LCState) : WakeupReport → Prop
  | .pm wakeupReason => wakeupReason.toNat ∈ [1,3,7,9,12] ∨ wakeupReason.toNat = 13 ∧ TimerState state
  | .socket wakeupReason => wakeupReason.toNat ≠ 3 ∨ TimerState state

instance (state : LCState) : Decidable (TimerState state) := inferInstanceAs (Decidable (_ ∨ _))

instance (state : LCState) : ∀ r : WakeupReport, Decidable (r.Assigns state)
  | .pm _ => inferInstanceAs (Decidable (_ ∨ _))
  | .socket _ => inferInstanceAs (Decidable (_ ∨ _))

private theorem timer_iff (state : LCState) :
    (if state = .NAD_LISTEN_1 ∨ state = .NAD_SHUTDOWN then some LCWakeupSource.WAKE_UP_LM1_RTC
      else if state = .NAD_LISTEN_3 then some .WAKE_UP_LM3_RTC else none).isSome = true ↔ TimerState state := by
  unfold TimerState
  by_cases lm1 : state = .NAD_LISTEN_1 ∨ state = .NAD_SHUTDOWN
  · rw [if_pos lm1]
    refine iff_of_true rfl ?_
    rcases lm1 with listen | shutdown
    · exact .inl listen
    · exact .inr (.inl shutdown)
  · rw [if_neg lm1,← or_assoc]
    by_cases lm3 : state = .NAD_LISTEN_3
    · rw [if_pos lm3]
      exact iff_of_true rfl (.inr lm3)
    · rw [if_neg lm3]
      refine iff_of_false Bool.false_ne_true ?_
      rintro (lm1' | lm3')
      · exact lm1 lm1'
      · exact lm3 lm3'

theorem assigns_iff (state : LCState) (r : WakeupReport) : r.Assigns state ↔ (r.source state).isSome = true := by
  cases r with
  | pm wakeupReason =>
    simp only [WakeupReport.Assigns,WakeupReport.source,pmWakeupSource]
    split
    case h_5 isTimer => rw [timer_iff]; simp [isTimer]
    all_goals simp_all
  | socket wakeupReason =>
    simp only [WakeupReport.Assigns,WakeupReport.source,socketWakeupSource]
    split
    case h_4 isTimer => rw [timer_iff]; simp [isTimer]
    all_goals simp_all

/-- Only the acceleration reported by the power manager is given as the accelerometer. -/
theorem source_accelerometer {state : LCState} {r : WakeupReport} {source : LCWakeupSource}
    (assigned : r.source state = some source) : source = .WAKE_UP_ACCELEROMETER ↔ r = .pm 9 := by
  cases r with
  | pm wakeupReason =>
    have reason : wakeupReason = 9 ↔ wakeupReason.toNat = 9 := UInt32.toNat_inj.symm
    rw [WakeupReport.pm.injEq,reason]
    simp only [WakeupReport.source,pmWakeupSource] at assigned
    split at assigned
    case h_5 isTimer =>
      split at assigned
      · cases assigned
        simp [isTimer]
      · split at assigned
        · cases assigned
          simp [isTimer]
        · cases assigned
    all_goals cases assigned <;> simp_all
  | socket wakeupReason =>
    refine iff_of_false ?_ (fun equal => by cases equal)
    rintro rfl
    simp only [WakeupReport.source,socketWakeupSource] at assigned
    split at assigned
    case h_4 isTimer =>
      split at assigned
      · simp at assigned
      · split at assigned <;> simp at assigned
    all_goals simp at assigned

theorem set_source (m : Manager) (r : WakeupReport) : (r.set m).nadAdditionalInfo.nadWakeupSource =
    (r.source m.nadLifecycleState).getD m.nadAdditionalInfo.nadWakeupSource := by
  cases r <;> rfl

/-- After the report the source is the same in any two managers in the power state. -/
def WakeupReport.Determines (state : LCState) (r : WakeupReport) : Prop :=
  ∀ m m' : Manager, m.nadLifecycleState = state → m'.nadLifecycleState = state →
    (r.set m).nadAdditionalInfo.nadWakeupSource = (r.set m').nadAdditionalInfo.nadWakeupSource

/-- A manager to compare others with: its power state and its source are given. -/
def reportedBefore (state : LCState) (source : LCWakeupSource) : Manager :=
  { Manager.constructed samplePlatform { sampleInfo with nadWakeupSource := source } with nadLifecycleState := state }

theorem determines_iff (state : LCState) (r : WakeupReport) : r.Determines state ↔ r.Assigns state := by
  rw [assigns_iff]
  constructor
  · intro determines
    by_contra unassigned
    have none : r.source state = none := Option.not_isSome_iff_eq_none.mp unassigned
    have same := determines (reportedBefore state .WAKE_UP_SMS) (reportedBefore state .WAKE_UP_CAN) rfl rfl
    rw [set_source,set_source,show (reportedBefore state .WAKE_UP_SMS).nadLifecycleState = state from rfl,
      show (reportedBefore state .WAKE_UP_CAN).nadLifecycleState = state from rfl,none] at same
    cases same
  · intro assigned m m' power power'
    obtain ⟨source,assigns⟩ := Option.isSome_iff_exists.mp assigned
    rw [set_source,set_source,power,power',assigns]; rfl

/-- The windows begun, by their seconds. -/
def timers (outputs : List Output) : List Nat :=
  outputs.filterMap (fun o => match o with
    | .startTCUOnlyTimer timerVal => some timerVal
    | _ => none)

/-- The operation is the TCU-only power mode. -/
def Op.OpensWindow : Op → Prop
  | .mcu (.setPowerMode powerMode) => PowerModeStates.ofInt powerMode = some .SYSTEM_LC_TCU_ONLY
  | _ => False

instance : ∀ op : Op, Decidable op.OpensWindow
  | .mcu (.setPowerMode powerMode) =>
    inferInstanceAs (Decidable (PowerModeStates.ofInt powerMode = some .SYSTEM_LC_TCU_ONLY))
  | .mcu (.setNWSync _) | .mcu (.setPMWakeupSource _) | .mcu (.setSocketWakeupSource _)
  | .mcu (.setLCMainBattery _) | .mcu (.setLCVTMstate _) | .dbus _ | .legato _ => isFalse id

private theorem timers_signals (outputs : List Output) : timers (signals outputs) = timers outputs := by
  rw [timers,timers,signals,List.filterMap_filter]
  refine List.filterMap_congr fun o _ => ?_
  cases o <;> rfl

/-- Only the TCU-only mode begins a window, of the length that the state asks for. -/
theorem timers_call (p : Platform) {m : Manager} (ready : m.noTCUPowerMode = true) (c : Call) :
    (c.op.OpensWindow → timers ((manager p).out m c) = [windowLength m]) ∧
      (¬ c.op.OpensWindow → timers ((manager p).out m c) = []) := by
  rw [← timers_signals,step_signals p ready]
  obtain ⟨op,env⟩ := c
  have emergency : ∀ state, timers (triggerLCEmergency env state).1 = [] := by
    intro state
    cases state <;> rfl
  have stayActive : ∀ name v, timers (evaluateLCStayActive m name v).2.1 = [] := by
    intro name v
    rw [stayActive_sent]
    split <;> rfl
  cases op with
  | dbus request =>
    refine ⟨False.elim,fun _ => ?_⟩
    cases request with
    | LC_Emergency name state => exact emergency state
    | LC_StayActive name v => exact stayActive name v
    | LC_Wakeup =>
      show timers (if inListen m.nadLifecycleState then [sendPendingAction .STAY_ACTIVE] else []) = []
      split <;> rfl
    | _ => rfl
  | legato request =>
    refine ⟨False.elim,fun _ => ?_⟩
    cases request with
    | lifecycle_LC_Emergency name state => exact emergency (leLcStateToCapiLcState state)
    | lifecycle_LC_StayActive name v => exact stayActive (cString name) (leLcStayActiveToCapiLcStayActive v)
    | _ => rfl
  | mcu update =>
    cases update with
    | setPowerMode powerMode =>
      show (PowerModeStates.ofInt powerMode = some .SYSTEM_LC_TCU_ONLY → timers (modeSignals m powerMode) = _) ∧
        (PowerModeStates.ofInt powerMode ≠ some .SYSTEM_LC_TCU_ONLY → timers (modeSignals m powerMode) = [])
      unfold modeSignals
      constructor
      · intro opens
        rw [opens]; rfl
      · intro closed
        split
        · exact absurd ‹_› closed
        · split <;> rfl
        · rfl
    | _ => exact ⟨False.elim,fun _ => rfl⟩

private theorem timers_write (m : Manager) : timers (lcWakeupWrite m).2 = [] := by
  rw [← timers_signals,lcWakeupWrite,signals_append,signals_notify]; rfl

/-- Cut into the steps of its thread, an operation begins the same windows at its first step. -/
theorem timers_callStep (p : Platform) (s : Threads) (c : Call) :
    timers (callStep p s c).2 = timers ((manager p).out s.manager c) := by
  have append : ∀ front back : List Output, timers (front ++ back) = timers front ++ timers back :=
    fun _ _ => List.filterMap_append
  obtain ⟨op,env⟩ := c
  cases op with
  | dbus request =>
    cases request with
    | LC_Wakeup =>
      show timers (lcWakeupTest s.manager).2.1 = timers (lcWakeup s.manager).2
      by_cases inCall : (lcWakeupTest s.manager).2.2 = true
      · rw [lcWakeup,if_pos inCall,append,timers_write,List.append_nil]
      · rw [lcWakeup,if_neg inCall]
    | _ => rfl
  | legato request => rfl
  | mcu update =>
    cases update with
    | setPowerMode powerMode =>
      show timers (setPowerModeEntry p s.manager powerMode).2.1 = timers (setPowerMode p s.manager powerMode).2
      unfold setPowerMode
      simp only
      split
      · rw [append]
        exact (List.append_nil _).symm
      · rfl
    | _ => rfl

/-- The action is a TCU-only mode that the thread of the MCU client takes. -/
def OpensWindow (s : Threads) : Action → Prop
  | .call c => Enabled s (.call c) ∧ c.op.OpensWindow
  | _ => False

instance (s : Threads) : ∀ a, Decidable (OpensWindow s a)
  | .call c => inferInstanceAs (Decidable (Enabled s (.call c) ∧ c.op.OpensWindow))
  | .wakeupWrite | .tcuOnlyExpiry => isFalse id

/-- Under all interleavings, too, only the TCU-only mode begins a window. -/
theorem timers_action (p : Platform) {s : Threads} (ready : s.manager.noTCUPowerMode = true) (a : Action) :
    (OpensWindow s a → timers ((threads p).out s a) = [windowLength s.manager]) ∧
      (¬ OpensWindow s a → timers ((threads p).out s a) = []) := by
  show (_ → timers (actionStep p s a).2 = _) ∧ (_ → timers (actionStep p s a).2 = _)
  rcases action_cases p s a with
    ⟨disabled,stays⟩ | ⟨c,rfl,enabled,called⟩ | ⟨rfl,_,written⟩ | ⟨rfl,_,expired⟩
  · rw [stays]
    refine ⟨fun window => ?_,fun _ => rfl⟩
    cases a with
    | call c => exact absurd window.1 disabled
    | wakeupWrite | tcuOnlyExpiry => exact window.elim
  · rw [called,timers_callStep]
    obtain ⟨opens,closed⟩ := timers_call p ready c
    exact ⟨fun window => opens window.2,fun noWindow => closed (fun window => noWindow ⟨enabled,window⟩)⟩
  · rw [written]
    exact ⟨False.elim,fun _ => timers_write s.manager⟩
  · rw [expired]
    exact ⟨False.elim,fun _ => rfl⟩

/-- The report that an operation is, if it is one. -/
def Op.wakeupReport : Op → Option WakeupReport
  | .mcu (.setPMWakeupSource wakeupReason) => some (.pm wakeupReason)
  | .mcu (.setSocketWakeupSource wakeupReason) => some (.socket wakeupReason)
  | _ => none

/-- A call changes the source by its report, if it is one. -/
theorem next_source (p : Platform) {m : Manager} (ready : m.noTCUPowerMode = true) (c : Call) :
    ((manager p).next m c).nadAdditionalInfo.nadWakeupSource = match c.op.wakeupReport with
      | some r => (r.source m.nadLifecycleState).getD m.nadAdditionalInfo.nadWakeupSource
      | none => m.nadAdditionalInfo.nadWakeupSource := by
  rw [next_info p ready]
  obtain ⟨op,env⟩ := c
  cases op with
  | dbus request =>
    cases request with
    | LC_Wakeup =>
      simp only [broadcastOf]
      cases wokenState m.nadLifecycleState <;> rfl
    | _ => rfl
  | legato request => rfl
  | mcu update =>
    cases update with
    | setPowerMode powerMode =>
      simp only [broadcastOf]
      cases mappedState powerMode <;> rfl
    | setNWSync nwSync => cases nwSync <;> rfl
    | _ => rfl

theorem source_callStep (p : Platform) {s : Threads} (ready : s.manager.noTCUPowerMode = true) (c : Call) :
    (callStep p s c).1.manager.nadAdditionalInfo.nadWakeupSource = match c.op.wakeupReport with
      | some r => (r.source s.manager.nadLifecycleState).getD s.manager.nadAdditionalInfo.nadWakeupSource
      | none => s.manager.nadAdditionalInfo.nadWakeupSource := by
  rw [callStep_manager]
  split
  · rename_i inCall
    rw [inCall.1]; rfl
  · exact next_source p ready c

end LifecycleMgr
