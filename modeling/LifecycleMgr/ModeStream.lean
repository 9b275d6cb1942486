import LifecycleMgr.Runs
import LifecycleMgr.PowerMode

/-!
Streams of power modes. `setPowerMode` keeps the flag `noTCUPowerMode` between
its calls and assigns its local `dbusPowerMode` in some cases of its switch only.
The flag is up again after every call and the local is assigned whenever it is
used, so a stream of power modes does what the table of the switch says
(`modeTable`), whatever the values and their order (`stream_follows_table`).
-/
namespace LifecycleMgr
open Runs

/-- The server while it is told nothing but power modes. -/
def modeStream (p : Platform) : Machine Manager Int Output := ⟨setPowerMode p⟩

/-- Whether `setPowerMode` goes on to `evaluateAndBroadcastPowerMode`. -/
def Evaluates (m : Manager) (powerMode : Int) : Prop :=
  PowerModeStates.ofInt powerMode ≠ some .SYSTEM_LC_STAY_ALIVE_SERVICES ∧
    (powerModeSwitch m powerMode).1.noTCUPowerMode = true

/-- It does so only with a `dbusPowerMode` that the switch has assigned. -/
def EvaluatesAssigned (m : Manager) (powerMode : Int) : Prop :=
  Evaluates m powerMode → (powerModeSwitch m powerMode).2.2.isSome = true

/-- A state broadcast to the clients, or a call to the MCU. -/
inductive ModeEvent
  | broadcast (state : LCState)
  | mcu (call : Output)
  deriving DecidableEq

/-- Reports and timers are not looked at. -/
def modeEvent : Output → Option ModeEvent
  | .fireStateEvent state _ => some (.broadcast state)
  | .updateTcuParameters param => some (.mcu (.updateTcuParameters param))
  | .updateEmergencyCallStatus status => some (.mcu (.updateEmergencyCallStatus status))
  | .setSocPeriodicWakeUpTimer timer => some (.mcu (.setSocPeriodicWakeUpTimer timer))
  | _ => none

/-- The states of the broadcasts, in order. -/
def broadcastStates (outputs : List Output) : List LCState :=
  outputs.filterMap (fun o => match o with
    | .fireStateEvent state _ => some state
    | _ => none)

/-- The power state under a stream of power modes, as the table of the switch has it: a mapped mode
    is broadcast, and the TCU-only mode takes the wish to stay active back after its broadcast;
    the stay-alive mode asks the TCU to stay active unless the state is there already. -/
def modeTable : Machine LCState Int ModeEvent where
  step state powerMode :=
    match mappedState powerMode with
    | some mapped =>
      (mapped,.broadcast mapped ::
        if PowerModeStates.ofInt powerMode = some .SYSTEM_LC_TCU_ONLY then
          [.mcu (sendPendingAction .STAY_INACTIVE)] else [])
    | none =>
      (state,
        if PowerModeStates.ofInt powerMode = some .SYSTEM_LC_STAY_ALIVE_SERVICES ∧
            state ≠ .NAD_STAY_ALIVE_SERVICES then [.mcu (sendPendingAction .STAY_ACTIVE)] else [])

private theorem notify_events (m : Manager) :
    (notifyAllRegisteredClientsNadStateInfo m).2.filterMap modeEvent = [.broadcast m.nadLifecycleState] := by
  rw [notify_out]
  split <;> rfl

/-- What a mapped power mode puts out: the broadcast and, after a window, the end of the wish to stay active. -/
private theorem mapped_events (p : Platform) {m : Manager} (ready : m.noTCUPowerMode = true) {powerMode : Int}
    {state : LCState} (mapped : mappedState powerMode = some state) :
    (setPowerMode p m powerMode).2.filterMap modeEvent = .broadcast state ::
      if state = .NAD_STAY_ALIVE_SERVICES then [.mcu (sendPendingAction .STAY_INACTIVE)] else [] := by
  obtain ⟨bub,entered⟩ := entry_mapped p ready mapped
  rw [setPowerMode,entered]
  unfold evaluateAndBroadcastPowerMode
  by_cases window : state = .NAD_STAY_ALIVE_SERVICES
  · simp only [if_pos window,Option.isSome_some,if_true,List.filterMap_append,notify_events]
    rfl
  · simp only [if_neg window,Option.isSome_none,Bool.false_eq_true,if_false,notify_events]

private theorem unmapped_events (p : Platform) {m : Manager} (ready : m.noTCUPowerMode = true) {powerMode : Int}
    (unmapped : mappedState powerMode = none) :
    (setPowerMode p m powerMode).2.filterMap modeEvent =
      if PowerModeStates.ofInt powerMode = some .SYSTEM_LC_STAY_ALIVE_SERVICES ∧
          m.nadLifecycleState ≠ .NAD_STAY_ALIVE_SERVICES then [.mcu (sendPendingAction .STAY_ACTIVE)] else [] := by
  rw [setPowerMode,entry_unmapped p ready unmapped]
  split <;> rfl

theorem mode_next_ready (p : Platform) {m : Manager} (ready : m.noTCUPowerMode = true) (powerMode : Int) :
    ((modeStream p).next m powerMode).noTCUPowerMode = true := by
  obtain ⟨bub,record,entered⟩ := entry_frame p ready powerMode
  exact (congrArg Manager.noTCUPowerMode entered).trans ready

/-- The switch leaves `dbusPowerMode` unassigned for the modes that are not evaluated only. -/
theorem evaluates_assigned (m : Manager) (powerMode : Int) : EvaluatesAssigned m powerMode := by
  rintro ⟨notStayAlive,up⟩
  unfold powerModeSwitch at up ⊢
  cases mode : PowerModeStates.ofInt powerMode with
  | none => simp [mode] at up
  | some mode' =>
    rw [mode] at notStayAlive up
    cases mode' with
    | SYSTEM_LC_STAY_ALIVE_SERVICES => exact absurd rfl notStayAlive
    | SYSTEM_LC_CAN_NETWORK_SLEEP_STATUS | SYSTEM_LC_GO_TO_SLEEP_AGAIN => simp [dbusPowerMode] at up
    | _ => rfl

/-- The server follows the table. -/
structure FollowsTable (m : Manager) (state : LCState) : Prop where
  ready : m.noTCUPowerMode = true
  power : m.nadLifecycleState = state

theorem table_next (p : Platform) (m : Manager) (state : LCState) (powerMode : Int) (follows : FollowsTable m state) :
    FollowsTable (((modeStream p).view modeEvent).next m powerMode) (modeTable.next state powerMode) ∧
      ((modeStream p).view modeEvent).out m powerMode = modeTable.out state powerMode := by
  obtain ⟨ready,rfl⟩ := follows
  obtain ⟨bub,record,entered⟩ := entry_frame p ready powerMode
  have power : ((modeStream p).next m powerMode).nadLifecycleState = (mappedState powerMode).getD m.nadLifecycleState :=
    congrArg Manager.nadLifecycleState entered
  show FollowsTable ((modeStream p).next m powerMode) (modeTable.step m.nadLifecycleState powerMode).1 ∧
    (setPowerMode p m powerMode).2.filterMap modeEvent = (modeTable.step m.nadLifecycleState powerMode).2
  simp only [modeTable]
  cases mapped : mappedState powerMode with
  | none =>
    rw [mapped] at power
    exact ⟨⟨mode_next_ready p ready powerMode,power⟩,unmapped_events p ready mapped⟩
  | some state =>
    rw [mapped] at power
    refine ⟨⟨mode_next_ready p ready powerMode,power⟩,?_⟩
    rw [mapped_events p ready mapped]
    simp only [mapped_tcuOnly mapped]

private theorem table_power (state : LCState) (inputs : List Int) :
    modeTable.run state inputs = ((inputs.filterMap mappedState).getLast?).getD state := by
  induction inputs generalizing state with
  | nil => rfl
  | cons powerMode rest ih =>
    rw [Machine.run,ih,List.filterMap_cons]
    simp only [Machine.next,modeTable]
    cases mappedState powerMode with
    | none => rfl
    | some mapped => rw [List.getLast?_cons,Option.getD_some]

private theorem table_states (state : LCState) (inputs : List Int) :
    (modeTable.outputs state inputs).filterMap (fun e => match e with
      | .broadcast state => some state
      | .mcu _ => none) = inputs.filterMap mappedState := by
  induction inputs generalizing state with
  | nil => rfl
  | cons powerMode rest ih =>
    rw [Machine.outputs,List.filterMap_append,ih,List.filterMap_cons]
    simp only [Machine.out,modeTable]
    cases mappedState powerMode with
    | none =>
      simp only
      split <;> rfl
    | some mapped =>
      simp only
      split <;> rfl

private theorem events_states (outputs : List Output) :
    (outputs.filterMap modeEvent).filterMap (fun e => match e with
      | .broadcast state => some state
      | .mcu _ => none) = broadcastStates outputs := by
  rw [List.filterMap_filterMap,broadcastStates]
  refine List.filterMap_congr fun o _ => ?_
  cases o <;> rfl

/-- Whatever power modes a started server is told, its broadcasts are the states they map to, the last
    of which is its power state; the flag is up after every call; nothing unassigned is evaluated; and
    its broadcasts and its calls to the MCU are together, in their order, those of the table. -/
theorem stream_follows_table (p : Platform) (info : AdditionalLifecycleStateInfo) (created : Bool)
    (inputs : List Int) :
    let start := Manager.started p info created
    let outputs := (modeStream p).outputs start inputs
    broadcastStates outputs = inputs.filterMap mappedState ∧
      ((modeStream p).run start inputs).nadLifecycleState =
        ((inputs.filterMap mappedState).getLast?).getD p.initState ∧
      (modeStream p).Throughout EvaluatesAssigned start inputs ∧
      (modeStream p).Always (fun m => m.noTCUPowerMode = true) start inputs ∧
      outputs.filterMap modeEvent = modeTable.outputs p.initState inputs := by
  intro start outputs
  have follows : FollowsTable start p.initState := ⟨rfl,rfl⟩
  obtain ⟨final,events⟩ := Machine.run_simulates _ modeTable (table_next p) follows inputs
  rw [Machine.view_run] at final
  rw [Machine.view_outputs] at events
  have keeps : ∀ m v, m.noTCUPowerMode = true → ((modeStream p).next m v).noTCUPowerMode = true :=
    fun m v ready => mode_next_ready p ready v
  refine ⟨?_,?_,?_,?_,events⟩
  · rw [← events_states,events,table_states]
  · rw [final.power,table_power]
  · exact Machine.throughout_of_forall _ evaluates_assigned start inputs
  · exact Machine.always_of_keeps _ keeps follows.ready inputs

end LifecycleMgr
