import LifecycleMgr.Signals
import LifecycleMgr.StayActive

/-!
The stay-alive power mode. It tells the MCU to stay active, but not in the state
of stay-alive services, where it takes for granted that the MCU has been told. A
TCU-only window, a release or a refused request takes the wish back without
leaving that state. What every operation tells the MCU is read off its input
(`toldBy`), so the mode leaves the MCU told to stay active exactly when in that
state the last operation that told it anything told it to stay active
(`stay_alive_told_iff`).
-/
namespace LifecycleMgr
open Runs

/-- The value of `PENDING_TCU_ACTION` last told to the MCU, after a power mode. -/
def modeTold (m : Manager) (powerMode : Int) (last : Option StayActiveStatus) : Option StayActiveStatus :=
  match PowerModeStates.ofInt powerMode with
  | some .SYSTEM_LC_TCU_ONLY => some .STAY_INACTIVE
  | some .SYSTEM_LC_STAY_ALIVE_SERVICES =>
    if m.nadLifecycleState ≠ .NAD_STAY_ALIVE_SERVICES then some .STAY_ACTIVE else last
  | _ => last

/-- The value of `PENDING_TCU_ACTION` last told to the MCU, after an operation. -/
def toldBy (m : Manager) (op : Op) (last : Option StayActiveStatus) : Option StayActiveStatus :=
  match op with
  | .dbus .LC_Wakeup => if inListen m.nadLifecycleState then some .STAY_ACTIVE else last
  | .dbus (.LC_StayActive name stayActive) => lastRequested m name stayActive last
  | .dbus .LC_JumpToListen2 => some .STAY_INACTIVE
  | .legato (.lifecycle_LC_StayActive name stayActive) =>
    lastRequested m (cString name) (leLcStayActiveToCapiLcStayActive stayActive) last
  | .mcu (.setPowerMode powerMode) => modeTold m powerMode last
  | _ => last

private theorem last_signals (last : Option StayActiveStatus) (outputs : List Output) :
    lastAction last (signals outputs) = lastAction last outputs := by
  have actions : pendingActions (signals outputs) = pendingActions outputs := by
    rw [pendingActions,pendingActions,signals,List.filterMap_filter]
    refine List.filterMap_congr fun o _ => ?_
    cases o <;> rfl
  rw [lastAction,lastAction,actions]

private theorem last_mode (m : Manager) (powerMode : Int) (last : Option StayActiveStatus) :
    lastAction last (modeSignals m powerMode) = modeTold m powerMode last := by
  unfold modeSignals modeTold
  cases PowerModeStates.ofInt powerMode with
  | none => rfl
  | some mode =>
    cases mode with
    | SYSTEM_LC_STAY_ALIVE_SERVICES =>
      show lastAction last (if m.nadLifecycleState ≠ .NAD_STAY_ALIVE_SERVICES then _ else []) =
        if m.nadLifecycleState ≠ .NAD_STAY_ALIVE_SERVICES then _ else last
      split <;> rfl
    | _ => rfl

private theorem last_emergency (env : Env) (state : LCState) (last : Option StayActiveStatus) :
    lastAction last (triggerLCEmergency env state).1 = last := by
  cases state <;> rfl

/-- The last value sent, after an operation, is the last one told. -/
theorem last_told (p : Platform) {m : Manager} (ready : m.noTCUPowerMode = true) (c : Call)
    (last : Option StayActiveStatus) : lastAction last ((manager p).out m c) = toldBy m c.op last := by
  rw [← last_signals,step_signals p ready]
  obtain ⟨op,env⟩ := c
  cases op with
  | dbus r =>
    cases r with
    | LC_Emergency name state => exact last_emergency env state last
    | LC_StayActive name v => exact last_sent m name v last
    | LC_Wakeup =>
      show lastAction last (if inListen m.nadLifecycleState then _ else []) =
        if inListen m.nadLifecycleState then _ else last
      split <;> rfl
    | _ => rfl
  | legato r =>
    cases r with
    | lifecycle_LC_Emergency name state => exact last_emergency env (leLcStateToCapiLcState state) last
    | lifecycle_LC_StayActive name v =>
      exact last_sent m (cString name) (leLcStayActiveToCapiLcStayActive v) last
    | _ => rfl
  | mcu update =>
    cases update with
    | setPowerMode powerMode => exact last_mode m powerMode last
    | _ => rfl

/-- The last value of `PENDING_TCU_ACTION` that was sent, and the last one that an operation told. -/
structure Told where
  sent : Option StayActiveStatus := none
  told : Option StayActiveStatus := none
  deriving DecidableEq

def Told.after (p : Platform) (t : Told) (m : Manager) (c : Call) : Told where
  sent := lastAction t.sent ((manager p).out m c)
  told := toldBy m c.op t.told

/-- The manager, with what the MCU was told. -/
def withTold (p : Platform) : Machine (Manager × Told) Call Output := (manager p).observe (Told.after p)

/-- The operation is the stay-alive power mode. -/
def Op.StaysAlive : Op → Prop
  | .mcu (.setPowerMode powerMode) => PowerModeStates.ofInt powerMode = some .SYSTEM_LC_STAY_ALIVE_SERVICES
  | _ => False

instance : ∀ op : Op, Decidable op.StaysAlive
  | .mcu (.setPowerMode _) => inferInstanceAs (Decidable (_ = _))
  | .mcu (.setNWSync _) | .mcu (.setPMWakeupSource _) | .mcu (.setSocketWakeupSource _)
  | .mcu (.setLCMainBattery _) | .mcu (.setLCVTMstate _) | .dbus _ | .legato _ => isFalse id

/-- The stay-alive mode returns with `STAY_ACTIVE` as the last value sent. -/
def LeavesTold (p : Platform) (x : Manager × Told) (c : Call) : Prop :=
  c.op.StaysAlive → ((withTold p).next x c).2.sent = some .STAY_ACTIVE

instance (p : Platform) (x : Manager × Told) (c : Call) : Decidable (LeavesTold p x c) :=
  inferInstanceAs (Decidable (_ → _))

/-- In the state of stay-alive services, the stay-alive mode comes when the last operation that told the MCU anything
    told it to stay active. -/
def ComesTold (x : Manager × Told) (c : Call) : Prop :=
  c.op.StaysAlive → x.1.nadLifecycleState = .NAD_STAY_ALIVE_SERVICES → x.2.told = some .STAY_ACTIVE

/-- What was sent is what was told. -/
structure SentAsTold (x : Manager × Told) : Prop where
  ready : x.1.noTCUPowerMode = true
  same : x.2.sent = x.2.told

private theorem told_next (p : Platform) (x : Manager × Told) (c : Call) (sent : SentAsTold x) :
    SentAsTold ((withTold p).next x c) := by
  refine ⟨next_ready p sent.ready c,?_⟩
  show lastAction x.2.sent ((manager p).out x.1 c) = toldBy x.1 c.op x.2.told
  rw [last_told p sent.ready,sent.same]

private theorem told_step {p : Platform} (x : Manager × Told) (c : Call) (sent : SentAsTold x) :
    LeavesTold p x c ↔ ComesTold x c := by
  refine imp_congr_right fun staysAlive => ?_
  show lastAction x.2.sent ((manager p).out x.1 c) = some .STAY_ACTIVE ↔ _
  rw [last_told p sent.ready,sent.same]
  have told : toldBy x.1 c.op x.2.told =
      if x.1.nadLifecycleState ≠ .NAD_STAY_ALIVE_SERVICES then some .STAY_ACTIVE else x.2.told := by
    obtain ⟨op,env⟩ := c
    cases op with
    | mcu update =>
      cases update with
      | setPowerMode powerMode =>
        have mode : PowerModeStates.ofInt powerMode = some .SYSTEM_LC_STAY_ALIVE_SERVICES := staysAlive
        simp only [toldBy,modeTold,mode]
      | _ => exact staysAlive.elim
    | _ => exact staysAlive.elim
  rw [told]
  by_cases already : x.1.nadLifecycleState = .NAD_STAY_ALIVE_SERVICES
  · rw [if_neg (not_not_intro already)]
    exact ⟨fun active _ => active,fun active => active already⟩
  · rw [if_pos already]
    exact iff_of_true rfl (fun already' => absurd already' already)

/-- In every run, the stay-alive mode always leaves the MCU told to stay active exactly when, in the state of
    stay-alive services, it only comes after the MCU was last told to stay active. -/
theorem stay_alive_told_iff (p : Platform) (info : AdditionalLifecycleStateInfo) (created : Bool) (run : List Call) :
    (withTold p).Throughout (LeavesTold p) (.started p info created,{}) run ↔
      (withTold p).Throughout ComesTold (.started p info created,{}) run :=
  Machine.throughout_congr (withTold p) (told_next p) told_step ⟨rfl,rfl⟩ run

/-- A TCU-only window, and then the stay-alive mode. -/
def windowThenStayAlive : List Call :=
  [(Op.mcu (.setPowerMode 13)).call,(Op.mcu (.setPowerMode 19)).call]

/-- The end of the window was the last to tell the MCU anything. -/
theorem stay_alive_untold :
    ¬ (withTold samplePlatform).Throughout (LeavesTold samplePlatform)
      (.started samplePlatform sampleInfo true,{}) windowThenStayAlive := by
  decide

end LifecycleMgr
