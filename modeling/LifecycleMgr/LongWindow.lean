import LifecycleMgr.PowerState
import LifecycleMgr.WakeupSource

namespace LifecycleMgr
open Runs

/-- The modes in which the TCU listens. -/
def listenMode (mode : PowerModeStates) : Bool :=
  mode = .SYSTEM_LC_LISTEN_MODE_1 ∨ mode = .SYSTEM_LC_LISTEN_MODE_2 ∨ mode = .SYSTEM_LC_LISTEN_MODE_3

/-- The last mapped power mode of the MCU, and whether an `LC_Wakeup` has written the power state since. -/
structure WakeHistory where
  lastMode : Option PowerModeStates := none
  written : Bool := false
  deriving DecidableEq

def WakeHistory.call (h : WakeHistory) : Op → WakeHistory
  | .mcu (.setPowerMode powerMode) =>
    if (mappedState powerMode).isSome then { lastMode := PowerModeStates.ofInt powerMode, written := false } else h
  | _ => h

def WakeHistory.after (h : WakeHistory) (s : Threads) (a : Action) : WakeHistory :=
  if Enabled s a then
    match a with
    | .call c => h.call c.op
    | .wakeupWrite => { h with written := true }
    | .tcuOnlyExpiry => h
  else h

/-- All interleavings of the threads, with the history of listening and waking. -/
def wakes (p : Platform) : Machine (Threads × WakeHistory) Action Output := (threads p).observe WakeHistory.after

/-- The last mapped power mode was a listen mode. -/
def WakeHistory.Listened (h : WakeHistory) : Prop := h.lastMode.any listenMode = true

instance (h : WakeHistory) : Decidable h.Listened := inferInstanceAs (Decidable (_ = true))

/-- The TCU-only mode that is the next after a listen mode opens the long window. -/
def LongAfterListen (p : Platform) (x : Threads × WakeHistory) (a : Action) : Prop :=
  x.2.Listened → OpensWindow x.1 a → timers ((threads p).out x.1 a) = [200]

instance (p : Platform) (x : Threads × WakeHistory) (a : Action) : Decidable (LongAfterListen p x a) :=
  inferInstanceAs (Decidable (_ → _ → _))

/-- The TCU-only mode that is the next after a listen mode comes before any `LC_Wakeup` has written. -/
def OpensUnwritten (x : Threads × WakeHistory) (a : Action) : Prop :=
  x.2.Listened → OpensWindow x.1 a → x.2.written = false

/-- After a listen mode the power state is a listening one until an `LC_Wakeup` writes it. -/
structure ListensOn (p : Platform) (x : Threads × WakeHistory) : Prop where
  running : Running p x.1.manager
  listens : x.2.Listened → x.2.written = false → inListen x.1.manager.nadLifecycleState = true
  woken : x.2.Listened → x.2.written = true → x.1.manager.nadLifecycleState = .NAD_STAY_ALIVE_SERVICES

private theorem listen_mapped {powerMode : Int} {state : LCState} (mapped : mappedState powerMode = some state)
    (listened : (PowerModeStates.ofInt powerMode).any listenMode = true) : inListen state = true := by
  unfold mappedState at mapped
  cases mode : PowerModeStates.ofInt powerMode with
  | none => simp [mode] at mapped
  | some mode' =>
    rw [mode,Option.bind_some] at mapped
    rw [mode,Option.any_some,listenMode,decide_eq_true_iff] at listened
    rcases listened with rfl | rfl | rfl
    all_goals
      obtain rfl := Option.some.inj mapped
      rfl

/-- Until the next mapped power mode, no call of a thread changes a state that followed a listen mode. -/
private theorem unmapped_kept {p : Platform} {s : Threads} {h : WakeHistory} (kept : ListensOn p (s,h))
    (listened : h.Listened) {c : Call} (unmapped : ¬ c.op.MapsPowerMode) :
    (callStep p s c).1.manager.nadLifecycleState = s.manager.nadLifecycleState := by
  rw [callStep_manager]
  by_cases inCall : c.op = .dbus .LC_Wakeup ∧ inListen s.manager.nadLifecycleState
  · rw [if_pos inCall]
  · rw [if_neg inCall,unmapped_state p kept.running.ready unmapped]
    by_cases wakeup : c.op = .dbus .LC_Wakeup
    · have written : h.written = true := by
        by_contra unwritten
        exact inCall ⟨wakeup,kept.listens listened (Bool.eq_false_iff.mpr unwritten)⟩
      have state : s.manager.nadLifecycleState = .NAD_STAY_ALIVE_SERVICES := kept.woken listened written
      rw [if_pos wakeup,state]; rfl
    · rw [if_neg wakeup]

private theorem call_unmapped (h : WakeHistory) {op : Op} (unmapped : ¬ op.MapsPowerMode) : h.call op = h := by
  cases op with
  | mcu update =>
    cases update with
    | setPowerMode powerMode => exact if_neg unmapped
    | _ => rfl
  | _ => rfl

private theorem listensOn_call {p : Platform} {s : Threads} {h : WakeHistory} (kept : ListensOn p (s,h)) (c : Call)
    (running : Running p (callStep p s c).1.manager) : ListensOn p ((callStep p s c).1,h.call c.op) := by
  by_cases maps : c.op.MapsPowerMode
  · obtain ⟨op,env⟩ := c
    cases op with
    | mcu update =>
      cases update with
      | setPowerMode powerMode =>
        obtain ⟨state,mapped⟩ := Option.isSome_iff_exists.mp maps
        have called : h.call (.mcu (.setPowerMode powerMode)) = ⟨PowerModeStates.ofInt powerMode,false⟩ := if_pos maps
        have next : (callStep p s ⟨.mcu (.setPowerMode powerMode),env⟩).1.manager.nadLifecycleState = state := by
          rw [callStep_manager,if_neg (fun both => by cases both.1),next_state p kept.running.ready]
          simp only [broadcastOf,mapped]; rfl
        refine ⟨running,fun listened _ => ?_,fun _ written => ?_⟩
        · rw [called] at listened
          exact (congrArg inListen next).trans (listen_mapped mapped listened)
        · rw [called] at written
          cases written
      | _ => exact absurd maps id
    | _ => exact absurd maps id
  · rw [call_unmapped h maps]
    refine ⟨running,fun listened unwritten => ?_,fun listened written => ?_⟩
    · exact (congrArg inListen (unmapped_kept kept listened maps)).trans (kept.listens listened unwritten)
    · exact (unmapped_kept kept listened maps).trans (kept.woken listened written)

theorem listensOn_next (p : Platform) (x : Threads × WakeHistory) (a : Action) (kept : ListensOn p x) :
    ListensOn p ((wakes p).next x a) := by
  obtain ⟨s,h⟩ := x
  have running := running_action p s a kept.running
  rw [wakes,Machine.observe_next]
  show ListensOn p ((actionStep p s a).1,h.after s a)
  replace running : Running p (actionStep p s a).1.manager := running
  unfold WakeHistory.after
  rcases action_cases p s a with
    ⟨disabled,stays⟩ | ⟨c,rfl,enabled,called⟩ | ⟨rfl,enabled,written⟩ | ⟨rfl,enabled,expired⟩
  · rw [if_neg disabled,stays]
    exact kept
  · rw [called] at running
    rw [if_pos enabled,called]
    exact listensOn_call kept c running
  · rw [written] at running
    rw [if_pos enabled,written]
    refine ⟨running,fun _ unwritten => (by cases unwritten),fun _ _ => ?_⟩
    show (lcWakeupWrite s.manager).1.nadLifecycleState = .NAD_STAY_ALIVE_SERVICES
    rw [lcWakeupWrite,notify_nadLifecycleState]
  · rw [expired] at running
    rw [if_pos enabled,expired]
    exact ⟨running,kept.listens,kept.woken⟩

private theorem wokenFrom_listen {state : LCState} (listens : inListen state = true) : wokenFrom state = true := by
  rw [inListen,decide_eq_true_iff] at listens
  rcases listens with rfl | rfl | rfl <;> rfl

private theorem long_step {p : Platform} (x : Threads × WakeHistory) (a : Action) (kept : ListensOn p x) :
    LongAfterListen p x a ↔ OpensUnwritten x a := by
  obtain ⟨s,h⟩ := x
  refine forall_congr' fun listened => forall_congr' fun opens => ?_
  have begun := (timers_action p kept.running.ready a).1 opens
  rw [begun]
  cases written : h.written with
  | false =>
    have long : windowLength s.manager = 200 := if_pos (wokenFrom_listen (kept.listens listened written))
    rw [long]
    exact iff_of_true rfl rfl
  | true =>
    have state : s.manager.nadLifecycleState = .NAD_STAY_ALIVE_SERVICES := kept.woken listened written
    have short : windowLength s.manager ≠ 200 := by
      have awake : ¬ wokenFrom s.manager.nadLifecycleState = true := by
        rw [state]
        exact Bool.false_ne_true
      rw [windowLength,if_neg awake]
      split
      · decide
      · decide
    refine iff_of_false ?_ (fun wrong => by cases wrong)
    intro equal
    exact short (List.singleton_inj.mp equal)

/-- Under every interleaving, the TCU-only mode that is the next mapped power mode after a listen mode opens
    the long window exactly when no `LC_Wakeup` has written the power state since the listen mode. -/
theorem long_window_iff (p : Platform) (info : AdditionalLifecycleStateInfo) (created : Bool) (run : List Action) :
    (wakes p).Throughout (LongAfterListen p) (.started p info created,{}) run ↔
      (wakes p).Throughout OpensUnwritten (.started p info created,{}) run := by
  have start : ListensOn p (.started p info created,{}) :=
    ⟨running_started p info created,fun listened _ => (by cases listened),fun listened _ => (by cases listened)⟩
  exact Machine.throughout_congr (wakes p) (listensOn_next p) long_step start run

/-- A client wakes the TCU up before the MCU reports the wakeup. -/
def clientFirst : List Action :=
  [.call (Op.mcu (.setPowerMode 15)).call,
    .call (Op.dbus .LC_Wakeup).call,
    .wakeupWrite,
    .call (Op.mcu (.setPowerMode 13)).call]

/-- The window is the short one, of 21 seconds. -/
theorem client_first_short :
    ¬ (wakes samplePlatform).Throughout (LongAfterListen samplePlatform)
      (.started samplePlatform sampleInfo true,{}) clientFirst := by
  decide

end LifecycleMgr
