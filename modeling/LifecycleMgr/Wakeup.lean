import LifecycleMgr.Threads

namespace LifecycleMgr
open Runs

/-- The state of the last mapped power mode, and whether it came after the test of the last
    `LC_Wakeup` that passed its test. -/
structure ModeHistory where
  lastMode : Option LCState := none
  afterTest : Bool := false
  deriving DecidableEq

def ModeHistory.call (h : ModeHistory) (m : Manager) : Op → ModeHistory
  | .mcu (.setPowerMode powerMode) =>
    match mappedState powerMode with
    | some state => { lastMode := some state, afterTest := true }
    | none => h
  | .dbus .LC_Wakeup => if (wokenState m.nadLifecycleState).isSome then { h with afterTest := false } else h
  | _ => h

def ModeHistory.after (h : ModeHistory) (s : Threads) (a : Action) : ModeHistory :=
  match a with
  | .call c => if Enabled s a then h.call s.manager c.op else h
  | _ => h

/-- All interleavings of the threads, with the history of power modes and wakeups. -/
def modes (p : Platform) : Machine (Threads × ModeHistory) Action Output := (threads p).observe ModeHistory.after

/-- While no `LC_Wakeup` is in progress, a last power mode that came after the last test is the power state. -/
def ModeKept (x : Threads × ModeHistory) : Prop :=
  x.1.wakeups = 0 → x.2.afterTest = true → x.2.lastMode = some x.1.manager.nadLifecycleState

instance (x : Threads × ModeHistory) : Decidable (ModeKept x) := inferInstanceAs (Decidable (_ → _ → _))

/-- The last pending write of `LC_Wakeup` finds no power mode that came after the last test, but for
    one that maps to the state it writes. -/
def WritesLast (x : Threads × ModeHistory) (a : Action) : Prop :=
  a = .wakeupWrite → x.1.wakeups = 1 → x.2.afterTest = true → x.2.lastMode = some .NAD_STAY_ALIVE_SERVICES

/-- An operation keeps the last power mode; it may be overwritten only after its call. -/
private theorem call_keeps {p : Platform} {s : Threads} {h : ModeHistory} (ready : s.manager.noTCUPowerMode = true)
    (good : ModeKept (s,h)) (c : Call) : ModeKept ((callStep p s c).1,h.call s.manager c.op) := by
  intro idle after
  rw [callStep_wakeups] at idle
  by_cases inCall : c.op = .dbus .LC_Wakeup ∧ inListen s.manager.nadLifecycleState
  · rw [if_pos inCall] at idle
    exact absurd idle (Nat.succ_ne_zero _)
  · rw [if_neg inCall] at idle
    have state := next_state p ready c
    show (h.call s.manager c.op).lastMode = some (callStep p s c).1.manager.nadLifecycleState
    rw [callStep_manager,if_neg inCall,state]
    obtain ⟨op,env⟩ := c
    cases op with
    | dbus request =>
      cases request with
      | LC_Wakeup =>
        cases woken : wokenState s.manager.nadLifecycleState with
        | none =>
          simp only [ModeHistory.call,broadcastOf,woken,Option.isSome_none,Bool.false_eq_true,if_false] at after ⊢
          exact good idle after
        | some state => simp [ModeHistory.call,woken] at after
      | _ => exact good idle after
    | legato request => exact good idle after
    | mcu update =>
      cases update with
      | setPowerMode powerMode =>
        cases mapped : mappedState powerMode with
        | none =>
          simp only [ModeHistory.call,broadcastOf,mapped] at after ⊢
          exact good idle after
        | some state => simp only [ModeHistory.call,broadcastOf,mapped]; rfl
      | _ => exact good idle after

private theorem mode_step {p : Platform} (x : Threads × ModeHistory) (a : Action) (running : Running p x.1.manager)
    (good : ModeKept x) : ModeKept ((modes p).next x a) ↔ WritesLast x a := by
  obtain ⟨s,h⟩ := x
  rw [modes,Machine.observe_next]
  show ModeKept ((actionStep p s a).1,h.after s a) ↔ _
  cases a with
  | call c =>
    refine iff_of_true ?_ (fun wrong => by cases wrong)
    by_cases enabled : Enabled s (.call c)
    · rw [actionStep,if_pos enabled,ModeHistory.after,if_pos enabled]
      exact call_keeps running.ready good c
    · rw [actionStep,if_neg enabled,ModeHistory.after,if_neg enabled]
      exact good
  | wakeupWrite =>
    by_cases enabled : 0 < s.wakeups
    · have written : (actionStep p s .wakeupWrite).1 =
          { s with manager := (lcWakeupWrite s.manager).1, wakeups := s.wakeups - 1 } := by
        rw [actionStep,if_pos (show Enabled s .wakeupWrite from enabled)]
      have state : (lcWakeupWrite s.manager).1.nadLifecycleState = .NAD_STAY_ALIVE_SERVICES := by
        rw [lcWakeupWrite,notify_nadLifecycleState]
      rw [written,ModeKept,WritesLast]
      simp only [state,ModeHistory.after,true_imp_iff]
      exact imp_congr_left (by omega)
    · have idle : (actionStep p s .wakeupWrite).1 = s := by
        rw [actionStep,if_neg (show ¬ Enabled s .wakeupWrite from enabled)]
      rw [idle]
      exact iff_of_true good (fun _ one => absurd (one ▸ Nat.one_pos) enabled)
  | tcuOnlyExpiry =>
    refine iff_of_true ?_ (fun wrong => by cases wrong)
    rw [actionStep]
    split <;> exact good

/-- Under every interleaving, no power mode is lost exactly when each last pending write of `LC_Wakeup`
    overwrites none with another state. -/
theorem mode_kept_iff (p : Platform) (info : AdditionalLifecycleStateInfo) (run : List Action) :
    (modes p).Always ModeKept (.constructed p info,{}) run ↔
      (modes p).Throughout WritesLast (.constructed p info,{}) run := by
  have keeps : ∀ x a, Running p x.1.manager → Running p ((modes p).next x a).1.manager :=
    fun x a running => running_action p x.1 a running
  exact Machine.always_iff_throughout (modes p) keeps mode_step (running_constructed p info)
    (fun _ after => by cases after) run

/-- A power mode arrives while `LC_Wakeup` is in its remote call. -/
def modeDuringWakeup : List Action :=
  [.call (Op.mcu (.setPowerMode 15)).call,
    .call (Op.dbus .LC_Wakeup).call,
    .call (Op.mcu (.setPowerMode 6)).call,
    .wakeupWrite]

/-- The power mode is lost: the state of stay-alive services is installed over it. -/
theorem mode_lost :
    ¬ (modes samplePlatform).Always ModeKept (.constructed samplePlatform sampleInfo,{}) modeDuringWakeup := by
  decide

end LifecycleMgr
