import LifecycleMgr.WakeupSource

namespace LifecycleMgr
open Runs

/-- What an action broadcasts, if it broadcasts. A call that blocks in `LC_Wakeup` does so only at its write. -/
def broadcastBy (s : Threads) : Action → Option (LCState × AdditionalLifecycleStateInfo)
  | .call c =>
    if Enabled s (.call c) ∧ ¬ (c.op = .dbus .LC_Wakeup ∧ inListen s.manager.nadLifecycleState) then
      broadcastOf s.manager c.op
    else none
  | .wakeupWrite => if 0 < s.wakeups then some (.NAD_STAY_ALIVE_SERVICES,s.manager.nadAdditionalInfo) else none
  | .tcuOnlyExpiry => none

theorem broadcastBy_disabled {s : Threads} {a : Action} (disabled : ¬ Enabled s a) : broadcastBy s a = none := by
  cases a with
  | call c => exact if_neg (fun both => disabled both.1)
  | wakeupWrite => exact if_neg disabled
  | tcuOnlyExpiry => rfl

theorem broadcastBy_write {s : Threads} (enabled : Enabled s .wakeupWrite) :
    broadcastBy s .wakeupWrite = some (.NAD_STAY_ALIVE_SERVICES,s.manager.nadAdditionalInfo) := if_pos enabled

/-- What is published for a broadcast: the event on D-Bus, and its report on Legato once the event id is created. -/
def announcement (created : Bool) (broadcast : LCState × AdditionalLifecycleStateInfo) : List Output :=
  .fireStateEvent broadcast.1 broadcast.2 ::
    if created then [.leEventReport (leImage broadcast.1 broadcast.2)] else []

section
variable (p : Platform) {s : Threads}

/-- An operation publishes what it broadcasts, if it broadcasts. -/
private theorem publications_call {m : Manager} (ready : m.noTCUPowerMode = true) (c : Call) :
    publications ((manager p).out m c) = (broadcastOf m c.op).toList.flatMap (announcement m.lifecycleStateEvent) := by
  cases broadcasts : broadcastOf m c.op with
  | none => exact (step_quiet p ready broadcasts).1
  | some broadcast =>
    obtain ⟨bub,_,published⟩ := step_broadcast p ready broadcasts
    rw [published,notify_out]
    exact (List.append_nil _).symm

/-- Cut into the steps of its thread, it publishes this at the step that writes the state. -/
private theorem publications_callStep (ready : s.manager.noTCUPowerMode = true) (c : Call) :
    publications (callStep p s c).2 =
      if c.op = .dbus .LC_Wakeup ∧ inListen s.manager.nadLifecycleState then []
      else (broadcastOf s.manager c.op).toList.flatMap (announcement s.manager.lifecycleStateEvent) := by
  have sequential := publications_call p ready c
  obtain ⟨op,env⟩ := c
  cases op with
  | dbus request =>
    cases request with
    | LC_Wakeup =>
      by_cases listen : inListen s.manager.nadLifecycleState = true
      · rw [if_pos ⟨rfl,listen⟩]
        show publications (lcWakeupTest s.manager).2.1 = []
        rw [test_listen listen]; rfl
      · rw [if_neg (fun both => listen both.2),← sequential]
        show publications (lcWakeupTest s.manager).2.1 = publications (lcWakeup s.manager).2
        rw [lcWakeup,if_neg (by rw [test_inCall]; exact listen)]
    | _ => rw [if_neg (fun both => by cases both.1),← sequential]; rfl
  | legato request => rw [if_neg (fun both => by cases both.1),← sequential]; rfl
  | mcu update =>
    rw [if_neg (fun both => by cases both.1),← sequential]
    cases update with
    | setPowerMode powerMode =>
      show publications (setPowerModeEntry p s.manager powerMode).2.1 =
        publications (setPowerMode p s.manager powerMode).2
      rw [setPowerMode]
      simp only
      split
      · rw [publications_append]
        exact (List.append_nil _).symm
      · rfl
    | _ => rfl

/-- An action publishes what it broadcasts, if it broadcasts. -/
theorem publications_action (ready : s.manager.noTCUPowerMode = true) (a : Action) :
    publications ((threads p).out s a) =
      (broadcastBy s a).toList.flatMap (announcement s.manager.lifecycleStateEvent) := by
  show publications (actionStep p s a).2 = _
  rcases action_cases p s a with
    ⟨disabled,stays⟩ | ⟨c,rfl,enabled,called⟩ | ⟨rfl,enabled,written⟩ | ⟨rfl,_,expired⟩
  · rw [stays,broadcastBy_disabled disabled]; rfl
  · rw [called,publications_callStep p ready]
    by_cases inCall : c.op = .dbus .LC_Wakeup ∧ inListen s.manager.nadLifecycleState
    · rw [if_pos inCall,broadcastBy,if_neg (fun both => both.2 inCall)]; rfl
    · rw [if_neg inCall,broadcastBy,if_pos ⟨enabled,inCall⟩]
  · rw [written,broadcastBy_write enabled,lcWakeupWrite,publications_append,publications_notify,notify_out]; rfl
  · rw [expired]; rfl

/-- No action creates the event id. -/
theorem created_action (ready : s.manager.noTCUPowerMode = true) (a : Action) :
    ((threads p).next s a).manager.lifecycleStateEvent = s.manager.lifecycleStateEvent := by
  show (actionStep p s a).1.manager.lifecycleStateEvent = _
  rcases action_cases p s a with ⟨_,stays⟩ | ⟨c,_,_,called⟩ | ⟨_,_,written⟩ | ⟨_,_,expired⟩
  · rw [stays]
  · rw [called,callStep_manager]
    split
    · rfl
    · exact next_created p ready c
  · rw [written]
    exact notify_lifecycleStateEvent _
  · rw [expired]

/-- The power state is the one broadcast, and stays as it was when nothing is broadcast. -/
theorem state_action (ready : s.manager.noTCUPowerMode = true) (a : Action) :
    ((threads p).next s a).manager.nadLifecycleState =
      ((broadcastBy s a).map Prod.fst).getD s.manager.nadLifecycleState := by
  show (actionStep p s a).1.manager.nadLifecycleState = _
  rcases action_cases p s a with
    ⟨disabled,stays⟩ | ⟨c,rfl,enabled,called⟩ | ⟨rfl,enabled,written⟩ | ⟨rfl,_,expired⟩
  · rw [stays,broadcastBy_disabled disabled]; rfl
  · rw [called,callStep_manager]
    by_cases inCall : c.op = .dbus .LC_Wakeup ∧ inListen s.manager.nadLifecycleState
    · rw [if_pos inCall,broadcastBy,if_neg (fun both => both.2 inCall)]; rfl
    · rw [if_neg inCall,broadcastBy,if_pos ⟨enabled,inCall⟩]
      exact next_state p ready c
  · rw [written,broadcastBy_write enabled,lcWakeupWrite,notify_nadLifecycleState]; rfl
  · rw [expired]; rfl

/-- The TCU-only mode begins a window of the length that the state asks for; no other mode begins one. -/
theorem entry_window {m : Manager} (ready : m.noTCUPowerMode = true) (powerMode : Int) :
    (setPowerModeEntry p m powerMode).2.2 =
      if PowerModeStates.ofInt powerMode = some .SYSTEM_LC_TCU_ONLY then some (windowLength m) else none := by
  cases mapped : mappedState powerMode with
  | none =>
    have other : ¬ PowerModeStates.ofInt powerMode = some .SYSTEM_LC_TCU_ONLY := by
      intro opens
      rw [mappedState,opens] at mapped
      cases mapped
    rw [entry_unmapped p ready mapped,if_neg other]
  | some state =>
    obtain ⟨bub,entered⟩ := entry_mapped p ready mapped
    rw [entered,evaluateAndBroadcastPowerMode]
    by_cases opens : state = .NAD_STAY_ALIVE_SERVICES
    · rw [if_pos opens,if_pos ((mapped_tcuOnly mapped).mp opens)]; rfl
    · rw [if_neg opens,if_neg (fun only => opens ((mapped_tcuOnly mapped).mpr only))]

/-- The thread of the MCU client begins a window and ends it; nothing else touches it. -/
theorem window_action (ready : s.manager.noTCUPowerMode = true) (a : Action) :
    ((threads p).next s a).window =
      if OpensWindow s a then some (windowLength s.manager)
      else if a = .tcuOnlyExpiry then none else s.window := by
  show (actionStep p s a).1.window = _
  rcases action_cases p s a with
    ⟨disabled,stays⟩ | ⟨c,rfl,enabled,called⟩ | ⟨rfl,_,written⟩ | ⟨rfl,_,expired⟩
  · rw [stays]
    cases a with
    | call c => rw [if_neg (fun opens => disabled opens.1),if_neg (by simp)]
    | wakeupWrite => rfl
    | tcuOnlyExpiry =>
      have closed : s.window = none := Option.not_isSome_iff_eq_none.mp disabled
      exact closed
  · rw [called,if_neg (show ¬ Action.call c = .tcuOnlyExpiry by simp)]
    obtain ⟨op,env⟩ := c
    cases op with
    | dbus request => cases request <;> exact (if_neg (fun opens => opens.2)).symm
    | legato request => exact (if_neg (fun opens => opens.2)).symm
    | mcu update =>
      cases update with
      | setPowerMode powerMode =>
        have closed : s.window = none := enabled.resolve_right (by simp [McuUpdate.fromClientThread])
        show (setPowerModeEntry p s.manager powerMode).2.2 = _
        rw [entry_window p ready,closed]
        by_cases opens : PowerModeStates.ofInt powerMode = some .SYSTEM_LC_TCU_ONLY
        · rw [if_pos opens]
          exact (if_pos ⟨enabled,opens⟩).symm
        · rw [if_neg opens]
          exact (if_neg (fun both => opens both.2)).symm
      | _ => exact (if_neg (fun opens => opens.2)).symm
  · rw [written]; rfl
  · rw [expired]; rfl

end
end LifecycleMgr
