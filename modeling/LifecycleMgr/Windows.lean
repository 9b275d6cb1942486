import LifecycleMgr.Pauses

namespace LifecycleMgr
open Runs

/-- What holds while the thread of the MCU client sleeps: no power mode is taken, every registered client
    can take a lock, and a wakeup is refused. -/
structure Asleep (p : Platform) (s : Pausing) : Prop where
  state : s.threads.manager.nadLifecycleState = .NAD_STAY_ALIVE_SERVICES
  blocked : ∀ powerMode env, pausingStep p s (.take (.call ⟨.mcu (.setPowerMode powerMode),env⟩)) = (s,[])
  locks : ∀ name ∈ clientNames s.threads.manager,
    (evaluateLCStayActive s.threads.manager name .LC_LOCK).2.2 = .LC_STS_OK
  refused : lcWakeup s.threads.manager = (s.threads.manager,[.reply (.wakeup .LC_STS_NOT_OK)])

/-- The thread is in a pause, in a window of one of three lengths, or in neither. -/
structure SleepHolds (p : Platform) (s : Pausing) : Prop where
  pause : s.pausing = true → s.threads.window = none ∧ Asleep p s
  window : ∀ timerVal, s.threads.window = some timerVal → timerVal ∈ [200,120,21] ∧ Asleep p s

/-- Of this, what an action keeps. -/
structure Sleeping (p : Platform) (s : Pausing) : Prop where
  running : Running p s.threads.manager
  pause : s.pausing = true →
    s.threads.window = none ∧ s.threads.manager.nadLifecycleState = .NAD_STAY_ALIVE_SERVICES
  window : ∀ timerVal, s.threads.window = some timerVal →
    timerVal ∈ [200,120,21] ∧ s.threads.manager.nadLifecycleState = .NAD_STAY_ALIVE_SERVICES

private theorem length_chosen (m : Manager) : windowLength m ∈ [200,120,21] := by
  unfold windowLength
  split
  · decide
  · split <;> decide

/-- In a window the thread can only end it. -/
private theorem enabled_inWindow {s : Threads} {timerVal : Nat} (window : s.window = some timerVal) {a : Action}
    (enabled : Enabled s a) : a.byClientThread = false ∨ a = .tcuOnlyExpiry := by
  cases a with
  | call c =>
    obtain ⟨op,env⟩ := c
    cases op with
    | mcu update => exact .inl (enabled.resolve_left (by rw [window]; exact Option.some_ne_none timerVal))
    | _ => exact .inl rfl
  | wakeupWrite => exact .inl rfl
  | tcuOnlyExpiry => exact .inr rfl

/-- The other threads broadcast nothing but the state of stay-alive services while it is the power state. -/
private theorem broadcast_asleep {s : Threads} (held : s.manager.nadLifecycleState = .NAD_STAY_ALIVE_SERVICES)
    {a : Action} (other : a.byClientThread = false) :
    ((broadcastBy s a).map Prod.fst).getD s.manager.nadLifecycleState = .NAD_STAY_ALIVE_SERVICES := by
  cases a with
  | call c =>
    obtain ⟨op,env⟩ := c
    have rests : broadcastOf s.manager op = none := by
      cases op with
      | dbus request =>
        cases request with
        | LC_Wakeup => rw [broadcastOf,held]; rfl
        | _ => rfl
      | legato request => rfl
      | mcu update =>
        -- only the reasons from the netlink socket are not of this thread
        cases update with
        | setSocketWakeupSource wakeupReason => rfl
        | _ => cases other
    rw [broadcastBy]
    simp only [rests,ite_self]
    exact held
  | wakeupWrite =>
    rw [broadcastBy]
    split
    · rfl
    · exact held
  | tcuOnlyExpiry => cases other

/-- The action that opens a window broadcasts the state of stay-alive services. -/
private theorem broadcast_opens {s : Threads} {a : Action} (opens : OpensWindow s a) :
    ((broadcastBy s a).map Prod.fst).getD s.manager.nadLifecycleState = .NAD_STAY_ALIVE_SERVICES := by
  cases a with
  | call c =>
    obtain ⟨enabled,only⟩ := opens
    obtain ⟨op,env⟩ := c
    have broadcast : broadcastOf s.manager op = some (.NAD_STAY_ALIVE_SERVICES,s.manager.nadAdditionalInfo) := by
      cases op with
      | mcu update =>
        cases update with
        | setPowerMode powerMode =>
          have mapped : mappedState powerMode = some .NAD_STAY_ALIVE_SERVICES := by
            rw [mappedState,show PowerModeStates.ofInt powerMode = some .SYSTEM_LC_TCU_ONLY from only]; rfl
          rw [broadcastOf,mapped]; rfl
        | _ => exact only.elim
      | _ => exact only.elim
    have calls : ¬ (op = .dbus .LC_Wakeup ∧ inListen s.manager.nadLifecycleState) := by
      rintro ⟨rfl,_⟩
      exact only
    rw [broadcastBy,if_pos ⟨enabled,calls⟩,broadcast]; rfl
  | _ => exact opens.elim

private theorem sleeping_take (p : Platform) {s : Pausing} {a : Action} (sleeping : Sleeping p s)
    (free : ¬ s.Blocked a) : Sleeping p { s with threads := (threads p).next s.threads a } := by
  have ready := sleeping.running.ready
  have other : s.pausing = true → a.byClientThread = false :=
    fun inPause => Bool.eq_false_iff.mpr (fun own => free ⟨inPause,own⟩)
  refine ⟨running_action p s.threads a sleeping.running,?_,?_⟩
  · intro inPause
    obtain ⟨closed,held⟩ := sleeping.pause inPause
    have opens : ¬ OpensWindow s.threads a := by
      intro opens
      have own := (opens_byClientThread opens).1
      rw [other inPause] at own
      cases own
    rw [window_action p ready,if_neg opens,state_action p ready,closed,ite_self]
    exact ⟨rfl,broadcast_asleep held (other inPause)⟩
  · intro timerVal window
    rw [window_action p ready] at window
    rw [state_action p ready]
    by_cases opens : OpensWindow s.threads a
    · rw [if_pos opens] at window
      rw [← Option.some.inj window]
      exact ⟨length_chosen s.threads.manager,broadcast_opens opens⟩
    · rw [if_neg opens] at window
      by_cases ends : a = .tcuOnlyExpiry
      · rw [if_pos ends] at window
        cases window
      · rw [if_neg ends] at window
        obtain ⟨chosen,held⟩ := sleeping.window timerVal window
        by_cases enabled : Enabled s.threads a
        · exact ⟨chosen,broadcast_asleep held ((enabled_inWindow window enabled).resolve_right ends)⟩
        · rw [broadcastBy_disabled enabled]
          exact ⟨chosen,held⟩

theorem sleeping_next (p : Platform) (s : Pausing) (i : PausingAction) (sleeping : Sleeping p s) :
    Sleeping p ((pausing p).next s i) := by
  have running := running_pausing p s i sleeping.running
  show Sleeping p (pausingStep p s i).1
  rcases pausing_cases p s i with ⟨_,stays⟩ | ⟨a,_,free,taken⟩ | ⟨a,_,_,⟨opens,_,_⟩,begun⟩ | ⟨_,inPause,ended⟩
  · rw [stays]
    exact sleeping
  · rw [taken]
    exact sleeping_take p sleeping free
  · have next : (pausing p).next s i = _ := congrArg Prod.fst begun
    rw [next] at running
    rw [begun]
    have closed := (opens_byClientThread opens).2
    refine ⟨running,fun _ => ⟨closed,rfl⟩,fun timerVal window => ?_⟩
    cases closed.symm.trans window
  · have next : (pausing p).next s i = _ := congrArg Prod.fst ended
    rw [next] at running
    rw [ended]
    refine ⟨running,fun inPause => Bool.noConfusion inPause,fun timerVal window => ?_⟩
    obtain rfl := Option.some.inj window
    refine ⟨?_,?_⟩
    · show (if _ then 120 else 21) ∈ [200,120,21]
      split <;> decide
    · exact (notify_nadLifecycleState s.threads.manager).trans (sleeping.pause inPause).2

theorem sleeping_started (p : Platform) (info : AdditionalLifecycleStateInfo) (created : Bool) :
    Sleeping p (.started p info created) :=
  ⟨running_started p info created,fun inPause => Bool.noConfusion inPause,fun _ window => by cases window⟩

private theorem asleep_of_state {p : Platform} {s : Pausing}
    (held : s.threads.manager.nadLifecycleState = .NAD_STAY_ALIVE_SERVICES)
    (asleep : s.pausing = true ∨ ∃ timerVal, s.threads.window = some timerVal) : Asleep p s := by
  refine ⟨held,?_,?_,?_⟩
  · intro powerMode env
    by_cases inPause : s.pausing = true
    · exact if_pos ⟨inPause,rfl⟩
    · obtain ⟨timerVal,window⟩ := asleep.resolve_left inPause
      have disabled : ¬ Enabled s.threads (.call ⟨.mcu (.setPowerMode powerMode),env⟩) := by
        rintro (closed | socket)
        · cases window.symm.trans closed
        · cases socket
      rw [pausingStep,if_neg (fun blocked => inPause blocked.1),if_neg (fun pauses => disabled pauses.1.1)]
      have stays : actionStep p s.threads (.call ⟨.mcu (.setPowerMode powerMode),env⟩) = (s.threads,[]) :=
        if_neg disabled
      rw [stays]
  · intro name known
    rw [stayActive_ok_iff]
    refine ⟨known,.inr (.inl ⟨rfl,?_⟩)⟩
    rw [held]; rfl
  · refine wakeup_refused ?_
    rw [held]; rfl

/-- Under every interleaving, also of what runs in a pause, the sleeping thread of the MCU client keeps the manager in
    the state of stay-alive services: no power mode is taken, every registered client can take a lock, and every
    wakeup is refused. -/
theorem sleep_holds (p : Platform) (info : AdditionalLifecycleStateInfo) (created : Bool) (run : List PausingAction) :
    (pausing p).Always (SleepHolds p) (.started p info created) run := by
  have holds : ∀ s, Sleeping p s → SleepHolds p s := by
    intro s sleeping
    constructor
    · intro inPause
      obtain ⟨closed,held⟩ := sleeping.pause inPause
      exact ⟨closed,asleep_of_state held (.inl inPause)⟩
    · intro timerVal window
      obtain ⟨chosen,held⟩ := sleeping.window timerVal window
      exact ⟨chosen,asleep_of_state held (.inr ⟨timerVal,window⟩)⟩
  exact Machine.always_mono _ holds (Machine.always_of_keeps _ (sleeping_next p) (sleeping_started p info created) run)

/-- The ends of windows along a run. -/
def expiries (p : Platform) (s : Pausing) (run : List PausingAction) : Nat :=
  (pausing p).total (fun s i => if i = .take .tcuOnlyExpiry ∧ s.threads.window.isSome then 1 else 0) s run

/-- A window that may begin. -/
private def free (s : Threads) : Nat := if s.window = none then 1 else 0

private def freeIn (s : Pausing) : Nat := free s.threads

private theorem sent_timers (outputs : List Output) :
    Machine.sent (fun o => (timers [o]).length) outputs = (timers outputs).length := by
  induction outputs with
  | nil => rfl
  | cons o rest ih =>
    have split : timers (o :: rest) = timers [o] ++ timers rest := List.filterMap_append (l := [o])
    rw [Machine.sent_cons,ih,split,List.length_append]

private theorem free_action (p : Platform) (s : Threads) (a : Action) (running : Running p s.manager) :
    free ((threads p).next s a) + (timers ((threads p).out s a)).length =
      free s + if a = .tcuOnlyExpiry ∧ s.window.isSome then 1 else 0 := by
  obtain ⟨begun,quiet⟩ := timers_action p running.ready a
  rw [free,free,window_action p running.ready]
  by_cases opens : OpensWindow s a
  · have closed := (opens_byClientThread opens).2
    rw [begun opens,if_pos opens]
    simp [closed]
  · rw [quiet opens,if_neg opens]
    by_cases ends : a = .tcuOnlyExpiry
    · subst ends
      cases window : s.window with
      | none => simp
      | some timerVal => simp
    · simp [ends]

private theorem free_step (p : Platform) (s : Pausing) (i : PausingAction) (sleeping : Sleeping p s) :
    freeIn ((pausing p).next s i) + Machine.sent (fun o => (timers [o]).length) ((pausing p).out s i) =
      freeIn s + if i = .take .tcuOnlyExpiry ∧ s.threads.window.isSome then 1 else 0 := by
  rw [sent_timers]
  show free (pausingStep p s i).1.threads + (timers (pausingStep p s i).2).length = free s.threads + _
  rcases pausing_cases p s i with
    ⟨blocked,stays⟩ | ⟨a,rfl,_,taken⟩ | ⟨a,rfl,_,⟨opens,_,_⟩,begun⟩ | ⟨rfl,inPause,ended⟩
  · have still : ¬ (i = .take .tcuOnlyExpiry ∧ s.threads.window.isSome = true) := by
      rintro ⟨expires,window⟩
      rw [(sleeping.pause (blocked _ expires).1).1] at window
      cases window
    rw [stays,if_neg still]; rfl
  · rw [taken]
    simp only [PausingAction.take.injEq]
    exact free_action p s.threads a sleeping.running
  · have closed := (opens_byClientThread opens).2
    have still : ¬ (PausingAction.take a = .take .tcuOnlyExpiry ∧ s.threads.window.isSome = true) := by
      rw [closed]
      exact fun both => Bool.false_ne_true both.2
    rw [begun,if_neg still]; rfl
  · have closed := (sleeping.pause inPause).1
    rw [ended,timers_afterPause,free,free,if_neg (by simp),if_pos closed,if_neg (by simp)]; rfl

/-- In every interleaving, windows begin one after the other: as many have begun as have ended, and one more while
    one is open. -/
theorem windows_end_once (p : Platform) (info : AdditionalLifecycleStateInfo) (created : Bool)
    (run : List PausingAction) :
    (timers ((pausing p).outputs (.started p info created) run)).length =
      expiries p (.started p info created) run +
        (((pausing p).run (.started p info created) run).threads.window.toList).length := by
  have conserved := Machine.run_conserves (pausing p) (sleeping_next p) (free_step p)
    (sleeping_started p info created) run
  rw [sent_timers] at conserved
  have slots : ∀ s : Threads, free s + s.window.toList.length = 1 := by
    intro s
    unfold free
    cases s.window <;> rfl
  have start := slots (Threads.started p info created)
  have final := slots ((pausing p).run (.started p info created) run).threads
  have closed : (Threads.started p info created).window.toList.length = 0 := rfl
  have unopened : freeIn (.started p info created) = free (.started p info created) := rfl
  rw [freeIn] at conserved
  rw [expiries]
  omega

end LifecycleMgr
