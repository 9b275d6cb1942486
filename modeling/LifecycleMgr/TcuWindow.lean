import LifecycleMgr.StayActive
import LifecycleMgr.Threads

namespace LifecycleMgr
open Runs

/-- The clients that have been granted a lock which they still have, as the requests tell. -/
abbrev Ledger := List UInt8 → Bool

/-- What an action enters into the ledger. -/
def enter (p : Platform) (ledger : Ledger) (s : Threads) (a : Action) : Ledger :=
  match a.registryCall p with
  | some (.unRegister name) => Function.update ledger (cleanClientName p.charSigned name) false
  | some (.stayActive name v) =>
    if name ∈ clientNames s.manager ∧
        StayActiveAllowed s.manager.nadLifecycleState s.manager.nadAdditionalInfo v then
      Function.update ledger name (v = .LC_LOCK)
    else ledger
  | _ => ledger

/-- All interleavings of the threads, with the ledger. -/
def ledgered (p : Platform) : Machine (Threads × Ledger) Action Output := (threads p).observe (enter p)

/-- The ledger names the holders of locks. -/
def Balanced (p : Platform) (x : Threads × Ledger) : Prop :=
  Running p x.1.manager ∧ ∀ n, x.2 n = true ↔ HoldsLock x.1.manager n

theorem ledger_action (p : Platform) (x : Threads × Ledger) (a : Action) (balanced : Balanced p x) :
    Balanced p ((ledgered p).next x a) := by
  obtain ⟨s,ledger⟩ := x
  obtain ⟨running,agrees⟩ := balanced
  rw [ledgered,Machine.observe_next]
  refine ⟨running_action p s a running,fun n => ?_⟩
  have clients := clients_action p s a running.ready
  cases calls : a.registryCall p with
  | none =>
    rw [calls] at clients
    rw [HoldsLock,clients,enter,calls]
    exact agrees n
  | some call =>
    rw [calls] at clients
    have locks : HoldsLock ((threads p).next s a).manager n ↔ HoldsLock (registryNext p s.manager call) n := by
      rw [HoldsLock,clients]; rfl
    rw [locks,enter,calls]
    cases call with
    | register name pState pStatus =>
      rw [locks_register]
      exact agrees n
    | unRegister name =>
      rw [locks_unRegister running.registered,← agrees n]
      by_cases own : n = cleanClientName p.charSigned name
      · simp [own]
      · simp [own]
    | stayActive name v =>
      by_cases granted : name ∈ clientNames s.manager ∧
          StayActiveAllowed s.manager.nadLifecycleState s.manager.nadAdditionalInfo v
      · simp only [if_pos granted]
        rw [locks_granted running.registered granted.1 granted.2,← agrees n]
        by_cases own : n = name
        · subst own
          simp
        · simp [own]
      · simp only [if_neg granted]
        rw [registry_kept granted]
        exact agrees n

/-- The end of a window that takes the wish to stay active back meets no lock. -/
def ExpiryRespectsLocks (p : Platform) (x : Threads × Ledger) (a : Action) : Prop :=
  a = .tcuOnlyExpiry → sendPendingAction .STAY_INACTIVE ∈ (threads p).out x.1 a → ¬ Locked x.1.manager

instance (p : Platform) (x : Threads × Ledger) (a : Action) : Decidable (ExpiryRespectsLocks p x a) :=
  inferInstanceAs (Decidable (_ → _ → _))

/-- An open window ends with an empty ledger. -/
def ExpiresUnlocked (x : Threads × Ledger) (a : Action) : Prop :=
  a = .tcuOnlyExpiry → x.1.window.isSome = true → ∀ n, x.2 n = false

private theorem expiry_step {p : Platform} (x : Threads × Ledger) (a : Action) (balanced : Balanced p x) :
    ExpiryRespectsLocks p x a ↔ ExpiresUnlocked x a := by
  obtain ⟨s,ledger⟩ := x
  have unlocked : ¬ Locked s.manager ↔ ∀ n, ledger n = false := by
    rw [locked_iff,not_exists]
    refine forall_congr' fun n => ?_
    rw [← balanced.2 n,Bool.not_eq_true]
  refine forall_congr' fun expiry => ?_
  subst expiry
  rw [unlocked]
  by_cases isOpen : s.window.isSome = true
  · have sent : sendPendingAction .STAY_INACTIVE ∈ (threads p).out s .tcuOnlyExpiry := by
      show _ ∈ (actionStep p s .tcuOnlyExpiry).2
      rw [actionStep,if_pos (show Enabled s .tcuOnlyExpiry from isOpen)]
      exact List.mem_singleton.mpr rfl
    exact ⟨fun respects _ => respects sent,fun expires _ => expires isOpen⟩
  · have silent : (threads p).out s .tcuOnlyExpiry = [] := by
      show (actionStep p s .tcuOnlyExpiry).2 = []
      rw [actionStep,if_neg (show ¬ Enabled s .tcuOnlyExpiry from isOpen)]
    rw [silent]
    exact iff_of_true (fun sent => absurd sent List.not_mem_nil) (fun closed => absurd closed isOpen)

/-- Under every interleaving, the windows respect the locks exactly when each open window ends
    with every granted lock given back. -/
theorem window_respects_iff (p : Platform) (info : AdditionalLifecycleStateInfo) (run : List Action) :
    (ledgered p).Throughout (ExpiryRespectsLocks p) (.constructed p info,fun _ => false) run ↔
      (ledgered p).Throughout ExpiresUnlocked (.constructed p info,fun _ => false) run := by
  have start : Balanced p (.constructed p info,fun _ => false) := by
    refine ⟨running_constructed p info,fun n => iff_of_false Bool.false_ne_true ?_⟩
    rintro ⟨c,member,_⟩
    exact List.not_mem_nil member
  exact Machine.throughout_congr (ledgered p) (ledger_action p) expiry_step start run

/-- A client takes a lock inside the window. -/
def lockInWindow : List Action :=
  [.call (Op.mcu (.setPowerMode 13)).call,
    .call (Op.dbus (.LC_RegisterClient clientA)).call,
    .call (Op.dbus (.LC_StayActive clientA .LC_LOCK)).call,
    .tcuOnlyExpiry]

/-- The end of the window takes the wish to stay active back under the lock. -/
theorem window_ends_under_lock :
    ¬ (ledgered samplePlatform).Throughout (ExpiryRespectsLocks samplePlatform)
      (.constructed samplePlatform sampleInfo,fun _ => false) lockInWindow := by
  decide

end LifecycleMgr
