import LifecycleMgr.Answers
import LifecycleMgr.Pauses
import LifecycleMgr.Schedules

namespace LifecycleMgr
open Runs

/-- The thread of the MCU client is in no sleep. -/
def Awake (s : Pausing) : Prop := s.pausing = false ∧ s.threads.window = none

/-- Sleeps end, and remote calls return. -/
structure GoesOn (p : Platform) (s : Pausing) (schedule : ℕ → PausingAction) : Prop where
  pauseEnd : (pausing p).Fair s schedule (fun s => s.pausing = true) (· = .pauseEnd)
  expiry : (pausing p).Fair s schedule (fun s => s.threads.window.isSome = true) (· = .take .tcuOnlyExpiry)
  wakeupWrite : (pausing p).Fair s schedule (fun s => 0 < s.threads.wakeups) (· = .take .wakeupWrite)

/-- The requests made by the first actions of a schedule. -/
def askedBefore (p : Platform) (schedule : ℕ → PausingAction) (n : ℕ) : Multiset RequestKind :=
  ((Machine.before schedule n).map (PausingAction.asks p)).sum

section
variable {p : Platform}

/-- A pause lasts until it ends, and then a window is open. -/
private theorem pause_lasts {s : Pausing} (i : PausingAction) (inPause : s.pausing = true) :
    ((pausing p).next s i).pausing = true ∨
      ((pausing p).next s i).pausing = false ∧ ((pausing p).next s i).threads.window.isSome = true := by
  show (pausingStep p s i).1.pausing = true ∨
    (pausingStep p s i).1.pausing = false ∧ (pausingStep p s i).1.threads.window.isSome = true
  rcases pausing_cases p s i with ⟨_,stays⟩ | ⟨a,rfl,_,taken⟩ | ⟨a,rfl,_,_,begun⟩ | ⟨rfl,_,ended⟩
  · rw [stays]
    exact .inl inPause
  · rw [taken]
    exact .inl inPause
  · rw [begun]
    exact .inl rfl
  · rw [ended]
    exact .inr ⟨rfl,rfl⟩

private theorem pause_over {s : Pausing} (inPause : s.pausing = true) :
    ((pausing p).next s .pauseEnd).pausing = false ∧
      ((pausing p).next s .pauseEnd).threads.window.isSome = true := by
  show (pausingStep p s .pauseEnd).1.pausing = false ∧ (pausingStep p s .pauseEnd).1.threads.window.isSome = true
  rw [pausingStep,if_pos inPause]
  exact ⟨rfl,rfl⟩

/-- No pause begins while a window is open. -/
private theorem window_lasts {s : Pausing} (i : PausingAction) (noPause : s.pausing = false)
    (isOpen : s.threads.window.isSome = true) : ((pausing p).next s i).pausing = false := by
  show (pausingStep p s i).1.pausing = false
  rcases pausing_cases p s i with ⟨_,stays⟩ | ⟨a,rfl,_,taken⟩ | ⟨a,_,_,⟨opens,_,_⟩,_⟩ | ⟨_,inPause,_⟩
  · rw [stays]
    exact noPause
  · rw [taken]
    exact noPause
  · rw [(opens_byClientThread opens).2] at isOpen
    cases isOpen
  · rw [noPause] at inPause
    cases inPause

private theorem window_over {s : Pausing} (noPause : s.pausing = false)
    (isOpen : s.threads.window.isSome = true) : Awake ((pausing p).next s (.take .tcuOnlyExpiry)) := by
  have free : ¬ s.Blocked .tcuOnlyExpiry :=
    fun blocked => Bool.false_ne_true (noPause.symm.trans blocked.1)
  have stays : ¬ Pauses s.threads .tcuOnlyExpiry := fun pauses => pauses.1
  have enabled : Enabled s.threads .tcuOnlyExpiry := isOpen
  show Awake (pausingStep p s (.take .tcuOnlyExpiry)).1
  rw [pausingStep,if_neg free,if_neg stays,actionStep,if_pos enabled]
  exact ⟨noPause,rfl⟩

/-- A machine that carries the server, with the inputs that end its sleeps. -/
structure CarriesServer {σ ι ο : Type*} (p : Platform) (M : Machine σ ι ο) (server : σ → Pausing)
    (pauseEnd expiry : ι) : Prop where
  step : M.Carries (pausing p) server
  pauseEnd : ∀ s, server (M.next s pauseEnd) = (pausing p).next (server s) .pauseEnd
  expiry : ∀ s, server (M.next s expiry) = (pausing p).next (server s) (.take .tcuOnlyExpiry)

section
variable {σ ι ο : Type*} {M : Machine σ ι ο} {server : σ → Pausing} {pauseEnd expiry : ι}
  (carries : CarriesServer p M server pauseEnd expiry) {K : σ → Prop}
  (kept : ∀ s i, ¬ Awake (server s) → K s → K (M.next s i)) {s : σ} {schedule : ℕ → ι}
include carries kept

private theorem window_ends
    (fair : M.Fair s schedule (fun s => (server s).threads.window.isSome = true) (· = expiry)) {n : ℕ}
    (noPause : (server (M.reached s schedule n)).pausing = false)
    (isOpen : (server (M.reached s schedule n)).threads.window.isSome = true) (start : K (M.reached s schedule n)) :
    ∃ m, n ≤ m ∧ Awake (server (M.reached s schedule m)) ∧ K (M.reached s schedule m) := by
  have asleep : ∀ s, (server s).threads.window.isSome = true → ¬ Awake (server s) := by
    intro s isOpen awake
    rw [awake.2] at isOpen
    cases isOpen
  refine Machine.ensures fair
    (P := fun s => (server s).pausing = false ∧ (server s).threads.window.isSome = true ∧ K s)
    (Q := fun s => Awake (server s) ∧ K s) (fun s here => here.2.1) ?_ ?_ ⟨noPause,isOpen,start⟩
  · rintro s i ⟨noPause,isOpen,here⟩
    have there := kept s i (asleep s isOpen) here
    have still : (server (M.next s i)).pausing = false := by
      rcases carries.step s i with stays | ⟨a,taken⟩
      · rw [stays]
        exact noPause
      · rw [taken]
        exact window_lasts a noPause isOpen
    cases window : (server (M.next s i)).threads.window with
    | none => exact .inr ⟨⟨still,window⟩,there⟩
    | some timerVal => exact .inl ⟨still,rfl,there⟩
  · rintro s i ⟨noPause,isOpen,here⟩ (due : i = expiry)
    rw [due]
    refine ⟨?_,kept s expiry (asleep s isOpen) here⟩
    rw [carries.expiry]
    exact window_over noPause isOpen

private theorem pause_ends (fair : M.Fair s schedule (fun s => (server s).pausing = true) (· = pauseEnd)) {n : ℕ}
    (inPause : (server (M.reached s schedule n)).pausing = true) (start : K (M.reached s schedule n)) :
    ∃ m, n ≤ m ∧ (server (M.reached s schedule m)).pausing = false ∧
      (server (M.reached s schedule m)).threads.window.isSome = true ∧ K (M.reached s schedule m) := by
  have asleep : ∀ s, (server s).pausing = true → ¬ Awake (server s) :=
    fun s inPause awake => Bool.false_ne_true (awake.1.symm.trans inPause)
  refine Machine.ensures fair (P := fun s => (server s).pausing = true ∧ K s)
    (Q := fun s => (server s).pausing = false ∧ (server s).threads.window.isSome = true ∧ K s)
    (fun s here => here.1) ?_ ?_ ⟨inPause,start⟩
  · rintro s i ⟨inPause,here⟩
    have there := kept s i (asleep s inPause) here
    rcases carries.step s i with stays | ⟨a,taken⟩
    · rw [stays]
      exact .inl ⟨inPause,there⟩
    · rw [taken]
      rcases pause_lasts a inPause with still | ⟨noPause,isOpen⟩
      · exact .inl ⟨still,there⟩
      · exact .inr ⟨noPause,isOpen,there⟩
  · rintro s i ⟨inPause,here⟩ (due : i = pauseEnd)
    obtain ⟨noPause,isOpen⟩ := @pause_over p _ inPause
    rw [due,carries.pauseEnd]
    exact ⟨noPause,isOpen,kept s pauseEnd (asleep s inPause) here⟩

/-- When sleeps end, the thread of the MCU client wakes up, and finds what no step changes in its sleep. -/
theorem sleep_ends (pauseFair : M.Fair s schedule (fun s => (server s).pausing = true) (· = pauseEnd))
    (expiryFair : M.Fair s schedule (fun s => (server s).threads.window.isSome = true) (· = expiry)) {n : ℕ}
    (start : K (M.reached s schedule n)) :
    ∃ m, n ≤ m ∧ Awake (server (M.reached s schedule m)) ∧ K (M.reached s schedule m) := by
  cases inPause : (server (M.reached s schedule n)).pausing with
  | true =>
    obtain ⟨k,later,noPause,isOpen,there⟩ := pause_ends carries kept pauseFair inPause start
    obtain ⟨m,stillLater,awake⟩ := window_ends carries kept expiryFair noPause isOpen there
    exact ⟨m,Nat.le_trans later stillLater,awake⟩
  | false =>
    cases window : (server (M.reached s schedule n)).threads.window with
    | none => exact ⟨n,Nat.le_refl n,⟨inPause,window⟩,start⟩
    | some timerVal => exact window_ends carries kept expiryFair inPause (by rw [window]; rfl) start

end

variable {s : Pausing} {schedule : ℕ → PausingAction}

private theorem wakes_up (goesOn : GoesOn p s schedule) (n : ℕ) :
    ∃ m, n ≤ m ∧ Awake ((pausing p).reached s schedule m) := by
  have carries : CarriesServer p (pausing p) id .pauseEnd (.take .tcuOnlyExpiry) :=
    ⟨fun s i => .inr ⟨i,rfl⟩,fun _ => rfl,fun _ => rfl⟩
  obtain ⟨m,later,awake,_⟩ := sleep_ends carries (K := fun _ => True) (fun _ _ _ _ => trivial) goesOn.pauseEnd
    goesOn.expiry (n := n) trivial
  exact ⟨m,later,awake⟩

/-- The wakeups answered by the first actions of a schedule. -/
private def wakeupsAnswered (p : Platform) (s : Pausing) (schedule : ℕ → PausingAction) (n : ℕ) : ℕ :=
  (answered ((pausing p).emitted s schedule n)).count .LC_Wakeup

private theorem asked_mono {n m : ℕ} (later : n ≤ m) : askedBefore p schedule n ≤ askedBefore p schedule m := by
  induction m, later using Nat.le_induction with
  | base => exact le_rfl
  | succ m _ ih =>
    have split : askedBefore p schedule (m + 1) = askedBefore p schedule m + (schedule m).asks p := by
      rw [askedBefore,Machine.before_succ,List.map_append,List.sum_append]
      exact congrArg (_ + ·) (add_zero _)
    rw [split]
    exact ih.trans (Multiset.le_add_right _ _)

/-- What is asked is answered, or is a wakeup in its remote call. -/
private theorem balance (quiet : pending s = 0) (n : ℕ) :
    Multiset.replicate ((pausing p).reached s schedule n).threads.wakeups .LC_Wakeup +
      answered ((pausing p).emitted s schedule n) = askedBefore p schedule n := by
  have balanced := answers_balance p s (Machine.before schedule n)
  rw [quiet,zero_add] at balanced
  exact balanced

private theorem wakeups_balance (quiet : pending s = 0) (n : ℕ) :
    ((pausing p).reached s schedule n).threads.wakeups + wakeupsAnswered p s schedule n =
      (askedBefore p schedule n).count .LC_Wakeup := by
  rw [← balance quiet n,Multiset.count_add,Multiset.count_replicate_self]; rfl

private theorem wakeupsAnswered_mono {n m : ℕ} (later : n ≤ m) :
    wakeupsAnswered p s schedule n ≤ wakeupsAnswered p s schedule m := by
  induction m, later using Nat.le_induction with
  | base => exact Nat.le_refl _
  | succ m _ ih =>
    have split : wakeupsAnswered p s schedule (m + 1) = wakeupsAnswered p s schedule m +
        (answered ((pausing p).out ((pausing p).reached s schedule m) (schedule m))).count .LC_Wakeup := by
      rw [wakeupsAnswered,Machine.emitted_succ,answered,Machine.sent_append,Multiset.count_add]; rfl
    rw [split]
    exact Nat.le_add_right_of_le ih

/-- The write of a wakeup answers it. -/
private theorem wakeup_written {k : ℕ} (waiting : 0 < ((pausing p).reached s schedule k).threads.wakeups)
    (writes : schedule k = .take .wakeupWrite) :
    ((pausing p).reached s schedule (k + 1)).threads.wakeups + 1 =
      ((pausing p).reached s schedule k).threads.wakeups := by
  rw [Machine.reached_succ,writes]
  generalize (pausing p).reached s schedule k = s' at waiting ⊢
  have free : ¬ s'.Blocked .wakeupWrite := fun blocked => Bool.false_ne_true blocked.2
  have stays : ¬ Pauses s'.threads .wakeupWrite := fun pauses => pauses.1
  have enabled : Enabled s'.threads .wakeupWrite := waiting
  show (pausingStep p s' (.take .wakeupWrite)).1.threads.wakeups + 1 = _
  rw [pausingStep,if_neg free,if_neg stays,actionStep,if_pos enabled]
  exact Nat.succ_pred_eq_of_pos waiting

private theorem wakeups_answered (quiet : pending s = 0) (goesOn : GoesOn p s schedule) (n : ℕ) :
    ∃ m, n ≤ m ∧ (askedBefore p schedule n).count .LC_Wakeup ≤ wakeupsAnswered p s schedule m := by
  have asked : ∀ k, n ≤ k →
      (askedBefore p schedule n).count .LC_Wakeup ≤ (askedBefore p schedule k).count .LC_Wakeup :=
    fun k later => Multiset.count_le_of_le _ (asked_mono later)
  have enough := @Machine.reaches (fun k => wakeupsAnswered p s schedule (n + k))
    ((askedBefore p schedule n).count .LC_Wakeup) ?_ 0
  · obtain ⟨k,_,large⟩ := enough
    exact ⟨n + k,Nat.le_add_right n k,large⟩
  · intro k short
    -- too few are answered, so one is in its remote call until it is answered
    have waits : ∀ j, n + k ≤ j → wakeupsAnswered p s schedule j ≤ wakeupsAnswered p s schedule (n + k) →
        0 < ((pausing p).reached s schedule j).threads.wakeups := by
      intro j later few
      have balanced := @wakeups_balance p s schedule quiet j
      have more := asked j (by omega)
      omega
    obtain ⟨m,later,more⟩ := Machine.leads_to goesOn.wakeupWrite
      (P := fun j => n + k ≤ j ∧ wakeupsAnswered p s schedule j ≤ wakeupsAnswered p s schedule (n + k))
      (Q := fun j => n + k ≤ j ∧ wakeupsAnswered p s schedule (n + k) < wakeupsAnswered p s schedule j)
      (fun j both => waits j both.1 both.2)
      (by
        rintro j ⟨later,_⟩ few
        refine ⟨by omega,?_⟩
        by_contra more
        exact few ⟨by omega,by omega⟩)
      (by
        rintro j ⟨later,few⟩ writes
        have written := wakeup_written (waits j later few) writes
        have now := @wakeups_balance p s schedule quiet j
        have next := @wakeups_balance p s schedule quiet (j + 1)
        have mono := Multiset.count_le_of_le .LC_Wakeup (@asked_mono p schedule j (j + 1) (by omega))
        have before := @wakeupsAnswered_mono p s schedule (n + k) j later
        exact ⟨by omega,by omega⟩)
      ⟨Nat.le_refl _,Nat.le_refl _⟩
    obtain ⟨late,grown⟩ := more
    refine ⟨m - n,by omega,?_⟩
    rw [Nat.add_sub_cancel' (by omega)]
    exact grown

end

/-- In every schedule in which sleeps end and remote calls return, the thread of the MCU client is awake again and
    again, and at every moment the requests made so far will all have been answered, as many of each kind. An
    unregistration of a name of padding only asks for no answer, and gets none. -/
theorem all_progress (p : Platform) (info : AdditionalLifecycleStateInfo) (created : Bool)
    (schedule : ℕ → PausingAction) (goesOn : GoesOn p (.started p info created) schedule) :
    (∀ n, ∃ m, n ≤ m ∧ Awake ((pausing p).reached (.started p info created) schedule m)) ∧
      ∀ n, ∃ m, n ≤ m ∧
        askedBefore p schedule n ≤ answered ((pausing p).emitted (.started p info created) schedule m) := by
  refine ⟨wakes_up goesOn,fun n => ?_⟩
  have quiet : pending (.started p info created) = 0 := rfl
  obtain ⟨m,later,wakeups⟩ := wakeups_answered quiet goesOn n
  refine ⟨m,later,Multiset.le_iff_count.mpr fun kind => ?_⟩
  by_cases wakeup : kind = .LC_Wakeup
  · rw [wakeup]
    exact wakeups
  · have balanced := congrArg (Multiset.count kind) (@balance p _ schedule quiet m)
    rw [Multiset.count_add,Multiset.count_replicate,if_neg (Ne.symm wakeup),zero_add] at balanced
    rw [balanced]
    exact Multiset.count_le_of_le kind (asked_mono later)

/-- A wakeup in a listen mode, and then the ends of sleeps and remote calls in turn. -/
def wakeupThenRest (n : ℕ) : PausingAction :=
  if n = 0 then .take (.call (Op.mcu (.setPowerMode 15)).call)
  else if n = 1 then .take (.call (Op.dbus .LC_Wakeup).call)
  else if n % 3 = 2 then .pauseEnd
  else if n % 3 = 0 then .take .tcuOnlyExpiry
  else .take .wakeupWrite

/-- The wakeup is answered. -/
theorem wakeup_progress : ∃ m, 2 ≤ m ∧ askedBefore samplePlatform wakeupThenRest 2 ≤
    answered ((pausing samplePlatform).emitted (.started samplePlatform sampleInfo false) wakeupThenRest m) := by
  have rest : ∀ n, wakeupThenRest (3 * n + 2) = .pauseEnd ∧ wakeupThenRest (3 * n + 3) = .take .tcuOnlyExpiry ∧
      wakeupThenRest (3 * n + 4) = .take .wakeupWrite := by
    intro n
    refine ⟨?_,?_,?_⟩
    · rw [wakeupThenRest,if_neg (by omega),if_neg (by omega),if_pos (by omega)]
    · rw [wakeupThenRest,if_neg (by omega),if_neg (by omega),if_neg (by omega),if_pos (by omega)]
    · rw [wakeupThenRest,if_neg (by omega),if_neg (by omega),if_neg (by omega),if_neg (by omega)]
  have goesOn : GoesOn samplePlatform (.started samplePlatform sampleInfo false) wakeupThenRest :=
    ⟨Machine.fair_of_recurs _ _ _ (fun n => ⟨3 * n + 2,by omega,(rest n).1⟩) _,
      Machine.fair_of_recurs _ _ _ (fun n => ⟨3 * n + 3,by omega,(rest n).2.1⟩) _,
      Machine.fair_of_recurs _ _ _ (fun n => ⟨3 * n + 4,by omega,(rest n).2.2⟩) _⟩
  exact (all_progress samplePlatform sampleInfo false wakeupThenRest goesOn).2 2

end LifecycleMgr
