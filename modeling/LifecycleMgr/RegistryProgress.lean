import LifecycleMgr.Linearization

namespace LifecycleMgr
open Runs Sections

/-- A thread in a call goes on unless it waits for the mutex, also out of a remote call, and the mutex is given some
    time to a thread that waits for it, if it is free again and again. -/
structure CallsGoOn (p : Platform) (s : RegistryThreads) (schedule : ℕ → RegistryStep) : Prop where
  lock : ∀ t, (registryThreads p).StronglyFair s schedule
    (fun s => (s.place t).phase = .waiting () ∧ s.mClientsMtx = none) (· = .lock t)
  go : ∀ t, (registryThreads p).Fair s schedule
    (fun s => s.place t ≠ .outside ∧ (s.place t).phase ≠ .waiting ()) (· = .go t)

/-- How far a call is from its return. -/
def Place.stage : Place → ℕ
  | .outside => 0
  | .returning _ => 1
  | .printing _ => 2
  | .printLocking _ => 3
  | .unlocked _ => 4
  | .unlocking _ => 5
  | .calling _ => 6
  | .searching _ _ _ => 7
  | .locking _ _ => 8

/-- How far a thread inside is from its unlock. -/
def Place.left (clients : List Client) : Place → ℕ
  | .searching _ _ it => clients.length - it + 3
  | .calling _ => 2
  | .unlocking _ | .printing _ => 1
  | _ => 0

/-- The thread that takes a step, if it is one of a call. -/
def RegistryStep.thread : RegistryStep → Option Nat
  | .server _ => none
  | .call t _ | .lock t | .go t => some t

section
variable {p : Platform} {s : RegistryThreads} {t : Nat}

@[simp] private theorem place_move (s : RegistryThreads) (t : Nat) (place : Place) :
    (s.move t place).place t = place := by
  show Function.update s.place t place t = place
  rw [Function.update_self]

/-- A thread stays where it is in the steps of the others. -/
private theorem place_beside {i : RegistryStep} (beside : i.thread ≠ some t) :
    ((registryThreads p).next s i).place t = s.place t := by
  show (registryThreadsStep p s i).1.place t = s.place t
  have steps := steps_of p s i
  generalize registryThreadsStep p s i = stepped at steps ⊢
  generalize takesEffect p s i = executed at steps
  cases steps with
  | nothing | server => rfl
  | blank u | begins u | ends u | writes u | returns u =>
    exact Function.update_of_ne (fun own => beside (congrArg some own.symm)) _ _
  | quiet u i own =>
    refine Function.update_of_ne (fun same => beside ?_) _ _
    rcases own with rfl | rfl <;> exact congrArg some same.symm

/-- Only by going on does a thread inside write the clients, and no other does. -/
private theorem clients_kept (exclusive : Exclusive s.mutex) (inside : (s.place t).phase = .inside ())
    {i : RegistryStep} (waits : i ≠ .go t) :
    ((registryThreads p).next s i).manager.mClients = s.manager.mClients := by
  show (registryThreadsStep p s i).1.manager.mClients = s.manager.mClients
  have owner : ∀ u, (s.place u).phase = .inside () → u = t := fun u inside' =>
    inside_unique exclusive ⟨(),inside'⟩ ⟨(),inside⟩
  have steps := steps_of p s i
  generalize registryThreadsStep p s i = stepped at steps ⊢
  generalize takesEffect p s i = executed at steps
  cases steps with
  | server i unregistered => exact clients_server p s.server unregistered
  | ends u call locals it found searches => exact absurd (congrArg _ (owner u (by rw [searches]; rfl))) waits
  | writes u it calls => exact absurd (congrArg _ (owner u (by rw [calls]; rfl))) waits
  | _ => rfl

/-- Only by going on does a thread in a call that does not wait move. -/
private theorem place_kept (called : s.place t ≠ .outside) (running : (s.place t).phase ≠ .waiting ())
    {i : RegistryStep} (waits : i ≠ .go t) : ((registryThreads p).next s i).place t = s.place t := by
  by_cases own : i.thread = some t
  · show (registryThreadsStep p s i).1.place t = s.place t
    cases i with
    | server i => cases own
    | call u call =>
      obtain rfl := Option.some.inj own
      cases place : s.place u with
      | outside => exact absurd place called
      | _ => simp only [registryThreadsStep,place]
    | lock u =>
      obtain rfl := Option.some.inj own
      cases held : s.mClientsMtx <;> cases place : s.place u <;>
        first | exact absurd (congrArg Place.phase place) running | simp only [registryThreadsStep,held,place]
    | go u =>
      obtain rfl := Option.some.inj own
      exact absurd rfl waits
  · exact place_beside own

/-- A thread that goes on out of the critical section comes nearer to its return. -/
private theorem goes_outside (called : s.place t ≠ .outside) (running : (s.place t).phase = .idle) :
    (((registryThreads p).next s (.go t)).place t).stage < (s.place t).stage := by
  show ((registryThreadsStep p s (.go t)).1.place t).stage < _
  cases place : s.place t with
  | outside => exact absurd place called
  | unlocked result | returning result => simp [registryThreadsStep,place,Place.stage]
  | _ => rw [place] at running; cases running

/-- A thread that is given the mutex comes nearer to its return. -/
private theorem takes_mutex (waits : (s.place t).phase = .waiting ()) (free : s.mClientsMtx = none) :
    (((registryThreads p).next s (.lock t)).place t).stage < (s.place t).stage := by
  show ((registryThreadsStep p s (.lock t)).1.place t).stage < _
  cases place : s.place t with
  | locking call locals => simp [registryThreadsStep,place,free,Place.stage]
  | printLocking result => simp [registryThreadsStep,place,free,Place.stage]
  | _ => rw [place] at waits; cases waits

/-- A thread that waits for the mutex goes on waiting or is given it. -/
private theorem waits_on (waits : (s.place t).phase = .waiting ()) (i : RegistryStep) :
    ((registryThreads p).next s i).place t = s.place t ∨
      (((registryThreads p).next s i).place t).stage < (s.place t).stage := by
  by_cases own : i.thread = some t
  · cases i with
    | server i => cases own
    | lock u =>
      obtain rfl := Option.some.inj own
      cases held : s.mClientsMtx with
      | none => exact .inr (takes_mutex waits held)
      | some v =>
        refine .inl ?_
        show (registryThreadsStep p s (.lock u)).1.place u = _
        cases place : s.place u <;> simp only [registryThreadsStep,held,place]
    | call u | go u =>
      obtain rfl := Option.some.inj own
      refine .inl ?_
      show (registryThreadsStep p s _).1.place u = _
      cases place : s.place u with
      | locking | printLocking => simp only [registryThreadsStep,place]
      | _ => rw [place] at waits; cases waits
  · exact .inl (place_beside own)

/-- A thread that goes on inside comes nearer to its unlock, or gives the mutex back. -/
private theorem goes_inside (inside : (s.place t).phase = .inside ()) :
    let next := (registryThreads p).next s (.go t)
    ((next.place t).phase = .inside () ∧ (next.place t).stage ≤ (s.place t).stage ∧
        (next.place t).left next.manager.mClients < (s.place t).left s.manager.mClients) ∨
      (next.mClientsMtx = none ∧ (next.place t).stage < (s.place t).stage) := by
  intro next
  have stepped : next = (registryThreadsStep p s (.go t)).1 := rfl
  cases place : s.place t with
  | searching call locals it =>
    refine .inl ?_
    cases ended : searchEnds s.manager.mClients locals.name it with
    | none =>
      have within : it < s.manager.mClients.length := by
        by_contra beyond
        rw [searchEnds,List.getElem?_eq_none (by omega)] at ended
        cases ended
      simp only [registryThreadsStep,place,ended] at stepped
      rw [stepped]
      simp only [place_move,Place.phase,Place.stage,Place.left,true_and,le_refl]
      show s.manager.mClients.length - (it + 1) + 3 < _
      omega
    | some found =>
      simp only [registryThreadsStep,place,ended] at stepped
      rw [stepped]
      simp only [RegistryThreads.move,Function.update_self]
      rcases endSearch_inside s.manager found locals with ⟨it',inside'⟩ | ⟨result,inside'⟩ <;>
        simp only [inside',Place.phase,Place.stage,Place.left,true_and] <;> omega
  | calling it =>
    simp only [registryThreadsStep,place] at stepped
    rw [stepped]
    exact .inl (by simp [RegistryThreads.move,Place.phase,Place.stage,Place.left])
  | unlocking result | printing result =>
    simp only [registryThreadsStep,place] at stepped
    rw [stepped]
    exact .inr (by simp [RegistryThreads.move,Place.stage])
  | _ => rw [place] at inside; cases inside

variable {schedule : ℕ → RegistryStep} (start : Exclusive s.mutex)
include start

private theorem exclusive_reached (p : Platform) (schedule : ℕ → RegistryStep) (n : ℕ) :
    Exclusive ((registryThreads p).reached s schedule n).mutex :=
  Machine.run_keeps (registryThreads p) (exclusive_carried (carries_mutex p)) start _

variable (goesOn : CallsGoOn p s schedule)
include goesOn

/-- A thread inside gives the mutex back, and is nearer to its return then. -/
private theorem mutex_given_back {n : ℕ}
    (inside : (((registryThreads p).reached s schedule n).place t).phase = .inside ()) :
    ∃ m, n ≤ m ∧ ((registryThreads p).reached s schedule m).mClientsMtx = none ∧
      (((registryThreads p).reached s schedule m).place t).stage <
        (((registryThreads p).reached s schedule n).place t).stage := by
  let stage := (((registryThreads p).reached s schedule n).place t).stage
  refine @Machine.descends _ _ _ (registryThreads p) s schedule
    (fun s => (s.place t).phase = .inside () ∧ (s.place t).stage ≤ stage)
    (fun s => s.mClientsMtx = none ∧ (s.place t).stage < stage)
    (fun s => (s.place t).left s.manager.mClients) (fun k here => ?_) n ⟨inside,Nat.le_refl stage⟩
  obtain ⟨inside,near⟩ := here
  let here := (registryThreads p).reached s schedule k
  have called : here.place t ≠ .outside := by
    intro outside
    rw [outside] at inside
    cases inside
  have running : (here.place t).phase ≠ .waiting () := by
    rw [inside]
    exact fun waits => by cases waits
  have nearer : ∀ s' : RegistryThreads, s'.place t = here.place t → s'.manager.mClients = here.manager.mClients →
      let next := (registryThreads p).next s' (.go t)
      (next.mClientsMtx = none ∧ (next.place t).stage < stage) ∨
        ((next.place t).phase = .inside () ∧ (next.place t).stage ≤ stage) ∧
          (next.place t).left next.manager.mClients < (here.place t).left here.manager.mClients := by
    intro s' place clients next
    have inside' : (s'.place t).phase = .inside () := by rw [place]; exact inside
    have goes := goes_inside (p := p) inside'
    rw [place,clients] at goes
    rcases goes with ⟨still,fore,less⟩ | ⟨free,fore⟩
    · exact .inr ⟨⟨still,Nat.le_trans fore near⟩,less⟩
    · exact .inl ⟨free,Nat.lt_of_lt_of_le fore near⟩
  -- nothing of this changes until the thread goes on
  refine Machine.ensures (goesOn.go t)
    (P := fun s => Exclusive s.mutex ∧ s.place t = here.place t ∧ s.manager.mClients = here.manager.mClients)
    (Q := fun s => (s.mClientsMtx = none ∧ (s.place t).stage < stage) ∨
      ((s.place t).phase = .inside () ∧ (s.place t).stage ≤ stage) ∧
        (s.place t).left s.manager.mClients < (here.place t).left here.manager.mClients)
    ?_ ?_ ?_ ⟨exclusive_reached start p schedule k,rfl,rfl⟩
  · rintro s' ⟨_,place,_⟩
    rw [place]
    exact ⟨called,running⟩
  · rintro s' i ⟨exclusive,place,clients⟩
    have inside' : (s'.place t).phase = .inside () := by rw [place]; exact inside
    by_cases goes : i = .go t
    · rw [goes]
      exact .inr (nearer s' place clients)
    · have kept := place_kept (p := p) (s := s') (t := t) (by rw [place]; exact called)
        (by rw [place]; exact running) goes
      exact .inl ⟨exclusive_carried (carries_mutex p) s' i exclusive,kept.trans place,
        (clients_kept exclusive inside' goes).trans clients⟩
  · rintro s' i ⟨_,place,clients⟩ rfl
    exact nearer s' place clients

/-- Each thread is out of its call again and again. -/
theorem outside_again (t : Nat) (n : ℕ) :
    ∃ m, n ≤ m ∧ ((registryThreads p).reached s schedule m).place t = .outside := by
  have free : ∀ n, ∃ m, n ≤ m ∧ ((registryThreads p).reached s schedule m).mClientsMtx = none := fun n =>
    lock_free (carries_mutex p) start (fun t _ n inside =>
      (mutex_given_back start goesOn inside).imp fun _ there => ⟨there.1,there.2.1⟩) n
  refine @Machine.descends _ _ _ (registryThreads p) s schedule (fun _ => True) (fun s => s.place t = .outside)
    (fun s => (s.place t).stage) (fun k _ => ?_) n trivial
  let here := (registryThreads p).reached s schedule k
  by_cases called : here.place t = .outside
  · exact ⟨k,Nat.le_refl k,.inl called⟩
  cases phase : (here.place t).phase with
  | inside =>
    obtain ⟨m,later,_,nearer⟩ := mutex_given_back start goesOn phase
    exact ⟨m,later,.inr ⟨trivial,nearer⟩⟩
  | idle =>
    have goes : ∀ s' : RegistryThreads, s'.place t = here.place t →
        (((registryThreads p).next s' (.go t)).place t).stage < (here.place t).stage := by
      intro s' place
      rw [← place]
      exact goes_outside (by rw [place]; exact called) (by rw [place]; exact phase)
    obtain ⟨m,later,nearer⟩ := Machine.ensures (goesOn.go t) (P := fun s => s.place t = here.place t)
      (Q := fun s => (s.place t).stage < (here.place t).stage)
      (fun s' place => by rw [place,phase]; exact ⟨called,fun waits => by cases waits⟩)
      (fun s' i place => by
        by_cases own : i = .go t
        · rw [own]
          exact .inr (goes s' place)
        · exact .inl ((place_kept (by rw [place]; exact called)
            (by rw [place,phase]; exact fun waits => by cases waits) own).trans place))
      (fun s' i place due => by rw [due]; exact goes s' place) (n := k) rfl
    exact ⟨m,later,.inr ⟨trivial,nearer⟩⟩
  | waiting =>
    obtain ⟨m,later,nearer⟩ := Machine.strongly_ensures (goesOn.lock t) (P := fun s => s.place t = here.place t)
      (Q := fun s => (s.place t).stage < (here.place t).stage) (E := fun s => s.mClientsMtx = none) free
      (fun s' place free => ⟨by rw [place]; exact phase,free⟩)
      (fun s' i place => by
        have waits := waits_on (p := p) (s := s') (t := t) (by rw [place]; exact phase) i
        rw [place] at waits
        exact waits)
      (fun s' i place enabled due => by
        rw [due,← place]
        exact takes_mutex enabled.1 enabled.2) (n := k) rfl
    exact ⟨m,later,.inr ⟨trivial,nearer⟩⟩

end

/-- In every schedule in which the threads go on and the mutex is given to those that wait for it, each thread is out
    of its call again and again. Then each of its calls has returned once, with what it returns at once, and has been
    answered once, unless it unregisters a name of padding only: that is never answered. -/
theorem calls_answered (p : Platform) (info : AdditionalLifecycleStateInfo) (created : Bool)
    (schedule : ℕ → RegistryStep) (goesOn : CallsGoOn p (.started p info created) schedule) (t : Nat) :
    let start := RegistryThreads.started p info created
    ∀ n, ∃ m, n ≤ m ∧ ((registryThreads p).reached start schedule m).place t = .outside ∧
      let sequence := (registryThreads p).translate (takesEffect p) start (Machine.before schedule m)
      let calls := (registryThreads p).translate (calledBy t) start (Machine.before schedule m)
      let outputs := (registryThreads p).emitted start schedule m
      outputs.filterMap (returnTo t) = ((executions p).outputs start.server sequence).filterMap (returnTo t) ∧
        List.Forall₂ (ReturnsWith p) calls (outputs.filterMap (returnTo t)) ∧
        (outputs.filterMap (answerTo t)).length = calls.countP (RegistryCall.replies p) := by
  intro start n
  have orderly : Orderly p start := orderly_started p info created
  obtain ⟨m,later,outside⟩ := outside_again orderly.exclusive goesOn t n
  have place : ((registryThreads p).run start (Machine.before schedule m)).place t = .outside := outside
  have returned := returns_run orderly (Machine.before schedule m) t
  have called := calls_run p start (Machine.before schedule m) t
  rw [place] at returned called
  have results : ((executions p).outputs start.server _).filterMap (returnTo t) =
      ((registryThreads p).emitted start schedule m).filterMap (returnTo t) := returned.trans (List.append_nil _)
  have calls : (registryThreads p).translate (calledBy t) start (Machine.before schedule m) = _ :=
    called.trans (List.append_nil _)
  have each := returns_atOnce p start.server
    ((registryThreads p).translate (takesEffect p) start (Machine.before schedule m)) t
  rw [results,← calls] at each
  exact ⟨m,later,outside,results.symm,each,answers_count each⟩

/-- A thread registers a client, and nothing happens after that. -/
def registersInSteps : ℕ → RegistryStep
  | 0 => .call 0 (.register clientA .NAD_INIT .LC_STS_NOT_OK_CLIENT_NOT_REGISTERED)
  | 1 => .lock 0
  | 2 | 3 | 4 => .go 0
  | 5 => .lock 0
  | 6 | 7 => .go 0
  | _ => .server .pauseEnd

/-- The registration is answered some time. -/
theorem registered_inSteps :
    let start := RegistryThreads.started samplePlatform sampleInfo false
    ∃ m, 8 ≤ m ∧ ((registryThreads samplePlatform).reached start registersInSteps m).place 0 = .outside ∧
      let sequence := (registryThreads samplePlatform).translate (takesEffect samplePlatform) start
        (Machine.before registersInSteps m)
      let calls := (registryThreads samplePlatform).translate (calledBy 0) start (Machine.before registersInSteps m)
      let outputs := (registryThreads samplePlatform).emitted start registersInSteps m
      outputs.filterMap (returnTo 0) =
          ((executions samplePlatform).outputs start.server sequence).filterMap (returnTo 0) ∧
        List.Forall₂ (ReturnsWith samplePlatform) calls (outputs.filterMap (returnTo 0)) ∧
        (outputs.filterMap (answerTo 0)).length = calls.countP (RegistryCall.replies samplePlatform) := by
  intro start
  have outside : ∀ k t,
      ((registryThreads samplePlatform).reached start registersInSteps (k + 8)).place t = .outside := by
    intro k t
    induction k with
    | zero =>
      by_cases own : t = 0
      · subst own
        rfl
      · have beside : ∀ n, ((registryThreads samplePlatform).reached start registersInSteps n).place t = .outside := by
          intro n
          induction n with
          | zero => rfl
          | succ n ih =>
            rw [Machine.reached_succ,place_beside ?_]
            · exact ih
            · unfold registersInSteps
              split <;> simp [RegistryStep.thread,Ne.symm own]
        exact beside 8
    | succ k ih =>
      rw [Nat.add_right_comm,Machine.reached_succ,place_beside]
      · exact ih
      · exact fun own => by cases own
  have goesOn : CallsGoOn samplePlatform start registersInSteps := by
    constructor
    · intro t n again
      obtain ⟨m,later,waits,_⟩ := again (n + 8) (Nat.le_add_right n 8)
      obtain ⟨k,rfl⟩ := Nat.exists_eq_add_of_le' (Nat.le_trans (Nat.le_add_left 8 n) later)
      rw [outside k t] at waits
      cases waits
    · intro t n always
      exact absurd (outside n t) (always (n + 8) (Nat.le_add_right n 8)).1
  exact calls_answered samplePlatform sampleInfo false registersInSteps goesOn 0 8

end LifecycleMgr
