import LifecycleMgr.Schedules
import Mathlib.Logic.Function.Basic

/-!
Jobs under a lock. A thread that asks for a job waits for the lock, runs the first half
of the job when it takes the lock, and the second half when it releases it; a value that
is known only then may decide the second half. In every interleaving of the threads at
most one is inside (`exclusive_run`, `inside_unique`), what the halves put out is what
whole jobs put out, one after the other (`sections_atomic`), the jobs are finished in
the order in which they were entered (`finished_order`), and a thread finishes its own
in the order in which it asked for them (`asked_order`). When the thread inside leaves,
and the lock, if it is free again and again, is given to a thread that waits, each thread
becomes idle again and again (`idle_again`).
-/
namespace Sections
open Runs
variable {τ J R ο : Type}

/-- What the two halves of a job put out. -/
structure Halves (J R ο : Type) where
  first : J → List ο
  last : J → R → List ο

inductive Phase (J : Type)
  | idle
  | waiting (j : J)
  | inside (j : J)
  deriving DecidableEq

/-- The phases of the threads, and the thread that holds the lock. -/
structure Guarded (τ J : Type) where
  phase : τ → Phase J
  holder : Option τ

inductive Step (τ J R : Type)
  | ask (t : τ) (j : J)
  | enter (t : τ)
  | leave (t : τ) (r : R)
  deriving DecidableEq

/-- No thread has asked for a job. -/
def Guarded.idle : Guarded τ J := ⟨fun _ => .idle,none⟩

/-- The job that the holder of the lock is inside of. -/
def insideOf (s : Guarded τ J) : List J :=
  match s.holder.map s.phase with
  | some (.inside j) => [j]
  | _ => []

/-- What the thread inside has put out already. -/
def begun (h : Halves J R ο) (s : Guarded τ J) : List ο := (insideOf s).flatMap h.first

/-- The holder of the lock, and no other thread, is inside. -/
def Exclusive (s : Guarded τ J) : Prop := ∀ t, (∃ j, s.phase t = .inside j) ↔ s.holder = some t

theorem exclusive_idle : Exclusive (.idle : Guarded τ J) := by
  intro t
  refine iff_of_false ?_ (Option.some_ne_none t).symm
  rintro ⟨j,inside⟩
  cases inside

/-- At most one thread is inside. -/
theorem inside_unique {s : Guarded τ J} (exclusive : Exclusive s) {t u : τ} (inside : ∃ j, s.phase t = .inside j)
    (inside' : ∃ j, s.phase u = .inside j) : t = u := by
  have holder := (exclusive t).mp inside
  have holder' := (exclusive u).mp inside'
  rw [holder] at holder'
  exact Option.some.inj holder'

private theorem inside_free {s : Guarded τ J} (free : s.holder = none) : insideOf s = [] := by
  rw [insideOf,free]; rfl

private theorem inside_held {s : Guarded τ J} {t : τ} {j : J} (held : s.holder = some t)
    (inside : s.phase t = .inside j) : insideOf s = [j] := by
  rw [insideOf,held,Option.map_some,inside]

section
variable [DecidableEq τ] (h : Halves J R ο)

/-- A step that the thread cannot take does nothing: it asks only when idle, and enters only when the lock is free. -/
def guardedStep (s : Guarded τ J) : Step τ J R → Guarded τ J × List ο
  | .ask t j =>
    match s.phase t with
    | .idle => ({ s with phase := Function.update s.phase t (.waiting j) },[])
    | _ => (s,[])
  | .enter t =>
    match s.phase t,s.holder with
    | .waiting j,none => ({ phase := Function.update s.phase t (.inside j), holder := some t },h.first j)
    | _,_ => (s,[])
  | .leave t r =>
    match s.phase t with
    | .inside j => ({ phase := Function.update s.phase t .idle, holder := none },h.last j r)
    | _ => (s,[])

def guarded : Machine (Guarded τ J) (Step τ J R) ο := ⟨guardedStep h⟩

/-- Whole jobs, one after the other. -/
def whole : Machine Unit (J × R) ο := ⟨fun _ job => ((),h.first job.1 ++ h.last job.1 job.2)⟩

theorem whole_outputs (jobs : List (J × R)) :
    (whole h).outputs () jobs = jobs.flatMap (fun job => h.first job.1 ++ h.last job.1 job.2) := by
  induction jobs with
  | nil => rfl
  | cons job jobs ih => exact congrArg (_ ++ ·) ih

/-- The job that a step finishes, if it finishes one. -/
def finished (s : Guarded τ J) : Step τ J R → List (J × R)
  | .leave t r =>
    match s.phase t with
    | .inside j => [(j,r)]
    | _ => []
  | _ => []

/-- The jobs that a thread asks for. -/
def asked (t : τ) (s : Guarded τ J) : Step τ J R → List J
  | .ask u j =>
    if u = t then
      match s.phase u with
      | .idle => [j]
      | _ => []
    else []
  | _ => []

/-- The job that a step enters, if it enters one. -/
def entered (s : Guarded τ J) : Step τ J R → List J
  | .enter t =>
    match s.phase t,s.holder with
    | .waiting j,none => [j]
    | _,_ => []
  | _ => []

/-- The jobs that a thread finishes. -/
def finishedBy (t : τ) (s : Guarded τ J) : Step τ J R → List (J × R)
  | .leave u r => if u = t then finished s (.leave u r) else []
  | _ => []

/-- The job that a thread has asked for and not finished. -/
def unfinished (t : τ) (s : Guarded τ J) : List J :=
  match s.phase t with
  | .idle => []
  | .waiting j => [j]
  | .inside j => [j]

/-! ### Steps -/

variable {h} {s : Guarded τ J}

/-- A step asks, enters, leaves or does nothing. -/
theorem guarded_cases (i : Step τ J R) :
    (guardedStep h s i = (s,[]) ∧ (∀ t, asked t s i = []) ∧ entered s i = [] ∧ finished s i = []) ∨
      (∃ t j, i = .ask t j ∧ s.phase t = .idle ∧
        guardedStep h s i = ({ s with phase := Function.update s.phase t (.waiting j) },[])) ∨
      (∃ t j, i = .enter t ∧ s.phase t = .waiting j ∧ s.holder = none ∧ entered s i = [j] ∧
        guardedStep h s i = ({ phase := Function.update s.phase t (.inside j), holder := some t },h.first j)) ∨
      ∃ t j r, i = .leave t r ∧ s.phase t = .inside j ∧ finished s i = [(j,r)] ∧
        guardedStep h s i = ({ phase := Function.update s.phase t .idle, holder := none },h.last j r) := by
  cases i with
  | ask t j =>
    cases phase : s.phase t with
    | idle => exact .inr (.inl ⟨t,j,rfl,phase,by simp only [guardedStep,phase]⟩)
    | _ => exact .inl ⟨by simp only [guardedStep,phase],fun u => by simp only [asked,phase,ite_self],rfl,rfl⟩
  | enter t =>
    cases phase : s.phase t with
    | waiting j =>
      cases held : s.holder with
      | none =>
        exact .inr (.inr (.inl ⟨t,j,rfl,phase,rfl,by simp only [entered,phase,held],
          by simp only [guardedStep,phase,held]⟩))
      | some u =>
        exact .inl ⟨by simp only [guardedStep,phase,held],fun _ => rfl,by simp only [entered,phase,held],rfl⟩
    | _ => exact .inl ⟨by simp only [guardedStep,phase],fun _ => rfl,by simp only [entered,phase],rfl⟩
  | leave t r =>
    cases phase : s.phase t with
    | inside j =>
      exact .inr (.inr (.inr ⟨t,j,r,rfl,phase,by simp only [finished,phase],by simp only [guardedStep,phase]⟩))
    | _ => exact .inl ⟨by simp only [guardedStep,phase],fun _ => rfl,rfl,by simp only [finished,phase]⟩

/-- A thread that moves to a phase outside, while no thread or only itself is inside, leaves none inside. -/
private theorem exclusive_outside {t : τ} {phase : Phase J} (outside : ∀ j, phase ≠ .inside j)
    (others : ∀ u, u ≠ t → ¬ ∃ j, s.phase u = .inside j) :
    Exclusive { phase := Function.update s.phase t phase, holder := none } := by
  intro u
  refine iff_of_false ?_ (Option.some_ne_none u).symm
  rintro ⟨j,inside⟩
  by_cases same : u = t
  · subst same
    simp only [Function.update_self] at inside
    exact outside j inside
  · simp only [Function.update_of_ne same] at inside
    exact others u same ⟨j,inside⟩

theorem exclusive_next (i : Step τ J R) (exclusive : Exclusive s) : Exclusive ((guarded h).next s i) := by
  show Exclusive (guardedStep h s i).1
  rcases @guarded_cases _ _ _ _ _ h s i with
    ⟨stays,_⟩ | ⟨t,j,_,idle,asks⟩ | ⟨t,j,_,_,free,_,enters⟩ | ⟨t,j,r,_,inside,_,leaves⟩
  · rw [stays]
    exact exclusive
  · rw [asks]
    intro u
    rw [← exclusive u]
    by_cases same : u = t
    · subst same
      simp only [Function.update_self,idle]
      simp
    · simp only [Function.update_of_ne same]
  · rw [enters]
    intro u
    by_cases same : u = t
    · subst same
      simp only [Function.update_self]
      exact iff_of_true ⟨j,rfl⟩ trivial
    · simp only [Function.update_of_ne same]
      refine iff_of_false ?_ (fun held => same (Option.some.inj held).symm)
      intro inside
      have held := (exclusive u).mp inside
      rw [free] at held
      cases held
  · rw [leaves]
    refine exclusive_outside (by simp) ?_
    intro u other inside'
    have holder := (exclusive t).mp ⟨j,inside⟩
    have holder' := (exclusive u).mp inside'
    rw [holder] at holder'
    exact other (Option.some.inj holder').symm

/-! ### Runs -/

theorem exclusive_run (start : Exclusive s) (run : List (Step τ J R)) : Exclusive ((guarded h).run s run) :=
  Machine.run_keeps (guarded h) (fun _ i exclusive => exclusive_next i exclusive) start run

/-- The thread that asks is not the one inside. -/
private theorem inside_asks {t : τ} {j : J} (exclusive : Exclusive s) (idle : s.phase t = .idle) :
    insideOf { s with phase := Function.update s.phase t (.waiting j) } = insideOf s := by
  by_cases free : s.holder = none
  · rw [inside_free free]
    exact inside_free free
  · obtain ⟨u,held⟩ := Option.ne_none_iff_exists'.mp free
    obtain ⟨j',inside⟩ := (exclusive u).mpr held
    have other : u ≠ t := by
      rintro rfl
      rw [idle] at inside
      cases inside
    have inside' : Function.update s.phase t (.waiting j) u = .inside j' := by
      rw [Function.update_of_ne other]
      exact inside
    rw [inside_held held inside]
    exact inside_held held inside'

/-- What a step puts out, and the job it enters, go by the job that a thread is inside of. -/
private theorem inside_step (i : Step τ J R) (exclusive : Exclusive s) :
    insideOf s ++ entered s i = (finished s i).map Prod.fst ++ insideOf ((guarded h).next s i) ∧
      begun h s ++ (guarded h).out s i = (whole h).outputs () (finished s i) ++ begun h ((guarded h).next s i) := by
  show _ = _ ++ insideOf (guardedStep h s i).1 ∧ _ ++ (guardedStep h s i).2 = _ ++ begun h (guardedStep h s i).1
  rw [begun,begun]
  rcases @guarded_cases _ _ _ _ _ h s i with
    ⟨stays,_,enters,finishes⟩ | ⟨t,j,rfl,idle,asks⟩ | ⟨t,j,rfl,_,free,enters,taken⟩ |
      ⟨t,j,r,rfl,inside,finishes,leaves⟩
  · rw [stays,enters,finishes]
    exact ⟨List.append_nil _,List.append_nil _⟩
  · rw [asks,inside_asks exclusive idle]
    exact ⟨List.append_nil _,List.append_nil _⟩
  · have inside := inside_held (s := ⟨Function.update s.phase t (.inside j),some t⟩) rfl (Function.update_self t _ _)
    rw [taken,enters,inside_free free,inside]
    exact ⟨rfl,(List.append_nil _).symm⟩
  · have held := (exclusive t).mp ⟨j,inside⟩
    rw [leaves,finishes,inside_held held inside,inside_free rfl]
    exact ⟨rfl,by simp [whole,Machine.outputs,Machine.out]⟩

/-- In every interleaving, what the threads put out is what the finished jobs put out as wholes, in the order in
    which they were finished, and then the first half of the job that a thread is inside of. -/
theorem sections_atomic (start : Exclusive s) (run : List (Step τ J R)) :
    begun h s ++ (guarded h).outputs s run =
      (whole h).outputs () ((guarded h).translate finished s run) ++ begun h ((guarded h).run s run) := by
  have step : ∀ (s : Guarded τ J) (t : Unit) (i : Step τ J R), Exclusive s → Exclusive ((guarded h).next s i) ∧
      begun h s ++ (guarded h).out s i =
        (whole h).outputs t (finished s i) ++ begun h ((guarded h).next s i) :=
    fun s _ i exclusive => ⟨exclusive_next i exclusive,(inside_step i exclusive).2⟩
  exact (Machine.run_refines (guarded h) (whole h) step start run).2

variable (h) in
/-- The jobs are finished in the order in which they were entered. -/
theorem finished_order (start : Exclusive s) (run : List (Step τ J R)) :
    insideOf s ++ (guarded h).translate entered s run =
      (guarded h).translate (fun s i => (finished s i).map Prod.fst) s run ++ insideOf ((guarded h).run s run) :=
  Machine.translate_fifo (guarded h)
    (fun _ i exclusive => ⟨exclusive_next i exclusive,(inside_step i exclusive).1⟩) start run

private theorem asked_step (t : τ) (i : Step τ J R) :
    unfinished t s ++ asked t s i =
      (finishedBy t s i).map Prod.fst ++ unfinished t ((guarded h).next s i) := by
  show _ = _ ++ unfinished t (guardedStep h s i).1
  rcases @guarded_cases _ _ _ _ _ h s i with
    ⟨stays,asks,enters,finishes⟩ | ⟨u,j,rfl,idle,asks⟩ | ⟨u,j,rfl,waiting,free,enters,taken⟩ |
      ⟨u,j,r,rfl,inside,finishes,leaves⟩
  · have none : finishedBy t s i = [] := by
      cases i with
      | leave u r => rw [finishedBy,finishes,ite_self]
      | _ => rfl
    rw [stays,asks,none]
    exact List.append_nil _
  · rw [asks]
    by_cases own : u = t
    · subst own
      simp [unfinished,asked,finishedBy,idle]
    · simp [unfinished,asked,finishedBy,own,Function.update_of_ne (Ne.symm own)]
  · rw [taken]
    by_cases own : u = t
    · subst own
      simp [unfinished,asked,finishedBy,waiting]
    · simp [unfinished,asked,finishedBy,Function.update_of_ne (Ne.symm own)]
  · rw [leaves,finishedBy,finishes]
    by_cases own : u = t
    · subst own
      simp [unfinished,asked,inside]
    · simp [unfinished,asked,own,Function.update_of_ne (Ne.symm own)]

variable (h) in
/-- A thread finishes the jobs that it asks for, one by one and in order. -/
theorem asked_order (t : τ) (run : List (Step τ J R)) :
    unfinished t s ++ (guarded h).translate (asked t) s run =
      (guarded h).translate (fun s i => (finishedBy t s i).map Prod.fst) s run ++
        unfinished t ((guarded h).run s run) := by
  have step : ∀ (s : Guarded τ J) (i : Step τ J R), True → True ∧ unfinished t s ++ asked t s i =
      (finishedBy t s i).map Prod.fst ++ unfinished t ((guarded h).next s i) :=
    fun _ i _ => ⟨trivial,asked_step t i⟩
  exact Machine.translate_fifo (guarded h) step trivial run

/-! ### Progress -/

/-- A thread that waits goes on waiting or enters. -/
private theorem waiting_next {t : τ} {j : J} (i : Step τ J R) (waiting : s.phase t = .waiting j) :
    ((guarded h).next s i).phase t = .waiting j ∨ ((guarded h).next s i).phase t = .inside j := by
  show (guardedStep h s i).1.phase t = _ ∨ (guardedStep h s i).1.phase t = _
  rcases @guarded_cases _ _ _ _ _ h s i with
    ⟨stays,_⟩ | ⟨u,j',_,idle,asks⟩ | ⟨u,j',_,waiting',_,_,enters⟩ | ⟨u,j',r,_,inside,_,leaves⟩
  · rw [stays]
    exact .inl waiting
  · have other : t ≠ u := by
      rintro rfl
      rw [idle] at waiting
      cases waiting
    rw [asks]
    exact .inl ((Function.update_of_ne other _ _).trans waiting)
  · rw [enters]
    by_cases own : t = u
    · subst own
      rw [waiting'] at waiting
      cases waiting
      exact .inr (Function.update_self t _ _)
    · exact .inl ((Function.update_of_ne own _ _).trans waiting)
  · have other : t ≠ u := by
      rintro rfl
      rw [inside] at waiting
      cases waiting
    rw [leaves]
    exact .inl ((Function.update_of_ne other _ _).trans waiting)

/-- A thread inside stays there or leaves, and then the lock is free. -/
private theorem inside_next {t : τ} {j : J} (i : Step τ J R) (exclusive : Exclusive s)
    (inside : s.phase t = .inside j) :
    ((guarded h).next s i).phase t = .inside j ∨
      ((guarded h).next s i).phase t = .idle ∧ ((guarded h).next s i).holder = none := by
  show (guardedStep h s i).1.phase t = _ ∨ (guardedStep h s i).1.phase t = _ ∧ (guardedStep h s i).1.holder = none
  rcases @guarded_cases _ _ _ _ _ h s i with
    ⟨stays,_⟩ | ⟨u,j',_,idle,asks⟩ | ⟨u,j',_,_,free,_,_⟩ | ⟨u,j',r,_,inside',_,leaves⟩
  · rw [stays]
    exact .inl inside
  · have other : t ≠ u := by
      rintro rfl
      rw [idle] at inside
      cases inside
    rw [asks]
    exact .inl ((Function.update_of_ne other _ _).trans inside)
  · rw [(exclusive t).mp ⟨j,inside⟩] at free
    cases free
  · rw [leaves,inside_unique exclusive ⟨j,inside⟩ ⟨j',inside'⟩]
    exact .inr ⟨Function.update_self u _ _,rfl⟩

theorem leave_next {t : τ} {j : J} (r : R) (inside : s.phase t = .inside j) :
    ((guarded h).next s (.leave t r)).phase t = .idle ∧ ((guarded h).next s (.leave t r)).holder = none := by
  show (guardedStep h s (.leave t r)).1.phase t = .idle ∧ (guardedStep h s (.leave t r)).1.holder = none
  rw [guardedStep,inside]
  exact ⟨Function.update_self t _ _,rfl⟩

theorem enter_next {t : τ} {j : J} (waiting : s.phase t = .waiting j) (free : s.holder = none) :
    ((guarded h).next s (.enter t : Step τ J R)).phase t = .inside j := by
  show (guardedStep h s (.enter t : Step τ J R)).1.phase t = .inside j
  rw [guardedStep,waiting,free]
  exact Function.update_self t _ _

/-- A machine that carries threads under a lock, with the inputs at which a thread takes it if it is free. -/
structure CarriesLock {σ ι μ : Type*} (h : Halves J R ο) (M : Machine σ ι μ) (part : σ → Guarded τ J)
    (enters : τ → ι → Prop) : Prop where
  step : M.Carries (guarded h) part
  enter : ∀ s t i, enters t i → part (M.next s i) = (guarded h).next (part s) (.enter t)

section
variable {σ ι μ : Type*} {M : Machine σ ι μ} {part : σ → Guarded τ J} {enters : τ → ι → Prop}
  (carries : CarriesLock h M part enters) {s : σ} {schedule : ℕ → ι}
include carries

theorem exclusive_carried (s : σ) (i : ι) (exclusive : Exclusive (part s)) : Exclusive (part (M.next s i)) := by
  rcases carries.step s i with stays | ⟨step,taken⟩
  · rw [stays]
    exact exclusive
  · rw [taken]
    exact exclusive_next step exclusive

/-- A thread inside stays there or gives the lock back. -/
theorem inside_carried {t : τ} {j : J} (i : ι) (exclusive : Exclusive (part s))
    (inside : (part s).phase t = .inside j) :
    (part (M.next s i)).phase t = .inside j ∨
      (part (M.next s i)).phase t = .idle ∧ (part (M.next s i)).holder = none := by
  rcases carries.step s i with stays | ⟨step,taken⟩
  · rw [stays]
    exact .inl inside
  · rw [taken]
    exact inside_next step exclusive inside

/-- The lock is free again and again when each thread inside gives it back. -/
theorem lock_free (start : Exclusive (part s))
    (left : ∀ t j n, (part (M.reached s schedule n)).phase t = .inside j →
      ∃ m, n ≤ m ∧ (part (M.reached s schedule m)).holder = none) (n : ℕ) :
    ∃ m, n ≤ m ∧ (part (M.reached s schedule m)).holder = none := by
  cases held : (part (M.reached s schedule n)).holder with
  | none => exact ⟨n,Nat.le_refl n,held⟩
  | some t =>
    have exclusive : Exclusive (part (M.reached s schedule n)) :=
      Machine.run_keeps M (exclusive_carried carries) start _
    obtain ⟨j,inside⟩ := (exclusive t).mpr held
    exact left t j n inside

/-- When the lock is free again and again, and is given to a thread that waits, this thread enters. -/
theorem waiting_enters {t : τ} {j : J}
    (fair : M.StronglyFair s schedule (fun s => (∃ j, (part s).phase t = .waiting j) ∧ (part s).holder = none)
      (enters t))
    (free : ∀ n, ∃ m, n ≤ m ∧ (part (M.reached s schedule m)).holder = none) {n : ℕ}
    (waiting : (part (M.reached s schedule n)).phase t = .waiting j) :
    ∃ m, n ≤ m ∧ (part (M.reached s schedule m)).phase t = .inside j := by
  refine Machine.strongly_ensures fair (P := fun s => (part s).phase t = .waiting j)
    (Q := fun s => (part s).phase t = .inside j) (E := fun s => (part s).holder = none) free
    (fun _ waiting free => ⟨⟨j,waiting⟩,free⟩) ?_ ?_ waiting
  · intro s i waiting
    rcases carries.step s i with stays | ⟨step,taken⟩
    · rw [stays]
      exact .inl waiting
    · rw [taken]
      exact waiting_next step waiting
  · rintro s i waiting ⟨_,free⟩ due
    rw [carries.enter s t i due]
    exact enter_next waiting free

section
variable {leaves : τ → ι → Prop}
  (leave : ∀ s t i, leaves t i → ∃ r, part (M.next s i) = (guarded h).next (part s) (.leave t r))
include leave

/-- A thread inside leaves. -/
private theorem inside_left (start : Exclusive (part s)) {t : τ} {j : J}
    (fair : M.Fair s schedule (fun s => ∃ j, (part s).phase t = .inside j) (leaves t)) {n : ℕ}
    (inside : (part (M.reached s schedule n)).phase t = .inside j) :
    ∃ m, n ≤ m ∧ (part (M.reached s schedule m)).phase t = .idle ∧ (part (M.reached s schedule m)).holder = none := by
  refine Machine.ensures fair (P := fun s => Exclusive (part s) ∧ (part s).phase t = .inside j)
    (Q := fun s => (part s).phase t = .idle ∧ (part s).holder = none) (fun _ here => ⟨j,here.2⟩) ?_ ?_
    ⟨Machine.run_keeps M (exclusive_carried carries) start _,inside⟩
  · rintro s i ⟨exclusive,inside⟩
    have still := exclusive_carried carries s i exclusive
    exact (inside_carried carries i exclusive inside).imp (fun stays => ⟨still,stays⟩) id
  · rintro s i ⟨_,inside⟩ due
    obtain ⟨r,taken⟩ := leave s t i due
    rw [taken]
    exact leave_next r inside

/-- Each thread has again and again finished what it asked for. -/
theorem idle_again (start : Exclusive (part s))
    (enterFair : ∀ t, M.StronglyFair s schedule
      (fun s => (∃ j, (part s).phase t = .waiting j) ∧ (part s).holder = none) (enters t))
    (leaveFair : ∀ t, M.Fair s schedule (fun s => ∃ j, (part s).phase t = .inside j) (leaves t)) (t : τ) (n : ℕ) :
    ∃ m, n ≤ m ∧ (part (M.reached s schedule m)).phase t = .idle := by
  have left : ∀ t j n, (part (M.reached s schedule n)).phase t = .inside j → ∃ m, n ≤ m ∧
      (part (M.reached s schedule m)).phase t = .idle ∧ (part (M.reached s schedule m)).holder = none :=
    fun t _ _ inside => inside_left carries leave start (leaveFair t) inside
  have free : ∀ n, ∃ m, n ≤ m ∧ (part (M.reached s schedule m)).holder = none :=
    lock_free carries start (fun t j n inside => (left t j n inside).imp fun _ there => ⟨there.1,there.2.2⟩)
  cases phase : (part (M.reached s schedule n)).phase t with
  | idle => exact ⟨n,Nat.le_refl n,phase⟩
  | inside j =>
    obtain ⟨m,later,idle,_⟩ := left t j n phase
    exact ⟨m,later,idle⟩
  | waiting j =>
    obtain ⟨k,later,inside⟩ := waiting_enters carries (enterFair t) free phase
    obtain ⟨m,stillLater,idle,_⟩ := left t j k inside
    exact ⟨m,Nat.le_trans later stillLater,idle⟩

end
end
end
end Sections
