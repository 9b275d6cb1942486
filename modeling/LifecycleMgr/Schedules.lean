import LifecycleMgr.Refinements
import Mathlib.Data.Nat.Init

/-!
Schedules that never end. An input is treated fairly when a schedule does not leave it
out from some moment on while it is enabled all the time. Then what lasts until this
input comes, and enables it, leads to what it brings about (`leads_to`), and a
number that grows whenever it is too small becomes large enough (`reaches`).
-/
namespace Runs
namespace Machine
variable {σ τ ι κ ο μ : Type*}

section
variable (M : Machine σ ι ο) (s : σ) (schedule : ℕ → ι)

/-- The first inputs of a schedule. -/
def before (n : ℕ) : List ι := (List.range n).map schedule

/-- The state reached by then. -/
def reached (n : ℕ) : σ := M.run s (before schedule n)

/-- What has been put out by then. -/
def emitted (n : ℕ) : List ο := M.outputs s (before schedule n)

theorem before_succ (n : ℕ) : before schedule (n + 1) = before schedule n ++ [schedule n] := by
  rw [before,before,List.range_succ,List.map_append]; rfl

theorem reached_succ (n : ℕ) : M.reached s schedule (n + 1) = M.next (M.reached s schedule n) (schedule n) := by
  rw [reached,before_succ,run_append]; rfl

theorem emitted_succ (n : ℕ) :
    M.emitted s schedule (n + 1) = M.emitted s schedule n ++ M.out (M.reached s schedule n) (schedule n) := by
  rw [emitted,before_succ,outputs_append]
  exact congrArg (_ ++ ·) (List.append_nil _)

/-- When it is enabled from some moment on, an input that is due comes some time. -/
def Fair (enabled : σ → Prop) (due : ι → Prop) : Prop :=
  ∀ n, (∀ k, n ≤ k → enabled (M.reached s schedule k)) → ∃ k, n ≤ k ∧ due (schedule k)

/-- When it is enabled again and again, an input that is due comes some time when it is enabled. -/
def StronglyFair (enabled : σ → Prop) (due : ι → Prop) : Prop :=
  ∀ n, (∀ k, n ≤ k → ∃ m, k ≤ m ∧ enabled (M.reached s schedule m)) →
    ∃ k, n ≤ k ∧ enabled (M.reached s schedule k) ∧ due (schedule k)

/-- What comes again and again is treated fairly. -/
theorem fair_of_recurs {due : ι → Prop} (recurs : ∀ n, ∃ k, n ≤ k ∧ due (schedule k)) (enabled : σ → Prop) :
    M.Fair s schedule enabled due := fun n _ => recurs n

/-- Each step takes the part one step of the other machine further, or leaves it as it is. -/
def Carries (N : Machine τ κ μ) (part : σ → τ) : Prop :=
  ∀ s i, part (M.next s i) = part s ∨ ∃ j, part (M.next s i) = N.next (part s) j

end

section
variable {M : Machine σ ι ο} {s : σ} {schedule : ℕ → ι}

/-- What lasts and enables a fair input until there is what this input brings about leads to it. -/
theorem leads_to {enabled : σ → Prop} {due : ι → Prop} (fair : M.Fair s schedule enabled due) {P Q : ℕ → Prop}
    (enables : ∀ k, P k → enabled (M.reached s schedule k)) (lasts : ∀ k, P k → ¬ Q (k + 1) → P (k + 1))
    (helps : ∀ k, P k → due (schedule k) → Q (k + 1)) {n : ℕ} (start : P n) : ∃ m, n ≤ m ∧ Q m := by
  by_contra never
  rw [not_exists] at never
  have stays : ∀ k, n ≤ k → P k := by
    intro k later
    induction k, later using Nat.le_induction with
    | base => exact start
    | succ k later ih => exact lasts k ih (fun there => never (k + 1) ⟨Nat.le_succ_of_le later,there⟩)
  obtain ⟨k,later,comes⟩ := fair n (fun k later => enables k (stays k later))
  exact never (k + 1) ⟨Nat.le_succ_of_le later,helps k (stays k later) comes⟩

/-- What lasts from state to state and enables a fair input, until there is what this input brings about, leads to
    it. -/
theorem ensures {enabled P Q : σ → Prop} {due : ι → Prop} (fair : M.Fair s schedule enabled due)
    (enables : ∀ s, P s → enabled s) (lasts : ∀ s i, P s → P (M.next s i) ∨ Q (M.next s i))
    (helps : ∀ s i, P s → due i → Q (M.next s i)) {n : ℕ} (start : P (M.reached s schedule n)) :
    ∃ m, n ≤ m ∧ Q (M.reached s schedule m) := by
  refine leads_to fair (P := fun k => P (M.reached s schedule k)) (Q := fun k => Q (M.reached s schedule k))
    (fun k => enables _) ?_ ?_ start
  · intro k here there
    rw [reached_succ] at there ⊢
    exact (lasts _ _ here).resolve_right there
  · intro k here comes
    rw [reached_succ]
    exact helps _ _ here comes

/-- What lasts until there is what a strongly fair input brings about, and enables this input together with what is
    the case again and again, leads to it. -/
theorem strongly_ensures {enabled P Q E : σ → Prop} {due : ι → Prop} (fair : M.StronglyFair s schedule enabled due)
    (again : ∀ n, ∃ m, n ≤ m ∧ E (M.reached s schedule m)) (enables : ∀ s, P s → E s → enabled s)
    (lasts : ∀ s i, P s → P (M.next s i) ∨ Q (M.next s i))
    (helps : ∀ s i, P s → enabled s → due i → Q (M.next s i)) {n : ℕ} (start : P (M.reached s schedule n)) :
    ∃ m, n ≤ m ∧ Q (M.reached s schedule m) := by
  by_contra never
  rw [not_exists] at never
  have stays : ∀ k, n ≤ k → P (M.reached s schedule k) := by
    intro k later
    induction k, later using Nat.le_induction with
    | base => exact start
    | succ k later ih =>
      have there := fun there => never (k + 1) ⟨Nat.le_succ_of_le later,there⟩
      rw [reached_succ] at there ⊢
      exact (lasts _ _ ih).resolve_right there
  obtain ⟨k,later,enabled,comes⟩ := fair n (by
    intro k later
    obtain ⟨m,stillLater,there⟩ := again k
    exact ⟨m,stillLater,enables _ (stays m (Nat.le_trans later stillLater)) there⟩)
  refine never (k + 1) ⟨Nat.le_succ_of_le later,?_⟩
  rw [reached_succ]
  exact helps _ _ (stays k later) enabled comes

/-- What leads to a goal or to itself with a smaller measure leads to the goal. -/
theorem descends {P Q : σ → Prop} {measure : σ → ℕ}
    (smaller : ∀ n, P (M.reached s schedule n) → ∃ m, n ≤ m ∧ (Q (M.reached s schedule m) ∨
      P (M.reached s schedule m) ∧ measure (M.reached s schedule m) < measure (M.reached s schedule n))) {n : ℕ}
    (start : P (M.reached s schedule n)) : ∃ m, n ≤ m ∧ Q (M.reached s schedule m) := by
  induction size : measure (M.reached s schedule n) using Nat.strongRecOn generalizing n with
  | ind size' ih =>
    obtain ⟨k,later,goal | ⟨still,less⟩⟩ := smaller n start
    · exact ⟨k,later,goal⟩
    · obtain ⟨m,stillLater,goal⟩ := ih _ (by omega) still rfl
      exact ⟨m,Nat.le_trans later stillLater,goal⟩

/-- A number that grows some time whenever it is too small becomes large enough. -/
theorem reaches {count : ℕ → ℕ} {enough : ℕ} (grows : ∀ n, count n < enough → ∃ m, n ≤ m ∧ count n < count m)
    (n : ℕ) : ∃ m, n ≤ m ∧ enough ≤ count m := by
  induction missing : enough - count n using Nat.strongRecOn generalizing n with
  | ind missing' ih =>
    by_cases short : count n < enough
    · obtain ⟨k,later,more⟩ := grows n short
      obtain ⟨m,stillLater,large⟩ := ih (enough - count k) (by omega) k rfl
      exact ⟨m,Nat.le_trans later stillLater,large⟩
    · exact ⟨n,Nat.le_refl n,Nat.le_of_not_lt short⟩

end

end Machine
end Runs
