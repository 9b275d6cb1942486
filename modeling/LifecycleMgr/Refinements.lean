import LifecycleMgr.Runs
import Mathlib.Algebra.BigOperators.Group.List.Basic

/-!
Rules that relate the runs of two machines, or a run to what it is given and what
it puts out. A run of one machine may stand for a run of another, step by step
(`translate`). The other may put out later what the first owes already
(`run_refines`), or at once what the first still holds back (`run_delays`), or the
two may agree exactly as long as a condition holds of every step
(`outputs_eq_iff`). Inputs that leave no trace may be left out of a run (`purge`).
Machines that take corresponding inputs to corresponding states and outputs do so
through whole runs (`run_corresponds`). A quantity that every step conserves is
conserved by every run (`run_conserves`).
-/
namespace Runs
namespace Machine
variable {σ τ ι κ ο μ α : Type*}

section
variable (M : Machine σ ι ο)

theorem run_append (s : σ) (is js : List ι) : M.run s (is ++ js) = M.run (M.run s is) js := by
  induction is generalizing s with
  | nil => rfl
  | cons i is ih => exact ih (M.next s i)

theorem outputs_append (s : σ) (is js : List ι) :
    M.outputs s (is ++ js) = M.outputs s is ++ M.outputs (M.run s is) js := by
  induction is generalizing s with
  | nil => rfl
  | cons i is ih =>
    rw [List.cons_append,outputs,outputs,ih (M.next s i),List.append_assoc]
    rfl

end

/-- The inputs that the steps of a run stand for, one after the other. -/
def translate (M : Machine σ ι ο) (f : σ → ι → List κ) (s : σ) : List ι → List κ
  | [] => []
  | i :: is => f s i ++ M.translate f (M.next s i) is

theorem view_translate (M : Machine σ ι ο) (g : ο → Option μ) (f : σ → ι → List κ) (s : σ) (is : List ι) :
    (M.view g).translate f s is = M.translate f s is := by
  induction is generalizing s with
  | nil => rfl
  | cons i is ih => exact congrArg (f s i ++ ·) (ih (M.next s i))

theorem view_throughout (M : Machine σ ι ο) (g : ο → Option μ) (C : σ → ι → Prop) (s : σ) (is : List ι) :
    (M.view g).Throughout C s is ↔ M.Throughout C s is := by
  induction is generalizing s with
  | nil => exact Iff.rfl
  | cons i is ih => exact and_congr_right fun _ => ih (M.next s i)

theorem translate_append (M : Machine σ ι ο) (f : σ → ι → List κ) (s : σ) (is js : List ι) :
    M.translate f s (is ++ js) = M.translate f s is ++ M.translate f (M.run s is) js := by
  induction is generalizing s with
  | nil => rfl
  | cons i is ih =>
    rw [List.cons_append,translate,translate,ih (M.next s i),List.append_assoc]
    rfl

theorem translate_congr (M : Machine σ ι ο) {f g : σ → ι → List κ} (same : ∀ s i, f s i = g s i) (s : σ)
    (is : List ι) : M.translate f s is = M.translate g s is := by
  have equal : f = g := funext fun s => funext fun i => same s i
  rw [equal]

theorem translate_forall₂ (M : Machine σ ι ο) {T : κ → μ → Prop} {f : σ → ι → List κ} {g : σ → ι → List μ}
    (step : ∀ s i, List.Forall₂ T (f s i) (g s i)) (s : σ) (is : List ι) :
    List.Forall₂ T (M.translate f s is) (M.translate g s is) := by
  induction is generalizing s with
  | nil => exact .nil
  | cons i is ih => exact List.rel_append (step s i) (ih (M.next s i))

/-- What is read off a list piece by piece is read off a run step by step. -/
theorem translate_hom (M : Machine σ ι ο) {g : List κ → List α} (nil : g [] = [])
    (append : ∀ front back, g (front ++ back) = g front ++ g back) (f : σ → ι → List κ) (s : σ) (is : List ι) :
    g (M.translate f s is) = M.translate (fun s i => g (f s i)) s is := by
  induction is generalizing s with
  | nil => exact nil
  | cons i is ih =>
    rw [translate,append,ih (M.next s i)]
    rfl

/-- What a part of the state runs through can be read off the whole. -/
theorem translate_translate (M : Machine σ ι ο) (N : Machine τ κ μ) {part : σ → τ} {f : σ → ι → List κ}
    (step : ∀ s i, part (M.next s i) = N.run (part s) (f s i)) (g : τ → κ → List α) (s : σ) (is : List ι) :
    N.translate g (part s) (M.translate f s is) = M.translate (fun s i => N.translate g (part s) (f s i)) s is := by
  induction is generalizing s with
  | nil => rfl
  | cons i is ih =>
    rw [translate,translate_append,← step s i,ih (M.next s i)]
    rfl

/-- First in, first out: what was held and what has come in are what has gone out and what is still held, in
    this order, when every step keeps the order. -/
theorem translate_fifo (M : Machine σ ι ο) {Inv : σ → Prop} {held : σ → List κ} {given taken : σ → ι → List κ}
    (step : ∀ s i, Inv s → Inv (M.next s i) ∧ held s ++ given s i = taken s i ++ held (M.next s i)) {s : σ}
    (start : Inv s) (is : List ι) : held s ++ M.translate given s is = M.translate taken s is ++ held (M.run s is) := by
  induction is generalizing s with
  | nil => exact List.append_nil _
  | cons i is ih =>
    obtain ⟨kept,here⟩ := step s i start
    have later := ih kept
    calc held s ++ M.translate given s (i :: is)
        = (held s ++ given s i) ++ M.translate given (M.next s i) is := (List.append_assoc _ _ _).symm
      _ = taken s i ++ (held (M.next s i) ++ M.translate given (M.next s i) is) := by rw [here,List.append_assoc]
      _ = M.translate taken s (i :: is) ++ held (M.run s (i :: is)) := by rw [later,← List.append_assoc]; rfl

section
variable (M : Machine σ ι ο) (N : Machine τ κ ο) {R : σ → τ → Prop} {f : σ → ι → List κ}

/-- What is put out along a run, with what was owed before it, is what the other machine puts out for it, with
    what is owed after it. -/
theorem run_refines {owed : σ → τ → List ο}
    (step : ∀ s t i, R s t → R (M.next s i) (N.run t (f s i)) ∧
      owed s t ++ M.out s i = N.outputs t (f s i) ++ owed (M.next s i) (N.run t (f s i)))
    {s : σ} {t : τ} (start : R s t) (is : List ι) :
    R (M.run s is) (N.run t (M.translate f s is)) ∧
      owed s t ++ M.outputs s is =
        N.outputs t (M.translate f s is) ++ owed (M.run s is) (N.run t (M.translate f s is)) := by
  induction is generalizing s t with
  | nil => exact ⟨start,List.append_nil _⟩
  | cons i is ih =>
    obtain ⟨related,here⟩ := step s t i start
    obtain ⟨final,later⟩ := ih related
    rw [translate,run_append,outputs_append]
    refine ⟨final,?_⟩
    calc owed s t ++ M.outputs s (i :: is)
        = (owed s t ++ M.out s i) ++ M.outputs (M.next s i) is := (List.append_assoc _ _ _).symm
      _ = N.outputs t (f s i) ++ (owed (M.next s i) (N.run t (f s i)) ++ M.outputs (M.next s i) is) := by
        rw [here,List.append_assoc]
      _ = _ := by rw [later,← List.append_assoc]; rfl

/-- What the other machine puts out for a run, with what was held back before it, is what is put out along the run,
    with what is held back after it. -/
theorem run_delays {held : σ → List ο}
    (step : ∀ s t i, R s t → R (M.next s i) (N.run t (f s i)) ∧
      held s ++ N.outputs t (f s i) = M.out s i ++ held (M.next s i))
    {s : σ} {t : τ} (start : R s t) (is : List ι) :
    R (M.run s is) (N.run t (M.translate f s is)) ∧
      held s ++ N.outputs t (M.translate f s is) = M.outputs s is ++ held (M.run s is) := by
  induction is generalizing s t with
  | nil => exact ⟨start,List.append_nil _⟩
  | cons i is ih =>
    obtain ⟨related,here⟩ := step s t i start
    obtain ⟨final,later⟩ := ih related
    rw [translate,run_append,outputs_append]
    refine ⟨final,?_⟩
    calc held s ++ (N.outputs t (f s i) ++ N.outputs (N.run t (f s i)) (M.translate f (M.next s i) is))
        = M.out s i ++ (held (M.next s i) ++ N.outputs (N.run t (f s i)) (M.translate f (M.next s i) is)) := by
          rw [← List.append_assoc,here,List.append_assoc]
      _ = M.outputs s (i :: is) ++ held (M.run s (i :: is)) := by rw [later,← List.append_assoc]; rfl

/-- A machine that puts out at each step what the other puts out for it does so through every run. -/
theorem run_follows
    (step : ∀ s t i, R s t → R (M.next s i) (N.run t (f s i)) ∧ M.out s i = N.outputs t (f s i)) {s : σ} {t : τ}
    (start : R s t) (is : List ι) :
    R (M.run s is) (N.run t (M.translate f s is)) ∧ M.outputs s is = N.outputs t (M.translate f s is) := by
  have step' : ∀ s t i, R s t → R (M.next s i) (N.run t (f s i)) ∧
      [] ++ M.out s i = N.outputs t (f s i) ++ [] := by
    intro s t i related
    obtain ⟨next,same⟩ := step s t i related
    exact ⟨next,by rw [same,List.append_nil,List.nil_append]⟩
  obtain ⟨final,same⟩ := @run_refines _ _ _ _ _ M N R f (fun _ _ => []) step' _ _ start is
  rw [List.append_nil,List.nil_append] at same
  exact ⟨final,same⟩

/-- A machine each of whose steps is a run of another is embedded in it: its runs are the runs of these. -/
theorem run_expands {g : ι → List κ}
    (step : ∀ s t i, R s t → R (M.next s i) (N.run t (g i)) ∧ N.outputs t (g i) = M.out s i) {s : σ} {t : τ}
    (start : R s t) (is : List ι) :
    R (M.run s is) (N.run t (is.flatMap g)) ∧ N.outputs t (is.flatMap g) = M.outputs s is := by
  induction is generalizing s t with
  | nil => exact ⟨start,rfl⟩
  | cons i is ih =>
    obtain ⟨related,here⟩ := step s t i start
    obtain ⟨final,later⟩ := ih related
    rw [List.flatMap_cons,run_append,outputs_append,here,later]
    exact ⟨final,rfl⟩

/-- Neither list begins with the other. -/
def Diverge (a b : List ο) : Prop := ¬ a <+: b ∧ ¬ b <+: a

theorem diverge_append {a b : List ο} (diverge : Diverge a b) (c d : List ο) : a ++ c ≠ b ++ d := by
  intro same
  have left : a <+: b ++ d := ⟨c,same⟩
  rcases List.prefix_or_prefix_of_prefix left (List.prefix_append b d) with within | within
  · exact diverge.1 within
  · exact diverge.2 within

/-- When every step puts out what it stands for under `C`, and something else otherwise, a run puts out what it
    stands for exactly when `C` holds of all its steps. Then it also ends where the other run ends. -/
theorem outputs_eq_iff {C : σ → ι → Prop}
    (kept : ∀ s t i, R s t → C s i → R (M.next s i) (N.run t (f s i)) ∧ M.out s i = N.outputs t (f s i))
    (lost : ∀ s t i, R s t → ¬ C s i → Diverge (M.out s i) (N.outputs t (f s i)))
    {s : σ} {t : τ} (start : R s t) (is : List ι) :
    R (M.run s is) (N.run t (M.translate f s is)) ∧ M.outputs s is = N.outputs t (M.translate f s is) ↔
      M.Throughout C s is := by
  induction is generalizing s t with
  | nil => exact iff_of_true ⟨start,rfl⟩ trivial
  | cons i is ih =>
    rw [translate,run_append,outputs_append,Throughout]
    by_cases holds : C s i
    · obtain ⟨related,same⟩ := kept s t i start holds
      rw [and_iff_right holds,← ih related,outputs,same,List.append_right_inj]
      exact Iff.rfl
    · exact iff_of_false (fun both => diverge_append (lost s t i start holds) _ _ both.2) (fun both => holds both.1)

end

/-- When the inputs that are `away` leave what is seen as it is, and the others keep the states alike and let the same
    be seen of them, then the same is seen with and without the former. -/
theorem purge (M : Machine σ ι ο) {R : σ → σ → Prop} {away : ι → Bool} {seen : σ → ι → List κ}
    (aside : ∀ s t i, R s t → away i = true → R (M.next s i) t ∧ seen s i = [])
    (kept : ∀ s t i, R s t → away i = false → R (M.next s i) (M.next t i) ∧ seen s i = seen t i) {s t : σ}
    (start : R s t) (is : List ι) :
    M.translate seen s is = M.translate seen t (is.filter (fun i => !away i)) := by
  induction is generalizing s t with
  | nil => rfl
  | cons i is ih =>
    cases leaves : away i with
    | true =>
      obtain ⟨alike,unseen⟩ := aside s t i start leaves
      rw [translate,unseen,List.nil_append,List.filter_cons_of_neg (by simp [leaves])]
      exact ih alike
    | false =>
      obtain ⟨alike,same⟩ := kept s t i start leaves
      rw [translate,List.filter_cons_of_pos (by simp [leaves]),translate,same,ih alike]

/-- Machines that keep their states related under corresponding inputs put out corresponding outputs. -/
theorem run_corresponds (M : Machine σ ι ο) (N : Machine τ κ μ) {R : σ → τ → Prop} {I : ι → κ → Prop}
    {O : ο → μ → Prop}
    (step : ∀ s t i j, R s t → I i j → R (M.next s i) (N.next t j) ∧ List.Forall₂ O (M.out s i) (N.out t j))
    {s : σ} {t : τ} (start : R s t) {is : List ι} {js : List κ} (inputs : List.Forall₂ I is js) :
    R (M.run s is) (N.run t js) ∧ List.Forall₂ O (M.outputs s is) (N.outputs t js) := by
  induction inputs generalizing s t with
  | nil => exact ⟨start,.nil⟩
  | cons here _ ih =>
    obtain ⟨related,same⟩ := step s t _ _ start here
    obtain ⟨final,later⟩ := ih related
    exact ⟨final,List.rel_append same later⟩

section
variable [AddCommMonoid α]

/-- The sum of what the steps of a run are given. -/
def total (M : Machine σ ι ο) (given : σ → ι → α) (s : σ) : List ι → α
  | [] => 0
  | i :: is => given s i + M.total given (M.next s i) is

/-- What depends on the inputs only is given by them alone. -/
theorem total_inputs (M : Machine σ ι ο) (given : ι → α) (s : σ) (is : List ι) :
    M.total (fun _ i => given i) s is = (is.map given).sum := by
  induction is generalizing s with
  | nil => rfl
  | cons i is ih => rw [total,ih,List.map_cons,List.sum_cons]

/-- The sum of what is put out. -/
def sent (put : ο → α) (outputs : List ο) : α := (outputs.map put).sum

@[simp] theorem sent_nil (put : ο → α) : sent put [] = 0 := rfl

theorem sent_append (put : ο → α) (front back : List ο) :
    sent put (front ++ back) = sent put front + sent put back := by
  rw [sent,List.map_append,List.sum_append]; rfl

theorem sent_cons (put : ο → α) (o : ο) (rest : List ο) : sent put (o :: rest) = put o + sent put rest := by
  rw [sent,List.map_cons,List.sum_cons]; rfl

/-- What is held after a run and what it has put out are what was held before it and what it was given. -/
theorem run_conserves (M : Machine σ ι ο) {Inv : σ → Prop} {held : σ → α} {given : σ → ι → α} {put : ο → α}
    (keeps : ∀ s i, Inv s → Inv (M.next s i))
    (step : ∀ s i, Inv s → held (M.next s i) + sent put (M.out s i) = held s + given s i) {s : σ} (start : Inv s)
    (is : List ι) : held (M.run s is) + sent put (M.outputs s is) = held s + M.total given s is := by
  induction is generalizing s with
  | nil => rfl
  | cons i is ih =>
    have here := step s i start
    have later := ih (keeps s i start)
    calc held (M.run s (i :: is)) + sent put (M.outputs s (i :: is))
        = held (M.run (M.next s i) is) + (sent put (M.out s i) + sent put (M.outputs (M.next s i) is)) := by
          rw [outputs,sent_append]; rfl
      _ = sent put (M.out s i) + (held (M.run (M.next s i) is) + sent put (M.outputs (M.next s i) is)) :=
          add_left_comm _ _ _
      _ = (held (M.next s i) + sent put (M.out s i)) + M.total given (M.next s i) is := by
          rw [later,← add_assoc,add_comm (sent put _)]
      _ = held s + M.total given s (i :: is) := by rw [here,add_assoc]; rfl

end

end Machine
end Runs
