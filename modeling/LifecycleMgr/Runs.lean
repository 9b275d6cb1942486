import Mathlib.Data.List.Basic

/-!
Deterministic machines with outputs, and rules about their runs. A predicate
holds `Always` when it holds in every state of a run, and `Throughout` when it
holds of every step. An invariant kept by every step holds after every run
(`run_keeps`). When a step keeps a good state good exactly under a condition, a
run from a good state stays good exactly when all its steps meet the condition
(`always_iff_throughout`). An observer (`observe`) adds a value computed from the
steps taken so far, and changes nothing else. A machine that follows another
step by step follows it through every run (`run_simulates`), also when only a
part of its outputs is looked at (`view`).
-/
namespace Runs

/-- From a state, an input leads to the next state and puts out a list, oldest first. -/
structure Machine (σ ι ο : Type*) where
  step : σ → ι → σ × List ο

namespace Machine
variable {σ τ ι ο κ μ : Type*}

/-- The state after one input. -/
def next (M : Machine σ ι ο) (s : σ) (i : ι) : σ := (M.step s i).1

/-- What one input puts out. -/
def out (M : Machine σ ι ο) (s : σ) (i : ι) : List ο := (M.step s i).2

/-- The state after a run. -/
def run (M : Machine σ ι ο) (s : σ) : List ι → σ
  | [] => s
  | i :: is => M.run (M.next s i) is

/-- Everything a run puts out, in order. -/
def outputs (M : Machine σ ι ο) (s : σ) : List ι → List ο
  | [] => []
  | i :: is => M.out s i ++ M.outputs (M.next s i) is

/-- `C` holds of every step of the run: of the state it is taken in and its input. -/
def Throughout (M : Machine σ ι ο) (C : σ → ι → Prop) (s : σ) : List ι → Prop
  | [] => True
  | i :: is => C s i ∧ M.Throughout C (M.next s i) is

/-- `P` holds in every state of the run, the first and the last included. -/
def Always (M : Machine σ ι ο) (P : σ → Prop) (s : σ) : List ι → Prop
  | [] => P s
  | i :: is => P s ∧ M.Always P (M.next s i) is

instance decidableThroughout (M : Machine σ ι ο) (C : σ → ι → Prop) [∀ s i, Decidable (C s i)] :
    ∀ s is, Decidable (M.Throughout C s is)
  | _, [] => inferInstanceAs (Decidable True)
  | s, i :: is =>
    have := decidableThroughout M C (M.next s i) is
    inferInstanceAs (Decidable (C s i ∧ M.Throughout C (M.next s i) is))

instance decidableAlways (M : Machine σ ι ο) (P : σ → Prop) [∀ s, Decidable (P s)] :
    ∀ s is, Decidable (M.Always P s is)
  | s, [] => inferInstanceAs (Decidable (P s))
  | s, i :: is =>
    have := decidableAlways M P (M.next s i) is
    inferInstanceAs (Decidable (P s ∧ M.Always P (M.next s i) is))

section
variable (M : Machine σ ι ο)

/-- An invariant that every step keeps holds after every run. -/
theorem run_keeps {Inv : σ → Prop} (keeps : ∀ s i, Inv s → Inv (M.next s i)) {s : σ} (start : Inv s)
    (is : List ι) : Inv (M.run s is) := by
  induction is generalizing s with
  | nil => exact start
  | cons i is ih => exact ih (keeps s i start)

/-- It holds in every state of the run, too. -/
theorem always_of_keeps {Inv : σ → Prop} (keeps : ∀ s i, Inv s → Inv (M.next s i)) {s : σ} (start : Inv s)
    (is : List ι) : M.Always Inv s is := by
  induction is generalizing s with
  | nil => exact start
  | cons i is ih => exact ⟨start,ih (keeps s i start)⟩

theorem always_mono {P Q : σ → Prop} (weaken : ∀ s, P s → Q s) {s : σ} {is : List ι} (all : M.Always P s is) :
    M.Always Q s is := by
  induction is generalizing s with
  | nil => exact weaken s all
  | cons i is ih => exact ⟨weaken s all.1,ih all.2⟩

/-- What holds of every step from a state in which `P` holds, holds throughout a run in which `P` always holds. -/
theorem throughout_of_always {P : σ → Prop} {C : σ → ι → Prop} (step : ∀ s i, P s → C s i) {s : σ} {is : List ι}
    (all : M.Always P s is) : M.Throughout C s is := by
  induction is generalizing s with
  | nil => trivial
  | cons i is ih => exact ⟨step s i all.1,ih all.2⟩

/-- What holds of every step holds throughout. -/
theorem throughout_of_forall {C : σ → ι → Prop} (all : ∀ s i, C s i) (s : σ) (is : List ι) :
    M.Throughout C s is := by
  induction is generalizing s with
  | nil => trivial
  | cons i is ih => exact ⟨all s i,ih (M.next s i)⟩

/-- Two step conditions that agree wherever an invariant holds agree on runs. -/
theorem throughout_congr {Inv : σ → Prop} {C D : σ → ι → Prop} (keeps : ∀ s i, Inv s → Inv (M.next s i))
    (agree : ∀ s i, Inv s → (C s i ↔ D s i)) {s : σ} (start : Inv s) (is : List ι) :
    M.Throughout C s is ↔ M.Throughout D s is := by
  induction is generalizing s with
  | nil => exact Iff.rfl
  | cons i is ih => exact and_congr (agree s i start) (ih (keeps s i start))

/-- Two step conditions that agree in every state agree on runs. -/
theorem throughout_iff {C D : σ → ι → Prop} (agree : ∀ s i, C s i ↔ D s i) (s : σ) (is : List ι) :
    M.Throughout C s is ↔ M.Throughout D s is :=
  M.throughout_congr (fun _ _ kept => kept) (fun s i (_ : True) => agree s i) trivial is

/-- When every step from a good state leads to a good state exactly under `C`,
    a run from a good state stays good exactly when `C` holds of all its steps. -/
theorem always_iff_throughout {Inv P : σ → Prop} {C : σ → ι → Prop}
    (keeps : ∀ s i, Inv s → Inv (M.next s i))
    (exact : ∀ s i, Inv s → P s → (P (M.next s i) ↔ C s i)) {s : σ} (start : Inv s) (good : P s)
    (is : List ι) : M.Always P s is ↔ M.Throughout C s is := by
  induction is generalizing s with
  | nil => simp [Always,Throughout,good]
  | cons i is ih =>
    have here := exact s i start good
    simp only [Always,Throughout,good,true_and]
    constructor
    · intro all
      have reached : P (M.next s i) := by
        cases is with
        | nil => exact all
        | cons j js => exact all.1
      exact ⟨here.mp reached,(ih (keeps s i start) reached).mp all⟩
    · rintro ⟨holds,rest⟩
      exact (ih (keeps s i start) (here.mpr holds)).mpr rest

end

/-- The machine with a value of `μ` updated at each step from the state before it and its input. -/
def observe (M : Machine σ ι ο) (update : μ → σ → ι → μ) : Machine (σ × μ) ι ο where
  step x i := ((M.next x.1 i,update x.2 x.1 i),M.out x.1 i)

@[simp] theorem observe_next (M : Machine σ ι ο) (update : μ → σ → ι → μ) (x : σ × μ) (i : ι) :
    (M.observe update).next x i = (M.next x.1 i,update x.2 x.1 i) := rfl

/-- The machine of which only the outputs with an image under `f` are seen, as their images. -/
def view (M : Machine σ ι ο) (f : ο → Option κ) : Machine σ ι κ where
  step s i := (M.next s i,(M.out s i).filterMap f)

theorem view_run (M : Machine σ ι ο) (f : ο → Option κ) (s : σ) (is : List ι) :
    (M.view f).run s is = M.run s is := by
  induction is generalizing s with
  | nil => rfl
  | cons i is ih => exact ih (M.next s i)

theorem view_outputs (M : Machine σ ι ο) (f : ο → Option κ) (s : σ) (is : List ι) :
    (M.view f).outputs s is = (M.outputs s is).filterMap f := by
  induction is generalizing s with
  | nil => rfl
  | cons i is ih =>
    rw [outputs,outputs,List.filterMap_append,← ih (M.next s i)]
    rfl

/-- A machine related to another by what every step keeps stays related to it, and
    puts out the same, through every run. -/
theorem run_simulates (M : Machine σ ι ο) (N : Machine τ ι ο) {R : σ → τ → Prop}
    (step : ∀ s t i, R s t → R (M.next s i) (N.next t i) ∧ M.out s i = N.out t i) {s : σ} {t : τ}
    (start : R s t) (is : List ι) : R (M.run s is) (N.run t is) ∧ M.outputs s is = N.outputs t is := by
  induction is generalizing s t with
  | nil => exact ⟨start,rfl⟩
  | cons i is ih =>
    obtain ⟨related,same⟩ := step s t i start
    obtain ⟨final,rest⟩ := ih related
    exact ⟨final,by simp only [outputs,same,rest]⟩

end Machine
end Runs
