import Mathlib.Data.List.Induction
import Mathlib.Logic.Function.Iterate

/-!
# Runs of a step function

A run is the fold of a total step function over a list of actions.  These rules
carry every whole-run result of the development:

* `inv_run`: an invariant kept by every step whose guard holds in the state the
  step starts from holds at the end of every guarded run;
* `inv_history`: the same for an invariant that also speaks of the steps taken so far;
* `iterate_done`: a step function that is repeated without actions and makes a measure
  smaller comes to its end;
* `run_erase`: an unwinding rule for two runs.  A relation kept when a hidden
  action is taken on the left only, and when a visible action is taken on both
  sides, relates every run to the run without its hidden actions.
-/

namespace Lib

variable {σ α : Type*}

def run (step : σ → α → σ) (s : σ) (as : List α) : σ := as.foldl step s

theorem run_cons (step : σ → α → σ) (s : σ) (a : α) (as : List α) :
    run step s (a :: as) = run step (step s a) as := rfl

theorem run_append (step : σ → α → σ) (s : σ) (as bs : List α) :
    run step s (as ++ bs) = run step (run step s as) bs := by
  unfold run; rw [List.foldl_append]

theorem run_concat (step : σ → α → σ) (s : σ) (as : List α) (a : α) :
    run step s (as ++ [a]) = step (run step s as) a := by
  rw [run_append]; rfl

/-- Every step of the run meets `G` in the state it is taken from. -/
def Guarded (step : σ → α → σ) (G : σ → α → Prop) : σ → List α → Prop
  | _, [] => True
  | s, a :: as => G s a ∧ Guarded step G (step s a) as

instance decidableGuarded (step : σ → α → σ) (G : σ → α → Prop) [∀ s a, Decidable (G s a)] :
    ∀ s as, Decidable (Guarded step G s as)
  | _, [] => .isTrue trivial
  | s, a :: as =>
    have := decidableGuarded step G (step s a) as
    inferInstanceAs (Decidable (G s a ∧ Guarded step G (step s a) as))

theorem guarded_imp {step : σ → α → σ} {G H : σ → α → Prop} (h : ∀ s a, G s a → H s a) :
    ∀ (as : List α) (s : σ), Guarded step G s as → Guarded step H s as := by
  intro as
  induction as with
  | nil => intro s _; exact trivial
  | cons a as ih => intro s hg; exact ⟨h s a hg.1, ih _ hg.2⟩

theorem guarded_concat {step : σ → α → σ} {G : σ → α → Prop} {as : List α} {a : α} {s : σ} :
    Guarded step G s (as ++ [a]) ↔ Guarded step G s as ∧ G (run step s as) a := by
  induction as generalizing s with
  | nil => exact ⟨fun h => ⟨trivial, h.1⟩, fun h => ⟨h.2, trivial⟩⟩
  | cons b as ih => exact ⟨fun h => ⟨⟨h.1, (ih.1 h.2).1⟩, (ih.1 h.2).2⟩, fun h => ⟨h.1.1, ih.2 ⟨h.1.2, h.2⟩⟩⟩

theorem guarded_of_split {step : σ → α → σ} {G : σ → α → Prop} {as : List α} {s : σ}
    (h : ∀ before a after, as = before ++ a :: after → G (run step s before) a) :
    Guarded step G s as := by
  induction as generalizing s with
  | nil => exact trivial
  | cons a as ih =>
    refine ⟨h [] a as rfl, ih fun before b after heq => ?_⟩
    exact h (a :: before) b after (by rw [heq]; rfl)

theorem guarded_and {step : σ → α → σ} {G H : σ → α → Prop} {as : List α} {s : σ}
    (hg : Guarded step G s as) (hh : Guarded step H s as) : Guarded step (fun s a => G s a ∧ H s a) s as := by
  induction as generalizing s with
  | nil => exact trivial
  | cons a as ih => exact ⟨⟨hg.1, hh.1⟩, ih hg.2 hh.2⟩

/-- A guard on the actions alone. -/
theorem guarded_of_forall {step : σ → α → σ} {G : α → Prop} {as : List α} {s : σ} (h : ∀ a ∈ as, G a) :
    Guarded step (fun _ a => G a) s as :=
  guarded_of_split fun before a _ heq => h a (heq ▸ List.mem_append_right before List.mem_cons_self)

/-- **Invariants of guarded runs.** -/
theorem inv_run {step : σ → α → σ} {G : σ → α → Prop} {I : σ → Prop}
    (hstep : ∀ s a, I s → G s a → I (step s a)) :
    ∀ (as : List α) (s : σ), I s → Guarded step G s as → I (run step s as) := by
  intro as
  induction as with
  | nil => intro s hs _; exact hs
  | cons a as ih =>
    intro s hs hg
    rw [run_cons]
    exact ih _ (hstep s a hs hg.1) hg.2

/-- Invariants of arbitrary runs. -/
theorem inv_run_all {step : σ → α → σ} {I : σ → Prop} (hstep : ∀ s a, I s → I (step s a))
    (as : List α) (s : σ) (hs : I s) : I (run step s as) := by
  induction as generalizing s with
  | nil => exact hs
  | cons a as ih => rw [run_cons]; exact ih _ (hstep s a hs)

/-- A step function that makes a measure smaller until it is done comes to its end. -/
theorem iterate_done {step : σ → σ} {done : σ → Prop} (left : σ → Nat) (hdone : ∀ s, done s → step s = s)
    (hstep : ∀ s, done s ∨ left (step s) < left s) : ∀ (n : Nat) (s : σ), left s ≤ n → done (step^[n] s) := by
  intro n
  induction n with
  | zero =>
    intro s hs
    exact (hstep s).resolve_right (by omega)
  | succ n ih =>
    intro s hs
    rw [Function.iterate_succ_apply]
    rcases hstep s with hd | hlt
    · rw [hdone s hd, Function.iterate_fixed (hdone s hd)]
      exact hd
    · exact ih _ (by omega)

/-! ## Histories -/

/-- The part of a run before one of its steps is an initial segment. -/
theorem take_of_split {as before after : List α} {a : α} (h : as = before ++ a :: after) :
    as.take before.length = before ∧ before.length < as.length := by
  rw [h, List.take_left, List.length_append, List.length_cons]
  exact ⟨rfl, by omega⟩

/-- Some step of the run was taken from a state where `P` held of it. -/
def Once (step : σ → α → σ) (P : σ → α → Prop) (s : σ) (as : List α) : Prop :=
  ∃ before a after, as = before ++ a :: after ∧ P (run step s before) a

theorem once_last {step : σ → α → σ} {P : σ → α → Prop} {s : σ} {as : List α} {a : α}
    (h : P (run step s as) a) : Once step P s (as ++ [a]) := ⟨as, a, [], rfl, h⟩

theorem Once.append {step : σ → α → σ} {P : σ → α → Prop} {s : σ} {as : List α}
    (h : Once step P s as) (bs : List α) : Once step P s (as ++ bs) := by
  obtain ⟨before, a, after, rfl, hp⟩ := h
  exact ⟨before, a, after ++ bs, by rw [List.append_assoc, List.cons_append], hp⟩

/-- Invariants that speak of the steps taken so far. -/
theorem inv_history {step : σ → α → σ} {s : σ} {I : List α → σ → Prop} (h0 : I [] s)
    (hstep : ∀ as a, I as (run step s as) → I (as ++ [a]) (step (run step s as) a)) (as : List α) :
    I as (run step s as) := by
  induction as using List.reverseRecOn with
  | nil => exact h0
  | append_singleton as a ih => rw [run_append]; exact hstep as a ih

/-! ## Two runs -/

/-- **Unwinding.**  `R` relates a run to the run with its hidden actions deleted. -/
theorem run_erase {step : σ → α → σ} {R : σ → σ → Prop} (hidden : α → Bool)
    (hh : ∀ s t a, R s t → hidden a = true → R (step s a) t)
    (hv : ∀ s t a, R s t → hidden a = false → R (step s a) (step t a)) :
    ∀ (as : List α) (s t : σ), R s t →
      R (run step s as) (run step t (as.filter fun a => !hidden a)) := by
  intro as
  induction as with
  | nil => intro s t h; exact h
  | cons a as ih =>
    intro s t h
    rw [run_cons, List.filter_cons]
    cases ha : hidden a with
    | true => simpa using ih _ _ (hh s t a h ha)
    | false =>
      simp only [Bool.not_false, if_true]
      rw [run_cons]
      exact ih _ _ (hv s t a h ha)

/-! ## A part of the state -/

/-- A part that only some of the actions change, and those by a step function of their own. -/
theorem run_part {τ β : Type*} {step : σ → α → σ} {step' : τ → β → τ} {action : α → Option β} (part : σ → τ)
    (h : ∀ s a, part (step s a) = match action a with | some b => step' (part s) b | none => part s)
    (as : List α) (s : σ) : part (run step s as) = run step' (part s) (as.filterMap action) := by
  induction as generalizing s with
  | nil => rfl
  | cons a as ih =>
    rw [run_cons, ih, h, List.filterMap_cons]
    cases action a with
    | none => rfl
    | some b => rfl

end Lib
