import Mathlib.Data.List.Forall2

/-!
# Computations that may fail

What a computation in `Except` comes to: a value with `P`, or an error with `Q`.  The rules follow
the way such computations are written: sequencing, early errors and checks.
-/

namespace Lib

universe u

variable {ε : Type*} {α β : Type u}

/-- The value has `P`, or the error has `Q`. -/
def Ends (Q : ε → Prop) (P : α → Prop) : Except ε α → Prop
  | .ok a => P a
  | .error e => Q e

/-- Both parts of a sequence have succeeded. -/
theorem bind_eq_ok {x : Except ε α} {f : α → Except ε β} {b : β} (h : (x >>= f) = .ok b) :
    ∃ a, x = .ok a ∧ f a = .ok b := by
  cases x with
  | ok a => exact ⟨a, rfl, h⟩
  | error e => cases h

theorem not_ok_of_error {x : Except ε α} {e : ε} (h : x = .error e) : ¬ ∃ a, x = .ok a := by
  rintro ⟨a, ha⟩
  cases h.symm.trans ha

namespace Ends

variable {Q Q' : ε → Prop} {P P' : α → Prop} {R : β → Prop} {x : Except ε α}

theorem value (h : Ends Q P x) {a : α} (hx : x = .ok a) : P a := by
  subst hx
  exact h

theorem err (h : Ends Q P x) {e : ε} (hx : x = .error e) : Q e := by
  subst hx
  exact h

theorem of_eq (hok : ∀ a, x = .ok a → P a) (herr : ∀ e, x = .error e → Q e) : Ends Q P x := by
  cases x with
  | ok a => exact hok a rfl
  | error e => exact herr e rfl

theorem mono (h : Ends Q P x) (hQ : ∀ e, Q e → Q' e) (hP : ∀ a, P a → P' a) : Ends Q' P' x := by
  cases x with
  | ok a => exact hP a h
  | error e => exact hQ e h

theorem bind {f : α → Except ε β} (h : Ends Q P x) (hf : ∀ a, P a → Ends Q R (f a)) :
    Ends Q R (x >>= f) := by
  cases x with
  | ok a => exact hf a h
  | error e => exact h

/-- An error that is carried on as another one. -/
theorem mapError {ε' : Type*} {f : ε → ε'} {Q : ε' → Prop} (h : Ends (fun e => Q (f e)) P x) :
    Ends Q P (x.mapError f) := by
  cases x with
  | ok a => exact h
  | error e => exact h

end Ends

/-! ## Lists -/

/-- A check of every element. -/
theorem forM_eq_ok {f : α → Except ε PUnit} {l : List α} (h : l.forM f = .ok ⟨⟩) : ∀ a ∈ l, f a = .ok ⟨⟩ := by
  induction l with
  | nil => exact fun a ha => absurd ha List.not_mem_nil
  | cons b l ih =>
    obtain ⟨_, hb, hl⟩ := bind_eq_ok (show (f b >>= fun _ => l.forM f) = .ok ⟨⟩ from h)
    exact List.forall_mem_cons.2 ⟨hb, ih hl⟩

/-- A list is converted element by element, and fails with the error of one of them. -/
theorem mapM_ends (f : α → Except ε β) (l : List α) :
    Ends (fun e => ∃ a ∈ l, f a = .error e) (fun bs => List.Forall₂ (fun a b => f a = .ok b) l bs) (l.mapM f) := by
  induction l with
  | nil => exact List.Forall₂.nil
  | cons a l ih =>
    rw [List.mapM_cons]
    refine Ends.bind (.of_eq (fun b hb => hb) fun e he => ⟨a, List.mem_cons_self, he⟩) fun b hb => ?_
    refine Ends.bind (ih.mono (fun e ⟨a', ha', he⟩ => ⟨a', List.mem_cons_of_mem _ ha', he⟩) fun bs hbs => hbs) ?_
    exact fun bs hbs => List.Forall₂.cons hb hbs

end Lib
