import EzVpn.Lib.Run
import Mathlib.Data.List.Forall2

/-!
# States with a part for each key

A state is seen through one view for each key.  If the work for a key changes the part of that
key only, a pass over distinct keys does the work of each part once (`view_pass`).

A log of entries with keys is one log for each key; what holds of any two entries with one key
is proved on the part (`pairwise_of_parts`).
-/

namespace Lib

section
variable {σ K V : Type*}

/-- The work for `k` changes the part of `k`, by `f k`, and no other part. -/
structure Local (view : K → σ → V) (work : σ → K → σ) (f : K → V → V) : Prop where
  here : ∀ s k, view k (work s k) = f k (view k s)
  elsewhere : ∀ s k j, j ≠ k → view j (work s k) = view j s

variable [DecidableEq K] {view : K → σ → V} {work : σ → K → σ} {f : K → V → V}

/-- **A pass** over distinct keys. -/
theorem view_pass (h : Local view work f) {ks : List K} (hks : ks.Nodup) (s : σ) (k : K) :
    view k (ks.foldl work s) = if k ∈ ks then f k (view k s) else view k s := by
  induction ks generalizing s with
  | nil => rfl
  | cons j ks ih =>
    obtain ⟨hj, hks⟩ := List.nodup_cons.1 hks
    rw [List.foldl_cons, ih hks]
    by_cases hk : k = j
    · subst hk
      rw [if_neg hj, if_pos List.mem_cons_self, h.here]
    · rw [h.elsewhere s j k hk]
      simp only [List.mem_cons, hk, false_or]

end

section
variable {α K : Type*} [DecidableEq K] {key : α → K} {R : α → α → Prop}

theorem pairwise_of_parts {l : List α} (h : ∀ k, (l.filter fun a => key a = k).Pairwise R) :
    l.Pairwise fun a b => key b = key a → R a b := by
  rw [List.pairwise_iff_forall_sublist]
  intro a b hab hkey
  have hpart : [a, b].filter (fun c => key c = key a) = [a, b] := by simp [hkey]
  exact List.pairwise_iff_forall_sublist.1 (h (key a)) (hpart ▸ hab.filter _)

end

/-- Two runs whose steps do the same. -/
theorem run_congr {σ α : Type*} {step : σ → α → σ} {as bs : List α}
    (h : List.Forall₂ (fun a b => ∀ s, step s a = step s b) as bs) (s : σ) :
    run step s as = run step s bs := by
  induction h generalizing s with
  | nil => rfl
  | cons hab _ ih => rw [run_cons, run_cons, hab, ih]

end Lib
