import Mathlib.Algebra.BigOperators.Group.List.Basic
import Mathlib.Algebra.GroupWithZero.Nat
import Mathlib.Data.List.TakeWhile

/-!
# Attempts that stop at the first failure

A run of attempts is made in order up to the first that fails; the rest is not made.  Each
attempt stands for a number of items, at least one, and a run reports at most one failure,
whatever it lost.  Over any number of runs the reports add up to the items lost exactly if in
each run only the last attempt may fail and then stands for one item (`reported_eq_lost_iff`).
In that case nothing that would have succeeded is skipped (`OnlyLast.takeWhile_eq_filter`).
-/

namespace Lib.Attempt

variable {U : Type} (ok : U → Bool) (size : U → Nat)

/-- The failures a run reports. -/
def reported (run : List U) : Nat := if run.all ok then 0 else 1

/-- The items of the attempts that failed or were not made. -/
def lost (run : List U) : Nat := ((run.dropWhile ok).map size).sum

/-- Only the last attempt may fail, and then it stands for one item. -/
def OnlyLast (run : List U) : Prop :=
  (∀ u ∈ run, ok u = true) ∨
  ∃ us u, run = us ++ [u] ∧ (∀ v ∈ us, ok v = true) ∧ ok u = false ∧ size u = 1

variable {ok size} {run : List U}

/-- A run that fails, at its first failure. -/
theorem split_of_not_all (h : run.all ok = false) :
    ∃ us u rest, run = us ++ u :: rest ∧ (∀ v ∈ us, ok v = true) ∧ ok u = false := by
  induction run with
  | nil => cases h
  | cons v run ih =>
    cases hv : ok v with
    | false => exact ⟨[], v, run, rfl, fun _ h => absurd h List.not_mem_nil, hv⟩
    | true =>
      rw [List.all_cons, hv, Bool.true_and] at h
      obtain ⟨us, u, rest, rfl, hus, hu⟩ := ih h
      refine ⟨v :: us, u, rest, rfl, fun w hw => ?_, hu⟩
      rcases List.mem_cons.1 hw with rfl | hw
      · exact hv
      · exact hus w hw

theorem dropWhile_split {us rest : List U} {u : U} (hus : ∀ v ∈ us, ok v = true) (hu : ok u = false) :
    (us ++ u :: rest).dropWhile ok = u :: rest := by
  rw [List.dropWhile_append_of_pos hus, List.dropWhile_cons_of_neg (Bool.eq_false_iff.1 hu)]

theorem lost_of_all (h : run.all ok = true) : lost ok size run = 0 := by
  have hnil : run.dropWhile ok = [] := List.dropWhile_eq_nil_iff.2 (List.all_eq_true.1 h)
  rw [lost, hnil, List.map_nil, List.sum_nil]

section
variable (hsize : ∀ u, 0 < size u)
include hsize

theorem reported_le_lost (run : List U) : reported ok run ≤ lost ok size run := by
  unfold reported
  split
  · exact Nat.zero_le _
  · next h =>
    obtain ⟨us, u, rest, rfl, hus, hu⟩ := split_of_not_all (Bool.eq_false_iff.2 h)
    rw [lost, dropWhile_split hus hu, List.map_cons, List.sum_cons]
    have := hsize u
    omega

theorem reported_eq_lost_one (run : List U) :
    reported ok run = lost ok size run ↔ OnlyLast ok size run := by
  cases hall : run.all ok with
  | true =>
    rw [reported, hall, lost_of_all hall]
    exact ⟨fun _ => Or.inl (List.all_eq_true.1 hall), fun _ => rfl⟩
  | false =>
    rw [reported, hall]
    constructor
    · intro h
      obtain ⟨us, u, rest, rfl, hus, hu⟩ := split_of_not_all hall
      rw [lost, dropWhile_split hus hu, List.map_cons, List.sum_cons] at h
      have hu1 := hsize u
      cases rest with
      | nil => exact Or.inr ⟨us, u, rfl, hus, hu, by simpa using h.symm⟩
      | cons v rest =>
        have hv1 := hsize v
        simp only [List.map_cons, List.sum_cons, Bool.false_eq_true, if_false] at h
        omega
    · rintro (hok | ⟨us, u, rfl, hus, hu, hone⟩)
      · rw [List.all_eq_true.2 hok] at hall
        cases hall
      · rw [lost, dropWhile_split hus hu]
        simp [hone]

/-- **Reports and losses** over any number of runs. -/
theorem reported_eq_lost_iff (runs : List (List U)) :
    (runs.map (reported ok)).sum = (runs.map (lost ok size)).sum ↔
      ∀ run ∈ runs, OnlyLast ok size run := by
  have hle : ∀ runs : List (List U), (runs.map (reported ok)).sum ≤ (runs.map (lost ok size)).sum := by
    intro runs
    induction runs with
    | nil => exact Nat.le_refl _
    | cons run runs ih => exact Nat.add_le_add (reported_le_lost hsize run) ih
  induction runs with
  | nil => simp
  | cons run runs ih =>
    have h1 : reported ok run ≤ lost ok size run := reported_le_lost hsize run
    have h2 := hle runs
    simp only [List.map_cons, List.sum_cons, List.forall_mem_cons]
    constructor
    · intro h
      exact ⟨(reported_eq_lost_one hsize run).1 (by omega), ih.1 (by omega)⟩
    · rintro ⟨hrun, hruns⟩
      rw [(reported_eq_lost_one hsize run).2 hrun, ih.2 hruns]

end

/-- Nothing that would succeed is skipped. -/
theorem OnlyLast.takeWhile_eq_filter (h : OnlyLast ok size run) : run.takeWhile ok = run.filter ok := by
  rcases h with hok | ⟨us, u, rfl, hus, hu, -⟩
  · rw [List.takeWhile_eq_self_iff.2 hok, List.filter_eq_self.2 hok]
  · rw [List.takeWhile_append_of_pos hus, List.filter_append, List.filter_eq_self.2 hus]
    simp [hu]

end Lib.Attempt
