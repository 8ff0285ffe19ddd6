import EzVpn.Lib.Run

/-!
# Checking on change

A watcher samples something at intervals and checks a sample only if it differs from the one
before; it stops at the first check that finds something.  The first sample is the baseline
and is not checked.

If the baseline would have passed the check, nothing is missed: an unchanged sample was
checked when it appeared (`found_of_check`).  If it would not have passed, it goes unnoticed
for as long as it stays (`found_first_iff`).
-/

namespace Lib.Watch

structure State (S E : Type*) where
  last : S
  found : Option E

variable {S E : Type*} [DecidableEq S]

def start (first : S) : State S E := ⟨first, none⟩

/-- One poll. -/
def poll (check : S → Option E) (w : State S E) (s : S) : State S E :=
  match w.found with
  | some _ => w
  | none => if s = w.last then w else ⟨s, check s⟩

variable {check : S → Option E} {first : S} {w : State S E} {s : S} {polls : List S} {e : E}

theorem poll_of_found (h : w.found = some e) : poll check w s = w := by
  simp only [poll, h]

theorem found_poll (h : w.found = none) :
    (poll check w s).found = if s = w.last then none else check s := by
  simp only [poll, h]
  split
  · exact h
  · rfl

/-- What was found stays found. -/
theorem found_append (h : w.found = some e) (more : List S) :
    (run (poll check) w more).found = some e :=
  inv_run_all (I := fun w => w.found = some e) (fun w s h => by rw [poll_of_found h]; exact h) more w h

/-- A watcher that has found nothing remembers the last sample. -/
theorem last_run (h : (run (poll check) (start first) polls).found = none) :
    some (run (poll check) (start first) polls).last = (first :: polls).getLast? := by
  induction polls using List.reverseRecOn with
  | nil => rfl
  | append_singleton polls s ih =>
    rw [run_concat] at h ⊢
    cases hf : (run (poll check) (start first) polls).found with
    | some e => rw [poll_of_found hf, hf] at h; cases h
    | none =>
      rw [← List.cons_append, List.getLast?_concat, poll]
      simp only [hf]
      split
      · next heq => exact congrArg some heq.symm
      · rfl

/-- What was found is what the check says of a sample polled. -/
theorem found_mem (h : (run (poll check) (start first) polls).found = some e) :
    ∃ s ∈ polls, check s = some e := by
  induction polls using List.reverseRecOn with
  | nil => cases h
  | append_singleton polls s ih =>
    rw [run_concat] at h
    cases hf : (run (poll check) (start first) polls).found with
    | some e' =>
      rw [poll_of_found hf] at h
      obtain ⟨s', hs', hc⟩ := ih h
      exact ⟨s', List.mem_append_left _ hs', hc⟩
    | none =>
      rw [found_poll hf] at h
      split at h
      · cases h
      · exact ⟨s, by simp, h⟩

/-- **Nothing is missed** behind a baseline that passes the check. -/
theorem found_of_check (hfirst : check first = none) (hs : check s ≠ none) :
    (run (poll check) (start first) (polls ++ [s])).found ≠ none := by
  induction polls using List.reverseRecOn with
  | nil =>
    have hne : s ≠ first := fun heq => hs (heq ▸ hfirst)
    rw [run_concat, run, List.foldl_nil, found_poll rfl]
    simpa only [start, hne, if_false] using hs
  | append_singleton polls s' ih =>
    rw [run_concat]
    cases hf : (run (poll check) (start first) (polls ++ [s'])).found with
    | some e => rw [poll_of_found hf, hf]; exact Option.some_ne_none e
    | none =>
      -- the sample before was not found, so this one is new
      have hlast := last_run hf
      rw [← List.cons_append, List.getLast?_concat] at hlast
      have hne : s ≠ s' := by
        rintro rfl
        exact ih hf
      rw [found_poll hf, Option.some.inj hlast, if_neg hne]
      exact hs

/-- The first poll finds something exactly if it differs from the baseline and does not pass. -/
theorem found_first_iff :
    (run (poll check) (start first) [s]).found ≠ none ↔ s ≠ first ∧ check s ≠ none := by
  rw [run_cons, run, List.foldl_nil, found_poll rfl]
  by_cases h : s = first <;> simp [start, h]

end Lib.Watch
