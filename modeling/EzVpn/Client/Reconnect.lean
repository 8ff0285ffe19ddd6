import EzVpn.Config
import EzVpn.Lib.Run
import Mathlib.Algebra.Order.Ring.Nat

/-!
# The reconnect loop

`run_with_reconnect` and its backoff (src/tunnel/client.rs).  The loop is a state machine
over the outcomes of `connect`, each with the jitter drawn for the delay after it; once it
has returned it takes no further step.

`reconnect_policy` states the policy over whole runs, in terms of the outcomes alone: the
number of a failure within its outage is `outage`, and the loop goes on exactly while every
outcome is `Retried`.
-/

namespace EzVpn

open Lib

/-! ## Backoff -/

def saturatingAdd (w a b : Nat) : Nat := min (a + b) (2 ^ w - 1)
def saturatingMul (w a b : Nat) : Nat := min (a * b) (2 ^ w - 1)
def saturatingPow (w a b : Nat) : Nat := min (a ^ b) (2 ^ w - 1)

def backoffBaseMs : Nat := 1000
def backoffMaxMs : Nat := 60000
def backoffJitterMs : Nat := 500

/-- `rng.random_range(0..BACKOFF_JITTER_MS)`. -/
abbrev Jitter := Fin backoffJitterMs

/-- `calculate_backoff_with_rng`, in milliseconds. -/
def calculateBackoff (attempt : Nat) (jitter : Jitter) : Nat :=
  let multiplier := saturatingPow 64 2 (attempt - 1)
  let baseDelay := saturatingMul 64 backoffBaseMs multiplier
  min (saturatingAdd 64 baseDelay jitter.val) backoffMaxMs

/-- No step of the computation saturates before the cap is reached. -/
theorem calculateBackoff_eq (attempt : Nat) (jitter : Jitter) :
    calculateBackoff attempt jitter = min (1000 * 2 ^ (attempt - 1) + jitter.val) 60000 := by
  have hj : jitter.val < 500 := jitter.isLt
  simp only [calculateBackoff, saturatingPow, saturatingMul, saturatingAdd, backoffBaseMs, backoffMaxMs]
  rcases Nat.lt_or_ge (attempt - 1) 6 with hsmall | hbig
  · have hpow : 2 ^ (attempt - 1) ≤ 2 ^ 5 := Nat.pow_le_pow_right (by decide) (by omega)
    rw [Nat.min_eq_left (b := 2 ^ 64 - 1) (by omega), Nat.min_eq_left (b := 2 ^ 64 - 1) (by omega),
      Nat.min_eq_left (b := 2 ^ 64 - 1) (by omega)]
  · have hpow : 2 ^ 6 ≤ 2 ^ (attempt - 1) := Nat.pow_le_pow_right (by decide) hbig
    omega

theorem calculateBackoff_bounds (attempt : Nat) (jitter : Jitter) :
    1000 ≤ calculateBackoff attempt jitter ∧ calculateBackoff attempt jitter ≤ 60000 := by
  rw [calculateBackoff_eq]
  have := Nat.one_le_two_pow (n := attempt - 1)
  omega

/-- A later failure waits at least as long: a doubling exceeds any jitter. -/
theorem calculateBackoff_mono {n m : Nat} (h1 : 1 ≤ n) (h : n < m) (i j : Jitter) :
    calculateBackoff n i ≤ calculateBackoff m j := by
  have hi : i.val < 500 := i.isLt
  have hpow : 2 ^ (n - 1) * 2 ≤ 2 ^ (m - 1) := by
    rw [← pow_succ]
    exact Nat.pow_le_pow_right (by decide) (by omega)
  have := Nat.one_le_two_pow (n := n - 1)
  rw [calculateBackoff_eq, calculateBackoff_eq]
  omega

/-- From the seventh failure on the delay is the cap. -/
theorem calculateBackoff_of_le {n : Nat} (h : 7 ≤ n) (jitter : Jitter) :
    calculateBackoff n jitter = 60000 := by
  have hpow : 2 ^ 6 ≤ 2 ^ (n - 1) := Nat.pow_le_pow_right (by decide) (by omega)
  rw [calculateBackoff_eq]
  omega

/-- A saturated counter gives the same delay. -/
theorem calculateBackoff_min {n bound : Nat} (hb : 7 ≤ bound) (jitter : Jitter) :
    calculateBackoff (min n bound) jitter = calculateBackoff n jitter := by
  rcases Nat.le_total n bound with h | h
  · rw [Nat.min_eq_left h]
  · rw [Nat.min_eq_right h, calculateBackoff_of_le hb, calculateBackoff_of_le (hb.trans h)]

/-! ## The loop -/

/-- `NonZeroU32`. -/
abbrev NonZeroU32 := { n : Nat // 0 < n ∧ n < 2 ^ 32 }

def VpnError.isConnectionLost : VpnError → Bool
  | connectionLost _ => true
  | _ => false

/-- `run_with_reconnect` between two calls of `connect`. -/
structure ReconnectLoop where
  /-- consecutive failures in the current outage (`u32`) -/
  failures : Nat
  /-- the delays slept so far -/
  delays : List Nat
  /-- what the loop has returned -/
  result : Option (Except VpnError Unit)

def ReconnectLoop.start : ReconnectLoop := ⟨0, [], none⟩

/-- One outcome of `connect`. -/
def ReconnectLoop.step (maxAttempts : Option NonZeroU32) (l : ReconnectLoop)
    (a : Except VpnError Unit × Jitter) : ReconnectLoop :=
  match l.result with
  | some _ => l
  | none =>
    match a.1 with
    | .ok () => { l with result := some (.ok ()) }
    | .error e =>
      if e.isRecoverable then
        let failures := if e.isConnectionLost then 0 else l.failures
        let failures := saturatingAdd 32 failures 1
        match maxAttempts.filter fun max => failures > max.1 with
        | some max => { l with failures, result := some (.error (.maxReconnectAttemptsExceeded max.1)) }
        | none => { l with failures, delays := l.delays ++ [calculateBackoff failures a.2] }
      else { l with result := some (.error e) }

/-- An error that is not recoverable is returned at once. -/
theorem ReconnectLoop.step_fatal {l : ReconnectLoop} (maxAttempts : Option NonZeroU32) {e : VpnError}
    (jitter : Jitter) (hgo : l.result = none) (he : e.isRecoverable = false) :
    l.step maxAttempts (.error e, jitter) = { l with result := some (.error e) } := by
  simp [ReconnectLoop.step, hgo, he]

/-! ## Outages -/

/-- The outcome of a tunnel that was up and dropped. -/
def lost : Except VpnError Unit → Bool
  | .error e => e.isConnectionLost
  | .ok () => false

/-- Failures since the start or since the last lost connection, which is the first failure of
its outage. -/
def outage (outcomes : List (Except VpnError Unit)) : Nat :=
  (outcomes.reverse.takeWhile fun o => !lost o).length + if outcomes.any lost then 1 else 0

theorem outage_append (outcomes : List (Except VpnError Unit)) (o : Except VpnError Unit) :
    outage (outcomes ++ [o]) = if lost o then 1 else outage outcomes + 1 := by
  unfold outage
  cases ho : lost o <;> simp [ho]
  omega

/-- Without a lost connection in between, failures are counted on. -/
theorem outage_take_lt {outcomes : List (Except VpnError Unit)} {i j : Nat} (hij : i < j)
    (hj : j < outcomes.length) (h : ∀ k o, i < k → k ≤ j → outcomes[k]? = some o → lost o = false) :
    outage (outcomes.take (i + 1)) < outage (outcomes.take (j + 1)) := by
  induction j with
  | zero => omega
  | succ j ih =>
    have hlast : outcomes.take (j + 1 + 1) = outcomes.take (j + 1) ++ [outcomes[j + 1]] := by
      rw [List.take_succ_eq_append_getElem hj]
    have hnot := h (j + 1) outcomes[j + 1] hij le_rfl (List.getElem?_eq_getElem hj)
    rw [hlast, outage_append, if_neg (by simp [hnot])]
    rcases Nat.lt_succ_iff_lt_or_eq.1 hij with hlt | rfl
    · have := ih hlt (by omega) fun k o hk hkj => h k o hk (by omega)
      omega
    · omega

theorem outage_pos {outcomes : List (Except VpnError Unit)} (h : outcomes ≠ []) : 1 ≤ outage outcomes := by
  obtain ⟨before, o, rfl⟩ := (List.eq_nil_or_concat outcomes).resolve_left h
  rw [List.concat_eq_append, outage_append]
  split <;> omega

/-! ## The policy -/

/-- The loop goes on after outcome `i`: it is recoverable and within the cap. -/
def Retried (maxAttempts : Option NonZeroU32) (outcomes : List (Except VpnError Unit)) (i : Nat) : Prop :=
  ∃ e, outcomes[i]? = some (.error e) ∧ e.isRecoverable = true ∧
    ∀ m, maxAttempts = some m → outage (outcomes.take (i + 1)) ≤ m.1

/-- The loop returns `r` at outcome `k`: a graceful end, an error not worth a retry, or one
failure more than the cap. -/
def Returns (maxAttempts : Option NonZeroU32) (outcomes : List (Except VpnError Unit)) (k : Nat)
    (r : Except VpnError Unit) : Prop :=
  (outcomes[k]? = some (.ok ()) ∧ r = .ok ()) ∨
  (∃ e, outcomes[k]? = some (.error e) ∧ e.isRecoverable = false ∧ r = .error e) ∨
  (∃ e m, outcomes[k]? = some (.error e) ∧ e.isRecoverable = true ∧ maxAttempts = some m ∧
    outage (outcomes.take (k + 1)) = m.1 + 1 ∧ r = .error (.maxReconnectAttemptsExceeded m.1))

section
variable {maxAttempts : Option NonZeroU32} {outcomes : List (Except VpnError Unit)}
  (o : Except VpnError Unit) {i : Nat}

theorem Retried.append (hi : i < outcomes.length) (h : Retried maxAttempts outcomes i) :
    Retried maxAttempts (outcomes ++ [o]) i := by
  unfold Retried at *
  rwa [List.getElem?_append_left hi, List.take_append_of_le_length hi]

theorem Returns.append (hi : i < outcomes.length) {r : Except VpnError Unit}
    (h : Returns maxAttempts outcomes i r) : Returns maxAttempts (outcomes ++ [o]) i r := by
  unfold Returns at *
  rwa [List.getElem?_append_left hi, List.take_append_of_le_length hi]

end

/-- What a run has come to, in terms of the outcomes. -/
structure LoopInv (maxAttempts : Option NonZeroU32) (os : List (Except VpnError Unit × Jitter))
    (l : ReconnectLoop) : Prop where
  retried : ∀ i < l.delays.length, Retried maxAttempts (os.map Prod.fst) i
  delay : ∀ i < l.delays.length, ∀ a, os[i]? = some a →
    l.delays[i]? = some (calculateBackoff (outage ((os.map Prod.fst).take (i + 1))) a.2)
  going : l.result = none → l.delays.length = os.length ∧
    l.failures = min (outage (os.map Prod.fst)) (2 ^ 32 - 1)
  ended : ∀ r, l.result = some r → l.delays.length < os.length ∧
    Returns maxAttempts (os.map Prod.fst) l.delays.length r

section
variable {maxAttempts : Option NonZeroU32} {os : List (Except VpnError Unit × Jitter)} {l : ReconnectLoop}

theorem LoopInv.length_le (h : LoopInv maxAttempts os l) : l.delays.length ≤ os.length := by
  cases hr : l.result with
  | none => exact (h.going hr).1.le
  | some r => exact (h.ended r hr).1.le

/-- What is behind the loop stays as it is. -/
theorem LoopInv.frame (h : LoopInv maxAttempts os l) (a : Except VpnError Unit × Jitter) :
    (∀ i < l.delays.length, Retried maxAttempts ((os ++ [a]).map Prod.fst) i) ∧
    (∀ i < l.delays.length, ∀ b, (os ++ [a])[i]? = some b →
      l.delays[i]? = some (calculateBackoff (outage (((os ++ [a]).map Prod.fst).take (i + 1))) b.2)) := by
  rw [List.map_append]
  refine ⟨fun i hi => ?_, fun i hi b hb => ?_⟩
  · exact (h.retried i hi).append _ (by rw [List.length_map]; exact hi.trans_le h.length_le)
  · have hlt : i < os.length := hi.trans_le h.length_le
    rw [List.getElem?_append_left hlt] at hb
    rw [List.take_append_of_le_length (by rw [List.length_map]; exact hlt)]
    exact h.delay i hi b hb

/-- While the loop goes on, the current outage is within the cap. -/
theorem LoopInv.outage_le (h : LoopInv maxAttempts os l) (hgo : l.result = none) {m : NonZeroU32}
    (hm : maxAttempts = some m) : outage (os.map Prod.fst) ≤ m.1 := by
  obtain ⟨hlen, -⟩ := h.going hgo
  rcases Nat.eq_zero_or_pos os.length with h0 | hpos
  · rw [List.eq_nil_of_length_eq_zero h0]
    exact Nat.zero_le _
  · obtain ⟨e, -, -, hcap⟩ := h.retried (os.length - 1) (by omega)
    have hall : (os.map Prod.fst).take (os.length - 1 + 1) = os.map Prod.fst :=
      List.take_of_length_le (by rw [List.length_map]; omega)
    rw [hall] at hcap
    exact hcap m hm

/-- The counter follows the outage. -/
theorem failures_next {n failures : Nat} (b : Bool) (h : failures = min n (2 ^ 32 - 1)) :
    saturatingAdd 32 (if b then 0 else failures) 1 = min (if b then 1 else n + 1) (2 ^ 32 - 1) := by
  unfold saturatingAdd
  cases b with
  | true => rfl
  | false =>
    simp only [Bool.false_eq_true, if_false]
    omega

section
variable (h : LoopInv maxAttempts os l) (hgo : l.result = none) (a : Except VpnError Unit × Jitter)
include h hgo

/-- The outcome at hand is the last one. -/
theorem LoopInv.last : ((os ++ [a]).map Prod.fst)[l.delays.length]? = some a.1 := by
  rw [List.map_append, (h.going hgo).1, ← List.length_map (f := Prod.fst), List.getElem?_append_right le_rfl]
  simp

theorem LoopInv.take_last :
    ((os ++ [a]).map Prod.fst).take (l.delays.length + 1) = os.map Prod.fst ++ [a.1] := by
  rw [List.map_append, (h.going hgo).1, List.take_of_length_le (by simp)]
  rfl

/-- The loop returns. -/
theorem LoopInv.finish (failures : Nat) {r : Except VpnError Unit}
    (hret : Returns maxAttempts ((os ++ [a]).map Prod.fst) l.delays.length r) :
    LoopInv maxAttempts (os ++ [a]) { l with failures, result := some r } := by
  obtain ⟨hretried, hdelay⟩ := h.frame a
  refine ⟨hretried, hdelay, (fun hnone => by cases hnone), fun r' hr' => ?_⟩
  obtain rfl := Option.some.inj hr'
  refine ⟨?_, hret⟩
  show l.delays.length < (os ++ [a]).length
  rw [(h.going hgo).1, List.length_append]
  exact Nat.lt_succ_self _

/-- The loop sleeps and goes on. -/
theorem LoopInv.retry (hnext : Retried maxAttempts ((os ++ [a]).map Prod.fst) l.delays.length) :
    LoopInv maxAttempts (os ++ [a])
      { l with
        failures := min (outage (os.map Prod.fst ++ [a.1])) (2 ^ 32 - 1)
        delays := l.delays ++ [calculateBackoff (outage (os.map Prod.fst ++ [a.1])) a.2] } := by
  obtain ⟨hretried, hdelay⟩ := h.frame a
  have hlen := (h.going hgo).1
  refine ⟨fun i hi => ?_, fun i hi b hb => ?_, fun _ => ⟨?_, ?_⟩, fun r hr => ?_⟩
  · rw [List.length_append, List.length_singleton] at hi
    rcases Nat.lt_succ_iff_lt_or_eq.1 hi with hi | rfl
    · exact hretried i hi
    · exact hnext
  · rw [List.length_append, List.length_singleton] at hi
    rcases Nat.lt_succ_iff_lt_or_eq.1 hi with hi | rfl
    · rw [List.getElem?_append_left hi]
      exact hdelay i hi b hb
    · rw [hlen, List.getElem?_append_right le_rfl, Nat.sub_self] at hb
      obtain rfl := Option.some.inj hb
      rw [h.take_last hgo, List.getElem?_append_right le_rfl, Nat.sub_self]
      rfl
  · rw [List.length_append, List.length_append, hlen]
    rfl
  · rw [List.map_append]
    rfl
  · simp only [hgo] at hr
    cases hr

/-- The outage that a recoverable failure is counted in, and the counter after it. -/
theorem LoopInv.failures_eq {e : VpnError} (ha : a.1 = .error e) :
    outage (os.map Prod.fst ++ [a.1]) = (if e.isConnectionLost then 1 else outage (os.map Prod.fst) + 1) ∧
      saturatingAdd 32 (if e.isConnectionLost then 0 else l.failures) 1 =
        min (outage (os.map Prod.fst ++ [a.1])) (2 ^ 32 - 1) := by
  have hout : outage (os.map Prod.fst ++ [a.1]) =
      if e.isConnectionLost then 1 else outage (os.map Prod.fst) + 1 := by
    rw [ha]
    exact outage_append _ _
  refine ⟨hout, ?_⟩
  rw [hout]
  exact failures_next e.isConnectionLost (h.going hgo).2

end

/-- A loop that has returned stays as it is. -/
theorem LoopInv.stay (h : LoopInv maxAttempts os l) {r : Except VpnError Unit} (hres : l.result = some r)
    (a : Except VpnError Unit × Jitter) : LoopInv maxAttempts (os ++ [a]) l := by
  obtain ⟨hretried, hdelay⟩ := h.frame a
  obtain ⟨hlt, hret⟩ := h.ended r hres
  refine ⟨hretried, hdelay, (fun hgo => by rw [hres] at hgo; cases hgo), fun r' hr' => ?_⟩
  obtain rfl := Option.some.inj (hres.symm.trans hr')
  refine ⟨by rw [List.length_append]; exact Nat.lt_add_right _ hlt, ?_⟩
  rw [List.map_append]
  exact hret.append _ (by rw [List.length_map]; exact hlt)

/-- A recoverable failure: one more than the cap allows, or another retry. -/
theorem loopInv_step_recoverable (hcap : ∀ m, maxAttempts = some m → m.1 < 2 ^ 32 - 1)
    (h : LoopInv maxAttempts os l) (hgo : l.result = none) {e : VpnError} (jitter : Jitter)
    (hrec : e.isRecoverable = true) :
    LoopInv maxAttempts (os ++ [(.error e, jitter)]) (l.step maxAttempts (.error e, jitter)) := by
  have hlast := h.last hgo (.error e, jitter)
  have hall := h.take_last hgo (.error e, jitter)
  obtain ⟨hout, hnext⟩ := h.failures_eq hgo (.error e, jitter) rfl
  by_cases hover : ∃ m, maxAttempts = some m ∧
      m.1 < min (outage (os.map Prod.fst ++ [.error e])) (2 ^ 32 - 1)
  · obtain ⟨m, hm, hgt⟩ := hover
    have hprev := h.outage_le hgo hm
    have hpos := m.2.1
    have hexact : outage (os.map Prod.fst ++ [.error e]) = m.1 + 1 := by
      cases hl : e.isConnectionLost <;> simp only [hl, Bool.false_eq_true, if_true, if_false] at hout <;>
        omega
    have hstep : l.step maxAttempts (.error e, jitter) =
        { l with
          failures := min (outage (os.map Prod.fst ++ [.error e])) (2 ^ 32 - 1)
          result := some (.error (.maxReconnectAttemptsExceeded m.1)) } := by
      simp only [ReconnectLoop.step, hgo, hrec, if_true, hnext, hm, Option.filter_some, hgt,
        decide_true, gt_iff_lt]
    rw [hstep]
    exact h.finish hgo _ _ (Or.inr (Or.inr ⟨e, m, hlast, hrec, hm, hall ▸ hexact, rfl⟩))
  · have hnone : (maxAttempts.filter fun max =>
        min (outage (os.map Prod.fst ++ [.error e])) (2 ^ 32 - 1) > max.1) = none := by
      rw [Option.filter_eq_none_iff]
      intro m hm hgt
      exact hover ⟨m, hm, of_decide_eq_true hgt⟩
    have hstep : l.step maxAttempts (.error e, jitter) =
        { l with
          failures := min (outage (os.map Prod.fst ++ [.error e])) (2 ^ 32 - 1)
          delays := l.delays ++ [calculateBackoff (outage (os.map Prod.fst ++ [.error e])) jitter] } := by
      simp only [ReconnectLoop.step, hgo, hrec, if_true, hnext, hnone]
      rw [calculateBackoff_min (by omega)]
    rw [hstep]
    refine h.retry hgo (.error e, jitter) ⟨e, hlast, hrec, fun m hm => ?_⟩
    rw [hall]
    show outage (os.map Prod.fst ++ [.error e]) ≤ m.1
    -- the saturated counter is within the cap, which is below saturation
    have hle : ¬ m.1 < min (outage (os.map Prod.fst ++ [.error e])) (2 ^ 32 - 1) :=
      fun hgt => hover ⟨m, hm, hgt⟩
    have := hcap m hm
    omega

/-- **One outcome.** -/
theorem loopInv_step (hcap : ∀ m, maxAttempts = some m → m.1 < 2 ^ 32 - 1)
    (h : LoopInv maxAttempts os l) (a : Except VpnError Unit × Jitter) :
    LoopInv maxAttempts (os ++ [a]) (l.step maxAttempts a) := by
  obtain ⟨o, jitter⟩ := a
  cases hres : l.result with
  | some r =>
    have hstep : l.step maxAttempts (o, jitter) = l := by simp only [ReconnectLoop.step, hres]
    rw [hstep]
    exact h.stay hres _
  | none =>
    have hlast := h.last hres (o, jitter)
    cases o with
    | ok u =>
      have hstep : l.step maxAttempts (.ok u, jitter) = { l with result := some (.ok ()) } := by
        simp only [ReconnectLoop.step, hres]
      rw [hstep]
      exact h.finish hres _ _ (Or.inl ⟨hlast, rfl⟩)
    | error e =>
      cases hrec : e.isRecoverable with
      | false =>
        rw [l.step_fatal maxAttempts jitter hres hrec]
        exact h.finish hres _ _ (Or.inr (Or.inl ⟨e, hlast, hrec, rfl⟩))
      | true => exact loopInv_step_recoverable hcap h hres jitter hrec

end

/-- **The reconnect policy.**  Over any sequence of outcomes and jitters, the loop goes on as
long as every outcome is recoverable and its outage within the cap, and otherwise returns at
the first that is not; the delay after failure `n` of an outage is `1000 * 2^(n-1)` plus the
jitter, capped at a minute, and within an outage the delays do not decrease. -/
theorem reconnect_policy (maxAttempts : Option NonZeroU32)
    (hcap : ∀ m, maxAttempts = some m → m.1 < 2 ^ 32 - 1) (os : List (Except VpnError Unit × Jitter)) :
    let l := run (ReconnectLoop.step maxAttempts) .start os
    let outcomes := os.map Prod.fst
    (∀ i < l.delays.length, Retried maxAttempts outcomes i) ∧
    (l.result = none → l.delays.length = os.length) ∧
    (∀ r, l.result = some r →
      l.delays.length < os.length ∧ Returns maxAttempts outcomes l.delays.length r) ∧
    (maxAttempts = none → (∀ o ∈ outcomes, ∃ e, o = .error e ∧ e.isRecoverable = true) → l.result = none) ∧
    (∀ i < l.delays.length, ∀ a, os[i]? = some a → ∃ d, l.delays[i]? = some d ∧
      d = min (1000 * 2 ^ (outage (outcomes.take (i + 1)) - 1) + a.2.val) 60000 ∧
      1000 ≤ d ∧ d ≤ 60000) ∧
    (∀ i j, i < j → j < l.delays.length →
      (∀ k o, i < k → k ≤ j → outcomes[k]? = some o → lost o = false) →
      ∀ di dj, l.delays[i]? = some di → l.delays[j]? = some dj → di ≤ dj) := by
  intro l outcomes
  have hinv : LoopInv maxAttempts os l := by
    refine inv_history (I := LoopInv maxAttempts) ?_ (fun as a h => loopInv_step hcap h a) os
    exact ⟨fun i hi => absurd hi (Nat.not_lt_zero i), fun i hi => absurd hi (Nat.not_lt_zero i),
      fun _ => ⟨rfl, rfl⟩, (fun r hr => by cases hr)⟩
  have hlenmap : outcomes.length = os.length := List.length_map _
  refine ⟨hinv.retried, fun hgo => (hinv.going hgo).1, hinv.ended, fun hnocap hall => ?_,
    fun i hi a ha => ?_, fun i j hij hj hsame di dj hdi hdj => ?_⟩
  · cases hres : l.result with
    | none => rfl
    | some r =>
      obtain ⟨-, hret⟩ := hinv.ended r hres
      rcases hret with ⟨hk, -⟩ | ⟨e, hk, hrec, -⟩ | ⟨e, m, -, -, hm, -⟩
      · obtain ⟨e, he, -⟩ := hall _ (List.mem_of_getElem? hk)
        cases he
      · obtain ⟨e', he, hrec'⟩ := hall _ (List.mem_of_getElem? hk)
        cases he
        rw [hrec] at hrec'
        cases hrec'
      · rw [hnocap] at hm
        cases hm
  · have hbounds := calculateBackoff_bounds (outage (outcomes.take (i + 1))) a.2
    exact ⟨_, hinv.delay i hi a ha, calculateBackoff_eq _ _, hbounds⟩
  · have hjlen : j < os.length := hj.trans_le hinv.length_le
    obtain ⟨a, ha⟩ : ∃ a, os[i]? = some a := ⟨_, List.getElem?_eq_getElem (hij.trans hjlen)⟩
    obtain ⟨b, hb⟩ : ∃ b, os[j]? = some b := ⟨_, List.getElem?_eq_getElem hjlen⟩
    rw [hinv.delay i (hij.trans hj) a ha] at hdi
    rw [hinv.delay j hj b hb] at hdj
    obtain rfl := Option.some.inj hdi
    obtain rfl := Option.some.inj hdj
    refine calculateBackoff_mono (outage_pos ?_) (outage_take_lt hij (hlenmap ▸ hjlen) hsame) _ _
    intro hnil
    have := congrArg List.length hnil
    rw [List.length_take, hlenmap, List.length_nil] at this
    omega

/-- One retry per outage: a tunnel that dropped is retried once, then the loop gives up. -/
def droppedOutcomes : List (Except VpnError Unit × Jitter) :=
  [(.error (.network "unreachable"), ⟨499, by decide⟩), (.error (.connectionLost "reset"), ⟨0, by decide⟩),
    (.error (.signaling "no path"), ⟨7, by decide⟩), (.ok (), ⟨0, by decide⟩)]

theorem reconnect_policy_dropped :
    (run (ReconnectLoop.step (some ⟨1, by decide⟩)) .start droppedOutcomes).result =
      some (.error (.maxReconnectAttemptsExceeded 1)) ∧
    (run (ReconnectLoop.step (some ⟨1, by decide⟩)) .start droppedOutcomes).delays = [1499, 1000] ∧
    ∀ i < 2, Retried (some ⟨1, by decide⟩) (droppedOutcomes.map Prod.fst) i :=
  ⟨by decide +kernel, by decide +kernel, (reconnect_policy (some ⟨1, by decide⟩)
    (fun m hm => by cases hm; decide) droppedOutcomes).1⟩

end EzVpn
