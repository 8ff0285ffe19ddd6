import EzVpn.Lib.Tally

/-!
# A counting gate

Any number of parties charge their weight against a budget `limit`.  The budget is one shared
counter, with no lock: a party adds its weight and gets the count before it (`asked`),
compares, and is either granted its weight or takes it back (`refused`).  A granted party
either takes its weight back when it leaves, or deposits it: it then counts in `held` until
someone releases it.  `Move` is what one party does to the counter in one step; between two
steps of a party any other one may move.

The counter may stand above the limit while refused parties are on their way back, but what
is granted and held never exceeds it (`Inv.granted_add_held_le`), and the counter is the
weight of all parties plus what is held (`Inv.counter_eq`).
-/

namespace Lib.Gate

open Function

/-- Where a party stands. -/
inductive Stage
  | outside
  /-- has added `w` to `prev` and is to compare -/
  | asked (prev : ℤ) (w : ℕ)
  /-- is to take `w` back -/
  | refused (w : ℕ)
  | granted (w : ℕ)
deriving DecidableEq

namespace Stage

/-- The weight of the party in the counter. -/
def weight : Stage → ℕ
  | outside => 0
  | asked _ w | refused w | granted w => w

/-- The weight the party has been granted. -/
def share : Stage → ℕ
  | granted w => w
  | _ => 0

/-- The weight the party has been granted, or will be: the count it saw leaves room. -/
def claim (limit : ℕ) : Stage → ℕ
  | granted w => w
  | asked prev w => if prev + w ≤ limit then w else 0
  | _ => 0

theorem claim_le_weight (limit : ℕ) (st : Stage) : claim limit st ≤ weight st := by
  cases st with
  | asked prev w =>
    simp only [claim, weight]
    split
    · exact le_rfl
    · exact Nat.zero_le _
  | granted w => exact le_rfl
  | outside | refused w => exact Nat.zero_le _

theorem share_le_claim (limit : ℕ) (st : Stage) : share st ≤ claim limit st := by
  cases st with
  | granted w => exact le_rfl
  | outside | asked prev w | refused w => exact Nat.zero_le _

end Stage

open Stage

/-- What one party does to the counter `n` and to what is held. -/
inductive Move (limit : ℕ) (n : ℤ) (held : ℕ) : Stage → ℤ → ℕ → Stage → Prop
  | stay (st : Stage) : Move limit n held st n held st
  | ask (w : ℕ) : Move limit n held outside (n + w) held (asked n w)
  | grant {prev : ℤ} {w : ℕ} (h : prev + w ≤ limit) : Move limit n held (asked prev w) n held (granted w)
  | refuse {prev : ℤ} {w : ℕ} (h : limit < prev + w) : Move limit n held (asked prev w) n held (refused w)
  | giveBack {w : ℕ} : Move limit n held (refused w) (n - w) held outside
  | leave {w : ℕ} : Move limit n held (granted w) (n - w) held outside
  | deposit {w : ℕ} : Move limit n held (granted w) n (held + w) outside

variable {ι : Type*} {limit held held' : ℕ} {n n' : ℤ} {h : ι → Stage}

/-- What holds at every moment. -/
structure Inv (limit : ℕ) (n : ℤ) (held : ℕ) (h : ι → Stage) : Prop where
  sparse : Sparse weight h
  counter_eq : n = tally weight h + held
  claim_le : tally (claim limit) h + held ≤ limit

theorem Inv.init (hout : ∀ i, h i = outside) : Inv limit 0 0 h where
  sparse := sparse_of_zero fun i => by rw [hout i]; rfl
  counter_eq := by rw [tally_of_zero fun i => by rw [hout i]; rfl]; rfl
  claim_le := by
    rw [tally_of_zero fun i => by rw [hout i]; rfl]
    exact Nat.zero_le _

section
variable (hi : Inv limit n held h)
include hi

theorem Inv.sparse_claim : Sparse (claim limit) h := hi.sparse.mono (claim_le_weight limit)

theorem Inv.sparse_share : Sparse share h := hi.sparse_claim.mono (share_le_claim limit)

/-- **One step of one party.** -/
theorem Inv.move [DecidableEq ι] (c : ι) {st : Stage} (hm : Move limit n held (h c) n' held' st) :
    Inv limit n' held' (update h c st) := by
  have hcount := tally_update c st hi.sparse
  have hclaim := tally_update c st hi.sparse_claim
  have hle := tally_mono hi.sparse (claim_le_weight limit)
  have hn := hi.counter_eq
  have hlim := hi.claim_le
  refine ⟨hi.sparse.update c st, ?_, ?_⟩
  · generalize h c = old at hm hcount
    cases hm <;> simp only [weight] at hcount <;> omega
  · generalize h c = old at hm hclaim
    cases hm with
    | ask w =>
      -- room after the count it saw is room after all that is claimed
      simp only [claim] at hclaim
      split at hclaim <;> omega
    | grant hroom => simp only [claim, hroom, if_true] at hclaim; omega
    | refuse hover => simp only [claim, Int.not_le.2 hover, if_false] at hclaim; omega
    | stay | giveBack | leave | deposit => simp only [claim] at hclaim; omega

/-- What is held is released by anyone. -/
theorem Inv.release {k : ℕ} (hk : k ≤ held) : Inv limit (n - k) (held - k) h := by
  have hn := hi.counter_eq
  have hlim := hi.claim_le
  exact ⟨hi.sparse, by omega, by omega⟩

theorem Inv.granted_add_held_le : tally share h + held ≤ limit := by
  have := tally_mono hi.sparse_claim (share_le_claim limit)
  have := hi.claim_le
  omega

theorem Inv.counter_nonneg : 0 ≤ n := by
  have := hi.counter_eq
  omega

end

end Lib.Gate
