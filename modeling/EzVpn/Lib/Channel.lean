import Mathlib.Data.Finset.Basic

/-!
# A channel with many senders

A bounded channel between any number of senders and one receiver.  A sender can be cloned and
dropped; the receiver takes a batch at a time and sees the end of the channel when nothing is
queued and no sender is left.

What was sent is what was received and what is still queued, in one order (`Inv.conserved`), and
the end comes behind all of it: nothing can be sent any more (`Inv.ended`).
-/

namespace Lib

/-- `K` are those that may hold a sender. -/
structure Channel (K α : Type*) where
  holders : Finset K
  queue : List α
  /-- The receiver has seen the end. -/
  ended : Bool
  /-- All that was sent, and all that was received. -/
  sent : List α
  received : List α

namespace Channel

variable {K α : Type*}

def start (k : K) : Channel K α := ⟨{k}, [], false, [], []⟩

structure Inv (capacity : Nat) (ch : Channel K α) : Prop where
  conserved : ch.sent = ch.received ++ ch.queue
  bounded : ch.queue.length ≤ capacity
  ended : ch.ended = true → ch.holders = ∅ ∧ ch.queue = []

theorem inv_start (capacity : Nat) (k : K) : Inv capacity (start k : Channel K α) :=
  ⟨rfl, Nat.zero_le _, nofun⟩

variable [DecidableEq K] (ch : Channel K α)

/-- `k'` gets a clone of `k`'s sender. -/
def clone (k k' : K) : Channel K α :=
  if k ∈ ch.holders then { ch with holders := insert k' ch.holders } else ch

def release (k : K) : Channel K α := { ch with holders := ch.holders.erase k }

/-- Without room the sender waits: nothing has happened yet. -/
def send (capacity : Nat) (k : K) (a : α) : Channel K α :=
  if k ∈ ch.holders ∧ ch.queue.length < capacity then
    { ch with queue := ch.queue ++ [a], sent := ch.sent ++ [a] }
  else ch

/-- Takes what is queued, up to `limit`.  An empty queue is the end if there are no senders, and
otherwise the receiver waits. -/
def recvMany (limit : Nat) : List α × Channel K α :=
  if ch.queue = [] then ([], { ch with ended := ch.ended || decide (ch.holders = ∅) })
  else (ch.queue.take limit,
    { ch with queue := ch.queue.drop limit, received := ch.received ++ ch.queue.take limit })

theorem received_recvMany (limit : Nat) :
    (ch.recvMany limit).2.received = ch.received ++ (ch.recvMany limit).1 := by
  unfold recvMany
  split
  · exact (List.append_nil _).symm
  · rfl

theorem holders_recvMany (limit : Nat) : (ch.recvMany limit).2.holders = ch.holders := by
  unfold recvMany
  split <;> rfl

variable {ch} {capacity : Nat}

theorem Inv.clone (h : Inv capacity ch) (k k' : K) : Inv capacity (ch.clone k k') := by
  unfold Channel.clone
  split
  · next hk =>
    refine ⟨h.conserved, h.bounded, fun hended => ?_⟩
    rw [(h.ended hended).1] at hk
    exact absurd hk (Finset.notMem_empty k)
  · exact h

theorem Inv.release (h : Inv capacity ch) (k : K) : Inv capacity (ch.release k) := by
  refine ⟨h.conserved, h.bounded, fun hended => ⟨?_, (h.ended hended).2⟩⟩
  rw [Channel.release, (h.ended hended).1]
  rfl

theorem Inv.send (h : Inv capacity ch) (k : K) (a : α) : Inv capacity (ch.send capacity k a) := by
  unfold Channel.send
  split
  · next hroom =>
    refine ⟨?_, ?_, fun hended => ?_⟩
    · rw [h.conserved, List.append_assoc]
    · rw [List.length_append, List.length_singleton]
      exact hroom.2
    · rw [(h.ended hended).1] at hroom
      exact absurd hroom.1 (Finset.notMem_empty k)
  · exact h

theorem Inv.recvMany (h : Inv capacity ch) (limit : Nat) : Inv capacity (ch.recvMany limit).2 := by
  unfold Channel.recvMany
  split
  · next hempty =>
    refine ⟨h.conserved, h.bounded, fun hended => ?_⟩
    rw [Bool.or_eq_true, decide_eq_true_iff] at hended
    exact hended.elim h.ended fun hnone => ⟨hnone, hempty⟩
  · next hqueue =>
    refine ⟨?_, ?_, fun hended => absurd (h.ended hended).2 hqueue⟩
    · rw [List.append_assoc, List.take_append_drop, h.conserved]
    · rw [List.length_drop]
      exact (Nat.sub_le _ _).trans h.bounded

end Channel

end Lib
