import EzVpn.Server.TunReader
import EzVpn.Lib.Gate
import Mathlib.Algebra.GroupWithZero.Nat

/-!
# A client's datagram queue under concurrency

`ClientDatagramQueue::try_push` with each access to shared state as a step of its own, any
number of producers, and the client's writer, which takes batches and releases their charge
(src/tunnel/server.rs).  The channel is a reliable FIFO; the writer may be gone at any time.

The charge is a counting gate (`Lib.Gate`) whose parties are the producers and whose held
weight is the cost of what is in the channel and in hand (`clientQueue_budget`).
-/

namespace EzVpn

open Lib Lib.Gate

abbrev ProducerId := Nat

/-- A datagram, with the producer that pushed it. -/
structure Queued where
  producer : ProducerId
  datagram : Bytes
deriving DecidableEq

def Queued.cost (d : Queued) : Nat := queuedDatagramCost d.datagram.length

def totalCost (ds : List Queued) : Nat := (ds.map Queued.cost).sum

/-- Where a producer stands in `try_push`. -/
inductive PushStage
  | idle
  /-- has reserved the cost on top of `before` and is to compare -/
  | checking (before : ℤ) (datagram : Bytes)
  /-- gives the cost back: the budget is exhausted -/
  | givingBack (datagram : Bytes)
  /-- `tx.send` -/
  | sending (datagram : Bytes)
  /-- gives the cost back: the writer is gone -/
  | closing (datagram : Bytes)
deriving DecidableEq

/-- The queue, its producers and its writer; the last three fields are what has happened. -/
structure ClientQueue where
  /-- an `AtomicUsize`; as an integer it would show an underflow -/
  queuedBytes : ℤ
  channel : List Queued
  /-- the receiver has not been dropped -/
  receiving : Bool
  /-- the writer's `batch` -/
  hand : List Queued
  pushes : ProducerId → PushStage
  /-- the calls of `try_push` that have returned -/
  returned : List (Queued × Except TrySendError Unit)
  /-- the datagrams the writer has finished with -/
  released : List Queued
  /-- what was in the channel when the receiver was dropped -/
  abandoned : List Queued

namespace ClientQueue

def new : ClientQueue := ⟨0, [], true, [], fun _ => .idle, [], [], []⟩

inductive Action
  /-- one step of a producer; the datagram is for the next call -/
  | push (p : ProducerId) (datagram : Bytes)
  | recvMany (limit : Nat)
  | release
  /-- the writer stops or is aborted -/
  | drop
deriving DecidableEq

/-- One step of `try_push`. -/
def tryPush (q : ClientQueue) (p : ProducerId) (datagram : Bytes) : ClientQueue :=
  match q.pushes p with
  | .idle =>
    { q with
      queuedBytes := q.queuedBytes + (queuedDatagramCost datagram.length : ℕ)
      pushes := Function.update q.pushes p (.checking q.queuedBytes datagram) }
  | .checking before datagram =>
    if before + (queuedDatagramCost datagram.length : ℕ) > clientQueueBytes then
      { q with pushes := Function.update q.pushes p (.givingBack datagram) }
    else { q with pushes := Function.update q.pushes p (.sending datagram) }
  | .givingBack datagram =>
    { q with
      queuedBytes := q.queuedBytes - (queuedDatagramCost datagram.length : ℕ)
      pushes := Function.update q.pushes p .idle
      returned := q.returned ++ [(⟨p, datagram⟩, .error .full)] }
  | .sending datagram =>
    if q.receiving then
      { q with
        channel := q.channel ++ [⟨p, datagram⟩]
        pushes := Function.update q.pushes p .idle
        returned := q.returned ++ [(⟨p, datagram⟩, .ok ())] }
    else { q with pushes := Function.update q.pushes p (.closing datagram) }
  | .closing datagram =>
    { q with
      queuedBytes := q.queuedBytes - (queuedDatagramCost datagram.length : ℕ)
      pushes := Function.update q.pushes p .idle
      returned := q.returned ++ [(⟨p, datagram⟩, .error .closed)] }

def recvMany (q : ClientQueue) (limit : Nat) : ClientQueue :=
  if q.receiving then
    { q with hand := q.hand ++ q.channel.take limit, channel := q.channel.drop limit }
  else q

/-- `release` of the batch, which is then cleared. -/
def release (q : ClientQueue) : ClientQueue :=
  if q.receiving then
    { q with
      queuedBytes := q.queuedBytes - (totalCost q.hand : ℕ)
      hand := []
      released := q.released ++ q.hand }
  else q

/-- The receiver is dropped, and with it what is still in the channel. -/
def dropReceiver (q : ClientQueue) : ClientQueue :=
  if q.receiving then { q with receiving := false, channel := [], abandoned := q.channel } else q

def step (q : ClientQueue) : Action → ClientQueue
  | .push p datagram => q.tryPush p datagram
  | .recvMany limit => q.recvMany limit
  | .release => q.release
  | .drop => q.dropReceiver

/-- The pushes that returned `Ok`, in that order. -/
def okPushes (q : ClientQueue) : List Queued :=
  q.returned.filterMap fun r =>
    match r.2 with
    | .ok () => some r.1
    | .error _ => none

/-- What `recv_many` has handed out, in that order. -/
def received (q : ClientQueue) : List Queued := q.released ++ q.hand

end ClientQueue

/-! ## The gate -/

/-- The cost of the call in progress. -/
def PushStage.reserved : PushStage → Nat
  | idle => 0
  | checking _ d | givingBack d | sending d | closing d => queuedDatagramCost d.length

/-- A producer as a party of the gate; one that met a closed channel still has its grant. -/
def PushStage.stage : PushStage → Stage
  | idle => .outside
  | checking before d => .asked before (queuedDatagramCost d.length)
  | givingBack d => .refused (queuedDatagramCost d.length)
  | sending d | closing d => .granted (queuedDatagramCost d.length)

theorem PushStage.weight_stage (st : PushStage) : st.stage.weight = st.reserved := by
  cases st <;> rfl

@[simp] theorem totalCost_append (a b : List Queued) : totalCost (a ++ b) = totalCost a + totalCost b := by
  simp [totalCost]

@[simp] theorem totalCost_nil : totalCost [] = 0 := rfl

@[simp] theorem totalCost_singleton (d : Queued) : totalCost [d] = queuedDatagramCost d.datagram.length := by
  simp [totalCost, Queued.cost]

theorem totalCost_take_add_drop (n : Nat) (ds : List Queued) :
    totalCost (ds.take n) + totalCost (ds.drop n) = totalCost ds := by
  rw [← totalCost_append, List.take_append_drop]

namespace ClientQueue

/-- The weight in the channel, in hand and left behind. -/
def held (q : ClientQueue) : Nat := totalCost q.channel + totalCost q.hand + totalCost q.abandoned

structure Inv (q : ClientQueue) : Prop where
  gate : Gate.Inv clientQueueBytes q.queuedBytes q.held fun p => (q.pushes p).stage
  fifo : q.okPushes = q.received ++ q.channel ++ q.abandoned
  alive : q.receiving = true → q.abandoned = []
  gone : q.receiving = false → q.channel = []

theorem inv_new : Inv new := ⟨.init fun _ => rfl, rfl, fun _ => rfl, fun h => by cases h⟩

/-- **One step of `try_push`** is a move of the gate. -/
theorem tryPush_move (q : ClientQueue) (p : ProducerId) (datagram : Bytes) :
    ∃ st, (q.tryPush p datagram).pushes = Function.update q.pushes p st ∧
      Move clientQueueBytes q.queuedBytes q.held (q.pushes p).stage (q.tryPush p datagram).queuedBytes
        (q.tryPush p datagram).held st.stage := by
  unfold tryPush
  cases hp : q.pushes p with
  | idle => exact ⟨_, rfl, .ask _⟩
  | checking before d =>
    simp only []
    split
    · next hover => exact ⟨_, rfl, .refuse hover⟩
    · next hroom => exact ⟨_, rfl, .grant (Int.not_lt.1 hroom)⟩
  | givingBack d => exact ⟨_, rfl, .giveBack⟩
  | sending d =>
    simp only []
    split
    · refine ⟨_, rfl, ?_⟩
      have hheld : totalCost (q.channel ++ [⟨p, d⟩]) + totalCost q.hand + totalCost q.abandoned =
          q.held + queuedDatagramCost d.length := by
        simp only [totalCost_append, totalCost_singleton, held]
        omega
      simp only [held] at hheld ⊢
      rw [hheld]
      exact .deposit
    · exact ⟨_, rfl, .stay _⟩
  | closing d => exact ⟨_, rfl, .leave⟩

/-- What a step of `try_push` does to the channel: nothing, or it appends what it then
reports as pushed. -/
theorem tryPush_cases (q : ClientQueue) (p : ProducerId) (datagram : Bytes) :
    let q' := q.tryPush p datagram
    (q'.receiving = q.receiving ∧ q'.hand = q.hand ∧ q'.released = q.released ∧
      q'.abandoned = q.abandoned) ∧
    ((q'.channel = q.channel ∧ q'.okPushes = q.okPushes) ∨
      (q.receiving = true ∧
        ∃ d, q'.channel = q.channel ++ [d] ∧ q'.okPushes = q.okPushes ++ [d])) := by
  unfold tryPush
  cases hp : q.pushes p with
  | idle => exact ⟨⟨rfl, rfl, rfl, rfl⟩, Or.inl ⟨rfl, rfl⟩⟩
  | checking before d =>
    simp only []
    split <;> exact ⟨⟨rfl, rfl, rfl, rfl⟩, Or.inl ⟨rfl, rfl⟩⟩
  | givingBack d | closing d =>
    refine ⟨⟨rfl, rfl, rfl, rfl⟩, Or.inl ⟨rfl, ?_⟩⟩
    simp [okPushes]
  | sending d =>
    simp only []
    split
    · next hrec =>
      refine ⟨⟨rfl, rfl, rfl, rfl⟩, Or.inr ⟨hrec, ⟨p, d⟩, rfl, ?_⟩⟩
      simp [okPushes]
    · exact ⟨⟨rfl, rfl, rfl, rfl⟩, Or.inl ⟨rfl, rfl⟩⟩

theorem inv_tryPush {q : ClientQueue} (h : Inv q) (p : ProducerId) (datagram : Bytes) :
    Inv (q.tryPush p datagram) := by
  obtain ⟨st, hpushes, hmove⟩ := q.tryPush_move p datagram
  obtain ⟨⟨hrec, hhand, hrel, hab⟩, hchan⟩ := q.tryPush_cases p datagram
  refine ⟨?_, ?_, fun hr => ?_, fun hr => ?_⟩
  · have hstages : (fun p' => ((q.tryPush p datagram).pushes p').stage) =
        Function.update (fun p' => (q.pushes p').stage) p st.stage := by
      funext p'
      rw [hpushes, Function.update_apply, Function.update_apply]
      split <;> rfl
    rw [hstages]
    exact h.gate.move p hmove
  · rw [received, hhand, hrel, hab]
    rcases hchan with ⟨hc, hok⟩ | ⟨halive, d, hc, hok⟩
    · rw [hok, hc]
      exact h.fifo
    · rw [hok, hc, h.fifo, h.alive halive, received]
      simp
  · rw [hab]
    exact h.alive (hrec ▸ hr)
  · rw [hrec] at hr
    rcases hchan with ⟨hc, -⟩ | ⟨halive, -⟩
    · rw [hc]
      exact h.gone hr
    · rw [halive] at hr
      cases hr

section
variable {q : ClientQueue} (h : Inv q)
include h

theorem inv_recvMany (limit : Nat) : Inv (q.recvMany limit) := by
  unfold recvMany
  split
  · next hrec =>
    have hfifo := h.fifo
    have hheld : totalCost (q.channel.drop limit) + totalCost (q.hand ++ q.channel.take limit) +
        totalCost q.abandoned = q.held := by
      have := totalCost_take_add_drop limit q.channel
      rw [totalCost_append, held]
      omega
    refine ⟨?_, ?_, h.alive, fun hr => by rw [hrec] at hr; cases hr⟩
    · simp only [held] at hheld ⊢
      rw [hheld]
      exact h.gate
    · simp only [okPushes, received] at hfifo ⊢
      rw [hfifo]
      simp
  · exact h

theorem inv_release : Inv q.release := by
  unfold release
  split
  · have hfifo := h.fifo
    have hheld : totalCost q.channel + totalCost [] + totalCost q.abandoned = q.held - totalCost q.hand := by
      rw [totalCost_nil, held]
      omega
    refine ⟨?_, ?_, h.alive, h.gone⟩
    · have hgate := h.gate.release (k := totalCost q.hand) (by unfold held; omega)
      rw [← hheld] at hgate
      exact hgate
    · simp only [okPushes, received] at hfifo ⊢
      rw [hfifo]
      simp
  · exact h

theorem inv_dropReceiver : Inv q.dropReceiver := by
  unfold dropReceiver
  split
  · next hrec =>
    have hnone := h.alive hrec
    have hfifo := h.fifo
    have hheld : totalCost [] + totalCost q.hand + totalCost q.channel = q.held := by
      rw [held, hnone, totalCost_nil]
      omega
    refine ⟨?_, ?_, (fun hr => by cases hr), fun _ => rfl⟩
    · simp only [held] at hheld ⊢
      rw [hheld]
      exact h.gate
    · simp only [okPushes, received, hnone] at hfifo ⊢
      rw [hfifo]
      simp
  · exact h

end

/-- **One step.** -/
theorem inv_step (q : ClientQueue) (a : Action) (h : Inv q) : Inv (q.step a) := by
  cases a with
  | push p datagram => exact inv_tryPush h p datagram
  | recvMany limit => exact inv_recvMany h limit
  | release => exact inv_release h
  | drop => exact inv_dropReceiver h

theorem inv_runs (as : List Action) : Inv (run step new as) := inv_run_all inv_step as _ inv_new

/-! ## What is received -/

/-- The receiver stays until it is dropped. -/
theorem receiving_step {q : ClientQueue} {a : Action} (ha : a ≠ .drop) (h : q.receiving = true) :
    (q.step a).receiving = true := by
  cases a with
  | push p datagram => exact (q.tryPush_cases p datagram).1.1.trans h
  | recvMany limit => simp only [step, recvMany, h, if_true]
  | release => simp only [step, release, h, if_true]
  | drop => exact absurd rfl ha

theorem receiving_run {as : List Action} (has : .drop ∉ as) {q : ClientQueue} (h : q.receiving = true) :
    (run step q as).receiving = true := by
  induction as generalizing q with
  | nil => exact h
  | cons a as ih =>
    rw [run_cons]
    refine ih (fun hm => has (List.mem_cons_of_mem _ hm)) (receiving_step (fun ha => ?_) h)
    exact has (ha ▸ List.mem_cons_self)

/-- What was pushed stays pushed, in its place. -/
theorem okPushes_step (q : ClientQueue) (a : Action) : q.okPushes <+: (q.step a).okPushes := by
  cases a with
  | push p datagram =>
    rcases (q.tryPush_cases p datagram).2 with ⟨-, hok⟩ | ⟨-, d, -, hok⟩
    · exact hok ▸ List.prefix_rfl
    · exact hok ▸ List.prefix_append _ _
  | recvMany limit => simp only [step, recvMany]; split <;> exact List.prefix_rfl
  | release => simp only [step, release]; split <;> exact List.prefix_rfl
  | drop => simp only [step, dropReceiver]; split <;> exact List.prefix_rfl

/-- A `recv_many` that takes something. -/
def Action.receives : Action → Bool
  | recvMany limit => 0 < limit
  | _ => false

/-- How much of the pushes so far has been received after one step. -/
theorem received_step {q : ClientQueue} (h : Inv q) (hrec : q.receiving = true) (a : Action) (ha : a ≠ .drop) :
    min (q.received.length + a.receives.toNat) q.okPushes.length ≤ (q.step a).received.length := by
  cases a with
  | push p datagram =>
    obtain ⟨⟨-, hhand, hrel, -⟩, -⟩ := q.tryPush_cases p datagram
    simp only [received, step, hhand, hrel, Action.receives]
    exact min_le_left _ _
  | recvMany limit =>
    have hlen := congrArg List.length h.fifo
    rw [h.alive hrec, List.append_nil, List.length_append] at hlen
    simp only [step, recvMany, hrec, if_true, received, List.length_append, List.length_take,
      Action.receives] at hlen ⊢
    rcases Nat.eq_zero_or_pos limit with h0 | hpos
    · simp only [h0, lt_irrefl, decide_false, Bool.toNat_false]
      omega
    · simp only [hpos, decide_true, Bool.toNat_true]
      omega
  | release =>
    simp only [step, release, hrec, if_true, received, Action.receives, List.length_append, List.length_nil]
    exact min_le_left _ _
  | drop => exact absurd rfl ha

/-- **Progress.**  With as many `recv_many` as there are datagrams in the channel, every push
that has returned `Ok` is received, in order. -/
theorem received_run {q : ClientQueue} (h : Inv q) (hrec : q.receiving = true) :
    ∀ bs : List Action, .drop ∉ bs → q.channel.length ≤ bs.countP Action.receives →
      q.okPushes <+: (run step q bs).received := by
  have key : ∀ bs : List Action, .drop ∉ bs → ∀ q : ClientQueue, Inv q → q.receiving = true →
      ∀ n, n ≤ q.okPushes.length →
      min (q.received.length + bs.countP Action.receives) n ≤ (run step q bs).received.length := by
    intro bs
    induction bs with
    | nil => intro _ q _ _ n _; simp only [List.countP_nil]; exact min_le_left _ _
    | cons a bs ih =>
      intro hbs q h hrec n hn
      have ha : a ≠ .drop := fun ha => hbs (ha ▸ List.mem_cons_self)
      have hstep := received_step h hrec a ha
      have hmono := (okPushes_step q a).length_le
      have hrest := ih (fun hm => hbs (List.mem_cons_of_mem _ hm)) (q.step a) (inv_step q a h)
        (receiving_step ha hrec) n (hn.trans hmono)
      rw [run_cons, List.countP_cons]
      cases hr : a.receives <;> simp only [hr, Bool.toNat_false, Bool.toNat_true, Bool.false_eq_true,
        if_false, if_true] at hstep ⊢ <;> omega
  intro bs hbs hcount
  have hinv := inv_run_all inv_step bs q h
  have hok : ∀ (bs : List Action) (q : ClientQueue), q.okPushes <+: (run step q bs).okPushes := by
    intro bs
    induction bs with
    | nil => intro q; exact List.prefix_rfl
    | cons a bs ih => intro q; exact (okPushes_step q a).trans (ih _)
  have hlen := congrArg List.length h.fifo
  rw [h.alive hrec, List.append_nil, List.length_append] at hlen
  have hall := key bs hbs q h hrec q.okPushes.length le_rfl
  -- both are initial segments of the pushes after `bs`
  refine List.prefix_of_prefix_length_le (hok bs q) ?_ (by omega)
  rw [hinv.fifo, List.append_assoc]
  exact List.prefix_append _ _

end ClientQueue

/-- **The budget of a client's queue.**  Whatever the interleaving, the charge is the cost of
the datagrams in the channel and in hand, of what a dropped receiver left behind, and of the
calls in progress; it never goes below zero, and what is in the channel and in hand stays
within the budget.  A call that returned `Full` or `Closed` is in none of these.  Those that
returned `Ok` have been received or are still to be, in that order and once each, and as
many `recv_many` as there are datagrams in the channel receive them, whatever else happens. -/
theorem clientQueue_budget (as : List ClientQueue.Action) :
    let q := run ClientQueue.step .new as
    Sparse PushStage.reserved q.pushes ∧
    q.queuedBytes = totalCost q.channel + totalCost q.hand + totalCost q.abandoned +
      tally PushStage.reserved q.pushes ∧
    (.drop ∉ as → q.abandoned = []) ∧
    0 ≤ q.queuedBytes ∧
    totalCost q.channel + totalCost q.hand ≤ clientQueueBytes ∧
    q.okPushes = q.received ++ q.channel ++ q.abandoned ∧
    (.drop ∉ as → ∀ bs, .drop ∉ bs → q.channel.length ≤ bs.countP ClientQueue.Action.receives →
      q.okPushes <+: (run ClientQueue.step q bs).received) ∧
    ((∀ p, q.pushes p = .idle) → q.queuedBytes + totalCost q.released = totalCost q.okPushes) := by
  intro q
  have h : q.Inv := ClientQueue.inv_runs as
  have hweights : (fun p => (q.pushes p).stage.weight) = fun p => (q.pushes p).reserved :=
    funext fun p => PushStage.weight_stage _
  have hsparse : Sparse PushStage.reserved q.pushes := by
    have := h.gate.sparse
    rwa [Sparse, hweights] at this
  have hcount : q.queuedBytes = totalCost q.channel + totalCost q.hand + totalCost q.abandoned +
      tally PushStage.reserved q.pushes := by
    have := h.gate.counter_eq
    rw [tally, hweights] at this
    rw [this, ClientQueue.held, tally]
    push_cast
    omega
  have hbound := h.gate.granted_add_held_le
  refine ⟨hsparse, hcount, fun has => h.alive (ClientQueue.receiving_run has rfl), h.gate.counter_nonneg, ?_,
    h.fifo, fun has bs => ClientQueue.received_run h (ClientQueue.receiving_run has rfl) bs, fun hidle => ?_⟩
  · unfold ClientQueue.held at hbound
    omega
  · have hzero : tally PushStage.reserved q.pushes = 0 := tally_of_zero fun p => by rw [hidle p]; rfl
    rw [hcount, hzero, h.fifo, ClientQueue.received]
    simp only [totalCost_append]
    push_cast
    omega

end EzVpn
