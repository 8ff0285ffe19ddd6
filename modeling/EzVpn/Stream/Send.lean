import EzVpn.Stream.Datagrams

/-!
# Sending a batch of datagrams

`send_datagram_batch` (src/tunnel/stream.rs) hands a batch to the connection: as many at a time
as its buffer takes, one by one when it is full or when a datagram is too large.  The connection
is an adversary: it may give any answer to any call.  The calls are logged with their answers,
and `sendDatagramBatch_accounts` says what the log of a whole batch looks like.
-/

namespace EzVpn

/-- `SendDatagramError`; every variant but `TooLarge` ends a batch. -/
inductive SendDatagramError
  | tooLarge
  | other (message : String)
deriving DecidableEq

/-- The answers of the connection, by the number of the call.  The sender is deterministic, so
this covers a connection that looks at what it is given. -/
structure Connection where
  /-- how many datagrams it would queue; it queues no more than there are -/
  trySendManyDatagrams : Nat → Except SendDatagramError Nat
  sendDatagramWait : Nat → Except SendDatagramError Unit

/-- A call of the connection, with its answer. -/
inductive SendCall (Datagram : Type)
  | trySendMany (datagrams : List Datagram) (answer : Except SendDatagramError Nat)
  | sendWait (datagram : Datagram) (answer : Except SendDatagramError Unit)

/-- The outcome so far, and the calls made so far. -/
structure Sending (Datagram : Type) where
  outcome : DatagramSendOutcome
  log : List (SendCall Datagram)

variable {Datagram : Type}

namespace Sending

def called (st : Sending Datagram) (call : SendCall Datagram) : Sending Datagram :=
  { st with log := st.log ++ [call] }

def trySendManyDatagrams (conn : Connection) (rest : List Datagram) (st : Sending Datagram) :
    Except SendDatagramError Nat × Sending Datagram :=
  let answer := (conn.trySendManyDatagrams st.log.length).map (min rest.length)
  (answer, st.called (.trySendMany rest answer))

def sendDatagramWait (conn : Connection) (datagram : Datagram) (st : Sending Datagram) :
    Except SendDatagramError Unit × Sending Datagram :=
  let answer := conn.sendDatagramWait st.log.length
  (answer, st.called (.sendWait datagram answer))

def addSent (n : Nat) (st : Sending Datagram) : Sending Datagram :=
  { st with outcome.sent := st.outcome.sent + n }

def addTooLarge (st : Sending Datagram) : Sending Datagram :=
  { st with outcome.droppedTooLarge := st.outcome.droppedTooLarge + 1 }

def addOther (n : Nat) (st : Sending Datagram) : Sending Datagram :=
  { st with outcome.droppedOther := st.outcome.droppedOther + n }

end Sending

open Sending

/-- The `for` loop: one datagram at a time, each awaiting room. -/
def sendEach (conn : Connection) : List Datagram → Sending Datagram →
    Except SendDatagramError Unit × Sending Datagram
  | [], st => (.ok (), st)
  | datagram :: rest, st =>
    match sendDatagramWait conn datagram st with
    | (.ok (), st) => sendEach conn rest (st.addSent 1)
    | (.error .tooLarge, st) => sendEach conn rest st.addTooLarge
    | (.error e, st) => (.error e, st.addOther (rest.length + 1))

/-- The `while` loop. -/
def sendDatagramBatch (conn : Connection) (rest : List Datagram) (st : Sending Datagram) :
    Except SendDatagramError Unit × Sending Datagram :=
  match rest with
  | [] => (.ok (), st)
  | first :: tail =>
    match trySendManyDatagrams conn (first :: tail) st with
    | (.ok 0, st) =>
      -- backpressure: wait for room for the next datagram alone
      match sendDatagramWait conn first st with
      | (.ok (), st) => sendDatagramBatch conn tail (st.addSent 1)
      | (.error .tooLarge, st) => sendDatagramBatch conn tail st.addTooLarge
      | (.error e, st) => (.error e, st.addOther (tail.length + 1))
    | (.ok (queued + 1), st) => sendDatagramBatch conn (tail.drop queued) (st.addSent (queued + 1))
    | (.error .tooLarge, st) => sendEach conn (first :: tail) st
    | (.error e, st) => (.error e, st.addOther (tail.length + 1))
termination_by rest.length
decreasing_by
  all_goals simp only [List.length_cons, List.length_drop]
  all_goals omega

/-! ## What a log says -/

/-- The datagrams the connection accepted by a call. -/
def SendCall.accepted : SendCall Datagram → List Datagram
  | .trySendMany datagrams (.ok queued) => datagrams.take queued
  | .sendWait datagram (.ok ()) => [datagram]
  | _ => []

/-- The error a call ended in. -/
def SendCall.failure : SendCall Datagram → Option SendDatagramError
  | .trySendMany _ (.error e) => some e
  | .sendWait _ (.error e) => some e
  | _ => none

/-- The datagram a call refused alone. -/
def SendCall.refused : SendCall Datagram → List Datagram
  | .sendWait datagram (.error .tooLarge) => [datagram]
  | _ => []

/-- The datagrams a call settles, one way or the other. -/
def SendCall.settled (call : SendCall Datagram) : List Datagram := call.accepted ++ call.refused

/-- The first datagram a call is about. -/
def SendCall.first : SendCall Datagram → Option Datagram
  | .trySendMany datagrams _ => datagrams.head?
  | .sendWait datagram _ => some datagram

def accepted (log : List (SendCall Datagram)) : List Datagram := log.flatMap SendCall.accepted

def refused (log : List (SendCall Datagram)) : List Datagram := log.flatMap SendCall.refused

def settled (log : List (SendCall Datagram)) : List Datagram := log.flatMap SendCall.settled

/-- No call failed but with `TooLarge`. -/
def OnlyTooLarge (log : List (SendCall Datagram)) : Prop :=
  ∀ call ∈ log, ∀ e, call.failure = some e → e = .tooLarge

/-- The datagrams counted in an outcome. -/
def DatagramSendOutcome.total (o : DatagramSendOutcome) : Nat := o.sent + o.droppedTooLarge + o.droppedOther

/-- From `st` to `st'`, the calls `calls` were made; they settle `datagrams` but for `left`, which is
given up. -/
structure SendAccount (datagrams : List Datagram) (calls : List (SendCall Datagram)) (left : List Datagram)
    (st st' : Sending Datagram) : Prop where
  log : st'.log = st.log ++ calls
  all : datagrams = settled calls ++ left
  sent : st'.outcome.sent = st.outcome.sent + (accepted calls).length
  tooLarge : st'.outcome.droppedTooLarge = st.outcome.droppedTooLarge + (refused calls).length
  other : st'.outcome.droppedOther = st.outcome.droppedOther + left.length

/-- How a loop ends: with nothing left, or by a call about the first of what is left. -/
def EndedBy (result : Except SendDatagramError Unit) (calls : List (SendCall Datagram)) (left : List Datagram) : Prop :=
  match result with
  | .ok () => left = []
  | .error e => ∃ call, calls.getLast? = some call ∧ call.failure = some e ∧ call.first.isSome = true ∧
      call.first = left.head?

section
variable {datagrams datagrams' left : List Datagram} {calls calls' : List (SendCall Datagram)}
  {call : SendCall Datagram} {st st' st'' : Sending Datagram}

theorem accepted_append : accepted (calls ++ calls') = accepted calls ++ accepted calls' :=
  List.flatMap_append

theorem length_settled (calls : List (SendCall Datagram)) :
    (settled calls).length = (accepted calls).length + (refused calls).length := by
  induction calls with
  | nil => rfl
  | cons call calls ih =>
    simp only [settled, accepted, refused, List.flatMap_cons, List.length_append, SendCall.settled] at ih ⊢
    omega

theorem accepted_sublist_settled (calls : List (SendCall Datagram)) : (accepted calls).Sublist (settled calls) := by
  induction calls with
  | nil => exact List.Sublist.refl _
  | cons call calls ih =>
    rw [accepted, settled, List.flatMap_cons, List.flatMap_cons]
    exact (List.sublist_append_left _ _).append ih

/-- None twice and none out of order. -/
theorem SendAccount.inOrder (h : SendAccount datagrams calls left st st') : (accepted calls).Sublist datagrams := by
  rw [h.all]
  exact (accepted_sublist_settled calls).trans (List.sublist_append_left _ _)

/-- Each datagram is counted once. -/
theorem SendAccount.total (h : SendAccount datagrams calls left st st') :
    st'.outcome.total = st.outcome.total + datagrams.length := by
  have hlen := length_settled calls
  rw [h.all, List.length_append]
  unfold DatagramSendOutcome.total
  rw [h.sent, h.tooLarge, h.other]
  omega

theorem onlyTooLarge_append : OnlyTooLarge (calls ++ calls') ↔ OnlyTooLarge calls ∧ OnlyTooLarge calls' := by
  unfold OnlyTooLarge
  constructor
  · intro h
    exact ⟨fun call hc => h call (List.mem_append_left _ hc), fun call hc => h call (List.mem_append_right _ hc)⟩
  · rintro ⟨h, h'⟩ call hc
    rcases List.mem_append.1 hc with hc | hc
    · exact h call hc
    · exact h' call hc

theorem onlyTooLarge_singleton : OnlyTooLarge [call] ↔ ∀ e, call.failure = some e → e = .tooLarge := by
  simp [OnlyTooLarge]

theorem sendAccount_nil (st : Sending Datagram) : SendAccount [] [] [] st st :=
  ⟨(List.append_nil _).symm, rfl, rfl, rfl, rfl⟩

theorem SendAccount.trans (h : SendAccount datagrams calls [] st st')
    (h' : SendAccount datagrams' calls' left st' st'') :
    SendAccount (datagrams ++ datagrams') (calls ++ calls') left st st'' := by
  refine ⟨?_, ?_, ?_, ?_, ?_⟩
  · rw [h'.log, h.log, List.append_assoc]
  · rw [h.all, h'.all, List.append_nil, settled, settled, settled, List.flatMap_append, List.append_assoc]
  · rw [h'.sent, h.sent, accepted_append, List.length_append, Nat.add_assoc]
  · rw [h'.tooLarge, h.tooLarge, refused, refused, refused, List.flatMap_append, List.length_append, Nat.add_assoc]
  · rw [h'.other, h.other, List.length_nil, Nat.add_zero]

/-- One call, with what is given up over it. -/
theorem sendAccount_call (h : datagrams = call.settled ++ left) :
    SendAccount datagrams [call] left st ⟨⟨st.outcome.sent + call.accepted.length,
      st.outcome.droppedTooLarge + call.refused.length, st.outcome.droppedOther + left.length⟩, st.log ++ [call]⟩ := by
  refine ⟨rfl, ?_, ?_, ?_, rfl⟩
  · rwa [settled, List.flatMap_singleton]
  · rw [accepted, List.flatMap_singleton]
  · rw [refused, List.flatMap_singleton]

end

theorem sendAccount_wait (datagram : Datagram) (st : Sending Datagram) :
    SendAccount [datagram] [.sendWait datagram (.ok ())] [] st
      ((st.called (.sendWait datagram (.ok ()))).addSent 1) :=
  sendAccount_call rfl

theorem sendAccount_waitTooLarge (datagram : Datagram) (st : Sending Datagram) :
    SendAccount [datagram] [.sendWait datagram (.error .tooLarge)] [] st
      (st.called (.sendWait datagram (.error .tooLarge))).addTooLarge :=
  sendAccount_call rfl

/-- The buffer is full. -/
theorem sendAccount_full (datagrams : List Datagram) (st : Sending Datagram) :
    SendAccount [] [.trySendMany datagrams (.ok 0)] [] st (st.called (.trySendMany datagrams (.ok 0))) :=
  sendAccount_call rfl

/-- The whole list is refused. -/
theorem sendAccount_tryTooLarge (datagrams : List Datagram) (st : Sending Datagram) :
    SendAccount [] [.trySendMany datagrams (.error .tooLarge)] [] st
      (st.called (.trySendMany datagrams (.error .tooLarge))) :=
  sendAccount_call rfl

theorem sendAccount_queued {datagrams : List Datagram} {queued : Nat} (h : queued ≤ datagrams.length)
    (st : Sending Datagram) : SendAccount (datagrams.take queued) [.trySendMany datagrams (.ok queued)] [] st
      ((st.called (.trySendMany datagrams (.ok queued))).addSent queued) := by
  have haccount := @sendAccount_call _ (datagrams.take queued) [] (.trySendMany datagrams (.ok queued)) st
    (by simp [SendCall.settled, SendCall.accepted, SendCall.refused])
  rwa [show (SendCall.trySendMany datagrams (.ok queued)).accepted.length = queued from
    List.length_take_of_le h] at haccount

/-! ## Whole batches -/

/-- What is proved of a loop that disposes of `datagrams` and makes at most `n` calls. -/
def Disposes (datagrams : List Datagram) (n : Nat) (st : Sending Datagram)
    (r : Except SendDatagramError Unit × Sending Datagram) : Prop :=
  ∃ calls left, SendAccount datagrams calls left st r.2 ∧ calls.length ≤ n ∧ EndedBy r.1 calls left ∧
    (r.1 = .ok () ↔ OnlyTooLarge calls)

section
variable {datagrams datagrams' : List Datagram} {calls : List (SendCall Datagram)} {call : SendCall Datagram}
  {n n' : Nat} {st st' : Sending Datagram} {r : Except SendDatagramError Unit × Sending Datagram}

theorem disposes_nil : Disposes [] 0 st (.ok (), st) :=
  ⟨[], [], sendAccount_nil st, Nat.le_refl _, rfl, iff_of_true rfl fun _ h => absurd h List.not_mem_nil⟩

/-- Calls that do not end the loop, then the rest of it. -/
theorem Disposes.cons (hcalls : SendAccount datagrams calls [] st st') (honly : OnlyTooLarge calls)
    (hrest : Disposes datagrams' n st' r) (hn : calls.length + n ≤ n') :
    Disposes (datagrams ++ datagrams') n' st r := by
  obtain ⟨calls', left, haccount, hlen, hended, hok⟩ := hrest
  refine ⟨calls ++ calls', left, hcalls.trans haccount, by rw [List.length_append]; omega, ?_, ?_⟩
  · rcases hr : r.1 with e | ⟨⟩ <;> rw [hr] at hended
    · obtain ⟨call, hlast, hfirst⟩ := hended
      exact ⟨call, by rw [List.getLast?_append, hlast]; rfl, hfirst⟩
    · exact hended
  · rw [hok, onlyTooLarge_append]
    exact ⟨fun h => ⟨honly, h⟩, fun h => h.2⟩

/-- A call that ends the loop. -/
theorem disposes_error {datagram : Datagram} {message : String} (h : call.failure = some (.other message))
    (hsettled : call.settled = []) (hfirst : call.first = some datagram) (hn : 1 ≤ n) :
    Disposes (datagram :: datagrams) n st
      (.error (.other message), (st.called call).addOther (datagrams.length + 1)) := by
  obtain ⟨haccepted, hrefused⟩ := List.append_eq_nil_iff.1 hsettled
  refine ⟨[call], datagram :: datagrams, ?_, hn, ⟨call, rfl, h, by rw [hfirst]; rfl, hfirst⟩,
    iff_of_false (fun h => by cases h) fun honly => ?_⟩
  · have haccount := @sendAccount_call _ (datagram :: datagrams) (datagram :: datagrams) call st
      (by rw [hsettled, List.nil_append])
    rwa [haccepted, hrefused] at haccount
  · cases onlyTooLarge_singleton.1 honly _ h

theorem onlyTooLarge_of_failure {e : Option SendDatagramError} (h : call.failure = e)
    (he : e = none ∨ e = some .tooLarge) : OnlyTooLarge [call] := by
  rw [onlyTooLarge_singleton, h]
  rcases he with rfl | rfl
  · exact fun e he => by cases he
  · exact fun e he => (Option.some.inj he).symm

theorem sendEach_disposes (conn : Connection) (datagrams : List Datagram) (st : Sending Datagram) :
    Disposes datagrams datagrams.length st (sendEach conn datagrams st) := by
  induction datagrams generalizing st with
  | nil => exact disposes_nil
  | cons datagram rest ih =>
    have hlen : [datagram].length + rest.length ≤ (datagram :: rest).length := by
      simp only [List.length_cons, List.length_nil]; omega
    unfold sendEach Sending.sendDatagramWait
    dsimp only
    rcases conn.sendDatagramWait st.log.length with (_ | message) | ⟨⟨⟩⟩
    · exact (ih _).cons (sendAccount_waitTooLarge datagram st) (onlyTooLarge_of_failure rfl (Or.inr rfl)) hlen
    · exact disposes_error rfl rfl rfl (by simp)
    · exact (ih _).cons (sendAccount_wait datagram st) (onlyTooLarge_of_failure rfl (Or.inl rfl)) hlen

theorem sendDatagramWait_eq {conn : Connection} {datagram : Datagram} {answer : Except SendDatagramError Unit}
    (h : sendDatagramWait conn datagram st = (answer, st')) : st' = st.called (.sendWait datagram answer) := by
  obtain ⟨rfl, rfl⟩ := Prod.mk.inj h
  rfl

theorem trySendManyDatagrams_eq {conn : Connection} {answer : Except SendDatagramError Nat}
    (h : trySendManyDatagrams conn datagrams st = (answer, st')) :
    st' = st.called (.trySendMany datagrams answer) ∧ ∀ queued, answer = .ok queued → queued ≤ datagrams.length := by
  obtain ⟨rfl, rfl⟩ := Prod.mk.inj h
  refine ⟨rfl, fun queued hq => ?_⟩
  cases hans : conn.trySendManyDatagrams st.log.length with
  | error e => rw [hans] at hq; cases hq
  | ok n =>
    rw [hans] at hq
    rw [← Except.ok.inj hq]
    exact Nat.min_le_left _ _

theorem sendDatagramBatch_disposes (conn : Connection) (datagrams : List Datagram) (st : Sending Datagram) :
    Disposes datagrams (2 * datagrams.length) st (sendDatagramBatch conn datagrams st) := by
  fun_induction sendDatagramBatch conn datagrams st
  case case1 st => exact disposes_nil
  case case2 st first tail st₁ htry st₂ hwait ih =>
    -- no room, then room for the first
    obtain ⟨rfl, -⟩ := trySendManyDatagrams_eq htry
    obtain rfl := sendDatagramWait_eq hwait
    refine ih.cons ((sendAccount_full _ st).trans (sendAccount_wait first _)) ?_
      (by simp only [List.length_append, List.length_cons, List.length_nil]; omega)
    exact onlyTooLarge_append.2 ⟨onlyTooLarge_of_failure rfl (Or.inl rfl), onlyTooLarge_of_failure rfl (Or.inl rfl)⟩
  case case3 st first tail st₁ htry st₂ hwait ih =>
    obtain ⟨rfl, -⟩ := trySendManyDatagrams_eq htry
    obtain rfl := sendDatagramWait_eq hwait
    refine ih.cons ((sendAccount_full _ st).trans (sendAccount_waitTooLarge first _)) ?_
      (by simp only [List.length_append, List.length_cons, List.length_nil]; omega)
    exact onlyTooLarge_append.2 ⟨onlyTooLarge_of_failure rfl (Or.inl rfl), onlyTooLarge_of_failure rfl (Or.inr rfl)⟩
  case case4 st first tail st₁ htry e st₂ he hwait =>
    obtain ⟨rfl, -⟩ := trySendManyDatagrams_eq htry
    obtain rfl := sendDatagramWait_eq hwait
    cases e with
    | tooLarge => exact absurd rfl he
    | other message =>
      refine Disposes.cons (sendAccount_full _ st) (onlyTooLarge_of_failure rfl (Or.inl rfl))
        (disposes_error rfl rfl rfl (Nat.le_refl 1)) (by simp only [List.length_cons, List.length_nil]; omega)
  case case5 st first tail queued st₁ htry ih =>
    obtain ⟨rfl, hle⟩ := trySendManyDatagrams_eq htry
    have h := ih.cons (sendAccount_queued (hle _ rfl) st) (onlyTooLarge_of_failure rfl (Or.inl rfl))
      (show _ ≤ 2 * (first :: tail).length by simp only [List.length_cons, List.length_nil, List.length_drop]; omega)
    rwa [List.take_succ_cons, List.cons_append, List.take_append_drop] at h
  case case6 st first tail st₁ htry =>
    obtain ⟨rfl, -⟩ := trySendManyDatagrams_eq htry
    exact (sendEach_disposes conn (first :: tail) _).cons (sendAccount_tryTooLarge _ st)
      (onlyTooLarge_of_failure rfl (Or.inr rfl)) (by simp only [List.length_cons, List.length_nil]; omega)
  case case7 st first tail e st₁ he htry =>
    obtain ⟨rfl, -⟩ := trySendManyDatagrams_eq htry
    cases e with
    | tooLarge => exact absurd rfl he
    | other message => exact disposes_error rfl rfl rfl (by rw [List.length_cons]; omega)

end

/-- **A batch is accounted for.**  Whatever the connection answers, the loop ends within two
calls a datagram; the datagrams accepted are a subsequence of the batch, so none twice and none
out of order; each datagram is counted once: as sent exactly if accepted, as too large exactly if
it was refused alone, and the rest of the batch, from the datagram of the call that ended it, as
dropped; and the batch ends well exactly if no call failed other than with `TooLarge`. -/
theorem sendDatagramBatch_accounts (conn : Connection) (datagrams : List Datagram) (outcome : DatagramSendOutcome) :
    let (result, st) := sendDatagramBatch conn datagrams ⟨outcome, []⟩
    st.log.length ≤ 2 * datagrams.length ∧
    (accepted st.log).Sublist datagrams ∧
    st.outcome.sent = outcome.sent + (accepted st.log).length ∧
    st.outcome.droppedTooLarge = outcome.droppedTooLarge + (refused st.log).length ∧
    (∃ left, datagrams = settled st.log ++ left ∧ st.outcome.droppedOther = outcome.droppedOther + left.length ∧
      EndedBy result st.log left) ∧
    st.outcome.total = outcome.total + datagrams.length ∧
    (result = .ok () ↔ OnlyTooLarge st.log) := by
  obtain ⟨calls, left, haccount, hlen, hended, hok⟩ := sendDatagramBatch_disposes conn datagrams ⟨outcome, []⟩
  have hlog : (sendDatagramBatch conn datagrams ⟨outcome, []⟩).2.log = calls := haccount.log
  dsimp only
  rw [hlog]
  exact ⟨hlen, haccount.inOrder, haccount.sent, haccount.tooLarge, ⟨left, haccount.all, haccount.other, hended⟩,
    haccount.total, hok⟩

end EzVpn
