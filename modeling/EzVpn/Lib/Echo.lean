import Mathlib.Data.List.Chain
import Mathlib.Algebra.Group.Nat.Defs

/-!
# Beats, echoes and two watchdogs

A sender emits beats, each at most `gap` after the one before.  They travel to a relay, which
answers them with echoes that travel back to the sender's inbox.  Both ends keep a watchdog:
the relay's is fed by beats, the sender's by echoes it takes from the inbox.  The relay may
leave some beats in a row unanswered, and an echo may be lost on an inbox that is not empty.

Nothing is assumed about how a beat travels but how long it may take.  `Inv.quiet` says that in
a run where everything takes at most its time, and the times fit into the timeout, neither
watchdog expires.
-/

namespace Lib.Echo

/-- How long things may take. -/
structure Params where
  /-- from one beat to the next -/
  gap : Nat
  /-- without a beat, or an echo, until a watchdog expires -/
  timeout : Nat
  /-- the latest time of the first beat -/
  first : Nat
  /-- from a beat to its arrival at the relay -/
  call : Nat
  /-- from a beat to the arrival of its echo in the inbox -/
  back : Nat
  /-- from there until the sender takes it -/
  look : Nat
  /-- beats in a row that may stay unanswered -/
  misses : Nat

/-- The times fit into the timeout. -/
structure Params.Fits (p : Params) : Prop where
  first : p.first + p.call < p.timeout
  call : p.call ≤ p.back
  echo : (p.misses + 1) * p.gap + p.back + p.look < p.timeout

/-- The sender: the latest time of its next beat, and when its watchdog expires. -/
structure Sender where
  next : Nat
  deadline : Nat

structure State where
  now : Nat
  /-- `none` before it starts -/
  sender : Option Sender
  /-- when its watchdog expires; `none` before it starts -/
  relay : Option Nat
  /-- the beats on their way, each by its time, oldest first -/
  calls : List Nat
  /-- the echoes on their way, each by the time of its beat -/
  echoes : List Nat
  /-- when each echo in the inbox arrived -/
  inbox : List Nat
  /-- the beats left unanswered since the last answer -/
  missed : Nat

inductive Step (p : Params) : State → State → Prop
  | wait (s : State) (d : Nat) : Step p s { s with now := s.now + d }
  | start (s : State) (next : Nat) (hnone : s.sender = none) (hgap : next ≤ s.now + p.gap)
      (hfirst : next ≤ p.first) : Step p s { s with sender := some ⟨next, s.now + p.timeout⟩ }
  | startRelay (s : State) (hnone : s.relay = none) :
      Step p s { s with relay := some (s.now + p.timeout) }
  | beat (s : State) (w : Sender) (next : Nat) (hsome : s.sender = some w) (hdue : s.now ≤ w.next)
      (hgap : next ≤ s.now + p.gap) :
      Step p s { s with sender := some ⟨next, w.deadline⟩, calls := s.calls ++ [s.now] }
  | answer (s : State) (e : Nat) (rest : List Nat) (d : Nat) (hrelay : s.relay = some d)
      (hcalls : s.calls = e :: rest) :
      Step p s { s with
        relay := some (s.now + p.timeout), calls := rest, echoes := s.echoes ++ [e], missed := 0 }
  | miss (s : State) (e : Nat) (rest : List Nat) (d : Nat) (hrelay : s.relay = some d)
      (hcalls : s.calls = e :: rest) :
      Step p s { s with relay := some (s.now + p.timeout), calls := rest, missed := s.missed + 1 }
  | arrive (s : State) (e : Nat) (rest : List Nat) (hechoes : s.echoes = e :: rest) :
      Step p s { s with echoes := rest, inbox := s.inbox ++ [s.now] }
  | merge (s : State) (e : Nat) (rest : List Nat) (hechoes : s.echoes = e :: rest)
      (hfull : s.inbox ≠ []) : Step p s { s with echoes := rest }
  | look (s : State) (w : Sender) (a : Nat) (rest : List Nat) (hsome : s.sender = some w)
      (hinbox : s.inbox = a :: rest) :
      Step p s { s with sender := some ⟨w.next, s.now + p.timeout⟩, inbox := rest }

/-- Everything takes at most its time. -/
structure Timely (p : Params) (s : State) : Prop where
  first : s.sender = none → s.now ≤ p.first
  next : ∀ w, s.sender = some w → s.calls = [] → s.now ≤ w.next
  calls : ∀ e ∈ s.calls, s.now ≤ e + p.call
  echoes : ∀ e ∈ s.echoes, s.now ≤ e + p.back
  inbox : ∀ a ∈ s.inbox, s.now ≤ a + p.look
  missed : s.missed ≤ p.misses

/-! ## Gaps -/

/-- From `prev` on, each is at most `gap` after the one before. -/
def Within (gap prev : Nat) (es : List Nat) : Prop := (prev :: es).IsChain fun a b => b ≤ a + gap

/-- The last of `prev` and `es`. -/
def lastOf (prev : Nat) (es : List Nat) : Nat := es.getLastD prev

theorem within_nil (gap prev : Nat) : Within gap prev [] := List.isChain_singleton _

theorem within_cons {gap prev e : Nat} {es : List Nat} :
    Within gap prev (e :: es) ↔ e ≤ prev + gap ∧ Within gap e es := List.isChain_cons_cons

theorem within_concat {gap prev e : Nat} {es : List Nat} (h : Within gap prev es)
    (he : e ≤ lastOf prev es + gap) : Within gap prev (es ++ [e]) := by
  unfold Within at *
  rw [← List.cons_append, List.isChain_append]
  refine ⟨h, List.isChain_singleton _, fun a ha b hb => ?_⟩
  rw [List.getLast?_cons, Option.mem_some_iff] at ha
  obtain rfl : e = b := by simpa using hb
  rw [← ha, ← List.getLastD_eq_getLast?]
  exact he

@[simp] theorem lastOf_nil (prev : Nat) : lastOf prev [] = prev := rfl

@[simp] theorem lastOf_concat (prev e : Nat) (es : List Nat) : lastOf prev (es ++ [e]) = e := by
  unfold lastOf
  rw [List.getLastD_concat]

theorem lastOf_cons (prev e : Nat) (es : List Nat) : lastOf prev (e :: es) = lastOf e es := by
  unfold lastOf
  rw [List.getLastD_cons]

/-! ## The invariant -/

variable {p : Params} {s s' : State} {w : Sender}

/-- The latest time of the oldest beat that has not reached the relay. -/
def nextCall (p : Params) : List Nat → Option Sender → Nat
  | e :: _, _ => e
  | [], some w => w.next
  | [], none => p.first

theorem Timely.le_nextCall (ht : Timely p s) : s.now ≤ nextCall p s.calls s.sender + p.call := by
  cases hc : s.calls with
  | cons e rest => exact ht.calls e (hc ▸ List.mem_cons_self)
  | nil =>
    cases hw : s.sender with
    | some w => exact Nat.le_add_right_of_le (ht.next w hw hc)
    | none => exact Nat.le_add_right_of_le (ht.first hw)

/-- What holds of a sender that has started: `seen` is the last beat that reached the relay and
`fed` the last whose echo reached the inbox. -/
structure Fed (p : Params) (s : State) (w : Sender) (fed seen : Nat) : Prop where
  past : fed ≤ s.now ∧ seen ≤ s.now
  empty : s.inbox = [] → fed + p.timeout ≤ w.deadline
  pending : ∀ a rest, s.inbox = a :: rest → a + p.look < w.deadline
  echoes : Within ((p.misses + 1) * p.gap) fed s.echoes
  unanswered : seen ≤ lastOf fed s.echoes + s.missed * p.gap
  calls : Within p.gap seen s.calls
  next : w.next ≤ lastOf seen s.calls + p.gap

structure Inv (p : Params) (s : State) : Prop where
  past : ∀ e ∈ s.calls ++ s.echoes ++ s.inbox, e ≤ s.now
  idle : s.sender = none → s.calls = [] ∧ s.echoes = [] ∧ s.inbox = [] ∧ s.missed = 0
  fed : ∀ w, s.sender = some w → ∃ fed seen, Fed p s w fed seen
  relay : ∀ d, s.relay = some d → nextCall p s.calls s.sender + p.call < d

/-- Nothing has started. -/
def start (now : Nat) : State := ⟨now, none, none, [], [], [], 0⟩

theorem inv_start (p : Params) (now : Nat) : Inv p (start now) where
  past := by simp [start]
  idle := fun _ => ⟨rfl, rfl, rfl, rfl⟩
  fed := by simp [start]
  relay := by simp [start]

theorem Params.Fits.gap_call (hp : p.Fits) : p.gap + p.call < p.timeout := by
  have h1 := hp.echo
  have h2 := hp.call
  rw [Nat.succ_mul] at h1
  omega

/-- The next beat to reach the relay is at most a gap away. -/
theorem Fed.nextCall_le {fed seen : Nat} (h : Fed p s w fed seen) (hw : s.sender = some w) :
    nextCall p s.calls s.sender ≤ seen + p.gap := by
  cases hc : s.calls with
  | nil =>
    have := h.next
    rw [hc] at this
    rw [hw]
    exact this
  | cons e rest =>
    have := h.calls
    rw [hc, within_cons] at this
    exact this.1

/-- **No alarm.**  The next echo is in the inbox, on its way, or still to be answered or
emitted, and each of these ends in time. -/
theorem Fed.lt_deadline (hp : p.Fits) {fed seen : Nat} (h : Fed p s w fed seen) (ht : Timely p s)
    (hw : s.sender = some w) : s.now < w.deadline := by
  have hroom := hp.echo
  cases hi : s.inbox with
  | cons a rest =>
    have := h.pending a rest hi
    have := ht.inbox a (hi ▸ List.mem_cons_self)
    omega
  | nil =>
    have hfed := h.empty hi
    cases he : s.echoes with
    | cons e rest =>
      have hgap := h.echoes
      rw [he, within_cons] at hgap
      have := ht.echoes e (he ▸ List.mem_cons_self)
      omega
    | nil =>
      -- the beats since the last answer are all there is to wait for
      have hseen := h.unanswered
      have hmissed : s.missed * p.gap ≤ p.misses * p.gap := Nat.mul_le_mul_right _ ht.missed
      rw [he, lastOf_nil] at hseen
      rw [Nat.succ_mul] at hroom
      have hcall := hp.call
      cases hc : s.calls with
      | cons e rest =>
        have hgap := h.calls
        rw [hc, within_cons] at hgap
        have := ht.calls e (hc ▸ List.mem_cons_self)
        omega
      | nil =>
        have hnext := h.next
        rw [hc, lastOf_nil] at hnext
        have := ht.next w hw hc
        omega

theorem Inv.quiet (hp : p.Fits) (h : Inv p s) (ht : Timely p s) :
    (∀ w, s.sender = some w → s.now < w.deadline) ∧ ∀ d, s.relay = some d → s.now < d := by
  refine ⟨fun w hw => ?_, fun d hd => ?_⟩
  · obtain ⟨fed, seen, hfed⟩ := h.fed w hw
    exact hfed.lt_deadline hp ht hw
  · have := h.relay d hd
    have := ht.le_nextCall
    omega

/-! ## Steps -/

theorem Fed.answer {fed seen e : Nat} {rest : List Nat} (h : Fed p s w fed seen) (ht : Timely p s)
    (hcalls : s.calls = e :: rest) (hpast : e ≤ s.now) (relay : Option Nat) :
    Fed p { s with relay, calls := rest, echoes := s.echoes ++ [e], missed := 0 } w fed e := by
  have hgap := h.calls
  rw [hcalls, within_cons] at hgap
  have hmissed : s.missed * p.gap ≤ p.misses * p.gap := Nat.mul_le_mul_right _ ht.missed
  have hseen := h.unanswered
  refine ⟨⟨h.past.1, hpast⟩, h.empty, h.pending, within_concat h.echoes ?_, ?_, hgap.2, ?_⟩
  · rw [Nat.succ_mul]
    omega
  · simp
  · have := h.next
    rwa [hcalls, lastOf_cons] at this

theorem Fed.miss {fed seen e : Nat} {rest : List Nat} (h : Fed p s w fed seen)
    (hcalls : s.calls = e :: rest) (hpast : e ≤ s.now) (relay : Option Nat) :
    Fed p { s with relay, calls := rest, missed := s.missed + 1 } w fed e := by
  have hgap := h.calls
  rw [hcalls, within_cons] at hgap
  have hseen := h.unanswered
  refine ⟨⟨h.past.1, hpast⟩, h.empty, h.pending, h.echoes, ?_, hgap.2, ?_⟩
  · dsimp only
    rw [Nat.succ_mul]
    omega
  · have := h.next
    rwa [hcalls, lastOf_cons] at this

/-- An echo reaches the inbox, which then has it or had another before. -/
theorem Fed.arrive (hp : p.Fits) {fed seen e : Nat} {rest : List Nat} (h : Fed p s w fed seen)
    (ht : Timely p s) (hechoes : s.echoes = e :: rest) (hpast : e ≤ s.now) {inbox : List Nat}
    (hinbox : inbox = s.inbox ++ [s.now] ∨ inbox = s.inbox ∧ s.inbox ≠ []) :
    Fed p { s with echoes := rest, inbox } w e seen := by
  have hgap := h.echoes
  rw [hechoes, within_cons] at hgap
  have hsome : inbox ≠ [] := by
    rcases hinbox with rfl | ⟨rfl, hne⟩
    · simp
    · exact hne
  refine ⟨⟨hpast, h.past.2⟩, fun hnil => absurd hnil hsome, fun a rest' hin => ?_, hgap.2, ?_, h.calls, h.next⟩
  · cases hi : s.inbox with
    | cons b bs =>
      -- what was first stays first
      have := h.pending b bs hi
      have hab : a = b := by
        rcases hinbox with rfl | ⟨rfl, -⟩
        · rw [hi] at hin
          exact ((List.cons.inj hin).1).symm
        · rw [hi] at hin
          exact ((List.cons.inj hin).1).symm
      rw [hab]
      exact this
    | nil =>
      have hempty := h.empty hi
      have hback := ht.echoes e (hechoes ▸ List.mem_cons_self)
      have hroom := hp.echo
      have ha : a = s.now := by
        rcases hinbox with rfl | ⟨-, hne⟩
        · rw [hi] at hin
          exact ((List.cons.inj hin).1).symm
        · exact absurd hi hne
      rw [ha]
      omega
  · have := h.unanswered
    rwa [hechoes, lastOf_cons] at this

theorem Fed.look (hp : p.Fits) {fed seen a : Nat} {rest : List Nat} (h : Fed p s w fed seen)
    (hpast : ∀ b ∈ s.inbox, b ≤ s.now) (hinbox : s.inbox = a :: rest) (sender : Option Sender) :
    Fed p { s with sender, inbox := rest } ⟨w.next, s.now + p.timeout⟩ fed seen := by
  refine ⟨h.past, fun _ => Nat.add_le_add_right h.past.1 _, fun b bs hb => ?_, h.echoes, h.unanswered, h.calls,
    h.next⟩
  have hmem : b ∈ s.inbox := by
    rw [hinbox, show rest = b :: bs from hb]
    exact List.mem_cons_of_mem _ List.mem_cons_self
  have := hpast b hmem
  have := hp.echo
  simp only []
  omega

/-- Reaching the relay feeds its watchdog. -/
theorem Fed.relay (hp : p.Fits) {fed e : Nat} (h : Fed p s w fed e) (hw : s.sender = some w) :
    nextCall p s.calls s.sender + p.call < s.now + p.timeout := by
  have := h.nextCall_le hw
  have := h.past.2
  have := hp.gap_call
  omega

/-- **One step** of a run in which everything takes at most its time keeps the invariant. -/
theorem Inv.step (hp : p.Fits) (h : Inv p s) (ht : Timely p s) (hstep : Step p s s') : Inv p s' := by
  cases hstep with
  | wait d =>
    refine ⟨fun e he => Nat.le_add_right_of_le (h.past e he), h.idle, fun w hw => ?_, h.relay⟩
    obtain ⟨fed, seen, hfed⟩ := h.fed w hw
    exact ⟨fed, seen, { hfed with
      past := ⟨Nat.le_add_right_of_le hfed.past.1, Nat.le_add_right_of_le hfed.past.2⟩ }⟩
  | start next hnone hgap hfirst =>
    obtain ⟨hc, he, hi, hm⟩ := h.idle hnone
    refine ⟨h.past, fun hw => by simp at hw, fun w hw => ?_, fun d hd => ?_⟩
    · obtain rfl := Option.some.inj hw
      refine ⟨s.now, s.now, ⟨le_rfl, le_rfl⟩, fun _ => le_rfl, fun a rest ha => ?_, ?_, ?_, ?_, ?_⟩
      · simp [hi] at ha
      · simpa [he] using within_nil _ _
      · simp [he]
      · simpa [hc] using within_nil _ _
      · simpa [hc] using hgap
    · -- the relay was promised the first beat
      have := h.relay d hd
      simp only [hc, hnone, nextCall] at this ⊢
      omega
  | startRelay hnone =>
    refine ⟨h.past, h.idle, fun w hw => ?_, fun d hd => ?_⟩
    · obtain ⟨fed, seen, hfed⟩ := h.fed w hw
      exact ⟨fed, seen, { hfed with }⟩
    · obtain rfl := Option.some.inj hd
      rcases Option.eq_none_or_eq_some s.sender with hw | ⟨w, hw⟩
      · have := hp.first
        simp only [(h.idle hw).1, hw, nextCall]
        omega
      · obtain ⟨fed, seen, hfed⟩ := h.fed w hw
        exact Fed.relay (s := s) hp hfed hw
  | beat w next hsome hdue hgap =>
    obtain ⟨fed, seen, hfed⟩ := h.fed w hsome
    refine ⟨fun e he => ?_, fun hw => by simp at hw, fun w' hw' => ?_, fun d hd => ?_⟩
    · simp only [List.mem_append, List.mem_singleton] at he
      rcases he with ((he | he) | he) | he
      · exact h.past e (by simp [he])
      · exact he.le
      · exact h.past e (by simp [he])
      · exact h.past e (by simp [he])
    · obtain rfl := Option.some.inj hw'
      refine ⟨fed, seen, hfed.past, hfed.empty, hfed.pending, hfed.echoes, hfed.unanswered, ?_, ?_⟩
      · exact within_concat hfed.calls (hdue.trans hfed.next)
      · simpa using hgap
    · have hnext := h.relay d hd
      cases hc : s.calls with
      | cons e rest =>
        rw [hc] at hnext
        exact hnext
      | nil =>
        simp only [hc, hsome, nextCall, List.nil_append] at hnext ⊢
        omega
  | answer e rest d hrelay hcalls =>
    have hpast : e ≤ s.now := h.past e (by simp [hcalls])
    refine ⟨fun a ha => h.past a ?_, fun hw => ?_, fun w hw => ?_, fun d' hd' => ?_⟩
    · simp only [hcalls, List.mem_append, List.mem_cons, List.not_mem_nil, or_false] at ha ⊢
      tauto
    · simp [(h.idle hw).1] at hcalls
    · obtain ⟨fed, seen, hfed⟩ := h.fed w hw
      exact ⟨fed, e, hfed.answer ht hcalls hpast _⟩
    · obtain rfl := Option.some.inj hd'
      rcases Option.eq_none_or_eq_some s.sender with hw | ⟨w, hw⟩
      · simp [(h.idle hw).1] at hcalls
      · obtain ⟨fed, seen, hfed⟩ := h.fed w hw
        exact (hfed.answer ht hcalls hpast _).relay hp hw
  | miss e rest d hrelay hcalls =>
    have hpast : e ≤ s.now := h.past e (by simp [hcalls])
    refine ⟨fun a ha => h.past a ?_, fun hw => ?_, fun w hw => ?_, fun d' hd' => ?_⟩
    · simp only [hcalls, List.mem_append, List.mem_cons] at ha ⊢
      tauto
    · simp [(h.idle hw).1] at hcalls
    · obtain ⟨fed, seen, hfed⟩ := h.fed w hw
      exact ⟨fed, e, hfed.miss hcalls hpast _⟩
    · obtain rfl := Option.some.inj hd'
      rcases Option.eq_none_or_eq_some s.sender with hw | ⟨w, hw⟩
      · simp [(h.idle hw).1] at hcalls
      · obtain ⟨fed, seen, hfed⟩ := h.fed w hw
        exact (hfed.miss hcalls hpast _).relay hp hw
  | arrive e rest hechoes =>
    have hpast : e ≤ s.now := h.past e (by simp [hechoes])
    refine ⟨fun a ha => ?_, fun hw => ?_, fun w hw => ?_, h.relay⟩
    · simp only [List.mem_append, List.mem_singleton] at ha
      rcases ha with (ha | ha) | (ha | ha)
      · exact h.past a (by simp [ha])
      · exact h.past a (by simp [hechoes, ha])
      · exact h.past a (by simp [ha])
      · exact ha.le
    · simp [(h.idle hw).2.1] at hechoes
    · obtain ⟨fed, seen, hfed⟩ := h.fed w hw
      exact ⟨e, seen, hfed.arrive hp ht hechoes hpast (.inl rfl)⟩
  | merge e rest hechoes hfull =>
    have hpast : e ≤ s.now := h.past e (by simp [hechoes])
    refine ⟨fun a ha => h.past a ?_, fun hw => ?_, fun w hw => ?_, h.relay⟩
    · simp only [hechoes, List.mem_append, List.mem_cons] at ha ⊢
      tauto
    · simp [(h.idle hw).2.1] at hechoes
    · obtain ⟨fed, seen, hfed⟩ := h.fed w hw
      exact ⟨e, seen, hfed.arrive hp ht hechoes hpast (.inr ⟨rfl, hfull⟩)⟩
  | look w a rest hsome hinbox =>
    obtain ⟨fed, seen, hfed⟩ := h.fed w hsome
    refine ⟨fun b hb => h.past b ?_, fun hw => by simp at hw, fun w' hw' => ?_, fun d hd => ?_⟩
    · simp only [hinbox, List.mem_append, List.mem_cons] at hb ⊢
      tauto
    · obtain rfl := Option.some.inj hw'
      exact ⟨fed, seen, hfed.look hp (fun b hb => h.past b (by simp [hb])) hinbox _⟩
    · have hnext := h.relay d hd
      rw [hsome] at hnext
      cases hc : s.calls with
      | cons e rest' => rwa [hc] at hnext
      | nil => rwa [hc] at hnext

end Lib.Echo
