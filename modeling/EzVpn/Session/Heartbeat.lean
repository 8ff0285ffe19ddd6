import EzVpn.Lib.Echo
import EzVpn.Session.Control

/-!
# The heartbeat of a session

Pings and pongs are beats and echoes (`Lib.Echo`): the client is the sender and the server's
responder the relay.  A beat is on its way while its ping is being written or on the stream, an
echo while its pong is queued, in the hands of the control writer or on the stream, and the
inbox is the channel between the client's two tasks.

`heartbeat_quiet`: as long as nothing fails and everything takes at most its time, neither end
gives the other up.  `client_detects_loss` and `server_detects_loss`: if one end is gone, the
other ends within the timeout and the time of what was still on its way.
-/

namespace EzVpn

open Lib

namespace ControlPlane

/-- How long things may take, in milliseconds. -/
structure Bounds where
  /-- until the client's tunnel starts -/
  start : Nat
  /-- from a tick that is due until it is taken -/
  tick : Nat
  /-- for the client's `write_frames` -/
  write : Nat
  /-- from the client's stream to the responder -/
  up : Nat
  /-- in the channel to the control writer -/
  queue : Nat
  /-- for the control writer's `write_frames` -/
  batch : Nat
  /-- from the server's stream to the control task -/
  down : Nat
  /-- in the channel to the heartbeat -/
  pong : Nat
  /-- from a deadline that has passed until it is noticed -/
  alarm : Nat

/-- The frame the heartbeat is writing. -/
def unsent : Task Heartbeat → List (Stamped ControlMessage)
  | .running hb => hb.writing.toList
  | _ => []

/-- Each is there for at most `bound`. -/
def Prompt {α : Type} (now bound : Nat) (l : List (Stamped α)) : Prop := ∀ m ∈ l, now ≤ m.since + bound

instance {α : Type} (now bound : Nat) (l : List (Stamped α)) : Decidable (Prompt now bound l) :=
  inferInstanceAs (Decidable (∀ m ∈ l, now ≤ m.since + bound))

/-- The heartbeat's tick is taken when it is due, unless a write is under way. -/
def TickPrompt (b : Bounds) (st : ControlPlane) : Prop :=
  match st.client with
  | .starting => st.now ≤ b.start
  | .running hb => hb.writing = none → st.now ≤ hb.due + b.tick
  | .ended _ => True

instance (b : Bounds) (st : ControlPlane) : Decidable (TickPrompt b st) := by
  unfold TickPrompt
  split <;> infer_instance

/-- Everything takes at most its time, and at most `misses` pongs in a row are dropped. -/
structure Timely (b : Bounds) (misses : Nat) (st : ControlPlane) : Prop where
  tick : TickPrompt b st
  write : Prompt st.now b.write (unsent st.client)
  up : Prompt st.now b.up st.up
  queue : Prompt st.now b.queue st.queue
  batch : Prompt st.now b.batch st.batch
  down : Prompt st.now b.down st.down
  pongs : Prompt st.now b.pong st.pongs
  missed : st.missed ≤ misses

instance (b : Bounds) (misses : Nat) (st : ControlPlane) : Decidable (Timely b misses st) :=
  decidable_of_iff
    (TickPrompt b st ∧ Prompt st.now b.write (unsent st.client) ∧ Prompt st.now b.up st.up ∧
      Prompt st.now b.queue st.queue ∧ Prompt st.now b.batch st.batch ∧ Prompt st.now b.down st.down ∧
      Prompt st.now b.pong st.pongs ∧ st.missed ≤ misses)
    ⟨fun ⟨h1, h2, h3, h4, h5, h6, h7, h8⟩ => ⟨h1, h2, h3, h4, h5, h6, h7, h8⟩,
      fun h => ⟨h.1, h.2, h.3, h.4, h.5, h.6, h.7, h.8⟩⟩

/-! ## Beats and echoes -/

/-- The bounds, as those of beats and echoes. -/
def Bounds.echo (b : Bounds) (misses : Nat) : Echo.Params where
  gap := heartbeatInterval + b.tick
  timeout := heartbeatTimeout
  first := b.start + b.tick
  call := b.write + b.up
  back := b.write + b.up + b.queue + b.batch + b.down
  look := b.pong
  misses := misses

/-- The times fit into the timeout: before the first ping, and from a pong to the next. -/
structure Bounds.Fit (b : Bounds) (misses : Nat) : Prop where
  first : b.start + b.tick + b.write + b.up < heartbeatTimeout
  pong : (misses + 1) * (heartbeatInterval + b.tick) +
    (b.write + b.up + b.queue + b.batch + b.down + b.pong) < heartbeatTimeout

instance (b : Bounds) (misses : Nat) : Decidable (b.Fit misses) :=
  decidable_of_iff
    (b.start + b.tick + b.write + b.up < heartbeatTimeout ∧
      (misses + 1) * (heartbeatInterval + b.tick) +
        (b.write + b.up + b.queue + b.batch + b.down + b.pong) < heartbeatTimeout)
    ⟨fun ⟨h1, h2⟩ => ⟨h1, h2⟩, fun h => ⟨h.1, h.2⟩⟩

theorem Bounds.Fit.echo {b : Bounds} {misses : Nat} (h : b.Fit misses) : (b.echo misses).Fits where
  first := by
    have := h.first
    simp only [Bounds.echo]
    omega
  call := by
    simp only [Bounds.echo]
    omega
  echo := by
    have := h.pong
    simp only [Bounds.echo]
    omega

def isPong (m : Stamped ControlMessage) : Bool :=
  match m.item with
  | .pong _ => true
  | _ => false

/-- The beats of the pongs among some frames. -/
def pongBeats (l : List (Stamped ControlMessage)) : List Nat := (l.filter isPong).map (·.origin)

/-- What the beats and echoes are. -/
def echo (b : Bounds) (st : ControlPlane) : Echo.State where
  now := st.now
  sender :=
    match st.client with
    | .running hb => some ⟨hb.due + b.tick, hb.deadline⟩
    | _ => none
  relay :=
    match st.server with
    | .running r => some r.deadline
    | _ => none
  calls := (st.up ++ unsent st.client).map (·.origin)
  echoes := pongBeats st.down ++ (pongBeats st.batch ++ pongBeats st.queue)
  inbox := st.pongs.map (·.since)
  missed := st.missed

/-- A step that is not the heartbeat's: a task of either end fails or is ended. -/
def Action.fails : Action → Bool
  | .writeFailed _ | .clientEnds _ | .serverEnds _ => true
  | _ => false

/-- What is known of a session in which nothing has failed, besides `Echo.Inv`: where a beat
is, it got in time. -/
structure Beating (b : Bounds) (st : ControlPlane) : Prop where
  client : ∀ reason, st.client ≠ .ended reason
  server : ∀ reason, st.server ≠ .ended reason
  pings : ∀ m ∈ st.up ++ unsent st.client, ∃ seq, m.item = .ping seq
  writing : ∀ m ∈ unsent st.client, m.since = m.origin
  up : ∀ m ∈ st.up, m.since ≤ m.origin + b.write
  queue : ∀ m ∈ st.queue, m.since ≤ m.origin + (b.write + b.up)
  batch : ∀ m ∈ st.batch, m.since ≤ m.origin + (b.write + b.up + b.queue)
  down : ∀ m ∈ st.down, m.since ≤ m.origin + (b.write + b.up + b.queue + b.batch)

section
variable {b : Bounds} {misses : Nat} {st st' : ControlPlane} {a : Action}
  {fromSlice : Bytes → Except String ServerAddrsMsg} {overlayV4 : Option Ipv4Net} {overlayV6 : Option Ipv6Net}

theorem mem_pongBeats {l : List (Stamped ControlMessage)} {e : Nat} (h : e ∈ pongBeats l) :
    ∃ m ∈ l, m.origin = e := by
  obtain ⟨m, hm, rfl⟩ := List.mem_map.1 h
  exact ⟨m, (List.mem_filter.1 hm).1, rfl⟩

@[simp] theorem pongBeats_nil : pongBeats [] = [] := rfl

@[simp] theorem pongBeats_append (l l' : List (Stamped ControlMessage)) :
    pongBeats (l ++ l') = pongBeats l ++ pongBeats l' := by
  simp only [pongBeats, List.filter_append, List.map_append]

theorem pongBeats_cons_of {m : Stamped ControlMessage} (h : isPong m = true)
    (l : List (Stamped ControlMessage)) : pongBeats (m :: l) = m.origin :: pongBeats l := by
  rw [pongBeats, List.filter_cons_of_pos h]
  rfl

theorem pongBeats_cons_of_not {m : Stamped ControlMessage} (h : isPong m = false)
    (l : List (Stamped ControlMessage)) : pongBeats (m :: l) = pongBeats l := by
  rw [pongBeats, List.filter_cons_of_neg (by simp [h])]
  rfl

/-- Moving frames on does not change their beats. -/
theorem pongBeats_restamp (l : List (Stamped ControlMessage)) (now : Nat) :
    pongBeats (l.map ({ · with since := now })) = pongBeats l := by
  simp only [pongBeats, List.filter_map, List.map_map]
  rfl

theorem Timely.echo (h : Timely b misses st) (hb : Beating b st) :
    Echo.Timely (b.echo misses) (st.echo b) where
  first := fun hnone => by
    have htick := h.tick
    unfold TickPrompt at htick
    simp only [ControlPlane.echo] at hnone ⊢
    split at hnone
    · cases hnone
    · next hnot =>
      cases hc : st.client with
      | starting =>
        rw [hc] at htick
        simp only [Bounds.echo]
        exact Nat.le_add_right_of_le htick
      | running hb => exact absurd hc (hnot hb)
      | ended reason => exact absurd hc (hb.client reason)
  next := fun w hw hcalls => by
    have htick := h.tick
    unfold TickPrompt at htick
    simp only [ControlPlane.echo] at hw hcalls ⊢
    split at hw
    · next hbt hc =>
      obtain rfl := Option.some.inj hw
      rw [hc] at htick
      rw [List.map_eq_nil_iff, List.append_eq_nil_iff, hc] at hcalls
      rw [unsent, Option.toList_eq_nil_iff] at hcalls
      exact htick hcalls.2
    · cases hw
  calls := fun e he => by
    obtain ⟨m, hm, rfl⟩ := List.mem_map.1 he
    simp only [ControlPlane.echo, Bounds.echo]
    rcases List.mem_append.1 hm with hm | hm
    · have := h.up m hm
      have := hb.up m hm
      omega
    · have := h.write m hm
      have := hb.writing m hm
      omega
  echoes := fun e he => by
    simp only [ControlPlane.echo, Bounds.echo, List.mem_append] at he ⊢
    rcases he with he | he | he
    · obtain ⟨m, hm, rfl⟩ := mem_pongBeats he
      have := h.down m hm
      have := hb.down m hm
      omega
    · obtain ⟨m, hm, rfl⟩ := mem_pongBeats he
      have := h.batch m hm
      have := hb.batch m hm
      omega
    · obtain ⟨m, hm, rfl⟩ := mem_pongBeats he
      have := h.queue m hm
      have := hb.queue m hm
      omega
  inbox := fun a ha => by
    obtain ⟨m, hm, rfl⟩ := List.mem_map.1 ha
    exact h.pongs m hm
  missed := h.missed

theorem nextTick_le (due now : Nat) : nextTick due now ≤ max due now + heartbeatInterval := by
  unfold nextTick
  split <;> omega

theorem trySend_of_lt {α : Type} {n : Nat} {l : List α} (h : l.length < n) (a : α) :
    trySend n l a = l ++ [a] := if_pos h

theorem trySend_of_not_lt {α : Type} {n : Nat} {l : List α} (h : ¬ l.length < n) (a : α) :
    trySend n l a = l := if_neg h

/-- **Refinement.**  A step of a session in which nothing fails is one of beats and echoes, or
changes nothing about them. -/
theorem refines (hbeat : Beating b st) (hquiet : ∀ w, (st.echo b).sender = some w → st.now < w.deadline)
    (hquiet' : ∀ d, (st.echo b).relay = some d → st.now < d) (ht : Timely b misses st)
    (hmove : Moves fromSlice overlayV4 overlayV6 st a st') (hok : a.fails = false) :
    st'.echo b = st.echo b ∨ Echo.Step (b.echo misses) (st.echo b) (st'.echo b) := by
  cases hmove with
  | wait ms => exact .inr (.wait (st.echo b) ms)
  | startClient hc =>
    have htick := ht.tick
    simp only [TickPrompt, hc] at htick
    refine .inr ?_
    convert Echo.Step.start (st.echo b) (st.now + b.tick) (by simp [echo, hc]) ?_ ?_ using 1
    · simp [echo, unsent, hc, Bounds.echo]
    · simp only [echo, Bounds.echo]
      omega
    · simp only [Bounds.echo]
      omega
  | tick hb hc hw hdue =>
    have htick := ht.tick
    simp only [TickPrompt, hc] at htick
    have hnow := htick hw
    have := nextTick_le hb.due st.now
    refine .inr ?_
    convert Echo.Step.beat (st.echo b) ⟨hb.due + b.tick, hb.deadline⟩ (nextTick hb.due st.now + b.tick)
      (by simp [echo, hc]) ?_ ?_ using 1
    · simp [echo, unsent, hc, hw]
    · exact hnow
    · simp only [echo, Bounds.echo]
      omega
  | written hb frame hc hw =>
    refine .inl ?_
    simp [echo, unsent, hc, hw]
  | writeFailed error => cases hok
  | recvPong hb pong rest hc hw hp =>
    refine .inr ?_
    convert Echo.Step.look (st.echo b) ⟨hb.due + b.tick, hb.deadline⟩ pong.since (rest.map (·.since))
      (by simp [echo, hc]) (by simp [echo, hp]) using 1
    simp [echo, unsent, hc, hw, Bounds.echo]
  | clientTimeout hb hc hw hdead =>
    have := hquiet ⟨hb.due + b.tick, hb.deadline⟩ (by simp [echo, hc])
    simp only at this
    omega
  | readPong hb frame rest seq hc hd hm =>
    have hechoes : (st.echo b).echoes =
        frame.origin :: (pongBeats rest ++ (pongBeats st.batch ++ pongBeats st.queue)) := by
      rw [echo, hd, pongBeats_cons_of (by rw [isPong, hm])]
      rfl
    refine .inr ?_
    by_cases hroom : st.pongs.length < pongChannelSize
    · rw [trySend_of_lt hroom]
      convert Echo.Step.arrive (st.echo b) frame.origin _ hechoes using 1
      simp [echo, unsent, hc]
    · rw [trySend_of_not_lt hroom]
      refine .merge (st.echo b) frame.origin _ hechoes fun hnil => hroom ?_
      rw [List.map_eq_nil_iff.1 hnil]
      decide
  | readPing hb frame rest seq hc hd hm =>
    refine .inl ?_
    rw [echo, echo, hd, pongBeats_cons_of_not (by rw [isPong, hm])]
  | readAddrs hb frame rest msg addrs hc hd hm haddrs =>
    refine .inl ?_
    rw [echo, echo, hd, pongBeats_cons_of_not (by rw [isPong, hm])]
  | recvAddrs addrs rest ha => exact .inl rfl
  | clientEnds reason => cases hok
  | startServer hs =>
    exact .inr (.startRelay (st.echo b) (by simp [echo, hs]))
  | answer r frame rest seq hs hu hm hroom =>
    refine .inr ?_
    convert Echo.Step.answer (st.echo b) frame.origin ((rest ++ unsent st.client).map (·.origin)) r.deadline
      (by simp [echo, hs]) (by simp [echo, hu]) using 1
    rw [echo, pongBeats_append, pongBeats_cons_of rfl]
    simp [echo, Bounds.echo]
  | miss r frame rest seq hs hu hm hfull =>
    exact .inr (.miss (st.echo b) frame.origin ((rest ++ unsent st.client).map (·.origin)) r.deadline
      (by simp [echo, hs]) (by simp [echo, hu]))
  | skip r frame rest hs hu hm =>
    obtain ⟨seq, hping⟩ := hbeat.pings frame (by simp [hu])
    exact absurd hping (hm seq)
  | serverTimeout r hs hdead =>
    have := hquiet' r.deadline (by simp [echo, hs])
    omega
  | publish endpointAddrs addrs haddrs hroom =>
    refine .inl ?_
    rw [echo, echo, pongBeats_append, pongBeats_cons_of_not rfl, pongBeats_nil, List.append_nil]
  | unpublished endpointAddrs => exact .inl rfl
  | recvBatch r hs hnil =>
    refine .inl ?_
    simp only [echo, pongBeats_restamp, hnil, pongBeats_nil, List.nil_append, ← pongBeats_append,
      List.take_append_drop]
  | writeBatch r hs =>
    refine .inl ?_
    simp only [echo, pongBeats_restamp, pongBeats_append, pongBeats_nil, List.nil_append, List.append_assoc]
  | serverEnds reason => cases hok

/-- Frames that move on were long enough where they were. -/
theorem restamp_le {l : List (Stamped ControlMessage)} {now before bound : Nat}
    (hl : ∀ m ∈ l, m.since ≤ m.origin + before) (hprompt : Prompt now bound l) :
    ∀ m ∈ l.map ({ · with since := now }), m.since ≤ m.origin + (before + bound) := by
  intro m hm
  obtain ⟨m', hm', rfl⟩ := List.mem_map.1 hm
  have := hl m' hm'
  have := hprompt m' hm'
  simp only
  omega

/-- A beat gets where it goes in time. -/
theorem Beating.move (hbeat : Beating b st)
    (hquiet : ∀ w, (st.echo b).sender = some w → st.now < w.deadline)
    (hquiet' : ∀ d, (st.echo b).relay = some d → st.now < d) (ht : Timely b misses st)
    (hmove : Moves fromSlice overlayV4 overlayV6 st a st') (hok : a.fails = false) : Beating b st' := by
  cases hmove with
  | wait ms => exact { hbeat with }
  | startClient hc =>
    refine { hbeat with client := by simp, pings := fun m hm => hbeat.pings m ?_, writing := by simp [unsent] }
    rw [hc]
    exact hm
  | tick hb hc hw hdue =>
    refine { hbeat with client := by simp, pings := fun m hm => ?_, writing := by simp [unsent] }
    rcases List.mem_append.1 hm with hm | hm
    · exact hbeat.pings m (List.mem_append_left _ hm)
    · obtain rfl := List.mem_singleton.1 hm
      exact ⟨_, rfl⟩
  | written hb frame hc hw =>
    have hmem : frame ∈ unsent st.client := by simp [unsent, hc, hw]
    refine { hbeat with
      client := by simp, writing := by simp [unsent], pings := fun m hm => ?_, up := fun m hm => ?_ }
    · simp only [unsent, Option.toList_none, List.append_nil] at hm
      rcases List.mem_append.1 hm with hm | hm
      · exact hbeat.pings m (List.mem_append_left _ hm)
      · obtain rfl := List.mem_singleton.1 hm
        exact hbeat.pings frame (List.mem_append_right _ hmem)
    · rcases List.mem_append.1 hm with hm | hm
      · exact hbeat.up m hm
      · obtain rfl := List.mem_singleton.1 hm
        have := hbeat.writing frame hmem
        have := ht.write frame hmem
        simp only
        omega
  | writeFailed error => cases hok
  | recvPong hb pong rest hc hw hp =>
    refine { hbeat with
      client := by simp, pings := fun m hm => hbeat.pings m ?_, writing := fun m hm => hbeat.writing m ?_ }
    · rw [hc]
      exact hm
    · rw [hc]
      exact hm
  | clientTimeout hb hc hw hdead =>
    have := hquiet ⟨hb.due + b.tick, hb.deadline⟩ (by simp [echo, hc])
    simp only at this
    omega
  | readPong hb frame rest seq hc hd hm =>
    exact { hbeat with down := fun m hm => hbeat.down m (hd ▸ List.mem_cons_of_mem _ hm) }
  | readPing hb frame rest seq hc hd hm =>
    exact { hbeat with down := fun m hm => hbeat.down m (hd ▸ List.mem_cons_of_mem _ hm) }
  | readAddrs hb frame rest msg addrs hc hd hm haddrs =>
    exact { hbeat with down := fun m hm => hbeat.down m (hd ▸ List.mem_cons_of_mem _ hm) }
  | recvAddrs addrs rest ha => exact { hbeat with }
  | clientEnds reason => cases hok
  | startServer hs => exact { hbeat with server := by simp }
  | answer r frame rest seq hs hu hm hroom =>
    refine { hbeat with
      server := by simp
      pings := fun m hm => hbeat.pings m ?_
      up := fun m hm => hbeat.up m (hu ▸ List.mem_cons_of_mem _ hm)
      queue := fun m hm => ?_ }
    · rw [hu]
      exact List.mem_cons_of_mem _ hm
    · rcases List.mem_append.1 hm with hm | hm
      · exact hbeat.queue m hm
      · obtain rfl := List.mem_singleton.1 hm
        have := hbeat.up frame (by simp [hu])
        have := ht.up frame (by simp [hu])
        simp only
        omega
  | miss r frame rest seq hs hu hm hfull =>
    refine { hbeat with
      server := by simp
      pings := fun m hm => hbeat.pings m ?_
      up := fun m hm => hbeat.up m (hu ▸ List.mem_cons_of_mem _ hm) }
    rw [hu]
    exact List.mem_cons_of_mem _ hm
  | skip r frame rest hs hu hm =>
    obtain ⟨seq, hping⟩ := hbeat.pings frame (by simp [hu])
    exact absurd hping (hm seq)
  | serverTimeout r hs hdead =>
    have := hquiet' r.deadline (by simp [echo, hs])
    omega
  | publish endpointAddrs addrs haddrs hroom =>
    refine { hbeat with queue := fun m hm => ?_ }
    rcases List.mem_append.1 hm with hm | hm
    · exact hbeat.queue m hm
    · obtain rfl := List.mem_singleton.1 hm
      exact Nat.le_add_right _ _
  | unpublished endpointAddrs => exact hbeat
  | recvBatch r hs hnil =>
    refine { hbeat with
      queue := fun m hm => hbeat.queue m (List.mem_of_mem_drop hm)
      batch := restamp_le (fun m hm => hbeat.queue m (List.mem_of_mem_take hm))
        fun m hm => ht.queue m (List.mem_of_mem_take hm) }
  | writeBatch r hs =>
    refine { hbeat with batch := by simp, down := fun m hm => ?_ }
    rcases List.mem_append.1 hm with hm | hm
    · exact hbeat.down m hm
    · exact restamp_le hbeat.batch ht.batch m hm
  | serverEnds reason => cases hok

end

section
variable (fromSlice : Bytes → Except String ServerAddrsMsg) (overlayV4 : Option Ipv4Net)
  (overlayV6 : Option Ipv6Net)

/-- Before a step, everything is on time, and the step is not a failure. -/
def OnTime (b : Bounds) (misses : Nat) (st : ControlPlane) (a : Action) : Prop :=
  Timely b misses st ∧ a.fails = false

instance (b : Bounds) (misses : Nat) (st : ControlPlane) (a : Action) : Decidable (OnTime b misses st a) :=
  inferInstanceAs (Decidable (_ ∧ _))

theorem beating_init (b : Bounds) (managed : Bool) : Beating b (init managed) where
  client := by simp [init]
  server := by simp [init]
  pings := by simp [init, unsent]
  writing := by simp [init, unsent]
  up := by simp [init]
  queue := by simp [init]
  batch := by simp [init]
  down := by simp [init]

/-- The invariant of a session in which nothing fails. -/
theorem beating_run {b : Bounds} {misses : Nat} (hfit : b.Fit misses) (managed : Bool) (actions : List Action)
    (h : Guarded (step fromSlice overlayV4 overlayV6) (OnTime b misses) (init managed) actions) :
    Beating b (run (step fromSlice overlayV4 overlayV6) (init managed) actions) ∧
      Echo.Inv (b.echo misses) (echo b (run (step fromSlice overlayV4 overlayV6) (init managed) actions)) := by
  refine inv_run (I := fun st => Beating b st ∧ Echo.Inv (b.echo misses) (echo b st)) ?_ actions _
    ⟨beating_init b managed, Echo.inv_start _ 0⟩ h
  rintro st a ⟨hbeat, hinv⟩ ⟨ht, hok⟩
  obtain ⟨hquiet, hquiet'⟩ := hinv.quiet hfit.echo (ht.echo hbeat)
  refine step_induction (P := fun st => Beating b st ∧ Echo.Inv (b.echo misses) (echo b st)) ⟨hbeat, hinv⟩
    fun st' hmove => ⟨hbeat.move hquiet hquiet' ht hmove hok, ?_⟩
  rcases refines hbeat hquiet hquiet' ht hmove hok with heq | hstep
  · rw [heq]
    exact hinv
  · exact hinv.step hfit.echo (ht.echo hbeat) hstep

/-- **No false alarm.**  In a run of a session in which nothing fails, everything takes at most
its time and at most `misses` pongs in a row are dropped on a full queue: if the times fit into
the timeout, neither end has given up, and neither deadline has passed. -/
theorem heartbeat_quiet {b : Bounds} {misses : Nat} (hfit : b.Fit misses) (managed : Bool)
    (actions : List Action)
    (h : Guarded (step fromSlice overlayV4 overlayV6) (OnTime b misses) (init managed) actions)
    (hlast : Timely b misses (run (step fromSlice overlayV4 overlayV6) (init managed) actions)) :
    let st := run (step fromSlice overlayV4 overlayV6) (init managed) actions
    (∀ reason, st.client ≠ .ended reason) ∧ (∀ reason, st.server ≠ .ended reason) ∧
      (∀ hb, st.client = .running hb → st.now < hb.deadline) ∧
      ∀ r, st.server = .running r → st.now < r.deadline := by
  obtain ⟨hbeat, hinv⟩ := beating_run fromSlice overlayV4 overlayV6 hfit managed actions h
  obtain ⟨hquiet, hquiet'⟩ := hinv.quiet hfit.echo (hlast.echo hbeat)
  refine ⟨hbeat.client, hbeat.server, fun hb hc => ?_, fun r hs => ?_⟩
  · exact hquiet ⟨hb.due + b.tick, hb.deadline⟩ (by simp only [echo, hc])
  · exact hquiet' r.deadline (by simp only [echo, hs])

end

/-- A minute of a session in which a round trip takes 400 ms. -/
def minute : List Action :=
  [.startServer, .wait 500, .startClient] ++
    (List.replicate 6 [.tick, .wait 50, .written, .wait 100, .serverRead, .recvBatch, .wait 50, .writeBatch, .wait 100,
      .clientRead, .wait 100, .recvPong, .wait 9600]).flatten

def minuteBounds : Bounds := ⟨1000, 0, 100, 100, 100, 100, 100, 100, 100⟩

theorem heartbeat_quiet_minute :
    (run (step (fun _ => .error "") none none) (init false) minute).client ≠ .starting ∧
    ∀ reason, (run (step (fun _ => .error "") none none) (init false) minute).client ≠ .ended reason :=
  ⟨by decide +kernel, (heartbeat_quiet (fun _ => .error "") none none (show minuteBounds.Fit 1 by decide) false
    minute (by decide +kernel) (by decide +kernel)).1⟩

/-! ## A session whose other end is gone -/

/-- The steps of the server's tasks. -/
def Action.byServer : Action → Bool
  | .startServer | .serverRead | .serverTimeout | .publish _ | .recvBatch | .writeBatch | .serverEnds _ => true
  | _ => false

/-- The steps of the client's tasks. -/
def Action.byClient : Action → Bool
  | .startClient | .tick | .written | .writeFailed _ | .recvPong | .clientTimeout | .clientRead | .recvAddrs
  | .clientEnds _ => true
  | _ => false

/-- The client notices in time what reaches it, and its deadline. -/
structure ClientPrompt (b : Bounds) (st : ControlPlane) : Prop where
  alarm : ∀ hb, st.client = .running hb → hb.writing = none → st.now ≤ hb.deadline + b.alarm
  write : Prompt st.now b.write (unsent st.client)
  down : Prompt st.now b.down st.down
  pongs : Prompt st.now b.pong st.pongs

/-- The server notices in time what reaches it, and its deadline. -/
structure ServerPrompt (b : Bounds) (st : ControlPlane) : Prop where
  alarm : ∀ r, st.server = .running r → st.now ≤ r.deadline + b.alarm
  up : Prompt st.now b.up st.up

instance (b : Bounds) (st : ControlPlane) : Decidable (ClientPrompt b st) :=
  decidable_of_iff
    ((∀ hb, st.client = .running hb → hb.writing = none → st.now ≤ hb.deadline + b.alarm) ∧
      Prompt st.now b.write (unsent st.client) ∧ Prompt st.now b.down st.down ∧ Prompt st.now b.pong st.pongs)
    ⟨fun ⟨h1, h2, h3, h4⟩ => ⟨h1, h2, h3, h4⟩, fun h => ⟨h.1, h.2, h.3, h.4⟩⟩

instance (b : Bounds) (st : ControlPlane) : Decidable (ServerPrompt b st) :=
  decidable_of_iff
    ((∀ r, st.server = .running r → st.now ≤ r.deadline + b.alarm) ∧ Prompt st.now b.up st.up)
    ⟨fun ⟨h1, h2⟩ => ⟨h1, h2⟩, fun h => ⟨h.1, h.2⟩⟩

/-- Nothing is from the future. -/
structure Past (st : ControlPlane) : Prop where
  client : ∀ hb, st.client = .running hb → hb.deadline ≤ st.now + heartbeatTimeout
  server : ∀ r, st.server = .running r → r.deadline ≤ st.now + heartbeatTimeout
  writing : ∀ m ∈ unsent st.client, m.since ≤ st.now
  up : ∀ m ∈ st.up, m.since ≤ st.now
  down : ∀ m ∈ st.down, m.since ≤ st.now
  pongs : ∀ m ∈ st.pongs, m.since ≤ st.now

section
variable {b : Bounds} {st st' : ControlPlane} {a : Action} {fromSlice : Bytes → Except String ServerAddrsMsg}
  {overlayV4 : Option Ipv4Net} {overlayV6 : Option Ipv6Net}

theorem mem_trySend {α : Type} {n : Nat} {l : List α} {a x : α} (h : x ∈ trySend n l a) : x ∈ l ∨ x = a := by
  unfold trySend at h
  split at h
  · simpa using h
  · exact .inl h

theorem Past.move (h : Past st) (hmove : Moves fromSlice overlayV4 overlayV6 st a st') : Past st' := by
  cases hmove with
  | wait ms =>
    have hle : ∀ {n}, n ≤ st.now → n ≤ st.now + ms := fun h => Nat.le_add_right_of_le h
    refine ⟨fun hb hc => ?_, fun r hs => ?_, fun m hm => hle (h.writing m hm), fun m hm => hle (h.up m hm),
      fun m hm => hle (h.down m hm), fun m hm => hle (h.pongs m hm)⟩
    · have := h.client hb hc
      simp only
      omega
    · have := h.server r hs
      simp only
      omega
  | startClient hc =>
    refine { h with client := fun hb hb' => ?_, writing := by simp [unsent] }
    obtain rfl := Task.running.inj hb'
    exact le_rfl
  | tick hb hc hw hdue =>
    refine { h with client := fun hb' hc' => ?_, writing := by simp [unsent] }
    obtain rfl := Task.running.inj hc'
    exact h.client hb hc
  | written hb frame hc hw =>
    refine { h with
      client := fun hb' hc' => ?_, writing := by simp [unsent], up := fun m hm => ?_ }
    · obtain rfl := Task.running.inj hc'
      exact h.client hb hc
    · rcases List.mem_append.1 hm with hm | hm
      · exact h.up m hm
      · obtain rfl := List.mem_singleton.1 hm
        exact le_rfl
  | writeFailed error => exact { h with client := by simp, writing := by simp [unsent] }
  | recvPong hb pong rest hc hw hp =>
    refine { h with
      client := fun hb' hc' => ?_, writing := fun m hm => h.writing m ?_
      pongs := fun m hm => h.pongs m (hp ▸ List.mem_cons_of_mem _ hm) }
    · obtain rfl := Task.running.inj hc'
      exact le_rfl
    · rw [hc]
      exact hm
  | clientTimeout hb hc hw hdead => exact { h with client := by simp, writing := by simp [unsent] }
  | readPong hb frame rest seq hc hd hm =>
    refine { h with
      down := fun m hm => h.down m (hd ▸ List.mem_cons_of_mem _ hm), pongs := fun m hm => ?_ }
    rcases mem_trySend hm with hm | rfl
    · exact h.pongs m hm
    · exact le_rfl
  | readPing hb frame rest seq hc hd hm =>
    exact { h with down := fun m hm => h.down m (hd ▸ List.mem_cons_of_mem _ hm) }
  | readAddrs hb frame rest msg addrs hc hd hm haddrs =>
    exact { h with down := fun m hm => h.down m (hd ▸ List.mem_cons_of_mem _ hm) }
  | recvAddrs addrs rest ha => exact { h with }
  | clientEnds reason => exact { h with client := by simp, writing := by simp [unsent] }
  | startServer hs =>
    refine { h with server := fun r hr => ?_ }
    obtain rfl := Task.running.inj hr
    exact le_rfl
  | answer r frame rest seq hs hu hm hroom =>
    refine { h with server := fun r hr => ?_, up := fun m hm => h.up m (hu ▸ List.mem_cons_of_mem _ hm) }
    obtain rfl := Task.running.inj hr
    exact le_rfl
  | miss r frame rest seq hs hu hm hfull =>
    refine { h with server := fun r hr => ?_, up := fun m hm => h.up m (hu ▸ List.mem_cons_of_mem _ hm) }
    obtain rfl := Task.running.inj hr
    exact le_rfl
  | skip r frame rest hs hu hm => exact { h with up := fun m hm => h.up m (hu ▸ List.mem_cons_of_mem _ hm) }
  | serverTimeout r hs hdead => exact { h with server := by simp }
  | publish endpointAddrs addrs haddrs hroom => exact { h with }
  | unpublished endpointAddrs => exact h
  | recvBatch r hs hnil => exact { h with }
  | writeBatch r hs =>
    refine { h with down := fun m hm => ?_ }
    rcases List.mem_append.1 hm with hm | hm
    · exact h.down m hm
    · obtain ⟨m', -, rfl⟩ := List.mem_map.1 hm
      exact le_rfl
  | serverEnds reason => exact { h with server := by simp }

theorem past_run (managed : Bool) (actions : List Action) :
    Past (run (step fromSlice overlayV4 overlayV6) (init managed) actions) :=
  inv_run_all (fun _ _ h => step_induction h fun _ hmove => h.move hmove) actions _
    ⟨by simp [init], by simp [init], by simp [init, unsent], by simp [init], by simp [init], by simp [init]⟩

/-- What a client can still do after the server was gone at `t`. -/
structure ClientAlone (b : Bounds) (t : Nat) (st : ControlPlane) : Prop where
  started : st.client ≠ .starting
  down : ∀ m ∈ st.down, m.since ≤ t
  pongs : ∀ m ∈ st.pongs, m.since ≤ t + b.down
  deadline : ∀ hb, st.client = .running hb → hb.deadline ≤ t + b.down + b.pong + heartbeatTimeout
  writing : ∀ m ∈ unsent st.client, m.since ≤ t + b.down + b.pong + heartbeatTimeout + b.alarm

theorem ClientAlone.move {t : Nat} (h : ClientAlone b t st) (hp : ClientPrompt b st)
    (hmove : Moves fromSlice overlayV4 overlayV6 st a st') (halone : a.byServer = false) : ClientAlone b t st' := by
  cases hmove with
  | wait ms => exact { h with }
  | startClient hc => exact absurd hc h.started
  | tick hb hc hw hdue =>
    refine { h with started := by simp, deadline := fun hb' hc' => ?_, writing := fun m hm => ?_ }
    · obtain rfl := Task.running.inj hc'
      exact h.deadline hb hc
    · obtain rfl := List.mem_singleton.1 hm
      have := h.deadline hb hc
      have := hp.alarm hb hc hw
      simp only
      omega
  | written hb frame hc hw =>
    refine { h with started := by simp, deadline := fun hb' hc' => ?_, writing := by simp [unsent] }
    obtain rfl := Task.running.inj hc'
    exact h.deadline hb hc
  | writeFailed error => exact { h with started := by simp, deadline := by simp, writing := by simp [unsent] }
  | recvPong hb pong rest hc hw hpongs =>
    refine { h with
      started := by simp
      pongs := fun m hm => h.pongs m (hpongs ▸ List.mem_cons_of_mem _ hm)
      deadline := fun hb' hc' => ?_
      writing := fun m hm => h.writing m ?_ }
    · obtain rfl := Task.running.inj hc'
      have hmem : pong ∈ st.pongs := hpongs ▸ List.mem_cons_self
      have := h.pongs pong hmem
      have := hp.pongs pong hmem
      simp only
      omega
    · rw [hc]
      exact hm
  | clientTimeout hb hc hw hdead =>
    exact { h with started := by simp, deadline := by simp, writing := by simp [unsent] }
  | readPong hb frame rest seq hc hd hm =>
    refine { h with
      down := fun m hm => h.down m (hd ▸ List.mem_cons_of_mem _ hm), pongs := fun m hm => ?_ }
    rcases mem_trySend hm with hm | rfl
    · exact h.pongs m hm
    · have hmem : frame ∈ st.down := hd ▸ List.mem_cons_self
      have := h.down frame hmem
      have := hp.down frame hmem
      simp only
      omega
  | readPing hb frame rest seq hc hd hm =>
    exact { h with down := fun m hm => h.down m (hd ▸ List.mem_cons_of_mem _ hm) }
  | readAddrs hb frame rest msg addrs hc hd hm haddrs =>
    exact { h with down := fun m hm => h.down m (hd ▸ List.mem_cons_of_mem _ hm) }
  | recvAddrs addrs rest ha => exact { h with }
  | clientEnds reason => exact { h with started := by simp, deadline := by simp, writing := by simp [unsent] }
  | startServer | answer | miss | skip | serverTimeout | publish | unpublished | recvBatch | writeBatch
  | serverEnds => cases halone

/-- What a server can still do after the client was gone at `t`. -/
structure ServerAlone (b : Bounds) (t : Nat) (st : ControlPlane) : Prop where
  started : st.server ≠ .starting
  up : ∀ m ∈ st.up, m.since ≤ t
  deadline : ∀ r, st.server = .running r → r.deadline ≤ t + b.up + heartbeatTimeout

theorem ServerAlone.fed {t : Nat} (h : ServerAlone b t st) (hp : ServerPrompt b st)
    {frame : Stamped ControlMessage} {rest : List (Stamped ControlMessage)} (hu : st.up = frame :: rest) :
    (∀ m ∈ rest, m.since ≤ t) ∧ st.now + heartbeatTimeout ≤ t + b.up + heartbeatTimeout := by
  have hmem : frame ∈ st.up := hu ▸ List.mem_cons_self
  have := h.up frame hmem
  have := hp.up frame hmem
  exact ⟨fun m hm => h.up m (hu ▸ List.mem_cons_of_mem _ hm), by omega⟩

theorem ServerAlone.move {t : Nat} (h : ServerAlone b t st) (hp : ServerPrompt b st)
    (hmove : Moves fromSlice overlayV4 overlayV6 st a st') (halone : a.byClient = false) : ServerAlone b t st' := by
  cases hmove with
  | wait ms => exact { h with }
  | startServer hs => exact absurd hs h.started
  | answer r frame rest seq hs hu hm hroom =>
    obtain ⟨hup, hnow⟩ := h.fed hp hu
    refine ⟨by simp, hup, fun r hr => ?_⟩
    obtain rfl := Task.running.inj hr
    exact hnow
  | miss r frame rest seq hs hu hm hfull =>
    obtain ⟨hup, hnow⟩ := h.fed hp hu
    refine ⟨by simp, hup, fun r hr => ?_⟩
    obtain rfl := Task.running.inj hr
    exact hnow
  | skip r frame rest hs hu hm => exact { h with up := (h.fed hp hu).1 }
  | serverTimeout r hs hdead => exact { h with started := by simp, deadline := by simp }
  | publish endpointAddrs addrs haddrs hroom => exact { h with }
  | unpublished endpointAddrs => exact h
  | recvBatch r hs hnil => exact { h with }
  | writeBatch r hs => exact { h with }
  | serverEnds reason => exact { h with started := by simp, deadline := by simp }
  | startClient | tick | written | writeFailed | recvPong | clientTimeout | readPong | readPing | readAddrs
  | recvAddrs | clientEnds => cases halone

end

section
variable (fromSlice : Bytes → Except String ServerAddrsMsg) (overlayV4 : Option Ipv4Net)
  (overlayV6 : Option Ipv6Net) (b : Bounds) (managed : Bool) (before after : List Action)

/-- **The client notices that the server is gone.**  After any run, let the server's tasks take
no further step and the client handle in time what reaches it.  A client that is still running
then is not further on than the timeout and the time of what was on its way. -/
theorem client_detects_loss
    (hstarted : (run (step fromSlice overlayV4 overlayV6) (init managed) before).client ≠ .starting)
    (halone : Guarded (step fromSlice overlayV4 overlayV6) (fun st a => ClientPrompt b st ∧ a.byServer = false)
      (run (step fromSlice overlayV4 overlayV6) (init managed) before) after)
    (hlast : ClientPrompt b (run (step fromSlice overlayV4 overlayV6) (init managed) (before ++ after)))
    (hb : Heartbeat)
    (hrunning : (run (step fromSlice overlayV4 overlayV6) (init managed) (before ++ after)).client = .running hb) :
    (run (step fromSlice overlayV4 overlayV6) (init managed) (before ++ after)).now ≤
      (run (step fromSlice overlayV4 overlayV6) (init managed) before).now +
        (b.down + b.pong + heartbeatTimeout + b.alarm + b.write) := by
  rw [run_append] at hlast hrunning ⊢
  have hpast : Past (run (step fromSlice overlayV4 overlayV6) (init managed) before) := past_run managed before
  generalize run (step fromSlice overlayV4 overlayV6) (init managed) before = st at *
  have hinit : ClientAlone b st.now st := by
    refine ⟨hstarted, hpast.down, fun m hm => ?_, fun hb hc => ?_, fun m hm => ?_⟩
    · exact Nat.le_add_right_of_le (hpast.pongs m hm)
    · have := hpast.client hb hc
      omega
    · have := hpast.writing m hm
      omega
  have hfinal := inv_run (I := ClientAlone b st.now)
    (fun s a h hg => step_induction h fun _ hmove => h.move hg.1 hmove hg.2) after st hinit halone
  have hdead := hfinal.deadline hb hrunning
  cases hw : hb.writing with
  | none =>
    have := hlast.alarm hb hrunning hw
    omega
  | some frame =>
    have hmem : frame ∈ unsent (run (step fromSlice overlayV4 overlayV6) st after).client := by
      simp [hrunning, unsent, hw]
    have := hfinal.writing frame hmem
    have := hlast.write frame hmem
    omega

/-- **The server notices that the client is gone**, likewise. -/
theorem server_detects_loss
    (hstarted : (run (step fromSlice overlayV4 overlayV6) (init managed) before).server ≠ .starting)
    (halone : Guarded (step fromSlice overlayV4 overlayV6) (fun st a => ServerPrompt b st ∧ a.byClient = false)
      (run (step fromSlice overlayV4 overlayV6) (init managed) before) after)
    (hlast : ServerPrompt b (run (step fromSlice overlayV4 overlayV6) (init managed) (before ++ after)))
    (r : Responder)
    (hrunning : (run (step fromSlice overlayV4 overlayV6) (init managed) (before ++ after)).server = .running r) :
    (run (step fromSlice overlayV4 overlayV6) (init managed) (before ++ after)).now ≤
      (run (step fromSlice overlayV4 overlayV6) (init managed) before).now +
        (b.up + heartbeatTimeout + b.alarm) := by
  rw [run_append] at hlast hrunning ⊢
  have hpast : Past (run (step fromSlice overlayV4 overlayV6) (init managed) before) := past_run managed before
  generalize run (step fromSlice overlayV4 overlayV6) (init managed) before = st at *
  have hinit : ServerAlone b st.now st := by
    refine ⟨hstarted, hpast.up, fun r hr => ?_⟩
    have := hpast.server r hr
    omega
  have hfinal := inv_run (I := ServerAlone b st.now)
    (fun s a h hg => step_induction h fun _ hmove => h.move hg.1 hmove hg.2) after st hinit halone
  have := hfinal.deadline r hrunning
  have := hlast.alarm r hrunning
  omega

end

/-- Both ends have started, and the first ping has been answered. -/
def firstRound : List Action :=
  [.startServer, .startClient, .tick, .written, .serverRead, .recvBatch, .writeBatch, .clientRead, .recvPong]

theorem client_detects_loss_firstRound :
    (run (step (fun _ => .error "") none none) (init false) (firstRound ++ [.wait 30000])).now ≤ 0 + 30400 :=
  client_detects_loss (fun _ => .error "") none none minuteBounds false firstRound [.wait 30000]
    (by decide +kernel) (by decide +kernel) (by decide +kernel) ⟨10000, 30000, 1, none⟩ (by decide +kernel)

theorem server_detects_loss_firstRound :
    (run (step (fun _ => .error "") none none) (init false) (firstRound ++ [.wait 30000])).now ≤ 0 + 30200 :=
  server_detects_loss (fun _ => .error "") none none minuteBounds false firstRound [.wait 30000]
    (by decide +kernel) (by decide +kernel) (by decide +kernel) ⟨30000⟩ (by decide +kernel)

end ControlPlane

end EzVpn
