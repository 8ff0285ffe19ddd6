import EzVpn.Client.BypassSession
import EzVpn.Session.Control

/-!
# What the control stream delivers

Every message of a session is in one place at a time: the channels, the writer's batch and the
streams form one queue from the task that sends to the task that takes.  Messages are lost where
a channel is full and nowhere else, and what arrives arrives in order (`controlStream_inOrder`).

For the client's bypass routes this means that an address is bypassed on the word of the server
only if the server found it among its own and outside the VPN (`bypassed_outside_overlay`).
-/

namespace EzVpn

open Lib

namespace ControlPlane

/-! ## One queue -/

/-- The messages of a kind among some frames. -/
def pick {α : Type} (kind : ControlMessage → Option α) (l : List (Stamped ControlMessage)) : List α :=
  l.filterMap fun m => kind m.item

def pingSeq : ControlMessage → Option UInt64
  | .ping seq => some seq
  | _ => none

def pongSeq : ControlMessage → Option UInt64
  | .pong seq => some seq
  | _ => none

def publication : ControlMessage → Option (List IpAddr)
  | .serverAddrs msg => some msg.addrs
  | _ => none

/-- The frames from the server, oldest first. -/
def fromServer (st : ControlPlane) : List (Stamped ControlMessage) := st.down ++ (st.batch ++ st.queue)

/-- The answers the heartbeat can still get, to pings that were sent: pongs on their way, then
pings on theirs. -/
def answersDue (st : ControlPlane) : List UInt64 :=
  st.pongs.map (·.item) ++ (pick pongSeq st.fromServer ++ pick pingSeq st.up)

/-- The publications the bypass manager can still get. -/
def addrsDue (st : ControlPlane) : List (List IpAddr) :=
  st.addrs.map (·.item) ++ pick publication st.fromServer

section
variable {α : Type} {kind : ControlMessage → Option α} {st st' : ControlPlane} {a : Action}
  {fromSlice : Bytes → Except String ServerAddrsMsg} {overlayV4 : Option Ipv4Net} {overlayV6 : Option Ipv6Net}

@[simp] theorem pick_nil : pick kind [] = [] := rfl

@[simp] theorem pick_append (l l' : List (Stamped ControlMessage)) :
    pick kind (l ++ l') = pick kind l ++ pick kind l' := List.filterMap_append

theorem pick_restamp (l : List (Stamped ControlMessage)) (now : Nat) :
    pick kind (l.map ({ · with since := now })) = pick kind l := by
  rw [pick, List.filterMap_map]
  rfl

theorem pick_cons_some (kind : ControlMessage → Option α) {m : Stamped ControlMessage} {x : α} (h : kind m.item = some x)
    (l : List (Stamped ControlMessage)) : pick kind (m :: l) = x :: pick kind l := List.filterMap_cons_some h

theorem pick_cons_none (kind : ControlMessage → Option α) {m : Stamped ControlMessage} (h : kind m.item = none)
    (l : List (Stamped ControlMessage)) : pick kind (m :: l) = pick kind l := List.filterMap_cons_none h

/-- Taking a batch and writing it move frames along the queue. -/
theorem pick_recvBatch (l : List (Stamped ControlMessage)) (n now : Nat) :
    pick kind ((l.take n).map ({ · with since := now })) ++ pick kind (l.drop n) = pick kind l := by
  rw [pick_restamp, ← pick_append, List.take_append_drop]

/-- A bounded channel passes an element on or drops it. -/
theorem items_trySend {β : Type} (n : Nat) (l : List (Stamped β)) (x : Stamped β) :
    (trySend n l x).map (·.item) = l.map (·.item) ++ [x.item] ∨ (trySend n l x).map (·.item) = l.map (·.item) := by
  unfold trySend
  split
  · exact .inl List.map_append
  · exact .inr rfl

/-- Dropping one element from the middle. -/
theorem sublist_of_drop {β : Type} {xs ys zs : List β} {x : β} (h : (xs ++ x :: ys).Sublist zs) :
    (xs ++ ys).Sublist zs :=
  ((List.Sublist.refl xs).append (List.sublist_cons_self x ys)).trans h

end

/-- The decoder reads back these addresses. -/
def Decodes (fromSlice : Bytes → Except String ServerAddrsMsg) (addrs : List IpAddr) : Prop :=
  fromSlice (ServerAddrsMsg.mk addrs).toVec = .ok ⟨addrs⟩

/-- It reads back what a step publishes. -/
def DecodesPublished (fromSlice : Bytes → Except String ServerAddrsMsg) (overlayV4 : Option Ipv4Net)
    (overlayV6 : Option Ipv6Net) (a : Action) : Prop :=
  ∀ endpointAddrs, a = .publish endpointAddrs →
    Decodes fromSlice (serverCandidateAddrs endpointAddrs overlayV4 overlayV6)

/-- What has been taken and what can still be is part of what was sent, in order. -/
structure InOrder (fromSlice : Bytes → Except String ServerAddrsMsg) (st : ControlPlane) : Prop where
  decodes : ∀ addrs ∈ st.published, Decodes fromSlice addrs
  writing : ∀ hb frame, st.client = .running hb → hb.writing = some frame → frame.item = .ping hb.seq
  pongs : (st.heard ++ st.answersDue).Sublist st.pinged
  addrs : (st.learned ++ st.addrsDue).Sublist st.published

section
variable {st st' : ControlPlane} {a : Action} {fromSlice : Bytes → Except String ServerAddrsMsg}
  {overlayV4 : Option Ipv4Net} {overlayV6 : Option Ipv6Net}

theorem InOrder.move (h : InOrder fromSlice st) (hjson : DecodesPublished fromSlice overlayV4 overlayV6 a)
    (hmove : Moves fromSlice overlayV4 overlayV6 st a st') : InOrder fromSlice st' := by
  have hpongs := h.pongs
  have haddrs := h.addrs
  cases hmove with
  | wait ms => exact { h with }
  | startClient hc => exact { h with writing := by rintro hb frame hc hw; cases hc; cases hw }
  | tick hb hc hw hdue =>
    refine { h with writing := ?_ }
    rintro hb' frame hc' hw'
    obtain rfl := Task.running.inj hc'
    obtain rfl := Option.some.inj hw'
    rfl
  | written hb frame hc hw =>
    have hping := h.writing hb frame hc hw
    refine { h with writing := ?_, pongs := ?_ }
    · rintro hb' frame' hc' hw'
      obtain rfl := Task.running.inj hc'
      cases hw'
    · have hup : pick pingSeq (st.up ++ [{ frame with since := st.now }]) = pick pingSeq st.up ++ [hb.seq] := by
        rw [pick_append, pick_cons_some pingSeq (x := hb.seq) (by rw [hping]; rfl), pick_nil]
      simp only [answersDue, hup, fromServer] at hpongs ⊢
      simpa only [List.append_assoc] using hpongs.append_right [hb.seq]
  | writeFailed error => exact { h with writing := by simp }
  | recvPong hb pong rest hc hw hp =>
    refine { h with writing := ?_, pongs := ?_ }
    · rintro hb' frame' hc' hw'
      obtain rfl := Task.running.inj hc'
      exact absurd hw' (by simp [hw])
    · simp only [answersDue, hp, List.map_cons, fromServer] at hpongs ⊢
      simpa only [List.append_assoc, List.cons_append, List.nil_append] using hpongs
  | clientTimeout hb hc hw hdead => exact { h with writing := by simp }
  | readPong hb frame rest seq hc hd hm =>
    simp only [answersDue, addrsDue, fromServer, hd, pick_append, List.cons_append,
      pick_cons_some pongSeq (x := seq) (by rw [hm]; rfl),
      pick_cons_none publication (m := frame) (by rw [hm]; rfl)] at hpongs haddrs
    refine { h with pongs := ?_, addrs := ?_ }
    · simp only [answersDue, fromServer, pick_append]
      rcases items_trySend pongChannelSize st.pongs ⟨seq, st.now, frame.origin⟩ with hsent | hdrop
      · rw [hsent]
        simpa only [List.append_assoc, List.cons_append, List.nil_append] using hpongs
      · rw [hdrop, ← List.append_assoc]
        exact sublist_of_drop (by simpa only [List.append_assoc, List.cons_append] using hpongs)
    · simpa only [addrsDue, fromServer, pick_append] using haddrs
  | readPing hb frame rest seq hc hd hm =>
    simp only [answersDue, addrsDue, fromServer, hd, pick_append, List.cons_append,
      pick_cons_none pongSeq (m := frame) (by rw [hm]; rfl),
      pick_cons_none publication (m := frame) (by rw [hm]; rfl)] at hpongs haddrs
    exact { h with
      pongs := by simpa only [answersDue, fromServer, pick_append] using hpongs
      addrs := by simpa only [addrsDue, fromServer, pick_append] using haddrs }
  | readAddrs hb frame rest msg addrs hc hd hm hwhich =>
    simp only [answersDue, addrsDue, fromServer, hd, pick_append, List.cons_append,
      pick_cons_none pongSeq (m := frame) (by rw [hm]; rfl),
      pick_cons_some publication (x := msg.addrs) (by rw [hm]; rfl)] at hpongs haddrs
    refine { h with pongs := by simpa only [answersDue, fromServer, pick_append] using hpongs, addrs := ?_ }
    simp only [addrsDue, fromServer, pick_append]
    rcases hwhich with ⟨rfl, -⟩ | ⟨msg', hdec, rfl⟩
    · rw [← List.append_assoc]
      exact sublist_of_drop (by simpa only [List.append_assoc] using haddrs)
    · have hread := h.decodes msg.addrs (haddrs.subset (by simp))
      obtain rfl := Except.ok.inj (hread.symm.trans hdec)
      rcases items_trySend serverAddrChannelSize st.addrs ⟨msg.addrs, st.now, frame.origin⟩ with hsent | hdrop
      · rw [hsent]
        simpa only [List.append_assoc, List.cons_append, List.nil_append] using haddrs
      · rw [hdrop, ← List.append_assoc]
        exact sublist_of_drop (by simpa only [List.append_assoc] using haddrs)
  | recvAddrs addrs rest ha =>
    refine { h with addrs := ?_ }
    simp only [addrsDue, ha, List.map_cons, fromServer] at haddrs ⊢
    simpa only [List.append_assoc, List.cons_append, List.nil_append] using haddrs
  | clientEnds reason => exact { h with writing := by simp }
  | startServer hs => exact { h with }
  | answer r frame rest seq hs hu hm hroom =>
    simp only [answersDue, addrsDue, fromServer, hu, pick_append,
      pick_cons_some pingSeq (x := seq) (by rw [hm]; rfl)] at hpongs haddrs
    have hpong : pick pongSeq [⟨.pong seq, st.now, frame.origin⟩] = [seq] := rfl
    have hnone : pick publication [⟨.pong seq, st.now, frame.origin⟩] = [] := rfl
    refine { h with pongs := ?_, addrs := ?_ }
    · simp only [answersDue, fromServer, pick_append, hpong]
      simpa only [List.append_assoc, List.cons_append, List.nil_append] using hpongs
    · simp only [addrsDue, fromServer, pick_append, hnone, List.append_nil]
      exact haddrs
  | miss r frame rest seq hs hu hm hfull =>
    simp only [answersDue, fromServer, hu, pick_append,
      pick_cons_some pingSeq (x := seq) (by rw [hm]; rfl)] at hpongs
    refine { h with pongs := ?_ }
    simp only [answersDue, fromServer, pick_append]
    rw [← List.append_assoc, ← List.append_assoc]
    exact sublist_of_drop (by simpa only [List.append_assoc] using hpongs)
  | skip r frame rest hs hu hm =>
    have hnone : pingSeq frame.item = none := by
      cases hi : frame.item with
      | ping seq => exact absurd hi (hm seq)
      | pong seq => rfl
      | serverAddrs msg => rfl
    simp only [answersDue, fromServer, hu, pick_append, pick_cons_none pingSeq hnone] at hpongs
    exact { h with pongs := by simpa only [answersDue, fromServer, pick_append] using hpongs }
  | serverTimeout r hs hdead => exact { h with }
  | publish endpointAddrs addrs hcand hroom =>
    have hnone : pick pongSeq [⟨.serverAddrs ⟨addrs⟩, st.now, st.now⟩] = [] := rfl
    have hsome : pick publication [⟨.serverAddrs ⟨addrs⟩, st.now, st.now⟩] = [addrs] := rfl
    refine { h with decodes := fun addrs' hmem => ?_, pongs := ?_, addrs := ?_ }
    · rcases List.mem_append.1 hmem with hmem | hmem
      · exact h.decodes addrs' hmem
      · rw [List.mem_singleton.1 hmem, hcand]
        exact hjson endpointAddrs rfl
    · simp only [answersDue, fromServer, pick_append, hnone, List.append_nil] at hpongs ⊢
      exact hpongs
    · simp only [addrsDue, fromServer, pick_append, hsome] at haddrs ⊢
      simpa only [List.append_assoc] using haddrs.append_right [addrs]
  | unpublished endpointAddrs => exact h
  | recvBatch r hs hnil =>
    refine { h with pongs := ?_, addrs := ?_ }
    · simp only [answersDue, fromServer, pick_append, hnil, List.nil_append, pick_recvBatch] at hpongs ⊢
      exact hpongs
    · simp only [addrsDue, fromServer, pick_append, hnil, List.nil_append, pick_recvBatch] at haddrs ⊢
      exact haddrs
  | writeBatch r hs =>
    refine { h with pongs := ?_, addrs := ?_ }
    · simp only [answersDue, fromServer, pick_append, pick_restamp, List.nil_append,
        List.append_assoc] at hpongs ⊢
      exact hpongs
    · simp only [addrsDue, fromServer, pick_append, pick_restamp, List.nil_append,
        List.append_assoc] at haddrs ⊢
      exact haddrs
  | serverEnds reason => exact { h with }

theorem inOrder_init (fromSlice : Bytes → Except String ServerAddrsMsg) (managed : Bool) :
    InOrder fromSlice (init managed) where
  decodes := by simp [init]
  writing := by simp [init]
  pongs := by simp [init, answersDue, fromServer]
  addrs := by simp [init, addrsDue, fromServer]

theorem inOrder_run (managed : Bool) {actions : List Action}
    (hjson : ∀ a ∈ actions, DecodesPublished fromSlice overlayV4 overlayV6 a) :
    InOrder fromSlice (run (step fromSlice overlayV4 overlayV6) (init managed) actions) :=
  inv_run (fun _ _ h hg => step_induction h fun _ hmove => h.move hg hmove) actions _ (inOrder_init fromSlice managed)
    (guarded_of_forall hjson)

/-! ## Nothing is lost on a channel with room -/

/-- The publications that were queued are all taken or still due. -/
def AllDue (st : ControlPlane) : Prop :=
  st.managed = true ∧ (st.learned ++ st.addrsDue).length = st.published.length

theorem AllDue.move (h : AllDue st) (hin : InOrder fromSlice st)
    (hroom : a = .clientRead → st.addrs.length < serverAddrChannelSize)
    (hmove : Moves fromSlice overlayV4 overlayV6 st a st') : AllDue st' := by
  obtain ⟨hmanaged, hlen⟩ := h
  have hsub := hin.addrs
  refine ⟨by cases hmove <;> exact hmanaged, ?_⟩
  cases hmove with
  | readPong hb frame rest seq hc hd hm =>
    simpa [addrsDue, fromServer, hd, pick_cons_none publication (m := frame) (by rw [hm]; rfl)] using hlen
  | readPing hb frame rest seq hc hd hm =>
    simpa [addrsDue, fromServer, hd, pick_cons_none publication (m := frame) (by rw [hm]; rfl)] using hlen
  | readAddrs hb frame rest msg addrs hc hd hm hwhich =>
    simp only [addrsDue, fromServer, hd, List.cons_append,
      pick_cons_some publication (x := msg.addrs) (by rw [hm]; rfl)] at hlen hsub
    have hread := hin.decodes msg.addrs (hsub.subset (by simp))
    rcases hwhich with ⟨-, hnot | ⟨e, herr⟩⟩ | ⟨msg', hdec, rfl⟩
    · rw [hmanaged] at hnot
      cases hnot
    · rw [show fromSlice msg.toVec = _ from hread] at herr
      cases herr
    · rw [trySend, if_pos (hroom rfl)]
      simp only [addrsDue, fromServer, List.map_append, List.map_cons, List.length_append, List.length_cons,
        List.length_map, List.map_nil, List.length_nil] at hlen ⊢
      omega
  | recvAddrs addrs rest ha =>
    simp only [addrsDue, fromServer, ha, List.map_cons, List.length_append, List.length_cons, List.length_map,
      List.length_nil] at hlen ⊢
    omega
  | answer r frame rest seq hs hu hm hroom =>
    have hnone : pick publication [⟨.pong seq, st.now, frame.origin⟩] = [] := rfl
    simpa [addrsDue, fromServer, hnone] using hlen
  | publish endpointAddrs addrs hcand hroom =>
    have hsome : pick publication [⟨.serverAddrs ⟨addrs⟩, st.now, st.now⟩] = [addrs] := rfl
    simp only [addrsDue, fromServer, pick_append, hsome, List.length_append, List.length_cons, List.length_map,
      List.length_nil] at hlen ⊢
    omega
  | recvBatch r hs hnil =>
    simp only [addrsDue, fromServer, pick_append, hnil, List.nil_append, pick_recvBatch] at hlen ⊢
    exact hlen
  | writeBatch r hs =>
    simp only [addrsDue, fromServer, pick_append, pick_restamp, List.nil_append, List.append_assoc] at hlen ⊢
    exact hlen
  | _ => exact hlen

end

section
variable (fromSlice : Bytes → Except String ServerAddrsMsg) (overlayV4 : Option Ipv4Net)
  (overlayV6 : Option Ipv6Net) (managed : Bool) (actions : List Action)

/-- **In order.**  In every run of a session, if the decoder reads back what is published: the
pongs the heartbeat has taken answer pings that were sent, in their order and each at most once,
and the sets the bypass manager has taken are sets that were queued, likewise.  If there is a
manager and its channel has room whenever a frame is read, no set that was queued is lost: each
has been taken or is still due. -/
theorem controlStream_inOrder
    (hjson : ∀ a ∈ actions, DecodesPublished fromSlice overlayV4 overlayV6 a) :
    let st := run (step fromSlice overlayV4 overlayV6) (init managed) actions
    st.heard.Sublist st.pinged ∧ st.learned.Sublist st.published ∧
      (managed = true → Guarded (step fromSlice overlayV4 overlayV6)
        (fun st a => a = .clientRead → st.addrs.length < serverAddrChannelSize) (init managed) actions →
        st.published = st.learned ++ st.addrsDue) := by
  have h := inOrder_run managed hjson
  refine ⟨(List.sublist_append_left _ _).trans h.pongs, (List.sublist_append_left _ _).trans h.addrs,
    fun hmanaged hroom => ?_⟩
  have hall := (inv_run (I := fun st => InOrder fromSlice st ∧ AllDue st)
    (fun _ _ h hg => step_induction (P := fun st => InOrder fromSlice st ∧ AllDue st) h fun _ hmove =>
      ⟨h.1.move hg.1 hmove, h.2.move h.1 hg.2 hmove⟩) actions _
    ⟨inOrder_init fromSlice managed, hmanaged, by simp [init, addrsDue, fromServer]⟩
    (guarded_and (guarded_of_forall hjson) hroom)).2
  exact (h.addrs.eq_of_length hall.2).symm

end

/-- The server publishes its address 192.0.2.1 twice, and the client has taken the first. -/
def onePublication : List Action :=
  [.startServer, .startClient, .publish oneAddress.addrs, .recvBatch, .writeBatch, .clientRead, .recvAddrs,
    .publish oneAddress.addrs, .tick, .written, .serverRead]

theorem decodes_onePublication :
    ∀ a ∈ onePublication, DecodesPublished oneAddressFromSlice none none a := by
  have hone : Decodes oneAddressFromSlice (serverCandidateAddrs oneAddress.addrs none none) := by
    have hcand : serverCandidateAddrs oneAddress.addrs none none = oneAddress.addrs := by decide +kernel
    rw [hcand]
    exact if_pos rfl
  rintro a hmem endpointAddrs rfl
  simp only [onePublication, List.mem_cons, List.not_mem_nil, or_false, reduceCtorEq, false_or,
    Action.publish.injEq] at hmem
  obtain rfl : endpointAddrs = oneAddress.addrs := by tauto
  exact hone

theorem controlStream_inOrder_onePublication :
    let st := run (step oneAddressFromSlice none none) (init true) onePublication
    st.heard.Sublist st.pinged ∧ st.learned.Sublist st.published ∧ st.published = st.learned ++ st.addrsDue := by
  obtain ⟨hheard, hlearned, hall⟩ :=
    controlStream_inOrder oneAddressFromSlice none none true onePublication decodes_onePublication
  exact ⟨hheard, hlearned, hall rfl (by decide +kernel)⟩

section
variable (fromSlice : Bytes → Except String ServerAddrsMsg) (overlayV4 : Option Ipv4Net)
  (overlayV6 : Option Ipv6Net) (managed : Bool) (actions : List Action)

/-! ## Bypass routes -/

/-- What is queued for the client is the candidate addresses of an endpoint at some moment. -/
theorem published_candidates {addrs : List IpAddr}
    (h : addrs ∈ (run (step fromSlice overlayV4 overlayV6) (init managed) actions).published) :
    ∃ endpointAddrs, .publish endpointAddrs ∈ actions ∧
      addrs = serverCandidateAddrs endpointAddrs overlayV4 overlayV6 := by
  refine inv_history (s := init managed)
    (I := fun actions st => ∀ addrs ∈ st.published, ∃ endpointAddrs, .publish endpointAddrs ∈ actions ∧
      addrs = serverCandidateAddrs endpointAddrs overlayV4 overlayV6) (by simp [init]) ?_ actions addrs h
  intro actions a hinv
  have hmore : ∀ addrs ∈ (run (step fromSlice overlayV4 overlayV6) (init managed) actions).published,
      ∃ endpointAddrs, .publish endpointAddrs ∈ actions ++ [a] ∧
        addrs = serverCandidateAddrs endpointAddrs overlayV4 overlayV6 := by
    intro addrs hmem
    obtain ⟨endpointAddrs, hact, heq⟩ := hinv addrs hmem
    exact ⟨endpointAddrs, List.mem_append_left _ hact, heq⟩
  refine step_induction (P := fun st => ∀ addrs ∈ st.published, ∃ endpointAddrs,
    .publish endpointAddrs ∈ actions ++ [a] ∧ addrs = serverCandidateAddrs endpointAddrs overlayV4 overlayV6)
    hmore fun st' hmove => ?_
  cases hmove with
  | publish endpointAddrs addrs hcand hroom =>
    intro addrs' hmem
    rcases List.mem_append.1 hmem with hmem | hmem
    · exact hmore addrs' hmem
    · exact ⟨endpointAddrs, by simp, (List.mem_singleton.1 hmem).trans hcand⟩
  | _ => exact hmore

/-- **Bypassed addresses are not the VPN's.**  Let the client's bypass manager apply the sets it
has taken from the control stream, whatever the system answers, after a handshake whose response
carried the server's candidate addresses.  Every address it bypasses is a relay's, or an address
of the server's endpoint at some moment that `is_routable_underlay` lets through, which is not of a
private scope, and which is outside the networks the server assigns from. -/
theorem bypassed_outside_overlay (platform : Platform) (config : VpnClientConfig) (info : ServerInfo)
    (underlay : Underlay) (updates : List AddressUpdate) (initialAddrs : List IpAddr)
    (hjson : ∀ a ∈ actions, DecodesPublished fromSlice overlayV4 overlayV6 a)
    (hinfo : info.serverAddrs = serverCandidateAddrs initialAddrs overlayV4 overlayV6)
    (hupdates : List.Forall₂ (fun (u : AddressUpdate) addrs => ∀ ip, ip ∈ u.requiredIps ↔ ip ∈ addrs) updates
      (run (step fromSlice overlayV4 overlayV6) (init managed) actions).learned) :
    ∀ ip ∈ (bypassSession platform config info underlay updates).collected,
      ip ∈ underlay.relayIps ∨
        (ipInOverlay ip overlayV4 overlayV6 = false ∧ isRoutableUnderlay ip = true ∧ privateScope ip = false ∧
          (ip ∈ initialAddrs ∨ ∃ endpointAddrs, .publish endpointAddrs ∈ actions ∧ ip ∈ endpointAddrs)) := by
  intro ip hip
  obtain ⟨hcand, hscope, -⟩ := (mem_bypassSession platform config info underlay updates ip).1 hip
  rcases hcand with hrelay | hserver | ⟨u, hu, hmem⟩
  · exact .inl hrelay
  · rw [hinfo, mem_serverCandidateAddrs] at hserver
    exact .inr ⟨hserver.2.1, hserver.2.2, hscope, .inl hserver.1⟩
  · -- the set it came in was learned, hence queued
    obtain ⟨addrs, hlearned, hiff⟩ : ∃ addrs ∈
        (run (step fromSlice overlayV4 overlayV6) (init managed) actions).learned,
        ∀ ip, ip ∈ u.requiredIps ↔ ip ∈ addrs := by
      obtain ⟨i, hi, rfl⟩ := List.getElem_of_mem hu
      have hlen := hupdates.length_eq
      exact ⟨_, List.getElem_mem (hlen ▸ hi), (List.forall₂_iff_get.1 hupdates).2 i hi (hlen ▸ hi)⟩
    have hsub := (List.sublist_append_left _ _).trans (inOrder_run managed hjson).addrs
    obtain ⟨endpointAddrs, hact, rfl⟩ :=
      published_candidates fromSlice overlayV4 overlayV6 managed actions (hsub.subset hlearned)
    obtain ⟨hmem', hover, hroute⟩ := mem_serverCandidateAddrs.1 ((hiff ip).1 hmem)
    exact .inr ⟨hover, hroute, hscope, .inr ⟨endpointAddrs, hact, hmem'⟩⟩

end

/-- A client that routes 192.0.0.0/10 into the tunnel. -/
def routes192 : VpnClientConfig := ⟨[⟨0xC0000000#32, 10, by decide⟩], []⟩

def silentServer : ServerInfo := { roaming.info with serverAddrs := [] }

def learnedOne : AddressUpdate := ⟨oneAddress.addrs, by decide +kernel, dualStackUnderlay.os⟩

theorem bypassed_outside_overlay_onePublication :
    (bypassSession .linux routes192 silentServer dualStackUnderlay [learnedOne]).collected =
      {.v4 0xC0000201#32} ∧
    ∀ ip ∈ (bypassSession .linux routes192 silentServer dualStackUnderlay [learnedOne]).collected,
      ip ∈ dualStackUnderlay.relayIps ∨
        (ipInOverlay ip none none = false ∧ isRoutableUnderlay ip = true ∧ privateScope ip = false ∧
          (ip ∈ [] ∨ ∃ endpointAddrs, .publish endpointAddrs ∈ onePublication ∧ ip ∈ endpointAddrs)) := by
  have hlearned : (run (step oneAddressFromSlice none none) (init true) onePublication).learned =
      [oneAddress.addrs] := by decide +kernel
  refine ⟨by decide +kernel, bypassed_outside_overlay oneAddressFromSlice none none true onePublication .linux
    routes192 silentServer dualStackUnderlay [learnedOne] [] decodes_onePublication (by decide +kernel) ?_⟩
  rw [hlearned]
  exact .cons (fun ip => Iff.rfl) .nil

end ControlPlane

end EzVpn
