import EzVpn.Offload.Addresses
import EzVpn.Session.DataPath

/-!
# What is delivered

Results about every run of the data path.  Towards the clients (`delivered_to_owner`): what a
client's TUN gets are packets of the frames the server read for its connection, none of them
more often than it was read, and each is addressed to an address that the pools handed out to
this very client, which has authenticated.  Towards the server (`forwarded_from_client`): what
the server's TUN gets from a connection are packets its client read and handed over, none more
often than that, and each of them passed the filter of the inbound loop.

Both rest on counting.  Along a run, what has arrived and what is under way never exceeds what
was read (`Carried`).
-/

namespace EzVpn

open Lib Bytes

variable {EndpointId PublicKey : Type} [DecidableEq EndpointId] [DecidableEq PublicKey]

/-! ## Towards the clients -/

section
variable (device : TunReader) (ports : List UInt16) (c : ConnId)

/-- The plain packets of a frame that is for connection `c`. -/
def TunRead.packetsFor (r : TunRead EndpointId) : List Bytes :=
  match device.splitFrame r.frame with
  | .error _ => []
  | .ok (offload, packet) =>
    if packetHasLocalIrohUdpPort packet ports then []
    else
      match extractDestIp packet with
      | none => []
      | some destIp =>
        match (r.routes.owner destIp).bind r.clients.lookup with
        | none => []
        | some client => if client.connection = c then plainPackets offload packet else []

variable {device ports c}

theorem packetsFor_of_routed {r : TunRead EndpointId} {offload : Option VirtioNetHdr} {packet : Bytes}
    {client : ClientState} (h : Routed device ports r offload packet client) :
    r.packetsFor device ports c = if client.connection = c then plainPackets offload packet else [] := by
  obtain ⟨destIp, clientKey, hdest, howner, hclient⟩ := h.route
  unfold TunRead.packetsFor
  rw [h.split]
  dsimp only
  rw [h.notSelf, hdest]
  dsimp only
  rw [howner, Option.bind_some, hclient]
  rfl

/-- A frame with packets for `c` was routed to it. -/
theorem routed_of_mem_packetsFor {r : TunRead EndpointId} {d : Bytes} (h : d ∈ r.packetsFor device ports c) :
    ∃ offload packet client, Routed device ports r offload packet client ∧ client.connection = c ∧
      d ∈ plainPackets offload packet := by
  unfold TunRead.packetsFor at h
  cases hsplit : device.splitFrame r.frame with
  | error e => rw [hsplit] at h; cases h
  | ok parts =>
    obtain ⟨offload, packet⟩ := parts
    rw [hsplit] at h
    dsimp only at h
    split at h
    · cases h
    · next hself =>
      cases hdest : extractDestIp packet with
      | none => rw [hdest] at h; cases h
      | some destIp =>
        rw [hdest] at h
        dsimp only at h
        split at h
        · cases h
        · next client hclient =>
          obtain ⟨clientKey, howner, hlookup⟩ := Option.bind_eq_some_iff.1 hclient
          split at h
          · next hc =>
            exact ⟨offload, packet, client, ⟨hsplit, Bool.eq_false_iff.2 hself, destIp, clientKey, hdest,
              howner, hlookup⟩, hc, h⟩
          · cases h

theorem attempts_datagrams (conn : ConnId) (queue : Nat → QueueView) (pending : List Bytes) : ∀ n,
    ((attempts conn queue n pending).map Push.datagram).Sublist pending := by
  induction pending with
  | nil => exact fun n => List.Sublist.refl _
  | cons datagram rest ih =>
    intro n
    unfold attempts
    rw [List.map_cons]
    refine List.Sublist.cons_cons datagram ?_
    split
    · exact List.nil_sublist _
    · exact ih (n + 1)

variable (device ports c) in
/-- **One frame** puts its own packets into one queue, each at most once. -/
theorem pushedTo_framePushes (r : TunRead EndpointId) :
    (pushedTo c (framePushes device ports r)).Sublist (r.packetsFor device ports c) := by
  unfold framePushes
  rcases handleFrame_cases device ports r with hdrop | ⟨offload, packet, client, hrouted, hqueue⟩
  · obtain ⟨stats, hinit⟩ := hdrop {}
    rw [hinit]
    exact List.nil_sublist _
  · obtain ⟨stats, hinit⟩ := hqueue {}
    rw [hinit, (queueClientDatagrams_pushes ⟨rfl, fun _ => rfl⟩ _ _ _ _ _).2, List.nil_append,
      packetsFor_of_routed hrouted]
    unfold pushedTo
    split
    · have hsub := attempts_datagrams client.connection r.queue (datagrams r.maxDatagramSize offload packet) 0
      exact (List.filter_sublist.map _).trans (hsub.trans List.filter_sublist)
    · next hne =>
      have hnone : (attempts client.connection r.queue 0 (datagrams r.maxDatagramSize offload packet)).filter
          (fun p => decide (p.queue = c) && p.result.isOk) = [] := by
        refine List.filter_eq_nil_iff.2 fun p hp => ?_
        simp [(mem_attempts hp).1, hne]
      rw [hnone]
      exact List.nil_sublist _

end

/-! ## Counting -/

/-- The requests that came over connection `c`. -/
def fromConn (c : ConnId) (reqs : List TunWriteRequest) : List TunWriteRequest :=
  reqs.filter fun req => req.seq = c

theorem fromConn_append (c : ConnId) (a b : List TunWriteRequest) :
    fromConn c (a ++ b) = fromConn c a ++ fromConn c b := List.filter_append a b

theorem fromConn_requests (c c' : ConnId) (device : Option String) (packets : List Bytes) :
    fromConn c (requests c' device packets) = if c' = c then requests c' device packets else [] := by
  have hseq : ∀ req ∈ requests c' device packets, req.seq = c' := by
    intro req hreq
    obtain ⟨packet, -, rfl⟩ := List.mem_map.1 hreq
    rfl
  unfold fromConn
  split
  · next h => exact List.filter_eq_self.2 fun req hreq => decide_eq_true ((hseq req hreq).trans h)
  · next h =>
    refine List.filter_eq_nil_iff.2 fun req hreq heq => h ?_
    exact (hseq req hreq).symm.trans (of_decide_eq_true heq)

theorem carrying_requests (d : Bytes) (c : ConnId) (device : Option String) (packets : List Bytes) :
    carrying d (requests c device packets) = packets.count d := by
  unfold carrying requests
  rw [List.map_map]
  exact congrArg _ (List.map_id _)

section
variable (S : DataSetup EndpointId PublicKey)

structure Carried (st : DataPath EndpointId PublicKey) : Prop where
  drained : st.reader.Drained
  down : ∀ c d, (st.links c).down d ≤ (st.frames.flatMap (TunRead.packetsFor S.device S.ports c)).count d
  up : ∀ c d, carrying d (fromConn c st.writer.device.packets) + carrying d (fromConn c st.channel) +
    (st.links c).toServer.count d ≤ (st.links c).client.outbound.batches.flatten.count d

variable {S} {st : DataPath EndpointId PublicKey}

omit [DecidableEq PublicKey] in
theorem carried_new (s : VpnServer EndpointId PublicKey) : Carried S (DataPath.new s) :=
  ⟨drained_init, fun _ _ => Nat.le_refl _, fun _ _ => Nat.le_refl _⟩

omit [DecidableEq PublicKey] in
/-- A step that changes one connection, and neither the frames nor what the server writes. -/
theorem Carried.update (h : Carried S st) (c : ConnId) (l : DataLink EndpointId)
    (hdown : ∀ d, l.down d ≤ (st.links c).down d)
    (hup : ∀ d, l.toServer.count d + (st.links c).client.outbound.batches.flatten.count d ≤
      (st.links c).toServer.count d + l.client.outbound.batches.flatten.count d) :
    Carried S { st with links := Function.update st.links c l } := by
  refine ⟨h.drained, fun c' d => ?_, fun c' d => ?_⟩
  · have hold := h.down c' d
    dsimp only
    rw [Function.update_apply]
    split
    · next heq =>
      subst heq
      exact (hdown d).trans hold
    · exact hold
  · have hold := h.up c' d
    dsimp only
    rw [Function.update_apply]
    split
    · next heq =>
      subst heq
      have := hup d
      omega
    · exact hold

omit [DecidableEq PublicKey] in
theorem Carried.handle (h : Carried S st) (r : TunRead EndpointId) : Carried S (st.handle S r) := by
  obtain ⟨hdrained, hpushes⟩ := handleFrame_pushes S.device S.ports h.drained r
  refine ⟨hdrained, fun c d => ?_, h.up⟩
  have hold := h.down c d
  have hnew := (pushedTo_framePushes S.device S.ports c r).count_le d
  simp only [DataPath.handle, hpushes, List.drop_left, DataLink.down, List.count_append, List.flatMap_append,
    List.flatMap_singleton] at hold ⊢
  omega

omit [DecidableEq PublicKey] in
theorem Carried.forward (h : Carried S st) {c : ConnId} {i : Nat} {packet : Bytes}
    (hpacket : (st.links c).toServer[i]? = some packet) (a : Arrival EndpointId) (ha : a.packet = packet)
    (device : Option String) : Carried S (st.forward S c i a device) := by
  obtain ⟨-, hwrites⟩ := inboundPacket_eq S.ports ((S.peers c).key S.x) (st.links c).inbound.2 a
  -- at most this datagram is handed to the writer
  have hone : (written S.ports ((S.peers c).key S.x) [a]).Sublist [packet] := by
    rw [← ha]
    exact (List.filter_sublist.trans (List.takeWhile_sublist _)).map Arrival.packet
  refine ⟨h.drained, fun c' d => ?_, fun c' d => ?_⟩
  · have hold := h.down c' d
    simp only [DataPath.forward, Function.update_apply]
    split
    · next heq => exact heq ▸ hold
    · exact hold
  · have hold := h.up c' d
    simp only [DataPath.forward, hwrites, List.drop_left, Function.update_apply]
    rw [fromConn_append, carrying_append, fromConn_requests]
    by_cases hc : c' = c
    · subst hc
      have htaken := count_eraseIdx_add d hpacket
      have hle := hone.count_le d
      rw [if_pos rfl, if_pos rfl, carrying_requests]
      dsimp only
      omega
    · rw [if_neg hc, if_neg (Ne.symm hc)]
      exact hold

theorem Carried.write (h : Carried S st) (limit : Nat) : Carried S (st.step S (.write limit)) := by
  obtain ⟨done, hpackets, hsub⟩ := writerTask_packets countFailure S.tun st.writer (st.channel.take limit)
  refine ⟨h.drained, h.down, fun c d => ?_⟩
  have hold := h.up c d
  have hle := carrying_le d (hsub.filter fun req => decide (req.seq = c))
  have hsplit : carrying d (fromConn c (st.channel.take limit)) + carrying d (fromConn c (st.channel.drop limit)) =
      carrying d (fromConn c st.channel) := by
    rw [← carrying_append, ← fromConn_append, List.take_append_drop]
  simp only [DataPath.step, serverWriter, hpackets, fromConn_append, carrying_append]
  unfold fromConn at hold hsplit ⊢
  omega

/-- **One step.** -/
theorem Carried.step (st : DataPath EndpointId PublicKey) (a : DataAction) (h : Carried S st) :
    Carried S (st.step S a) := by
  cases a with
  | session a => exact ⟨h.drained, h.down, h.up⟩
  | look => exact ⟨h.drained, h.down, h.up⟩
  | frame frame maxSize queue => exact h.handle _
  | link c a => exact h.update c _ (fun d => DataLink.step_down d _ _ _ _) fun d => DataLink.step_up d _ _ _ _
  | lookSource c => exact h.update c _ (fun d => Nat.le_refl _) fun d => Nat.le_refl _
  | forward c i enqueue device =>
    rcases st.step_forward S c i enqueue device with hst | ⟨packet, hpacket, -, hst⟩
    · rw [hst]
      exact h
    · rw [hst]
      exact h.forward hpacket _ rfl device
  | write limit => exact h.write limit

theorem carried_dataPath (s : VpnServer EndpointId PublicKey) (as : List DataAction) :
    Carried S (run (DataPath.step S) (DataPath.new s) as) :=
  inv_run_all Carried.step as _ (carried_new s)

/-! ## Whose packets -/

variable (S) in
/-- What a lookup in `routes` or `clients` gives is right. -/
structure Owners (s : VpnServer EndpointId PublicKey) (config : VpnServerConfig PublicKey)
    (as : List DataAction) (routes : Routes EndpointId) (clients : Map (ClientKey EndpointId) ClientState) :
    Prop where
  routes : ∀ ip k, routes.owner ip = some k → HandedOut S.x S.peers s (as.filterMap DataAction.session?) ip k
  clients : ∀ k client, clients.lookup k = some client →
    (S.peers client.connection).authenticates S.x config = true ∧ (S.peers client.connection).key S.x = k

theorem Owners.append {s : VpnServer EndpointId PublicKey} {config : VpnServerConfig PublicKey}
    {as : List DataAction} {routes : Routes EndpointId} {clients : Map (ClientKey EndpointId) ClientState}
    (h : Owners S s config as routes clients) (a : DataAction) : Owners S s config (as ++ [a]) routes clients := by
  refine ⟨fun ip k hk => ?_, h.clients⟩
  rw [List.filterMap_append]
  exact (h.routes ip k hk).append _

/-- The maps of a state are right. -/
theorem owners_world {s : VpnServer EndpointId PublicKey} {config : VpnServerConfig PublicKey}
    {serverId : EndpointId} (hnew : VpnServer.new S.x config serverId = .ok s) (as : List DataAction) :
    Owners S s config as (run (DataPath.step S) (DataPath.new s) as).world.server.routes
      (run (DataPath.step S) (DataPath.new s) as).world.server.clients := by
  rw [run_world]
  have hadmission := inv_run_all (admissionInv_step S.x S.peers config) (as.filterMap DataAction.session?) _
    (admissionInv_new S.peers hnew)
  exact ⟨fun ip k hk => (owner_handedOut hnew _ hk).1, hadmission.entry⟩

variable (S) in
/-- What the TUN reader has seen of the maps was right. -/
structure ReaderOwners (s : VpnServer EndpointId PublicKey) (config : VpnServerConfig PublicKey)
    (as : List DataAction) (st : DataPath EndpointId PublicKey) : Prop where
  looked : Owners S s config as st.looked st.world.server.clients
  frames : ∀ r ∈ st.frames, Owners S s config as r.routes r.clients

theorem readerOwners_run {s : VpnServer EndpointId PublicKey} {config : VpnServerConfig PublicKey}
    {serverId : EndpointId} (hnew : VpnServer.new S.x config serverId = .ok s) (as : List DataAction) :
    ReaderOwners S s config as (run (DataPath.step S) (DataPath.new s) as) := by
  refine inv_history (I := ReaderOwners S s config) ?_ (fun as a h => ?_) as
  · exact ⟨owners_world hnew [], List.forall_mem_nil _⟩
  have hnow := owners_world hnew (as ++ [a])
  rw [run_concat] at hnow
  obtain ⟨hlooked, hframes⟩ := h
  generalize run (DataPath.step S) (DataPath.new s) as = st at hnow hlooked hframes ⊢
  have hold : ∀ r ∈ st.frames, Owners S s config (as ++ [a]) r.routes r.clients :=
    fun r hr => (hframes r hr).append a
  -- the maps last seen, with the sessions of now
  have hmixed : Owners S s config (as ++ [a]) st.looked (st.step S a).world.server.clients :=
    ⟨(hlooked.append a).routes, hnow.clients⟩
  cases a with
  | look => exact ⟨hnow, hold⟩
  | frame frame maxSize queue =>
    refine ⟨hmixed, fun r hr => ?_⟩
    rcases List.mem_append.1 hr with hr | hr
    · exact hold r hr
    · obtain rfl := List.mem_singleton.1 hr
      exact hlooked.append _
  | forward c i enqueue device =>
    rcases st.step_forward S c i enqueue device with hst | ⟨packet, -, -, hst⟩
    · rw [hst] at hmixed ⊢
      exact ⟨hmixed, hold⟩
    · rw [hst] at hmixed ⊢
      exact ⟨hmixed, hold⟩
  | session a | link c a | lookSource c | write limit => exact ⟨hmixed, hold⟩

/-! ## The results -/

/-- The frames read from the server's TUN. -/
def DataAction.frame? : DataAction → Option Bytes
  | frame bytes _ _ => some bytes
  | _ => none

theorem frames_eq (st : DataPath EndpointId PublicKey) (as : List DataAction) :
    (run (DataPath.step S) st as).frames.map TunRead.frame =
      st.frames.map TunRead.frame ++ as.filterMap DataAction.frame? := by
  induction as generalizing st with
  | nil => exact (List.append_nil _).symm
  | cons a as ih =>
    rw [run_cons, ih, List.filterMap_cons]
    cases a with
    | frame frame maxSize queue =>
      simp only [DataPath.step, DataPath.handle, DataAction.frame?, List.map_append, List.map_singleton,
        List.append_assoc, List.singleton_append]
    | forward c i enqueue device =>
      rcases st.step_forward S c i enqueue device with hst | ⟨packet, -, -, hst⟩
      · rw [hst]; rfl
      · rw [hst]; rfl
    | session a | look | link c a | lookSource c | write limit => rfl

variable (S) in
/-- The header of the frame points behind the IP header, as the kernel's do. -/
def SaneFrame (frame : Bytes) : Prop :=
  ∀ offload packet, S.device.splitFrame frame = .ok (some offload, packet) → BehindIp offload packet

/-- The packets a client's TUN has got. -/
def delivered (st : DataPath EndpointId PublicKey) (c : ConnId) : List Bytes :=
  (st.links c).client.writer.device.packets.map TunWriteRequest.packet

/-- **No packet reaches the wrong client, and none reaches it twice.**  For every order of the
tasks' steps, with sessions that come and go, queues that drop and a network that loses and
reorders: a client's TUN gets packets of the frames that were routed to its connection, each at
most as often as it was read.  Each of them is addressed to an address that the pools handed out
to this client, and the client has authenticated. -/
theorem delivered_to_owner (config : VpnServerConfig PublicKey) (serverId : EndpointId)
    (s : VpnServer EndpointId PublicKey) (hnew : VpnServer.new S.x config serverId = .ok s)
    (as : List DataAction) (hsane : ∀ frame ∈ as.filterMap DataAction.frame?, SaneFrame S frame) (c : ConnId) :
    let st := run (DataPath.step S) (DataPath.new s) as
    st.frames.map TunRead.frame = as.filterMap DataAction.frame? ∧
    (delivered st c).Subperm (st.frames.flatMap (TunRead.packetsFor S.device S.ports c)) ∧
    ∀ packet ∈ delivered st c, (S.peers c).authenticates S.x config = true ∧
      ∃ ip, extractDestIp packet = some ip ∧
        HandedOut S.x S.peers s (as.filterMap DataAction.session?) ip ((S.peers c).key S.x) := by
  intro st
  have hframes : st.frames.map TunRead.frame = as.filterMap DataAction.frame? := frames_eq _ as
  have hsub : (delivered st c).Subperm (st.frames.flatMap (TunRead.packetsFor S.device S.ports c)) := by
    refine List.subperm_ext_iff.2 fun d _ => ?_
    have hdown := (carried_dataPath (S := S) s as).down c d
    calc (delivered st c).count d
        ≤ (st.links c).down d := by
          unfold DataLink.down
          exact Nat.le_add_right_of_le (Nat.le_add_right_of_le (Nat.le_add_right _ _))
      _ ≤ _ := hdown
  refine ⟨hframes, hsub, fun packet hpacket => ?_⟩
  obtain ⟨r, hr, hmem⟩ := List.mem_flatMap.1 (hsub.subset hpacket)
  obtain ⟨offload, whole, client, hrouted, hc, hplain⟩ := routed_of_mem_packetsFor hmem
  obtain ⟨destIp, clientKey, hdest, howner, hclient⟩ := hrouted.route
  have howners := (readerOwners_run hnew as).frames r hr
  obtain ⟨hauth, hkey⟩ := howners.clients clientKey client hclient
  rw [hc] at hauth hkey
  refine ⟨hauth, destIp, ?_, ?_⟩
  · have hr' : r.frame ∈ as.filterMap DataAction.frame? := hframes ▸ List.mem_map_of_mem hr
    rw [← hdest]
    refine extractDestIp_plainPackets (fun o ho => ?_) hplain
    exact hsane r.frame hr' o whole (by rw [hrouted.split, ho])
  · rw [hkey]
    exact howners.routes destIp clientKey howner

/-- Two devices of endpoint 7, whose server reads frames with vnet headers. -/
def twoHosts : DataSetup Nat Nat :=
  ⟨toy, twoPeers, ⟨false, true⟩, [], ⟨false, false⟩, fun _ => ⟨⟨false, false⟩, [], ⟨false, false⟩, fun _ => ""⟩⟩

/-- A super-frame to 10.0.0.3 with three bytes of payload, to be cut every two bytes. -/
def superFrame : Bytes :=
  [0x45, 0, 0, 43, 0, 0, 0, 0, 64, 6, 0, 0, 8, 8, 8, 8, 10, 0, 0, 3] ++
  [0, 80, 0x1f, 0x90, 0, 0, 0, 100, 0, 0, 0, 0, 0x50, 0x10, 0xff, 0xff, 0, 0, 0, 0] ++ [1, 2, 3]

def superFrameHdr : VirtioNetHdr := ⟨1, 1, 40, 2, 20, 16, 0⟩

/-- Both register.  The server reads a packet and a super-frame to 10.0.0.3; the packet and the two
segments are sent and arrive. -/
def threeDeliveries : List DataAction :=
  twoRun.map .session ++
    [.look, .frame (plainHdr.toBytes ++ ipv4Header [8, 8, 8, 8] [10, 0, 0, 3]) (some 1200) (fun _ => ⟨0, true⟩),
      .look, .frame (superFrameHdr.toBytes ++ superFrame) (some 1200) (fun _ => ⟨0, true⟩),
      .link 1 (.send 64 ⟨fun _ => .ok 64, fun _ => .ok ()⟩), .link 1 (.arrive 0 .sent none),
      .link 1 (.arrive 0 .sent none), .link 1 (.arrive 0 .sent none), .link 1 (.write 64)]

theorem saneFrame_threeDeliveries :
    ∀ frame ∈ threeDeliveries.filterMap DataAction.frame?, SaneFrame twoHosts frame := by
  intro frame hframe offload packet hsplit
  rcases List.mem_pair.1 hframe with rfl | rfl
  · cases hsplit
  · have hheader : twoHosts.device.splitFrame (superFrameHdr.toBytes ++ superFrame) =
        .ok (some superFrameHdr, superFrame) := by decide +kernel
    obtain ⟨⟨⟩, rfl⟩ := Prod.mk.inj (Except.ok.inj (hheader.symm.trans hsplit))
    exact ⟨by decide, by decide +kernel, by decide +kernel⟩

/-- All reach the second device, whose address that is, and none the first. -/
theorem delivered_to_owner_twoHosts :
    let st := run (DataPath.step twoHosts) (DataPath.new toyServer) threeDeliveries
    delivered st 1 = ipv4Header [8, 8, 8, 8] [10, 0, 0, 3] :: materialized superFrameHdr superFrame ∧
    (delivered st 1).length = 3 ∧ delivered st 0 = [] ∧
    ∀ packet ∈ delivered st 1, ∃ ip, extractDestIp packet = some ip ∧
      HandedOut toy twoPeers toyServer (threeDeliveries.filterMap DataAction.session?) ip ((twoPeers 1).key toy) := by
  intro st
  have h1 : delivered st 1 = ipv4Header [8, 8, 8, 8] [10, 0, 0, 3] :: materialized superFrameHdr superFrame := by
    decide +kernel
  have hlen : (delivered st 1).length = 3 := by decide +kernel
  have h0 : delivered st 0 = [] := by decide +kernel
  obtain ⟨-, -, howner⟩ := delivered_to_owner (S := twoHosts) toyConfig 0 toyServer rfl threeDeliveries
    saneFrame_threeDeliveries 1
  exact ⟨h1, hlen, h0, fun packet hpacket => (howner packet hpacket).2⟩

variable (S) in
/-- The step by which `req` was handed to the server's TUN writer. -/
def Forwards (req : TunWriteRequest) (st : DataPath EndpointId PublicKey) (a : DataAction) : Prop :=
  ∃ i enqueue, a = .forward req.seq i enqueue req.device ∧
    (st.links req.seq).toServer[i]? = some req.packet ∧
    (st.world.handlers req.seq).phase = .serving ∧
    Forwardable S.ports ((S.peers req.seq).key S.x)
      ⟨req.packet, (st.links req.seq).seen, st.world.server.routes, enqueue⟩

omit [DecidableEq PublicKey] in
/-- What `forward` hands to the writer. -/
theorem forwards_of_mem {c : ConnId} {i : Nat} {enqueue : Enqueue} {device : Option String} {packet : Bytes}
    (hpacket : (st.links c).toServer[i]? = some packet) (hphase : (st.world.handlers c).phase = .serving)
    {req : TunWriteRequest}
    (hreq : req ∈ (st.forward S c i ⟨packet, (st.links c).seen, st.world.server.routes, enqueue⟩ device).channel) :
    req ∈ st.channel ∨ Forwards S req st (.forward c i enqueue device) := by
  obtain ⟨-, hwrites⟩ := inboundPacket_eq S.ports ((S.peers c).key S.x) (st.links c).inbound.2
    ⟨packet, (st.links c).seen, st.world.server.routes, enqueue⟩
  simp only [DataPath.forward, hwrites, List.drop_left] at hreq
  rcases List.mem_append.1 hreq with hreq | hreq
  · exact Or.inl hreq
  · obtain ⟨p, hp, rfl⟩ := List.mem_map.1 hreq
    obtain ⟨a, ha, rfl⟩ := List.mem_map.1 hp
    obtain ⟨ha, hforwards⟩ := List.mem_filter.1 ha
    obtain rfl := List.mem_singleton.1 ((List.takeWhile_sublist _).subset ha)
    exact Or.inr ⟨i, enqueue, rfl, hpacket, hphase, (forwards_iff _ _ _).1 hforwards⟩

variable (S) in
/-- Every request of the server's writer was forwarded by a step of the run. -/
def AllForwarded (s : VpnServer EndpointId PublicKey) (as : List DataAction)
    (st : DataPath EndpointId PublicKey) : Prop :=
  ∀ req, req ∈ st.channel ∨ req ∈ st.writer.device.packets →
    Once (DataPath.step S) (Forwards S req) (DataPath.new s) as

theorem allForwarded_run (s : VpnServer EndpointId PublicKey) (as : List DataAction) :
    AllForwarded S s as (run (DataPath.step S) (DataPath.new s) as) := by
  refine inv_history (I := AllForwarded S s) ?_ (fun as a h => ?_) as
  · rintro req (hreq | hreq) <;> cases hreq
  have hold : ∀ req, req ∈ (run (DataPath.step S) (DataPath.new s) as).channel ∨
      req ∈ (run (DataPath.step S) (DataPath.new s) as).writer.device.packets →
      Once (DataPath.step S) (Forwards S req) (DataPath.new s) (as ++ [a]) :=
    fun req hreq => (h req hreq).append _
  intro req hreq
  cases a with
  | forward c i enqueue device =>
    rcases DataPath.step_forward S _ c i enqueue device with hst | ⟨packet, hpacket, hphase, hst⟩
    · rw [hst] at hreq
      exact hold req hreq
    · rw [hst] at hreq
      rcases hreq with hreq | hreq
      · rcases forwards_of_mem hpacket hphase hreq with hreq | hnew
        · exact hold req (Or.inl hreq)
        · exact once_last hnew
      · exact hold req (Or.inr hreq)
  | write limit =>
    obtain ⟨done, hpackets, hsub⟩ := writerTask_packets countFailure S.tun
      (run (DataPath.step S) (DataPath.new s) as).writer
      ((run (DataPath.step S) (DataPath.new s) as).channel.take limit)
    rcases hreq with hreq | hreq
    · exact hold req (Or.inl (List.mem_of_mem_drop hreq))
    · simp only [DataPath.step, serverWriter, hpackets] at hreq
      rcases List.mem_append.1 hreq with hreq | hreq
      · exact hold req (Or.inr hreq)
      · exact hold req (Or.inl (List.mem_of_mem_take (hsub.subset hreq)))
  | session a | look | frame frame maxSize queue | link c a | lookSource c => exact hold req hreq

/-- **What the server forwards comes from the client it is taken to come from.**  For every order
of the tasks' steps: of the packets written to the server's TUN, those that came over connection
`c` are datagrams that its client made of what it read from its own TUN, each at most as often as
it was handed over.  And every packet written passed the filter of its connection's inbound loop
when it arrived: its source is mapped to no other client, its destination to none. -/
theorem forwarded_from_client (s : VpnServer EndpointId PublicKey) (as : List DataAction) (c : ConnId) :
    let st := run (DataPath.step S) (DataPath.new s) as
    ((fromConn c st.writer.device.packets).map TunWriteRequest.packet).Subperm
      (handed (S.hosts c).device (S.hosts c).ports (as.filterMap (DataAction.pass? c))) ∧
    ∀ req ∈ st.writer.device.packets, Once (DataPath.step S) (Forwards S req) (DataPath.new s) as := by
  intro st
  refine ⟨List.subperm_ext_iff.2 fun d _ => ?_, fun req hreq => allForwarded_run s as req (Or.inr hreq)⟩
  have hup := (carried_dataPath (S := S) s as).up c d
  have hhanded : (st.links c).client.outbound.batches.flatten =
      handed (S.hosts c).device (S.hosts c).ports (as.filterMap (DataAction.pass? c)) := by
    rw [run_outbound]
    exact run_outboundPass _ _ _ ⟨rfl, rfl, rfl⟩
  rw [← hhanded]
  exact Nat.le_trans (Nat.le_add_right_of_le (Nat.le_add_right _ _)) hup

end

end EzVpn
