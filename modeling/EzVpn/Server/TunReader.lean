import EzVpn.Server.Inbound
import EzVpn.Stream.Datagrams

/-!
# Packets to clients

`run_tun_reader` (src/tunnel/server.rs): one task reads the TUN and serves every client.
It looks the destination of a packet up in the reverse maps, finds the session of the
client they name, and pushes the packet's datagrams to the queue of that session.  The
list of pending datagrams and the segmentation buffer are shared by all clients, and each
queue has an arena its datagrams are copied into; all of them live as long as the task.

The maps may change between two frames, and between the two lookups for one frame.
`runTunReader_pushes` says that what a frame adds to the queues does not depend on the
frames before it.
-/

namespace EzVpn

open Lib Bytes

/-! ## The device -/

/-- What a `TunReader` puts in front of a packet. -/
structure TunReader where
  packetInformationEnabled : Bool
  vnetHdrEnabled : Bool

/-- `tun::PACKET_INFORMATION_LENGTH`. -/
def packetInformationLength : Nat := 4

def TunReader.splitFrame (device : TunReader) (frame : Bytes) :
    Except String (Option VirtioNetHdr × Bytes) :=
  if device.packetInformationEnabled then
    if frame.length ≤ packetInformationLength then
      .error (s!"TUN frame shorter than packet information header: " ++
        s!"{frame.length} <= {packetInformationLength}")
    else splitTunFrame (frame.drop packetInformationLength) false
  else splitTunFrame frame device.vnetHdrEnabled

/-! ## The queue of a client -/

def clientQueueBytes : Nat := 16 * 1024 * 1024
def queuedDatagramOverhead : Nat := 64

def queuedDatagramCost (len : Nat) : Nat := len + queuedDatagramOverhead

inductive TrySendError
  | full
  | closed
deriving DecidableEq

/-- A queue at one moment; the client's writer takes from it concurrently. -/
structure QueueView where
  queuedBytes : Nat
  /-- the writer has not gone away -/
  receiving : Bool

/-- What `try_push` answers. -/
def tryPush (q : QueueView) (datagram : Bytes) : Except TrySendError Unit :=
  if q.queuedBytes + queuedDatagramCost datagram.length > clientQueueBytes then .error .full
  else if q.receiving then .ok ()
  else .error .closed

/-! ## The task -/

/-- A frame read from the TUN, with what its handling meets. -/
structure TunRead (EndpointId : Type) where
  frame : Bytes
  /-- the maps when the destination is looked up -/
  routes : Routes EndpointId
  /-- the sessions when the client is looked up -/
  clients : Map (ClientKey EndpointId) ClientState
  maxDatagramSize : Option Nat
  /-- the queue at the first push, the second, and so on -/
  queue : Nat → QueueView

/-- A call of `try_push`. -/
structure Push where
  queue : ConnId
  datagram : Bytes
  result : Except TrySendError Unit

structure TunReaderState where
  segScratch : Bytes := []
  pending : List Bytes := []
  /-- the arena of each queue -/
  arenas : ConnId → Bytes := fun _ => []
  stats : VpnServerStats := {}
  /-- every push so far -/
  pushes : List Push := []

/-- The loop over `pending.drain(..)`, from push number `n` on. -/
def drainPending (conn : ConnId) (queue : Nat → QueueView) :
    Nat → List Bytes → VpnServerStats → List Push → VpnServerStats × List Push
  | _, [], stats, pushes => (stats, pushes)
  | n, datagram :: rest, stats, pushes =>
    let result := tryPush (queue n) datagram
    let pushes := pushes ++ [⟨conn, datagram, result⟩]
    match result with
    | .ok () => drainPending conn queue (n + 1) rest stats pushes
    | .error .full =>
      drainPending conn queue (n + 1) rest
        { stats with packetsDroppedFull := stats.packetsDroppedFull + 1 } pushes
    | .error .closed => (stats, pushes)

def queueClientDatagrams (conn : ConnId) (maxSize : Option Nat) (queue : Nat → QueueView)
    (offload : Option VirtioNetHdr) (packet : Bytes) (st : TunReaderState) : TunReaderState :=
  let (segScratch, prepared) :=
    prepareIpDatagrams maxSize st.segScratch offload packet ⟨st.arenas conn, st.pending, {}⟩
  let stats := { st.stats with
    packetsDroppedTooLarge := st.stats.packetsDroppedTooLarge + prepared.outcome.droppedTooLarge
    packetsDroppedFull := st.stats.packetsDroppedFull + prepared.outcome.droppedOther }
  let (stats, pushes) := drainPending conn queue 0 prepared.pending stats st.pushes
  -- a dropped `Drain` removes what the loop did not reach
  { segScratch, pending := [], arenas := Function.update st.arenas conn prepared.arena, stats, pushes }

section
variable {EndpointId : Type} [DecidableEq EndpointId] (device : TunReader) (ports : List UInt16)

/-- One pass of the loop, after a read that did not fail. -/
def handleFrame (st : TunReaderState) (r : TunRead EndpointId) : TunReaderState :=
  if r.frame.isEmpty then st
  else
    let stats := { st.stats with tunPacketsRead := st.stats.tunPacketsRead + 1 }
    match device.splitFrame r.frame with
    | .error _ => { st with stats }
    | .ok (offload, packet) =>
      if packetHasLocalIrohUdpPort packet ports then { st with stats }
      else
        match extractDestIp packet with
        | none =>
          { st with stats := { stats with packetsUnknownVersion := stats.packetsUnknownVersion + 1 } }
        | some destIp =>
          match r.routes.owner destIp with
          | none => { st with stats := { stats with packetsNoRoute := stats.packetsNoRoute + 1 } }
          | some clientKey =>
            match r.clients.lookup clientKey with
            | none => { st with stats := { stats with packetsNoRoute := stats.packetsNoRoute + 1 } }
            | some c =>
              queueClientDatagrams c.connection r.maxDatagramSize r.queue offload packet
                { st with stats }

/-- The loop over the reads; `none` is a failed one. -/
def runTunReader : TunReaderState → List (Option (TunRead EndpointId)) → TunReaderState
  | st, [] => st
  | st, none :: _ => st
  | st, some r :: reads => runTunReader (handleFrame device ports st r) reads

end

/-! ## Between frames -/

/-- Nothing is left over. -/
structure TunReaderState.Drained (st : TunReaderState) : Prop where
  pending : st.pending = []
  arenas : ∀ c, st.arenas c = []

theorem drained_init : ({} : TunReaderState).Drained := ⟨rfl, fun _ => rfl⟩

/-- The pushes the loop over `pending` makes, from push number `n` on. -/
def attempts (conn : ConnId) (queue : Nat → QueueView) : Nat → List Bytes → List Push
  | _, [] => []
  | n, datagram :: rest =>
    let result := tryPush (queue n) datagram
    ⟨conn, datagram, result⟩ ::
      match result with
      | .error .closed => []
      | _ => attempts conn queue (n + 1) rest

theorem drainPending_pushes (conn : ConnId) (queue : Nat → QueueView) (pending : List Bytes) :
    ∀ n stats pushes, (drainPending conn queue n pending stats pushes).2 =
      pushes ++ attempts conn queue n pending := by
  induction pending with
  | nil => intro n stats pushes; exact (List.append_nil _).symm
  | cons datagram rest ih =>
    intro n stats pushes
    unfold drainPending attempts
    cases tryPush (queue n) datagram with
    | ok u => dsimp only; rw [ih, List.append_assoc]; rfl
    | error e =>
      cases e with
      | full => dsimp only; rw [ih, List.append_assoc]; rfl
      | closed => rfl

theorem mem_attempts {conn : ConnId} {queue : Nat → QueueView} {pending : List Bytes} {p : Push} :
    ∀ {n}, p ∈ attempts conn queue n pending → p.queue = conn ∧ p.datagram ∈ pending := by
  induction pending with
  | nil => intro n h; cases h
  | cons datagram rest ih =>
    intro n h
    unfold attempts at h
    rcases List.mem_cons.1 h with rfl | h
    · exact ⟨rfl, List.mem_cons_self⟩
    · split at h
      · cases h
      · exact ⟨(ih h).1, List.mem_cons_of_mem _ (ih h).2⟩

/-- The datagrams a client is to get for a packet. -/
def datagrams (maxSize : Option Nat) (offload : Option VirtioNetHdr) (packet : Bytes) : List Bytes :=
  (plainPackets offload packet).filter (fitsDatagram maxSize)

/-- From a drained state the pending list is that of this packet, and the loop leaves none
of it behind, closed queue or not. -/
theorem queueClientDatagrams_pushes {st : TunReaderState} (h : st.Drained) (conn : ConnId)
    (maxSize : Option Nat) (queue : Nat → QueueView) (offload : Option VirtioNetHdr) (packet : Bytes) :
    (queueClientDatagrams conn maxSize queue offload packet st).Drained ∧
      (queueClientDatagrams conn maxSize queue offload packet st).pushes =
        st.pushes ++ attempts conn queue 0 (datagrams maxSize offload packet) := by
  obtain ⟨harena, hpending⟩ := prepareIpDatagrams_pending maxSize
    ⟨st.arenas conn, st.pending, {}⟩ (h.arenas conn) st.segScratch offload packet
  unfold queueClientDatagrams datagrams
  dsimp only
  refine ⟨⟨rfl, fun c => ?_⟩, ?_⟩
  · dsimp only
    rw [Function.update_apply]
    split
    · exact harena
    · exact h.arenas c
  · rw [drainPending_pushes, hpending]
    dsimp only
    rw [h.pending, List.nil_append]

section
variable {EndpointId : Type} [DecidableEq EndpointId] (device : TunReader) (ports : List UInt16)

/-- The frame of `r` holds `packet`, and its destination is that of the session `c`. -/
structure Routed (r : TunRead EndpointId) (offload : Option VirtioNetHdr) (packet : Bytes)
    (c : ClientState) : Prop where
  split : device.splitFrame r.frame = .ok (offload, packet)
  notSelf : packetHasLocalIrohUdpPort packet ports = false
  route : ∃ destIp clientKey, extractDestIp packet = some destIp ∧
    r.routes.owner destIp = some clientKey ∧ r.clients.lookup clientKey = some c

/-- A frame is dropped or queued, and which of the two does not depend on the state. -/
theorem handleFrame_cases (r : TunRead EndpointId) :
    (∀ st, ∃ stats, handleFrame device ports st r = { st with stats }) ∨
    ∃ offload packet c, Routed device ports r offload packet c ∧
      ∀ st, ∃ stats, handleFrame device ports st r =
        queueClientDatagrams c.connection r.maxDatagramSize r.queue offload packet
          { st with stats } := by
  unfold handleFrame
  by_cases hempty : r.frame.isEmpty
  · exact .inl fun st => ⟨st.stats, by rw [if_pos hempty]⟩
  simp only [if_neg hempty]
  cases hsplit : device.splitFrame r.frame with
  | error e => exact .inl fun st => ⟨_, rfl⟩
  | ok parts =>
    obtain ⟨offload, packet⟩ := parts
    dsimp only
    cases hself : packetHasLocalIrohUdpPort packet ports with
    | true => exact .inl fun st => ⟨_, rfl⟩
    | false =>
      cases hdest : extractDestIp packet with
      | none => exact .inl fun st => ⟨_, rfl⟩
      | some destIp =>
        dsimp only
        cases howner : r.routes.owner destIp with
        | none => exact .inl fun st => ⟨_, rfl⟩
        | some clientKey =>
          dsimp only
          cases hclient : r.clients.lookup clientKey with
          | none => exact .inl fun st => ⟨_, rfl⟩
          | some c =>
            exact .inr ⟨offload, packet, c, ⟨hsplit, hself, destIp, clientKey, hdest, howner, hclient⟩,
              fun st => ⟨_, rfl⟩⟩

/-- What a reader that has seen no other frame pushes for `r`. -/
def framePushes (r : TunRead EndpointId) : List Push := (handleFrame device ports {} r).pushes

theorem handleFrame_pushes {st : TunReaderState} (h : st.Drained) (r : TunRead EndpointId) :
    (handleFrame device ports st r).Drained ∧
      (handleFrame device ports st r).pushes = st.pushes ++ framePushes device ports r := by
  unfold framePushes
  rcases handleFrame_cases device ports r with hdrop | ⟨offload, packet, c, -, hqueue⟩
  · obtain ⟨stats, hst⟩ := hdrop st
    obtain ⟨stats', hinit⟩ := hdrop {}
    rw [hst, hinit]
    exact ⟨⟨h.pending, h.arenas⟩, (List.append_nil _).symm⟩
  · obtain ⟨stats, hst⟩ := hqueue st
    obtain ⟨stats', hinit⟩ := hqueue {}
    have hd : TunReaderState.Drained { st with stats } := ⟨h.pending, h.arenas⟩
    have hd' : TunReaderState.Drained { stats := stats' } := ⟨rfl, fun _ => rfl⟩
    rw [hst, hinit, (queueClientDatagrams_pushes hd _ _ _ _ _).2,
      (queueClientDatagrams_pushes hd' _ _ _ _ _).2]
    exact ⟨(queueClientDatagrams_pushes hd _ _ _ _ _).1, rfl⟩

/-! ## Whole runs -/

/-- The frames of the reads before the first that failed. -/
def framesRead : List (Option (TunRead EndpointId)) → List (TunRead EndpointId)
  | some r :: reads => r :: framesRead reads
  | _ => []

theorem runTunReader_pushes (reads : List (Option (TunRead EndpointId))) :
    ∀ {st : TunReaderState}, st.Drained → (runTunReader device ports st reads).pushes =
      st.pushes ++ (framesRead reads).flatMap (framePushes device ports) := by
  induction reads with
  | nil => intro st _; exact (List.append_nil _).symm
  | cons read reads ih =>
    intro st h
    cases read with
    | none => exact (List.append_nil _).symm
    | some r =>
      obtain ⟨hdrained, hpushes⟩ := handleFrame_pushes device ports h r
      rw [runTunReader, ih hdrained, hpushes, framesRead, List.flatMap_cons, List.append_assoc]

/-- `p` carries a plain packet of the frame of `r` to the client the frame is for. -/
def CarriesFrame (r : TunRead EndpointId) (p : Push) : Prop :=
  ∃ offload packet c, Routed device ports r offload packet c ∧
    p.queue = c.connection ∧ p.datagram ∈ plainPackets offload packet ∧
    fitsDatagram r.maxDatagramSize p.datagram = true

theorem framePushes_carry {r : TunRead EndpointId} {p : Push} (hp : p ∈ framePushes device ports r) :
    CarriesFrame device ports r p := by
  unfold framePushes at hp
  rcases handleFrame_cases device ports r with hdrop | ⟨offload, packet, c, hrouted, hqueue⟩
  · obtain ⟨stats, hinit⟩ := hdrop {}
    rw [hinit] at hp
    cases hp
  · obtain ⟨stats, hinit⟩ := hqueue {}
    rw [hinit, (queueClientDatagrams_pushes ⟨rfl, fun _ => rfl⟩ _ _ _ _ _).2] at hp
    obtain ⟨hq, hd⟩ := mem_attempts hp
    obtain ⟨hmem, hfits⟩ := List.mem_filter.1 hd
    exact ⟨offload, packet, c, hrouted, hq, hmem, hfits⟩

/-- **Confinement.**  A frame adds to the queues what it would add if it were the first
frame read, whatever was read before; and all of it is plain packets of this frame, pushed
to the queue of the session that the maps gave for its destination. -/
theorem tunReader_confines (reads : List (Option (TunRead EndpointId))) :
    (runTunReader device ports {} reads).pushes =
        (framesRead reads).flatMap (framePushes device ports) ∧
      ∀ r ∈ framesRead reads, ∀ p ∈ framePushes device ports r, CarriesFrame device ports r p :=
  ⟨runTunReader_pushes device ports reads drained_init,
    fun _ _ _ hp => framePushes_carry device ports hp⟩

end

-- a burst of three segments to one client, whose queue closes at the second, and a packet
-- to another client
example :
    let packet (dst : UInt8) : Bytes :=
      [0x45, 0, 0, 43, 0, 0, 0, 0, 64, 6, 0, 0, 10, 0, 0, 1, 10, 0, 0, dst] ++
        List.replicate 12 0 ++ [0x50, 0x10] ++ List.replicate 6 0 ++ [1, 2, 3]
    let clients : Map (ClientKey Nat) ClientState :=
      ((∅ : Map _ _).insert (1, 0) ⟨1, none, none, 1⟩).insert (2, 0) ⟨2, none, none, 2⟩
    let routes : Routes Nat :=
      ⟨((∅ : Map _ _).insert 0x0a000002#32 (1, 0)).insert 0x0a000003#32 (2, 0), ∅⟩
    let burst : TunRead Nat :=
      ⟨[1, 1, 40, 0, 1, 0, 20, 0, 16, 0] ++ packet 2, routes, clients, some 1200,
        fun n => ⟨0, n == 0⟩⟩
    let plain : TunRead Nat :=
      ⟨List.replicate 10 0 ++ packet 3, routes, clients, some 1200, fun _ => ⟨0, true⟩⟩
    (runTunReader ⟨false, true⟩ [] {} [some burst, some plain]).pushes.map
        (fun p => (p.queue, p.datagram.drop 40)) =
      [(1, [1]), (1, [2]), (2, [1, 2, 3])] := by
  decide +kernel

end EzVpn
