import Mathlib.Data.List.Flatten
import EzVpn.Server.Isolation
import EzVpn.Server.TunReader
import EzVpn.Client.Outbound
import EzVpn.Net.TunWriter

/-!
# The data path

The tasks that carry packets between the server's TUN and the clients' TUNs, put together:
the TUN reader, the queue and the datagram writer of each client, the inbound loop of each
connection and the TUN writer of the server (src/tunnel/server.rs), and the outbound task, the
inbound task and the TUN writer of each client (`run_tunnel`, src/tunnel/client.rs).  Beside them
the connection handlers register and remove sessions.

Every task takes its steps by itself, and a run is any order of them.  Between two tasks there
are channels, which keep the order, and the two directions of a connection.  A QUIC connection
does not deliver a datagram twice, but it may lose it, and deliver it at any time and in any
order.  The maps are read at one step and used at a later one, so they may change in between.

`down` counts how often a packet is under way to a client or has arrived there.  No step of a
connection raises it (`step_down`); only a frame read from the TUN does.
-/

namespace EzVpn

open Lib Bytes

/-! ## One connection -/

/-- The client at the other end of a connection. -/
structure ClientEnd where
  outbound : OutboundState := {}
  /-- the inbound task has not ended -/
  reading : Bool := true
  /-- the channel to the TUN writer -/
  channel : List TunWriteRequest := []
  writer : Writer Nat := ⟨⟨[], []⟩, 0, none⟩

/-- A client's host. -/
structure ClientHost where
  device : TunReader
  ports : List UInt16
  tun : TunWriter
  display : VpnError → String

/-- What belongs to one connection, at both its ends and in between. -/
structure DataLink (EndpointId : Type) where
  /-- the client's `ClientDatagramQueue` -/
  queue : List Bytes := []
  /-- in flight to the client -/
  toClient : List Bytes := []
  client : ClientEnd := {}
  /-- in flight to the server -/
  toServer : List Bytes := []
  /-- the maps as the inbound loop saw them when it last looked a source up -/
  seen : Routes EndpointId
  /-- the inbound loop, and whether it goes on -/
  inbound : Bool × Inbound := (true, ⟨{}, []⟩)

/-- What the connection accepts of a batch. -/
def sentOf (conn : Connection) (batch : List Bytes) : List Bytes :=
  accepted (sendDatagramBatch conn batch ⟨{}, []⟩).2.log

/-- The tasks of one connection that touch nothing else, and its network. -/
inductive LinkAction
  /-- the datagram writer: `recv_many`, then `send_datagram_batch` -/
  | send (limit : Nat) (conn : Connection)
  /-- the datagram writer stops, and its queue is dropped -/
  | close
  | loseToClient (i : Nat)
  | loseToServer (i : Nat)
  /-- a datagram reaches the client's inbound task; `device` is what the TUN will answer -/
  | arrive (i : Nat) (enqueue : Enqueue) (device : Option String)
  /-- the client's TUN writer: `recv_many`, then the writes -/
  | write (limit : Nat)
  /-- a pass of the client's outbound task -/
  | pass (pass : OutboundPass)

namespace ClientEnd

/-- `enqueue_inbound_tun_write`; a closed channel ends the inbound task. -/
def enqueueInboundTunWrite (e : ClientEnd) (enqueue : Enqueue) (req : TunWriteRequest) : ClientEnd :=
  if enqueue.isOpen then { e with channel := e.channel ++ [req] } else { e with reading := false }

/-- One round of the TUN writer, unless it has returned. -/
def write (host : ClientHost) (e : ClientEnd) (limit : Nat) : ClientEnd :=
  if e.writer.stopped.isSome then e
  else
    { e with
      writer := clientWriter host.display host.tun e.writer [e.channel.take limit]
      channel := e.channel.drop limit }

end ClientEnd

namespace DataLink

variable {EndpointId : Type}

/-- One step of connection `c`. -/
def step (host : ClientHost) (c : ConnId) (l : DataLink EndpointId) : LinkAction → DataLink EndpointId
  | .send limit conn =>
    { l with
      queue := l.queue.drop limit
      toClient := l.toClient ++ sentOf conn (l.queue.take limit) }
  | .close => { l with queue := [] }
  | .loseToClient i => { l with toClient := l.toClient.eraseIdx i }
  | .loseToServer i => { l with toServer := l.toServer.eraseIdx i }
  | .arrive i enqueue device =>
    match l.toClient[i]? with
    | none => l
    | some packet =>
      if l.client.reading then
        { l with
          toClient := l.toClient.eraseIdx i
          client := l.client.enqueueInboundTunWrite enqueue ⟨c, none, packet, device⟩ }
      else l
  | .write limit => { l with client := l.client.write host limit }
  | .pass p =>
    let outbound := outboundPass host.device host.ports l.client.outbound p
    { l with
      client := { l.client with outbound }
      toServer := l.toServer ++
        (outbound.batches.drop l.client.outbound.batches.length).flatMap (sentOf p.conn) }

end DataLink

/-! ## The whole -/

structure DataPath (EndpointId PublicKey : Type) where
  world : World EndpointId PublicKey
  /-- the maps as the TUN reader saw them when it last looked a destination up -/
  looked : Routes EndpointId
  reader : TunReaderState
  /-- the frames the TUN reader has handled, with what each of them met -/
  frames : List (TunRead EndpointId)
  links : ConnId → DataLink EndpointId
  /-- the channel to the TUN writer -/
  channel : List TunWriteRequest
  writer : Writer Nat

/-- What stays the same in a run. -/
structure DataSetup (EndpointId PublicKey : Type) where
  x : Externals EndpointId PublicKey
  peers : ConnId → Peer EndpointId
  device : TunReader
  ports : List UInt16
  tun : TunWriter
  hosts : ConnId → ClientHost

inductive DataAction
  /-- a step of a connection handler -/
  | session (a : ConnId × Io)
  /-- the TUN reader looks a destination up -/
  | look
  /-- it finds the client and pushes the datagrams -/
  | frame (frame : Bytes) (maxDatagramSize : Option Nat) (queue : Nat → QueueView)
  | link (c : ConnId) (a : LinkAction)
  /-- the inbound loop of a connection looks a source up -/
  | lookSource (c : ConnId)
  /-- it looks the destination up, and forwards the datagram or not -/
  | forward (c : ConnId) (i : Nat) (enqueue : Enqueue) (device : Option String)
  /-- the TUN writer: `recv_many`, then the writes -/
  | write (limit : Nat)

/-- The requests for packets that came over connection `c`. -/
def requests (c : ConnId) (device : Option String) (packets : List Bytes) : List TunWriteRequest :=
  packets.map fun packet => ⟨c, none, packet, device⟩

/-- The datagrams that pushes put into the queue of connection `c`. -/
def pushedTo (c : ConnId) (pushes : List Push) : List Bytes :=
  (pushes.filter fun p => decide (p.queue = c) && p.result.isOk).map Push.datagram

namespace DataPath

variable {EndpointId PublicKey : Type} [DecidableEq EndpointId] [DecidableEq PublicKey]

/-- A freshly built server, nothing sent. -/
def new (s : VpnServer EndpointId PublicKey) : DataPath EndpointId PublicKey where
  world := World.new s
  looked := s.routes
  reader := {}
  frames := []
  links := fun _ => { seen := s.routes }
  channel := []
  writer := ⟨⟨[], []⟩, 0, none⟩

section
variable (S : DataSetup EndpointId PublicKey)

/-- A frame, handled with the maps as they were looked up and the sessions as they are. -/
def handle (st : DataPath EndpointId PublicKey) (r : TunRead EndpointId) : DataPath EndpointId PublicKey :=
  let reader := handleFrame S.device S.ports st.reader r
  { st with
    reader
    frames := st.frames ++ [r]
    links := fun c =>
      { st.links c with
        queue := (st.links c).queue ++ pushedTo c (reader.pushes.drop st.reader.pushes.length) } }

/-- The inbound loop of connection `c` on one datagram. -/
def forward (st : DataPath EndpointId PublicKey) (c : ConnId) (i : Nat) (a : Arrival EndpointId)
    (device : Option String) : DataPath EndpointId PublicKey :=
  let l := st.links c
  let inbound := inboundPacket S.ports ((S.peers c).key S.x) l.inbound.2 a
  { st with
    links := Function.update st.links c { l with toServer := l.toServer.eraseIdx i, inbound }
    channel := st.channel ++ requests c device (inbound.2.tunWrites.drop l.inbound.2.tunWrites.length) }

def step (st : DataPath EndpointId PublicKey) : DataAction → DataPath EndpointId PublicKey
  | .session a => { st with world := EzVpn.step S.x S.peers st.world a }
  | .look => { st with looked := st.world.server.routes }
  | .frame frame maxDatagramSize queue =>
    st.handle S ⟨frame, st.looked, st.world.server.clients, maxDatagramSize, queue⟩
  | .link c a => { st with links := Function.update st.links c ((st.links c).step (S.hosts c) c a) }
  | .lookSource c =>
    { st with links := Function.update st.links c { st.links c with seen := st.world.server.routes } }
  | .forward c i enqueue device =>
    match (st.links c).toServer[i]? with
    | none => st
    | some packet =>
      -- the loop runs while the handler is in `handle_client_data`
      if (st.world.handlers c).phase = .serving ∧ (st.links c).inbound.1 = true then
        st.forward S c i ⟨packet, (st.links c).seen, st.world.server.routes, enqueue⟩ device
      else st
  | .write limit =>
    { st with
      writer := serverWriter S.tun st.writer [st.channel.take limit]
      channel := st.channel.drop limit }

end

end DataPath

/-- The loop waits, or it takes a datagram. -/
theorem DataPath.step_forward {EndpointId PublicKey : Type} [DecidableEq EndpointId] [DecidableEq PublicKey]
    (S : DataSetup EndpointId PublicKey) (st : DataPath EndpointId PublicKey) (c : ConnId) (i : Nat)
    (enqueue : Enqueue) (device : Option String) :
    st.step S (.forward c i enqueue device) = st ∨
    ∃ packet, (st.links c).toServer[i]? = some packet ∧ (st.world.handlers c).phase = .serving ∧
      st.step S (.forward c i enqueue device) =
        st.forward S c i ⟨packet, (st.links c).seen, st.world.server.routes, enqueue⟩ device := by
  simp only [step]
  cases hpacket : (st.links c).toServer[i]? with
  | none => exact Or.inl rfl
  | some packet =>
    dsimp only
    split
    · next hserving => exact Or.inr ⟨packet, rfl, hserving.1, rfl⟩
    · exact Or.inl rfl

/-! ## Parts of it -/

/-- The steps of the handlers. -/
def DataAction.session? : DataAction → Option (ConnId × Io)
  | session a => some a
  | _ => none

/-- The passes of the outbound task of connection `c`. -/
def DataAction.pass? (c : ConnId) : DataAction → Option OutboundPass
  | link c' (.pass p) => if c' = c then some p else none
  | _ => none

section
variable {EndpointId PublicKey : Type} [DecidableEq EndpointId] [DecidableEq PublicKey]
  (S : DataSetup EndpointId PublicKey)

theorem run_world (as : List DataAction) (st : DataPath EndpointId PublicKey) :
    (run (DataPath.step S) st as).world =
      run (EzVpn.step S.x S.peers) st.world (as.filterMap DataAction.session?) := by
  refine run_part (fun st => st.world) (fun st a => ?_) as st
  cases a with
  | forward c i enqueue device =>
    rcases st.step_forward S c i enqueue device with hst | ⟨packet, -, -, hst⟩
    · rw [hst]; rfl
    · rw [hst]; rfl
  | session a | look | frame frame maxSize queue | link c a | lookSource c | write limit => rfl

omit [DecidableEq EndpointId] in
/-- Only its passes change the outbound task of a client. -/
theorem outbound_link (host : ClientHost) (c : ConnId) (l : DataLink EndpointId) (a : LinkAction) :
    (l.step host c a).client.outbound =
      match a with
      | .pass p => outboundPass host.device host.ports l.client.outbound p
      | _ => l.client.outbound := by
  cases a with
  | arrive i enqueue device =>
    simp only [DataLink.step]
    split
    · rfl
    · split
      · unfold ClientEnd.enqueueInboundTunWrite
        split <;> rfl
      · rfl
  | write limit =>
    simp only [DataLink.step, ClientEnd.write]
    split <;> rfl
  | send limit conn | close | loseToClient i | loseToServer i | pass p => rfl

theorem run_outbound (c : ConnId) (as : List DataAction) (st : DataPath EndpointId PublicKey) :
    ((run (DataPath.step S) st as).links c).client.outbound =
      run (outboundPass (S.hosts c).device (S.hosts c).ports) (st.links c).client.outbound
        (as.filterMap (DataAction.pass? c)) := by
  refine run_part (fun st => (st.links c).client.outbound) (fun st a => ?_) as st
  cases a with
  | session a | look | frame frame maxSize queue | write limit => rfl
  | lookSource c' =>
    simp only [DataPath.step, DataAction.pass?, Function.update_apply]
    split
    · next h => subst h; rfl
    · rfl
  | forward c' i enqueue device =>
    rcases st.step_forward S c' i enqueue device with hst | ⟨packet, -, -, hst⟩
    · rw [hst]; rfl
    · simp only [hst, DataPath.forward, DataAction.pass?, Function.update_apply]
      split
      · next h => subst h; rfl
      · rfl
  | link c' a =>
    simp only [DataPath.step, Function.update_apply]
    by_cases h : c = c'
    · subst h
      rw [if_pos rfl, outbound_link]
      cases a <;> simp [DataAction.pass?]
    · rw [if_neg h]
      cases a <;> simp [DataAction.pass?, Ne.symm h]

end

/-! ## What a step of a connection carries on -/

theorem sentOf_sublist (conn : Connection) (batch : List Bytes) : (sentOf conn batch).Sublist batch := by
  obtain ⟨calls, left, haccount, -⟩ := sendDatagramBatch_disposes conn batch ⟨{}, []⟩
  unfold sentOf
  rw [haccount.log, List.nil_append]
  exact haccount.inOrder

theorem flatMap_sentOf_sublist (conn : Connection) (batches : List (List Bytes)) :
    (batches.flatMap (sentOf conn)).Sublist batches.flatten := by
  rw [← List.flatMap_id]
  exact .flatMap_right batches fun batch _ => sentOf_sublist conn batch

section
variable {σ : Type} (note : σ → Except VpnError Unit → σ × Option String) (w : TunWriter)

/-- Whatever fails, a task writes some of its packets, in order. -/
theorem performRuns_packets (runs : List (List WriteUnit)) : ∀ st : Writer σ,
    ∃ written, (performRuns note st runs).device.packets = st.device.packets ++ written ∧
      written.Sublist (runs.flatten.flatMap WriteUnit.carried) := by
  induction runs with
  | nil => exact fun st => ⟨[], (List.append_nil _).symm, List.nil_sublist _⟩
  | cons units runs ih =>
    intro st
    obtain ⟨later, hlater, hsub⟩ := ih (st.perform note (runUnits units))
    have hfirst : ∃ first, (st.perform note (runUnits units)).device.packets = st.device.packets ++ first ∧
        first.Sublist (units.flatMap WriteUnit.carried) := by
      unfold Writer.perform
      split
      · exact ⟨[], (List.append_nil _).symm, List.nil_sublist _⟩
      · exact ⟨_, (runUnits_spec units st.device).1,
          (List.takeWhile_sublist _).flatMap WriteUnit.carried⟩
    obtain ⟨first, hfirst, hsub'⟩ := hfirst
    refine ⟨first ++ later, ?_, ?_⟩
    · rw [performRuns, List.foldl_cons]
      exact hlater.trans (by rw [hfirst, List.append_assoc])
    · rw [List.flatten_cons, List.flatMap_append]
      exact hsub'.append hsub

theorem writerTask_packets (st : Writer σ) (batch : List TunWriteRequest) :
    ∃ written, (writerTask note w st [batch]).device.packets = st.device.packets ++ written ∧
      written.Sublist batch := by
  rw [writerTask_eq]
  obtain ⟨written, hpackets, hsub⟩ := performRuns_packets note (writeRuns w [batch]) st
  rw [carried_writeRuns, List.flatten_singleton] at hsub
  exact ⟨written, hpackets, hsub⟩

end

theorem outboundPass_batches (device : TunReader) (ports : List UInt16) (st : OutboundState)
    (p : OutboundPass) : ∃ added, (outboundPass device ports st p).batches = st.batches ++ added := by
  have hsame : ∃ added, st.batches = st.batches ++ added := ⟨[], (List.append_nil _).symm⟩
  unfold outboundPass
  split
  · exact hsame
  · split
    · exact hsame
    · split
      · exact hsame
      · split
        · exact hsame
        · dsimp only
          split
          · exact hsame
          · exact ⟨_, rfl⟩

section
variable (d : Bytes)

/-- How many requests carry `d`. -/
def carrying (reqs : List TunWriteRequest) : Nat := (reqs.map TunWriteRequest.packet).count d

theorem carrying_append (a b : List TunWriteRequest) : carrying d (a ++ b) = carrying d a + carrying d b := by
  unfold carrying
  rw [List.map_append, List.count_append]

theorem carrying_le {a b : List TunWriteRequest} (h : a.Sublist b) : carrying d a ≤ carrying d b :=
  (h.map TunWriteRequest.packet).count_le d

theorem carrying_take_add_drop (n : Nat) (reqs : List TunWriteRequest) :
    carrying d (reqs.take n) + carrying d (reqs.drop n) = carrying d reqs := by
  rw [← carrying_append, List.take_append_drop]

theorem count_take_add_drop (n : Nat) (l : List Bytes) : (l.take n).count d + (l.drop n).count d = l.count d := by
  rw [← List.count_append, List.take_append_drop]

/-- Taking one datagram out of flight. -/
theorem count_eraseIdx_add {l : List Bytes} {i : Nat} {packet : Bytes} (h : l[i]? = some packet) :
    (l.eraseIdx i).count d + [packet].count d = l.count d := by
  obtain ⟨hi, rfl⟩ := List.getElem?_eq_some_iff.1 h
  rw [← (List.getElem_cons_eraseIdx_perm hi).count_eq d, ← List.count_append]
  exact List.perm_append_comm.count_eq d

namespace DataLink

variable {EndpointId : Type}

/-- How often `d` has reached the client's TUN or is on its way there. -/
def down (l : DataLink EndpointId) : Nat :=
  carrying d l.client.writer.device.packets + carrying d l.client.channel + l.toClient.count d + l.queue.count d

variable (host : ClientHost) (c : ConnId)

/-- **Nothing is added on the way.** -/
theorem step_down (l : DataLink EndpointId) (a : LinkAction) : (l.step host c a).down d ≤ l.down d := by
  cases a with
  | send limit conn =>
    have hsent := (sentOf_sublist conn (l.queue.take limit)).count_le d
    have hsplit := count_take_add_drop d limit l.queue
    simp only [step, down, List.count_append]
    omega
  | close =>
    simp only [step, down, List.count_nil]
    omega
  | loseToClient i =>
    have hle := (List.eraseIdx_sublist l.toClient i).count_le d
    simp only [step, down]
    omega
  | loseToServer i => exact Nat.le_refl _
  | arrive i enqueue device =>
    simp only [step]
    split
    · exact Nat.le_refl _
    · next packet hpacket =>
      have hone := count_eraseIdx_add d hpacket
      have hreq : carrying d [⟨c, none, packet, device⟩] = [packet].count d := rfl
      split
      · unfold ClientEnd.enqueueInboundTunWrite down
        split
        · simp only [carrying_append, hreq]
          omega
        · dsimp only
          omega
      · exact Nat.le_refl _
  | write limit =>
    simp only [step, ClientEnd.write]
    split
    · exact Nat.le_refl _
    · obtain ⟨written, hpackets, hsub⟩ :=
        writerTask_packets (noteWriteResult host.display) host.tun l.client.writer (l.client.channel.take limit)
      have hle := carrying_le d hsub
      have hsplit := carrying_take_add_drop d limit l.client.channel
      simp only [down, clientWriter, hpackets, carrying_append]
      omega
  | pass p => exact Nat.le_refl _

/-- What a client puts in flight it had handed to the connection. -/
theorem step_up (l : DataLink EndpointId) (a : LinkAction) :
    (l.step host c a).toServer.count d + l.client.outbound.batches.flatten.count d ≤
      l.toServer.count d + (l.step host c a).client.outbound.batches.flatten.count d := by
  have hsame : ∀ l' : DataLink EndpointId, l'.toServer.count d ≤ l.toServer.count d →
      l'.client.outbound = l.client.outbound →
      l'.toServer.count d + l.client.outbound.batches.flatten.count d ≤
        l.toServer.count d + l'.client.outbound.batches.flatten.count d := by
    intro l' hle heq
    rw [heq]
    omega
  have hout := outbound_link host c l a
  cases a with
  | pass p =>
    obtain ⟨added, hadded⟩ := outboundPass_batches host.device host.ports l.client.outbound p
    have hle := (flatMap_sentOf_sublist p.conn added).count_le d
    simp only [step, hadded, List.drop_left, List.flatten_append, List.count_append]
    omega
  | loseToServer i => exact hsame _ ((List.eraseIdx_sublist l.toServer i).count_le d) rfl
  | arrive i enqueue device =>
    refine hsame _ (Nat.le_of_eq ?_) hout
    simp only [step]
    split
    · rfl
    · split <;> rfl
  | send limit conn | close | loseToClient i | write limit => exact hsame _ (Nat.le_refl _) hout

end DataLink

end

end EzVpn
