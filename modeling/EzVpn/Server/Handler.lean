import EzVpn.Signaling
import EzVpn.Server.Pool

/-!
# The server and its connection handlers

`VpnServer` with the state its connection handlers share, and the handler itself
(`handle_connection` and `handle_connection_inner`, src/tunnel/server.rs) as a state
machine.  Each atomic access to shared state is a step of its own: an atomic counter,
a lock of a pool held for one call, one operation on a concurrent map.  Between two
steps of a handler any other handler may run.

A handler is driven by `Io`, the outcome of what it awaits: the QUIC connection, the
messages on the handshake stream, the data phase.  `step` is the server taking one
step of one connection, and a run is any list of such steps.
-/

namespace EzVpn

open Lib

/-- Connections are numbered in the order the endpoint accepts them. -/
abbrev ConnId := Nat

/-- `ClientState`.  The connection also names its datagram queue. -/
structure ClientState where
  sessionId : UInt64
  assignedIp : Option Ipv4Addr
  assignedIp6 : Option Ipv6Addr
  connection : ConnId
deriving DecidableEq

structure VpnServer (EndpointId PublicKey : Type) where
  config : VpnServerConfig PublicKey
  ipPool : Option (IpPool EndpointId)
  ip6Pool : Option (Ip6Pool EndpointId)
  clients : Map (ClientKey EndpointId) ClientState
  ipToEndpoint : Map Ipv4Addr (ClientKey EndpointId)
  ip6ToEndpoint : Map Ipv6Addr (ClientKey EndpointId)
  /-- an `AtomicUsize`; as an integer it would show a decrement below zero -/
  activeConnections : Int
  nextSessionId : UInt64

/-- Where a connection handler stands. -/
inductive Phase
  /-- awaits the QUIC connection -/
  | incoming
  /-- awaits the handshake stream -/
  | acceptingStream
  /-- awaits the handshake message -/
  | readingHandshake
  /-- writes "Public-key authentication failed" -/
  | rejectingAuth
  /-- `active_connections.fetch_add(1)` -/
  | counting
  /-- compares the count before its own with `max_clients` -/
  | comparing (prevCount : Int)
  /-- `active_connections.fetch_sub(1)` of a connection over the limit -/
  | uncounting
  /-- writes "Server full" -/
  | rejectingFull
  | allocatingIp
  | allocatingIp6
  /-- builds and writes the handshake response -/
  | responding
  /-- `next_session_id.fetch_add(1)` -/
  | drawingSession
  | insertingClient
  | insertingIp
  | insertingIp6
  /-- `handle_client_data` -/
  | serving
  | removingClient
  | removingIp
  | removingIp6
  | releasingIp
  | releasingIp6
  /-- `active_connections.fetch_sub(1)` on the way out -/
  | leaving
  | done
deriving DecidableEq

/-- The local variables of a handler. -/
structure Handler where
  phase : Phase
  assignedIp : Option Ipv4Addr
  assignedIp6 : Option Ipv6Addr
  sessionId : UInt64
  releaseIpv4 : Bool
  releaseIpv6 : Bool
  result : Except VpnError Unit

def Handler.new : Handler := ⟨.incoming, none, none, 0, false, false, .ok ()⟩

/-- `return result`, past the connection counter. -/
def Handler.return (h : Handler) (result : Except VpnError Unit) : Handler :=
  { h with phase := .done, result }

/-- `return Err(e)` from `handle_connection_inner`: the counter is still to be decremented. -/
def Handler.fail (h : Handler) (e : VpnError) : Handler :=
  { h with phase := .leaving, result := .error e }

/-- What the peer of a connection is and sends. -/
structure Peer (EndpointId : Type) where
  /-- the endpoint id that TLS authenticated -/
  remoteId : EndpointId
  handshakeData : Bytes

/-- The outcome of what a handler awaits, with the error it returns. -/
inductive Io
  | ok
  | err (e : VpnError)
deriving DecidableEq

/-- Go on if what was awaited succeeded. -/
def Io.andThen {α : Type} (io : Io) (fail : VpnError → α) (next : α) : α :=
  match io with
  | .ok => next
  | .err e => fail e

variable {EndpointId PublicKey : Type} [DecidableEq EndpointId] [DecidableEq PublicKey]

/-- `VpnServer::new`, without the host lock. -/
def VpnServer.new (x : Externals EndpointId PublicKey) (config : VpnServerConfig PublicKey)
    (serverEndpointId : EndpointId) : Except PoolError (VpnServer EndpointId PublicKey) :=
  match config.validate with
  | .error e => .error (.vpn (.config e))
  | .ok () => do
    let ipPool ← config.network.mapM fun network => IpPool.new network config.serverIp
    let ip6Pool ← config.network6.mapM fun network6 =>
      Ip6Pool.new x.suffix network6 config.serverIp6 config.ip6Strategy serverEndpointId
    pure { config, ipPool, ip6Pool, clients := ∅, ipToEndpoint := ∅, ip6ToEndpoint := ∅,
           activeConnections := 0, nextSessionId := 1 }

section
variable (x : Externals EndpointId PublicKey)

/-- `handshake.device_id`, once the handshake has been decoded. -/
def Peer.deviceId (p : Peer EndpointId) : UInt64 :=
  match VpnHandshake.decode x p.handshakeData with
  | .ok handshake => handshake.deviceId
  | .error _ => 0

/-- `client_key`. -/
def Peer.key (p : Peer EndpointId) : ClientKey EndpointId := (p.remoteId, p.deviceId x)

/-- Read the handshake, decode it, verify the credential. -/
def readHandshake (config : VpnServerConfig PublicKey) (p : Peer EndpointId) (h : Handler) : Handler :=
  match VpnHandshake.decode x p.handshakeData with
  | .error e => h.return (.error e)
  | .ok handshake =>
    if verifyClientAuth x config handshake.auth p.remoteId then { h with phase := .counting }
    else { h with phase := .rejectingAuth }

/-- "Must have at least one IP assigned". -/
def checkAssigned (h : Handler) : Handler :=
  if h.assignedIp.isNone && h.assignedIp6.isNone then h.fail (.ipAssignment "All IP pools exhausted")
  else { h with phase := .responding }

/-- One step of the handler of connection `c`. -/
def handlerStep (c : ConnId) (p : Peer EndpointId) (io : Io) (s : VpnServer EndpointId PublicKey)
    (h : Handler) : VpnServer EndpointId PublicKey × Handler :=
  let returnErr := fun e => (s, h.return (.error e))
  match h.phase with
  | .incoming => io.andThen returnErr (s, { h with phase := .acceptingStream })
  | .acceptingStream => io.andThen returnErr (s, { h with phase := .readingHandshake })
  | .readingHandshake => io.andThen returnErr (s, readHandshake x s.config p h)
  | .rejectingAuth =>
    io.andThen returnErr (s, h.return (.error (.signaling "Public-key authentication failed")))
  | .counting =>
    ({ s with activeConnections := s.activeConnections + 1 },
      { h with phase := .comparing s.activeConnections })
  | .comparing prevCount =>
    if prevCount ≥ s.config.maxClients then (s, { h with phase := .uncounting })
    else (s, { h with phase := .allocatingIp })
  | .uncounting =>
    ({ s with activeConnections := s.activeConnections - 1 }, { h with phase := .rejectingFull })
  | .rejectingFull => io.andThen returnErr (s, h.return (.error (.ipAssignment "Server full")))
  | .allocatingIp =>
    match s.ipPool with
    | some pool =>
      let (ip, pool) := pool.allocate p.remoteId (p.deviceId x)
      ({ s with ipPool := some pool },
        if ip.isNone && s.ip6Pool.isNone then h.fail (.ipAssignment "IPv4 pool exhausted")
        else { h with phase := .allocatingIp6, assignedIp := ip })
    | none => (s, { h with phase := .allocatingIp6, assignedIp := none })
  | .allocatingIp6 =>
    match s.ip6Pool with
    | some pool =>
      let (ip6, pool) := pool.allocate x.suffix p.remoteId (p.deviceId x)
      ({ s with ip6Pool := some pool },
        if ip6.isNone && s.ipPool.isNone then h.fail (.ipAssignment "IPv6 pool exhausted")
        else checkAssigned { h with assignedIp6 := ip6 })
    | none => (s, checkAssigned { h with assignedIp6 := none })
  | .responding => io.andThen (fun e => (s, h.fail e)) (s, { h with phase := .drawingSession })
  | .drawingSession =>
    ({ s with nextSessionId := s.nextSessionId + 1 },
      { h with phase := .insertingClient, sessionId := s.nextSessionId })
  | .insertingClient =>
    ({ s with clients := s.clients.insert (p.key x) ⟨h.sessionId, h.assignedIp, h.assignedIp6, c⟩ },
      { h with phase := .insertingIp })
  | .insertingIp =>
    (match h.assignedIp with
      | some ip4 => { s with ipToEndpoint := s.ipToEndpoint.insert ip4 (p.key x) }
      | none => s,
      { h with phase := .insertingIp6 })
  | .insertingIp6 =>
    (match h.assignedIp6 with
      | some ip6 => { s with ip6ToEndpoint := s.ip6ToEndpoint.insert ip6 (p.key x) }
      | none => s,
      { h with phase := .serving })
  | .serving =>
    io.andThen (fun e => (s, { h with phase := .removingClient, result := .error e }))
      (s, { h with phase := .removingClient, result := .ok () })
  | .removingClient =>
    match s.clients.removeIf (p.key x) fun state => state.sessionId = h.sessionId with
    | (some state, clients) =>
      ({ s with clients },
        { h with
          phase := .removingIp
          releaseIpv4 := state.assignedIp.isSome
          releaseIpv6 := state.assignedIp6.isSome })
    | (none, _) => (s, { h with phase := .leaving })
  | .removingIp =>
    (match h.assignedIp with
      | some ip4 =>
        { s with ipToEndpoint := (s.ipToEndpoint.removeIf ip4 fun owner => owner = p.key x).2 }
      | none => s,
      { h with phase := .removingIp6 })
  | .removingIp6 =>
    (match h.assignedIp6 with
      | some ip6 =>
        { s with ip6ToEndpoint := (s.ip6ToEndpoint.removeIf ip6 fun owner => owner = p.key x).2 }
      | none => s,
      { h with phase := .releasingIp })
  | .releasingIp =>
    (if h.releaseIpv4 then
        { s with ipPool := s.ipPool.map fun pool => pool.release p.remoteId (p.deviceId x) }
      else s,
      { h with phase := .releasingIp6 })
  | .releasingIp6 =>
    (if h.releaseIpv6 then
        { s with ip6Pool := s.ip6Pool.map fun pool => pool.release p.remoteId (p.deviceId x) }
      else s,
      { h with phase := .leaving })
  | .leaving => ({ s with activeConnections := s.activeConnections - 1 }, h.return h.result)
  | .done => (s, h)

/-- The server and all its handlers. -/
structure World (EndpointId PublicKey : Type) where
  server : VpnServer EndpointId PublicKey
  handlers : ConnId → Handler

/-- A freshly built server, no connection begun. -/
def World.new (s : VpnServer EndpointId PublicKey) : World EndpointId PublicKey :=
  ⟨s, fun _ => Handler.new⟩

/-- One step of one connection. -/
def step (peers : ConnId → Peer EndpointId) (w : World EndpointId PublicKey) (a : ConnId × Io) :
    World EndpointId PublicKey :=
  let (s, h) := handlerStep x a.1 (peers a.1) a.2 w.server (w.handlers a.1)
  ⟨s, Function.update w.handlers a.1 h⟩

end

end EzVpn
