import EzVpn.Config
import EzVpn.Lib.Alloc
import EzVpn.Lib.Run

/-!
# The address pools of the server

`IpPool` and `Ip6Pool` (src/tunnel/server.rs), with the calls that reach them
outside the tests: `new`, `allocate` and `release`.  Their invariants are in
`PoolInv.lean`.

A `u32` or `u128` computation that leaves its range is `PoolError.arith`: a debug
build panics there and a release build wraps.
-/

namespace EzVpn

open Lib

/-- `(EndpointId, u64)`: an endpoint and one of its devices. -/
abbrev ClientKey (EndpointId : Type) := EndpointId × UInt64

/-- What building a pool can end in instead of a pool. -/
inductive PoolError
  | arith
  | vpn (e : VpnError)
deriving DecidableEq, Repr

def checkedAdd (w a b : Nat) : Except PoolError Nat :=
  if a + b < 2 ^ w then .ok (a + b) else .error .arith

def checkedSub (a b : Nat) : Except PoolError Nat :=
  if b ≤ a then .ok (a - b) else .error .arith

def checkedShl (w a s : Nat) : Except PoolError Nat :=
  if s < w then .ok (a * 2 ^ s % 2 ^ w) else .error .arith

/-- `server_ip.unwrap_or_else(..)`: the given address, else the first host. -/
def serverIpOr {w : Nat} (serverIp : Option (BitVec w)) (netAddr : Nat) :
    Except PoolError (BitVec w) :=
  match serverIp with
  | some ip => .ok ip
  | none =>
    match checkedAdd w netAddr 1 with
    | .ok ip => .ok (BitVec.ofNat w ip)
    | .error e => .error e

variable {EndpointId : Type} [DecidableEq EndpointId]

/-! ## IPv4 -/

structure IpPool (EndpointId : Type) where
  network : Ipv4Net
  serverIp : Ipv4Addr
  /-- next address to draw (`u32`) -/
  nextIp : Nat
  /-- last address that may be drawn (`u32`) -/
  maxIp : Nat
  inUse : Map (ClientKey EndpointId) Ipv4Addr
  /-- the `Vec` of released addresses, last pushed first -/
  released : List Ipv4Addr
  /-- never assigned; only tests put anything here -/
  reserved : List Ipv4Addr

namespace IpPool

def new (network : Ipv4Net) (serverIp : Option Ipv4Addr) : Except PoolError (IpPool EndpointId) := do
  let netAddr := network.network.toNat
  let broadcast := network.broadcast.toNat
  let serverIp ← serverIpOr serverIp netAddr
  let nextIp ← checkedAdd 32 serverIp.toNat 1
  let maxIp ← checkedSub broadcast 1
  pure { network, serverIp, nextIp, maxIp, inUse := ∅, released := [], reserved := [] }

/-- The `while` loop of `next_unreserved_ip`; the first argument is the number of
addresses left. -/
def nextUnreserved (reserved : List Ipv4Addr) : Nat → Nat → Option Ipv4Addr × Nat
  | 0, nextIp => (none, nextIp)
  | n + 1, nextIp =>
    let ip := BitVec.ofNat 32 nextIp
    if reserved.contains ip then nextUnreserved reserved n (nextIp + 1) else (some ip, nextIp + 1)

def nextUnreservedIp (p : IpPool EndpointId) : Option Ipv4Addr × IpPool EndpointId :=
  let (ip, nextIp) := nextUnreserved p.reserved (p.maxIp + 1 - p.nextIp) p.nextIp
  (ip, { p with nextIp })

/-- The `while let` loop over `released.pop()`. -/
def popReleased (reserved : List Ipv4Addr) : List Ipv4Addr → Option Ipv4Addr × List Ipv4Addr
  | [] => (none, [])
  | ip :: rest => if reserved.contains ip then popReleased reserved rest else (some ip, rest)

def allocate (p : IpPool EndpointId) (endpointId : EndpointId) (deviceId : UInt64) :
    Option Ipv4Addr × IpPool EndpointId :=
  let key := (endpointId, deviceId)
  match p.inUse.lookup key with
  | some ip => (some ip, p)
  | none =>
    match popReleased p.reserved p.released with
    | (some ip, released) => (some ip, { p with released, inUse := p.inUse.insert key ip })
    | (none, released) =>
      match ({ p with released } : IpPool EndpointId).nextUnreservedIp with
      | (some ip, p) => (some ip, { p with inUse := p.inUse.insert key ip })
      | (none, p) => (none, p)

def release (p : IpPool EndpointId) (endpointId : EndpointId) (deviceId : UInt64) :
    IpPool EndpointId :=
  match p.inUse.lookup (endpointId, deviceId) with
  | some ip => { p with inUse := p.inUse.erase (endpointId, deviceId), released := ip :: p.released }
  | none => p

end IpPool

/-! ## IPv6 -/

/-- `Ip6Alloc`. -/
inductive Ip6Alloc
  | sequential (nextIp maxIp : Nat) (released : List Ipv6Addr)
  | nodeId
deriving DecidableEq

structure Ip6Pool (EndpointId : Type) where
  network : Ipv6Net
  serverIp : Ipv6Addr
  alloc : Ip6Alloc
  inUse : Map (ClientKey EndpointId) Ipv6Addr

/-- `derived_ip6`.  `suffix` stands for `derive_ip6_suffix`, the first eight bytes of
a SHA-256 of the node id. -/
def derivedIp6 (suffix : EndpointId → UInt64) (network : Ipv6Net) (nodeId : EndpointId) :
    Ipv6Addr :=
  let hostBits := 128 - network.prefixLen
  let mask : BitVec 128 := if hostBits ≥ 128 then BitVec.allOnes 128 else (1#128 <<< hostBits) - 1#128
  network.network ||| ((suffix nodeId).toBitVec.setWidth 128 &&& mask)

namespace Ip6Pool

section
variable (suffix : EndpointId → UInt64)

/-- The sequential branch of `new`. -/
def newSequential (network : Ipv6Net) (serverIp : Option Ipv6Addr) :
    Except PoolError (Ip6Pool EndpointId) := do
  let netAddr := network.network.toNat
  let serverIp ← serverIpOr serverIp netAddr
  let nextIp ← checkedAdd 128 serverIp.toNat 1
  let hostBits := 128 - network.prefixLen
  let span ← checkedShl 128 1 hostBits
  let span ← checkedSub span 1
  let last ← checkedAdd 128 netAddr span
  let maxIp ← checkedSub last 1
  pure { network, serverIp, alloc := .sequential nextIp maxIp [], inUse := ∅ }

/-- The node-id branch of `new`. -/
def newNodeId (network : Ipv6Net) (serverId : EndpointId) : Except PoolError (Ip6Pool EndpointId) :=
  let serverIp := derivedIp6 suffix network serverId
  if serverIp = network.network then
    .error (.vpn (.config ("derived server IPv6 collides with the network address; " ++
      "use a different server key or network6")))
  else .ok { network, serverIp, alloc := .nodeId, inUse := ∅ }

def new (network : Ipv6Net) (serverIp : Option Ipv6Addr) (strategy : Ip6Strategy)
    (serverId : EndpointId) : Except PoolError (Ip6Pool EndpointId) :=
  if network.prefixLen ≥ 127 then
    .error (.vpn (.config
      s!"IPv6 prefix /{network.prefixLen} is too small for VPN pool (need at least /126 for 1 client)"))
  else
    match validateIp6Strategy strategy (some network) serverIp with
    | .error e => .error (.vpn (.config e))
    | .ok () =>
      match strategy with
      | .sequential => newSequential network serverIp
      | .nodeId => newNodeId suffix network serverId

def allocate (p : Ip6Pool EndpointId) (endpointId : EndpointId) (deviceId : UInt64) :
    Option Ipv6Addr × Ip6Pool EndpointId :=
  let key := (endpointId, deviceId)
  match p.inUse.lookup key with
  | some ip => (some ip, p)
  | none =>
    match p.alloc with
    | .sequential nextIp maxIp released =>
      match released with
      | ip :: released =>
        (some ip, { p with alloc := .sequential nextIp maxIp released, inUse := p.inUse.insert key ip })
      | [] =>
        if nextIp ≤ maxIp then
          let ip := BitVec.ofNat 128 nextIp
          (some ip, { p with alloc := .sequential (nextIp + 1) maxIp [], inUse := p.inUse.insert key ip })
        else (none, p)
    | .nodeId =>
      let ip := derivedIp6 suffix p.network endpointId
      if ip = p.network.network ∨ ip = p.serverIp ∨ p.inUse.hasValue ip = true then (none, p)
      else (some ip, { p with inUse := p.inUse.insert key ip })

end

def release (p : Ip6Pool EndpointId) (endpointId : EndpointId) (deviceId : UInt64) :
    Ip6Pool EndpointId :=
  match p.inUse.lookup (endpointId, deviceId) with
  | some ip =>
    let alloc := match p.alloc with
      | .sequential nextIp maxIp released => .sequential nextIp maxIp (ip :: released)
      | .nodeId => .nodeId
    { p with inUse := p.inUse.erase (endpointId, deviceId), alloc }
  | none => p

end Ip6Pool

/-- A call of either pool. -/
inductive PoolOp (EndpointId : Type)
  | allocate (endpointId : EndpointId) (deviceId : UInt64)
  | release (endpointId : EndpointId) (deviceId : UInt64)

def IpPool.apply (p : IpPool EndpointId) : PoolOp EndpointId → IpPool EndpointId
  | .allocate e d => (p.allocate e d).2
  | .release e d => p.release e d

def Ip6Pool.apply (suffix : EndpointId → UInt64) (p : Ip6Pool EndpointId) :
    PoolOp EndpointId → Ip6Pool EndpointId
  | .allocate e d => (p.allocate suffix e d).2
  | .release e d => p.release e d

end EzVpn
