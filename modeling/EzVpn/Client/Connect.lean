import EzVpn.Client.BypassSession
import EzVpn.Client.Status
import EzVpn.Net.Packet

/-!
# The desktop client from start to end

`connect` and the loop around it, `run_with_reconnect` (src/tunnel/client.rs), with all they hold:
the route guards, the TUN device, the bypass route manager and the published status.  A step is
what the awaited operation yields: the answer to a dial, the local networks, a device, the routes,
the end of the tunnel, the end of a sleep.  `shutdown` is the caller dropping the whole future
(ctrl-c); it can come between any two steps.  Adding the routes of a session is one of the steps,
as it is on Windows; `Client.Install` has it command by command, and the stops inside of it.

What holds over whole lives, with any number of attempts and reconnects, is in `Client.Lives`.
-/

namespace EzVpn

open Lib

/-! ## The TUN device -/

/-- `TunConfig` (src/net/device.rs). -/
structure TunConfig where
  name : Option String
  address : Ipv4Addr
  netmask : Ipv4Addr
  destination : Ipv4Addr
  address6 : Option Ipv6Addr
  prefixLen6 : Option Nat
  mtu : Nat
  enableGso : Bool
deriving DecidableEq

def validatePrefixLen6 (prefixLen6 : Nat) : Except VpnError Unit :=
  if prefixLen6 > 128 then .error (.config s!"Invalid IPv6 prefix length {prefixLen6}: must be 0-128")
  else .ok ()

namespace TunConfig

def new (address netmask destination : Ipv4Addr) : TunConfig :=
  { name := none, address, netmask, destination, address6 := none, prefixLen6 := none, mtu := 1280,
    enableGso := true }

def withMtu (c : TunConfig) (mtu : Nat) : TunConfig := { c with mtu }

def withGso (c : TunConfig) (enableGso : Bool) : TunConfig := { c with enableGso }

def withIpv6 (c : TunConfig) (address6 : Ipv6Addr) (prefixLen6 : Nat) : Except VpnError TunConfig := do
  validatePrefixLen6 prefixLen6
  pure { c with address6 := some address6, prefixLen6 := some prefixLen6 }

/-- The hash of `ipv6_only`. -/
def placeholderHash (address6 : Ipv6Addr) : BitVec 16 :=
  (List.range 16).foldl (fun hash idx =>
    hash.rotateLeft 5 ^^^ (BitVec.ofNat 16 (octet address6 idx).toNat + BitVec.ofNat 16 idx)) 0x9e37#16

/-- 169.254.x.y, with neither 0 nor 255 for x or y. -/
def placeholderIp (address6 : Ipv6Addr) : Ipv4Addr :=
  let hash := (placeholderHash address6).toNat
  let third := hash % 256 % 254 + 1
  let fourth := hash / 256 % 254 + 1
  BitVec.ofNat 32 (169 * 2 ^ 24 + 254 * 2 ^ 16 + third * 2 ^ 8 + fourth)

def ipv6Only (address6 : Ipv6Addr) (prefixLen6 mtu : Nat) : Except VpnError TunConfig := do
  validatePrefixLen6 prefixLen6
  pure
    { name := none
      address := placeholderIp address6
      netmask := 0xffffffff#32
      destination := placeholderIp address6
      address6 := some address6
      prefixLen6 := some prefixLen6
      mtu
      enableGso := true }

end TunConfig

/-- What `create_tun_device` hands to `TunDevice::create`. -/
def clientTunConfig (info : ServerInfo) : Except VpnError TunConfig := do
  let tunConfig ←
    match info.assignedIp, info.network, info.serverIp, info.assignedIp6, info.network6, info.serverIp6 with
    | some ip4, some net4, some gw4, some ip6, some net6, some _ =>
      ((TunConfig.new ip4 (~~~net4.hostmask) gw4).withMtu vpnMtu).withIpv6 ip6 net6.prefixLen
    | some ip4, some net4, some gw4, none, none, none =>
      pure ((TunConfig.new ip4 (~~~net4.hostmask) gw4).withMtu vpnMtu)
    | none, none, none, some ip6, some net6, some _ => TunConfig.ipv6Only ip6 net6.prefixLen vpnMtu
    | _, _, _, _, _, _ =>
      throw (.signaling "Invalid server info: need at least one complete IP configuration")
  pure (tunConfig.withGso true)

/-- What `perform_handshake` lets through. -/
structure Assigned (info : ServerInfo) : Prop where
  ipv4 : Complete info.assignedIp info.network info.serverIp
  ipv6 : Complete info.assignedIp6 info.network6 info.serverIp6
  one : info.assignedIp.isSome = true ∨ info.assignedIp6.isSome = true

theorem Complete.cases {A N : Type} {ip : Option A} {net : Option N} {gw : Option A} (h : Complete ip net gw) :
    (ip = none ∧ net = none ∧ gw = none) ∨ ∃ a n g, ip = some a ∧ net = some n ∧ gw = some g := by
  obtain ⟨h1, h2⟩ := h
  cases ip <;> cases net <;> cases gw <;> simp at h1 h2 ⊢

inductive ConnectPhase
  /-- in `connect`, nothing received yet -/
  | dialing
  /-- the handshake is complete and agrees with the sessions before -/
  | answered (info : ServerInfo)
  /-- no route overlaps a local network -/
  | checked (info : ServerInfo)
  /-- the TUN device is there -/
  | created (info : ServerInfo)
  /-- the bypass routes are there -/
  | bypassed (info : ServerInfo)
  /-- in `run_tunnel`, with the guards of the routes, the newest first -/
  | up (info : ServerInfo) (guards : List RouteGuard)
  /-- behind `run_tunnel`, with the result to be returned -/
  | leaving (guards : List RouteGuard) (result : Except VpnError Unit)
  /-- `connect` has returned; whether its tunnel had been up -/
  | ended (cameUp : Bool) (result : Except VpnError Unit)
  | sleeping (wake : Nat)
  /-- the client has returned -/
  | returned (result : Except VpnError Unit)
  /-- the client was dropped -/
  | stopped

/-- What never changes. -/
structure ClientSetup where
  platform : Platform
  config : VpnClientConfig
  serverNodeId : String
  /-- `EndpointId::from_str` -/
  parsesNodeId : String → Bool
  autoReconnect : Bool
  maxAttempts : Option NonZeroU32
  fromSlice : Bytes → Except String VpnHandshakeResponse

/-- One attempt: whether its tunnel came up, and what `connect` returned. -/
abbrev Attempt := Bool × Except VpnError Unit

/-- What the client has made of its host. -/
structure HostState where
  os : Os
  tun : Option (String × TunConfig)
  bypass : Option (BypassRouteManager × BypassState)

structure VpnClient extends HostState where
  now : Nat
  phase : ConnectPhase
  established : Option NetworkParams
  status : ClientStateInner
  loop : ReconnectLoop
  /-- the attempts that the loop has seen -/
  attempts : List Attempt

def VpnClient.start (table : Finset AnyNet) : VpnClient :=
  ⟨⟨.start table, none, none⟩, 0, .dialing, none, {}, .start, []⟩

/-- `resolve_server_addr`, `connect_with_timeout` and `perform_handshake` up to the response. -/
inductive ConnectAnswer
  | fails (e : DialError)
  | responds (recv : List Bytes)

inductive ClientAction
  | tick (ms : Nat)
  | dial (answer : ConnectAnswer)
  | check (locals : List LocalNetwork)
  | create (device : Except String String)
  | bypass (underlay : Underlay)
  | install (fails : Nat → Option String)
  | publish (update : AddressUpdate)
  /-- the end of the tunnel, with what the overlap watcher has sampled until then -/
  | tunnelEnds (how : TunnelEnd) (first : List LocalNetwork) (polls : List (List LocalNetwork))
  | leave
  | react (jitter : Jitter)
  | wake
  | shutdown

/-! ## Steps -/

/-- The addresses and routes that `connect` publishes. -/
def connectedInfo (config : VpnClientConfig) (info : ServerInfo) : ClientConnectedInfo where
  assignedIp := info.assignedIp.map displayIpv4
  network := info.network.map displayIpv4Net
  gateway := info.serverIp.map displayIpv4
  assignedIp6 := info.assignedIp6.map displayIpv6
  network6 := info.network6.map displayIpv6Net
  gateway6 := info.serverIp6.map displayIpv6
  mtu := vpnMtu
  routes := (configuredNets config info).1.map displayIpv4Net
  routes6 := (configuredNets config info).2.map displayIpv6Net

namespace VpnClient

variable (S : ClientSetup) (st : VpnClient)

/-- The `collected` set that the status reads. -/
def collected : Finset IpAddr :=
  match st.bypass with
  | some (_, state) => state.collected
  | none => ∅

/-- `connect` returns before there was anything to undo. -/
def giveUp (e : VpnError) : VpnClient := { st with phase := .ended false (.error e) }

def dial (answer : ConnectAnswer) : VpnClient :=
  if !S.parsesNodeId S.serverNodeId then st.giveUp (.config s!"Invalid server node ID: {S.serverNodeId}")
  else
    match answer with
    | .fails e => st.giveUp e.toVpnError
    | .responds recv =>
      match offer S.fromSlice st.established recv with
      | (.error e, established) => { st with established }.giveUp e
      | (.ok info, established) => { st with established, phase := .answered info }

def check (info : ServerInfo) (locals : List LocalNetwork) : VpnClient :=
  match overlapError (configuredNets S.config info).1 (configuredNets S.config info).2 locals with
  | some err => st.giveUp err
  | none => { st with phase := .checked info }

def create (info : ServerInfo) (device : Except String String) : VpnClient :=
  match clientTunConfig info with
  | .error e => st.giveUp e
  | .ok config =>
    match device with
    | .error message => st.giveUp (.tunDevice message)
    | .ok name => { st with tun := some (name, config), phase := .created info }

def startBypass (info : ServerInfo) (tunName : String) (underlay : Underlay) : VpnClient :=
  let underlay := { underlay with tunName }
  { st with
    bypass :=
      if willAddRoutes S.config info then
        some (bypassRouteManager S.config underlay,
          addIrohBypassRoutes S.platform S.config underlay info.serverAddrs)
      else none
    phase := .bypassed info }

def install (info : ServerInfo) (fails : Nat → Option String) : VpnClient :=
  match installRoutes (fun n => (fails n).map .tunDevice) S.config info st.os with
  -- the guards of the routes and of the bypass task are dropped, and the device
  | (.error e, os) => { st with os, tun := none, bypass := none }.giveUp e
  | (.ok guards, os) =>
    { st with
      os
      status := .setConnected st.now (connectedInfo S.config info) st.bypass.isSome
      phase := .up info guards }

def tunnelEnds (info : ServerInfo) (guards : List RouteGuard) (tunName : String) (how : TunnelEnd)
    (first : List LocalNetwork) (polls : List (List LocalNetwork)) : VpnClient :=
  let result :=
    match (Session.mk S.config info tunName).detected first polls with
    | some err => .error err
    | none => runTunnel how
  { st with
    tun := none
    bypass := none
    status := st.status.setDisconnected
    phase := .leaving guards result }

/-- What `set_reconnecting` is given of the result. -/
def errorText : Except VpnError Unit → String
  | .error e => e.display
  | .ok () => ""

/-- `run_with_reconnect` behind `connect`, or its caller if there is no reconnect. -/
def react (cameUp : Bool) (result : Except VpnError Unit) (jitter : Jitter) : VpnClient :=
  let st := { st with attempts := st.attempts ++ [(cameUp, result)] }
  if !S.autoReconnect then { st with phase := .returned result }
  else
    let loop := st.loop.step S.maxAttempts (result, jitter)
    match loop.result with
    | some r => { st with loop, phase := .returned r }
    | none =>
      let wake := st.now + loop.delays.getLast?.getD 0
      { st with
        loop
        status := st.status.setReconnecting loop.failures (errorText result) wake
        phase := .sleeping wake }

/-- Dropping the future drops the guards it holds; the tasks end with the runtime. -/
def shutdown : VpnClient :=
  let os :=
    match st.phase with
    | .up _ guards | .leaving guards _ => dropGuards guards st.os
    | _ => st.os
  { st with os, tun := none, bypass := none, phase := .stopped }

/-- One step.  An action that does not fit the phase does nothing. -/
def step : ClientAction → VpnClient
  | .tick ms => { st with now := st.now + ms }
  | .dial answer =>
    match st.phase with
    | .dialing => st.dial S answer
    | _ => st
  | .check locals =>
    match st.phase with
    | .answered info => st.check S info locals
    | _ => st
  | .create device =>
    match st.phase with
    | .checked info => st.create info device
    | _ => st
  | .bypass underlay =>
    match st.phase, st.tun with
    | .created info, some (tunName, _) => st.startBypass S info tunName underlay
    | _, _ => st
  | .install fails =>
    match st.phase with
    | .bypassed info => st.install S info fails
    | _ => st
  | .publish update =>
    match st.phase, st.bypass with
    | .up _ _, some (manager, state) =>
      { st with bypass := some (manager, manager.update S.platform state update) }
    | _, _ => st
  | .tunnelEnds how first polls =>
    match st.phase, st.tun with
    | .up info guards, some (tunName, _) => st.tunnelEnds S info guards tunName how first polls
    | _, _ => st
  | .leave =>
    match st.phase with
    | .leaving guards result => { st with os := dropGuards guards st.os, phase := .ended true result }
    | _ => st
  | .react jitter =>
    match st.phase with
    | .ended cameUp result => st.react S cameUp result jitter
    | _ => st
  | .wake =>
    match st.phase with
    | .sleeping wake => if wake ≤ st.now then { st with phase := .dialing } else st
    | _ => st
  | .shutdown =>
    match st.phase with
    | .returned _ | .stopped => st
    | _ => st.shutdown

end VpnClient

end EzVpn
