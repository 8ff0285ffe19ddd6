import EzVpn.Net.Addr

/-!
# Errors and configuration

`VpnError` (src/error.rs) and the parts of the server configuration that the
address pools read (src/config/mod.rs).
-/

namespace EzVpn

/-- `VpnError`; an `ErrorContext` or a boxed I/O error is its message. -/
inductive VpnError
  | tunDevice (message : String)
  | network (message : String)
  | config (message : String)
  | signaling (message : String)
  | authenticationFailed (message : String)
  | ipAssignment (message : String)
  | connectionLost (message : String)
  | maxReconnectAttemptsExceeded (attempts : Nat)
  | serverConfigChanged (message : String)
  | routeOverlapsLocalNetwork (route localNet : AnyNet) (interface : String)
deriving DecidableEq, Repr

/-- `is_recoverable`: worth another attempt. -/
def VpnError.isRecoverable : VpnError → Bool
  | connectionLost _ | network _ | signaling _ => true
  | _ => false

/-- `Ip6Strategy`. -/
inductive Ip6Strategy
  | sequential
  | nodeId
deriving DecidableEq, Repr

/-- `validate_ip6_strategy`: node-id needs a subnet of /64 or wider and no server
address of its own. -/
def validateIp6Strategy (strategy : Ip6Strategy) (network6 : Option Ipv6Net)
    (serverIp6 : Option Ipv6Addr) : Except String Unit :=
  if strategy ≠ .nodeId then .ok ()
  else
    match network6 with
    | none => .error "ip6_strategy 'node-id' requires 'network6' to be set"
    | some network6 =>
      if network6.prefixLen > 64 then
        .error s!"ip6_strategy 'node-id' requires an IPv6 subnet of /64 or wider (got /{network6.prefixLen})"
      else if serverIp6.isSome then
        .error ("'server_ip6' cannot be combined with ip6_strategy 'node-id' " ++
          "(the server address is derived from the server node id)")
      else .ok ()

/-- `validate_vpn_networks`. -/
def validateVpnNetworks (network : Option Ipv4Net) (serverIp : Option Ipv4Addr)
    (network6 : Option Ipv6Net) (serverIp6 : Option Ipv6Addr) (ip6Strategy : Ip6Strategy) :
    Except String Unit := do
  if network.isNone && network6.isNone then
    throw "At least one of 'network' (IPv4) or 'network6' (IPv6) must be configured"
  if serverIp.isSome && network.isNone then
    throw "'server_ip' requires 'network' to be set"
  if let (some serverIp, some network) := (serverIp, network) then
    if !network.contains serverIp then
      throw (s!"'server_ip' {displayIpv4 serverIp} is not within 'network' " ++
        s!"{displayIpv4 network.addr}/{network.prefixLen}")
  if serverIp6.isSome && network6.isNone then
    throw "'server_ip6' requires 'network6' to be set"
  if let (some serverIp6, some network6) := (serverIp6, network6) then
    if !network6.contains serverIp6 then
      throw (s!"'server_ip6' {displayIpv6 serverIp6} is not within 'network6' " ++
        s!"{displayIpv6 network6.addr}/{network6.prefixLen}")
  validateIp6Strategy ip6Strategy network6 serverIp6

/-- `VpnServerConfig`; the authorized keys are a list of parsed public keys. -/
structure VpnServerConfig (PublicKey : Type) where
  network : Option Ipv4Net
  network6 : Option Ipv6Net
  serverIp : Option Ipv4Addr
  serverIp6 : Option Ipv6Addr
  ip6Strategy : Ip6Strategy
  maxClients : Nat
  authorizedKeys : List PublicKey

def VpnServerConfig.validate {PublicKey : Type} (c : VpnServerConfig PublicKey) : Except String Unit :=
  validateVpnNetworks c.network c.serverIp c.network6 c.serverIp6 c.ip6Strategy

end EzVpn
