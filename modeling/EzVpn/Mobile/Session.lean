import EzVpn.Client.Bypass
import EzVpn.Client.Common
import EzVpn.Client.Handshake
import Mathlib.Data.List.Dedup
import Mathlib.Data.List.Sort

/-!
# Sessions of the mobile client

`establish` (src/tunnel/mobile.rs) dials the server, shakes hands and works out which underlay
addresses the tunnel must leave alone; `network_config` is what the app applies to its
interface.  A session that was lost is replaced by another, and it goes on only if both have
the same network configuration.

The relay addresses come out of a hash set, in any order.  `establish_of_same_relays` says that
this order never shows in the configuration: the candidates are sorted.
-/

namespace EzVpn

open Lib

/-! ## Network configuration -/

structure MobileNetworkConfig where
  assignedIp : Option Ipv4Addr
  netmask : Option Ipv4Addr
  gateway : Option Ipv4Addr
  assignedIp6 : Option Ipv6Addr
  prefixLen6 : Option Nat
  gateway6 : Option Ipv6Addr
  mtu : Nat
  excludedRoutes : List String
  excludedRoutes6 : List String
deriving DecidableEq

structure Link where
  serverInfo : ServerInfo
  excludedRoutes : List String
  excludedRoutes6 : List String
deriving DecidableEq

def Link.networkConfig (link : Link) : MobileNetworkConfig :=
  { assignedIp := link.serverInfo.assignedIp
    netmask := link.serverInfo.network.map fun net => ~~~net.hostmask
    gateway := link.serverInfo.serverIp
    assignedIp6 := link.serverInfo.assignedIp6
    prefixLen6 := link.serverInfo.network6.map (·.prefixLen)
    gateway6 := link.serverInfo.serverIp6
    mtu := vpnMtu
    excludedRoutes := link.excludedRoutes
    excludedRoutes6 := link.excludedRoutes6 }

/-! ## Underlay addresses -/

def underlayExclude4 (routes4 : List Ipv4Net) : IpAddr → Option String
  | .v4 a => if !privateScope (.v4 a) && routes4.any (·.contains a) then some (displayIpv4 a ++ "/32") else none
  | .v6 _ => none

def underlayExclude6 (routes6 : List Ipv6Net) : IpAddr → Option String
  | .v4 _ => none
  | .v6 a => if !privateScope (.v6 a) && routes6.any (·.contains a) then some (displayIpv6 a ++ "/128") else none

/-- `overlapping_underlay_excludes`: the two vectors its one loop fills. -/
def overlappingUnderlayExcludes (serverAddrs : List IpAddr) (routes4 : List Ipv4Net)
    (routes6 : List Ipv6Net) : List String × List String :=
  (serverAddrs.filterMap (underlayExclude4 routes4), serverAddrs.filterMap (underlayExclude6 routes6))

/-- `sort` and `dedup`: after the sort equal addresses are neighbours. -/
def sortedCandidates (ips : List IpAddr) : List IpAddr := (ips.mergeSort ipLe).dedup

/-! ## Dialing -/

/-- What a dial meets: an error on the way, or the server's bytes, with the relay addresses in
the order of their set. -/
inductive Dial
  | fails (e : DialError)
  | responds (recv : List Bytes) (relayIps : List IpAddr)

section
variable (fromSlice : Bytes → Except String VpnHandshakeResponse) (routes : List Ipv4Net)
  (routes6 : List Ipv6Net)

def linkOf (info : ServerInfo) (relayIps : List IpAddr) : Link :=
  let candidates := sortedCandidates (relayIps ++ info.serverAddrs)
  let excludes := overlappingUnderlayExcludes candidates (routes ++ info.network.toList)
    (routes6 ++ info.network6.toList)
  ⟨info, excludes.1, excludes.2⟩

def establish : Dial → Except VpnError Link
  | .fails e => .error e.toVpnError
  | .responds recv relayIps =>
    match performHandshake fromSlice recv with
    | .error e => .error e
    | .ok (info, _) => .ok (linkOf routes routes6 info relayIps)

end

/-! ## The order of the candidates -/

theorem mem_sortedCandidates {ips : List IpAddr} {ip : IpAddr} : ip ∈ sortedCandidates ips ↔ ip ∈ ips := by
  rw [sortedCandidates, List.mem_dedup, List.mem_mergeSort]

theorem sorted_sortedCandidates (ips : List IpAddr) :
    (sortedCandidates ips).Pairwise fun a b => ipLe a b = true :=
  (List.pairwise_mergeSort ipLe_trans ipLe_total ips).sublist (List.dedup_sublist _)

/-- The candidates depend on the set of addresses alone. -/
theorem sortedCandidates_congr {ips ips' : List IpAddr} (h : ∀ ip, ip ∈ ips ↔ ip ∈ ips') :
    sortedCandidates ips = sortedCandidates ips' := by
  have hperm : (sortedCandidates ips).Perm (sortedCandidates ips') := by
    refine (List.perm_ext_iff_of_nodup (List.nodup_dedup _) (List.nodup_dedup _)).2 fun ip => ?_
    rw [← sortedCandidates, ← sortedCandidates, mem_sortedCandidates, mem_sortedCandidates]
    exact h ip
  exact hperm.eq_of_pairwise (fun a b _ _ hab hba => ipLe_antisymm hab hba)
    (sorted_sortedCandidates ips) (sorted_sortedCandidates ips')

theorem linkOf_of_same_relays {routes : List Ipv4Net} {routes6 : List Ipv6Net} {info : ServerInfo}
    {relayIps relayIps' : List IpAddr} (h : ∀ ip, ip ∈ relayIps ↔ ip ∈ relayIps') :
    linkOf routes routes6 info relayIps = linkOf routes routes6 info relayIps' := by
  have hcand : sortedCandidates (relayIps ++ info.serverAddrs) =
      sortedCandidates (relayIps' ++ info.serverAddrs) :=
    sortedCandidates_congr fun ip => by rw [List.mem_append, List.mem_append, h ip]
  simp only [linkOf, hcand]

theorem establish_of_same_relays {fromSlice : Bytes → Except String VpnHandshakeResponse}
    {routes : List Ipv4Net} {routes6 : List Ipv6Net} {recv : List Bytes} {relayIps relayIps' : List IpAddr}
    (h : ∀ ip, ip ∈ relayIps ↔ ip ∈ relayIps') :
    establish fromSlice routes routes6 (.responds recv relayIps) =
      establish fromSlice routes routes6 (.responds recv relayIps') := by
  simp only [establish]
  cases performHandshake fromSlice recv with
  | error e => rfl
  | ok r => exact congrArg Except.ok (linkOf_of_same_relays h)

end EzVpn
