import EzVpn.Client.Bypass
import EzVpn.Client.Routes

/-!
# Bypass routes of a session

What `connect` and `add_iroh_bypass_routes` (src/tunnel/client.rs) make of the bypass route
manager: it is started if some configured route will be installed, given the relays' addresses
and those of the handshake response, and then the sets the server publishes.

`connect` installs the configured routes of the families the server assigned, but the manager is
given the configured routes of both.  With one family assigned, addresses of the other are
bypassed that no route captures (`bypassed_iff_captured`).
-/

namespace EzVpn

open Lib

/-- What the session finds around it. -/
structure Underlay where
  tunName : String
  /-- `capture_underlay_gateway`. -/
  captureUnderlayGateway : (isIpv6 : Bool) → Option UnderlayGateway
  /-- `collect_relay_ips`. -/
  relayIps : List IpAddr
  /-- What the system answers while the first set is applied. -/
  os : IpAddr → BypassAnswers

section
variable (platform : Platform) (config : VpnClientConfig) (info : ServerInfo) (underlay : Underlay)
  (published : List AddressUpdate)

def willAddRoutes : Bool :=
  (info.assignedIp.isSome && !config.routes.isEmpty) || (info.assignedIp6.isSome && !config.routes6.isEmpty)

def bypassRouteManager : BypassRouteManager where
  vpnTunName := underlay.tunName
  vpnRoutes4 := config.routes
  vpnRoutes6 := config.routes6
  underlayGw4 := if config.routes.isEmpty then none else underlay.captureUnderlayGateway false
  underlayGw6 := if config.routes6.isEmpty then none else underlay.captureUnderlayGateway true

/-- `bootstrap_ips`.  The order is one of those in which the set can be iterated; since every
address has its own track, the others give the same routes. -/
def bootstrapIps (initialServerAddrs : List IpAddr) : AddressUpdate where
  requiredIps := (underlay.relayIps ++ initialServerAddrs).dedup
  nodup := List.nodup_dedup _
  os := underlay.os

/-- The manager's state when `add_iroh_bypass_routes` returns. -/
def addIrohBypassRoutes (initialServerAddrs : List IpAddr) : BypassState :=
  let bootstrap := bootstrapIps underlay initialServerAddrs
  if bootstrap.requiredIps.isEmpty then .start
  else (bypassRouteManager config underlay).update platform .start bootstrap

/-- The bypass part of `connect`, after the server has published some sets. -/
def bypassSession : BypassState :=
  if willAddRoutes config info then
    run ((bypassRouteManager config underlay).update platform)
      (addIrohBypassRoutes platform config underlay info.serverAddrs) published
  else .start

/-! ## Which addresses are bypassed -/

/-- An address of a relay, or one of the server's, from the handshake response or published. -/
def Candidate (ip : IpAddr) : Prop :=
  ip ∈ underlay.relayIps ∨ ip ∈ info.serverAddrs ∨ ∃ u ∈ published, ip ∈ u.requiredIps

/-- A configured route that is installed contains the address. -/
def Captured (ip : IpAddr) : Prop := ∃ net ∈ nets (configuredNets config info), net.contains ip = true

/-- A configured route contains the address and is not installed, since the server assigned only
the other family, which has routes. -/
def Stray : IpAddr → Prop
  | .v4 a => info.assignedIp = none ∧ (∃ net ∈ config.routes, net.contains a = true) ∧
      info.assignedIp6 ≠ none ∧ config.routes6 ≠ []
  | .v6 a => info.assignedIp6 = none ∧ (∃ net ∈ config.routes6, net.contains a = true) ∧
      info.assignedIp ≠ none ∧ config.routes ≠ []

theorem willAddRoutes_iff : willAddRoutes config info = true ↔
    (info.assignedIp ≠ none ∧ config.routes ≠ []) ∨ (info.assignedIp6 ≠ none ∧ config.routes6 ≠ []) := by
  simp [willAddRoutes, Option.isSome_iff_ne_none]

theorem captured_v4 (a : Ipv4Addr) : Captured config info (.v4 a) ↔
    info.assignedIp ≠ none ∧ ∃ net ∈ config.routes, net.contains a = true := by
  rw [Captured, nets_contains_v4, configuredNets]
  cases info.assignedIp <;> simp

theorem captured_v6 (a : Ipv6Addr) : Captured config info (.v6 a) ↔
    info.assignedIp6 ≠ none ∧ ∃ net ∈ config.routes6, net.contains a = true := by
  rw [Captured, nets_contains_v6, configuredNets]
  cases info.assignedIp6 <;> simp

/-- A route that covers is there to be installed, so without the other family the manager runs for
the covered addresses of an assigned one only. -/
theorem runs_and_covers {absent routed covered other : Prop} (h : covered → routed) :
    (((¬ absent ∧ routed) ∨ other) ∧ covered) ↔ (¬ absent ∧ covered) ∨ (absent ∧ covered ∧ other) := by
  tauto

/-- The manager runs and covers the address exactly if a route captures it or it strays. -/
theorem covered_iff (ip : IpAddr) :
    (willAddRoutes config info = true ∧ (bypassRouteManager config underlay).ipCoveredByVpnRoutes ip = true) ↔
      Captured config info ip ∨ Stray config info ip := by
  cases ip with
  | v4 a =>
    rw [willAddRoutes_iff, captured_v4, BypassRouteManager.ipCoveredByVpnRoutes, List.any_eq_true]
    exact runs_and_covers fun ⟨_, hnet, _⟩ => List.ne_nil_of_mem hnet
  | v6 a =>
    rw [willAddRoutes_iff, or_comm, captured_v6, BypassRouteManager.ipCoveredByVpnRoutes, List.any_eq_true]
    exact runs_and_covers fun ⟨_, hnet, _⟩ => List.ne_nil_of_mem hnet

theorem not_captured_of_stray {ip : IpAddr} (h : Stray config info ip) : ¬ Captured config info ip := by
  cases ip with
  | v4 a => exact fun hc => ((captured_v4 config info a).1 hc).1 h.1
  | v6 a => exact fun hc => ((captured_v6 config info a).1 hc).1 h.1

theorem mem_addIrohBypassRoutes (initialServerAddrs : List IpAddr) (ip : IpAddr) :
    ip ∈ (addIrohBypassRoutes platform config underlay initialServerAddrs).collected ↔
      (bypassRouteManager config underlay).needed ip = true ∧
        (ip ∈ underlay.relayIps ∨ ip ∈ initialServerAddrs) := by
  have hmem : ip ∈ (bootstrapIps underlay initialServerAddrs).requiredIps ↔
      ip ∈ underlay.relayIps ∨ ip ∈ initialServerAddrs :=
    List.mem_dedup.trans List.mem_append
  unfold addIrohBypassRoutes
  simp only
  rw [← hmem]
  split
  · next hempty => simp [List.isEmpty_iff.1 hempty, BypassState.start]
  · simp [BypassRouteManager.collected_update, BypassRouteManager.required, BypassState.start, and_comm]

theorem mem_bypassSession (ip : IpAddr) :
    ip ∈ (bypassSession platform config info underlay published).collected ↔
      Candidate info underlay published ip ∧ privateScope ip = false ∧
        (Captured config info ip ∨ Stray config info ip) := by
  rw [← covered_iff config info underlay]
  unfold bypassSession
  split
  · next hwill =>
    rw [BypassRouteManager.mem_collected_run, mem_addIrohBypassRoutes, BypassRouteManager.needed,
      Bool.and_eq_true, Bool.not_eq_true', hwill, Candidate]
    tauto
  · next hwill => simp [hwill, BypassState.start]

/-- **Which addresses are bypassed.**  For all configured routes, server responses and candidates:
the client collects the candidates outside the private ranges that a configured route of an
assigned family captures, and those that stray.  It collects exactly the former if and only if
none strays. -/
theorem bypassed_iff_captured :
    (∀ ip, Candidate info underlay published ip → privateScope ip = false → Captured config info ip →
      ip ∈ (bypassSession platform config info underlay published).collected) ∧
    ((∀ ip, ip ∈ (bypassSession platform config info underlay published).collected ↔
        Candidate info underlay published ip ∧ privateScope ip = false ∧ Captured config info ip) ↔
      ∀ ip, Candidate info underlay published ip → privateScope ip = false → ¬ Stray config info ip) := by
  refine ⟨fun ip hcand hscope hcap => ?_, fun h ip hcand hscope hstray => ?_, fun h ip => ?_⟩
  · exact (mem_bypassSession ..).2 ⟨hcand, hscope, Or.inl hcap⟩
  · have hmem := (mem_bypassSession platform config info underlay published ip).2
      ⟨hcand, hscope, Or.inr hstray⟩
    exact not_captured_of_stray config info hstray ((h ip).1 hmem).2.2
  · rw [mem_bypassSession]
    refine and_congr_right fun hcand => and_congr_right fun hscope => ?_
    exact or_iff_left (h ip hcand hscope)

end

/-! ## An address that strays -/

/-- A server that assigns IPv4 only and has an IPv6 underlay address. -/
def ipv4OnlyServer : ServerInfo :=
  { roaming.info with serverAddrs := [.v6 0x20010db8000000000000000000000001#128] }

/-- Routes for 172.16.0.0/12 and 2001:db8::/32. -/
def bothFamilies : VpnClientConfig :=
  ⟨[⟨0xac100000#32, 12, by decide⟩], [⟨0x20010db8000000000000000000000000#128, 32, by decide⟩]⟩

/-- A host with a default route of both families. -/
def dualStackUnderlay : Underlay where
  tunName := "tun0"
  captureUnderlayGateway := fun isIpv6 =>
    if isIpv6 then some ⟨"eth0", some (.v6 0xfe800000000000000000000000000001#128), some "fe80::1", none⟩
    else some ⟨"eth0", some (.v4 0xc0a80101#32), some "192.168.1.1", none⟩
  relayIps := []
  os := fun _ =>
    ⟨.ok ⟨"eth0", some (.v6 0xfe800000000000000000000000000001#128), some "fe80::1", none⟩, .ok .added⟩

/-- The IPv6 address is collected and gets a host route, though no IPv6 route is installed. -/
theorem bypassed_without_route :
    Candidate ipv4OnlyServer dualStackUnderlay [] (.v6 0x20010db8000000000000000000000001#128) ∧
    privateScope (.v6 0x20010db8000000000000000000000001#128) = false ∧
    (configuredNets bothFamilies ipv4OnlyServer).2 = [] ∧
    ¬ Captured bothFamilies ipv4OnlyServer (.v6 0x20010db8000000000000000000000001#128) ∧
    (bypassSession .linux bothFamilies ipv4OnlyServer dualStackUnderlay []).collected =
      {.v6 0x20010db8000000000000000000000001#128} ∧
    (bypassSession .linux bothFamilies ipv4OnlyServer dualStackUnderlay []).installs.map
        (fun install => (install.command, install.succeeded)) =
      [(.ip ["-6", "route", "add", "2001:db8::1/128", "via", "fe80::1", "dev", "eth0"], true)] := by
  refine ⟨Or.inr (Or.inl (by decide)), by decide +kernel, rfl, ?_, by decide +kernel, by decide +kernel⟩
  rw [captured_v6]
  exact fun h => h.1 rfl

end EzVpn
