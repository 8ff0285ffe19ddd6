import EzVpn.Net.Routes

/-!
# Bypass routes

`add_bypass_route` (src/net/device.rs): a host route that keeps one underlay address off the
tunnel.  The route the system has for the address is looked up, replaced by the default gateway
captured before the VPN routes went up where it is of no use, and added by the platform's
command.  What the lookup and the command answer is arbitrary; the commands issued are part of
the result.
-/

namespace EzVpn

/-- Where a route leads: the fields that `BypassRouteInfo`, `UnderlayGateway` and
`BypassRouteGuard` share. -/
structure NextHop where
  device : String
  gateway : Option IpAddr
  /-- The gateway as printed, with its scope. -/
  gatewayStr : Option String
  ifIndex : Option UInt32

abbrev UnderlayGateway := NextHop

structure BypassRouteInfo extends NextHop where
  peerIp : IpAddr

structure BypassRouteGuard extends BypassRouteInfo where
  /-- This process created the route. -/
  owned : Bool

/-- `repin_via_fallback`, or the refusal. -/
def repinViaFallback (info : BypassRouteInfo) (underlayFallback : Option UnderlayGateway)
    (refusal : String) : Except VpnError BypassRouteInfo :=
  match underlayFallback with
  | some fb =>
    if fb.gateway.isSome then .ok { info with toNextHop := fb } else .error (.tunDevice refusal)
  | none => .error (.tunDevice refusal)

def resolveBypassRouteInfo (info : BypassRouteInfo) (disallowDevice : Option String)
    (underlayFallback : Option UnderlayGateway) : Except VpnError BypassRouteInfo :=
  let peerIp := displayIp info.peerIp
  let device := info.device
  if disallowDevice = some device then
    repinViaFallback info underlayFallback
      (s!"Refusing bypass route for {peerIp}: route lookup resolved via VPN tunnel interface " ++
        s!"{device} (no captured underlay gateway to fall back to)")
  else if info.gateway.isNone then
    repinViaFallback info underlayFallback
      (s!"Refusing bypass route for {peerIp}: no next-hop gateway resolved via {device} " ++
        "and no captured underlay gateway to fall back to " ++
        "(would create a link-scope route that black-holes the address)")
  else .ok info

/-! ## The platform's command -/

inductive Platform
  | linux
  | macos
  | windows

inductive RouteCommand
  | ip (args : List String)
  | route (args : List String)
  | powershell (script : String)
deriving DecidableEq

def noGateway (info : BypassRouteInfo) : VpnError :=
  .tunDevice s!"Refusing link-scope bypass route for {displayIp info.peerIp} (no gateway)"

def IpAddr.isIpv6 : IpAddr → Bool
  | v4 _ => false
  | v6 _ => true

/-- The command of `add_bypass_route_impl`, or its refusal to run one. -/
def bypassCommand (platform : Platform) (info : BypassRouteInfo) : Except VpnError RouteCommand :=
  let peerIp := displayIp info.peerIp
  let bits := if info.peerIp.isIpv6 then 128 else 32
  match platform with
  | .linux =>
    match info.gateway with
    | none => .error (noGateway info)
    | some gw =>
      .ok (.ip ((if info.peerIp.isIpv6 then ["-6"] else []) ++ ["route", "add", s!"{peerIp}/{bits}"] ++
        ["via", displayIp gw] ++ ["dev", info.device]))
  | .macos =>
    match info.gatewayStr with
    | none => .error (noGateway info)
    | some gwStr =>
      .ok (.route (["add"] ++ (if info.peerIp.isIpv6 then ["-inet6"] else []) ++
        ["-host", peerIp, gwStr]))
  | .windows =>
    match info.gateway, info.ifIndex with
    | none, _ => .error (noGateway info)
    | some _, none =>
      .error (.tunDevice s!"Refusing bypass route for {peerIp} (no interface index resolved)")
    | some gw, some ifIndex =>
      let idx := ifIndex.toNat
      let nextHop := displayIp gw
      .ok (.powershell ("$ErrorActionPreference='Stop'; " ++
        s!"New-NetRoute -DestinationPrefix '{peerIp}/{bits}' -InterfaceIndex {idx} " ++
        s!"-NextHop '{nextHop}' -PolicyStore ActiveStore -ErrorAction Stop | Out-Null"))

/-- A command that was run, the route it is for and what came of it. -/
structure BypassInstall where
  info : BypassRouteInfo
  command : RouteCommand
  answer : Except VpnError RouteAddOutcome

namespace BypassInstall

variable (install : BypassInstall)

/-- A route that was there before counts as installed. -/
def succeeded : Bool := install.answer.isOk

def guard : Except VpnError BypassRouteGuard :=
  install.answer.map fun outcome => { install.info with owned := outcome = .added }

theorem isSome_guard : install.guard.toOption.isSome = install.succeeded := by
  unfold guard succeeded
  cases install.answer <;> rfl

end BypassInstall

/-- What the system answers while one bypass route is added. -/
structure BypassAnswers where
  /-- `query_route_for_ip`. -/
  lookup : Except VpnError NextHop
  /-- The command, if it is run. -/
  add : Except VpnError RouteAddOutcome

/-- The result, and the commands run. -/
def addBypassRoute (platform : Platform) (os : BypassAnswers) (peerIp : IpAddr)
    (disallowDevice : Option String) (underlayFallback : Option UnderlayGateway) :
    Except VpnError BypassRouteGuard × List BypassInstall :=
  match os.lookup with
  | .error e => (.error e, [])
  | .ok hop =>
    match resolveBypassRouteInfo ⟨hop, peerIp⟩ disallowDevice underlayFallback with
    | .error e => (.error e, [])
    | .ok info =>
      match bypassCommand platform info with
      | .error e => (.error e, [])
      | .ok command =>
        let install : BypassInstall := ⟨info, command, os.add⟩
        (install.guard, [install])

/-! ## What is installed -/

section
variable {info info' : BypassRouteInfo} {underlayFallback : Option UnderlayGateway}

theorem repinViaFallback_ok {refusal : String} (h : repinViaFallback info underlayFallback refusal = .ok info') :
    ∃ fb, underlayFallback = some fb ∧ fb.gateway.isSome = true ∧ info' = { info with toNextHop := fb } := by
  unfold repinViaFallback at h
  cases underlayFallback with
  | none => cases h
  | some fb =>
    simp only at h
    split at h
    · next hgw => exact ⟨fb, rfl, hgw, (Except.ok.inj h).symm⟩
    · cases h

/-- A resolved route is for the same address.  It is the one looked up, with a gateway and off the
disallowed device, or it leads to the fallback's gateway. -/
theorem resolveBypassRouteInfo_ok {disallowDevice : Option String}
    (h : resolveBypassRouteInfo info disallowDevice underlayFallback = .ok info') :
    info'.peerIp = info.peerIp ∧ info'.gateway.isSome = true ∧
      (disallowDevice ≠ some info'.device ∨ underlayFallback = some info'.toNextHop) := by
  unfold resolveBypassRouteInfo at h
  simp only at h
  split at h
  · obtain ⟨fb, hfb, hgw, rfl⟩ := repinViaFallback_ok h
    exact ⟨rfl, hgw, Or.inr hfb⟩
  · next hdev =>
    split at h
    · obtain ⟨fb, hfb, hgw, rfl⟩ := repinViaFallback_ok h
      exact ⟨rfl, hgw, Or.inr hfb⟩
    · next hgw =>
      obtain rfl := Except.ok.inj h
      exact ⟨rfl, Option.isSome_iff_ne_none.2 (by simpa using hgw), Or.inl hdev⟩

end

/-- The install is for `peerIp`, through a gateway and past the tunnel. -/
structure BypassInstall.OffTunnel (tunName : String) (peerIp : IpAddr) (install : BypassInstall) : Prop where
  peerIp : install.info.peerIp = peerIp
  gateway : install.info.gateway.isSome = true
  device : install.info.device ≠ tunName

section
variable (platform : Platform) (os : BypassAnswers) (peerIp : IpAddr) {tunName : String}
  {underlayFallback : Option UnderlayGateway}

/-- Either nothing is run, or one command for the address. -/
theorem addBypassRoute_cases (disallowDevice : Option String) (underlayFallback : Option UnderlayGateway) :
    (∃ e, addBypassRoute platform os peerIp disallowDevice underlayFallback = (.error e, [])) ∨
    ∃ install : BypassInstall,
      addBypassRoute platform os peerIp disallowDevice underlayFallback = (install.guard, [install]) ∧
      install.info.peerIp = peerIp ∧ install.info.gateway.isSome = true ∧
      (disallowDevice ≠ some install.info.device ∨ underlayFallback = some install.info.toNextHop) := by
  unfold addBypassRoute
  cases os.lookup with
  | error e => exact Or.inl ⟨e, rfl⟩
  | ok hop =>
    cases hinfo : resolveBypassRouteInfo ⟨hop, peerIp⟩ disallowDevice underlayFallback with
    | error e => exact Or.inl ⟨e, by simp only [hinfo]⟩
    | ok info =>
      cases hcommand : bypassCommand platform info with
      | error e => exact Or.inl ⟨e, by simp only [hinfo, hcommand]⟩
      | ok command =>
        exact Or.inr ⟨⟨info, command, os.add⟩, by simp only [hinfo, hcommand],
          resolveBypassRouteInfo_ok hinfo⟩

theorem mem_addBypassRoute {disallowDevice : Option String} {underlayFallback : Option UnderlayGateway}
    {install : BypassInstall}
    (h : install ∈ (addBypassRoute platform os peerIp disallowDevice underlayFallback).2) :
    install.info.peerIp = peerIp ∧ install.info.gateway.isSome = true ∧
      (disallowDevice ≠ some install.info.device ∨ underlayFallback = some install.info.toNextHop) := by
  rcases addBypassRoute_cases platform os peerIp disallowDevice underlayFallback with
    ⟨e, heq⟩ | ⟨install', heq, hinstall⟩
  · rw [heq] at h
    cases h
  · rw [heq] at h
    obtain rfl := List.mem_singleton.1 h
    exact hinstall

theorem addBypassRoute_offTunnel (hgw : ∀ gw, underlayFallback = some gw → gw.device ≠ tunName) :
    ∀ install ∈ (addBypassRoute platform os peerIp (some tunName) underlayFallback).2,
      install.OffTunnel tunName peerIp := by
  intro install hmem
  obtain ⟨hip, hgateway, hdev⟩ := mem_addBypassRoute platform os peerIp hmem
  refine ⟨hip, hgateway, ?_⟩
  rcases hdev with hdev | hfb
  · exact fun h => hdev (congrArg some h.symm)
  · exact hgw _ hfb

end

end EzVpn
