import EzVpn.Client.Overlap
import EzVpn.Net.Routes

/-!
# The routes of a session

The part of `connect` that installs routes (src/tunnel/client.rs): the advertised gateway
networks, then the configured routes of the families the server assigned, each batch held by
a guard.  A batch that fails rolls itself back, and leaving `connect` drops the guards of the
batches before it.  `routeInstallation_undone` says what the route table is in either case.
-/

namespace EzVpn

open Lib

/-- The guards are dropped newest first. -/
def dropGuards (guards : List RouteGuard) (os : Os) : Os := guards.foldl (fun os guard => guard.drop os) os

/-- `let _guard = batch?`, with the guards held before it, the newest first. -/
def hold (result : Except VpnError (List RouteGuard) × Os)
    (batch : Option (Os → Except VpnError RouteGuard × Os)) : Except VpnError (List RouteGuard) × Os :=
  match result, batch with
  | (.error e, os), _ => (.error e, os)
  | (.ok guards, os), none => (.ok guards, os)
  | (.ok guards, os), some batch =>
    match batch os with
    | (.ok guard, os) => (.ok (guard :: guards), os)
    | (.error e, os) => (.error e, dropGuards guards os)

section
variable (fails : Nat → Option VpnError) (config : VpnClientConfig) (info : ServerInfo)

def gatewayRoute : Option (Os → Except VpnError RouteGuard × Os) :=
  info.network.map fun net => addRoutes fails [net]

def gatewayRoute6 : Option (Os → Except VpnError RouteGuard × Os) :=
  match info.assignedIp6, info.network6 with
  | some _, some net6 => some (addRoutes6WithSrc fails [net6])
  | _, _ => none

def customRoutes : Option (Os → Except VpnError RouteGuard × Os) :=
  if info.assignedIp.isSome && !config.routes.isEmpty then some (addRoutes fails config.routes) else none

def customRoutes6 : Option (Os → Except VpnError RouteGuard × Os) :=
  if info.assignedIp6.isSome && !config.routes6.isEmpty then some (addRoutes6WithSrc fails config.routes6)
  else none

def installRoutes (os : Os) : Except VpnError (List RouteGuard) × Os :=
  hold (hold (hold (hold (.ok [], os) (gatewayRoute fails info)) (gatewayRoute6 fails info))
    (customRoutes fails config info)) (customRoutes6 fails config info)

end

/-! ## The prefixes asked for -/

section
variable (config : VpnClientConfig) (info : ServerInfo)

/-- The advertised networks of the families that are routed. -/
def gatewayNets : List Ipv4Net × List Ipv6Net :=
  (info.network.toList, (info.assignedIp6.bind fun _ => info.network6).toList)

/-- The configured routes of the assigned families. -/
def configuredNets : List Ipv4Net × List Ipv6Net :=
  (if info.assignedIp.isSome then config.routes else [],
    if info.assignedIp6.isSome then config.routes6 else [])

end

def nets (ns : List Ipv4Net × List Ipv6Net) : List AnyNet := ns.1.map .v4 ++ ns.2.map .v6

/-- Default routes as their halves. -/
def expanded (ns : List Ipv4Net × List Ipv6Net) : List AnyNet :=
  nets (ns.1.flatMap expandDefaultRoute4, ns.2.flatMap expandDefaultRoute6)

theorem nets_contains_v4 (ns : List Ipv4Net × List Ipv6Net) (ip : Ipv4Addr) :
    (∃ net ∈ nets ns, net.contains (.v4 ip) = true) ↔ ∃ net ∈ ns.1, net.contains ip = true := by
  simp [nets, or_and_right, exists_or, AnyNet.contains]

theorem nets_contains_v6 (ns : List Ipv4Net × List Ipv6Net) (ip : Ipv6Addr) :
    (∃ net ∈ nets ns, net.contains (.v6 ip) = true) ↔ ∃ net ∈ ns.2, net.contains ip = true := by
  simp [nets, or_and_right, exists_or, AnyNet.contains]

/-- **Coverage**: the expanded routes contain the addresses the routes contain. -/
theorem expanded_contains (ns : List Ipv4Net × List Ipv6Net) (ip : IpAddr) :
    (∃ k ∈ prefixes (expanded ns), k.contains ip = true) ↔ ∃ net ∈ nets ns, net.contains ip = true := by
  have htrunc : (∃ k ∈ prefixes (expanded ns), k.contains ip = true) ↔
      ∃ net ∈ expanded ns, net.contains ip = true := by
    constructor
    · rintro ⟨k, hk, hip⟩
      obtain ⟨net, hnet, rfl⟩ := mem_prefixes.1 hk
      exact ⟨net, hnet, AnyNet.contains_trunc net ip ▸ hip⟩
    · rintro ⟨net, hnet, hip⟩
      exact ⟨net.trunc, mem_prefixes.2 ⟨net, hnet, rfl⟩, (AnyNet.contains_trunc net ip).trans hip⟩
  rw [htrunc, expanded]
  cases ip with
  | v4 ip =>
    rw [nets_contains_v4, nets_contains_v4]
    exact flatMap_expandDefaultRoute_contains halves4 ns.1 ip
  | v6 ip =>
    rw [nets_contains_v6, nets_contains_v6]
    exact flatMap_expandDefaultRoute_contains halves6 ns.2 ip

theorem expanded_prefixLen {ns : List Ipv4Net × List Ipv6Net} {k : AnyNet} (hk : k ∈ prefixes (expanded ns)) :
    k.prefixLen ≠ 0 := by
  obtain ⟨net, hnet, rfl⟩ := mem_prefixes.1 hk
  rw [AnyNet.prefixLen_trunc]
  simp only [expanded, nets, List.mem_append, List.mem_map, List.mem_flatMap] at hnet
  rcases hnet with ⟨part, ⟨route, -, hpart⟩, rfl⟩ | ⟨part, ⟨route, -, hpart⟩, rfl⟩
  · exact expandDefaultRoute_prefixLen halves4 hpart
  · exact expandDefaultRoute_prefixLen halves6 hpart

/-! ## One batch after the other -/

theorem dropGuards_eq (guards : List RouteGuard) (os : Os) :
    dropGuards guards os = removeRoutes (guards.flatMap fun guard => guard.routes.reverse) os := by
  unfold dropGuards
  induction guards generalizing os with
  | nil => simp [removeRoutes, removeAll]
  | cons guard guards ih =>
    rw [List.foldl_cons, ih, List.flatMap_cons, removeRoutes_append]
    rfl

/-- The routes of the guards, the oldest first. -/
def guardRoutes (guards : List RouteGuard) : List AnyNet := guards.reverse.flatMap RouteGuard.routes

theorem guardRoutes_cons (guard : RouteGuard) (guards : List RouteGuard) :
    guardRoutes (guard :: guards) = guardRoutes guards ++ guard.routes := by
  simp [guardRoutes]

theorem mem_dropped {guards : List RouteGuard} (route : AnyNet) :
    route ∈ guards.flatMap (fun guard => guard.routes.reverse) ↔ route ∈ guardRoutes guards := by
  simp [guardRoutes]

section
variable {fails : Nat → Option VpnError} {os : Os}

theorem hold_outcome {ks ks' : Finset AnyNet} {result : Except VpnError (List RouteGuard) × Os}
    {batch : Option (Os → Except VpnError RouteGuard × Os)} (h : Outcome fails os guardRoutes ks result)
    (hnone : batch = none → ks' = ∅)
    (hbatch : ∀ b, batch = some b → ∀ os', Outcome fails os' RouteGuard.routes ks' (b os')) :
    Outcome fails os guardRoutes (ks ∪ ks') (hold result batch) := by
  rcases h with ⟨guards, os', rfl, hinst⟩ | ⟨e, os', rfl, hn, hu⟩
  · cases batch with
    | none =>
      rw [hnone rfl, Finset.union_empty]
      exact Or.inl ⟨guards, os', rfl, hinst⟩
    | some b =>
      rcases hbatch b rfl os' with ⟨guard, os'', heq, hinst'⟩ | ⟨e, os'', heq, hn, hu⟩
      · refine Or.inl ⟨guard :: guards, os'', by simp only [hold, heq], ?_⟩
        rw [guardRoutes_cons]
        exact hinst.trans hinst'
      · refine Or.inr ⟨e, dropGuards guards os'', by simp only [hold, heq], hn, ?_⟩
        rw [dropGuards_eq]
        exact hinst.undone_trans hu mem_dropped
  · exact Or.inr ⟨e, os', by cases batch <;> rfl, hn, hu⟩

theorem addRoutes_outcome (fails : Nat → Option VpnError) (routes : List Ipv4Net) (os : Os) :
    Outcome fails os RouteGuard.routes (prefixes (expanded (routes, []))) (addRoutes fails routes os) := by
  have h := addLoop_outcome fails ((routes.flatMap expandDefaultRoute4).map .v4) (Installed.refl os)
  rw [Finset.empty_union] at h
  rwa [expanded, nets, List.flatMap_nil, List.map_nil, List.append_nil]

theorem addRoutes6WithSrc_outcome (fails : Nat → Option VpnError) (routes : List Ipv6Net) (os : Os) :
    Outcome fails os RouteGuard.routes (prefixes (expanded ([], routes)))
      (addRoutes6WithSrc fails routes os) := by
  have h := addLoop_outcome fails ((routes.flatMap expandDefaultRoute6).map .v6) (Installed.refl os)
  rwa [Finset.empty_union] at h

end

theorem prefixes_expanded (nets4 : List Ipv4Net) (nets6 : List Ipv6Net) :
    prefixes (expanded (nets4, nets6)) =
      prefixes (expanded (nets4, [])) ∪ prefixes (expanded ([], nets6)) := by
  simp only [expanded, nets, prefixes_append, List.flatMap_nil, List.map_nil, List.append_nil,
    List.nil_append]

/-- Networks that are no default routes are installed as they are. -/
theorem expanded_of_prefixLen {ns : List Ipv4Net × List Ipv6Net} (h : ∀ net ∈ nets ns, net.prefixLen ≠ 0) :
    expanded ns = nets ns := by
  have h4 : ns.1.flatMap expandDefaultRoute4 = ns.1 := by
    refine (List.flatMap_congr fun net hnet => ?_).trans (List.flatMap_singleton' ns.1)
    exact if_pos (h (.v4 net) (List.mem_append_left _ (List.mem_map_of_mem hnet)))
  have h6 : ns.2.flatMap expandDefaultRoute6 = ns.2 := by
    refine (List.flatMap_congr fun net hnet => ?_).trans (List.flatMap_singleton' ns.2)
    exact if_pos (h (.v6 net) (List.mem_append_right _ (List.mem_map_of_mem hnet)))
  rw [expanded, h4, h6]

section
variable (fails : Nat → Option VpnError) (config : VpnClientConfig) (info : ServerInfo)

theorem gateway_outcome (os : Os) :
    Outcome fails os guardRoutes (prefixes (expanded (gatewayNets info)))
      (hold (hold (.ok [], os) (gatewayRoute fails info)) (gatewayRoute6 fails info)) := by
  have hstart : Outcome fails os guardRoutes ∅ (.ok [], os) := Or.inl ⟨[], os, rfl, .refl os⟩
  rw [gatewayNets, prefixes_expanded]
  refine hold_outcome (Finset.empty_union (prefixes _) ▸ hold_outcome hstart ?_ ?_) ?_ ?_
  · intro hnone
    rw [Option.map_eq_none_iff.1 hnone]
    rfl
  · intro b hb os'
    obtain ⟨net, hnet, rfl⟩ := Option.map_eq_some_iff.1 hb
    rw [hnet]
    exact addRoutes_outcome fails [net] os'
  · intro hnone
    unfold gatewayRoute6 at hnone
    cases hip : info.assignedIp6 <;> cases hnet : info.network6 <;> rw [hip, hnet] at hnone <;>
      first | rfl | cases hnone
  · intro b hb os'
    unfold gatewayRoute6 at hb
    cases hip : info.assignedIp6 <;> cases hnet : info.network6 <;> rw [hip, hnet] at hb <;> cases hb
    exact addRoutes6WithSrc_outcome fails _ os'

variable {fails} in
/-- The batch of one family's configured routes.  An empty list is not handed to a batch, which
would add nothing anyway. -/
theorem hold_configured {α : Type} {os : Os} {ks : Finset AnyNet}
    {result : Except VpnError (List RouteGuard) × Os} (assigned : Bool) {routes : List α}
    {batch : Os → Except VpnError RouteGuard × Os} (ksOf : List α → Finset AnyNet)
    (h : Outcome fails os guardRoutes ks result) (hnil : ksOf [] = ∅)
    (hbatch : ∀ os', Outcome fails os' RouteGuard.routes (ksOf routes) (batch os')) :
    Outcome fails os guardRoutes (ks ∪ ksOf (if assigned then routes else []))
      (hold result (if assigned && !routes.isEmpty then some batch else none)) := by
  refine hold_outcome h (fun hnone => ?_) (fun b hb os' => ?_)
  · split at hnone
    · cases hnone
    · next hc =>
      cases assigned with
      | false => exact hnil
      | true =>
        cases routes with
        | nil => exact hnil
        | cons route routes => exact absurd rfl hc
  · split at hb
    · next hc =>
      obtain rfl := Option.some.inj hb
      rw [if_pos (Bool.and_eq_true_iff.1 hc).1]
      exact hbatch os'
    · cases hb

theorem custom_outcome {os : Os} {ks : Finset AnyNet} {result : Except VpnError (List RouteGuard) × Os}
    (h : Outcome fails os guardRoutes ks result) :
    Outcome fails os guardRoutes (ks ∪ prefixes (expanded (configuredNets config info)))
      (hold (hold result (customRoutes fails config info)) (customRoutes6 fails config info)) := by
  have h4 := hold_configured info.assignedIp.isSome
    (fun routes => prefixes (expanded (routes, []))) h rfl (addRoutes_outcome fails config.routes)
  have h6 := hold_configured info.assignedIp6.isSome
    (fun routes => prefixes (expanded ([], routes))) h4 rfl
    (addRoutes6WithSrc_outcome fails config.routes6)
  rwa [configuredNets, prefixes_expanded, ← Finset.union_assoc]

end

/-- **Routes.**  For every route table, assignment, configuration and pattern of failing adds:
if an add fails the table is as before.  Otherwise it has the advertised networks and the
configured routes of the assigned families in addition, default routes as halves, and dropping
the guards restores it.  Nothing that was in the table is ever removed. -/
theorem routeInstallation_undone (fails : Nat → Option VpnError) (config : VpnClientConfig)
    (info : ServerInfo) (table : Finset AnyNet) :
    match installRoutes fails config info (Os.start table) with
    | (.error e, os) => (∃ n, fails n = some e) ∧ os.table = table ∧ ∀ k ∈ os.removed, k ∉ table
    | (.ok guards, os) =>
      os.table = table ∪ (prefixes (expanded (gatewayNets info)) ∪
        prefixes (expanded (configuredNets config info))) ∧ os.removed = [] ∧
      ((∀ net ∈ nets (gatewayNets info), net.prefixLen ≠ 0) →
        expanded (gatewayNets info) = nets (gatewayNets info)) ∧
      (∀ ip, (∃ k ∈ prefixes (expanded (configuredNets config info)), k.contains ip = true) ↔
        ∃ net ∈ nets (configuredNets config info), net.contains ip = true) ∧
      (∀ k ∈ prefixes (expanded (configuredNets config info)), k.prefixLen ≠ 0) ∧
      (dropGuards guards os).table = table ∧ ∀ k ∈ (dropGuards guards os).removed, k ∉ table := by
  have h : Outcome fails (Os.start table) guardRoutes _ (installRoutes fails config info (Os.start table)) :=
    custom_outcome fails config info (gateway_outcome fails info (Os.start table))
  rcases h with ⟨guards, os, heq, hinst⟩ | ⟨e, os, heq, hn, hu⟩
  · rw [heq]
    have hu := hinst.undone mem_dropped
    rw [← dropGuards_eq] at hu
    obtain ⟨htable, ks, hremoved, hfresh⟩ := hu
    refine ⟨hinst.table, hinst.removed, expanded_of_prefixLen, expanded_contains _,
      fun k hk => expanded_prefixLen hk, htable, fun k hk => hfresh k ?_⟩
    rwa [hremoved] at hk
  · rw [heq]
    obtain ⟨htable, ks, hremoved, hfresh⟩ := hu
    refine ⟨hn, htable, fun k hk => hfresh k ?_⟩
    rwa [hremoved] at hk

/-- A server that advertises 0.0.0.0/0. -/
def defaultGateway : ServerInfo :=
  { assignedIp := some 0x0a000002#32
    network := some ⟨0#32, 0, by decide⟩
    serverIp := some 0x0a000001#32
    assignedIp6 := none
    network6 := none
    serverIp6 := none
    serverAddrs := [] }

/-- An advertised default network is in the table as its halves, not as it is. -/
theorem gatewayRoute_default_halved :
    (installRoutes (fun _ => none) ⟨[], []⟩ defaultGateway (Os.start ∅)).1.isOk = true ∧
    (installRoutes (fun _ => none) ⟨[], []⟩ defaultGateway (Os.start ∅)).2.table =
      {.v4 ⟨0#32, 1, by decide⟩, .v4 ⟨0x80000000#32, 1, by decide⟩} ∧
    .v4 ⟨0#32, 0, by decide⟩ ∉
      (installRoutes (fun _ => none) ⟨[], []⟩ defaultGateway (Os.start ∅)).2.table := by
  refine ⟨?_, ?_, ?_⟩ <;> decide +kernel

end EzVpn
