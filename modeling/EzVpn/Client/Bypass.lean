import EzVpn.Lib.Keyed
import EzVpn.Lib.Map
import EzVpn.Net.Bypass
import Mathlib.Data.Finset.Dedup
import Mathlib.Data.Finset.Lattice.Lemmas

/-!
# The bypass route manager

`BypassRouteManager` (src/tunnel/client.rs) is given one set of underlay addresses after the
other and adds a bypass route for each that a VPN route captures.  A session is a list of such
updates, with what the system answers for each address.

The manager treats every address by itself: `track` is all it knows and all it has run for one
address, and a session is on each track a session of that address alone (`track_run`).  What
holds of the manager is proved on the tracks.
-/

namespace EzVpn

open Lib

/-- `private_scope`. -/
def privateScope : IpAddr → Bool
  -- `is_private`, `is_link_local`
  | .v4 a =>
    a >>> 24 = 10#32 || a >>> 20 = 0xac1#32 || a >>> 16 = 0xc0a8#32 || a >>> 16 = 0xa9fe#32
  -- `is_unique_local`, `is_unicast_link_local`
  | .v6 a =>
    (a >>> 112) &&& 0xfe00#128 = 0xfc00#128 || (a >>> 112) &&& 0xffc0#128 = 0xfe80#128

/-- The part of `BypassRouteManager` that is set at the start. -/
structure BypassRouteManager where
  vpnTunName : String
  vpnRoutes4 : List Ipv4Net
  vpnRoutes6 : List Ipv6Net
  underlayGw4 : Option UnderlayGateway
  underlayGw6 : Option UnderlayGateway

/-- The part that changes, and the commands run so far. -/
structure BypassState where
  activeRoutes : Map IpAddr BypassRouteGuard
  collected : Finset IpAddr
  installs : List BypassInstall

def BypassState.start : BypassState := ⟨∅, ∅, []⟩

/-- One call of `update`: the addresses, in the order in which the set is iterated, and the
answers for each of them. -/
structure AddressUpdate where
  requiredIps : List IpAddr
  nodup : requiredIps.Nodup
  os : IpAddr → BypassAnswers

namespace BypassRouteManager

variable (platform : Platform) (manager : BypassRouteManager)

def ipCoveredByVpnRoutes : IpAddr → Bool
  | .v4 v4 => manager.vpnRoutes4.any fun net => net.contains v4
  | .v6 v6 => manager.vpnRoutes6.any fun net => net.contains v6

/-- The filter of `update`. -/
def needed (ip : IpAddr) : Bool := !privateScope ip && manager.ipCoveredByVpnRoutes ip

def underlayFallback : IpAddr → Option UnderlayGateway
  | .v4 _ => manager.underlayGw4
  | .v6 _ => manager.underlayGw6

/-- `add_bypass_route` as `update` calls it. -/
def addFor (os : BypassAnswers) (ip : IpAddr) : Except VpnError BypassRouteGuard × List BypassInstall :=
  addBypassRoute platform os ip (some manager.vpnTunName) (manager.underlayFallback ip)

/-- One turn of the loop over `to_add`. -/
def addOne (os : IpAddr → BypassAnswers) (s : BypassState) (ip : IpAddr) : BypassState :=
  match manager.addFor platform (os ip) ip with
  | (.ok guard, installs) =>
    { s with activeRoutes := s.activeRoutes.insert ip guard, installs := s.installs ++ installs }
  -- logged and skipped
  | (.error _, installs) => { s with installs := s.installs ++ installs }

/-- `required_ips` behind the filter. -/
def required (u : AddressUpdate) : List IpAddr := u.requiredIps.filter manager.needed

/-- The addresses to bypass are noted before any of them is tried. -/
def collect (s : BypassState) (u : AddressUpdate) : BypassState :=
  if (manager.required u).isEmpty then s
  else { s with collected := s.collected ∪ (manager.required u).toFinset }

def toAdd (s : BypassState) (u : AddressUpdate) : List IpAddr :=
  (manager.required u).filter fun ip => (s.activeRoutes.lookup ip).isNone

def update (s : BypassState) (u : AddressUpdate) : BypassState :=
  let s := manager.collect s u
  (manager.toAdd s u).foldl (manager.addOne platform u.os) s

/-- A session: `run_bypass_route_manager` applies the sets as they come. -/
def session (updates : List AddressUpdate) : BypassState :=
  run (manager.update platform) .start updates

end BypassRouteManager

/-! ## One address -/

/-- The guard of one address and the commands run for it. -/
abbrev Track := Option BypassRouteGuard × List BypassInstall

def BypassState.track (ip : IpAddr) (s : BypassState) : Track :=
  (s.activeRoutes.lookup ip, s.installs.filter fun install => install.info.peerIp = ip)

namespace BypassRouteManager

variable (platform : Platform) (manager : BypassRouteManager)

/-- An attempt to add the route of an address. -/
def attempt (os : BypassAnswers) (ip : IpAddr) (t : Track) : Track :=
  ((manager.addFor platform os ip).1.toOption.or t.1, t.2 ++ (manager.addFor platform os ip).2)

/-- An update on the track of one address. -/
def trackStep (ip : IpAddr) (t : Track) (u : AddressUpdate) : Track :=
  if ip ∈ u.requiredIps ∧ manager.needed ip = true ∧ t.1 = none then
    manager.attempt platform (u.os ip) ip t
  else t

theorem addFor_peerIp (os : BypassAnswers) (ip : IpAddr) :
    ∀ install ∈ (manager.addFor platform os ip).2, install.info.peerIp = ip :=
  fun _ hmem => (mem_addBypassRoute platform os ip hmem).1

theorem track_addOne (os : IpAddr → BypassAnswers) (s : BypassState) (ip other : IpAddr) :
    (manager.addOne platform os s ip).track other =
      (if other = ip then (manager.addFor platform (os ip) ip).1.toOption.or (s.activeRoutes.lookup ip)
        else s.activeRoutes.lookup other,
        (s.installs ++ (manager.addFor platform (os ip) ip).2).filter fun install =>
          install.info.peerIp = other) := by
  unfold addOne
  rcases manager.addFor platform (os ip) ip with ⟨_ | guard, installs⟩
  · by_cases h : other = ip
    · subst h
      simp [BypassState.track, Except.toOption]
    · simp [BypassState.track, h]
  · simp [BypassState.track, Map.lookup_insert_eq, Except.toOption]

/-- The work for an address stays on its track. -/
theorem addOne_local (os : IpAddr → BypassAnswers) :
    Local BypassState.track (manager.addOne platform os)
      (fun ip => manager.attempt platform (os ip) ip) where
  here := by
    intro s ip
    have hall : (manager.addFor platform (os ip) ip).2.filter (fun install => install.info.peerIp = ip) =
        (manager.addFor platform (os ip) ip).2 := by
      rw [List.filter_eq_self]
      exact fun install hmem => decide_eq_true (addFor_peerIp platform manager _ ip install hmem)
    rw [track_addOne, if_pos rfl, List.filter_append, hall]
    rfl
  elsewhere := by
    intro s ip other hne
    have hnone : (manager.addFor platform (os ip) ip).2.filter
        (fun install => install.info.peerIp = other) = [] := by
      rw [List.filter_eq_nil_iff]
      intro install hmem h
      exact hne ((of_decide_eq_true h).symm.trans (addFor_peerIp platform manager _ ip install hmem))
    rw [track_addOne, if_neg hne, List.filter_append, hnone, List.append_nil]
    rfl

theorem track_collect (s : BypassState) (u : AddressUpdate) (ip : IpAddr) :
    (manager.collect s u).track ip = s.track ip := by
  unfold collect
  split <;> rfl

theorem mem_toAdd {s : BypassState} {u : AddressUpdate} {ip : IpAddr} :
    ip ∈ manager.toAdd s u ↔ ip ∈ u.requiredIps ∧ manager.needed ip = true ∧ (s.track ip).1 = none := by
  rw [toAdd, required, List.mem_filter, List.mem_filter, Option.isNone_iff_eq_none, and_assoc]
  rfl

theorem track_update (s : BypassState) (u : AddressUpdate) (ip : IpAddr) :
    (manager.update platform s u).track ip = manager.trackStep platform ip (s.track ip) u := by
  have hnodup : (manager.toAdd (manager.collect s u) u).Nodup := (u.nodup.filter _).filter _
  refine (view_pass (addOne_local platform manager u.os) hnodup (manager.collect s u) ip).trans ?_
  rw [track_collect]
  refine if_congr ?_ rfl rfl
  rw [mem_toAdd, track_collect]

theorem track_run (s : BypassState) (updates : List AddressUpdate) (ip : IpAddr) :
    (run (manager.update platform) s updates).track ip =
      run (manager.trackStep platform ip) (s.track ip) updates := by
  unfold run
  exact (List.foldl_hom (BypassState.track ip) fun s u => (track_update platform manager s u ip).symm).symm

/-! ### What holds of a track -/

/-- The commands run for an address lead past the tunnel, none comes after one that succeeded, and
the address is active once one has. -/
structure TrackSound (tunName : String) (ip : IpAddr) (t : Track) : Prop where
  offTunnel : ∀ install ∈ t.2, install.OffTunnel tunName ip
  active : t.1.isSome = true ↔ ∃ install ∈ t.2, install.succeeded = true
  once : t.2.Pairwise fun earlier _ => earlier.succeeded = false

theorem trackSound_start (tunName : String) (ip : IpAddr) : TrackSound tunName ip (none, []) :=
  ⟨by simp, by simp, List.Pairwise.nil⟩

/-- The captured gateways do not lead into the tunnel. -/
def GatewaysOffTunnel : Prop :=
  ∀ gw, manager.underlayGw4 = some gw ∨ manager.underlayGw6 = some gw → gw.device ≠ manager.vpnTunName

variable {manager} in
theorem GatewaysOffTunnel.fallback (h : manager.GatewaysOffTunnel) (ip : IpAddr) :
    ∀ gw, manager.underlayFallback ip = some gw → gw.device ≠ manager.vpnTunName := by
  intro gw hgw
  cases ip with
  | v4 ip => exact h gw (Or.inl hgw)
  | v6 ip => exact h gw (Or.inr hgw)

variable {manager} in
/-- An attempt for an address that is not active. -/
theorem TrackSound.attempt (hgw : manager.GatewaysOffTunnel) (os : BypassAnswers) {ip : IpAddr} {t : Track}
    (h : TrackSound manager.vpnTunName ip t) (hnone : t.1 = none) :
    TrackSound manager.vpnTunName ip (manager.attempt platform os ip t) := by
  have hfailed : ∀ install ∈ t.2, install.succeeded = false := by
    intro install hmem
    by_contra hs
    have := h.active.2 ⟨install, hmem, Bool.eq_true_of_not_eq_false hs⟩
    rw [hnone] at this
    cases this
  rcases addBypassRoute_cases platform os ip (some manager.vpnTunName) (manager.underlayFallback ip) with
    ⟨e, heq⟩ | ⟨install, heq, -⟩
  · have hsame : manager.attempt platform os ip t = t := by
      rw [BypassRouteManager.attempt, addFor, heq, List.append_nil]
      rfl
    rwa [hsame]
  · have hadded : manager.attempt platform os ip t = (install.guard.toOption, t.2 ++ [install]) := by
      rw [BypassRouteManager.attempt, addFor, heq, hnone, Option.or_none]
    have hoff : install.OffTunnel manager.vpnTunName ip :=
      addBypassRoute_offTunnel platform os ip (hgw.fallback ip) install (heq ▸ List.mem_singleton_self install)
    rw [hadded]
    refine ⟨?_, ?_, ?_⟩
    · simpa [or_imp, forall_and] using ⟨h.offTunnel, hoff⟩
    · rw [install.isSome_guard]
      constructor
      · exact fun hs => ⟨install, List.mem_append_right _ (List.mem_singleton_self install), hs⟩
      · rintro ⟨install', hmem, hs⟩
        rcases List.mem_append.1 hmem with hmem | hmem
        · rw [hfailed install' hmem] at hs
          cases hs
        · rwa [List.mem_singleton.1 hmem] at hs
    · rw [List.pairwise_append]
      exact ⟨h.once, List.pairwise_singleton _ _, fun install' hmem _ _ => hfailed install' hmem⟩

variable {manager} in
theorem TrackSound.trackStep (hgw : manager.GatewaysOffTunnel) {ip : IpAddr} {t : Track}
    (h : TrackSound manager.vpnTunName ip t) (u : AddressUpdate) :
    TrackSound manager.vpnTunName ip (manager.trackStep platform ip t u) := by
  unfold BypassRouteManager.trackStep
  split
  · next hc => exact h.attempt platform hgw (u.os ip) hc.2.2
  · exact h

/-- A route stays. -/
theorem trackStep_active (ip : IpAddr) {t : Track} {guard : BypassRouteGuard} (h : t.1 = some guard)
    (u : AddressUpdate) : (manager.trackStep platform ip t u).1 = some guard := by
  unfold BypassRouteManager.trackStep
  rw [if_neg fun hc => by rw [h] at hc; cases hc.2.2]
  exact h

/-! ## A session -/

theorem track_session (updates : List AddressUpdate) (ip : IpAddr) :
    (manager.session platform updates).track ip =
      run (manager.trackStep platform ip) (none, []) updates :=
  track_run platform manager .start updates ip

theorem session_append (before after : List AddressUpdate) :
    manager.session platform (before ++ after) =
      run (manager.update platform) (manager.session platform before) after :=
  run_append _ _ before after

theorem collected_addOne (os : IpAddr → BypassAnswers) (s : BypassState) (ip : IpAddr) :
    (manager.addOne platform os s ip).collected = s.collected := by
  unfold addOne
  rcases manager.addFor platform (os ip) ip with ⟨_ | guard, installs⟩ <;> rfl

theorem collected_collect (s : BypassState) (u : AddressUpdate) :
    (manager.collect s u).collected = s.collected ∪ (manager.required u).toFinset := by
  unfold collect
  split
  · next hempty => rw [List.isEmpty_iff.1 hempty, List.toFinset_nil, Finset.union_empty]
  · rfl

theorem collected_update (s : BypassState) (u : AddressUpdate) :
    (manager.update platform s u).collected = s.collected ∪ (manager.required u).toFinset := by
  rw [← collected_collect]
  exact inv_run_all (I := fun t => t.collected = (manager.collect s u).collected)
    (fun t ip ht => (collected_addOne platform manager u.os t ip).trans ht) _ _ rfl

/-- **Collected** are the addresses asked for that are needed, whatever the system answered. -/
theorem mem_collected_run (s : BypassState) (updates : List AddressUpdate) (ip : IpAddr) :
    ip ∈ (run (manager.update platform) s updates).collected ↔
      ip ∈ s.collected ∨ manager.needed ip = true ∧ ∃ u ∈ updates, ip ∈ u.requiredIps := by
  induction updates generalizing s with
  | nil => simp [run]
  | cons u updates ih =>
    rw [run_cons, ih, collected_update]
    simp only [required, Finset.mem_union, List.mem_toFinset, List.mem_filter, List.exists_mem_cons_iff]
    tauto

theorem mem_collected_session (updates : List AddressUpdate) (ip : IpAddr) :
    ip ∈ (manager.session platform updates).collected ↔
      manager.needed ip = true ∧ ∃ u ∈ updates, ip ∈ u.requiredIps := by
  refine (mem_collected_run platform manager .start updates ip).trans (or_iff_right ?_)
  exact Finset.notMem_empty ip

/-- An address with a command or a route was asked for and is needed. -/
theorem asked_of_track (ip : IpAddr) (updates : List AddressUpdate) :
    run (manager.trackStep platform ip) (none, []) updates = (none, []) ∨
      manager.needed ip = true ∧ ∃ u ∈ updates, ip ∈ u.requiredIps := by
  refine inv_history (I := fun updates t => t = (none, []) ∨
    manager.needed ip = true ∧ ∃ u ∈ updates, ip ∈ u.requiredIps) (Or.inl rfl) ?_ updates
  rintro updates u (ht | ⟨hneeded, u', hmem, hip⟩)
  · rw [ht]
    unfold BypassRouteManager.trackStep
    split
    · next hc => exact Or.inr ⟨hc.2.1, u, List.mem_append_right _ (List.mem_singleton_self u), hc.1⟩
    · exact Or.inl rfl
  · exact Or.inr ⟨hneeded, u', List.mem_append_left _ hmem, hip⟩

/-- The same updates, but for what the system answers for `ip`. -/
def SameExceptFor (ip : IpAddr) (u u' : AddressUpdate) : Prop :=
  u.requiredIps = u'.requiredIps ∧ ∀ other, other ≠ ip → u.os other = u'.os other

theorem track_session_congr {ip other : IpAddr} (hne : other ≠ ip) {updates updates' : List AddressUpdate}
    (h : List.Forall₂ (SameExceptFor ip) updates updates') :
    (manager.session platform updates).track other = (manager.session platform updates').track other := by
  rw [track_session, track_session]
  refine run_congr (h.imp fun u u' hu t => ?_) _
  unfold BypassRouteManager.trackStep
  rw [hu.1, hu.2 other hne]

/-- What a session does to the routes. -/
structure SessionSound (updates : List AddressUpdate) : Prop where
  /-- Nothing is taken back: an active address keeps its route, a collected one stays. -/
  addOnly : ∀ before after, updates = before ++ after →
    (∀ ip guard, (manager.session platform before).activeRoutes.lookup ip = some guard →
      (manager.session platform updates).activeRoutes.lookup ip = some guard) ∧
    (manager.session platform before).collected ⊆ (manager.session platform updates).collected
  active_collected : ∀ ip ∈ (manager.session platform updates).activeRoutes,
    ip ∈ (manager.session platform updates).collected
  /-- Only what a VPN route captures. -/
  minimal : ∀ ip ∈ (manager.session platform updates).collected,
    manager.ipCoveredByVpnRoutes ip = true ∧ privateScope ip = false
  /-- Whatever the system answers for one address, the others have the same routes, added by the
  same commands. -/
  independent : ∀ ip updates', List.Forall₂ (SameExceptFor ip) updates updates' → ∀ other, other ≠ ip →
    (manager.session platform updates').track other = (manager.session platform updates).track other
  /-- Active are the addresses for which a command succeeded. -/
  active_iff : ∀ ip, ip ∈ (manager.session platform updates).activeRoutes ↔
    ∃ install ∈ (manager.session platform updates).installs,
      install.info.peerIp = ip ∧ install.succeeded = true
  /-- After that command there is none for the same address. -/
  once : (manager.session platform updates).installs.Pairwise fun earlier later =>
    later.info.peerIp = earlier.info.peerIp → earlier.succeeded = false
  offTunnel : ∀ install ∈ (manager.session platform updates).installs,
    install.info.gateway.isSome = true ∧ install.info.device ≠ manager.vpnTunName

variable {manager} in
theorem trackSound_session (hgw : manager.GatewaysOffTunnel) (updates : List AddressUpdate) (ip : IpAddr) :
    TrackSound manager.vpnTunName ip ((manager.session platform updates).track ip) := by
  rw [track_session]
  exact inv_run_all (fun _ u ht => ht.trackStep platform hgw u) updates _ (trackSound_start _ ip)

theorem mem_activeRoutes (s : BypassState) (ip : IpAddr) :
    ip ∈ s.activeRoutes ↔ (s.track ip).1.isSome = true := AList.lookup_isSome.symm

theorem mem_track {s : BypassState} {ip : IpAddr} {install : BypassInstall} :
    install ∈ (s.track ip).2 ↔ install ∈ s.installs ∧ install.info.peerIp = ip := by
  rw [BypassState.track, List.mem_filter, decide_eq_true_iff]

theorem session_addOnly {updates before after : List AddressUpdate} (h : updates = before ++ after) :
    (∀ ip guard, (manager.session platform before).activeRoutes.lookup ip = some guard →
      (manager.session platform updates).activeRoutes.lookup ip = some guard) ∧
    (manager.session platform before).collected ⊆ (manager.session platform updates).collected := by
  subst h
  rw [session_append]
  constructor
  · intro ip guard hactive
    have hkept := inv_run_all (I := fun t : Track => t.1 = some guard)
      (fun _ u ht => trackStep_active platform manager ip ht u) after
      ((manager.session platform before).track ip) hactive
    rwa [← track_run] at hkept
  · exact fun ip hip => (mem_collected_run platform manager _ after ip).2 (Or.inl hip)

theorem session_active_collected (updates : List AddressUpdate) :
    ∀ ip ∈ (manager.session platform updates).activeRoutes,
      ip ∈ (manager.session platform updates).collected := by
  intro ip hip
  rw [mem_activeRoutes, track_session] at hip
  rw [mem_collected_session]
  rcases asked_of_track platform manager ip updates with h | h
  · rw [h] at hip
    cases hip
  · exact h

end BypassRouteManager

open BypassRouteManager in
/-- **Bypass routes.**  For every sequence of updates, answers to the lookups and failures of the
commands, on every platform: routes are only added, only for addresses that a VPN route captures,
each address by itself and at most once, and never into the tunnel. -/
theorem bypassRoutes_sound (platform : Platform) (manager : BypassRouteManager)
    (hgw : manager.GatewaysOffTunnel) (updates : List AddressUpdate) :
    manager.SessionSound platform updates where
  addOnly := fun _ _ h => session_addOnly platform manager h
  active_collected := session_active_collected platform manager updates
  minimal := by
    intro ip hip
    have hneeded := ((mem_collected_session platform manager updates ip).1 hip).1
    unfold needed at hneeded
    rw [Bool.and_eq_true, Bool.not_eq_true'] at hneeded
    exact ⟨hneeded.2, hneeded.1⟩
  independent := fun _ _ h _ hne => (track_session_congr platform manager hne h).symm
  active_iff := by
    intro ip
    rw [mem_activeRoutes, (trackSound_session platform hgw updates ip).active]
    simp only [mem_track, and_assoc]
  once := pairwise_of_parts fun ip => (trackSound_session platform hgw updates ip).once
  offTunnel := by
    intro install hmem
    have h := (trackSound_session platform hgw updates install.info.peerIp).offTunnel install
      (mem_track.2 ⟨hmem, rfl⟩)
    exact ⟨h.gateway, h.device⟩

/-- A tunnel for 1.0.0.0/8, with a captured gateway. -/
def splitTunnelManager : BypassRouteManager where
  vpnTunName := "tun0"
  vpnRoutes4 := [⟨0x01000000#32, 8, by decide⟩]
  vpnRoutes6 := []
  underlayGw4 := some ⟨"eth0", some (.v4 0xc0a80101#32), some "192.168.1.1", none⟩
  underlayGw6 := none

/-- An address that is routed, a private and an IPv6 address, asked for twice.  The lookups lead into the tunnel, and
the first command fails. -/
def askedTwice : List AddressUpdate :=
  [.error (.tunDevice "Network is unreachable"), .ok .added].map fun add =>
    { requiredIps := [.v4 0x01020304#32, .v4 0x0a000005#32, .v6 0x20010db8000000000000000000000001#128]
      nodup := by decide
      os := fun _ => ⟨.ok ⟨"tun0", none, none, none⟩, add⟩ }

theorem bypassRoutes_sound_askedTwice :
    splitTunnelManager.GatewaysOffTunnel ∧ splitTunnelManager.SessionSound .linux askedTwice ∧
    (splitTunnelManager.session .linux askedTwice).installs.map
        (fun install => (install.info.peerIp, install.info.device, install.succeeded)) =
      [(.v4 0x01020304#32, "eth0", false), (.v4 0x01020304#32, "eth0", true)] := by
  have hgw : splitTunnelManager.GatewaysOffTunnel := by
    rintro gw (h | h)
    · obtain rfl := Option.some.inj h
      decide
    · cases h
  exact ⟨hgw, bypassRoutes_sound .linux splitTunnelManager hgw askedTwice, by decide +kernel⟩

end EzVpn
