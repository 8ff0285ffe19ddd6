import EzVpn.Client.BypassSession
import EzVpn.Lib.Fallible
import EzVpn.Net.HostRoute

/-!
# Bypass routes on a host

The bypass route manager with the host around it: the texts that the route lookups print, and the
host routes of the system's table, to which the manager adds and from which its guards remove when
they are dropped.

Whatever is printed, each command names one route in words that stay what they are
(`bypass_commands_safe`), and dropping the manager leaves the table as it was found
(`bypass_undone`).
-/

namespace EzVpn

open Lib

/-! ## Where the commands of a session come from -/

section
variable {platform : Platform} {os : BypassAnswers} {peerIp : IpAddr} {disallowDevice : Option String}
  {underlayFallback : Option UnderlayGateway}

theorem resolveBypassRouteInfo_source {info info' : BypassRouteInfo}
    (h : resolveBypassRouteInfo info disallowDevice underlayFallback = .ok info') :
    info' = info ∨ underlayFallback = some info'.toNextHop := by
  unfold resolveBypassRouteInfo at h
  dsimp only at h
  split at h
  · obtain ⟨fb, hfb, -, rfl⟩ := repinViaFallback_ok h
    exact Or.inr hfb
  · split at h
    · obtain ⟨fb, hfb, -, rfl⟩ := repinViaFallback_ok h
      exact Or.inr hfb
    · exact Or.inl (Except.ok.inj h).symm

/-- A command is that of its route, and the route is the one looked up or the captured one. -/
theorem addBypassRoute_source {install : BypassInstall}
    (h : install ∈ (addBypassRoute platform os peerIp disallowDevice underlayFallback).2) :
    bypassCommand platform install.info = .ok install.command ∧ install.answer = os.add ∧
      (os.lookup = .ok install.info.toNextHop ∨ underlayFallback = some install.info.toNextHop) := by
  unfold addBypassRoute at h
  split at h
  · cases h
  · next hop hlookup =>
    split at h
    · cases h
    · next info hinfo =>
      split at h
      · cases h
      · next command hcommand =>
        obtain rfl := List.mem_singleton.1 h
        refine ⟨hcommand, rfl, (resolveBypassRouteInfo_source hinfo).imp_left fun heq => ?_⟩
        rw [hlookup, heq]

end

namespace BypassRouteManager

variable (platform : Platform) (manager : BypassRouteManager)

theorem installs_addOne (os : IpAddr → BypassAnswers) (s : BypassState) (ip : IpAddr) :
    (manager.addOne platform os s ip).installs = s.installs ++ (manager.addFor platform (os ip) ip).2 := by
  unfold addOne
  rcases manager.addFor platform (os ip) ip with ⟨_ | guard, installs⟩ <;> rfl

theorem installs_collect (s : BypassState) (u : AddressUpdate) : (manager.collect s u).installs = s.installs := by
  unfold collect
  split <;> rfl

variable {P : BypassInstall → Prop}

theorem forall_installs_update {s : BypassState} {u : AddressUpdate} (hs : ∀ install ∈ s.installs, P install)
    (hu : ∀ ip, ∀ install ∈ (manager.addFor platform (u.os ip) ip).2, P install) :
    ∀ install ∈ (manager.update platform s u).installs, P install := by
  refine inv_run_all (I := fun t : BypassState => ∀ install ∈ t.installs, P install) ?_ _ _
    (by rwa [installs_collect])
  intro t ip ht install hmem
  rw [installs_addOne, List.mem_append] at hmem
  exact hmem.elim (ht install) (hu ip install)

theorem forall_installs_run {updates : List AddressUpdate} {s : BypassState}
    (hs : ∀ install ∈ s.installs, P install)
    (hu : ∀ u ∈ updates, ∀ ip, ∀ install ∈ (manager.addFor platform (u.os ip) ip).2, P install) :
    ∀ install ∈ (run (manager.update platform) s updates).installs, P install := by
  induction updates generalizing s with
  | nil => exact hs
  | cons u updates ih =>
    obtain ⟨hu, hupdates⟩ := List.forall_mem_cons.1 hu
    rw [run_cons]
    exact ih (forall_installs_update platform manager hs hu) hupdates

end BypassRouteManager

/-! ## What is printed -/

section
variable (parseIp : String → Option IpAddr) (debug : String → String) (platform : Platform)

/-- What the lookups for the addresses of one set print, and what the commands answer. -/
structure HostAnswers where
  lookup : IpAddr → Option CommandOutput
  add : IpAddr → Except VpnError RouteAddOutcome

def HostAnswers.os (answers : HostAnswers) (ip : IpAddr) : BypassAnswers :=
  ⟨queryRouteForIp parseIp debug platform ip (answers.lookup ip), answers.add ip⟩

/-- A set of addresses the server published. -/
structure PublishedSet where
  requiredIps : List IpAddr
  nodup : requiredIps.Nodup
  answers : HostAnswers

def PublishedSet.update (set : PublishedSet) : AddressUpdate :=
  ⟨set.requiredIps, set.nodup, set.answers.os parseIp debug platform⟩

/-- What the session finds around it, as texts. -/
structure PrintedUnderlay where
  tunName : String
  defaultRoute : (isIpv6 : Bool) → Option CommandOutput
  relayIps : List IpAddr
  answers : HostAnswers

def PrintedUnderlay.underlay (host : PrintedUnderlay) : Underlay where
  tunName := host.tunName
  captureUnderlayGateway := fun isIpv6 =>
    captureUnderlayGateway parseIp debug platform isIpv6 (host.defaultRoute isIpv6)
  relayIps := host.relayIps
  os := host.answers.os parseIp debug platform

variable {parseIp debug platform}

theorem queryRouteForIp_read {ip : IpAddr} {out : Option CommandOutput} {hop : NextHop}
    (h : queryRouteForIp parseIp debug platform ip out = .ok hop) : hop.Read platform := by
  obtain ⟨stdout, -, h⟩ := bind_eq_ok h
  exact parseRoute_read h

theorem captureUnderlayGateway_read {isIpv6 : Bool} {out : Option CommandOutput} {hop : NextHop}
    (h : captureUnderlayGateway parseIp debug platform isIpv6 out = some hop) : hop.Read platform := by
  unfold captureUnderlayGateway at h
  cases hquery : queryDefaultGateway parseIp debug platform isIpv6 out with
  | error e =>
    rw [hquery] at h
    cases h
  | ok hop' =>
    rw [hquery] at h
    obtain rfl := Option.some.inj h
    obtain ⟨stdout, -, hquery⟩ := bind_eq_ok hquery
    exact parseRoute_read hquery

/-- The commands of a host: each is that of a route, in safe words, and a guard that is dropped
takes back the same route, if this process added it. -/
def BypassInstall.Names (platform : Platform) (install : BypassInstall) : Prop :=
  ∃ r : HostRoute, r.peerIp = install.info.peerIp ∧ r.Safe platform ∧ install.command = r.add platform ∧
    ∀ guard, install.guard = .ok guard →
      guard.drop platform = if guard.owned then some (r.remove platform) else none

theorem BypassInstall.guard_ok {install : BypassInstall} {guard : BypassRouteGuard}
    (h : install.guard = .ok guard) :
    guard.toBypassRouteInfo = install.info ∧ ∃ outcome, install.answer = .ok outcome ∧
      guard.owned = decide (outcome = .added) := by
  unfold BypassInstall.guard at h
  cases hanswer : install.answer with
  | error e =>
    rw [hanswer] at h
    cases h
  | ok outcome =>
    rw [hanswer] at h
    obtain rfl := Except.ok.inj h
    exact ⟨rfl, outcome, rfl, rfl⟩

/-- The routes that the manager falls back to were printed. -/
def BypassRouteManager.FallbackRead (platform : Platform) (manager : BypassRouteManager) : Prop :=
  ∀ ip hop, manager.underlayFallback ip = some hop → hop.Read platform

theorem drop_eq {r : HostRoute} {guard : BypassRouteGuard} (h : guard.hostRoute platform = some r) :
    guard.drop platform = if guard.owned then some (r.remove platform) else none := by
  have heq := bypassCommand_eq platform guard.toBypassRouteInfo
  rw [h] at heq
  rw [BypassRouteGuard.drop, heq.2]

theorem names_of_read {install : BypassInstall} (hread : install.info.toNextHop.Read platform)
    (hgw : install.info.gateway.isSome = true) (hcommand : bypassCommand platform install.info = .ok install.command) :
    install.Names platform := by
  obtain ⟨r, hr, hip, hsafe⟩ := hostRoute_of_read hread hgw
  have heq := bypassCommand_eq platform install.info
  rw [hr, hcommand] at heq
  refine ⟨r, hip, hsafe, Except.ok.inj heq.1, fun guard hguard => drop_eq ?_⟩
  rw [(BypassInstall.guard_ok hguard).1, hr]

theorem names_of_addFor {manager : BypassRouteManager} (hfb : manager.FallbackRead platform) (answers : HostAnswers)
    (ip : IpAddr) : ∀ install ∈ (manager.addFor platform (answers.os parseIp debug platform ip) ip).2,
      install.Names platform := by
  intro install hmem
  obtain ⟨-, hgw, -⟩ := mem_addBypassRoute platform _ ip hmem
  obtain ⟨hcommand, -, hsource⟩ := addBypassRoute_source hmem
  refine names_of_read ?_ hgw hcommand
  rcases hsource with hlookup | hfallback
  · exact queryRouteForIp_read hlookup
  · exact hfb ip _ hfallback

theorem bypassRouteManager_fallbackRead (config : VpnClientConfig) (host : PrintedUnderlay) :
    (bypassRouteManager config (host.underlay parseIp debug platform)).FallbackRead platform := by
  intro ip hop h
  cases ip with
  | v4 ip =>
    change (if config.routes.isEmpty then none else _) = some hop at h
    split at h
    · cases h
    · exact captureUnderlayGateway_read h
  | v6 ip =>
    change (if config.routes6.isEmpty then none else _) = some hop at h
    split at h
    · cases h
    · exact captureUnderlayGateway_read h

end

/-- **What is printed stays in its place.**  For every text that the lookups and the query for the
default route print, on every platform: each command of a session, and the one that later removes
its route, names one host route for the address, with a gateway that passed the check and cannot
be taken for an option, a device that is one word, and in scripts with every value inside its
quotes.  A route that was resolved is never refused for want of a gateway or an index. -/
theorem bypass_commands_safe (parseIp : String → Option IpAddr) (debug : String → String) (platform : Platform)
    (config : VpnClientConfig) (info : ServerInfo) (host : PrintedUnderlay) (published : List PublishedSet) :
    let underlay := host.underlay parseIp debug platform
    let manager := bypassRouteManager config underlay
    let updates := published.map fun set => set.update parseIp debug platform
    (∀ install ∈ (bypassSession platform config info underlay updates).installs, install.Names platform) ∧
    ∀ (answers : HostAnswers) (ip : IpAddr) (hop : NextHop) (route : BypassRouteInfo),
      queryRouteForIp parseIp debug platform ip (answers.lookup ip) = .ok hop →
      resolveBypassRouteInfo ⟨hop, ip⟩ (some manager.vpnTunName) (manager.underlayFallback ip) = .ok route →
      ∃ command, (manager.addFor platform (answers.os parseIp debug platform ip) ip).2 =
        [⟨route, command, answers.add ip⟩] := by
  intro underlay manager updates
  have hfb : manager.FallbackRead platform := bypassRouteManager_fallbackRead config host
  refine ⟨?_, fun answers ip hop route hlookup hroute => ?_⟩
  · unfold bypassSession
    split
    · refine manager.forall_installs_run platform ?_ fun u hu ip => ?_
      · unfold addIrohBypassRoutes
        dsimp only
        split
        · exact fun _ h => absurd h List.not_mem_nil
        · exact manager.forall_installs_update platform (fun _ h => absurd h List.not_mem_nil)
            fun ip => names_of_addFor hfb host.answers ip
      · obtain ⟨set, -, rfl⟩ := List.mem_map.1 hu
        exact names_of_addFor hfb set.answers ip
    · exact fun _ h => absurd h List.not_mem_nil
  · -- the next hop was read from a text, so the route has a name
    have hread : route.toNextHop.Read platform := by
      rcases resolveBypassRouteInfo_source hroute with rfl | hfallback
      · exact queryRouteForIp_read hlookup
      · exact hfb ip _ hfallback
    obtain ⟨r, hr, -⟩ := hostRoute_of_read hread (resolveBypassRouteInfo_ok hroute).2.1
    have heq := bypassCommand_eq platform route
    rw [hr] at heq
    refine ⟨r.add platform, ?_⟩
    simp only [BypassRouteManager.addFor, addBypassRoute, HostAnswers.os, hlookup, hroute, heq.1]

/-- **A bypass route leads where the system's route led.**  On every platform: if the lookup for an
address prints one next hop, in the form of `Prints`, and it is not the tunnel, then one command is
run, for the host route of the address to that next hop. -/
theorem bypass_follows_lookup (parseIp : String → Option IpAddr) (debug : String → String) {platform : Platform}
    {hop : NextHop} {text : String} (hprints : Prints parseIp platform hop text) (manager : BypassRouteManager)
    (hdevice : hop.device ≠ manager.vpnTunName) {answers : HostAnswers} {ip : IpAddr} {stderr : String}
    (hlookup : answers.lookup ip = some ⟨true, text, stderr⟩) :
    ∃ r, (⟨hop, ip⟩ : BypassRouteInfo).hostRoute platform = some r ∧ r.Safe platform ∧
      (manager.addFor platform (answers.os parseIp debug platform ip) ip).2 =
        [⟨⟨hop, ip⟩, r.add platform, answers.add ip⟩] := by
  have hquery : queryRouteForIp parseIp debug platform ip (answers.lookup ip) = .ok hop := by
    rw [hlookup]
    exact parseRoute_prints parseIp hprints debug ip
  have hgw : hop.gateway.isSome = true := by cases hprints <;> rfl
  have hresolve : resolveBypassRouteInfo ⟨hop, ip⟩ (some manager.vpnTunName) (manager.underlayFallback ip) =
      .ok ⟨hop, ip⟩ := by
    have hother : ¬ some manager.vpnTunName = some hop.device := fun h => hdevice (Option.some.inj h).symm
    simp [resolveBypassRouteInfo, hother, Option.isSome_iff_ne_none.1 hgw]
  obtain ⟨r, hr, -, hsafe⟩ := @hostRoute_of_read platform ⟨hop, ip⟩ (queryRouteForIp_read hquery) hgw
  have heq := bypassCommand_eq platform ⟨hop, ip⟩
  rw [hr] at heq
  refine ⟨r, hr, hsafe, ?_⟩
  simp only [BypassRouteManager.addFor, addBypassRoute, HostAnswers.os, hquery, hresolve, heq.1]

/-- A host whose lookups lead to 192.168.1.1 on `eth0`. -/
def viaRouter : HostAnswers where
  lookup := fun _ => some ⟨true, "203.0.113.9 via 192.168.1.1 dev eth0 src 192.168.1.50 uid 0 \n    cache \n", ""⟩
  add := fun _ => .ok .added

theorem bypass_follows_lookup_viaRouter :
    ∃ r, (⟨⟨"eth0", some (.v4 0xc0a80101#32), some "192.168.1.1", none⟩, .v4 0xcb007109#32⟩ :
        BypassRouteInfo).hostRoute .linux = some r ∧ r.Safe .linux ∧
      ((bypassRouteManager bothFamilies dualStackUnderlay).addFor .linux
          (viaRouter.os (fun _ => some (.v4 0xc0a80101#32)) id .linux (.v4 0xcb007109#32)) (.v4 0xcb007109#32)).2 =
        [⟨⟨⟨"eth0", some (.v4 0xc0a80101#32), some "192.168.1.1", none⟩, .v4 0xcb007109#32⟩, r.add .linux,
          .ok .added⟩] :=
  bypass_follows_lookup (fun _ => some (.v4 0xc0a80101#32)) id
    (.linux ["203.0.113.9"] [] ["src", "192.168.1.50", "uid", "0", "cache"] (by decide +kernel) (by decide)
      (by decide +kernel) rfl)
    (bypassRouteManager bothFamilies dualStackUnderlay) (by decide) rfl

/-! ## The host routes -/

/-- One set of addresses on a host: what the lookups answer, and the commands that fail for another
reason than that the route is there. -/
structure HostUpdate where
  requiredIps : List IpAddr
  nodup : requiredIps.Nodup
  lookup : IpAddr → Except VpnError NextHop
  fails : IpAddr → Option VpnError

/-- An address that has a host route cannot get another. -/
def HostUpdate.on (u : HostUpdate) (table : Finset IpAddr) : AddressUpdate where
  requiredIps := u.requiredIps
  nodup := u.nodup
  os := fun ip => ⟨u.lookup ip, match u.fails ip with
    | some e => .error e
    | none => .ok (if ip ∈ table then .alreadyExisted else .added)⟩

/-- The command that added a route. -/
def BypassInstall.Added (install : BypassInstall) : Prop := install.answer = .ok .added

instance (install : BypassInstall) : Decidable install.Added := inferInstanceAs (Decidable (_ = _))

/-- The table behind the commands that were run. -/
def hostRoutes (table : Finset IpAddr) (installs : List BypassInstall) : Finset IpAddr :=
  installs.foldl (fun t install => if install.Added then insert install.info.peerIp t else t) table

/-- The guards of the manager are dropped, in any order, and what their commands name is removed; a
removal that fails is only logged by the source, and does not happen here. -/
def dropBypassGuards (platform : Platform) (guards : List BypassRouteGuard) (table : Finset IpAddr) : Finset IpAddr :=
  guards.foldl (fun t guard => if (guard.drop platform).isSome then t.erase guard.peerIp else t) table

theorem mem_hostRoutes {table : Finset IpAddr} {installs : List BypassInstall} {ip : IpAddr} :
    ip ∈ hostRoutes table installs ↔ ip ∈ table ∨ ∃ install ∈ installs, install.info.peerIp = ip ∧ install.Added := by
  unfold hostRoutes
  induction installs generalizing table with
  | nil => simp
  | cons install installs ih =>
    rw [List.foldl_cons, ih]
    by_cases hadded : install.Added
    · simp only [hadded, if_true, Finset.mem_insert, List.exists_mem_cons_iff]
      tauto
    · simp only [hadded, if_false, List.exists_mem_cons_iff]
      tauto

theorem mem_dropBypassGuards {platform : Platform} {guards : List BypassRouteGuard} {table : Finset IpAddr}
    {ip : IpAddr} : ip ∈ dropBypassGuards platform guards table ↔
      ip ∈ table ∧ ∀ guard ∈ guards, guard.peerIp = ip → guard.drop platform = none := by
  unfold dropBypassGuards
  induction guards generalizing table with
  | nil => simp
  | cons guard guards ih =>
    rw [List.foldl_cons, ih]
    cases hdrop : guard.drop platform with
    | none => simp [hdrop]
    | some command =>
      simp only [hdrop, Option.isSome_some, if_true, Finset.mem_erase, List.forall_mem_cons]
      grind

namespace BypassRouteManager

variable (platform : Platform) (manager : BypassRouteManager) (table : Finset IpAddr)

/-- One update, with the table that the commands so far have left. -/
def hostUpdate (s : BypassState) (u : HostUpdate) : BypassState :=
  manager.update platform s (u.on (hostRoutes table s.installs))

/-- The commands for an address, of which only the last one can have succeeded: it left the guard,
which is owned if the address had no route. -/
def HostTrack (ip : IpAddr) (t : Track) : Prop :=
  ∃ failed : List BypassInstall, (∀ install ∈ failed, install.succeeded = false) ∧
    (t = (none, failed) ∨ ∃ install guard, t = (some guard, failed ++ [install]) ∧ install.guard = .ok guard ∧
      install.info.peerIp = ip ∧ (install.Added ↔ ip ∉ table) ∧
      bypassCommand platform install.info = .ok install.command)

variable {platform manager table}

theorem succeeded_of_added {install : BypassInstall} (h : install.Added) : install.succeeded = true := by
  rw [BypassInstall.succeeded, h]
  rfl

variable (table) in
/-- Until a command for an address has succeeded, its entry in the table is the one it had. -/
theorem mem_hostRoutes_of_failed {s : BypassState} {ip : IpAddr} {failed : List BypassInstall}
    (htrack : (s.track ip).2 = failed) (hfailed : ∀ install ∈ failed, install.succeeded = false) :
    ip ∈ hostRoutes table s.installs ↔ ip ∈ table := by
  rw [mem_hostRoutes]
  refine or_iff_left ?_
  rintro ⟨install, hmem, hip, hadded⟩
  have := hfailed install (htrack ▸ mem_track.2 ⟨hmem, hip⟩)
  rw [succeeded_of_added hadded] at this
  cases this

theorem HostTrack.attempt {s : BypassState} {ip : IpAddr} (h : HostTrack platform table ip (s.track ip))
    (hnone : (s.track ip).1 = none) (u : HostUpdate) :
    HostTrack platform table ip
      (manager.attempt platform ((u.on (hostRoutes table s.installs)).os ip) ip (s.track ip)) := by
  obtain ⟨failed, hfailed, ht | ⟨install, guard, ht, -⟩⟩ := h
  · have hsame := mem_hostRoutes_of_failed table (congrArg Prod.snd ht) hfailed
    rw [ht]
    rcases addBypassRoute_cases platform ((u.on (hostRoutes table s.installs)).os ip) ip
      (some manager.vpnTunName) (manager.underlayFallback ip) with ⟨e, heq⟩ | ⟨install, heq, hip, -⟩
    · refine ⟨failed, hfailed, Or.inl ?_⟩
      rw [BypassRouteManager.attempt, addFor, heq, List.append_nil]
      rfl
    · have hmem : install ∈ (addBypassRoute platform ((u.on (hostRoutes table s.installs)).os ip) ip
          (some manager.vpnTunName) (manager.underlayFallback ip)).2 := by
        rw [heq]
        exact List.mem_singleton_self install
      obtain ⟨hcommand, hanswer, -⟩ := addBypassRoute_source hmem
      rw [BypassRouteManager.attempt, addFor, heq, Option.or_none]
      cases hguard : install.guard with
      | error e =>
        have hfail : install.succeeded = false := by
          rw [← install.isSome_guard, hguard]
          rfl
        exact ⟨failed ++ [install], by simpa [or_imp, forall_and, hfail] using hfailed, Or.inl rfl⟩
      | ok guard =>
        refine ⟨failed, hfailed, Or.inr ⟨install, guard, rfl, hguard, hip, ?_, hcommand⟩⟩
        -- the command did not fail, so it answered what the table says
        obtain ⟨-, outcome, houtcome, -⟩ := BypassInstall.guard_ok hguard
        unfold BypassInstall.Added
        rw [← hsame, hanswer]
        dsimp only [HostUpdate.on] at hanswer ⊢
        cases hfails : u.fails ip with
        | some e =>
          rw [hfails, houtcome] at hanswer
          cases hanswer
        | none =>
          by_cases hroute : ip ∈ hostRoutes table s.installs
          · simp [hroute]
          · simp [hroute]
  · rw [ht] at hnone
    cases hnone

variable (platform manager table)

theorem hostTrack_run (updates : List HostUpdate) (ip : IpAddr) :
    HostTrack platform table ip ((run (manager.hostUpdate platform table) .start updates).track ip) := by
  refine inv_run_all (I := fun s : BypassState => ∀ ip, HostTrack platform table ip (s.track ip)) ?_ updates _
    (fun _ => ⟨[], by simp, Or.inl rfl⟩) ip
  intro s u h ip
  rw [hostUpdate, track_update, trackStep]
  split
  · next hc => exact (h ip).attempt hc.2.2 u
  · exact h ip

end BypassRouteManager

theorem hostRoute_of_command {platform : Platform} {info : BypassRouteInfo} {command : RouteCommand}
    (h : bypassCommand platform info = .ok command) :
    ∃ r, info.hostRoute platform = some r ∧ command = r.add platform := by
  have heq := bypassCommand_eq platform info
  cases hroute : info.hostRoute platform with
  | none =>
    rw [hroute, h] at heq
    obtain ⟨e, he⟩ := heq
    cases he
  | some r =>
    rw [hroute, h] at heq
    exact ⟨r, rfl, Except.ok.inj heq.1⟩

/-- The guard is for the address, owned if that had no host route, and takes back the route that
one of the commands has added. -/
structure BypassRouteGuard.Undoes (platform : Platform) (table : Finset IpAddr) (installs : List BypassInstall)
    (ip : IpAddr) (guard : BypassRouteGuard) : Prop where
  peerIp : guard.peerIp = ip
  owned : guard.owned = true ↔ ip ∉ table
  drop : ∃ install ∈ installs, ∃ r : HostRoute, install.command = r.add platform ∧
    guard.drop platform = if guard.owned then some (r.remove platform) else none

open BypassRouteManager in
theorem undoes_of_active {platform : Platform} {table : Finset IpAddr} {s : BypassState} {ip : IpAddr}
    {guard : BypassRouteGuard} (h : HostTrack platform table ip (s.track ip))
    (hactive : s.activeRoutes.lookup ip = some guard) : guard.Undoes platform table s.installs ip := by
  obtain ⟨failed, -, ht | ⟨install, guard', ht, hguard, hip, hadded, hcommand⟩⟩ := h
  · have := (congrArg Prod.fst ht).symm.trans hactive
    cases this
  · obtain rfl : guard' = guard := Option.some.inj ((congrArg Prod.fst ht).symm.trans hactive)
    obtain ⟨hinfo, outcome, houtcome, howned⟩ := BypassInstall.guard_ok hguard
    obtain ⟨r, hr, hadd⟩ := hostRoute_of_command hcommand
    have hmem : install ∈ (s.track ip).2 := by
      rw [ht]
      exact List.mem_append_right _ (List.mem_singleton_self install)
    refine ⟨hinfo ▸ hip, ?_, install, (mem_track.1 hmem).1, r, hadd, drop_eq (hinfo ▸ hr)⟩
    rw [howned, decide_eq_true_iff, ← hadded, BypassInstall.Added, houtcome, Except.ok.injEq]

open BypassRouteManager in
/-- An address that got its route by a command is active. -/
theorem active_of_added {platform : Platform} {table : Finset IpAddr} {s : BypassState}
    {install : BypassInstall} (h : HostTrack platform table install.info.peerIp (s.track install.info.peerIp))
    (hmem : install ∈ s.installs) (hadded : install.Added) :
    ∃ guard, s.activeRoutes.lookup install.info.peerIp = some guard := by
  obtain ⟨failed, hfailed, ht | ⟨_, guard, ht, -⟩⟩ := h
  · have htrack : install ∈ (s.track install.info.peerIp).2 := mem_track.2 ⟨hmem, rfl⟩
    rw [ht] at htrack
    have := hfailed install htrack
    rw [succeeded_of_added hadded] at this
    cases this
  · exact ⟨guard, congrArg Prod.fst ht⟩

open BypassRouteManager in
/-- **Bypass routes are undone exactly.**  On a host where an address has at most one host route, for
every table, every sequence of address sets, all answers to the lookups and all failures of the
adds: each guard is owned exactly if its address had no route at the start, its removal names the
route that its command added, and when the guards are dropped, in any order, and their removals
succeed, the table is the one the session found. -/
theorem bypass_undone (platform : Platform) (manager : BypassRouteManager) (table : Finset IpAddr)
    (updates : List HostUpdate) :
    let s := run (manager.hostUpdate platform table) .start updates
    (∀ ip guard, s.activeRoutes.lookup ip = some guard → guard.Undoes platform table s.installs ip) ∧
    ∀ guards, guards.Perm (s.activeRoutes.entries.map fun entry => entry.2) →
      dropBypassGuards platform guards (hostRoutes table s.installs) = table := by
  intro s
  have htrack := hostTrack_run platform manager table updates
  have hundoes : ∀ ip guard, s.activeRoutes.lookup ip = some guard → guard.Undoes platform table s.installs ip :=
    fun ip guard hactive => undoes_of_active (htrack ip) hactive
  refine ⟨hundoes, fun guards hperm => ?_⟩
  have hguards : ∀ guard, guard ∈ guards ↔ ∃ ip, s.activeRoutes.lookup ip = some guard := by
    intro guard
    rw [hperm.mem_iff, List.mem_map]
    constructor
    · rintro ⟨⟨ip, _⟩, hentry, rfl⟩
      exact ⟨ip, AList.mem_lookup_iff.2 hentry⟩
    · rintro ⟨ip, hactive⟩
      exact ⟨⟨ip, guard⟩, AList.mem_lookup_iff.1 hactive, rfl⟩
  ext ip
  rw [mem_dropBypassGuards, mem_hostRoutes]
  constructor
  · rintro ⟨htable | ⟨install, hmem, rfl, hadded⟩, hkept⟩
    · exact htable
    · by_contra hnew
      obtain ⟨guard, hactive⟩ := active_of_added (htrack _) hmem hadded
      obtain ⟨hip, howned, _, -, r, -, hdrop⟩ := hundoes _ _ hactive
      have hnone := hkept guard ((hguards guard).2 ⟨_, hactive⟩) hip
      rw [hdrop, howned.2 hnew] at hnone
      cases hnone
  · intro htable
    refine ⟨Or.inl htable, fun guard hguard hip => ?_⟩
    obtain ⟨ip', hactive⟩ := (hguards guard).1 hguard
    obtain ⟨hip', howned, _, -, r, -, hdrop⟩ := hundoes _ _ hactive
    obtain rfl : ip' = ip := hip'.symm.trans hip
    have hfree : guard.owned = false := Bool.eq_false_iff.2 fun h => howned.1 h htable
    rw [hdrop, hfree]
    rfl

end EzVpn
