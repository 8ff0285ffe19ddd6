import EzVpn.Client.Handshake
import EzVpn.Client.Reconnect
import EzVpn.Lib.Watch

/-!
# Routes against local networks

The split-tunnel overlap check (src/net/local_networks.rs), made once in `connect` and again
by the watcher that runs beside the tunnel (`spawn_local_network_overlap_watch`,
src/tunnel/client.rs).  A session is the sample of the connect-time check, the watcher's
first sample and its polls.

The watcher checks a sample only when it differs from the one before, and its first sample
is not the one `connect` checked.  A conflict in that first sample is therefore seen only if
the next sample differs from it and conflicts too (`localConflict_ends_session_iff`).
-/

namespace EzVpn

open Lib

/-- The routes of the client's configuration. -/
structure VpnClientConfig where
  routes : List Ipv4Net
  routes6 : List Ipv6Net

structure LocalNetwork where
  interface : String
  net : AnyNet
deriving DecidableEq

def exemptMaxPrefixLen : Nat := 1

def overlaps (a b : AnyNet) : Bool := a.contains b.network || b.contains a.network

def splitTunnelConflict (routes : List Ipv4Net) (routes6 : List Ipv6Net) (locals : List LocalNetwork) :
    Option (AnyNet × LocalNetwork) :=
  (routes.map AnyNet.v4 ++ routes6.map AnyNet.v6).findSome? fun route =>
    if route.prefixLen ≤ exemptMaxPrefixLen then none
    else (locals.find? fun l => overlaps route l.net).map fun l => (route, l)

def overlapError (routes : List Ipv4Net) (routes6 : List Ipv6Net) (locals : List LocalNetwork) :
    Option VpnError :=
  (splitTunnelConflict routes routes6 locals).map fun (route, l) =>
    .routeOverlapsLocalNetwork route l.net l.interface

def hasRefusableRoutes (routes : List Ipv4Net) (routes6 : List Ipv6Net) : Bool :=
  routes.any (fun r => r.prefixLen > exemptMaxPrefixLen) ||
    routes6.any (fun r => r.prefixLen > exemptMaxPrefixLen)

/-! ## A session -/

/-- What of a session the overlap checks read. -/
structure Session where
  config : VpnClientConfig
  info : ServerInfo
  tunName : String

namespace Session

variable (s : Session)

/-- `overlap_routes4`: a route of a family the server did not assign is never installed. -/
def overlapRoutes4 : List Ipv4Net := if s.info.assignedIp.isSome then s.config.routes else []

def overlapRoutes6 : List Ipv6Net := if s.info.assignedIp6.isSome then s.config.routes6 else []

/-- The watcher's `sweep`: the client's own device is not a local network. -/
def sweep (locals : List LocalNetwork) : List LocalNetwork :=
  locals.filter fun l => l.interface ≠ s.tunName

/-- What the watcher has put in `overlap_detected`, and closed the connection for, after its
first sample and some polls. -/
def detected (first : List LocalNetwork) (polls : List (List LocalNetwork)) : Option VpnError :=
  if hasRefusableRoutes s.overlapRoutes4 s.overlapRoutes6 then
    (run (Watch.poll (overlapError s.overlapRoutes4 s.overlapRoutes6)) (Watch.start (s.sweep first))
      (polls.map s.sweep)).found
  else none

/-- `connect` from the overlap check on: the sample of the connect-time check, the watcher's
samples, and what `run_tunnel` returned. -/
def connect (atConnect first : List LocalNetwork) (polls : List (List LocalNetwork))
    (tunnel : Except VpnError Unit) : Except VpnError Unit :=
  match overlapError s.overlapRoutes4 s.overlapRoutes6 atConnect with
  | some err => .error err
  | none =>
    match s.detected first polls with
    | some err => .error err
    | none => tunnel

/-- The sample conflicts with a route of the session. -/
def Conflicts (locals : List LocalNetwork) : Prop :=
  overlapError s.overlapRoutes4 s.overlapRoutes6 (s.sweep locals) ≠ none

end Session

/-! ## The check -/

theorem overlaps_iff (a b : AnyNet) : overlaps a b = true ↔ a.Meets b := by
  rw [overlaps, Bool.or_eq_true, AnyNet.meets_iff]

/-- What the check is for: a route that is not exempt has an address of a local network. -/
def Conflict (route : AnyNet) (l : LocalNetwork) : Prop :=
  exemptMaxPrefixLen < route.prefixLen ∧ route.Meets l.net

/-- What `split_tunnel_conflict` finds for one route. -/
def routeConflict (locals : List LocalNetwork) (route : AnyNet) : Option (AnyNet × LocalNetwork) :=
  if route.prefixLen ≤ exemptMaxPrefixLen then none
  else (locals.find? fun l => overlaps route l.net).map fun l => (route, l)

section
variable {locals : List LocalNetwork} {route : AnyNet}

theorem routeConflict_eq_none_iff : routeConflict locals route = none ↔ ∀ l ∈ locals, ¬ Conflict route l := by
  unfold routeConflict
  by_cases hex : route.prefixLen ≤ exemptMaxPrefixLen
  · rw [if_pos hex]
    refine iff_of_true rfl fun l _ h => ?_
    exact absurd h.1 (Nat.not_lt.2 hex)
  · rw [if_neg hex, Option.map_eq_none_iff, List.find?_eq_none]
    refine forall_congr' fun l => imp_congr_right fun _ => not_congr ?_
    rw [overlaps_iff, Conflict]
    exact ⟨fun h => ⟨Nat.lt_of_not_le hex, h⟩, fun h => h.2⟩

/-- The local network is the first one that the route has an address of. -/
theorem routeConflict_eq_some {route' : AnyNet} {l : LocalNetwork}
    (h : routeConflict locals route = some (route', l)) :
    route' = route ∧ Conflict route l ∧
      ∃ before after, locals = before ++ l :: after ∧ ∀ l' ∈ before, ¬ route.Meets l'.net := by
  unfold routeConflict at h
  split at h
  · cases h
  · next hex =>
    obtain ⟨l', hfind, heq⟩ := Option.map_eq_some_iff.1 h
    obtain ⟨rfl, rfl⟩ := Prod.mk.inj heq
    obtain ⟨hl, before, after, hsplit, hbefore⟩ := List.find?_eq_some_iff_append.1 hfind
    refine ⟨rfl, ⟨Nat.lt_of_not_le hex, (overlaps_iff _ _).1 hl⟩, before, after, hsplit, ?_⟩
    intro l'' hmem hmeets
    rw [← overlaps_iff] at hmeets
    simpa [hmeets] using hbefore l'' hmem

end

section
variable {routes : List Ipv4Net} {routes6 : List Ipv6Net} {locals : List LocalNetwork}

theorem splitTunnelConflict_eq : splitTunnelConflict routes routes6 locals =
    (routes.map AnyNet.v4 ++ routes6.map AnyNet.v6).findSome? (routeConflict locals) := rfl

/-- The check finds something exactly if a route conflicts with a local network. -/
theorem splitTunnelConflict_isSome_iff : (splitTunnelConflict routes routes6 locals).isSome = true ↔
    ∃ route ∈ routes.map AnyNet.v4 ++ routes6.map AnyNet.v6, ∃ l ∈ locals, Conflict route l := by
  rw [splitTunnelConflict_eq, List.findSome?_isSome_iff]
  refine exists_congr fun route => and_congr_right fun _ => ?_
  rw [Option.isSome_iff_ne_none, ne_eq, routeConflict_eq_none_iff]
  push Not
  rfl

/-- Without a refusable route nothing conflicts, so no watcher is needed. -/
theorem splitTunnelConflict_of_not_refusable (h : hasRefusableRoutes routes routes6 = false) :
    splitTunnelConflict routes routes6 locals = none := by
  by_contra hne
  obtain ⟨route, hmem, l, -, hlen, -⟩ := splitTunnelConflict_isSome_iff.1 (Option.isSome_iff_ne_none.2 hne)
  unfold hasRefusableRoutes at h
  rw [Bool.or_eq_false_iff, List.any_eq_false, List.any_eq_false] at h
  rcases List.mem_append.1 hmem with hmem | hmem
  · obtain ⟨r, hr, rfl⟩ := List.mem_map.1 hmem
    exact h.1 r hr (decide_eq_true hlen)
  · obtain ⟨r, hr, rfl⟩ := List.mem_map.1 hmem
    exact h.2 r hr (decide_eq_true hlen)

/-- The refusal names the route and the local network. -/
theorem overlapError_eq_some {err : VpnError} (h : overlapError routes routes6 locals = some err) :
    ∃ route l, splitTunnelConflict routes routes6 locals = some (route, l) ∧
      err = .routeOverlapsLocalNetwork route l.net l.interface := by
  obtain ⟨⟨route, l⟩, hfind, rfl⟩ := Option.map_eq_some_iff.1 h
  exact ⟨route, l, hfind, rfl⟩

theorem overlapError_of_not_refusable (h : hasRefusableRoutes routes routes6 = false) :
    overlapError routes routes6 locals = none := by
  rw [overlapError, splitTunnelConflict_of_not_refusable h]
  rfl

end

/-- **The overlap check is exact.**  It finds a conflict if there is one, the first route that
has one, with the first local network it has an address of. -/
theorem splitTunnelConflict_exact (routes : List Ipv4Net) (routes6 : List Ipv6Net)
    (locals : List LocalNetwork) :
    ((splitTunnelConflict routes routes6 locals).isSome = true ↔
      ∃ route ∈ routes.map AnyNet.v4 ++ routes6.map AnyNet.v6, ∃ l ∈ locals, Conflict route l) ∧
    (∀ route l, splitTunnelConflict routes routes6 locals = some (route, l) →
      Conflict route l ∧
      (∃ before after, routes.map AnyNet.v4 ++ routes6.map AnyNet.v6 = before ++ route :: after ∧
        ∀ r ∈ before, ∀ l' ∈ locals, ¬ Conflict r l') ∧
      ∃ before after, locals = before ++ l :: after ∧ ∀ l' ∈ before, ¬ route.Meets l'.net) ∧
    (hasRefusableRoutes routes routes6 = false →
      ∀ locals', splitTunnelConflict routes routes6 locals' = none) := by
  refine ⟨splitTunnelConflict_isSome_iff, ?_, fun h locals' => splitTunnelConflict_of_not_refusable h⟩
  intro route l h
  rw [splitTunnelConflict_eq, List.findSome?_eq_some_iff] at h
  obtain ⟨before, route', after, hsplit, hroute, hbefore⟩ := h
  obtain ⟨rfl, hconflict, hfirst⟩ := routeConflict_eq_some hroute
  refine ⟨hconflict, ⟨before, after, hsplit, ?_⟩, hfirst⟩
  intro r hr
  exact routeConflict_eq_none_iff.1 (hbefore r hr)

/-! ## The session ends -/

namespace Session

variable (s : Session) (first : List LocalNetwork) (polls : List (List LocalNetwork))

/-- After these polls the watcher has closed the connection over a conflicting sample,
`connect` returns the refusal and the reconnect loop stops at it. -/
def Ended : Prop :=
  ∃ err, s.detected first polls = some err ∧
    (∃ locals ∈ polls, overlapError s.overlapRoutes4 s.overlapRoutes6 (s.sweep locals) = some err) ∧
    (∃ route localNet interface, err = .routeOverlapsLocalNetwork route localNet interface) ∧
    (∀ atConnect tunnel, overlapError s.overlapRoutes4 s.overlapRoutes6 atConnect = none →
      s.connect atConnect first polls tunnel = .error err) ∧
    ∀ maxAttempts (l : ReconnectLoop) jitter, l.result = none →
      (l.step maxAttempts (.error err, jitter)).result = some (.error err)

/-- A conflict ends the session, no later than at the poll that sampled it, or at the next
poll if it was in the first sample; without a conflict the watcher leaves the session alone. -/
def ConflictEndsSession : Prop :=
  (∀ before locals after, polls = before ++ locals :: after → s.Conflicts locals →
    s.Ended first (before ++ [locals])) ∧
  (s.Conflicts first → ∀ next after, polls = next :: after → s.Ended first [next]) ∧
  ((∀ locals ∈ first :: polls, ¬ s.Conflicts locals) → s.detected first polls = none)

variable {s first polls}

/-- Whatever the watcher has detected ends the session. -/
theorem ended_iff : s.Ended first polls ↔ s.detected first polls ≠ none := by
  constructor
  · rintro ⟨err, hdet, -⟩ hnone
    rw [hnone] at hdet
    cases hdet
  · intro hne
    obtain ⟨err, hdet⟩ := Option.ne_none_iff_exists'.1 hne
    have hfound := hdet
    unfold detected at hfound
    split at hfound
    · obtain ⟨swept, hmem, hcheck⟩ := Watch.found_mem hfound
      obtain ⟨locals, hlocals, rfl⟩ := List.mem_map.1 hmem
      obtain ⟨route, l, -, herr⟩ := overlapError_eq_some hcheck
      refine ⟨err, hdet, ⟨locals, hlocals, hcheck⟩, ⟨route, l.net, l.interface, herr⟩,
        fun atConnect tunnel hpass => ?_, fun maxAttempts loop jitter hgo => ?_⟩
      · simp only [connect, hpass, hdet]
      · rw [loop.step_fatal maxAttempts jitter hgo (by rw [herr]; rfl)]
    · cases hfound

theorem refusable_of_conflicts {locals : List LocalNetwork} (h : s.Conflicts locals) :
    hasRefusableRoutes s.overlapRoutes4 s.overlapRoutes6 = true := by
  by_contra hno
  exact h (overlapError_of_not_refusable (Bool.eq_false_iff.2 hno))

/-- The first poll after a conflicting first sample. -/
theorem ended_first_iff (h : s.Conflicts first) (next : List LocalNetwork) :
    s.Ended first [next] ↔ s.sweep next ≠ s.sweep first ∧ s.Conflicts next := by
  rw [ended_iff, detected, if_pos (refusable_of_conflicts h)]
  exact Watch.found_first_iff

/-- A conflict behind a first sample without one. -/
theorem ended_of_conflicts (hfirst : ¬ s.Conflicts first) (before : List (List LocalNetwork))
    {locals : List LocalNetwork} (h : s.Conflicts locals) : s.Ended first (before ++ [locals]) := by
  rw [ended_iff, detected, if_pos (refusable_of_conflicts h), List.map_append]
  exact Watch.found_of_check (not_not.1 hfirst) h

/-- A session that has ended stays ended. -/
theorem Ended.append (h : s.Ended first polls) (more : List (List LocalNetwork)) :
    s.Ended first (polls ++ more) := by
  rw [ended_iff] at h ⊢
  obtain ⟨err, hdet⟩ := Option.ne_none_iff_exists'.1 h
  unfold detected at hdet ⊢
  split at hdet
  · next href =>
    rw [if_pos href, List.map_append, run_append, Watch.found_append hdet]
    exact Option.some_ne_none err
  · cases hdet

/-- Without a conflict nothing is detected. -/
theorem detected_eq_none (h : ∀ locals ∈ polls, ¬ s.Conflicts locals) : s.detected first polls = none := by
  unfold detected
  split
  · by_contra hne
    obtain ⟨err, hfound⟩ := Option.ne_none_iff_exists'.1 hne
    obtain ⟨swept, hmem, hcheck⟩ := Watch.found_mem hfound
    obtain ⟨locals, hlocals, rfl⟩ := List.mem_map.1 hmem
    exact h locals hlocals (by rw [Conflicts, hcheck]; exact Option.some_ne_none err)
  · rfl

end Session

/-- **When a local-network conflict ends the session**: always, unless the conflict is in the
watcher's first sample already and the next sample is the same, or no longer conflicts. -/
theorem localConflict_ends_session_iff (s : Session) (first : List LocalNetwork)
    (polls : List (List LocalNetwork)) : s.ConflictEndsSession first polls ↔
      ¬ s.Conflicts first ∨
      ∀ next after, polls = next :: after → s.sweep next ≠ s.sweep first ∧ s.Conflicts next := by
  constructor
  · rintro ⟨-, hfirst, -⟩
    by_cases hc : s.Conflicts first
    · exact Or.inr fun next after hp => (Session.ended_first_iff hc next).1 (hfirst hc next after hp)
    · exact Or.inl hc
  · intro h
    have hnone : (∀ locals ∈ first :: polls, ¬ s.Conflicts locals) → s.detected first polls = none :=
      fun hno => Session.detected_eq_none fun locals hl => hno locals (List.mem_cons_of_mem _ hl)
    by_cases hc : s.Conflicts first
    · have hnext := h.resolve_left (not_not.2 hc)
      refine ⟨fun before locals after hp hl => ?_, fun _ next after hp =>
        (Session.ended_first_iff hc next).2 (hnext next after hp), hnone⟩
      -- the session ended at the first poll already
      cases before with
      | nil => exact (Session.ended_first_iff hc locals).2 (hnext locals after hp)
      | cons next before =>
        exact ((Session.ended_first_iff hc next).2 (hnext next _ hp)).append (before ++ [locals])
    · exact ⟨fun before locals after _ hl => Session.ended_of_conflicts hc before hl,
        fun hf => absurd hf hc, hnone⟩

/-- A client with a route to 192.168.0.0/16. -/
def roaming : Session :=
  ⟨⟨[⟨0xc0a80000#32, 16, by decide⟩], []⟩,
    ⟨some 0x0a000002#32, some ⟨0x0a000001#32, 32, by decide⟩, some 0x0a000001#32, none, none, none, []⟩,
    "tun0"⟩

/-- The home network, 192.168.1.0/24. -/
def home : List LocalNetwork := [⟨"en0", .v4 ⟨0xc0a80100#32, 24, by decide⟩⟩]

/-- The host comes home between the check of `connect` and the watcher's first sample: the
check passes, every sample conflicts, and the session goes on as long as the tunnel does. -/
theorem localConflict_unnoticed :
    overlapError roaming.overlapRoutes4 roaming.overlapRoutes6 [] = none ∧
    roaming.Conflicts home ∧
    roaming.detected home [home, home, home] = none ∧
    roaming.connect [] home [home, home, home] (.ok ()) = .ok () ∧
    ¬ roaming.ConflictEndsSession home [home, home, home] := by
  have hconflict : roaming.Conflicts home := by unfold Session.Conflicts; decide +kernel
  have hnot : roaming.detected home [home] = none := by decide +kernel
  refine ⟨by decide +kernel, hconflict, by decide +kernel, by decide +kernel, fun h => ?_⟩
  obtain ⟨err, hdet, -⟩ := h.2.1 hconflict home [home, home] rfl
  rw [hnot] at hdet
  cases hdet

end EzVpn
