import EzVpn.Config
import EzVpn.Lib.Owned

/-!
# Routes through the tunnel

`add_routes`, `add_routes6_with_src`, their rollback and the guards that remove the routes
again (src/net/device.rs).  The route table of the system is a set of prefixes: adding one
that is present reports `AlreadyExisted`, an add that fails changes nothing, and a remove
takes the prefix out.  Which adds fail, and with which error, is arbitrary.
-/

namespace EzVpn

open Lib

/-- `trunc`: the prefix of a network, its host bits cleared. -/
def IpNet.trunc {w : Nat} (n : IpNet w) : IpNet w := ⟨n.network, n.prefixLen, n.prefix_le⟩

def AnyNet.trunc : AnyNet → AnyNet
  | v4 net => .v4 net.trunc
  | v6 net => .v6 net.trunc

inductive RouteAddOutcome
  | added
  | alreadyExisted
deriving DecidableEq

/-- The system: its route table, the number of adds so far and the prefixes removed so far. -/
structure Os where
  table : Finset AnyNet
  adds : Nat
  removed : List AnyNet

def Os.start (table : Finset AnyNet) : Os := ⟨table, 0, []⟩

section
variable (fails : Nat → Option VpnError)

/-- `add_route`, `add_route6_with_src`. -/
def addRoute (route : AnyNet) (os : Os) : Except VpnError RouteAddOutcome × Os :=
  match fails os.adds with
  | some e => (.error e, { os with adds := os.adds + 1 })
  | none =>
    if route.trunc ∈ os.table then (.ok .alreadyExisted, { os with adds := os.adds + 1 })
    else (.ok .added, { os with adds := os.adds + 1, table := insert route.trunc os.table })

/-- `remove_route` for each of the routes. -/
def removeRoutes (routes : List AnyNet) (os : Os) : Os :=
  { os with
    table := removeAll os.table (routes.map AnyNet.trunc)
    removed := os.removed ++ routes.map AnyNet.trunc }

/-- `RouteGuard`, `Route6Guard`: the routes this process added. -/
structure RouteGuard where
  routes : List AnyNet
deriving DecidableEq

def RouteGuard.drop (guard : RouteGuard) (os : Os) : Os := removeRoutes guard.routes.reverse os

/-- The loop of `add_routes`; `added` are the routes of this call so far. -/
def addLoop : List AnyNet → List AnyNet → Os → Except VpnError RouteGuard × Os
  | [], added, os => (.ok ⟨added⟩, os)
  | route :: routes, added, os =>
    match addRoute fails route os with
    | (.ok .added, os) => addLoop routes (added ++ [route]) os
    | (.ok .alreadyExisted, os) => addLoop routes added os
    -- rollback
    | (.error e, os) => (.error e, removeRoutes added.reverse os)

/-- A default route becomes two halves. -/
def expandDefaultRoute {w : Nat} (low high route : IpNet w) : List (IpNet w) :=
  if route.prefixLen ≠ 0 then [route] else [low, high]

def expandDefaultRoute4 : Ipv4Net → List Ipv4Net :=
  expandDefaultRoute ⟨0#32, 1, by decide⟩ ⟨0x80000000#32, 1, by decide⟩

def expandDefaultRoute6 : Ipv6Net → List Ipv6Net :=
  expandDefaultRoute ⟨0#128, 1, by decide⟩ ⟨0x80000000000000000000000000000000#128, 1, by decide⟩

def addRoutes (routes : List Ipv4Net) : Os → Except VpnError RouteGuard × Os :=
  addLoop fails ((routes.flatMap expandDefaultRoute4).map .v4) []

/-- `add_routes6_with_src`.  The source address is no part of the prefix. -/
def addRoutes6WithSrc (routes : List Ipv6Net) : Os → Except VpnError RouteGuard × Os :=
  addLoop fails ((routes.flatMap expandDefaultRoute6).map .v6) []

end

/-! ## What is covered -/

section
variable {w : Nat} (n : IpNet w)

theorem IpNet.network_trunc : n.trunc.network = n.network := by
  apply BitVec.eq_of_toNat_eq
  have hbits : n.trunc.hostBits = n.hostBits := rfl
  have haddr : n.trunc.addr = n.network := rfl
  rw [network_toNat, hbits, haddr, network_toNat, Nat.mul_div_cancel _ (Nat.two_pow_pos _)]

theorem IpNet.contains_trunc (ip : BitVec w) : n.trunc.contains ip = n.contains ip := by
  have hlast : n.trunc.broadcast = n.broadcast := by
    apply BitVec.eq_of_toNat_eq
    rw [broadcast_toNat, broadcast_toNat, network_trunc]
    rfl
  rw [contains, contains, network_trunc, hlast]

theorem AnyNet.contains_trunc (net : AnyNet) (ip : IpAddr) : net.trunc.contains ip = net.contains ip := by
  cases net <;> cases ip
  · exact IpNet.contains_trunc _ _
  · rfl
  · rfl
  · exact IpNet.contains_trunc _ _

theorem AnyNet.prefixLen_trunc (net : AnyNet) : net.trunc.prefixLen = net.prefixLen := by
  cases net <;> rfl

/-- A network without a prefix contains everything. -/
theorem IpNet.contains_of_prefixLen_zero (h : n.prefixLen = 0) (ip : BitVec w) : n.contains ip = true := by
  have hbits : n.hostBits = w := by rw [hostBits, h, Nat.sub_zero]
  have hnet : n.network.toNat = 0 := by
    rw [network_toNat, hbits, Nat.div_eq_of_lt n.addr.isLt, Nat.zero_mul]
  have hip := ip.isLt
  rw [contains_iff, broadcast_toNat, hnet, hbits]
  omega

end

/-- Two networks with a one-bit prefix, one for each value of the bit. -/
structure Halves {w : Nat} (low high : IpNet w) : Prop where
  low_len : low.prefixLen = 1
  high_len : high.prefixLen = 1
  cover : ∀ ip, low.contains ip = true ∨ high.contains ip = true

theorem halves_of_bit {w : Nat} {low high : IpNet w} (hw : 0 < w) (hlow : low.prefixLen = 1)
    (hhigh : high.prefixLen = 1) (hlow' : low.addr.toNat = 0) (hhigh' : high.addr.toNat = 2 ^ (w - 1)) :
    Halves low high := by
  refine ⟨hlow, hhigh, fun ip => ?_⟩
  have hpos := Nat.two_pow_pos (w - 1)
  have hdouble : 2 ^ w = 2 ^ (w - 1) + 2 ^ (w - 1) := by
    rw [← Nat.two_mul, ← Nat.pow_succ', Nat.succ_eq_add_one, Nat.sub_add_cancel hw]
  have hip := ip.isLt
  rw [IpNet.contains_iff, IpNet.contains_iff, IpNet.broadcast_toNat, IpNet.broadcast_toNat,
    IpNet.network_toNat, IpNet.network_toNat, IpNet.hostBits, IpNet.hostBits, hlow, hhigh, hlow', hhigh',
    Nat.div_self hpos, Nat.one_mul, Nat.zero_div, Nat.zero_mul]
  omega

theorem expandDefaultRoute_contains {w : Nat} {low high : IpNet w} (h : Halves low high) (route : IpNet w)
    (ip : BitVec w) :
    (∃ part ∈ expandDefaultRoute low high route, part.contains ip = true) ↔ route.contains ip = true := by
  unfold expandDefaultRoute
  split
  · simp
  · next hzero =>
    have hall := route.contains_of_prefixLen_zero (not_not.1 hzero) ip
    simpa [hall] using h.cover ip

/-- A list of routes and its expansion contain the same addresses. -/
theorem flatMap_expandDefaultRoute_contains {w : Nat} {low high : IpNet w} (h : Halves low high)
    (routes : List (IpNet w)) (ip : BitVec w) :
    (∃ part ∈ routes.flatMap (expandDefaultRoute low high), part.contains ip = true) ↔
      ∃ route ∈ routes, route.contains ip = true := by
  constructor
  · rintro ⟨part, hpart, hip⟩
    obtain ⟨route, hroute, hmem⟩ := List.mem_flatMap.1 hpart
    exact ⟨route, hroute, (expandDefaultRoute_contains h route ip).1 ⟨part, hmem, hip⟩⟩
  · rintro ⟨route, hroute, hip⟩
    obtain ⟨part, hmem, hpart⟩ := (expandDefaultRoute_contains h route ip).2 hip
    exact ⟨part, List.mem_flatMap.2 ⟨route, hroute, hmem⟩, hpart⟩

theorem expandDefaultRoute_prefixLen {w : Nat} {low high : IpNet w} (h : Halves low high)
    {route part : IpNet w} (hpart : part ∈ expandDefaultRoute low high route) : part.prefixLen ≠ 0 := by
  unfold expandDefaultRoute at hpart
  split at hpart
  · next hne => rwa [List.mem_singleton.1 hpart]
  · rcases List.mem_pair.1 hpart with rfl | rfl
    · rw [h.low_len]; decide
    · rw [h.high_len]; decide

theorem halves4 : Halves (⟨0#32, 1, by decide⟩ : Ipv4Net) ⟨0x80000000#32, 1, by decide⟩ :=
  halves_of_bit (by decide) rfl rfl rfl (by decide +kernel)

theorem halves6 : Halves (⟨0#128, 1, by decide⟩ : Ipv6Net)
    ⟨0x80000000000000000000000000000000#128, 1, by decide⟩ :=
  halves_of_bit (by decide) rfl rfl rfl (by decide +kernel)

/-! ## What is undone -/

/-- The prefixes of routes. -/
def prefixes (routes : List AnyNet) : Finset AnyNet := (routes.map AnyNet.trunc).toFinset

theorem prefixes_cons (route : AnyNet) (routes : List AnyNet) :
    prefixes (route :: routes) = insert route.trunc (prefixes routes) := List.toFinset_cons

theorem prefixes_append (routes routes' : List AnyNet) :
    prefixes (routes ++ routes') = prefixes routes ∪ prefixes routes' := by
  rw [prefixes, List.map_append, List.toFinset_append, prefixes, prefixes]

theorem mem_prefixes {k : AnyNet} {routes : List AnyNet} :
    k ∈ prefixes routes ↔ ∃ route ∈ routes, route.trunc = k := by
  rw [prefixes, List.mem_toFinset, List.mem_map]

theorem removeRoutes_append (routes routes' : List AnyNet) (os : Os) :
    removeRoutes (routes ++ routes') os = removeRoutes routes' (removeRoutes routes os) := by
  simp only [removeRoutes, List.map_append, removeAll_append, List.append_assoc]

/-- The table is as it was, and nothing that was in it has been removed. -/
structure Undone (os os' : Os) : Prop where
  table : os'.table = os.table
  removed : ∃ ks, os'.removed = os.removed ++ ks ∧ ∀ k ∈ ks, k ∉ os.table

/-- Routes were added, those in `owned` by this process, and nothing was removed. -/
structure Installed (os os' : Os) (owned : List AnyNet) (ks : Finset AnyNet) : Prop where
  owns : Owns os.table os'.table (prefixes owned)
  table : os'.table = os.table ∪ ks
  removed : os'.removed = os.removed

namespace Installed

variable {os os' os'' : Os} {owned owned' : List AnyNet} {ks ks' : Finset AnyNet}

theorem refl (os : Os) : Installed os os [] ∅ := ⟨.refl _, by simp, rfl⟩

theorem trans (h : Installed os os' owned ks) (h' : Installed os' os'' owned' ks') :
    Installed os os'' (owned ++ owned') (ks ∪ ks') := by
  refine ⟨?_, ?_, h'.removed.trans h.removed⟩
  · rw [prefixes_append]
    exact h.owns.trans h'.owns
  · rw [h'.table, h.table, Finset.union_assoc]

/-- **Removing what was added** undoes the installation, whatever the order. -/
theorem undone (h : Installed os os' owned ks) {routes : List AnyNet}
    (hroutes : ∀ route, route ∈ routes ↔ route ∈ owned) : Undone os (removeRoutes routes os') := by
  have hsame : prefixes routes = prefixes owned := by
    ext k
    simp only [mem_prefixes, hroutes]
  refine ⟨h.owns.removeAll hsame, routes.map AnyNet.trunc, ?_, fun k hk => h.owns.fresh k ?_⟩
  · show os'.removed ++ routes.map AnyNet.trunc = _
    rw [h.removed]
  · rw [← hsame]
    exact List.mem_toFinset.2 hk

/-- What was undone on top of an installation is undone below it too. -/
theorem undone_trans (h : Installed os os' owned ks) (hu : Undone os' os'') {routes : List AnyNet}
    (hroutes : ∀ route, route ∈ routes ↔ route ∈ owned) : Undone os (removeRoutes routes os'') := by
  obtain ⟨htable, ks', hremoved, hfresh⟩ := hu
  obtain ⟨htable', ks'', hremoved', hfresh'⟩ := h.undone hroutes
  refine ⟨?_, ks' ++ routes.map AnyNet.trunc, ?_, fun k hk => ?_⟩
  · show removeAll os''.table _ = _
    rw [htable]
    exact htable'
  · show os''.removed ++ _ = _
    rw [hremoved, h.removed, List.append_assoc]
  · rcases List.mem_append.1 hk with hk | hk
    · exact fun hos => hfresh k hk (h.table ▸ Finset.mem_union_left _ hos)
    · refine h.owns.fresh k ?_
      obtain ⟨route, hroute, rfl⟩ := List.mem_map.1 hk
      exact mem_prefixes.2 ⟨route, (hroutes route).1 hroute, rfl⟩

end Installed

/-- How an installation from `os` ends: everything in `ks` is in the table, or an add failed
and all is undone. -/
def Outcome {α : Type} (fails : Nat → Option VpnError) (os : Os) (owned : α → List AnyNet)
    (ks : Finset AnyNet) (result : Except VpnError α × Os) : Prop :=
  (∃ a os', result = (.ok a, os') ∧ Installed os os' (owned a) ks) ∨
  (∃ e os', result = (.error e, os') ∧ (∃ n, fails n = some e) ∧ Undone os os')

theorem addRoute_cases (fails : Nat → Option VpnError) (route : AnyNet) (os : Os) :
    (∃ os', addRoute fails route os = (.ok .added, os') ∧ Installed os os' [route] {route.trunc}) ∨
    (∃ os', addRoute fails route os = (.ok .alreadyExisted, os') ∧ Installed os os' [] {route.trunc}) ∨
    (∃ e os', addRoute fails route os = (.error e, os') ∧ (∃ n, fails n = some e) ∧ Undone os os') := by
  unfold addRoute
  cases hfail : fails os.adds with
  | some e =>
    exact Or.inr (Or.inr ⟨e, _, rfl, ⟨_, hfail⟩, rfl, [], (List.append_nil _).symm, by simp⟩)
  | none =>
    by_cases hmem : route.trunc ∈ os.table
    · refine Or.inr (Or.inl ⟨_, if_pos hmem, .refl _, ?_, rfl⟩)
      exact (Finset.union_eq_left.2 (Finset.singleton_subset_iff.2 hmem)).symm
    · refine Or.inl ⟨_, if_neg hmem, .insert hmem, ?_, rfl⟩
      exact (Owns.insert hmem).eq

/-- The loop: `added` is what this call added since `os₀`. -/
theorem addLoop_outcome (fails : Nat → Option VpnError) (routes : List AnyNet) :
    ∀ {os₀ os : Os} {added : List AnyNet} {ks : Finset AnyNet}, Installed os₀ os added ks →
      Outcome fails os₀ RouteGuard.routes (ks ∪ prefixes routes) (addLoop fails routes added os) := by
  induction routes with
  | nil =>
    intro os₀ os added ks h
    exact Or.inl ⟨⟨added⟩, os, rfl, h.owns, by rw [h.table]; simp [prefixes], h.removed⟩
  | cons route routes ih =>
    intro os₀ os added ks h
    have hks : ks ∪ prefixes (route :: routes) = ks ∪ {route.trunc} ∪ prefixes routes := by
      rw [prefixes_cons, Finset.union_assoc]
      rfl
    rw [hks, addLoop]
    rcases addRoute_cases fails route os with ⟨os', heq, h'⟩ | ⟨os', heq, h'⟩ | ⟨e, os', heq, hn, hu⟩
    · rw [heq]
      exact ih (h.trans h')
    · rw [heq]
      exact ih (List.append_nil added ▸ h.trans h')
    · rw [heq]
      exact Or.inr ⟨e, _, rfl, hn, h.undone_trans hu fun route => List.mem_reverse⟩

end EzVpn
