import EzVpn.Server.Inbound
import EzVpn.Server.Admission

/-!
# Client isolation

Whatever the connections do, the reverse maps hold only addresses that a pool handed out
to the client they name, and never an address of the server (`owner_handedOut`).  So the
inbound filter keeps clients apart and never blocks the gateway (`client_isolation`).

No freedom from races is assumed: a stale mapping may outlive its lease, but it is a
client address all the same.
-/

namespace EzVpn

open Lib Bytes

variable {EndpointId PublicKey : Type} [DecidableEq EndpointId]

/-! ## Pools never hand out the server's address -/

theorem ne_server_of_held {w : Nat} {server : BitVec w} {s : FreeList (ClientKey EndpointId) (BitVec w)}
    (hs : FreeList.Inv (BitVec.ofNat w) (server.toNat + 1) s) (hm : s.max < 2 ^ w)
    {k : ClientKey EndpointId} {a : BitVec w} (hk : s.inUse.lookup k = some a) : a ≠ server := by
  obtain ⟨n, h1, h2, rfl⟩ := (hs.drawn a).1 (Or.inl ⟨k, hk⟩)
  have hle : n ≤ s.max := by rcases hs.next_le with h | h <;> omega
  intro heq
  have hn := congrArg BitVec.toNat heq
  rw [BitVec.toNat_ofNat, Nat.mod_eq_of_lt (by omega)] at hn
  omega

theorem IpPool.Inv.allocate_ne_server {p : IpPool EndpointId} (h : p.Inv) {e : EndpointId} {d : UInt64}
    {ip : Ipv4Addr} (ha : (p.allocate e d).1 = some ip) : ip ≠ p.serverIp := by
  have hinv := inv_apply h (.allocate e d)
  have hheld := congrFun (allocate_acquire h e d).held_eq (e, d)
  rw [Function.update_self, ha] at hheld
  rw [← hinv.2.2.1]
  exact ne_server_of_held hinv.1.list hinv.1.max_lt hheld

theorem Ip6Pool.Inv.allocate_ne_server {suffix : EndpointId → UInt64} {p : Ip6Pool EndpointId}
    (h : p.Inv suffix) {e : EndpointId} {d : UInt64} {ip : Ipv6Addr}
    (ha : (p.allocate suffix e d).1 = some ip) : ip ≠ p.serverIp := by
  obtain ⟨hinv, -, hserver⟩ := inv_allocate h e d
  have hheld := congrFun (allocate_acquire h e d).held_eq (e, d)
  rw [Function.update_self, ha] at hheld
  rw [← hserver]
  rcases hinv.cases with ⟨s, hp, hm, hs⟩ | ⟨-, hn⟩
  · rw [hp] at hheld
    exact ne_server_of_held hs hm hheld
  · exact (hn.usable (e, d) ip hheld).2

variable [DecidableEq PublicKey]

/-! ## What a step does to the maps and the pools -/

/-- The handler was assigned the address. -/
def Handler.Assigned (h : Handler) : PacketIp → Prop
  | .v4 ip => h.assignedIp = some ip
  | .v6 ip => h.assignedIp6 = some ip

/-- The address is the server's own. -/
def VpnServer.IsServerIp (s : VpnServer EndpointId PublicKey) : PacketIp → Prop
  | .v4 ip => ∃ pool, s.ipPool = some pool ∧ pool.serverIp = ip
  | .v6 ip => ∃ pool, s.ip6Pool = some pool ∧ pool.serverIp = ip

/-- The next step of the handler allocates the address. -/
def Allocates (x : Externals EndpointId PublicKey) (p : Peer EndpointId)
    (s : VpnServer EndpointId PublicKey) (h : Handler) : PacketIp → Prop
  | .v4 ip => h.phase = .allocatingIp ∧ ∃ pool, s.ipPool = some pool ∧
      (pool.allocate p.remoteId (p.deviceId x)).1 = some ip
  | .v6 ip => h.phase = .allocatingIp6 ∧ ∃ pool, s.ip6Pool = some pool ∧
      (pool.allocate x.suffix p.remoteId (p.deviceId x)).1 = some ip

section
variable {x : Externals EndpointId PublicKey} {c : ConnId} {p : Peer EndpointId} {io : Io}
  {s s' : VpnServer EndpointId PublicKey} {h h' : Handler}

theorem Trans.owner (ht : Trans x c p io s h s' h') {ip : PacketIp} {k : ClientKey EndpointId}
    (hk : s'.routes.owner ip = some k) :
    s.routes.owner ip = some k ∨ k = p.key x ∧ h.Assigned ip := by
  cases ht with
  | insertIp hp hip =>
    cases ip with
    | v6 ip => exact Or.inl hk
    | v4 ip =>
      simp only [VpnServer.routes, Routes.owner, Map.lookup_insert_eq] at hk
      split at hk
      · next e => subst e; exact Or.inr ⟨(Option.some.inj hk).symm, hip⟩
      · exact Or.inl hk
  | insertIp6 hp hip =>
    cases ip with
    | v4 ip => exact Or.inl hk
    | v6 ip =>
      simp only [VpnServer.routes, Routes.owner, Map.lookup_insert_eq] at hk
      split at hk
      · next e => subst e; exact Or.inr ⟨(Option.some.inj hk).symm, hip⟩
      · exact Or.inl hk
  | removeIp hp hip =>
    cases ip with
    | v6 ip => exact Or.inl hk
    | v4 ip =>
      simp only [VpnServer.routes, Routes.owner, Map.lookup_removeIf] at hk
      split at hk
      · cases hk
      · exact Or.inl hk
  | removeIp6 hp hip =>
    cases ip with
    | v4 ip => exact Or.inl hk
    | v6 ip =>
      simp only [VpnServer.routes, Routes.owner, Map.lookup_removeIf] at hk
      split at hk
      · cases hk
      · exact Or.inl hk
  | _ => exact Or.inl hk

theorem Trans.assigned (ht : Trans x c p io s h s' h') {ip : PacketIp} (ha : h'.Assigned ip) :
    h.Assigned ip ∨ Allocates x p s h ip := by
  cases ht with
  | allocIp hp hs =>
    cases ip with
    | v4 ip => exact Or.inr ⟨hp, _, hs, ha⟩
    | v6 ip => exact Or.inl ha
  | noIp hp hs =>
    cases ip with
    | v4 ip => cases ha
    | v6 ip => exact Or.inl ha
  | allocIp6 hp hs =>
    cases ip with
    | v4 ip => exact Or.inl ha
    | v6 ip => exact Or.inr ⟨hp, _, hs, ha⟩
  | exhaustedIp6 hp hs hnone hno4 hip6 =>
    cases ip with
    | v4 ip => exact Or.inl ha
    | v6 ip =>
      rcases hip6 with rfl | rfl
      · cases ha
      · exact Or.inl ha
  | noIp6 hp hs | noAddress hp hs _ =>
    cases ip with
    | v4 ip => exact Or.inl ha
    | v6 ip => cases ha
  | _ => exact Or.inl ha

theorem Trans.ipPool (ht : Trans x c p io s h s' h') :
    s'.ipPool = s.ipPool ∨ ∃ op, s'.ipPool = s.ipPool.map (·.apply op) := by
  cases ht with
  | allocIp hp hs | exhaustedIp hp hs _ =>
    exact Or.inr ⟨.allocate p.remoteId (p.deviceId x), by rw [hs]; rfl⟩
  | releaseIp hp hr => exact Or.inr ⟨.release p.remoteId (p.deviceId x), rfl⟩
  | _ => exact Or.inl rfl

theorem Trans.ip6Pool (ht : Trans x c p io s h s' h') :
    s'.ip6Pool = s.ip6Pool ∨ ∃ op, s'.ip6Pool = s.ip6Pool.map (·.apply x.suffix op) := by
  cases ht with
  | allocIp6 hp hs | exhaustedIp6 hp hs _ _ _ =>
    exact Or.inr ⟨.allocate p.remoteId (p.deviceId x), by rw [hs]; rfl⟩
  | releaseIp6 hp hr => exact Or.inr ⟨.release p.remoteId (p.deviceId x), rfl⟩
  | _ => exact Or.inl rfl

end

/-! ## Whole runs -/

section
variable (x : Externals EndpointId PublicKey) (peers : ConnId → Peer EndpointId)

/-- The pools keep their invariants and their server addresses. -/
structure PoolsInv (s : VpnServer EndpointId PublicKey) (w : World EndpointId PublicKey) : Prop where
  pool4 : ∀ p, w.server.ipPool = some p → p.Inv ∧ ∃ p₀, s.ipPool = some p₀ ∧ p.serverIp = p₀.serverIp
  pool6 : ∀ p, w.server.ip6Pool = some p →
    p.Inv x.suffix ∧ ∃ p₀, s.ip6Pool = some p₀ ∧ p.serverIp = p₀.serverIp

theorem poolsInv_step (s : VpnServer EndpointId PublicKey) (w : World EndpointId PublicKey)
    (a : ConnId × Io) (h : PoolsInv x s w) : PoolsInv x s (step x peers w a) := by
  obtain ⟨c, io⟩ := a
  obtain ⟨s', h', heq, ht⟩ := step_trans x c io peers w
  rw [heq]
  refine ⟨fun p hp => ?_, fun p hp => ?_⟩
  · rcases ht.ipPool with he | ⟨op, he⟩
    · exact h.pool4 p (he.symm.trans hp)
    · obtain ⟨q, hq, rfl⟩ := Option.map_eq_some_iff.1 (he.symm.trans hp)
      obtain ⟨hinv, p₀, hp₀, hs⟩ := h.pool4 q hq
      have happly := IpPool.inv_apply hinv op
      exact ⟨happly.1, p₀, hp₀, happly.2.2.1.trans hs⟩
  · rcases ht.ip6Pool with he | ⟨op, he⟩
    · exact h.pool6 p (he.symm.trans hp)
    · obtain ⟨q, hq, rfl⟩ := Option.map_eq_some_iff.1 (he.symm.trans hp)
      obtain ⟨hinv, p₀, hp₀, hs⟩ := h.pool6 q hq
      have happly := Ip6Pool.inv_apply hinv op
      exact ⟨happly.1, p₀, hp₀, happly.2.2.trans hs⟩

omit [DecidableEq PublicKey] in
variable {x} in
theorem poolsInv_new {config : VpnServerConfig PublicKey} {serverId : EndpointId}
    {s : VpnServer EndpointId PublicKey} (hnew : VpnServer.new x config serverId = .ok s) :
    PoolsInv x s (World.new s) := by
  obtain ⟨-, h4, h6⟩ := VpnServer.new_eq hnew
  refine ⟨fun p hp => ⟨?_, p, hp, rfl⟩, fun p hp => ⟨?_, p, hp, rfl⟩⟩
  · obtain ⟨network, -, h⟩ := h4 p hp
    exact IpPool.inv_new network _ p h
  · obtain ⟨network6, -, h⟩ := h6 p hp
    exact Ip6Pool.inv_new x.suffix network6 _ _ _ p h

/-- Some step of the run had a pool hand `ip` out to the client `k`. -/
def HandedOut (s : VpnServer EndpointId PublicKey) (as : List (ConnId × Io)) (ip : PacketIp)
    (k : ClientKey EndpointId) : Prop :=
  Once (step x peers)
    (fun w a => (peers a.1).key x = k ∧ Allocates x (peers a.1) w.server (w.handlers a.1) ip)
    (World.new s) as

/-- Addresses in the maps and in the handlers' hands were handed out. -/
structure RoutesInv (s : VpnServer EndpointId PublicKey) (as : List (ConnId × Io))
    (w : World EndpointId PublicKey) : Prop where
  owner : ∀ ip k, w.server.routes.owner ip = some k → HandedOut x peers s as ip k
  assigned : ∀ c ip, (w.handlers c).Assigned ip → HandedOut x peers s as ip ((peers c).key x)

theorem routesInv_step (s : VpnServer EndpointId PublicKey) (as : List (ConnId × Io)) (a : ConnId × Io)
    (h : RoutesInv x peers s as (run (step x peers) (World.new s) as)) :
    RoutesInv x peers s (as ++ [a]) (step x peers (run (step x peers) (World.new s) as) a) := by
  obtain ⟨c, io⟩ := a
  obtain ⟨s', h', heq, ht⟩ := step_trans x c io peers (run (step x peers) (World.new s) as)
  rw [heq]
  refine ⟨fun ip k hk => ?_, fun c' ip ha => ?_⟩
  · rcases ht.owner hk with hk | ⟨rfl, ha⟩
    · exact (h.owner ip k hk).append _
    · exact (h.assigned c ip ha).append _
  · simp only [Function.update_apply] at ha
    split at ha
    · next e =>
      subst e
      rcases ht.assigned ha with ha | ha
      · exact (h.assigned c' ip ha).append _
      · exact once_last ⟨rfl, ha⟩
    · exact (h.assigned c' ip ha).append _

variable {x peers} in
/-- **The maps hold client addresses only.** -/
theorem owner_handedOut {config : VpnServerConfig PublicKey} {serverId : EndpointId}
    {s : VpnServer EndpointId PublicKey} (hnew : VpnServer.new x config serverId = .ok s)
    (as : List (ConnId × Io)) {ip : PacketIp} {k : ClientKey EndpointId}
    (hk : (run (step x peers) (World.new s) as).server.routes.owner ip = some k) :
    HandedOut x peers s as ip k ∧ ¬ s.IsServerIp ip := by
  have hinit : RoutesInv x peers s [] (World.new s) := by
    obtain ⟨hs, -, -⟩ := VpnServer.new_eq hnew
    refine ⟨fun ip k hk => ?_, fun c ip ha => ?_⟩
    · rw [World.new, hs] at hk
      cases ip <;> simp [VpnServer.routes, Routes.owner] at hk
    · cases ip <;> cases ha
  have hout := (inv_history hinit (routesInv_step x peers s) as).owner ip k hk
  refine ⟨hout, fun hserver => ?_⟩
  -- the pool that handed it out had the server address of the start
  obtain ⟨before, a, after, -, -, halloc⟩ := hout
  have hpools := inv_run_all (poolsInv_step x peers s) before _ (poolsInv_new hnew)
  cases ip with
  | v4 ip =>
    obtain ⟨-, pool, hpool, hip⟩ := halloc
    obtain ⟨hinv, p₀, hp₀, hs⟩ := hpools.pool4 pool hpool
    obtain ⟨p₁, hp₁, rfl⟩ := hserver
    obtain rfl := Option.some.inj (hp₀.symm.trans hp₁)
    exact hinv.allocate_ne_server hip hs.symm
  | v6 ip =>
    obtain ⟨-, pool, hpool, hip⟩ := halloc
    obtain ⟨hinv, p₀, hp₀, hs⟩ := hpools.pool6 pool hpool
    obtain ⟨p₁, hp₁, rfl⟩ := hserver
    obtain rfl := Option.some.inj (hp₀.symm.trans hp₁)
    exact hinv.allocate_ne_server hip hs.symm

/-- **Clients are kept apart, and the gateway is reachable.**

In every state of every run the maps hold client addresses only.  For every client the
inbound loop hands the writer exactly the packets that `Forwardable` describes, in order,
as long as the channel is open.  With the maps of any two states of a run, a packet to the
server or to an unmapped address that passes the source checks is forwarded, and a
forwarded packet neither goes to a client nor claims another client's address. -/
theorem client_isolation (config : VpnServerConfig PublicKey) (serverId : EndpointId)
    (s : VpnServer EndpointId PublicKey) (hnew : VpnServer.new x config serverId = .ok s) :
    (∀ as ip k, (run (step x peers) (World.new s) as).server.routes.owner ip = some k →
      HandedOut x peers s as ip k ∧ ¬ s.IsServerIp ip) ∧
    ∀ (k : ClientKey EndpointId) (ports : List UInt16),
      (∀ (st : Inbound) (reads : List (Option (List (Arrival EndpointId)))),
        (∀ a ∈ received reads, a.enqueue.isOpen = true) →
        (inboundLoop ports k st reads).tunWrites =
          st.tunWrites ++ ((received reads).filter fun a => Forwardable ports k a).map (·.packet)) ∧
      ∀ (as bs : List (ConnId × Io)) (a : Arrival EndpointId),
        a.atSource = (run (step x peers) (World.new s) as).server.routes →
        a.atDest = (run (step x peers) (World.new s) (as ++ bs)).server.routes →
        (∀ ip, extractDestIp a.packet = some ip → s.IsServerIp ip ∨ a.atDest.owner ip = none →
          ¬ SelfEncapsulated ports a.packet → sourceValid k a.atSource a.packet = true →
          Forwardable ports k a) ∧
        (Forwardable ports k a → ∀ ip k',
          (extractDestIp a.packet = some ip → a.atDest.owner ip ≠ some k') ∧
          (extractSourceIp a.packet = some ip → k' ≠ k → a.atSource.owner ip ≠ some k')) := by
  refine ⟨fun as ip k hk => owner_handedOut hnew as hk, fun k ports => ⟨fun st reads hopen => ?_, ?_⟩⟩
  · rw [inboundLoop_tunWrites, written_of_open ports k _ hopen]
  · intro as bs a _ hdest
    refine ⟨fun ip hip hfree henc hsource => ?_, fun hf ip k' => ⟨fun hip => ?_, fun hip hne hown => ?_⟩⟩
    · obtain ⟨hparse, hown, hlocal⟩ := (sourceValid_iff k _ _).1 hsource
      refine ⟨hparse, henc, hown, hlocal, fun ip' hip' => ?_⟩
      obtain rfl := Option.some.inj (hip.symm.trans hip')
      rcases hfree with hserver | hnone
      · cases howner : a.atDest.owner ip with
        | none => rfl
        | some k' =>
          rw [hdest] at howner
          exact absurd hserver (owner_handedOut hnew (as ++ bs) howner).2
      · exact hnone
    · rw [hf.dest ip hip]
      exact fun h => by cases h
    · exact hne (hf.source ip k' hip hown)

end

/-- Two devices of endpoint 7. -/
def twoPeers : ConnId → Peer Nat
  | 0 => ⟨7, [1]⟩
  | _ => ⟨7, [1, 1]⟩

/-- Both register; they are given 10.0.0.2 and 10.0.0.3. -/
def twoRun : List (ConnId × Io) := List.replicate 12 (0, .ok) ++ List.replicate 12 (1, .ok)

/-- A bare IPv4 header. -/
def ipv4Header (src dst : Bytes) : Bytes := [0x45, 0, 0, 20, 0, 0, 0, 0, 64, 6, 0, 0] ++ src ++ dst

/-- With both registered the first client reaches the gateway, but neither the second
client nor, under its address, anyone. -/
theorem client_isolation_two :
    let routes := (run (step toy twoPeers) (World.new toyServer) twoRun).server.routes
    let arrival := fun src dst => (⟨ipv4Header src dst, routes, routes, .sent⟩ : Arrival Nat)
    let k := (twoPeers 0).key toy
    (inboundLoop [] k ⟨{}, []⟩ [some [arrival [10, 0, 0, 2] [10, 0, 0, 1],
        arrival [10, 0, 0, 2] [10, 0, 0, 3], arrival [10, 0, 0, 3] [10, 0, 0, 1]]]).tunWrites =
      [ipv4Header [10, 0, 0, 2] [10, 0, 0, 1]] ∧
    routes.owner (.v4 0x0a000003#32) = some ((twoPeers 1).key toy) ∧
    ¬ toyServer.IsServerIp (.v4 0x0a000003#32) ∧
    Forwardable [] k (arrival [10, 0, 0, 2] [10, 0, 0, 1]) := by
  have h := client_isolation toy twoPeers toyConfig 0 toyServer rfl
  intro routes arrival k
  have hown : routes.owner (.v4 0x0a000003#32) = some ((twoPeers 1).key toy) := by decide +kernel
  refine ⟨?_, hown, (h.1 twoRun _ _ hown).2, ?_⟩
  · rw [(h.2 k []).1 _ _ (by decide +kernel)]
    decide +kernel
  · refine ((h.2 k []).2 twoRun [] (arrival [10, 0, 0, 2] [10, 0, 0, 1]) rfl rfl).1 (.v4 0x0a000001#32)
      (by decide +kernel) (Or.inl ⟨_, rfl, rfl⟩) ?_ (by decide +kernel)
    rw [← packetHasLocalIrohUdpPort_iff]
    decide

end EzVpn
