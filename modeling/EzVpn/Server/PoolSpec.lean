import EzVpn.Server.PoolInv

/-!
# What the pools promise

* `poolInvariants`: what holds of an IPv4 pool and of a sequential IPv6 pool after
  every sequence of calls, over a network with room for clients.
* `nodeIdAllocation`: what holds of a node-id IPv6 pool, whatever the hash.
-/

namespace EzVpn

open Lib

variable {EndpointId : Type} [DecidableEq EndpointId]

/-! ## Valid pools -/

/-- A server address inside the network and below its last address (`none` is the
default, the first host). -/
def ValidServer {w : Nat} (network : IpNet w) (serverIp : Option (BitVec w)) : Prop :=
  ∀ ip, serverIp = some ip → network.contains ip = true ∧ ip < network.broadcast

theorem serverOf_range {w : Nat} (network : IpNet w) (serverIp : Option (BitVec w))
    (hb : 2 ≤ network.hostBits) (hv : ValidServer network serverIp) :
    network.network.toNat ≤ (serverOf network serverIp).toNat ∧
      (serverOf network serverIp).toNat < network.broadcast.toNat := by
  cases serverIp with
  | some ip =>
    obtain ⟨hc, hlt⟩ := hv ip rfl
    exact ⟨((network.contains_iff ip).1 hc).1, hlt⟩
  | none =>
    have h4 := Nat.pow_le_pow_right (show 0 < 2 by omega) hb
    have hw := network.network_add_le
    have hbr := network.broadcast_toNat
    simp only [serverOf, Option.getD_none, BitVec.toNat_ofNat]
    rw [Nat.mod_eq_of_lt (by omega)]
    omega

theorem serverIpOr_ok {w : Nat} (network : IpNet w) (serverIp : Option (BitVec w))
    (hb : 2 ≤ network.hostBits) :
    serverIpOr serverIp network.network.toNat = .ok (serverOf network serverIp) := by
  cases serverIp with
  | some ip => rfl
  | none =>
    have h4 := Nat.pow_le_pow_right (show 0 < 2 by omega) hb
    have hw := network.network_add_le
    simp only [serverIpOr, checkedAdd_iff.2 ⟨rfl, show network.network.toNat + 1 < 2 ^ w by omega⟩]
    rfl

omit [DecidableEq EndpointId] in
theorem IpPool.new_ok (network : Ipv4Net) (serverIp : Option Ipv4Addr)
    (hp : network.prefixLen ≤ 30) (hv : ValidServer network serverIp) :
    IpPool.new network serverIp = .ok (⟨network, serverOf network serverIp,
      (serverOf network serverIp).toNat + 1, network.broadcast.toNat - 1, ∅, [], []⟩ :
        IpPool EndpointId) := by
  have hb : 2 ≤ network.hostBits := by unfold IpNet.hostBits; omega
  have hr := serverOf_range network serverIp hb hv
  have hlt := network.broadcast.isLt
  unfold IpPool.new
  simp only [serverIpOr_ok network serverIp hb,
    checkedAdd_iff.2 ⟨rfl, show (serverOf network serverIp).toNat + 1 < 2 ^ 32 by omega⟩,
    checkedSub_iff.2 ⟨rfl, show 1 ≤ network.broadcast.toNat by omega⟩, bind, Except.bind]
  rfl

omit [DecidableEq EndpointId] in
theorem Ip6Pool.new_ok (suffix : EndpointId → UInt64) (serverId : EndpointId) (network : Ipv6Net)
    (serverIp : Option Ipv6Addr) (hp1 : 1 ≤ network.prefixLen) (hp : network.prefixLen ≤ 126)
    (hv : ValidServer network serverIp) :
    Ip6Pool.new suffix network serverIp .sequential serverId =
      .ok (ofFreeList network (serverOf network serverIp)
        ⟨(serverOf network serverIp).toNat + 1, network.broadcast.toNat - 1, [], ∅⟩) := by
  have hb : 2 ≤ network.hostBits := by unfold IpNet.hostBits; omega
  have hr := serverOf_range network serverIp hb hv
  have hlt := network.broadcast.isLt
  have hbr := network.broadcast_toNat
  have hpos := Nat.two_pow_pos network.hostBits
  have hshl : checkedShl 128 1 (128 - network.prefixLen) = .ok (2 ^ network.hostBits) :=
    checkedShl_one (by omega)
  unfold Ip6Pool.new Ip6Pool.newSequential
  simp only [show ¬ network.prefixLen ≥ 127 by omega, if_false, validateIp6Strategy, ne_eq,
    reduceCtorEq, not_false_eq_true, if_true, serverIpOr_ok network serverIp hb, hshl,
    checkedAdd_iff.2 ⟨rfl, show (serverOf network serverIp).toNat + 1 < 2 ^ 128 by omega⟩,
    checkedSub_iff.2 ⟨rfl, show 1 ≤ 2 ^ network.hostBits by omega⟩,
    checkedSub_iff.2 ⟨rfl, show 1 ≤ network.broadcast.toNat by omega⟩, bind, Except.bind,
    checkedAdd_iff.2 ⟨hbr, show network.network.toNat + (2 ^ network.hostBits - 1) < 2 ^ 128 by omega⟩]
  rfl

/-- Calls keep a sequential pool sequential, over the same range. -/
theorem Ip6Pool.calls_ofFreeList (suffix : EndpointId → UInt64) (network : Ipv6Net)
    (serverIp : Ipv6Addr) (s : FreeList (ClientKey EndpointId) Ipv6Addr) (hm : s.max < 2 ^ 128)
    (hs : FreeList.Inv (BitVec.ofNat 128) (serverIp.toNat + 1) s) (ops : List (PoolOp EndpointId)) :
    ∃ t, run (apply suffix) (ofFreeList network serverIp s) ops = ofFreeList network serverIp t ∧
      t.max = s.max ∧ FreeList.Inv (BitVec.ofNat 128) (serverIp.toNat + 1) t := by
  refine inv_run_all (I := fun q => ∃ t, q = ofFreeList network serverIp t ∧ t.max = s.max ∧
    FreeList.Inv (BitVec.ofNat 128) (serverIp.toNat + 1) t) ?_ ops _ ⟨s, rfl, rfl, hs⟩
  rintro q op ⟨t, rfl, htm, ht⟩
  cases op with
  | allocate e d =>
    refine ⟨(t.allocate (BitVec.ofNat 128) (e, d)).2, ?_, ?_, ?_⟩
    · simp only [apply, allocate_ofFreeList]
    · rw [FreeList.allocate_max]; exact htm
    · exact FreeList.inv_allocate ht (ofNat_injOn _ _ _ (by omega)) (e, d)
  | release e d =>
    refine ⟨t.release (e, d), ?_, ?_, FreeList.inv_release ht (e, d)⟩
    · simp only [apply, release_ofFreeList]
    · rw [FreeList.release_max]; exact htm

/-- What holds of a pool over `network` whose counter stands at `next`. -/
structure PoolOk {w : Nat} {P : Type} (network : IpNet w) (server : BitVec w) (next : Nat)
    (inUse : P → Map (ClientKey EndpointId) (BitVec w)) (released : List (BitVec w)) (pool : P)
    (allocate : ClientKey EndpointId → Option (BitVec w) × P) : Prop where
  /-- distinct keys hold distinct addresses -/
  distinct : ∀ k k' a, (inUse pool).lookup k = some a → (inUse pool).lookup k' = some a → k = k'
  /-- held addresses lie strictly between the server and the last address -/
  range : ∀ k a, (inUse pool).lookup k = some a → server < a ∧ a < network.broadcast
  usable : ∀ k a, (inUse pool).lookup k = some a →
    a ≠ server ∧ a ≠ network.network ∧ a ≠ network.broadcast
  nodup : released.Nodup
  disjoint : ∀ a ∈ released, ∀ k, (inUse pool).lookup k ≠ some a
  /-- held and released are exactly the addresses drawn from the counter -/
  drawn : ∀ a, (∃ k, (inUse pool).lookup k = some a) ∨ a ∈ released ↔
    server.toNat < a.toNat ∧ a.toNat < next
  /-- an address that is given out is recorded, and lies in the range too -/
  given : ∀ k a, (allocate k).1 = some a →
    (inUse (allocate k).2).lookup k = some a ∧ server < a ∧ a < network.broadcast
  again : ∀ k a, (inUse pool).lookup k = some a → allocate k = (some a, pool)
  full : ∀ k, (allocate k).1 = none → ∀ a, server < a → a < network.broadcast →
    ∃ k', (inUse pool).lookup k' = some a

section
variable {w : Nat} {network : IpNet w} {server : BitVec w} {s : FreeList (ClientKey EndpointId) (BitVec w)}

theorem next_le_broadcast (hs : FreeList.Inv (BitVec.ofNat w) (server.toNat + 1) s)
    (hm : s.max = network.broadcast.toNat - 1) (hhi : server.toNat < network.broadcast.toNat) :
    s.next ≤ network.broadcast.toNat := by
  rcases hs.next_le with h | h <;> omega

/-- The addresses drawn so far, as numbers. -/
theorem drawn_iff (hs : FreeList.Inv (BitVec.ofNat w) (server.toNat + 1) s)
    (hm : s.max = network.broadcast.toNat - 1) (hhi : server.toNat < network.broadcast.toNat) (a : BitVec w) :
    (∃ k, s.inUse.lookup k = some a) ∨ a ∈ s.released ↔ server.toNat < a.toNat ∧ a.toNat < s.next := by
  have hb := network.broadcast.isLt
  have hnext := next_le_broadcast hs hm hhi
  rw [hs.drawn]
  constructor
  · rintro ⟨n, h1, h2, rfl⟩
    rw [BitVec.toNat_ofNat, Nat.mod_eq_of_lt (by omega)]
    exact ⟨h1, h2⟩
  · rintro ⟨h1, h2⟩
    exact ⟨a.toNat, h1, h2, by simp⟩

theorem held_range (hs : FreeList.Inv (BitVec.ofNat w) (server.toNat + 1) s)
    (hm : s.max = network.broadcast.toNat - 1) (hhi : server.toNat < network.broadcast.toNat)
    {k : ClientKey EndpointId} {a : BitVec w} (hk : s.inUse.lookup k = some a) :
    server < a ∧ a < network.broadcast := by
  obtain ⟨h1, h2⟩ := (drawn_iff hs hm hhi a).1 (Or.inl ⟨k, hk⟩)
  exact ⟨h1, Nat.lt_of_lt_of_le h2 (next_le_broadcast hs hm hhi)⟩

/-- The free-list invariant, read as a pool. -/
theorem poolOk_of_inv {P : Type} (inUse : P → Map (ClientKey EndpointId) (BitVec w)) (pool : P)
    (allocate : ClientKey EndpointId → Option (BitVec w) × P)
    (hs : FreeList.Inv (BitVec.ofNat w) (server.toNat + 1) s)
    (hm : s.max = network.broadcast.toNat - 1)
    (hlo : network.network.toNat ≤ server.toNat) (hhi : server.toNat < network.broadcast.toNat)
    (hinUse : inUse pool = s.inUse)
    (hagain : ∀ k a, s.inUse.lookup k = some a → allocate k = (some a, pool))
    (hres : ∀ k, (allocate k).1 = (s.allocate (BitVec.ofNat w) k).1)
    (hafter : ∀ k, inUse (allocate k).2 = (s.allocate (BitVec.ofNat w) k).2.inUse) :
    PoolOk network server s.next inUse s.released pool allocate := by
  have hb := network.broadcast.isLt
  have hmk : FreeList.InjOn (BitVec.ofNat w) (server.toNat + 1) s.max := ofNat_injOn _ _ _ (by omega)
  refine {
    distinct := hinUse ▸ hs.inj
    range := fun k a hk => held_range hs hm hhi (hinUse ▸ hk)
    usable := fun k a hk => ?_
    nodup := hs.nodup
    disjoint := hinUse ▸ hs.disj
    drawn := hinUse ▸ drawn_iff hs hm hhi
    given := fun k a hk => ?_
    again := hinUse ▸ hagain
    full := fun k hk a h1 h2 => ?_ }
  · obtain ⟨h1, h2⟩ := held_range hs hm hhi (hinUse ▸ hk)
    rw [BitVec.lt_def] at h1 h2
    refine ⟨?_, ?_, ?_⟩ <;> (rintro rfl; omega)
  · -- the request is one of the abstract allocator, which records its answer
    have hheld := congrFun (FreeList.allocate_acquire hs hmk k).held_eq k
    rw [Function.update_self, ← hres, hk] at hheld
    rw [hafter]
    exact ⟨hheld, held_range (FreeList.inv_allocate hs hmk k) (by rw [FreeList.allocate_max, hm]) hhi hheld⟩
  · rw [hres] at hk
    rw [hinUse]
    have h1' : server.toNat < a.toNat := h1
    have h2' : a.toNat < network.broadcast.toNat := h2
    simpa using FreeList.all_held_of_none hs k hk a.toNat h1' (by omega)

end

/-- **Address pools.**  After every sequence of calls on a valid IPv4 pool, and on a
valid sequential IPv6 pool, `PoolOk` holds. -/
theorem poolInvariants (suffix : EndpointId → UInt64) (serverId : EndpointId)
    (ops : List (PoolOp EndpointId)) :
    (∀ (network : Ipv4Net) (serverIp : Option Ipv4Addr), network.prefixLen ≤ 30 →
      ValidServer network serverIp → ∃ p, IpPool.new network serverIp = .ok p ∧
        PoolOk network (serverOf network serverIp) (run IpPool.apply p ops).nextIp
          IpPool.inUse (run IpPool.apply p ops).released (run IpPool.apply p ops)
          fun k => (run IpPool.apply p ops).allocate k.1 k.2) ∧
    (∀ (network : Ipv6Net) (serverIp : Option Ipv6Addr), 1 ≤ network.prefixLen →
      network.prefixLen ≤ 126 → ValidServer network serverIp →
      ∃ p, Ip6Pool.new suffix network serverIp .sequential serverId = .ok p ∧
        ∃ nextIp maxIp released,
          (run (Ip6Pool.apply suffix) p ops).alloc = .sequential nextIp maxIp released ∧
          PoolOk network (serverOf network serverIp) nextIp Ip6Pool.inUse
            released (run (Ip6Pool.apply suffix) p ops)
            fun k => (run (Ip6Pool.apply suffix) p ops).allocate suffix k.1 k.2) := by
  constructor
  · intro network serverIp hp hv
    have hr := serverOf_range network serverIp (by unfold IpNet.hostBits; omega) hv
    have hnew : IpPool.new network serverIp = .ok (_ : IpPool EndpointId) :=
      IpPool.new_ok network serverIp hp hv
    refine ⟨_, hnew, ?_⟩
    obtain ⟨hinv, -, hsrv, hmax⟩ := IpPool.inv_calls (IpPool.inv_new _ _ _ hnew) ops
    generalize run IpPool.apply _ ops = q at hinv hsrv hmax
    have hlist := hinv.list
    rw [hsrv] at hlist
    refine poolOk_of_inv IpPool.inUse q _ hlist hmax hr.1 hr.2 rfl (fun k a hk => ?_) (fun k => ?_) fun k => ?_
    · rw [IpPool.allocate_eq q hinv.reserved, FreeList.allocate_of_lookup _ _ _ a hk]; rfl
    · rw [IpPool.allocate_eq q hinv.reserved]
    · rw [IpPool.allocate_eq q hinv.reserved]; rfl
  · intro network serverIp hp1 hp hv
    have hr := serverOf_range network serverIp (by unfold IpNet.hostBits; omega) hv
    have hnew := Ip6Pool.new_ok suffix serverId network serverIp hp1 hp hv
    have hlt := network.broadcast.isLt
    refine ⟨_, hnew, ?_⟩
    obtain ⟨t, heq, hmax, hinv⟩ := Ip6Pool.calls_ofFreeList suffix network
      (serverOf network serverIp) ⟨_, network.broadcast.toNat - 1, [], ∅⟩ (by simp only []; omega)
      (FreeList.inv_new _ _ _) ops
    rw [heq]
    refine ⟨t.next, t.max, t.released, rfl,
      poolOk_of_inv Ip6Pool.inUse _ _ hinv hmax hr.1 hr.2 rfl (fun k a hk => ?_) (fun k => ?_) fun k => ?_⟩
    · rw [Ip6Pool.allocate_ofFreeList, FreeList.allocate_of_lookup _ _ _ a hk]
    · rw [Ip6Pool.allocate_ofFreeList]
    · rw [Ip6Pool.allocate_ofFreeList]; rfl

/-- 10.0.0.0/30: one address for clients. -/
def slash30 : Ipv4Net := ⟨0x0a000000#32, 30, by decide⟩

/-- fd00::/126. -/
def slash126 : Ipv6Net := ⟨0xfd000000000000000000000000000000#128, 126, by decide⟩

/-- Two clients want the one address; the second gets it after the first is gone. -/
def twoClients : List (PoolOp Nat) := [.allocate 1 0, .allocate 2 0, .release 1 0, .allocate 2 0]

theorem poolInvariants_twoClients :
    (∃ p, IpPool.new slash30 none = .ok p ∧ PoolOk slash30 (serverOf slash30 none)
      (run IpPool.apply p twoClients).nextIp IpPool.inUse
      (run IpPool.apply p twoClients).released (run IpPool.apply p twoClients)
      fun k => (run IpPool.apply p twoClients).allocate k.1 k.2) ∧
    ∃ p, Ip6Pool.new UInt64.ofNat slash126 none .sequential 0 = .ok p ∧
      ∃ nextIp maxIp released,
        (run (Ip6Pool.apply UInt64.ofNat) p twoClients).alloc = .sequential nextIp maxIp released ∧
        PoolOk slash126 (serverOf slash126 none) nextIp Ip6Pool.inUse released
          (run (Ip6Pool.apply UInt64.ofNat) p twoClients)
          fun k => (run (Ip6Pool.apply UInt64.ofNat) p twoClients).allocate UInt64.ofNat k.1 k.2 :=
  ⟨(poolInvariants UInt64.ofNat 0 twoClients).1 slash30 none (by decide) (fun _ h => by cases h),
    (poolInvariants UInt64.ofNat 0 twoClients).2 slash126 none (by decide) (by decide)
      (fun _ h => by cases h)⟩

/-! ## Node-id pools -/

omit [DecidableEq EndpointId] in
/-- The derived suffix, cut to the host bits, on top of the network address. -/
theorem derivedIp6_toNat (suffix : EndpointId → UInt64) (network : Ipv6Net) (n : EndpointId) :
    (derivedIp6 suffix network n).toNat =
      network.network.toNat + (suffix n).toNat % 2 ^ network.hostBits := by
  have hmask : (if 128 - network.prefixLen ≥ 128 then BitVec.allOnes 128
      else (1#128 <<< (128 - network.prefixLen)) - 1#128) = network.hostmask := by
    apply BitVec.eq_of_toNat_eq
    rw [IpNet.hostmask_toNat]
    have hle : network.hostBits ≤ 128 := network.hostBits_le
    have hpos := Nat.two_pow_pos network.hostBits
    split
    · next h =>
      have : network.hostBits = 128 := by unfold IpNet.hostBits at *; omega
      rw [this]; rfl
    · next h =>
      have hlt : 2 ^ network.hostBits < 2 ^ 128 :=
        Nat.pow_lt_pow_right (by omega) (by unfold IpNet.hostBits; omega)
      have hone : (1#128 <<< (128 - network.prefixLen)).toNat = 2 ^ network.hostBits := by
        rw [BitVec.toNat_shiftLeft, Nat.shiftLeft_eq]
        show 1 * 2 ^ network.hostBits % 2 ^ 128 = _
        rw [Nat.one_mul, Nat.mod_eq_of_lt hlt]
      rw [BitVec.toNat_sub_of_le (by rw [BitVec.le_def, hone]; exact hpos), hone]
      rfl
  have hlow : ((suffix n).toBitVec.setWidth 128 &&& network.hostmask).toNat =
      (suffix n).toNat % 2 ^ network.hostBits := by
    rw [BitVec.toNat_and, IpNet.hostmask_toNat, Nat.and_two_pow_sub_one_eq_mod, BitVec.toNat_setWidth,
      Nat.mod_eq_of_lt (Nat.lt_of_lt_of_le (suffix n).toBitVec.isLt (by decide))]
    rfl
  unfold derivedIp6
  simp only [hmask]
  rw [IpNet.network_or_toNat _ _ (by rw [hlow]; exact Nat.mod_lt _ (Nat.two_pow_pos _)), hlow]

omit [DecidableEq EndpointId] in
theorem contains_derivedIp6 (suffix : EndpointId → UInt64) (network : Ipv6Net) (n : EndpointId) :
    network.contains (derivedIp6 suffix network n) = true := by
  have hmod := Nat.mod_lt (suffix n).toNat (Nat.two_pow_pos network.hostBits)
  rw [IpNet.contains_iff, derivedIp6_toNat, IpNet.broadcast_toNat]
  omega

/-- A call keeps a node-id pool a node-id pool. -/
theorem Ip6Pool.apply_nodeId (suffix : EndpointId → UInt64) (p : Ip6Pool EndpointId)
    (op : PoolOp EndpointId) (ha : p.alloc = .nodeId) : (p.apply suffix op).alloc = .nodeId := by
  cases op with
  | allocate e d =>
    simp only [apply]
    cases hk : p.inUse.lookup (e, d) with
    | some a => rw [allocate_of_lookup suffix p e d a hk]; exact ha
    | none =>
      rcases allocate_nodeId suffix p ha e d hk with ⟨-, heq⟩ | ⟨-, heq⟩ <;> (rw [heq]; exact ha)
  | release e d =>
    simp only [apply, release]
    split
    · simp only [ha]
    · exact ha

omit [DecidableEq EndpointId] in
theorem Ip6Pool.new_nodeId {suffix : EndpointId → UInt64} {network : Ipv6Net} {serverIp : Option Ipv6Addr}
    {serverId : EndpointId} {p : Ip6Pool EndpointId}
    (hnew : Ip6Pool.new suffix network serverIp .nodeId serverId = .ok p) :
    p.network = network ∧ p.alloc = .nodeId := by
  unfold Ip6Pool.new at hnew
  split at hnew
  · cases hnew
  · split at hnew
    · cases hnew
    · simp only [Ip6Pool.newNodeId] at hnew
      split at hnew
      · cases hnew
      · rw [← Except.ok.inj hnew]; exact ⟨rfl, rfl⟩

/-- A request that is answered is answered with the address of the node, the first time and
every other time. -/
theorem Ip6Pool.NodeIdInv.allocate_derived {suffix : EndpointId → UInt64} {q : Ip6Pool EndpointId}
    (h : Ip6Pool.NodeIdInv suffix q) (ha : q.alloc = .nodeId) {e : EndpointId} {d : UInt64}
    {a : Ipv6Addr} (hres : (q.allocate suffix e d).1 = some a) : a = derivedIp6 suffix q.network e := by
  cases hk : q.inUse.lookup (e, d) with
  | some b =>
    rw [Ip6Pool.allocate_of_lookup suffix q e d b hk] at hres
    rw [← Option.some.inj hres, h.derived _ b hk]
  | none =>
    rcases Ip6Pool.allocate_nodeId suffix q ha e d hk with ⟨-, heq⟩ | ⟨-, heq⟩
    · rw [heq] at hres; cases hres
    · rw [heq] at hres; exact (Option.some.inj hres).symm

/-- **Node-id allocation** depends only on the node and on conflicts, for every hash
`suffix` and every history `ops`. -/
theorem nodeIdAllocation (suffix : EndpointId → UInt64) (network : Ipv6Net)
    (serverIp : Option Ipv6Addr) (serverId : EndpointId) (p : Ip6Pool EndpointId)
    (hnew : Ip6Pool.new suffix network serverIp .nodeId serverId = .ok p)
    (ops : List (PoolOp EndpointId)) :
    (∀ k a, (run (Ip6Pool.apply suffix) p ops).inUse.lookup k = some a →
      network.contains a = true ∧ a ≠ network.network ∧ a ≠ p.serverIp) ∧
    (∀ k k' a, (run (Ip6Pool.apply suffix) p ops).inUse.lookup k = some a →
      (run (Ip6Pool.apply suffix) p ops).inUse.lookup k' = some a → k = k') ∧
    (∀ e d a, ((run (Ip6Pool.apply suffix) p ops).allocate suffix e d).1 = some a →
      a = derivedIp6 suffix network e) ∧
    (∀ e d, (run (Ip6Pool.apply suffix) p ops).inUse.lookup (e, d) = none →
      (((run (Ip6Pool.apply suffix) p ops).allocate suffix e d).1 = none ↔
        derivedIp6 suffix network e = network.network ∨ derivedIp6 suffix network e = p.serverIp ∨
        ∃ k, k ≠ (e, d) ∧ (run (Ip6Pool.apply suffix) p ops).inUse.lookup k =
          some (derivedIp6 suffix network e))) := by
  obtain ⟨hinv, hnet, hsrv⟩ := Ip6Pool.inv_calls (Ip6Pool.inv_new _ _ _ _ _ _ hnew) ops
  have hpool := Ip6Pool.new_nodeId hnew
  have halloc : (run (Ip6Pool.apply suffix) p ops).alloc = .nodeId :=
    inv_run_all (I := fun q : Ip6Pool EndpointId => q.alloc = .nodeId)
      (fun q op h => Ip6Pool.apply_nodeId suffix q op h) ops p hpool.2
  generalize run (Ip6Pool.apply suffix) p ops = q at *
  rw [hpool.1] at hnet
  have hn : Ip6Pool.NodeIdInv suffix q := by
    unfold Ip6Pool.Inv at hinv
    rwa [halloc] at hinv
  refine ⟨fun k a hk => ?_, hn.inj, fun e d a ha => hnet ▸ hn.allocate_derived halloc ha,
    fun e d hk => ?_⟩
  · have hu := hn.usable k a hk
    rw [hnet, hsrv] at hu
    refine ⟨?_, hu⟩
    rw [hn.derived k a hk, hnet]
    exact contains_derivedIp6 suffix network k.1
  · have hother : (∃ k, q.inUse.lookup k = some (derivedIp6 suffix network e)) ↔
        ∃ k, k ≠ (e, d) ∧ q.inUse.lookup k = some (derivedIp6 suffix network e) := by
      constructor
      · rintro ⟨k, hk'⟩
        have hne : k ≠ (e, d) := by
          rintro rfl
          rw [hk] at hk'
          cases hk'
        exact ⟨k, hne, hk'⟩
      · rintro ⟨k, -, hk'⟩; exact ⟨k, hk'⟩
    have htaken : Ip6Pool.Taken suffix q e ↔ derivedIp6 suffix network e = network.network ∨
        derivedIp6 suffix network e = p.serverIp ∨
        ∃ k, q.inUse.lookup k = some (derivedIp6 suffix network e) := by
      unfold Ip6Pool.Taken; rw [hnet, hsrv]
    rw [← hother, ← htaken]
    rcases Ip6Pool.allocate_nodeId suffix q halloc e d hk with ⟨ht, heq⟩ | ⟨ht, heq⟩ <;> simp [heq, ht]

/-- fd00::/64. -/
def slash64 : Ipv6Net := ⟨0xfd000000000000000000000000000000#128, 64, by decide⟩

/-- Two devices of node 2 derive one address: the second one is refused. -/
theorem nodeIdAllocation_twoDevices :
    ∃ p, Ip6Pool.new UInt64.ofNat slash64 none .nodeId 1 = .ok p ∧
      ((run (Ip6Pool.apply UInt64.ofNat) p [.allocate 2 0]).allocate UInt64.ofNat 2 1).1 = none := by
  refine ⟨⟨slash64, derivedIp6 UInt64.ofNat slash64 1, .nodeId, ∅⟩, by rfl, ?_⟩
  refine ((nodeIdAllocation UInt64.ofNat slash64 none 1 _ (by rfl) [.allocate 2 0]).2.2.2 2 1 (by decide)).2 ?_
  exact .inr (.inr ⟨(2, 0), by decide, by decide⟩)

end EzVpn
