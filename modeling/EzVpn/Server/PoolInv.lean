import EzVpn.Server.Pool

/-!
# Invariants of the address pools

Both sequential pools are free-list allocators (`Lib.FreeList`): `IpPool.toFreeList`
and `Ip6Pool.toFreeList` carry `allocate` and `release` over, so the invariant of
the library is the invariant of both.

`IpPool.Inv` and `Ip6Pool.Inv` hold of every pool that `new` returns, for any network
and server address, and make each `allocate` a request of the abstract allocator
(`allocate_acquire`).
-/

namespace EzVpn

open Lib

variable {EndpointId : Type} [DecidableEq EndpointId]

theorem ofNat_injOn (w lo max : Nat) (hm : max < 2 ^ w) :
    FreeList.InjOn (BitVec.ofNat w) lo max := by
  intro m n _ hm1 _ hn1 h
  have h' := congrArg BitVec.toNat h
  rwa [BitVec.toNat_ofNat, BitVec.toNat_ofNat, Nat.mod_eq_of_lt (by omega),
    Nat.mod_eq_of_lt (by omega)] at h'

/-! ## Checked arithmetic -/

theorem bind_ok {ε α β : Type} {x : Except ε α} {f : α → Except ε β} {b : β}
    (h : x >>= f = .ok b) : ∃ a, x = .ok a ∧ f a = .ok b := by
  cases x with
  | error e => cases h
  | ok a => exact ⟨a, rfl, h⟩

theorem checkedAdd_iff {w a b c : Nat} : checkedAdd w a b = .ok c ↔ c = a + b ∧ a + b < 2 ^ w := by
  unfold checkedAdd
  split
  · next h => simp [h, eq_comm]
  · next h => simp [h]

theorem checkedSub_iff {a b c : Nat} : checkedSub a b = .ok c ↔ c = a - b ∧ b ≤ a := by
  unfold checkedSub
  split
  · next h => simp [h, eq_comm]
  · next h => simp [h]

theorem checkedShl_one {w s : Nat} (h : s < w) : checkedShl w 1 s = .ok (2 ^ s) := by
  unfold checkedShl
  rw [if_pos h, Nat.one_mul, Nat.mod_eq_of_lt (Nat.pow_lt_pow_right (by omega) h)]

/-- The server address of a pool: the given one, else the first host of the network. -/
def serverOf {w : Nat} (network : IpNet w) (serverIp : Option (BitVec w)) : BitVec w :=
  serverIp.getD (BitVec.ofNat w (network.network.toNat + 1))

theorem serverIpOr_eq {w : Nat} (network : IpNet w) (serverIp : Option (BitVec w)) (ip : BitVec w)
    (h : serverIpOr serverIp network.network.toNat = .ok ip) : ip = serverOf network serverIp := by
  cases serverIp with
  | some s => exact (Except.ok.inj h).symm
  | none =>
    simp only [serverIpOr, checkedAdd] at h
    split at h
    · next c hc =>
      split at hc
      · cases hc; exact (Except.ok.inj h).symm
      · cases hc
    · cases h

/-! ## IPv4 -/

namespace IpPool

def toFreeList (p : IpPool EndpointId) : FreeList (ClientKey EndpointId) Ipv4Addr :=
  ⟨p.nextIp, p.maxIp, p.released, p.inUse⟩

/-- `p` with the allocator state `s`. -/
def withFreeList (p : IpPool EndpointId) (s : FreeList (ClientKey EndpointId) Ipv4Addr) :
    IpPool EndpointId :=
  { p with nextIp := s.next, maxIp := s.max, released := s.released, inUse := s.inUse }

theorem popReleased_nil (l : List Ipv4Addr) : popReleased [] l = (l.head?, l.tail) := by
  cases l <;> simp [popReleased]

theorem nextUnreserved_nil (n nextIp : Nat) : nextUnreserved [] n nextIp =
    if n = 0 then (none, nextIp) else (some (BitVec.ofNat 32 nextIp), nextIp + 1) := by
  cases n <;> simp [nextUnreserved]

/-- With nothing reserved, `allocate` is the free list's. -/
theorem allocate_eq (p : IpPool EndpointId) (hr : p.reserved = []) (e : EndpointId) (d : UInt64) :
    p.allocate e d = ((p.toFreeList.allocate (BitVec.ofNat 32) (e, d)).1,
      p.withFreeList (p.toFreeList.allocate (BitVec.ofNat 32) (e, d)).2) := by
  unfold allocate FreeList.allocate
  simp only [toFreeList]
  cases hk : p.inUse.lookup (e, d) with
  | some ip => rfl
  | none =>
    simp only [hr, popReleased_nil]
    cases hrel : p.released with
    | cons ip rest => simp [withFreeList, hr]
    | nil =>
      simp only [List.head?_nil, List.tail_nil, nextUnreservedIp, nextUnreserved_nil]
      by_cases hn : p.nextIp ≤ p.maxIp
      · simp [hn, show ¬ p.maxIp + 1 - p.nextIp = 0 by omega, withFreeList, hr]
      · simp [hn, show p.maxIp + 1 - p.nextIp = 0 by omega, withFreeList, hr]

theorem release_eq (p : IpPool EndpointId) (e : EndpointId) (d : UInt64) :
    p.release e d = p.withFreeList (p.toFreeList.release (e, d)) := by
  unfold release FreeList.release
  simp only [toFreeList]
  cases hk : p.inUse.lookup (e, d) <;> rfl

/-- What `new`, `allocate` and `release` keep, for any network and server address. -/
structure Inv (p : IpPool EndpointId) : Prop where
  reserved : p.reserved = []
  max_lt : p.maxIp < 2 ^ 32
  list : FreeList.Inv (BitVec.ofNat 32) (p.serverIp.toNat + 1) p.toFreeList

omit [DecidableEq EndpointId] in
/-- A pool that was built starts right after the server address, with nothing held. -/
theorem new_eq (network : Ipv4Net) (serverIp : Option Ipv4Addr) (p : IpPool EndpointId)
    (h : new network serverIp = .ok p) :
    p = ⟨network, serverOf network serverIp, (serverOf network serverIp).toNat + 1,
      network.broadcast.toNat - 1, ∅, [], []⟩ := by
  obtain ⟨s, hs, h⟩ := bind_ok h
  obtain ⟨nextIp, hn, h⟩ := bind_ok h
  obtain ⟨maxIp, hm, h⟩ := bind_ok h
  obtain rfl := serverIpOr_eq network serverIp s hs
  obtain ⟨rfl, -⟩ := checkedAdd_iff.1 hn
  obtain ⟨rfl, -⟩ := checkedSub_iff.1 hm
  exact (Except.ok.inj h).symm

theorem inv_new (network : Ipv4Net) (serverIp : Option Ipv4Addr) (p : IpPool EndpointId)
    (h : new network serverIp = .ok p) : Inv p := by
  rw [new_eq network serverIp p h]
  refine ⟨rfl, ?_, FreeList.inv_new _ _ _⟩
  have := network.broadcast.isLt
  show network.broadcast.toNat - 1 < 2 ^ 32
  omega

section
variable {p : IpPool EndpointId} (h : Inv p) (e : EndpointId) (d : UInt64)
include h

theorem Inv.injOn : FreeList.InjOn (BitVec.ofNat 32) (p.serverIp.toNat + 1) p.toFreeList.max :=
  ofNat_injOn _ _ _ h.max_lt

theorem inv_allocate : Inv (p.allocate e d).2 := by
  rw [allocate_eq p h.reserved]
  refine ⟨h.reserved, ?_, FreeList.inv_allocate h.list h.injOn (e, d)⟩
  show (p.toFreeList.allocate (BitVec.ofNat 32) (e, d)).2.max < 2 ^ 32
  rw [FreeList.allocate_max]
  exact h.max_lt

theorem inv_release : Inv (p.release e d) := by
  rw [release_eq]
  refine ⟨h.reserved, ?_, FreeList.inv_release h.list (e, d)⟩
  show (p.toFreeList.release (e, d)).max < 2 ^ 32
  rw [FreeList.release_max]
  exact h.max_lt

theorem allocate_acquire : Acquire (fun k => p.inUse.lookup k) (e, d) (p.allocate e d).1
    (fun k => (p.allocate e d).2.inUse.lookup k) := by
  rw [allocate_eq p h.reserved]
  exact FreeList.allocate_acquire h.list h.injOn (e, d)

/-- A call keeps the invariant and the fields set by `new`. -/
theorem inv_apply (op : PoolOp EndpointId) : Inv (p.apply op) ∧ (p.apply op).network = p.network ∧
    (p.apply op).serverIp = p.serverIp ∧ (p.apply op).maxIp = p.maxIp := by
  cases op with
  | allocate e d =>
    refine ⟨inv_allocate h e d, ?_⟩
    simp only [apply, allocate_eq p h.reserved]
    exact ⟨rfl, rfl, FreeList.allocate_max _ _ _⟩
  | release e d =>
    refine ⟨inv_release h e d, ?_⟩
    simp only [apply, release_eq]
    exact ⟨rfl, rfl, FreeList.release_max _ _⟩

/-- The same over every sequence of calls. -/
theorem inv_calls (ops : List (PoolOp EndpointId)) : Inv (run apply p ops) ∧
    (run apply p ops).network = p.network ∧ (run apply p ops).serverIp = p.serverIp ∧
      (run apply p ops).maxIp = p.maxIp := by
  refine inv_run_all (I := fun q : IpPool EndpointId => Inv q ∧ q.network = p.network ∧
    q.serverIp = p.serverIp ∧ q.maxIp = p.maxIp) ?_ ops p ⟨h, rfl, rfl, rfl⟩
  rintro q op ⟨hq, h1, h2, h3⟩
  obtain ⟨hq', h1', h2', h3'⟩ := inv_apply hq op
  exact ⟨hq', h1'.trans h1, h2'.trans h2, h3'.trans h3⟩

end

theorem release_held (p : IpPool EndpointId) (e : EndpointId) (d : UInt64) :
    (fun k => (p.release e d).inUse.lookup k) =
      Function.update (fun k => p.inUse.lookup k) (e, d) none := by
  rw [release_eq]
  exact FreeList.release_held p.toFreeList (e, d)

end IpPool

/-! ## IPv6 -/

namespace Ip6Pool

/-- The sequential pool with the allocator state `s`. -/
def ofFreeList (network : Ipv6Net) (serverIp : Ipv6Addr)
    (s : FreeList (ClientKey EndpointId) Ipv6Addr) : Ip6Pool EndpointId :=
  ⟨network, serverIp, .sequential s.next s.max s.released, s.inUse⟩

section
variable (suffix : EndpointId → UInt64) (network : Ipv6Net) (serverIp : Ipv6Addr)
  (s : FreeList (ClientKey EndpointId) Ipv6Addr)

theorem allocate_ofFreeList (e : EndpointId) (d : UInt64) :
    (ofFreeList network serverIp s).allocate suffix e d =
      ((s.allocate (BitVec.ofNat 128) (e, d)).1,
        ofFreeList network serverIp (s.allocate (BitVec.ofNat 128) (e, d)).2) := by
  obtain ⟨next, max, released, inUse⟩ := s
  unfold allocate FreeList.allocate
  simp only [ofFreeList]
  cases hk : inUse.lookup (e, d) with
  | some ip => rfl
  | none =>
    cases released with
    | cons ip rest => rfl
    | nil => by_cases hn : next ≤ max <;> simp [hn]

theorem release_ofFreeList (e : EndpointId) (d : UInt64) :
    (ofFreeList network serverIp s).release e d = ofFreeList network serverIp (s.release (e, d)) := by
  unfold release FreeList.release
  simp only [ofFreeList]
  cases hk : s.inUse.lookup (e, d) <;> rfl

end

/-- Held addresses of a node-id pool are the derived ones, each held once. -/
structure NodeIdInv (suffix : EndpointId → UInt64) (p : Ip6Pool EndpointId) : Prop where
  inj : Exclusive fun k => p.inUse.lookup k
  derived : ∀ k a, p.inUse.lookup k = some a → a = derivedIp6 suffix p.network k.1
  usable : ∀ k a, p.inUse.lookup k = some a → a ≠ p.network.network ∧ a ≠ p.serverIp

/-- What `new`, `allocate` and `release` keep, for either strategy. -/
def Inv (suffix : EndpointId → UInt64) (p : Ip6Pool EndpointId) : Prop :=
  match p.alloc with
  | .sequential nextIp maxIp released => maxIp < 2 ^ 128 ∧
      FreeList.Inv (BitVec.ofNat 128) (p.serverIp.toNat + 1) ⟨nextIp, maxIp, released, p.inUse⟩
  | .nodeId => NodeIdInv suffix p

omit [DecidableEq EndpointId] in
theorem newSequential_eq (network : Ipv6Net) (serverIp : Option Ipv6Addr) (p : Ip6Pool EndpointId)
    (h : newSequential network serverIp = .ok p) : ∃ m, m < 2 ^ 128 ∧
      p = ofFreeList network (serverOf network serverIp)
        ⟨(serverOf network serverIp).toNat + 1, m, [], ∅⟩ := by
  obtain ⟨s, hs, h⟩ := bind_ok h
  obtain ⟨nextIp, hn, h⟩ := bind_ok h
  obtain ⟨span, -, h⟩ := bind_ok h
  obtain ⟨span', -, h⟩ := bind_ok h
  obtain ⟨last, hl, h⟩ := bind_ok h
  obtain ⟨maxIp, hm, h⟩ := bind_ok h
  have hlast : last < 2 ^ 128 := by
    obtain ⟨rfl, hlt⟩ := checkedAdd_iff.1 hl
    exact hlt
  obtain rfl := serverIpOr_eq network serverIp s hs
  obtain ⟨rfl, -⟩ := checkedAdd_iff.1 hn
  obtain ⟨rfl, -⟩ := checkedSub_iff.1 hm
  exact ⟨last - 1, by omega, (Except.ok.inj h).symm⟩

omit [DecidableEq EndpointId] in
theorem new_eq (suffix : EndpointId → UInt64) (network : Ipv6Net) (serverIp : Option Ipv6Addr)
    (strategy : Ip6Strategy) (serverId : EndpointId) (p : Ip6Pool EndpointId)
    (h : new suffix network serverIp strategy serverId = .ok p) :
    (∃ m, m < 2 ^ 128 ∧ p = ofFreeList network (serverOf network serverIp)
      ⟨(serverOf network serverIp).toNat + 1, m, [], ∅⟩) ∨
    p = ⟨network, derivedIp6 suffix network serverId, .nodeId, ∅⟩ := by
  unfold new at h
  split at h
  · cases h
  · split at h
    · cases h
    · cases strategy with
      | sequential => exact Or.inl (newSequential_eq network serverIp p h)
      | nodeId =>
        simp only [newNodeId] at h
        split at h
        · cases h
        · exact Or.inr (Except.ok.inj h).symm

theorem inv_new (suffix : EndpointId → UInt64) (network : Ipv6Net) (serverIp : Option Ipv6Addr)
    (strategy : Ip6Strategy) (serverId : EndpointId) (p : Ip6Pool EndpointId)
    (h : new suffix network serverIp strategy serverId = .ok p) : Inv suffix p := by
  rcases new_eq suffix network serverIp strategy serverId p h with ⟨m, hm, rfl⟩ | rfl
  · exact ⟨hm, FreeList.inv_new _ _ _⟩
  · exact ⟨fun k k' a hk => by simp at hk, fun k a hk => by simp at hk, fun k a hk => by simp at hk⟩

theorem release_held (p : Ip6Pool EndpointId) (e : EndpointId) (d : UInt64) :
    (fun k => (p.release e d).inUse.lookup k) =
      Function.update (fun k => p.inUse.lookup k) (e, d) none := by
  unfold release
  cases hk : p.inUse.lookup (e, d) with
  | some a => exact FreeList.lookup_fun_erase _ _
  | none =>
    simp only []
    rw [← hk]
    exact (Function.update_eq_self (e, d) fun k => p.inUse.lookup k).symm

/-- A pool is the image of a free list, or a node-id pool. -/
theorem Inv.cases {suffix : EndpointId → UInt64} {p : Ip6Pool EndpointId} (h : Inv suffix p) :
    (∃ s : FreeList (ClientKey EndpointId) Ipv6Addr, p = ofFreeList p.network p.serverIp s ∧
      s.max < 2 ^ 128 ∧ FreeList.Inv (BitVec.ofNat 128) (p.serverIp.toNat + 1) s) ∨
    (p.alloc = .nodeId ∧ NodeIdInv suffix p) := by
  obtain ⟨network, serverIp, alloc, inUse⟩ := p
  cases alloc with
  | sequential n m r => exact Or.inl ⟨⟨n, m, r, inUse⟩, rfl, h.1, h.2⟩
  | nodeId => exact Or.inr ⟨rfl, h⟩

/-- The derived address of `e` cannot be handed out. -/
def Taken (suffix : EndpointId → UInt64) (p : Ip6Pool EndpointId) (e : EndpointId) : Prop :=
  derivedIp6 suffix p.network e = p.network.network ∨ derivedIp6 suffix p.network e = p.serverIp ∨
    ∃ k, p.inUse.lookup k = some (derivedIp6 suffix p.network e)

theorem allocate_nodeId (suffix : EndpointId → UInt64) (p : Ip6Pool EndpointId)
    (ha : p.alloc = .nodeId) (e : EndpointId) (d : UInt64) (hk : p.inUse.lookup (e, d) = none) :
    (Taken suffix p e ∧ p.allocate suffix e d = (none, p)) ∨
    (¬ Taken suffix p e ∧ p.allocate suffix e d = (some (derivedIp6 suffix p.network e),
        { p with inUse := p.inUse.insert (e, d) (derivedIp6 suffix p.network e) })) := by
  unfold allocate Taken
  simp only [hk, ha]
  split
  · next h => rw [Map.hasValue_iff] at h; exact Or.inl ⟨h, rfl⟩
  · next h => rw [Map.hasValue_iff] at h; exact Or.inr ⟨h, rfl⟩

theorem allocate_of_lookup (suffix : EndpointId → UInt64) (p : Ip6Pool EndpointId) (e : EndpointId)
    (d : UInt64) (a : Ipv6Addr) (hk : p.inUse.lookup (e, d) = some a) :
    p.allocate suffix e d = (some a, p) := by
  unfold allocate; simp only [hk]

section
variable {suffix : EndpointId → UInt64} {p : Ip6Pool EndpointId} (h : Inv suffix p)
  (e : EndpointId) (d : UInt64)
include h

/-- **`allocate` is a request of the abstract allocator**, whatever the strategy. -/
theorem allocate_acquire : Acquire (fun k => p.inUse.lookup k) (e, d) (p.allocate suffix e d).1
    (fun k => (p.allocate suffix e d).2.inUse.lookup k) := by
  rcases h.cases with ⟨s, hp, hm, hs⟩ | ⟨ha, hn⟩
  · rw [hp, allocate_ofFreeList]
    exact FreeList.allocate_acquire hs (ofNat_injOn _ _ _ hm) (e, d)
  · cases hk : p.inUse.lookup (e, d) with
    | some a => rw [allocate_of_lookup suffix p e d a hk]; exact .same hk
    | none =>
      rcases allocate_nodeId suffix p ha e d hk with ⟨-, heq⟩ | ⟨hfree, heq⟩
      · rw [heq]; exact .none hk
      · rw [heq]
        simp only []
        rw [FreeList.lookup_fun_insert]
        exact .fresh hk fun k hk' => hfree (Or.inr (Or.inr ⟨k, hk'⟩))

theorem inv_allocate : Inv suffix (p.allocate suffix e d).2 ∧
    (p.allocate suffix e d).2.network = p.network ∧ (p.allocate suffix e d).2.serverIp = p.serverIp := by
  rcases h.cases with ⟨s, hp, hm, hs⟩ | ⟨ha, hn⟩
  · have heq := allocate_ofFreeList suffix p.network p.serverIp s e d
    rw [← hp] at heq
    rw [heq]
    refine ⟨⟨?_, FreeList.inv_allocate hs (ofNat_injOn _ _ _ hm) (e, d)⟩, rfl, rfl⟩
    rw [FreeList.allocate_max]; exact hm
  · have hinj := (allocate_acquire h e d).inj hn.inj
    cases hk : p.inUse.lookup (e, d) with
    | some a => rw [allocate_of_lookup suffix p e d a hk]; exact ⟨h, rfl, rfl⟩
    | none =>
      rcases allocate_nodeId suffix p ha e d hk with ⟨-, heq⟩ | ⟨hfree, heq⟩
      · rw [heq]; exact ⟨h, rfl, rfl⟩
      · rw [heq] at hinj ⊢
        refine ⟨?_, rfl, rfl⟩
        unfold Inv
        simp only [ha]
        refine ⟨hinj, fun k a hka => ?_, fun k a hka => ?_⟩ <;>
          (simp only [Map.lookup_insert_eq] at hka; split at hka)
        · next hkk => subst hkk; exact (Option.some.inj hka).symm
        · exact hn.derived k a hka
        · rw [← Option.some.inj hka]
          exact ⟨fun e => hfree (Or.inl e), fun e => hfree (Or.inr (Or.inl e))⟩
        · exact hn.usable k a hka

theorem inv_release : Inv suffix (p.release e d) ∧ (p.release e d).network = p.network ∧
    (p.release e d).serverIp = p.serverIp := by
  rcases h.cases with ⟨s, hp, hm, hs⟩ | ⟨ha, hn⟩
  · have heq := release_ofFreeList p.network p.serverIp s e d
    rw [← hp] at heq
    rw [heq]
    refine ⟨⟨?_, FreeList.inv_release hs (e, d)⟩, rfl, rfl⟩
    rw [FreeList.release_max]; exact hm
  · unfold release
    cases hk : p.inUse.lookup (e, d) with
    | none => exact ⟨h, rfl, rfl⟩
    | some a =>
      have hsub : ∀ k b, (p.inUse.erase (e, d)).lookup k = some b → p.inUse.lookup k = some b := by
        intro k b hb
        rw [Map.lookup_erase_eq] at hb
        split at hb
        · cases hb
        · exact hb
      refine ⟨?_, rfl, rfl⟩
      unfold Inv
      simp only [ha]
      exact ⟨fun k k' b h1 h2 => hn.inj k k' b (hsub k b h1) (hsub k' b h2),
        fun k b hb => hn.derived k b (hsub k b hb), fun k b hb => hn.usable k b (hsub k b hb)⟩

/-- A call keeps the invariant and the fields set by `new`. -/
theorem inv_apply (op : PoolOp EndpointId) : Inv suffix (p.apply suffix op) ∧
    (p.apply suffix op).network = p.network ∧ (p.apply suffix op).serverIp = p.serverIp := by
  cases op with
  | allocate e d => exact inv_allocate h e d
  | release e d => exact inv_release h e d

/-- The same over every sequence of calls. -/
theorem inv_calls (ops : List (PoolOp EndpointId)) : Inv suffix (run (apply suffix) p ops) ∧
    (run (apply suffix) p ops).network = p.network ∧
      (run (apply suffix) p ops).serverIp = p.serverIp := by
  refine inv_run_all (I := fun q : Ip6Pool EndpointId => Inv suffix q ∧ q.network = p.network ∧
    q.serverIp = p.serverIp) ?_ ops p ⟨h, rfl, rfl⟩
  rintro q op ⟨hq, h1, h2⟩
  obtain ⟨hq', h1', h2'⟩ := inv_apply hq op
  exact ⟨hq', h1'.trans h1, h2'.trans h2⟩

end

end Ip6Pool

end EzVpn
