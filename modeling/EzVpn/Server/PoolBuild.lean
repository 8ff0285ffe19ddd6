import EzVpn.Server.PoolSpec

/-!
# Pools of an accepted configuration

`validate_vpn_networks` (src/config/mod.rs) accepts networks at the ends of the address
space, and the constructors of the pools (src/tunnel/server.rs) then compute past it.
`accepted_networks_sound_iff` says for which accepted configurations both pools are built
within `u32` and `u128` and with the server inside its network.
-/

namespace EzVpn

open Lib

/-! ## What is accepted -/

/-- What `validate_vpn_networks` has checked. -/
structure AcceptedNetworks (network : Option Ipv4Net) (serverIp : Option Ipv4Addr)
    (network6 : Option Ipv6Net) (serverIp6 : Option Ipv6Addr) (ip6Strategy : Ip6Strategy) : Prop where
  contains : ∀ net ip, network = some net → serverIp = some ip → net.contains ip = true
  contains6 : ∀ net ip, network6 = some net → serverIp6 = some ip → net.contains ip = true
  strategy : validateIp6Strategy ip6Strategy network6 serverIp6 = .ok ()

theorem accepted_of_validate {network : Option Ipv4Net} {serverIp : Option Ipv4Addr}
    {network6 : Option Ipv6Net} {serverIp6 : Option Ipv6Addr} {ip6Strategy : Ip6Strategy}
    (h : validateVpnNetworks network serverIp network6 serverIp6 ip6Strategy = .ok ()) :
    AcceptedNetworks network serverIp network6 serverIp6 ip6Strategy := by
  unfold validateVpnNetworks at h
  simp only [throw, throwThe, MonadExceptOf.throw, bind, Except.bind] at h
  refine ⟨?_, ?_, ?_⟩
  · rintro net ip rfl rfl
    by_contra hc
    rw [Bool.not_eq_true] at hc
    simp [hc] at h
  · rintro net ip rfl rfl
    by_contra hc
    rw [Bool.not_eq_true] at hc
    simp only [hc, Option.isNone_some, Option.isSome_some, Bool.and_false, Bool.false_eq_true, if_false,
      Bool.not_false, if_true] at h
    repeat' (split at h)
    all_goals cases h
  · cases hs : validateIp6Strategy ip6Strategy network6 serverIp6 with
    | ok u => rfl
    | error e =>
      rw [hs] at h
      repeat' (split at h)
      all_goals cases h

/-! ## IPv4 -/

/-- `IpPool::new` completes within `u32`, with the server inside the network. -/
def SoundIpPool (EndpointId : Type) (network : Ipv4Net) (serverIp : Option Ipv4Addr) : Prop :=
  ∃ p : IpPool EndpointId, IpPool.new network serverIp = .ok p ∧ network.contains p.serverIp = true

/-- A given server is not 255.255.255.255, and not all of the network 0.0.0.0/32.  Without one,
the network has a second address, and is not 255.255.255.254/31. -/
def IpPoolFits (network : Ipv4Net) : Option Ipv4Addr → Prop
  | some ip => ip ≠ BitVec.allOnes 32 ∧ ¬ (network.prefixLen = 32 ∧ ip = 0#32)
  | none => network.prefixLen ≤ 31 ∧ ¬ (network.prefixLen = 31 ∧ network.broadcast = BitVec.allOnes 32)

theorem serverIpOr_iff {w : Nat} {network : IpNet w} {serverIp : Option (BitVec w)} {ip : BitVec w} :
    serverIpOr serverIp network.network.toNat = .ok ip ↔
      ip = serverOf network serverIp ∧ (serverIp = none → network.network.toNat + 1 < 2 ^ w) := by
  cases serverIp with
  | some s => simp [serverIpOr, serverOf, eq_comm]
  | none =>
    by_cases hlt : network.network.toNat + 1 < 2 ^ w
    · simp [serverIpOr, checkedAdd, hlt, serverOf, eq_comm]
    · simp [serverIpOr, checkedAdd, hlt]

theorem ne_allOnes_iff {w : Nat} (ip : BitVec w) : ip ≠ BitVec.allOnes w ↔ ip.toNat + 1 < 2 ^ w := by
  have hpos := Nat.two_pow_pos w
  have hlt := ip.isLt
  constructor
  · intro h
    have hne : ip.toNat ≠ (BitVec.allOnes w).toNat := fun h' => h (BitVec.eq_of_toNat_eq h')
    rw [BitVec.toNat_allOnes] at hne
    omega
  · rintro h rfl
    rw [BitVec.toNat_allOnes] at h
    omega

variable {EndpointId : Type}

/-- When `IpPool::new` completes. -/
theorem IpPool.new_iff {network : Ipv4Net} {serverIp : Option Ipv4Addr} :
    (∃ p : IpPool EndpointId, IpPool.new network serverIp = .ok p) ↔
      (serverIp = none → network.network.toNat + 1 < 2 ^ 32) ∧
        (serverOf network serverIp).toNat + 1 < 2 ^ 32 ∧ 1 ≤ network.broadcast.toNat := by
  constructor
  · rintro ⟨p, h⟩
    obtain ⟨s, hs, h⟩ := bind_ok h
    obtain ⟨nextIp, hn, h⟩ := bind_ok h
    obtain ⟨maxIp, hm, h⟩ := bind_ok h
    obtain ⟨rfl, hnet⟩ := serverIpOr_iff.1 hs
    exact ⟨hnet, (checkedAdd_iff.1 hn).2, (checkedSub_iff.1 hm).2⟩
  · rintro ⟨hnet, hnext, hmax⟩
    unfold IpPool.new
    simp only [serverIpOr_iff.2 ⟨rfl, hnet⟩, checkedAdd_iff.2 ⟨rfl, hnext⟩, checkedSub_iff.2 ⟨rfl, hmax⟩,
      bind, Except.bind]
    exact ⟨_, rfl⟩

theorem soundIpPool_iff_new {network : Ipv4Net} {serverIp : Option Ipv4Addr} :
    SoundIpPool EndpointId network serverIp ↔
      (∃ p : IpPool EndpointId, IpPool.new network serverIp = .ok p) ∧
        network.contains (serverOf network serverIp) = true := by
  constructor
  · rintro ⟨p, hp, hc⟩
    rw [IpPool.new_eq network serverIp p hp] at hc
    exact ⟨⟨p, hp⟩, hc⟩
  · rintro ⟨⟨p, hp⟩, hc⟩
    refine ⟨p, hp, ?_⟩
    rwa [IpPool.new_eq network serverIp p hp]

/-- With a given server, the additions around it stay inside `u32`, and so does the last address. -/
theorem ipPoolFits_given {network : Ipv4Net} {ip : Ipv4Addr} (hin : network.contains ip = true) :
    (ip.toNat + 1 < 2 ^ 32 ∧ 1 ≤ network.broadcast.toNat) ↔ IpPoolFits network (some ip) := by
  have hbr := network.broadcast_toNat
  have hbits : network.hostBits = 32 - network.prefixLen := rfl
  have hle := network.prefix_le
  obtain ⟨hlo, hhi⟩ := (network.contains_iff ip).1 hin
  rw [IpPoolFits, ne_allOnes_iff]
  refine and_congr_right fun _ => ?_
  constructor
  · rintro hmax ⟨h32, rfl⟩
    rw [hbits, h32] at hbr
    simp only [BitVec.toNat_ofNat] at hlo
    omega
  · intro hzero
    by_contra hmax
    refine hzero ⟨?_, BitVec.eq_of_toNat_eq (by simp; omega)⟩
    by_contra h32
    have := Nat.pow_le_pow_right (show 0 < 2 by omega) (show 1 ≤ network.hostBits by omega)
    omega

/-- Without one, the server is the second address of the network. -/
theorem ipPoolFits_default {network : Ipv4Net} :
    (network.network.toNat + 1 + 1 < 2 ^ 32 ∧ network.network.toNat + 1 ≤ network.broadcast.toNat) ↔
      IpPoolFits network none := by
  have hbr := network.broadcast_toNat
  have hfit := network.network_add_le
  have hbits : network.hostBits = 32 - network.prefixLen := rfl
  have hle := network.prefix_le
  rw [IpPoolFits]
  constructor
  · rintro ⟨hnext, hin⟩
    have hbig : 1 ≤ network.hostBits := by
      by_contra h0
      rw [show network.hostBits = 0 by omega] at hbr
      omega
    refine ⟨by omega, ?_⟩
    rintro ⟨h31, hones⟩
    rw [hones, BitVec.toNat_allOnes, hbits, h31] at hbr
    omega
  · rintro ⟨h31, hlast⟩
    have htwo := Nat.pow_le_pow_right (show 0 < 2 by omega) (show 1 ≤ network.hostBits by omega)
    refine ⟨?_, by omega⟩
    by_cases h : network.prefixLen = 31
    · have := (ne_allOnes_iff _).1 fun h' => hlast ⟨h, h'⟩
      omega
    · have hfour := Nat.pow_le_pow_right (show 0 < 2 by omega) (show 2 ≤ network.hostBits by omega)
      omega

theorem soundIpPool_iff {network : Ipv4Net} {serverIp : Option Ipv4Addr}
    (hgiven : ∀ ip, serverIp = some ip → network.contains ip = true) :
    SoundIpPool EndpointId network serverIp ↔ IpPoolFits network serverIp := by
  rw [soundIpPool_iff_new, IpPool.new_iff]
  cases serverIp with
  | some ip =>
    have hin := hgiven ip rfl
    rw [← ipPoolFits_given hin]
    exact ⟨fun h => h.1.2, fun h => ⟨⟨(nomatch ·), h⟩, hin⟩⟩
  | none =>
    have hlt : network.network.toNat + 1 < 2 ^ 32 →
        (serverOf network none).toNat = network.network.toNat + 1 := fun h => Nat.mod_eq_of_lt h
    rw [← ipPoolFits_default, IpNet.contains_iff]
    constructor
    · rintro ⟨⟨hnet, hnext, -⟩, -, hin⟩
      rw [hlt (hnet rfl)] at hnext hin
      exact ⟨hnext, hin⟩
    · rintro ⟨hnext, hin⟩
      rw [hlt (by omega)]
      exact ⟨⟨fun _ => by omega, hnext, by omega⟩, by omega, hin⟩

/-! ## IPv6 -/

section
variable (suffix : EndpointId → UInt64) (network : Ipv6Net) (serverIp : Option Ipv6Addr)
  (strategy : Ip6Strategy) (serverId : EndpointId)

/-- `Ip6Pool::new` completes within `u128`, with the server inside the network, or refuses the
configuration. -/
def SoundIp6Pool : Prop :=
  (∃ p, Ip6Pool.new suffix network serverIp strategy serverId = .ok p ∧ network.contains p.serverIp = true) ∨
    ∃ message, Ip6Pool.new suffix network serverIp strategy serverId = .error (.vpn (.config message))

/-- A sequential pool is not over ::/0, and a given server is not the last address of all. -/
def Ip6PoolFits : Prop :=
  strategy = .sequential → network.prefixLen < 127 →
    network.prefixLen ≠ 0 ∧ serverIp ≠ some (BitVec.allOnes 128)

end

section
variable {e : PoolError}

theorem bind_error {α β : Type} {x : Except PoolError α} {f : α → Except PoolError β}
    (h : x >>= f = .error e) : x = .error e ∨ ∃ a, f a = .error e := by
  cases x with
  | error e' =>
    have h' : (Except.error e' : Except PoolError β) = .error e := h
    exact Or.inl (congrArg Except.error (Except.error.inj h'))
  | ok a => exact Or.inr ⟨a, h⟩

theorem checkedAdd_error {w a b : Nat} (h : checkedAdd w a b = .error e) : e = .arith := by
  unfold checkedAdd at h
  split at h
  · cases h
  · exact (Except.error.inj h).symm

theorem checkedSub_error {a b : Nat} (h : checkedSub a b = .error e) : e = .arith := by
  unfold checkedSub at h
  split at h
  · cases h
  · exact (Except.error.inj h).symm

theorem checkedShl_error {w a b : Nat} (h : checkedShl w a b = .error e) : e = .arith := by
  unfold checkedShl at h
  split at h
  · cases h
  · exact (Except.error.inj h).symm

theorem serverIpOr_error {w : Nat} {serverIp : Option (BitVec w)} {netAddr : Nat}
    (h : serverIpOr serverIp netAddr = .error e) : e = .arith := by
  unfold serverIpOr at h
  split at h
  · cases h
  · split at h
    · cases h
    · next e' he =>
      rw [checkedAdd_error he] at h
      exact (Except.error.inj h).symm

/-- An IPv4 pool is never refused. -/
theorem IpPool.new_error {network : Ipv4Net} {serverIp : Option Ipv4Addr}
    (h : (IpPool.new network serverIp : Except PoolError (IpPool EndpointId)) = .error e) : e = .arith := by
  rcases bind_error h with h | ⟨_, h⟩
  · exact serverIpOr_error h
  rcases bind_error h with h | ⟨_, h⟩
  · exact checkedAdd_error h
  rcases bind_error h with h | ⟨_, h⟩
  · exact checkedSub_error h
  · cases h

/-- The sequential branch fails in its arithmetic only. -/
theorem Ip6Pool.newSequential_error {network : Ipv6Net} {serverIp : Option Ipv6Addr}
    (h : (newSequential network serverIp : Except PoolError (Ip6Pool EndpointId)) = .error e) : e = .arith := by
  rcases bind_error h with h | ⟨_, h⟩
  · exact serverIpOr_error h
  rcases bind_error h with h | ⟨_, h⟩
  · exact checkedAdd_error h
  rcases bind_error h with h | ⟨_, h⟩
  · exact checkedShl_error h
  rcases bind_error h with h | ⟨_, h⟩
  · exact checkedSub_error h
  rcases bind_error h with h | ⟨_, h⟩
  · exact checkedAdd_error h
  rcases bind_error h with h | ⟨_, h⟩
  · exact checkedSub_error h
  · cases h

end

/-- When the sequential branch completes. -/
theorem Ip6Pool.newSequential_iff {network : Ipv6Net} {serverIp : Option Ipv6Addr}
    (hp : network.prefixLen < 127) :
    (∃ p : Ip6Pool EndpointId, newSequential network serverIp = .ok p) ↔
      network.prefixLen ≠ 0 ∧ serverIp ≠ some (BitVec.allOnes 128) := by
  constructor
  · rintro ⟨p, h⟩
    obtain ⟨s, hs, h⟩ := bind_ok h
    obtain ⟨nextIp, hn, h⟩ := bind_ok h
    obtain ⟨span, hspan, h⟩ := bind_ok h
    obtain ⟨rfl, -⟩ := serverIpOr_iff.1 hs
    constructor
    · intro h0
      rw [h0, checkedShl, if_neg (by omega)] at hspan
      cases hspan
    · rintro rfl
      exact (ne_allOnes_iff _).2 (checkedAdd_iff.1 hn).2 rfl
  · rintro ⟨h0, hones⟩
    have hb : 2 ≤ network.hostBits := by unfold IpNet.hostBits; omega
    have hfour := Nat.pow_le_pow_right (show 0 < 2 by omega) hb
    have hfit := network.network_add_le
    have hbr := network.broadcast_toNat
    have hshl : checkedShl 128 1 (128 - network.prefixLen) = .ok (2 ^ network.hostBits) :=
      checkedShl_one (by omega)
    have hnext : (serverOf network serverIp).toNat + 1 < 2 ^ 128 := by
      cases serverIp with
      | some ip => exact (ne_allOnes_iff _).1 fun h => hones (congrArg some h)
      | none =>
        show (BitVec.ofNat 128 (network.network.toNat + 1)).toNat + 1 < 2 ^ 128
        rw [BitVec.toNat_ofNat, Nat.mod_eq_of_lt (by omega)]
        omega
    unfold newSequential
    simp only [serverIpOr_ok network serverIp hb, hshl, checkedAdd_iff.2 ⟨rfl, hnext⟩,
      checkedSub_iff.2 ⟨rfl, show 1 ≤ 2 ^ network.hostBits by omega⟩,
      checkedSub_iff.2 ⟨rfl, show 1 ≤ network.broadcast.toNat by omega⟩, bind, Except.bind,
      checkedAdd_iff.2 ⟨hbr, show network.network.toNat + (2 ^ network.hostBits - 1) < 2 ^ 128 by omega⟩]
    exact ⟨_, rfl⟩

theorem soundIp6Pool_iff {suffix : EndpointId → UInt64} {network : Ipv6Net} {serverIp : Option Ipv6Addr}
    {strategy : Ip6Strategy} {serverId : EndpointId}
    (hgiven : ∀ ip, serverIp = some ip → network.contains ip = true)
    (hstrategy : validateIp6Strategy strategy (some network) serverIp = .ok ()) :
    SoundIp6Pool suffix network serverIp strategy serverId ↔ Ip6PoolFits network serverIp strategy := by
  unfold SoundIp6Pool Ip6PoolFits Ip6Pool.new
  rw [hstrategy]
  by_cases hp : network.prefixLen ≥ 127
  · rw [if_pos hp]
    exact iff_of_true (Or.inr ⟨_, rfl⟩) fun _ h => absurd hp (by omega)
  · rw [if_neg hp]
    cases strategy with
    | nodeId =>
      refine iff_of_true ?_ fun h => by cases h
      by_cases hcollides : derivedIp6 suffix network serverId = network.network
      · exact Or.inr ⟨_, if_pos hcollides⟩
      · exact Or.inl ⟨_, if_neg hcollides, contains_derivedIp6 suffix network serverId⟩
    | sequential =>
      dsimp only
      have hin : network.contains (serverOf network serverIp) = true := by
        cases serverIp with
        | some ip => exact hgiven ip rfl
        | none =>
          obtain ⟨hlo, hhi⟩ := serverOf_range network none (by unfold IpNet.hostBits; omega)
            fun _ h => by cases h
          exact (network.contains_iff _).2 ⟨hlo, Nat.le_of_lt hhi⟩
      rw [← @Ip6Pool.newSequential_iff EndpointId network serverIp (by omega)]
      constructor
      · rintro (⟨p, hnew, -⟩ | ⟨message, hnew⟩)
        · exact fun _ _ => ⟨p, hnew⟩
        · cases Ip6Pool.newSequential_error hnew
      · intro h
        obtain ⟨p, hnew⟩ := h rfl (by omega)
        obtain ⟨m, -, rfl⟩ := Ip6Pool.newSequential_eq network serverIp p hnew
        exact Or.inl ⟨_, hnew, hin⟩

/-! ## Both pools -/

/-- **When an accepted configuration builds sound pools.**  It does unless a network or a
server address touches the end of the address space: the constructors then leave `u32` or
`u128`, or, over a network of one address, put the server outside. -/
theorem accepted_networks_sound_iff (suffix : EndpointId → UInt64) (serverId : EndpointId)
    (network : Option Ipv4Net) (serverIp : Option Ipv4Addr) (network6 : Option Ipv6Net)
    (serverIp6 : Option Ipv6Addr) (ip6Strategy : Ip6Strategy)
    (h : validateVpnNetworks network serverIp network6 serverIp6 ip6Strategy = .ok ()) :
    ((∀ net, network = some net → SoundIpPool EndpointId net serverIp) ∧
      ∀ net6, network6 = some net6 → SoundIp6Pool suffix net6 serverIp6 ip6Strategy serverId) ↔
    (∀ net, network = some net → IpPoolFits net serverIp) ∧
      ∀ net6, network6 = some net6 → Ip6PoolFits net6 serverIp6 ip6Strategy := by
  have haccept := accepted_of_validate h
  refine and_congr (forall_congr' fun net => forall_congr' fun hnet => ?_)
    (forall_congr' fun net6 => forall_congr' fun hnet6 => ?_)
  · exact soundIpPool_iff fun ip hip => haccept.contains net ip hnet hip
  · refine soundIp6Pool_iff (fun ip hip => haccept.contains6 net6 ip hnet6 hip) ?_
    rw [← hnet6]
    exact haccept.strategy

/-- 10.0.0.0/24 and fd00::/64, with the default servers. -/
theorem accepted_networks_sound_dual :
    SoundIpPool Nat ⟨0x0a000000#32, 24, by omega⟩ none ∧
      SoundIp6Pool (fun n : Nat => UInt64.ofNat n) ⟨0xfd000000000000000000000000000000#128, 64, by omega⟩ none
        .sequential 7 := by
  have h := (accepted_networks_sound_iff (fun n : Nat => UInt64.ofNat n) 7
    (some ⟨0x0a000000#32, 24, by omega⟩) none
    (some ⟨0xfd000000000000000000000000000000#128, 64, by omega⟩) none .sequential (by decide +kernel)).2
  obtain ⟨h4, h6⟩ := h ⟨by rintro net ⟨⟩; exact ⟨by decide, by decide⟩,
    by rintro net ⟨⟩; exact fun _ _ => ⟨by decide, by simp⟩⟩
  exact ⟨h4 _ rfl, h6 _ rfl⟩

/-- ::/0 is accepted, and its pool shifts by the full width; 10.0.0.0/32 is accepted, and its
pool puts the server at 10.0.0.1; 255.255.255.255/32 is accepted, and its pool adds past the
end. -/
theorem accepted_networks_unsound :
    validateVpnNetworks none none (some ⟨0#128, 0, by omega⟩) none .sequential = .ok () ∧
    ¬ SoundIp6Pool (fun n : Nat => UInt64.ofNat n) ⟨0#128, 0, by omega⟩ none .sequential 7 ∧
    validateVpnNetworks (some ⟨0x0a000000#32, 32, by omega⟩) none none none .sequential = .ok () ∧
    (∃ p : IpPool Nat, IpPool.new ⟨0x0a000000#32, 32, by omega⟩ none = .ok p ∧ p.serverIp = 0x0a000001#32) ∧
    ¬ SoundIpPool Nat ⟨0x0a000000#32, 32, by omega⟩ none ∧
    validateVpnNetworks (some ⟨0xffffffff#32, 32, by omega⟩) none none none .sequential = .ok () ∧
    (IpPool.new ⟨0xffffffff#32, 32, by omega⟩ none : Except PoolError (IpPool Nat)) = .error .arith := by
  have hshift : Ip6Pool.new (fun n : Nat => UInt64.ofNat n) ⟨0#128, 0, by omega⟩ none .sequential 7 =
      .error .arith := rfl
  have houtside : (IpPool.new ⟨0x0a000000#32, 32, by omega⟩ none : Except PoolError (IpPool Nat)) =
      .ok ⟨⟨0x0a000000#32, 32, by omega⟩, 0x0a000001#32, 0x0a000002, 0x09ffffff, ∅, [], []⟩ := rfl
  refine ⟨by decide +kernel, ?_, by decide +kernel, ⟨_, houtside, rfl⟩, ?_, by decide +kernel, rfl⟩
  · rintro (⟨p, hp, -⟩ | ⟨message, hp⟩) <;> rw [hshift] at hp <;> cases hp
  · rintro ⟨p, hp, hin⟩
    rw [houtside] at hp
    cases hp
    revert hin
    decide

end EzVpn
