import Mathlib.Data.Nat.Bitwise

/-!
# Addresses and networks

`Ipv4Addr` and `Ipv6Addr` are bit vectors.  `IpNet w` is a network in CIDR form,
an address with a prefix length; the address may have host bits set.  `network`
clears the host bits and `broadcast` sets them, so as numbers a network is the
interval `[network, network + 2^hostBits - 1]` (`network_toNat`, `broadcast_toNat`).
-/

namespace EzVpn

abbrev Ipv4Addr := BitVec 32
abbrev Ipv6Addr := BitVec 128

/-- `Ipv4Net` / `Ipv6Net`: an address and a prefix length. -/
structure IpNet (w : Nat) where
  addr : BitVec w
  prefixLen : Nat
  prefix_le : prefixLen ≤ w
deriving DecidableEq, Repr

abbrev Ipv4Net := IpNet 32
abbrev Ipv6Net := IpNet 128

/-- An address of either family. -/
inductive IpAddr
  | v4 (ip : Ipv4Addr)
  | v6 (ip : Ipv6Addr)
deriving DecidableEq

/-- `ipnet::IpNet`: a network of either family. -/
inductive AnyNet
  | v4 (net : Ipv4Net)
  | v6 (net : Ipv6Net)
deriving DecidableEq, Repr

namespace IpNet

variable {w : Nat} (n : IpNet w)

def hostBits : Nat := w - n.prefixLen

def hostmask : BitVec w := BitVec.ofNat w (2 ^ n.hostBits - 1)

/-- First address of the network. -/
def network : BitVec w := n.addr &&& ~~~n.hostmask

/-- Last address of the network. -/
def broadcast : BitVec w := n.addr ||| n.hostmask

def contains (ip : BitVec w) : Bool := n.network ≤ ip && ip ≤ n.broadcast

theorem hostBits_le : n.hostBits ≤ w := Nat.sub_le _ _

theorem hostmask_toNat : n.hostmask.toNat = 2 ^ n.hostBits - 1 := by
  unfold hostmask
  rw [BitVec.toNat_ofNat, Nat.mod_eq_of_lt]
  have := Nat.pow_le_pow_right (show 0 < 2 by omega) n.hostBits_le
  have := Nat.two_pow_pos w
  omega

theorem hostmask_getLsbD (i : Nat) : n.hostmask.getLsbD i = decide (i < n.hostBits) := by
  rw [← BitVec.testBit_toNat, hostmask_toNat, Nat.testBit_two_pow_sub_one]

theorem network_toNat : n.network.toNat = n.addr.toNat / 2 ^ n.hostBits * 2 ^ n.hostBits := by
  apply Nat.eq_of_testBit_eq
  intro i
  rw [network, BitVec.testBit_toNat, BitVec.getLsbD_and, BitVec.getLsbD_not, hostmask_getLsbD,
    Nat.testBit_mul_two_pow, Nat.testBit_div_two_pow]
  by_cases hi : n.hostBits ≤ i
  · rw [Nat.sub_add_cancel hi, BitVec.testBit_toNat]
    by_cases hw : i < w
    · simp [hi, hw]
    · rw [BitVec.getLsbD_of_ge _ _ (by omega)]; simp
  · simp [hi, Nat.lt_of_not_le hi]

/-- The host bits of `network` are clear, so adding below `2^hostBits` sets them. -/
theorem network_or_toNat (x : BitVec w) (hx : x.toNat < 2 ^ n.hostBits) :
    (n.network ||| x).toNat = n.network.toNat + x.toNat := by
  rw [BitVec.toNat_or, network_toNat, Nat.mul_comm, ← Nat.two_pow_add_eq_or_of_lt hx]

theorem broadcast_toNat : n.broadcast.toNat = n.network.toNat + (2 ^ n.hostBits - 1) := by
  have hb : n.broadcast = n.network ||| n.hostmask := by
    apply BitVec.eq_of_getLsbD_eq
    intro i hi
    rw [broadcast, network, BitVec.getLsbD_or, BitVec.getLsbD_or, BitVec.getLsbD_and,
      BitVec.getLsbD_not, hostmask_getLsbD]
    by_cases h : i < n.hostBits <;> simp [h, hi]
  have hpos := Nat.two_pow_pos n.hostBits
  rw [hb, network_or_toNat _ _ (by rw [hostmask_toNat]; omega), hostmask_toNat]

theorem network_add_le : n.network.toNat + 2 ^ n.hostBits ≤ 2 ^ w := by
  have h1 := n.broadcast_toNat
  have h2 := n.broadcast.isLt
  have h3 := Nat.two_pow_pos n.hostBits
  omega

theorem contains_iff (ip : BitVec w) : n.contains ip = true ↔
    n.network.toNat ≤ ip.toNat ∧ ip.toNat ≤ n.broadcast.toNat := by
  unfold contains
  rw [Bool.and_eq_true, decide_eq_true_iff, decide_eq_true_iff, BitVec.le_def, BitVec.le_def]

/-- The addresses of a network are those that agree on the bits before the host bits. -/
theorem contains_iff_div (ip : BitVec w) : n.contains ip = true ↔
    ip.toNat / 2 ^ n.hostBits = n.addr.toNat / 2 ^ n.hostBits := by
  have hpos := Nat.two_pow_pos n.hostBits
  rw [contains_iff, broadcast_toNat, network_toNat, Nat.div_eq_iff hpos]
  omega

theorem contains_network : n.contains n.network = true := by
  rw [contains_iff, broadcast_toNat]
  omega

/-- A network that meets a larger one starts in it. -/
theorem contains_network_of_contains {a b : IpNet w} {ip : BitVec w} (hle : a.hostBits ≤ b.hostBits)
    (ha : a.contains ip = true) (hb : b.contains ip = true) : b.contains a.network = true := by
  rw [contains_iff_div] at ha hb ⊢
  have hpow : 2 ^ b.hostBits = 2 ^ a.hostBits * 2 ^ (b.hostBits - a.hostBits) := by
    rw [← Nat.pow_add, Nat.add_sub_cancel' hle]
  rw [← hb, network_toNat, hpow, ← Nat.div_div_eq_div_mul, ← Nat.div_div_eq_div_mul,
    Nat.mul_div_cancel _ (Nat.two_pow_pos _), ha]

/-- **Two networks share an address exactly if one of them starts in the other.** -/
theorem exists_contains_iff (a b : IpNet w) :
    (∃ ip, a.contains ip = true ∧ b.contains ip = true) ↔
      a.contains b.network = true ∨ b.contains a.network = true := by
  constructor
  · rintro ⟨ip, ha, hb⟩
    rcases Nat.le_total a.hostBits b.hostBits with hle | hle
    · exact .inr (contains_network_of_contains hle ha hb)
    · exact .inl (contains_network_of_contains hle hb ha)
  · rintro (h | h)
    · exact ⟨b.network, h, b.contains_network⟩
    · exact ⟨a.network, a.contains_network, h⟩

end IpNet

namespace AnyNet

def prefixLen : AnyNet → Nat
  | v4 net => net.prefixLen
  | v6 net => net.prefixLen

def network : AnyNet → IpAddr
  | v4 net => .v4 net.network
  | v6 net => .v6 net.network

/-- An address of the other family is outside. -/
def contains : AnyNet → IpAddr → Bool
  | v4 net, .v4 ip => net.contains ip
  | v6 net, .v6 ip => net.contains ip
  | _, _ => false

/-- Some address is in both networks. -/
def Meets (a b : AnyNet) : Prop := ∃ ip, a.contains ip = true ∧ b.contains ip = true

theorem meets_iff (a b : AnyNet) : a.Meets b ↔ a.contains b.network = true ∨ b.contains a.network = true := by
  constructor
  · rintro ⟨ip, ha, hb⟩
    -- the address fixes the family of both
    match a, b, ip with
    | v4 a, v4 b, .v4 ip => exact (IpNet.exists_contains_iff a b).1 ⟨ip, ha, hb⟩
    | v6 a, v6 b, .v6 ip => exact (IpNet.exists_contains_iff a b).1 ⟨ip, ha, hb⟩
  · intro h
    match a, b with
    | v4 a, v4 b =>
      obtain ⟨ip, ha, hb⟩ := (IpNet.exists_contains_iff a b).2 h
      exact ⟨.v4 ip, ha, hb⟩
    | v6 a, v6 b =>
      obtain ⟨ip, ha, hb⟩ := (IpNet.exists_contains_iff a b).2 h
      exact ⟨.v6 ip, ha, hb⟩
    | v4 _, v6 _ => simp [contains, network] at h
    | v6 _, v4 _ => simp [contains, network] at h

end AnyNet

/-! ## Display -/

/-- `Display for Ipv4Addr`. -/
def displayIpv4 (ip : Ipv4Addr) : String :=
  let n := ip.toNat
  s!"{n / 2 ^ 24}.{n / 2 ^ 16 % 256}.{n / 2 ^ 8 % 256}.{n % 256}"

/-- The eight 16-bit groups of an IPv6 address. -/
def segments (ip : Ipv6Addr) : List Nat :=
  (List.range 8).map fun i => ip.toNat / 2 ^ (16 * (7 - i)) % 2 ^ 16

def displayHex (groups : List Nat) : String :=
  ":".intercalate (groups.map fun g => String.ofList (Nat.toDigits 16 g))

/-- Start and length of the first longest run of zero groups: the groups to go, the
index of the first of them, the run that ends there, the longest run so far. -/
def longestZeros : List Nat → Nat → Nat × Nat → Nat × Nat → Nat × Nat
  | [], _, _, best => best
  | g :: gs, i, cur, best =>
    if g = 0 then
      let cur := if cur.2 = 0 then (i, 1) else (cur.1, cur.2 + 1)
      longestZeros gs (i + 1) cur (if cur.2 > best.2 then cur else best)
    else longestZeros gs (i + 1) (0, 0) best

/-- `Display for Ipv6Addr`: an IPv4-mapped address ends in dotted form, and the first
longest run of two or more zero groups is written `::`. -/
def displayIpv6 (ip : Ipv6Addr) : String :=
  if ip.toNat / 2 ^ 32 = 0xffff then s!"::ffff:{displayIpv4 (ip.setWidth 32)}"
  else
    let groups := segments ip
    let zeros := longestZeros groups 0 (0, 0) (0, 0)
    if zeros.2 > 1 then
      s!"{displayHex (groups.take zeros.1)}::{displayHex (groups.drop (zeros.1 + zeros.2))}"
    else displayHex groups

/-- `Display for Ipv4Net`. -/
def displayIpv4Net (net : Ipv4Net) : String := s!"{displayIpv4 net.addr}/{net.prefixLen}"

/-- `Display for Ipv6Net`. -/
def displayIpv6Net (net : Ipv6Net) : String := s!"{displayIpv6 net.addr}/{net.prefixLen}"

/-- `Display for IpAddr`. -/
def displayIp : IpAddr → String
  | .v4 ip => displayIpv4 ip
  | .v6 ip => displayIpv6 ip

example : displayIpv6 0xfd000000000000000000000000000001#128 = "fd00::1" := by decide +kernel

end EzVpn
