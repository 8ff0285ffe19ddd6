import EzVpn.Lib.Bytes
import EzVpn.Net.Addr

/-!
# Reading IP packets

The packet parsers of src/tunnel/server.rs: the two addresses of a packet and its UDP
ports.  Both address parsers accept the same packets (`extractSourceIp_isSome`,
`extractDestIp_isSome`): those at least as long as the fixed header of their version.
-/

namespace EzVpn

open Lib Bytes

/-- `PacketIp`. -/
abbrev PacketIp := IpAddr

def ipv4MinHeader : Nat := 20
def ipv6MinHeader : Nat := 40
def ipVersion4 : UInt8 := 4
def ipVersion6 : UInt8 := 6

def readIpv4Addr (packet : Bytes) (offset : Nat) : Ipv4Addr :=
  BitVec.ofNat 32 (beNat (slice packet offset (offset + 4)))

def readIpv6Addr (packet : Bytes) (offset : Nat) : Ipv6Addr :=
  BitVec.ofNat 128 (beNat (slice packet offset (offset + 16)))

/-- `extract_source_ip` and `extract_dest_ip` differ in the offsets they read at. -/
def extractIp (offset4 offset6 : Nat) (packet : Bytes) : Option PacketIp :=
  let len := packet.length
  if len < ipv4MinHeader then none
  else
    let version := byteAt packet 0 >>> 4
    if version = ipVersion4 then some (.v4 (readIpv4Addr packet offset4))
    else if version = ipVersion6 then
      if len < ipv6MinHeader then none else some (.v6 (readIpv6Addr packet offset6))
    else none

def extractSourceIp : Bytes → Option PacketIp := extractIp 12 8

def extractDestIp : Bytes → Option PacketIp := extractIp 16 24

/-- `extract_udp_ports`.  Of an IPv6 packet only the first next-header is read. -/
def extractUdpPorts (packet : Bytes) : Option (UInt16 × UInt16) :=
  if packet.length < ipv4MinHeader then none
  else
    let version := byteAt packet 0 >>> 4
    if version = ipVersion4 then
      let ihl := (byteAt packet 0 &&& 0x0f).toNat * 4
      if ihl < ipv4MinHeader ∨ packet.length < ihl + 8 then none
      else if byteAt packet 9 ≠ 17 then none
      else
        some (be16 (byteAt packet ihl) (byteAt packet (ihl + 1)),
          be16 (byteAt packet (ihl + 2)) (byteAt packet (ihl + 3)))
    else if version = ipVersion6 then
      if packet.length < ipv6MinHeader + 8 then none
      else if byteAt packet 6 ≠ 17 then none
      else
        some (be16 (byteAt packet 40) (byteAt packet 41), be16 (byteAt packet 42) (byteAt packet 43))
    else none

def packetHasLocalIrohUdpPort (packet : Bytes) (blockedPorts : List UInt16) : Bool :=
  if blockedPorts.isEmpty then false
  else
    match extractUdpPorts packet with
    | none => false
    | some (srcPort, dstPort) => blockedPorts.contains srcPort || blockedPorts.contains dstPort

/-- `octets()[i]` of an IPv6 address. -/
def octet (ip : Ipv6Addr) (i : Nat) : UInt8 := UInt8.ofNat (ip.toNat / 2 ^ (8 * (15 - i)))

/-- The `is_link_local` test of the inbound loop. -/
def isLinkLocal (ip : Ipv6Addr) : Bool := octet ip 0 == 0xfe && (octet ip 1 &&& 0xc0) == 0x80

/-! ## What they accept -/

/-- The packet has the fixed header of IPv4 or IPv6. -/
def Parses (packet : Bytes) : Prop :=
  20 ≤ packet.length ∧ byteAt packet 0 >>> 4 = 4 ∨ 40 ≤ packet.length ∧ byteAt packet 0 >>> 4 = 6

theorem extractIp_isSome (offset4 offset6 : Nat) (packet : Bytes) :
    (extractIp offset4 offset6 packet).isSome = true ↔ Parses packet := by
  unfold extractIp Parses ipv4MinHeader ipv6MinHeader ipVersion4 ipVersion6
  by_cases hlen : packet.length < 20
  · simp only [if_pos hlen, Option.isSome_none, Bool.false_eq_true, false_iff]
    omega
  · simp only [if_neg hlen]
    by_cases h4 : byteAt packet 0 >>> 4 = 4
    · simp only [if_pos h4, Option.isSome_some, true_iff]
      exact Or.inl ⟨by omega, h4⟩
    · by_cases h6 : byteAt packet 0 >>> 4 = 6
      · by_cases hlen6 : packet.length < 40
        · simp [h6, hlen6]
        · simp [h6, hlen6]
          omega
      · simp [h4, h6]

theorem extractSourceIp_isSome (packet : Bytes) :
    (extractSourceIp packet).isSome = true ↔ Parses packet := extractIp_isSome 12 8 packet

theorem extractDestIp_isSome (packet : Bytes) :
    (extractDestIp packet).isSome = true ↔ Parses packet := extractIp_isSome 16 24 packet

/-- A UDP packet from or to one of the ports. -/
def SelfEncapsulated (ports : List UInt16) (packet : Bytes) : Prop :=
  ∃ src dst, extractUdpPorts packet = some (src, dst) ∧ (src ∈ ports ∨ dst ∈ ports)

theorem packetHasLocalIrohUdpPort_iff (packet : Bytes) (ports : List UInt16) :
    packetHasLocalIrohUdpPort packet ports = true ↔ SelfEncapsulated ports packet := by
  unfold packetHasLocalIrohUdpPort SelfEncapsulated
  cases ports with
  | nil => simp
  | cons p ps =>
    cases extractUdpPorts packet with
    | none => simp
    | some sd => obtain ⟨src, dst⟩ := sd; simp

/-- fe80::/10. -/
def LinkLocal (ip : Ipv6Addr) : Prop := ip.toNat / 2 ^ 118 = 0xfe80 / 2 ^ 6

theorem and_c0 (b : UInt8) : b &&& 0xc0 = 0x80 ↔ b.toNat / 64 = 2 := by
  obtain ⟨⟨n, hn⟩⟩ := b
  have key : ∀ n : Fin 256, (UInt8.ofBitVec ⟨n⟩ &&& 0xc0 = 0x80) ↔ n.val / 64 = 2 := by decide +kernel
  exact key ⟨n, hn⟩

theorem isLinkLocal_iff (ip : Ipv6Addr) : isLinkLocal ip = true ↔ LinkLocal ip := by
  have hlt : ip.toNat < 2 ^ 128 := ip.isLt
  unfold isLinkLocal LinkLocal octet
  rw [Bool.and_eq_true, beq_iff_eq, beq_iff_eq, and_c0, ← UInt8.toNat_inj, UInt8.toNat_ofNat',
    UInt8.toNat_ofNat']
  show ip.toNat / 2 ^ 120 % 256 = 254 ∧ ip.toNat / 2 ^ 112 % 256 / 64 = 2 ↔ _
  omega

end EzVpn
