import EzVpn.Net.Packet
import EzVpn.Offload.SegmentSpec
import EzVpn.Stream.Datagrams

/-!
# Where the packets of a frame go

A frame read from the TUN is routed by the address in its header, and what is sent are the
packets it is cut into.  The header of the frame says where the transport header starts.  If
that is behind the IP header, as it is in what a kernel writes, every packet has the
destination of the frame (`extractDestIp_plainPackets`); the code does not check it.
-/

namespace EzVpn

open Lib Bytes

/-- The transport header is behind the fixed IP header and its options. -/
structure BehindIp (offload : VirtioNetHdr) (packet : Bytes) : Prop where
  short : packet.length < 2 ^ 32
  fixed : ipHeaderLenOf (isV6 packet) ≤ tcpOffset offload packet
  options : ipHeaderLen packet ≤ tcpOffset offload packet

/-- The addresses of a packet are read from its version and its fixed header. -/
theorem extractDestIp_congr {p q : Bytes} (h20 : p.length < 20 ↔ q.length < 20)
    (h40 : p.length < 40 ↔ q.length < 40)
    (h : ∀ i, i = 0 ∨ 16 ≤ i ∧ i < ipHeaderLenOf (isV6 q) → byteAt p i = byteAt q i) :
    extractDestIp p = extractDestIp q := by
  have h0 : byteAt p 0 = byteAt q 0 := h 0 (Or.inl rfl)
  unfold extractDestIp extractIp ipv4MinHeader ipv6MinHeader ipVersion4 ipVersion6
  dsimp only
  rw [h0]
  by_cases hq20 : q.length < 20
  · rw [if_pos hq20, if_pos (h20.2 hq20)]
  rw [if_neg hq20, if_neg (mt h20.1 hq20)]
  have hslice : ∀ i j, 16 ≤ i → j ≤ ipHeaderLenOf (isV6 q) → j ≤ p.length → j ≤ q.length →
      slice p i j = slice q i j := by
    intro i j hi hj hp hq
    exact slice_congr hp hq fun k hk hk' => h k (Or.inr ⟨by omega, by omega⟩)
  by_cases h4 : byteAt q 0 >>> 4 = 4
  · have hv : ipHeaderLenOf (isV6 q) = 20 := by simp [ipHeaderLenOf, isV6, h4]
    have hp20 := mt h20.1 hq20
    rw [if_pos h4, if_pos h4, readIpv4Addr, readIpv4Addr, hslice 16 (16 + 4) (by omega) (by omega) (by omega)
      (by omega)]
  · rw [if_neg h4, if_neg h4]
    by_cases h6 : byteAt q 0 >>> 4 = 6
    · have hv : ipHeaderLenOf (isV6 q) = 40 := by simp [ipHeaderLenOf, isV6, h6]
      rw [if_pos h6, if_pos h6]
      by_cases hq40 : q.length < 40
      · rw [if_pos hq40, if_pos (h40.2 hq40)]
      · have hp40 := mt h40.1 hq40
        rw [if_neg hq40, if_neg hp40, readIpv6Addr, readIpv6Addr, hslice 24 (24 + 16) (by omega) (by omega)
          (by omega) (by omega)]
    · rw [if_neg h6, if_neg h6]

/-- Bytes behind the fixed header do not matter. -/
theorem extractDestIp_sameExcept {p q : Bytes} (h : SameExcept (ipHeaderLenOf (isV6 q) ≤ ·) p q) :
    extractDestIp p = extractDestIp q := by
  refine extractDestIp_congr (by rw [h.1]) (by rw [h.1]) fun i hi => h.2 i ?_
  have := ipHeaderLenOf_ge (isV6 q)
  omega

section
variable {offload : VirtioNetHdr} {ip : Bytes}

theorem extractDestIp_segment {t h offset : Nat} {last : Bool} {c out : Bytes}
    (hs : SegmentOf ip t h c offset last out) (ht : ipHeaderLenOf (isV6 ip) ≤ t) (hge : t + 20 ≤ h)
    (hle : h ≤ ip.length) : extractDestIp out = extractDestIp ip := by
  have hlen : out.length = h + c.length := by
    rw [hs.same.1, length_take_append hle]
  have h20 := ipHeaderLenOf_ge (isV6 ip)
  refine extractDestIp_congr (by omega) (by omega) fun i hi => hs.byteAt_header hle (by omega) ?_
  rintro (hfield | hc)
  · unfold LengthField at hfield
    split at hfield <;> omega
  · omega

theorem extractDestIp_setBytes (checksum : UInt16) {i : Nat} (hi : ipHeaderLenOf (isV6 ip) ≤ i) :
    extractDestIp (setBytes ip i (toBe16 checksum)) = extractDestIp ip :=
  extractDestIp_sameExcept (sameExcept_setBytes _ _ _ fun _ h1 _ => Nat.le_trans hi h1)

/-- The checksum field that is completed is behind `csum_start`. -/
theorem validateChecksumOffload_ge {csumStart checksumIndex : Nat}
    (h : validateChecksumOffload offload ip = .ok (some (csumStart, checksumIndex))) :
    tcpOffset offload ip ≤ checksumIndex := by
  unfold validateChecksumOffload at h
  split at h
  · cases h
  · split at h
    · cases h
    · split at h
      · cases h
      · next hneeds =>
        dsimp only at h
        split at h
        · cases h
        · split at h
          · cases h
          · split at h
            · cases h
            · obtain ⟨rfl, rfl⟩ := Prod.mk.inj (Option.some.inj (Except.ok.inj h))
              rw [tcpOffset, if_pos (by simpa using hneeds)]
              exact Nat.le_add_right _ _

/-- **A frame's packets go where the frame goes.** -/
theorem extractDestIp_materialized (h : BehindIp offload ip) {p : Bytes} (hp : p ∈ materialized offload ip) :
    extractDestIp p = extractDestIp ip := by
  unfold materialized materializeOffloadInto at hp
  by_cases hgso : offload.isTcpGso = true
  · rw [if_pos hgso] at hp
    rcases segmentTcpGsoInto_cases offload ip h.options h.short [] with
      ⟨e, scratch', heq⟩ | ⟨l, scratch', segs, heq, hl, hsegs⟩
    · rw [heq] at hp
      cases hp
    · rw [heq] at hp
      have hfixed : ipHeaderLenOf (isV6 ip) ≤ l.tcpOffset := hl.tcpOffset ▸ h.fixed
      rcases hsegs with ⟨-, hone⟩ | ⟨-, -, hall⟩
      · -- not cut: at most the TCP checksum is set
        rw [show p = _ from List.mem_singleton.1 (hone ▸ hp)]
        split
        · exact extractDestIp_setBytes _ (by omega)
        · rfl
      · obtain ⟨j, hj, rfl⟩ := List.getElem_of_mem hp
        exact extractDestIp_segment (hall j hj) hfixed hl.ge hl.le
  · rw [if_neg hgso] at hp
    split at hp
    · cases hp
    · split at hp
      · cases hp
      · rw [show p = ip from List.mem_singleton.1 hp]
      · next csumStart checksumIndex hvalid =>
        rw [show p = _ from List.mem_singleton.1 hp]
        exact extractDestIp_setBytes _ (Nat.le_trans h.fixed (validateChecksumOffload_ge hvalid))

theorem extractDestIp_plainPackets {offload : Option VirtioNetHdr}
    (h : ∀ o, offload = some o → BehindIp o ip) {p : Bytes} (hp : p ∈ plainPackets offload ip) :
    extractDestIp p = extractDestIp ip := by
  cases offload with
  | none => rw [show p = ip from List.mem_singleton.1 hp]
  | some o => exact extractDestIp_materialized (h o rfl) hp

end

end EzVpn
