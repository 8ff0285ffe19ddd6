import EzVpn.Offload.SegmentSpec

/-!
# Completing a checksum

A packet whose checksum the kernel left to the device comes with a `GSO_NONE`, `NEEDS_CSUM`
header.  `completion_accepted_iff`: what `materialize_offload_into` makes of it is a packet
that receivers accept, except that a UDP packet may be given the checksum 0, which says
"no checksum" over IPv4 and is not allowed over IPv6.  The value for that sum is `0xffff`.
-/

namespace EzVpn

open Lib Bytes

def udpProtocol : UInt8 := 17

/-- A TCP or UDP packet whose checksum field, at an even offset of the transport header at
`csum_start`, holds the folded sum of the pseudo-header. -/
structure PartialChecksum (offload : VirtioNetHdr) (protocol : UInt8) (ip : Bytes) : Prop where
  transport : protocol = 6 ∨ protocol = udpProtocol
  version : byteAt ip 0 >>> 4 = 4 ∨ byteAt ip 0 >>> 4 = 6
  length : ip.length ≤ 65535
  gsoNone : offload.gsoType = virtioNetHdrGsoNone
  needsChecksum : offload.needsChecksum = true
  start : ipHeaderLenOf (isV6 ip) ≤ offload.csumStart.toNat
  even : offload.csumOffset.toNat % 2 = 0
  field : offload.csumStart.toNat + offload.csumOffset.toNat + 2 ≤ ip.length
  held : wordAt ip (offload.csumStart.toNat + offload.csumOffset.toNat) =
    onesSum (transportPseudoHeader protocol (isV6 ip) ip (ip.length - offload.csumStart.toNat))

/-- `out` is `ip` with a checksum that receivers accept. -/
structure AcceptedCompletion (offload : VirtioNetHdr) (protocol : UInt8) (ip out : Bytes) : Prop where
  same : SameExcept (fun i => i = offload.csumStart.toNat + offload.csumOffset.toNat ∨
    i = offload.csumStart.toNat + offload.csumOffset.toNat + 1) out ip
  verifies : Verifies (transportPseudoHeader protocol (isV6 ip) out (out.length - offload.csumStart.toNat) ++
    out.drop offload.csumStart.toNat)
  udp : protocol = udpProtocol → wordAt out (offload.csumStart.toNat + offload.csumOffset.toNat) ≠ 0

/-- The flags that the completion knows. -/
def KnownFlags (offload : VirtioNetHdr) : Prop :=
  offload.flags &&& ~~~(virtioNetHdrFNeedsCsum ||| virtioNetHdrFDataValid) = 0

/-- The packet with the complement of the sum of its segment in the checksum field. -/
def completed (offload : VirtioNetHdr) (ip : Bytes) : Bytes :=
  setBytes ip (offload.csumStart.toNat + offload.csumOffset.toNat)
    (toBe16 (finalizeChecksum (addBytes 0 (ip.drop offload.csumStart.toNat))))

section
variable {offload : VirtioNetHdr} {protocol : UInt8} {ip : Bytes} (h : PartialChecksum offload protocol ip)
include h

theorem PartialChecksum.empty : ¬ ip.isEmpty = true := by
  have hfield := h.field
  rw [List.isEmpty_iff]
  rintro rfl
  simp at hfield

/-- **What is handed out.**  One packet, if the flags are known. -/
theorem materializeOffloadInto_completed (hflags : KnownFlags offload) (scratch : Bytes) :
    materializeOffloadInto push offload ip scratch [] =
      (.ok (), completed offload ip, [completed offload ip]) := by
  unfold KnownFlags at hflags
  have hfield := h.field
  have hstart : ¬ offload.csumStart.toNat ≥ ip.length := by omega
  have hindex : ¬ offload.csumStart.toNat + offload.csumOffset.toNat + 2 > ip.length := by omega
  have hv : validateChecksumOffload offload ip =
      .ok (some (offload.csumStart.toNat, offload.csumStart.toNat + offload.csumOffset.toNat)) := by
    unfold validateChecksumOffload
    rw [if_neg (not_not.2 h.gsoNone), if_neg h.empty, h.needsChecksum]
    simp only [Bool.not_true, Bool.false_eq_true, if_false]
    rw [if_neg (not_not.2 hflags), if_neg hstart, if_neg hindex]
  unfold materializeOffloadInto
  rw [if_neg (not_isTcpGso h.gsoNone), if_neg (not_not.2 h.gsoNone), hv]
  rfl

theorem materializeOffloadInto_unknown (hflags : ¬ KnownFlags offload) (scratch : Bytes) :
    ∃ e, materializeOffloadInto push offload ip scratch [] = (.error e, scratch, []) := by
  unfold KnownFlags at hflags
  have hv : ∃ e, validateChecksumOffload offload ip = .error e := by
    unfold validateChecksumOffload
    rw [if_neg (not_not.2 h.gsoNone), if_neg h.empty, h.needsChecksum]
    simp only [Bool.not_true, Bool.false_eq_true, if_false]
    rw [if_pos hflags]
    exact ⟨_, rfl⟩
  obtain ⟨e, he⟩ := hv
  refine ⟨e, ?_⟩
  unfold materializeOffloadInto
  rw [if_neg (not_isTcpGso h.gsoNone), if_neg (not_not.2 h.gsoNone), he]

theorem completed_verifies : Verifies (transportPseudoHeader protocol (isV6 ip) (completed offload ip)
    ((completed offload ip).length - offload.csumStart.toNat) ++
      (completed offload ip).drop offload.csumStart.toNat) := by
  have hstart := h.start
  have hoffset : offload.csumOffset.toNat = 2 * (offload.csumOffset.toNat / 2) := by
    have := h.even
    omega
  have hfield := h.field
  have hheld := h.held
  rw [hoffset] at hfield hheld
  rw [completed, length_setBytes, hoffset]
  exact transport_complete _ h.length (by omega) hfield hheld rfl

/-- The checksum that is stored is 0 exactly if the segment as it came adds up to `0xffff`. -/
theorem wordAt_completed : wordAt (completed offload ip)
    (offload.csumStart.toNat + offload.csumOffset.toNat) = 0 ↔ Verifies (ip.drop offload.csumStart.toNat) := by
  have hsum : (addBytes 0 (ip.drop offload.csumStart.toNat)).toNat = wordSum (ip.drop offload.csumStart.toNat) := by
    have := h.length
    apply toNat_addBytes_zero
    rw [List.length_drop]
    omega
  rw [completed, wordAt_setBytes _ h.field, toNat_finalizeChecksum, hsum, Verifies, onesSum_eq]
  have := carry_le (wordSum (ip.drop offload.csumStart.toNat))
  omega

end

/-- **The completed packet is accepted by receivers if and only if** the header has no flag
that the completion does not know and, for UDP, the segment as it came does not add up to
`0xffff`. -/
theorem completion_accepted_iff (offload : VirtioNetHdr) (protocol : UInt8) (ip : Bytes)
    (h : PartialChecksum offload protocol ip) :
    (∃ scratch out, materializeOffloadInto push offload ip [] [] = (.ok (), scratch, [out]) ∧
      AcceptedCompletion offload protocol ip out) ↔
    KnownFlags offload ∧ (protocol = udpProtocol → ¬ Verifies (ip.drop offload.csumStart.toNat)) := by
  constructor
  · rintro ⟨scratch, out, hrun, hout⟩
    have hflags : KnownFlags offload := by
      by_contra hflags
      obtain ⟨e, he⟩ := materializeOffloadInto_unknown h hflags []
      rw [he] at hrun
      cases hrun
    rw [materializeOffloadInto_completed h hflags] at hrun
    obtain rfl : completed offload ip = out := by
      injection hrun with _ hrun
      injection hrun with _ hrun
      exact List.head_eq_of_cons_eq hrun
    exact ⟨hflags, fun hudp hver => hout.udp hudp ((wordAt_completed h).2 hver)⟩
  · rintro ⟨hflags, hudp⟩
    refine ⟨_, _, materializeOffloadInto_completed h hflags [], ?_, completed_verifies h, fun hp => ?_⟩
    · refine sameExcept_setBytes _ _ _ fun j h1 h2 => ?_
      simp only [toBe16, List.length_cons, List.length_nil] at h2
      omega
    · rw [ne_eq, wordAt_completed h]
      exact hudp hp

/-- A UDP packet over IPv6 with two bytes of payload. -/
def udpPacket (payload : Bytes) : Bytes :=
  [0x60, 0, 0, 0, 0, 10, 17, 64] ++
  [0xfd, 0, 0, 0, 0, 0, 0, 0, 0, 0, 0, 0, 0, 0, 0, 1] ++
  [0xfd, 0, 0, 0, 0, 0, 0, 0, 0, 0, 0, 0, 0, 0, 0, 2] ++
  [0x10, 0, 0, 53, 0, 10, 0xfa, 0x1f] ++ payload

def udpHdr : VirtioNetHdr := ⟨1, 0, 0, 0, 40, 6, 0⟩

theorem partialChecksum_udpPacket {payload : Bytes} (h : payload = [0xf5, 0xa0] ∨ payload = [0, 1]) :
    PartialChecksum udpHdr udpProtocol (udpPacket payload) := by
  rcases h with rfl | rfl
  · constructor <;> decide +kernel
  · constructor <;> decide +kernel

/-- **A UDP packet comes out without a checksum.** -/
theorem completion_stores_zero :
    PartialChecksum udpHdr udpProtocol (udpPacket [0xf5, 0xa0]) ∧ KnownFlags udpHdr ∧
    ∃ out, materializeOffloadInto push udpHdr (udpPacket [0xf5, 0xa0]) [] [] = (.ok (), out, [out]) ∧
      wordAt out 46 = 0 ∧ ¬ AcceptedCompletion udpHdr udpProtocol (udpPacket [0xf5, 0xa0]) out := by
  refine ⟨partialChecksum_udpPacket (Or.inl rfl), rfl, setBytes (udpPacket [0xf5, 0xa0]) 46 [0, 0], by decide +kernel,
    rfl, fun h => h.udp rfl rfl⟩

theorem completion_accepted_udp :
    ∃ scratch out, materializeOffloadInto push udpHdr (udpPacket [0, 1]) [] [] = (.ok (), scratch, [out]) ∧
      AcceptedCompletion udpHdr udpProtocol (udpPacket [0, 1]) out :=
  (completion_accepted_iff _ _ _ (partialChecksum_udpPacket (Or.inr rfl))).2 ⟨rfl, fun _ => by decide +kernel⟩

end EzVpn
