import EzVpn.Offload.Roundtrip

/-!
# Flags and checksums of coalesced packets

The super-frame has one TCP header, the head's, and the checksums of the members are not
looked at.  So coalescing is not transparent to the rest of the header:

* `coalescing_keeps_flags_iff`: PSH, ACK, ECE, CWR and the Don't-Fragment bit come through
  exactly when no member has PSH and the others agree.  `coalescing_drops_push` is a
  burst that ends with PSH.
* `coalescing_regenerates_checksums`: a coalesced packet is delivered with a right TCP
  checksum.  `coalescing_hides_corruption` is a burst with wrong ones.
-/

namespace EzVpn

open Lib Bytes

/-! ## Flags -/

/-- The TCP flags byte of a packet. -/
def tcpFlags (packet : Bytes) : UInt8 := byteAt packet (tcpOffsetOf packet + 13)

/-- PSH. -/
def pshBit : UInt8 := 0x08

/-- ACK, ECE, CWR. -/
def ackEcnBits : UInt8 := 0x10 ||| 0x40 ||| 0x80

/-- Don't Fragment, in byte 6 of an IPv4 header. -/
def dontFragment (packet : Bytes) : UInt8 := byteAt packet 6 &&& 0x40

/-- `out` carries the PSH, ACK, ECE and CWR flags of `orig` and, for IPv4, its
Don't-Fragment bit. -/
def KeepsFlags (orig out : Bytes) : Prop :=
  tcpFlags out &&& (pshBit ||| ackEcnBits) = tcpFlags orig &&& (pshBit ||| ackEcnBits) ∧
    (isV6 orig = false → dontFragment out = dontFragment orig)

/-- No member has PSH, and all agree with the first in the other flags. -/
def UniformFlags (ms : List Bytes) : Prop :=
  ∀ p ∈ ms, tcpFlags p &&& pshBit = 0 ∧ tcpFlags p &&& ackEcnBits = tcpFlags (ms.headD []) &&& ackEcnBits ∧
    (isV6 p = false → dontFragment p = dontFragment (ms.headD []))

instance (orig out : Bytes) : Decidable (KeepsFlags orig out) := inferInstanceAs (Decidable (_ ∧ _))

instance (ms : List Bytes) : Decidable (UniformFlags ms) :=
  inferInstanceAs (Decidable (∀ p ∈ ms, _ ∧ _))

/-- A fact about one byte, from all its values. -/
theorem byte_forall {P : UInt8 → Prop} (h : ∀ n : Fin 256, P (UInt8.ofBitVec ⟨n⟩)) (b : UInt8) : P b := by
  obtain ⟨⟨n, hn⟩⟩ := b
  exact h ⟨n, hn⟩

theorem and_flags (b : UInt8) :
    (b &&& (pshBit ||| ackEcnBits)) &&& pshBit = b &&& pshBit ∧
    (b &&& (pshBit ||| ackEcnBits)) &&& ackEcnBits = b &&& ackEcnBits ∧
    (b &&& pshBit) ||| (b &&& ackEcnBits) = b &&& (pshBit ||| ackEcnBits) ∧
    (b &&& ~~~(0x01 ||| 0x08)) &&& pshBit = 0 ∧
    (b &&& ~~~(0x01 ||| 0x08)) &&& ackEcnBits = b &&& ackEcnBits := by
  revert b
  exact byte_forall (by decide +kernel)

/-- The flags are two groups of bits. -/
theorem and_flags_eq_iff (a b : UInt8) :
    a &&& (pshBit ||| ackEcnBits) = b &&& (pshBit ||| ackEcnBits) ↔
      a &&& pshBit = b &&& pshBit ∧ a &&& ackEcnBits = b &&& ackEcnBits := by
  obtain ⟨ha1, ha2, ha3, -, -⟩ := and_flags a
  obtain ⟨hb1, hb2, hb3, -, -⟩ := and_flags b
  constructor
  · intro h
    rw [← ha1, ← ha2, h, hb1, hb2]
    exact ⟨rfl, rfl⟩
  · rintro ⟨h1, h2⟩
    rw [← ha3, ← hb3, h1, h2]

section
variable {m mp : TcpSegmentMeta} {head orig out : Bytes} {k : Nat} {last : Bool}
  (hm : Segment head m) (hmem : Member m head k orig mp)
  (h : Rebuilt m head (orig.drop m.headerLen) (k * m.payloadLen) last out)
include hm hmem h

theorem Rebuilt.isV6_eq : isV6 out = isV6 orig := by
  have hnot : ¬ MayDiffer orig 0 := by
    have := ipHeaderLenOf_ge (isV6 orig)
    unfold MayDiffer tcpOffsetOf
    omega
  unfold isV6
  rw [h.byteAt_eq hm hmem hnot]

theorem Rebuilt.tcpOffset_eq : tcpOffsetOf out = tcpOffsetOf orig := by
  unfold tcpOffsetOf
  rw [h.isV6_eq hm hmem]

/-- What the flags of a member have to be for them to come through. -/
theorem Rebuilt.keepsFlags_iff : KeepsFlags orig out ↔
    tcpFlags orig &&& pshBit = (if last then tcpFlags head &&& pshBit else 0) ∧
      tcpFlags orig &&& ackEcnBits = tcpFlags head &&& ackEcnBits ∧
      (isV6 orig = false → dontFragment orig = dontFragment head) := by
  have hflags : tcpFlags out = if last then tcpFlags head else tcpFlags head &&& ~~~(0x01 ||| 0x08) := by
    unfold tcpFlags
    rw [h.tcpOffset_eq hm hmem, hmem.segment.tcpOffset_eq, hmem.ipHeaderLen hm, hm.tcpOffset_eq]
    exact h.flags
  have hdf : isV6 orig = false → dontFragment out = dontFragment head := by
    intro h4
    have hip := hm.ipHeaderLen
    have hge := hm.headerLen_ge
    rw [hmem.segment.isV6_eq, hmem.isIpv6] at h4
    unfold dontFragment
    rw [h.same.2 6, byteAt_header hm (by omega)]
    simp only [Renumbered, Rewritten, LengthField, h4, Bool.false_eq_true, if_false] at hip ⊢
    omega
  obtain ⟨-, -, -, hclear, hkeep⟩ := and_flags (tcpFlags head)
  unfold KeepsFlags
  rw [and_flags_eq_iff, hflags, and_assoc]
  cases last
  · simp only [Bool.false_eq_true, if_false, hclear, hkeep]
    refine and_congr eq_comm (and_congr eq_comm (forall_congr' fun h4 => ?_))
    rw [hdf h4, eq_comm]
  · simp only [if_true]
    refine and_congr eq_comm (and_congr eq_comm (forall_congr' fun h4 => ?_))
    rw [hdf h4, eq_comm]

end

/-- **When coalescing preserves flags.**  A coalesced group is always delivered, and its
members carry their flags exactly when these are uniform. -/
theorem coalescing_keeps_flags_iff (batch : List Bytes) (g : Nat × Nat × Bool)
    (hg : g ∈ planTunWriteGroups batch) (hc : g.2.2 = true) :
    ∃ segs, resegmentGroup (members batch g) = .ok segs ∧
      (List.Forall₂ KeepsFlags (members batch g) segs ↔ UniformFlags (members batch g)) := by
  obtain ⟨m, head, rest, hrun, hmem⟩ := (plan_tiles batch).run_of_mem List.drop_zero hg hc
  obtain ⟨segs, hsegs, hlen, hreb⟩ := resegmentGroup_run hrun
  have hm := segment_of_parse hrun.parse
  have htwo := List.length_pos_of_ne_nil hrun.two
  rw [hmem]
  refine ⟨segs, hsegs, ?_⟩
  have hiff : ∀ j (hj : j < (head :: rest).length) (hj' : j < segs.length),
      KeepsFlags (head :: rest)[j] segs[j] ↔
        tcpFlags (head :: rest)[j] &&& pshBit =
          (if decide (j + 1 = (head :: rest).length) then tcpFlags head &&& pshBit else 0) ∧
        tcpFlags (head :: rest)[j] &&& ackEcnBits = tcpFlags head &&& ackEcnBits ∧
        (isV6 (head :: rest)[j] = false → dontFragment (head :: rest)[j] = dontFragment head) := by
    intro j hj hj'
    obtain ⟨mp, hmp⟩ := hrun.member hj
    exact (hreb j hj hj').keepsFlags_iff hm hmp
  rw [List.forall₂_iff_get]
  constructor
  · rintro ⟨-, hall⟩ p hp
    -- the head is not the last, so it has no PSH, and then neither has the last
    have hpsh : tcpFlags head &&& pshBit = 0 := by
      have := ((hiff 0 (by simp) (by rw [hlen]; simp)).1 (hall 0 (by simp) (by rw [hlen]; simp))).1
      simpa [show rest.length ≠ 0 by omega] using this
    obtain ⟨j, hj, rfl⟩ := List.getElem_of_mem hp
    obtain ⟨h1, h2, h3⟩ := (hiff j hj (by rw [hlen]; exact hj)).1 (hall j hj (by rw [hlen]; exact hj))
    refine ⟨?_, h2, h3⟩
    rw [h1, hpsh, ite_self]
  · intro huni
    refine ⟨hlen.symm, fun j hj hj' => (hiff j hj hj').2 ?_⟩
    have hhead : tcpFlags head &&& pshBit = 0 := (huni head List.mem_cons_self).1
    obtain ⟨h1, h2, h3⟩ := huni _ (List.getElem_mem hj)
    refine ⟨?_, h2, h3⟩
    rw [h1, hhead, ite_self]

/-- An IPv4 segment from 10.0.0.2 to 10.0.0.1, with Don't Fragment and one byte of payload. -/
def exampleSegment (seq flags : UInt8) (checksum : Bytes) (payload : UInt8) : Bytes :=
  [0x45, 0, 0, 41, 0, 0, 0x40, 0, 64, 6, 0x26, 0xcd, 10, 0, 0, 2, 10, 0, 0, 1,
    0x30, 0x39, 0x01, 0xbb, 0, 0, 0, seq, 0, 0, 0, 0, 0x50, flags, 0xff, 0xff] ++ checksum ++
    [0, 0, payload]

/-- A burst of two with ACK, the second with PSH. -/
def pushBurst : List Bytes :=
  [exampleSegment 0 0x10 [0x08, 0xdd] 0x61, exampleSegment 1 0x18 [0x07, 0xd4] 0x62]

/-- The same without PSH. -/
def ackBurst : List Bytes :=
  [exampleSegment 0 0x10 [0x08, 0xdd] 0x61, exampleSegment 1 0x10 [0x07, 0xdc] 0x62]

/-- **The PSH flag at the end of a burst is lost.** -/
theorem coalescing_drops_push :
    planTunWriteGroups pushBurst = [(0, 2, true)] ∧
    (∀ p ∈ pushBurst, TcpVerifies false 20 p) ∧
    ∃ first second, resegmentGroup (members pushBurst (0, 2, true)) = .ok [first, second] ∧
      tcpFlags (exampleSegment 1 0x18 [0x07, 0xd4] 0x62) = 0x18 ∧ tcpFlags second = 0x10 ∧
      ¬ List.Forall₂ KeepsFlags (members pushBurst (0, 2, true)) [first, second] := by
  refine ⟨by decide +kernel, by decide +kernel, exampleSegment 0 0x10 [0x08, 0xdd] 0x61,
    exampleSegment 1 0x10 [0x07, 0xdc] 0x62, by decide +kernel, by decide +kernel, by decide +kernel, ?_⟩
  decide +kernel

theorem coalescing_keeps_flags_ackBurst :
    (0, 2, true) ∈ planTunWriteGroups ackBurst ∧ UniformFlags (members ackBurst (0, 2, true)) ∧
    ∃ segs, resegmentGroup (members ackBurst (0, 2, true)) = .ok segs ∧
      List.Forall₂ KeepsFlags (members ackBurst (0, 2, true)) segs := by
  have hg : (0, 2, true) ∈ planTunWriteGroups ackBurst := by decide +kernel
  have huni : UniformFlags (members ackBurst (0, 2, true)) := by decide +kernel
  obtain ⟨segs, hsegs, hiff⟩ := coalescing_keeps_flags_iff ackBurst (0, 2, true) hg rfl
  exact ⟨hg, huni, segs, hsegs, hiff.2 huni⟩

/-! ## Checksums -/

/-- The TCP payload of a packet. -/
def tcpPayload (packet : Bytes) : Bytes :=
  packet.drop (tcpOffsetOf packet + (byteAt packet (tcpOffsetOf packet + 12) >>> 4).toNat * 4)

/-- The TCP checksum of a packet verifies over its pseudo-header and segment. -/
def ChecksumOk (packet : Bytes) : Prop := TcpVerifies (isV6 packet) (tcpOffsetOf packet) packet

instance (packet : Bytes) : Decidable (ChecksumOk packet) := inferInstanceAs (Decidable (TcpVerifies _ _ _))

theorem Rebuilt.checksumOk {m mp : TcpSegmentMeta} {head orig out : Bytes} {k : Nat} {last : Bool}
    (hm : Segment head m) (hmem : Member m head k orig mp)
    (h : Rebuilt m head (orig.drop m.headerLen) (k * m.payloadLen) last out) :
    ChecksumOk out ∧ tcpPayload out = tcpPayload orig := by
  have hre := h.resegmented hm hmem
  have hv := h.isV6_eq hm hmem
  have ht := h.tcpOffset_eq hm hmem
  constructor
  · unfold ChecksumOk
    rw [hv, ht]
    exact hre.tcpChecksum
  · unfold tcpPayload
    rw [ht, hre.dataOffset]
    apply ext_byteAt
    · rw [List.length_drop, List.length_drop, hre.same.1]
    · intro i _
      have hseg := hmem.segment
      have hge := hseg.tcp_ge
      rw [hseg.tcpHeaderLen, ← hseg.tcpOffset_eq] at hge
      rw [byteAt_drop, byteAt_drop, hre.same.2]
      unfold MayDiffer
      have := ipHeaderLenOf_ge (isV6 orig)
      unfold tcpOffsetOf at hge ⊢
      omega

/-- **What coalescing does to checksums.**  A group that is not coalesced is passed through
as it is.  In a coalesced group every member is delivered with the payload it had and a
TCP checksum that verifies, whether or not its own did. -/
theorem coalescing_regenerates_checksums (batch : List Bytes) (g : Nat × Nat × Bool)
    (hg : g ∈ planTunWriteGroups batch) :
    ∃ out, deliverGroup batch g = .ok out ∧ (g.2.2 = false → out = members batch g) ∧
      (g.2.2 = true → List.Forall₂ (fun orig d => ChecksumOk d ∧ tcpPayload d = tcpPayload orig)
        (members batch g) out) := by
  cases hc : g.2.2
  · refine ⟨members batch g, ?_, fun _ => rfl, (fun h => by cases h)⟩
    rw [deliverGroup, hc]
    rfl
  · obtain ⟨m, head, rest, hrun, hmem⟩ := (plan_tiles batch).run_of_mem List.drop_zero hg hc
    obtain ⟨segs, hsegs, hlen, hreb⟩ := resegmentGroup_run hrun
    refine ⟨segs, ?_, (fun h => by cases h), fun _ => ?_⟩
    · rw [deliverGroup, hc, hmem]
      exact hsegs
    · rw [hmem]
      refine List.forall₂_iff_get.2 ⟨hlen.symm, fun j hj hj' => ?_⟩
      obtain ⟨mp, hmp⟩ := hrun.member hj
      exact (hreb j hj hj').checksumOk (segment_of_parse hrun.parse) hmp

/-- A burst of two whose checksums are zero. -/
def corruptBurst : List Bytes :=
  [exampleSegment 0 0x10 [0, 0] 0x61, exampleSegment 1 0x10 [0, 0] 0x62]

/-- **Corrupted segments come out valid.** -/
theorem coalescing_hides_corruption :
    (∀ p ∈ corruptBurst, ¬ ChecksumOk p) ∧ deliver corruptBurst = .ok ackBurst ∧
    (∀ p ∈ ackBurst, ChecksumOk p) ∧ ackBurst.map tcpPayload = corruptBurst.map tcpPayload := by
  decide +kernel

theorem coalescing_regenerates_checksums_corruptBurst :
    (∀ p ∈ corruptBurst, ¬ ChecksumOk p) ∧ ∃ out, deliverGroup corruptBurst (0, 2, true) = .ok out ∧
      List.Forall₂ (fun orig d => ChecksumOk d ∧ tcpPayload d = tcpPayload orig)
        (members corruptBurst (0, 2, true)) out := by
  obtain ⟨out, hout, -, hall⟩ :=
    coalescing_regenerates_checksums corruptBurst (0, 2, true) (by decide +kernel)
  exact ⟨by decide +kernel, out, hout, hall rfl⟩

end EzVpn
