import Mathlib.Data.List.Forall2
import EzVpn.Offload.Resegment

/-!
# Coalesced writes deliver the same packets

A batch that is planned, coalesced and segmented again comes out as the packets that went
in (`coalescing_delivers`), up to the bytes that `MayDiffer` lists.  The segmenter stands
for the kernel that segments the super-frames.
-/

namespace EzVpn

open Lib Bytes

/-! ## Delivery -/

/-- The packets `batch[start..end]` of a group. -/
def members (batch : List Bytes) (g : Nat × Nat × Bool) : List Bytes :=
  (batch.drop g.1).take (g.2.1 - g.1)

/-- Write a group as a super-frame, and segment what arrives. -/
def resegmentGroup (ms : List Bytes) : Except String (List Bytes) :=
  match assembleTcpGsoSuperframe ms with
  | .error e => .error e
  | .ok frame =>
    match splitTunFrame frame true with
    | .error e => .error e
    | .ok (none, ipPacket) => .ok [ipPacket]
    | .ok (some offload, ipPacket) => segmentTcpGsoPacket offload ipPacket

def deliverGroup (batch : List Bytes) (g : Nat × Nat × Bool) : Except String (List Bytes) :=
  if g.2.2 then resegmentGroup (members batch g) else .ok (members batch g)

def deliverGroups (batch : List Bytes) : List (Nat × Nat × Bool) → Except String (List Bytes)
  | [] => .ok []
  | g :: gs => do
    let out ← deliverGroup batch g
    let outs ← deliverGroups batch gs
    pure (out ++ outs)

/-- What a batch comes to: the planned groups, each coalesced or passed through. -/
def deliver (batch : List Bytes) : Except String (List Bytes) :=
  deliverGroups batch (planTunWriteGroups batch)

/-! ## What may differ -/

/-- The offset of the TCP header, without options or extension headers. -/
def tcpOffsetOf (packet : Bytes) : Nat := ipHeaderLenOf (isV6 packet)

/-- The bytes of a coalesced member that may change: IPv4 identification, fragment field
and header checksum; of the TCP header the data-offset byte, the flags, the checksum and
the urgent pointer. -/
def MayDiffer (packet : Bytes) (i : Nat) : Prop :=
  (isV6 packet = false ∧ (4 ≤ i ∧ i < 8 ∨ i = 10 ∨ i = 11)) ∨
  i = tcpOffsetOf packet + 12 ∨ i = tcpOffsetOf packet + 13 ∨
  tcpOffsetOf packet + 16 ≤ i ∧ i < tcpOffsetOf packet + 20

/-- `out` is what `orig` comes to in a coalesced group. -/
structure Resegmented (orig out : Bytes) : Prop where
  /-- everything else is equal: length, payload, sequence and acknowledgement number,
  addresses, ports, window, options, TTL, traffic class -/
  same : SameExcept (MayDiffer orig) out orig
  /-- of the data-offset byte only the reserved nibble may change -/
  dataOffset : byteAt out (tcpOffsetOf orig + 12) >>> 4 = byteAt orig (tcpOffsetOf orig + 12) >>> 4
  length : statedLength (isV6 orig) out = out.length
  ipChecksum : isV6 orig = false → Verifies (out.take 20)
  tcpChecksum : TcpVerifies (isV6 orig) (tcpOffsetOf orig) out

/-! ## One member -/

section
variable {m mp : TcpSegmentMeta} {head orig out : Bytes} {k : Nat} {last : Bool}

theorem Segment.tcpOffset_eq {p : Bytes} (h : Segment p mp) : tcpOffsetOf p = mp.ipHeaderLen := by
  rw [tcpOffsetOf, h.isV6_eq, h.ipHeaderLen]
  rfl

theorem Segment.stated {p : Bytes} (h : Segment p mp) : statedLength mp.isIpv6 p = p.length := by
  have hlt := h.headerLen_lt
  have hge := h.headerLen_ge
  have hip := h.ipHeaderLen
  cases h6 : mp.isIpv6
  · exact (h.v4 h6).2.2
  · rw [h6, if_pos rfl] at hip
    simp only [statedLength, if_true, (h.v6 h6).2.2]
    omega

/-- The head's header agrees with a member's outside what may differ, the sequence number
and the length. -/
theorem Member.byteAt_head (hm : Segment head m) (hmem : Member m head k orig mp) {i : Nat}
    (hH : i < m.headerLen) (hi : ¬ MayDiffer orig i) (hlen : ¬ LengthField m.isIpv6 i)
    (hseq : ¬ (m.ipHeaderLen + 4 ≤ i ∧ i < m.ipHeaderLen + 8)) : byteAt head i = byteAt orig i := by
  have hseg := hmem.segment
  have h6 := hmem.isIpv6
  have hip := hm.ipHeaderLen
  rw [MayDiffer, hseg.isV6_eq, hseg.tcpOffset_eq, h6, hmem.ipHeaderLen hm] at hi
  unfold TcpSegmentMeta.headerLen at hH
  by_cases hkept : Kept m i
  · exact hmem.kept i hkept
  · -- left are version, header length and protocol, which were checked
    unfold Kept at hkept
    unfold LengthField at hlen
    cases hv : m.isIpv6
    · rw [hv] at h6 hi
      simp only [hv, Bool.false_eq_true, if_false, false_and, true_and, false_or] at hip hlen hkept hi
      have : i = 0 ∨ i = 9 := by omega
      rcases this with rfl | rfl
      · rw [(hm.v4 hv).1, (hseg.v4 h6).1]
      · rw [(hm.v4 hv).2.1, (hseg.v4 h6).2.1]
    · rw [hv] at h6 hi
      simp only [hv, if_true, true_and, Bool.true_eq_false, false_and, false_or] at hip hlen hkept hi
      have : i = 6 := by omega
      subst this
      rw [(hm.v6 hv).2.1, (hseg.v6 h6).2.1]

section
variable (hm : Segment head m) (hmem : Member m head k orig mp)
  (h : Rebuilt m head (orig.drop m.headerLen) (k * m.payloadLen) last out)
include hm hmem h

theorem Rebuilt.length_eq : out.length = orig.length := by
  have hlt := hmem.segment.headerLen_lt
  rw [hmem.headerLen hm] at hlt
  rw [h.same.1, length_header_append hm, List.length_drop]
  omega

/-- The sequence number is the member's. -/
theorem Rebuilt.seq_eq {i : Nat} (hi : m.ipHeaderLen + 4 ≤ i ∧ i < m.ipHeaderLen + 8) :
    byteAt out i = byteAt orig i := by
  have hs := h.seq (i - (m.ipHeaderLen + 4)) (by omega)
  have hseq : mp.seq = seqAt m.ipHeaderLen orig := by
    rw [hmem.segment.seq, hmem.ipHeaderLen hm]
    rfl
  rw [← hmem.seq, hseq, byteAt_toBe32_seqAt (by omega), Nat.add_sub_cancel' hi.1] at hs
  exact hs

/-- The length field is the member's, as both state the length they have. -/
theorem Rebuilt.lengthField_eq {i : Nat} (hlen : LengthField m.isIpv6 i) (hi : ¬ MayDiffer orig i) :
    byteAt out i = byteAt orig i := by
  have hst : statedLength m.isIpv6 out = statedLength m.isIpv6 orig := by
    rw [h.stated, h.length_eq hm hmem, ← hmem.isIpv6, hmem.segment.stated]
  have h4 : ¬ (m.isIpv6 = false ∧ (4 ≤ i ∧ i < 8 ∨ i = 10 ∨ i = 11)) := by
    rw [← hmem.isIpv6, ← hmem.segment.isV6_eq]
    exact fun h => hi (Or.inl h)
  unfold LengthField at hlen
  unfold statedLength at hst
  cases h6 : m.isIpv6
  · simp only [h6, Bool.false_eq_true, if_false] at hlen hst
    obtain ⟨e1, e2⟩ := be16_inj hst
    rcases hlen with rfl | rfl | rfl | rfl
    · exact e1
    · exact e2
    · exact absurd ⟨h6, Or.inr (Or.inl rfl)⟩ h4
    · exact absurd ⟨h6, Or.inr (Or.inr rfl)⟩ h4
  · simp only [h6, if_true] at hlen hst
    obtain ⟨e1, e2⟩ := be16_inj (Nat.add_left_cancel hst)
    rcases hlen with rfl | rfl
    · exact e1
    · exact e2

/-- **The bytes of a rebuilt packet are those of the member it stands for.** -/
theorem Rebuilt.byteAt_eq {i : Nat} (hi : ¬ MayDiffer orig i) : byteAt out i = byteAt orig i := by
  have hge := hm.headerLen_ge
  have hlt := hm.headerLen_lt
  have hnot : ∀ j ∈ [13, 16, 17], i ≠ m.ipHeaderLen + j := by
    intro j hj hij
    apply hi
    rw [MayDiffer, hmem.segment.tcpOffset_eq, hmem.ipHeaderLen hm]
    simp only [List.mem_cons, List.not_mem_nil, or_false] at hj
    omega
  by_cases hH : i < m.headerLen
  · by_cases hseq : m.ipHeaderLen + 4 ≤ i ∧ i < m.ipHeaderLen + 8
    · exact h.seq_eq hm hmem hseq
    · by_cases hlen : LengthField m.isIpv6 i
      · exact h.lengthField_eq hm hmem hlen hi
      · rw [h.same.2 i, byteAt_header hm hH, hmem.byteAt_head hm hH hi hlen hseq]
        rintro ((h | h | h) | h | h)
        · exact hlen h
        · exact hnot 16 (by simp) h
        · exact hnot 17 (by simp) h
        · exact hseq h
        · exact hnot 13 (by simp) h
  · -- the payload
    have hhead : (head.take m.headerLen).length = m.headerLen := by rw [List.length_take]; omega
    rw [h.same.2 i, byteAt_append_right (by omega), hhead, byteAt_drop, Nat.add_sub_cancel' (by omega)]
    rintro (h | h | h)
    · exact hH (h.lt hm)
    · omega
    · omega

theorem Rebuilt.resegmented : Resegmented orig out := by
  have hseg := hmem.segment
  have hip := hmem.ipHeaderLen hm
  have hge := hm.headerLen_ge
  refine ⟨⟨h.length_eq hm hmem, fun i hi => h.byteAt_eq hm hmem hi⟩, ?_, ?_, ?_, ?_⟩
  · -- the head and the member have TCP headers of one length
    have hcopy : byteAt out (m.ipHeaderLen + 12) = byteAt head (m.ipHeaderLen + 12) := by
      rw [h.same.2 _, byteAt_header hm (by omega)]
      rintro (h | h | h)
      · exact hm.not_rewritten_tcp (by omega) h
      · omega
      · omega
    rw [hseg.tcpOffset_eq, hip, hcopy]
    have := hmem.tcpHeaderLen
    rw [hseg.tcpHeaderLen, hm.tcpHeaderLen, hip] at this
    exact UInt8.toNat_inj.1 (by omega)
  · rw [hseg.isV6_eq, hmem.isIpv6]; exact h.stated
  · rw [hseg.isV6_eq, hmem.isIpv6]; exact h.ipChecksum
  · rw [hseg.isV6_eq, hseg.tcpOffset_eq, hip, hmem.isIpv6]; exact h.tcpChecksum

end

end

/-! ## Groups -/

/-- A run goes through assembler, splitter and segmenter without an error. -/
theorem resegment_run {m : TcpSegmentMeta} {head : Bytes} {rest : List Bytes} (hrun : Run m head rest) :
    ∃ frame ip segs, assembleTcpGsoSuperframe (head :: rest) = .ok frame ∧
      splitTunFrame frame true = .ok (some (superframeHdr m), ip) ∧
      (superframeHdr m).isTcpGso = true ∧ segmentTcpGsoPacket (superframeHdr m) ip = .ok segs ∧
      segs.length = (head :: rest).length ∧
      ∀ j (hj : j < (head :: rest).length) (hj' : j < segs.length),
        Rebuilt m head ((head :: rest)[j].drop m.headerLen) (j * m.payloadLen)
          (decide (j + 1 = (head :: rest).length)) segs[j] := by
  have hm := segment_of_parse hrun.parse
  have hle := hrun.payload_le
  have hfits := hrun.fits
  obtain ⟨ip, hasm, hip, -⟩ := assemble_ok hrun
  obtain ⟨segs, hsegs, hlen, hreb⟩ := segment_run hrun hip
  have hgso := hm.isTcpGso_superframeHdr (by omega)
  have hne : ip ≠ [] := by
    intro h0
    have hiplen := hip.1
    rw [h0, length_header_append hm, List.length_nil] at hiplen
    have := hm.headerLen_ge
    omega
  exact ⟨_, ip, segs, hasm, splitTunFrame_toBytes hgso rfl hne, hgso, hsegs, hlen, hreb⟩

theorem Run.member {m : TcpSegmentMeta} {head : Bytes} {rest : List Bytes} (hrun : Run m head rest)
    {j : Nat} (hj : j < (head :: rest).length) : ∃ mp, Member m head j (head :: rest)[j] mp := by
  have h := Members.get _ 0 hrun.members j hj
  rwa [Nat.zero_add] at h

/-- The groups follow one another from `i` to `n`; a group is coalesced if it has more
than one packet. -/
def Consecutive : Nat → List (Nat × Nat × Bool) → Nat → Prop
  | i, [], n => i = n
  | i, (start, stop, coalesce) :: gs, n =>
    start = i ∧ start < stop ∧ (coalesce = true ↔ start + 1 < stop) ∧ Consecutive stop gs n

theorem Tiles.consecutive {i : Nat} {ps : List Bytes} {gs : List (Nat × Nat × Bool)}
    (h : Tiles i ps gs) : Consecutive i gs (i + ps.length) := by
  induction h with
  | nil => rfl
  | @single i p rest gs _ ih =>
    refine ⟨rfl, by omega, by simp, ?_⟩
    rw [List.length_cons, show i + (rest.length + 1) = i + 1 + rest.length by omega]
    exact ih
  | @run i m p ps rest gs hrun _ ih =>
    have := List.length_pos_of_ne_nil hrun.two
    refine ⟨rfl, by omega, by simp; omega, ?_⟩
    rw [List.length_cons, List.length_append,
      show i + (ps.length + rest.length + 1) = i + 1 + ps.length + rest.length by omega]
    exact ih

section
variable {batch : List Bytes}

theorem members_run {i : Nat} {p : Bytes} {ps rest : List Bytes} (h : batch.drop i = p :: (ps ++ rest)) :
    members batch (i, i + 1 + ps.length, true) = p :: ps ∧
      batch.drop (i + 1 + ps.length) = rest := by
  constructor
  · unfold members
    simp only []
    rw [h, show i + 1 + ps.length - i = ps.length + 1 by omega, List.take_succ_cons, List.take_left' rfl]
  · rw [Nat.add_assoc, ← List.drop_drop, h, Nat.add_comm 1, List.drop_succ_cons, List.drop_left' rfl]

theorem members_single {i : Nat} {p : Bytes} {rest : List Bytes} (h : batch.drop i = p :: rest) :
    members batch (i, i + 1, false) = [p] ∧ batch.drop (i + 1) = rest := by
  constructor
  · unfold members
    simp only []
    rw [h, Nat.add_sub_cancel_left, List.take_succ_cons, List.take_zero]
  · rw [← List.drop_drop, h, List.drop_succ_cons, List.drop_zero]

/-- A coalesced group is a run. -/
theorem Tiles.run_of_mem {i : Nat} {ps : List Bytes} {gs : List (Nat × Nat × Bool)} (h : Tiles i ps gs)
    (hps : batch.drop i = ps) {g : Nat × Nat × Bool} (hg : g ∈ gs) (hc : g.2.2 = true) :
    ∃ m head rest, Run m head rest ∧ members batch g = head :: rest := by
  induction h with
  | nil => cases hg
  | @single i p rest gs _ ih =>
    rcases List.mem_cons.1 hg with rfl | hg
    · cases hc
    · exact ih (members_single hps).2 hg
  | @run i m p ps rest gs hrun _ ih =>
    rcases List.mem_cons.1 hg with rfl | hg
    · exact ⟨m, p, ps, hrun, (members_run hps).1⟩
    · exact ih (members_run hps).2 hg

/-- The groups are delivered one by one, if runs are and single packets pass through. -/
theorem Tiles.deliver {R : Bytes → Bytes → Prop} (hsame : ∀ p, R p p)
    (hrun : ∀ {m head rest}, Run m head rest →
      ∃ segs, resegmentGroup (head :: rest) = .ok segs ∧ List.Forall₂ R (head :: rest) segs)
    {i : Nat} {ps : List Bytes} {gs : List (Nat × Nat × Bool)} (h : Tiles i ps gs)
    (hps : batch.drop i = ps) : ∃ out, deliverGroups batch gs = .ok out ∧ List.Forall₂ R ps out := by
  induction h with
  | nil => exact ⟨[], rfl, .nil⟩
  | @single i p rest gs _ ih =>
    obtain ⟨hmem, hrest⟩ := members_single hps
    obtain ⟨out, hout, hall⟩ := ih hrest
    refine ⟨p :: out, ?_, .cons (hsame p) hall⟩
    rw [deliverGroups, deliverGroup, if_neg (by simp), hmem, hout]
    rfl
  | @run i m p ps rest gs hr _ ih =>
    obtain ⟨hmem, hrest⟩ := members_run hps
    obtain ⟨out, hout, hall⟩ := ih hrest
    obtain ⟨segs, hsegs, hseg⟩ := hrun hr
    refine ⟨segs ++ out, ?_, ?_⟩
    · rw [deliverGroups, deliverGroup, if_pos rfl, hmem, hsegs, hout]
      rfl
    · exact List.rel_append hseg hall

end

/-- What a run comes to, in one step. -/
theorem resegmentGroup_run {m : TcpSegmentMeta} {head : Bytes} {rest : List Bytes}
    (hrun : Run m head rest) : ∃ segs, resegmentGroup (head :: rest) = .ok segs ∧
      segs.length = (head :: rest).length ∧
      ∀ j (hj : j < (head :: rest).length) (hj' : j < segs.length),
        Rebuilt m head ((head :: rest)[j].drop m.headerLen) (j * m.payloadLen)
          (decide (j + 1 = (head :: rest).length)) segs[j] := by
  obtain ⟨frame, ip, segs, hasm, hsplit, -, hsegs, hlen, hreb⟩ := resegment_run hrun
  refine ⟨segs, ?_, hlen, hreb⟩
  rw [resegmentGroup, hasm]
  simp only [hsplit, hsegs]

theorem Run.resegmented {m : TcpSegmentMeta} {head : Bytes} {rest segs : List Bytes}
    (hrun : Run m head rest) (hlen : segs.length = (head :: rest).length)
    (hreb : ∀ j (hj : j < (head :: rest).length) (hj' : j < segs.length),
      Rebuilt m head ((head :: rest)[j].drop m.headerLen) (j * m.payloadLen)
        (decide (j + 1 = (head :: rest).length)) segs[j]) :
    List.Forall₂ Resegmented (head :: rest) segs := by
  refine List.forall₂_iff_get.2 ⟨hlen.symm, fun j hj hj' => ?_⟩
  obtain ⟨mp, hmem⟩ := hrun.member hj
  exact (hreb j hj hj').resegmented (segment_of_parse hrun.parse) hmem

/-- **Coalesced writes deliver the packets of the batch**, as many and in order.

The groups partition the batch.  Every coalesced group is assembled without an error into
a frame that splits into a TCP GSO header and a packet, and the packet is segmented into
one packet for each member.  A delivered packet is the packet of the batch at its place,
or what it comes to in a coalesced group. -/
theorem coalescing_delivers (batch : List Bytes) :
    Consecutive 0 (planTunWriteGroups batch) batch.length ∧
    (∀ g ∈ planTunWriteGroups batch, g.2.2 = true → ∃ frame offload ipPacket segs,
      assembleTcpGsoSuperframe (members batch g) = .ok frame ∧
      splitTunFrame frame true = .ok (some offload, ipPacket) ∧ offload.isTcpGso = true ∧
      segmentTcpGsoPacket offload ipPacket = .ok segs ∧
      List.Forall₂ Resegmented (members batch g) segs) ∧
    ∃ out, deliver batch = .ok out ∧
      List.Forall₂ (fun orig d => d = orig ∨ Resegmented orig d) batch out := by
  have htiles := plan_tiles batch
  refine ⟨by simpa using htiles.consecutive, fun g hg hc => ?_, ?_⟩
  · obtain ⟨m, head, rest, hrun, hmem⟩ := htiles.run_of_mem List.drop_zero hg hc
    obtain ⟨frame, ip, segs, hasm, hsplit, hgso, hsegs, hlen, hreb⟩ := resegment_run hrun
    rw [hmem]
    exact ⟨frame, _, ip, segs, hasm, hsplit, hgso, hsegs, hrun.resegmented hlen hreb⟩
  · refine htiles.deliver (fun p => Or.inl rfl) (fun hrun => ?_) List.drop_zero
    obtain ⟨segs, hsegs, hlen, hreb⟩ := resegmentGroup_run hrun
    exact ⟨segs, hsegs, (hrun.resegmented hlen hreb).imp fun _ _ h => Or.inr h⟩

end EzVpn
