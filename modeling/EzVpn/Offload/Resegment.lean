import Mathlib.Algebra.Order.Group.Nat
import Mathlib.Algebra.Order.BigOperators.Group.List
import EzVpn.Offload.Groups
import EzVpn.Offload.SegmentSpec

/-!
# Assembling and segmenting a run

`assemble_ok`: the super-frame of a run is the header of its head, with length and
checksum fields rewritten, and the payloads.  `segment_run`: segmenting it gives one
packet for each member, and `Rebuilt` says what that packet is.
-/

namespace EzVpn

open Lib Bytes

/-! ## The payloads of a run -/

section
variable {m : TcpSegmentMeta} {head : Bytes}

theorem Members.get (hps : List Bytes) : ∀ (k : Nat), Members m head k hps →
    ∀ j (hj : j < hps.length), ∃ mp, Member m head (k + j) hps[j] mp := by
  induction hps with
  | nil => intro k _ j hj; cases hj
  | cons p ps ih =>
    intro k h j hj
    cases j with
    | zero =>
      obtain ⟨mp, hmp, -, -⟩ := h.1
      exact ⟨mp, hmp⟩
    | succ j =>
      have := ih (k + 1) h.2 j (by simpa using hj)
      rwa [show k + (j + 1) = k + 1 + j by omega]

/-- The payloads have one size, but for the last. -/
theorem Members.uniform (hm : Segment head m) (ps : List Bytes) : ∀ (k : Nat), Members m head k ps →
    Uniform m.payloadLen (ps.map (·.drop m.headerLen)) := by
  induction ps with
  | nil => intro k _; exact trivial
  | cons p ps ih =>
    intro k h
    obtain ⟨⟨mp, hmp, hle, hfull⟩, hrest⟩ := h
    have hpay : (p.drop m.headerLen).length = mp.payloadLen := by
      rw [List.length_drop, hmp.segment.length, hmp.headerLen hm, Nat.add_sub_cancel_left]
    cases ps with
    | nil => exact ⟨hpay ▸ hmp.segment.payload_pos, hpay ▸ hle⟩
    | cons q qs => exact ⟨hpay.trans (hfull (List.cons_ne_nil _ _)), ih (k + 1) hrest⟩

theorem Members.totalPayload (hm : Segment head m) (ps : List Bytes) : ∀ (k : Nat),
    Members m head k ps → EzVpn.totalPayload m.headerLen ps = .ok (payloadSum m ps) := by
  induction ps with
  | nil => intro k _; rfl
  | cons p ps ih =>
    intro k h
    obtain ⟨⟨mp, hmp, -, -⟩, hrest⟩ := h
    have hlong : ¬ p.length ≤ m.headerLen := by
      have := hmp.segment.payload_pos
      rw [hmp.segment.length, hmp.headerLen hm]
      omega
    rw [EzVpn.totalPayload, if_neg hlong, ih (k + 1) hrest]
    rfl

/-- The payloads, one after the other. -/
def payloads (m : TcpSegmentMeta) (ps : List Bytes) : Bytes := ps.flatMap (·.drop m.headerLen)

theorem length_payloads (ps : List Bytes) : (payloads m ps).length = payloadSum m ps := by
  simp [payloads, List.length_flatMap, payloadSum]

theorem payloads_eq (ps : List Bytes) :
    payloads m ps = (ps.map (·.drop m.headerLen)).flatten := List.flatMap_def

/-! ## The super-frame -/

/-- The header bytes that the assembler rewrites. -/
def Rewritten (m : TcpSegmentMeta) (i : Nat) : Prop :=
  LengthField m.isIpv6 i ∨ i = m.ipHeaderLen + 16 ∨ i = m.ipHeaderLen + 17

theorem Segment.headerLen_ge (hm : Segment head m) : m.ipHeaderLen + 20 ≤ m.headerLen :=
  Nat.add_le_add_left hm.tcp_ge _

theorem Segment.ipHeaderLenOf (hm : Segment head m) : m.ipHeaderLen = ipHeaderLenOf m.isIpv6 :=
  hm.ipHeaderLen

theorem Segment.isV6_eq (hm : Segment head m) : isV6 head = m.isIpv6 := by
  unfold isV6
  cases h6 : m.isIpv6
  · rw [(hm.v4 h6).1]; rfl
  · rw [(hm.v6 h6).1]; rfl

theorem Segment.headerLen_lt (hm : Segment head m) : m.headerLen < head.length := by
  have := hm.payload_pos
  rw [hm.length]
  omega

section
variable (hm : Segment head m)
include hm

/-- The fields the assembler rewrites lie in the header. -/
theorem Rewritten.lt {i : Nat} (h : Rewritten m i) : i < m.headerLen := by
  have hge := hm.headerLen_ge
  rcases h with h | h | h
  · have := h.bounds.1
    rw [← hm.ipHeaderLenOf] at this
    omega
  · omega
  · omega

theorem Segment.not_rewritten_ip {i : Nat} (hi : i = 0 ∨ i = 9) : ¬ Rewritten m i := by
  have h20 := ipHeaderLenOf_ge m.isIpv6
  rw [← hm.ipHeaderLenOf] at h20
  rintro (h | h | h)
  · have := h.bounds; omega
  · omega
  · omega

/-- Of the TCP header the assembler rewrites the checksum only. -/
theorem Segment.not_rewritten_tcp {k : Nat} (hk : k < 16) : ¬ Rewritten m (m.ipHeaderLen + k) := by
  rintro (h | h | h)
  · have := h.bounds.1
    rw [← hm.ipHeaderLenOf] at this
    omega
  · omega
  · omega

end

/-- A byte of the head's header, in front of a payload. -/
theorem byteAt_header {c : Bytes} {i : Nat} (hm : Segment head m) (hi : i < m.headerLen) :
    byteAt (head.take m.headerLen ++ c) i = byteAt head i :=
  byteAt_take_append (Nat.le_of_lt hm.headerLen_lt) hi

theorem length_header_append (hm : Segment head m) (c : Bytes) :
    (head.take m.headerLen ++ c).length = m.headerLen + c.length :=
  length_take_append (Nat.le_of_lt hm.headerLen_lt)

/-- A header that the planner parsed can be given the length of its packet. -/
theorem Segment.writable (hm : Segment head m) {c : Bytes} (hlen : m.headerLen + c.length ≤ 65535) :
    Writable m.isIpv6 (head.take m.headerLen ++ c) (m.headerLen + c.length) := by
  have hge := hm.headerLen_ge
  have hip := hm.ipHeaderLen
  unfold Writable
  rw [length_header_append hm]
  cases h6 : m.isIpv6
  · have h0 := (hm.v4 h6).1
    have h9 := (hm.v4 h6).2.1
    simp only [h6, Bool.false_eq_true, if_false] at hip ⊢
    rw [Ipv4Writable, length_header_append hm, ihlOf, byteAt_header hm (by omega),
      byteAt_header hm (by omega), h0]
    refine ⟨by omega, h9, by decide, ?_, hlen⟩
    show 20 ≤ _
    omega
  · simp only [h6, if_true] at hip ⊢
    omega

/-- The fields of a super-frame that depend on its length: the length itself, the header
checksum and, where the TCP checksum belongs, the folded sum of the pseudo-header. -/
structure PartialFields (isIpv6 : Bool) (t : Nat) (ip : Bytes) : Prop where
  stated : statedLength isIpv6 ip = ip.length
  ipChecksum : isIpv6 = false → HeaderChecksum ip
  tcpChecksum : wordAt ip (t + 16) = onesSum (pseudoHeader isIpv6 ip (ip.length - t))

/-- The assembler's last step: the folded sum of the pseudo-header in the TCP checksum field. -/
def withPartialSum (m : TcpSegmentMeta) (q : Bytes) (tcpLen : Nat) : Bytes :=
  setBytes (setBytes q (m.ipHeaderLen + 16) [0, 0]) (m.ipHeaderLen + 16)
    (toBe16 (tcpPseudoHeaderPartial (setBytes q (m.ipHeaderLen + 16) [0, 0]) m.isIpv6 tcpLen))

theorem sameExcept_withPartialSum (q : Bytes) (tcpLen : Nat) :
    SameExcept (fun i => i = m.ipHeaderLen + 16 ∨ i = m.ipHeaderLen + 17) (withPartialSum m q tcpLen) q :=
  sameExcept_checksum q (m.ipHeaderLen + 16) _

/-- It completes the fields of a frame whose lengths are written. -/
theorem partialFields_withPartialSum (hip : m.ipHeaderLen = ipHeaderLenOf m.isIpv6) {q : Bytes} {tcpLen : Nat}
    (hstated : statedLength m.isIpv6 q = q.length)
    (hck : m.isIpv6 = false → HeaderChecksum q ∧ ihlOf q = 20) (hlen : q.length = m.ipHeaderLen + tcpLen)
    (htcp : 20 ≤ tcpLen) (hfits : tcpLen ≤ 65535) :
    PartialFields m.isIpv6 m.ipHeaderLen (withPartialSum m q tcpLen) := by
  have hsame := sameExcept_withPartialSum (m := m) q tcpLen
  have h20 := ipHeaderLenOf_ge m.isIpv6
  rw [← hip] at h20
  refine ⟨?_, fun h4 => ?_, ?_⟩
  · rw [hsame.1, ← hstated]
    exact statedLength_congr _ fun i _ _ => hsame.2 i (by omega)
  · have hip4 : m.ipHeaderLen = 20 := by rw [hip, h4]; rfl
    exact (hck h4).1.congr hsame.1 (n := 20) (fun i hi => hsame.2 i (by omega)) (Nat.le_refl _)
      (Nat.le_of_eq (hck h4).2)
  · have hif : (if m.isIpv6 then 40 else 20) ≤ m.ipHeaderLen := Nat.le_of_eq hip.symm
    rw [hsame.1, hlen, Nat.add_sub_cancel_left, withPartialSum, wordAt_setBytes _ (by rw [length_setBytes]; omega),
      toNat_tcpPseudoHeaderPartial (by rw [length_setBytes]; omega) (by omega)]
    congr 1
    exact (congrFun (transportPseudoHeader_setBytes _ (by omega)) _).symm

theorem assemble_eq {rest : List Bytes} (hrun : Run m head rest) {q : Bytes}
    (hq : updateLengths (ipVersion m.isIpv6) (head.take m.headerLen ++ payloads m (head :: rest))
      (m.headerLen + payloadSum m (head :: rest)) = .ok q) :
    assembleTcpGsoSuperframe (head :: rest) = .ok ((superframeHdr m).toBytes ++
      withPartialSum m q (m.tcpHeaderLen + payloadSum m (head :: rest))) := by
  have hm := segment_of_parse hrun.parse
  have h2 : ¬ (head :: rest).length < 2 := by
    have := List.length_pos_of_ne_nil hrun.two
    rw [List.length_cons]
    omega
  unfold assembleTcpGsoSuperframe
  rw [if_neg h2]
  simp only [List.headD_cons, hrun.parse, Members.totalPayload hm _ 0 hrun.members, bind, Except.bind,
    if_neg (Nat.not_lt.2 hrun.fits)]
  rw [show (head :: rest).flatMap (fun p => p.drop m.headerLen) = payloads m (head :: rest) from rfl]
  cases h6 : m.isIpv6 with
  | false =>
    rw [h6] at hq
    rw [if_neg Bool.false_ne_true, show updateIpv4LengthsAndChecksum _ _ = .ok q from hq, withPartialSum, h6]
  | true =>
    rw [h6] at hq
    rw [if_pos rfl, show updateIpv6PayloadLength _ _ = .ok q from hq, withPartialSum, h6]

/-- **The super-frame of a run.** -/
theorem assemble_ok {rest : List Bytes} (hrun : Run m head rest) :
    ∃ ip, assembleTcpGsoSuperframe (head :: rest) = .ok ((superframeHdr m).toBytes ++ ip) ∧
      SameExcept (Rewritten m) ip (head.take m.headerLen ++ payloads m (head :: rest)) ∧
      PartialFields m.isIpv6 m.ipHeaderLen ip := by
  have hm := segment_of_parse hrun.parse
  have hge := hm.headerLen_ge
  have hfits := hrun.fits
  have hlen := length_header_append hm (payloads m (head :: rest))
  obtain ⟨q, hq, hsame, hstated, hck⟩ := updateLengths_ok m.isIpv6
    (head.take m.headerLen ++ payloads m (head :: rest)) _ (hm.writable (by rw [length_payloads]; exact hfits))
  rw [length_payloads] at hq hstated hlen
  have hqlen : q.length = m.headerLen + payloadSum m (head :: rest) := by rw [hsame.1, hlen]
  refine ⟨_, assemble_eq hrun hq, ?_, ?_⟩
  · exact ((sameExcept_withPartialSum q _).mono fun i hi => Or.inr hi).trans
      (hsame.mono fun i hi => Or.inl hi)
  · unfold TcpSegmentMeta.headerLen at hqlen hfits hge
    refine partialFields_withPartialSum hm.ipHeaderLenOf (hstated.trans hqlen.symm) (fun h4 => ?_) ?_ ?_ ?_
    · refine ⟨(hck h4).1, ?_⟩
      unfold ihlOf
      rw [hsame.2 0 (fun h => h.bounds.2.1 rfl), byteAt_header hm (by unfold TcpSegmentMeta.headerLen; omega),
        (hm.v4 h4).1]
      rfl
    all_goals omega

theorem normalizedGsoType_superframeHdr : (superframeHdr m).normalizedGsoType =
    if m.isIpv6 then virtioNetHdrGsoTcpv6 else virtioNetHdrGsoTcpv4 := by
  show (if m.isIpv6 then virtioNetHdrGsoTcpv6 else virtioNetHdrGsoTcpv4) &&& ~~~virtioNetHdrGsoEcn = _
  cases m.isIpv6 <;> decide

theorem Segment.isTcpGso_superframeHdr (hm : Segment head m) (hpay : m.payloadLen < 65536) :
    (superframeHdr m).isTcpGso = true := by
  have hsize : (superframeHdr m).gsoSize ≠ 0 := by
    intro h0
    have := congrArg UInt16.toNat h0
    rw [superframeHdr, UInt16.toNat_ofNat', Nat.mod_eq_of_lt hpay] at this
    exact Nat.ne_of_gt hm.payload_pos this
  unfold VirtioNetHdr.isTcpGso
  rw [normalizedGsoType_superframeHdr]
  cases m.isIpv6 <;> simpa using hsize

section
variable {ip payload : Bytes} (hm : Segment head m)
  (hip : SameExcept (Rewritten m) ip (head.take m.headerLen ++ payload))
include hm hip

/-- The assembler leaves the payload alone. -/
theorem drop_superframe : ip.drop m.headerLen = payload := by
  have hlt := hm.headerLen_lt
  rw [hip.drop_eq fun i hi => hi.lt hm]
  exact List.drop_left' (by rw [List.length_take]; omega)

theorem byteAt_superframe {i : Nat} (hi : i < m.headerLen) (hnot : ¬ Rewritten m i) :
    byteAt ip i = byteAt head i := by
  rw [hip.2 i hnot, byteAt_header hm hi]

theorem header_superframe (c : Bytes) :
    SameExcept (Rewritten m) (ip.take m.headerLen ++ c) (head.take m.headerLen ++ c) := by
  have hlen := length_header_append hm payload
  have hlt := hm.headerLen_lt
  have h1 : (ip.take m.headerLen).length = m.headerLen := by
    rw [List.length_take, hip.1, hlen]; omega
  have h2 : (head.take m.headerLen).length = m.headerLen := by rw [List.length_take]; omega
  refine ⟨by rw [List.length_append, List.length_append, h1, h2], fun i hi => ?_⟩
  by_cases hlt : i < m.headerLen
  · rw [byteAt_append_left (by omega), byteAt_take hlt, byteAt_header hm hlt,
      byteAt_superframe hm hip hlt hi]
  · rw [byteAt_append_right (by omega), byteAt_append_right (by omega), h1, h2]

theorem byteAt_superframe_tcp {k : Nat} (hk : k < 16) :
    byteAt ip (m.ipHeaderLen + k) = byteAt head (m.ipHeaderLen + k) :=
  byteAt_superframe hm hip (by have := hm.headerLen_ge; omega) (hm.not_rewritten_tcp hk)

end

/-! ## One segment -/

/-- The header bytes that the segmenter rewrites. -/
def Renumbered (m : TcpSegmentMeta) (i : Nat) : Prop :=
  Rewritten m i ∨ m.ipHeaderLen + 4 ≤ i ∧ i < m.ipHeaderLen + 8 ∨ i = m.ipHeaderLen + 13

/-- What the packet `out` is that carries the chunk `c`, which starts at `offset` of the
payload. -/
structure Rebuilt (m : TcpSegmentMeta) (head c : Bytes) (offset : Nat) (last : Bool) (out : Bytes) :
    Prop where
  same : SameExcept (Renumbered m) out (head.take m.headerLen ++ c)
  seq : ∀ k < 4, byteAt out (m.ipHeaderLen + 4 + k) =
    byteAt (toBe32 (m.seq + UInt32.ofNat offset)) k
  flags : byteAt out (m.ipHeaderLen + 13) = if last then byteAt head (m.ipHeaderLen + 13)
    else byteAt head (m.ipHeaderLen + 13) &&& ~~~(0x01 ||| 0x08)
  stated : statedLength m.isIpv6 out = out.length
  ipChecksum : m.isIpv6 = false → Verifies (out.take 20)
  tcpChecksum : TcpVerifies m.isIpv6 m.ipHeaderLen out

section
variable {ip payload : Bytes} (hm : Segment head m)
  (hip : SameExcept (Rewritten m) ip (head.take m.headerLen ++ payload))
include hm hip

theorem byteAt_superframe_zero : byteAt ip 0 = byteAt head 0 :=
  byteAt_superframe hm hip (by have := hm.headerLen_ge; omega) (hm.not_rewritten_ip (Or.inl rfl))

theorem isV6_superframe : isV6 ip = m.isIpv6 := by
  rw [← hm.isV6_eq, isV6, isV6, byteAt_superframe_zero hm hip]

theorem ihlOf_superframe (h4 : m.isIpv6 = false) : ihlOf ip = 20 := by
  rw [ihlOf, byteAt_superframe_zero hm hip, (hm.v4 h4).1]
  rfl

theorem ipHeaderLen_superframe : ipHeaderLen ip = m.ipHeaderLen := by
  rw [ipHeaderLen, isV6_superframe hm hip, hm.ipHeaderLen]
  cases h6 : m.isIpv6
  · exact ihlOf_superframe hm hip h6
  · rfl

theorem segmentFits_superframe {n : Nat} (hn : n ≤ 65535) : SegmentFits ip n := by
  have hge := hm.headerLen_ge
  unfold SegmentFits
  rw [isV6_superframe hm hip]
  split
  · omega
  · next h6 =>
    have h4 : m.isIpv6 = false := by simpa using h6
    have h9 := byteAt_superframe hm hip (i := 9) (by omega) (hm.not_rewritten_ip (Or.inr rfl))
    exact ⟨by rw [h9, (hm.v4 h4).2.1], Nat.le_of_eq (ihlOf_superframe hm hip h4).symm, hn⟩

theorem seqAt_superframe : seqAt m.ipHeaderLen ip = m.seq := by
  rw [seqAt, hm.seq, byteAt_superframe_tcp hm hip (show 4 < 16 by omega),
    byteAt_superframe_tcp hm hip (show 5 < 16 by omega), byteAt_superframe_tcp hm hip (show 6 < 16 by omega),
    byteAt_superframe_tcp hm hip (show 7 < 16 by omega)]

/-- A segment of the super-frame, in terms of the head. -/
theorem SegmentOf.rebuilt {c out : Bytes} {offset : Nat} {last : Bool}
    (hs : SegmentOf ip m.ipHeaderLen m.headerLen c offset last out) : Rebuilt m head c offset last out := by
  have h6 := isV6_superframe hm hip
  refine ⟨?_, ?_, ?_, ?_, ?_, ?_⟩
  · refine SameExcept.trans (hs.same.mono fun i hi => ?_)
      ((header_superframe hm hip c).mono fun i hi => Or.inl hi)
    rw [h6] at hi
    rcases hi with h | h | h | h
    · exact Or.inl (Or.inl h)
    · exact Or.inr (Or.inl h)
    · exact Or.inr (Or.inr h)
    · exact Or.inl (Or.inr h)
  · rw [← seqAt_superframe hm hip]
    exact hs.seq
  · rw [hs.flags, byteAt_superframe_tcp hm hip (show 13 < 16 by omega)]
  · rw [← h6]
    exact hs.stated
  · intro h4
    rw [← ihlOf_superframe hm hip h4]
    exact hs.ipChecksum (h6.trans h4)
  · rw [← h6]
    exact hs.tcpChecksum

theorem gsoLayout_superframe (hpay : m.payloadLen < 65536) : gsoLayout (superframeHdr m) ip =
    .ok ⟨ipVersion m.isIpv6, m.ipHeaderLen, m.headerLen⟩ := by
  have hge := hm.tcp_ge
  have hcsum : (superframeHdr m).csumStart.toNat = m.ipHeaderLen := by
    rw [superframeHdr, hm.ipHeaderLen, UInt16.toNat_ofNat']
    cases m.isIpv6 <;> rfl
  have htcp : tcpHeaderLenAt m.ipHeaderLen ip = m.tcpHeaderLen := by
    rw [tcpHeaderLenAt, byteAt_superframe_tcp hm hip (by omega), ← hm.tcpHeaderLen]
  have hlen : m.ipHeaderLen + m.tcpHeaderLen ≤ ip.length := by
    rw [hip.1, length_header_append hm]
    exact Nat.le_add_right _ _
  have hversion : byteAt ip 0 >>> 4 = ipVersion m.isIpv6 := by
    rw [byteAt_superframe_zero hm hip]
    cases h6 : m.isIpv6
    · rw [(hm.v4 h6).1]; rfl
    · exact (hm.v6 h6).1
  have hneeds : (superframeHdr m).needsChecksum = true := by
    show ((virtioNetHdrFNeedsCsum &&& virtioNetHdrFNeedsCsum) != 0) = true
    decide
  have h := gsoLayout_eq (hm.isTcpGso_superframeHdr hpay) hversion normalizedGsoType_superframeHdr hneeds
    (by rw [hcsum, htcp]; exact hge) (by rw [hcsum, htcp]; exact hlen)
  rwa [hcsum, htcp] at h

end

/-! ## The whole run -/

section
variable {rest : List Bytes} (hrun : Run m head rest)
include hrun

theorem Run.payload_le : m.payloadLen ≤ payloadSum m (head :: rest) := by
  have hm := segment_of_parse hrun.parse
  rw [payloadSum, List.map_cons, List.sum_cons, hm.length, Nat.add_sub_cancel_left]
  exact Nat.le_add_right _ _

theorem Run.uniform : Uniform m.payloadLen ((head :: rest).map (·.drop m.headerLen)) :=
  Members.uniform (segment_of_parse hrun.parse) _ 0 hrun.members

theorem Run.count : chunkCount m.payloadLen (payloads m (head :: rest)).length = (head :: rest).length := by
  have h := Uniform.count_flatten hrun.uniform
  rw [← List.map_cons, ← payloads_eq, List.length_map] at h
  exact h

/-- The chunks are the payloads of the members. -/
theorem Run.chunk {j : Nat} (hj : j < (head :: rest).length) :
    chunk m.payloadLen (payloads m (head :: rest)) j = (head :: rest)[j].drop m.headerLen := by
  have h := hrun.uniform.take_drop_flatten (j := j) (by rw [List.length_map]; exact hj)
  rwa [List.getElem_map, ← payloads_eq] at h

/-- There is more than one chunk. -/
theorem Run.payload_lt : m.payloadLen < (payloads m (head :: rest)).length := by
  have h := hrun.uniform.lt_length_flatten_iff (j := 0) (by simp)
  rw [← payloads_eq, List.length_map, Nat.zero_mul, Nat.zero_add] at h
  exact h.2 (by have := List.length_pos_of_ne_nil hrun.two; rw [List.length_cons]; omega)

end

/-- **Segmenting the super-frame of a run** gives one packet for each member. -/
theorem segment_run {rest : List Bytes} (hrun : Run m head rest) {ip : Bytes}
    (hip : SameExcept (Rewritten m) ip (head.take m.headerLen ++ payloads m (head :: rest))) :
    ∃ segs, segmentTcpGsoPacket (superframeHdr m) ip = .ok segs ∧
      segs.length = (head :: rest).length ∧
      ∀ j (hj : j < (head :: rest).length) (hj' : j < segs.length),
        Rebuilt m head ((head :: rest)[j].drop m.headerLen) (j * m.payloadLen)
          (decide (j + 1 = (head :: rest).length)) segs[j] := by
  have hm := segment_of_parse hrun.parse
  have hfits := hrun.fits
  have hle := hrun.payload_le
  have hgso : (superframeHdr m).gsoSize.toNat = m.payloadLen := by
    rw [superframeHdr, UInt16.toNat_ofNat', Nat.mod_eq_of_lt (by omega)]
  obtain ⟨segs, hsegs, hcount, hall⟩ := segmentTcpGsoPacket_many (superframeHdr m) ip
    (gsoLayout_superframe hm hip (by omega)) hgso (drop_superframe hm hip)
    (Nat.le_of_eq (ipHeaderLen_superframe hm hip)) hrun.payload_lt (by rw [length_payloads]; omega)
    (segmentFits_superframe hm hip (show m.headerLen + m.payloadLen ≤ 65535 by omega))
  have hlength := hcount.trans hrun.count
  refine ⟨segs, hsegs, hlength, fun j hj hj' => ?_⟩
  have hof := hall j hj'
  rw [hrun.chunk hj, hlength] at hof
  exact hof.rebuilt hm hip

end

end EzVpn
