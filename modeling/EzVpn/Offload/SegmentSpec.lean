import EzVpn.Lib.Chunks
import EzVpn.Offload.Segment

/-!
# What the segmenter emits

`gsoLayout_ok` lists what the checks at the top of `segment_tcp_gso_into` establish, and
`buildSegment_ok` what one turn of its loop builds: `SegmentOf` relates a segment to the
packet it is cut from.  Everything that can make a turn fail is in `SegmentFits`, which gets
no harder from one turn to the next, so a packet is segmented completely or not at all
(`segments_ok`, `segments_error`).

`segmentation_correct` puts it together for packets whose TCP header lies behind the IP
header, with or without IP options and extension headers.
-/

namespace EzVpn

open Lib Bytes

/-! ## Fields by IP version -/

/-- A packet's own IP version. -/
def isV6 (packet : Bytes) : Bool := byteAt packet 0 >>> 4 == 6

def ipVersion (isIpv6 : Bool) : UInt8 := if isIpv6 then 6 else 4

def ipHeaderLenOf (isIpv6 : Bool) : Nat := if isIpv6 then 40 else 20

/-- The packet length that the IP header states. -/
def statedLength (isIpv6 : Bool) (packet : Bytes) : Nat :=
  if isIpv6 then 40 + (be16 (byteAt packet 4) (byteAt packet 5)).toNat
  else (be16 (byteAt packet 2) (byteAt packet 3)).toNat

/-- The bytes of the IP header that depend on the length of the packet. -/
def LengthField (isIpv6 : Bool) (i : Nat) : Prop :=
  if isIpv6 then i = 4 ∨ i = 5 else i = 2 ∨ i = 3 ∨ i = 10 ∨ i = 11

/-- The stated length is in the bytes 2 to 5. -/
theorem statedLength_congr {p q : Bytes} (isIpv6 : Bool) (h : ∀ i, 2 ≤ i → i < 6 → byteAt p i = byteAt q i) :
    statedLength isIpv6 p = statedLength isIpv6 q := by
  unfold statedLength
  rw [h 2 (by omega) (by omega), h 3 (by omega) (by omega), h 4 (by omega) (by omega), h 5 (by omega) (by omega)]

theorem ipHeaderLenOf_ge (isIpv6 : Bool) : 20 ≤ ipHeaderLenOf isIpv6 := by
  cases isIpv6 <;> decide

/-- The length fields lie in the IP header, behind its first byte, and IPv4's protocol
field is not among them. -/
theorem LengthField.bounds {isIpv6 : Bool} {i : Nat} (h : LengthField isIpv6 i) :
    i < ipHeaderLenOf isIpv6 ∧ i ≠ 0 ∧ i ≠ 9 := by
  unfold LengthField at h
  unfold ipHeaderLenOf
  split at h
  · next h6 => rw [if_pos h6]; omega
  · next h4 => rw [if_neg h4]; omega

/-- The length fields of a packet can be rewritten for the length `n`. -/
def Writable (isIpv6 : Bool) (packet : Bytes) (n : Nat) : Prop :=
  if isIpv6 then 40 ≤ packet.length ∧ 40 ≤ n ∧ n - 40 ≤ 65535 else Ipv4Writable packet n

theorem updateLengths_ok (isIpv6 : Bool) (packet : Bytes) (n : Nat) (h : Writable isIpv6 packet n) :
    ∃ q, updateLengths (ipVersion isIpv6) packet n = .ok q ∧
      SameExcept (LengthField isIpv6) q packet ∧ statedLength isIpv6 q = n ∧
      (isIpv6 = false → HeaderChecksum q ∧ Verifies (q.take (ihlOf packet))) := by
  cases isIpv6
  · obtain ⟨q, hq, hsame, hstated, hver⟩ := updateIpv4LengthsAndChecksum_ok h
    exact ⟨q, hq, hsame, hstated, fun _ => hver⟩
  · obtain ⟨hlen, hn, hn'⟩ := h
    obtain ⟨q, hq, hsame, hstated⟩ := updateIpv6PayloadLength_ok hlen hn hn'
    refine ⟨q, hq, hsame, ?_, fun h => by cases h⟩
    simp only [statedLength, if_true, hstated]
    omega

theorem updateLengths_error (isIpv6 : Bool) (packet : Bytes) (n : Nat) (h : ¬ Writable isIpv6 packet n) :
    ∃ e, updateLengths (ipVersion isIpv6) packet n = .error e := by
  cases isIpv6
  · exact updateIpv4LengthsAndChecksum_error h
  · show ∃ e, updateIpv6PayloadLength packet n = .error e
    unfold updateIpv6PayloadLength
    split
    · exact ⟨_, rfl⟩
    · split
      · exact ⟨_, rfl⟩
      · split
        · exact ⟨_, rfl⟩
        · exact absurd ⟨by omega, by omega, by omega⟩ h

theorem tcpChecksum_ok (isIpv6 : Bool) (packet : Bytes) (tcpOffset : Nat)
    (hip : ipHeaderLenOf isIpv6 ≤ packet.length) (ht : tcpOffset < packet.length)
    (hlen : packet.length - tcpOffset ≤ 65535) :
    ∃ c, tcpChecksum (ipVersion isIpv6) packet tcpOffset = .ok c ∧
      IsTcpChecksum isIpv6 packet tcpOffset c := by
  cases isIpv6
  · exact tcpChecksumIpv4_ok hip ht hlen
  · exact tcpChecksumIpv6_ok hip ht hlen

/-- A checksum is cleared, then written. -/
theorem sameExcept_checksum (b : Bytes) (i : Nat) (checksum : UInt16) :
    SameExcept (fun j => j = i ∨ j = i + 1) (setBytes (setBytes b i [0, 0]) i (toBe16 checksum)) b := by
  refine (sameExcept_setBytes _ _ _ ?_).trans (sameExcept_setBytes _ _ _ ?_) <;>
  · intro j h1 h2
    simp only [toBe16, List.length_cons, List.length_nil] at h2
    omega

/-! ## The layout of a super-frame -/

/-- The length of a packet's IP header, with options. -/
def ipHeaderLen (packet : Bytes) : Nat := if isV6 packet then 40 else ihlOf packet

/-- Where the TCP header of a super-frame is: at `csum_start` with `NEEDS_CSUM`, else behind
the IP header. -/
def tcpOffset (offload : VirtioNetHdr) (packet : Bytes) : Nat :=
  if offload.needsChecksum then offload.csumStart.toNat else ipHeaderLen packet

/-- The length of the TCP header at `t`. -/
def tcpHeaderLenAt (t : Nat) (packet : Bytes) : Nat := (byteAt packet (t + 12) >>> 4).toNat * 4

/-- The length of all headers of a super-frame. -/
def gsoHeaderLen (offload : VirtioNetHdr) (packet : Bytes) : Nat :=
  tcpOffset offload packet + tcpHeaderLenAt (tcpOffset offload packet) packet

/-- The sequence number of the TCP header at `t`. -/
def seqAt (t : Nat) (packet : Bytes) : UInt32 :=
  be32 (byteAt packet (t + 4)) (byteAt packet (t + 5)) (byteAt packet (t + 6)) (byteAt packet (t + 7))

theorem toBe32_be32 (a b c d : UInt8) : toBe32 (be32 a b c d) = [a, b, c, d] := by
  have := a.toNat_lt
  have := b.toNat_lt
  have := c.toNat_lt
  have := d.toNat_lt
  have hn : (be32 a b c d).toNat = ((a.toNat * 256 + b.toNat) * 256 + c.toNat) * 256 + d.toNat := by
    rw [be32, UInt32.toNat_ofNat']
    simp only [beNat, List.foldl_cons, List.foldl_nil]
    omega
  unfold toBe32
  rw [hn]
  congr 1
  · exact UInt8.toNat_inj.1 (by rw [UInt8.toNat_ofNat']; omega)
  congr 1
  · exact UInt8.toNat_inj.1 (by rw [UInt8.toNat_ofNat']; omega)
  congr 1
  · exact UInt8.toNat_inj.1 (by rw [UInt8.toNat_ofNat']; omega)
  congr 1
  exact UInt8.toNat_inj.1 (by rw [UInt8.toNat_ofNat']; omega)

/-- The bytes of the sequence number. -/
theorem byteAt_toBe32_seqAt {t : Nat} {packet : Bytes} {k : Nat} (hk : k < 4) :
    byteAt (toBe32 (seqAt t packet)) k = byteAt packet (t + 4 + k) := by
  rw [seqAt, toBe32_be32]
  have : k = 0 ∨ k = 1 ∨ k = 2 ∨ k = 3 := by omega
  rcases this with rfl | rfl | rfl | rfl <;> rfl

/-- What the segmenter has checked before it emits anything. -/
structure LayoutOf (offload : VirtioNetHdr) (ip : Bytes) (l : GsoLayout) : Prop where
  gso : offload.isTcpGso = true
  version : l.version = ipVersion (isV6 ip)
  tcpOffset : l.tcpOffset = tcpOffset offload ip
  headerLen : l.headerLen = l.tcpOffset + tcpHeaderLenAt l.tcpOffset ip
  ge : l.tcpOffset + 20 ≤ l.headerLen
  le : l.headerLen ≤ ip.length

theorem LayoutOf.gsoSize_pos {offload : VirtioNetHdr} {ip : Bytes} {l : GsoLayout}
    (hl : LayoutOf offload ip l) : 0 < offload.gsoSize.toNat := by
  have hgso := hl.gso
  simp only [VirtioNetHdr.isTcpGso, Bool.and_eq_true, bne_iff_ne] at hgso
  rw [Nat.pos_iff_ne_zero]
  intro h0
  exact hgso.2 (UInt16.toNat_inj.1 h0)

theorem ipHeaderLenForTcp_ok {ip : Bytes} {n : Nat} {isIpv6 : Bool} (h6 : isV6 ip = isIpv6)
    (h : ipHeaderLenForTcp ip (ipVersion isIpv6) = .ok n) : n = ipHeaderLen ip := by
  unfold ipHeaderLenForTcp at h
  rw [ipHeaderLen, h6]
  cases isIpv6
  · rw [if_pos (show ipVersion false = 4 from rfl)] at h
    dsimp only at h
    split at h
    · cases h
    · exact (Except.ok.inj h).symm
  · rw [if_neg (show ipVersion true ≠ 4 by decide), if_pos (show ipVersion true = 6 from rfl)] at h
    split at h
    · cases h
    · exact (Except.ok.inj h).symm

theorem ipVersion_isV6 {ip : Bytes} (h : byteAt ip 0 >>> 4 = 4 ∨ byteAt ip 0 >>> 4 = 6) :
    byteAt ip 0 >>> 4 = ipVersion (isV6 ip) := by
  unfold isV6
  rcases h with h | h <;> rw [h] <;> rfl

/-- The checks on the TCP header, at `t`. -/
theorem tcpLayout_ok {ip : Bytes} {t : Nat} {version : UInt8} {l : GsoLayout} {e1 e2 : String}
    (h : (if t + 20 > ip.length then .error e1
      else if tcpHeaderLenAt t ip < 20 ∨ t + tcpHeaderLenAt t ip > ip.length then .error e2
      else (.ok ⟨version, t, t + tcpHeaderLenAt t ip⟩ : Except String GsoLayout)) = .ok l) :
    l = ⟨version, t, t + tcpHeaderLenAt t ip⟩ ∧ 20 ≤ tcpHeaderLenAt t ip ∧
      t + tcpHeaderLenAt t ip ≤ ip.length := by
  split at h
  · cases h
  · split at h
    · cases h
    · next hlen => exact ⟨(Except.ok.inj h).symm, by omega, by omega⟩

/-- **The checks at the top.** -/
theorem gsoLayout_ok {offload : VirtioNetHdr} {ip : Bytes} {l : GsoLayout}
    (h : gsoLayout offload ip = .ok l) : LayoutOf offload ip l := by
  unfold gsoLayout at h
  split at h
  · cases h
  · next hgso =>
    have hgso' : offload.isTcpGso = true := by simpa using hgso
    split at h
    · cases h
    · dsimp only at h
      split at h
      · cases h
      · next hversion =>
        split at h
        · cases h
        · have hv : byteAt ip 0 >>> 4 = ipVersion (isV6 ip) := ipVersion_isV6 (by
            by_cases h4 : byteAt ip 0 >>> 4 = 4
            · exact Or.inl h4
            · exact Or.inr (not_not.1 fun h6 => hversion ⟨h4, h6⟩))
          rw [hv] at h
          have hlayout : ∀ t, t = tcpOffset offload ip →
              l = ⟨ipVersion (isV6 ip), t, t + tcpHeaderLenAt t ip⟩ ∧ 20 ≤ tcpHeaderLenAt t ip ∧
                t + tcpHeaderLenAt t ip ≤ ip.length → LayoutOf offload ip l := by
            rintro t ht ⟨rfl, hge, hle⟩
            exact ⟨hgso', rfl, ht, rfl, Nat.add_le_add_left hge t, hle⟩
          split at h
          · next hneeds => exact hlayout _ (by rw [tcpOffset, if_pos hneeds]) (tcpLayout_ok h)
          · next hneeds =>
            cases ht : ipHeaderLenForTcp ip (ipVersion (isV6 ip)) with
            | error e => rw [ht] at h; cases h
            | ok t =>
              rw [ht] at h
              refine hlayout t ?_ (tcpLayout_ok h)
              rw [tcpOffset, if_neg hneeds, ipHeaderLenForTcp_ok rfl ht]

theorem gsoLayout_eq {offload : VirtioNetHdr} {ip : Bytes} {isIpv6 : Bool} (hgso : offload.isTcpGso = true)
    (hversion : byteAt ip 0 >>> 4 = ipVersion isIpv6)
    (htype : offload.normalizedGsoType = if isIpv6 then virtioNetHdrGsoTcpv6 else virtioNetHdrGsoTcpv4)
    (hneeds : offload.needsChecksum = true) (hge : 20 ≤ tcpHeaderLenAt offload.csumStart.toNat ip)
    (hle : offload.csumStart.toNat + tcpHeaderLenAt offload.csumStart.toNat ip ≤ ip.length) :
    gsoLayout offload ip = .ok ⟨ipVersion isIpv6, offload.csumStart.toNat,
      offload.csumStart.toNat + tcpHeaderLenAt offload.csumStart.toNat ip⟩ := by
  have hempty : ¬ ip.isEmpty = true := by
    rw [List.isEmpty_iff]
    rintro rfl
    rw [List.length_nil] at hle
    omega
  unfold gsoLayout
  unfold tcpHeaderLenAt at hge hle ⊢
  simp only [hgso, Bool.not_true, Bool.false_eq_true, if_false, if_neg hempty, hversion, htype, hneeds,
    if_true, bind, Except.bind]
  rw [if_neg, if_neg, if_neg (by omega), if_neg (by omega)]
  · cases isIpv6 <;> decide
  · cases isIpv6 <;> decide

/-! ## One segment -/

/-- The header bytes that the segmenter rewrites: length fields, sequence number, flags and
checksums. -/
def Changed (isIpv6 : Bool) (t i : Nat) : Prop :=
  LengthField isIpv6 i ∨ (t + 4 ≤ i ∧ i < t + 8) ∨ i = t + 13 ∨ i = t + 16 ∨ i = t + 17

/-- The packet `out` carries the chunk `c`, which starts at `offset` of the payload of `ip`.
The TCP header is at `t` and the payload at `h`. -/
structure SegmentOf (ip : Bytes) (t h : Nat) (c : Bytes) (offset : Nat) (last : Bool) (out : Bytes) :
    Prop where
  same : SameExcept (Changed (isV6 ip) t) out (ip.take h ++ c)
  seq : ∀ k < 4, byteAt out (t + 4 + k) = byteAt (toBe32 (seqAt t ip + UInt32.ofNat offset)) k
  flags : byteAt out (t + 13) =
    if last then byteAt ip (t + 13) else byteAt ip (t + 13) &&& ~~~(0x01 ||| 0x08)
  stated : statedLength (isV6 ip) out = out.length
  ipChecksum : isV6 ip = false → Verifies (out.take (ihlOf ip))
  tcpChecksum : TcpVerifies (isV6 ip) t out

/-- Sequence number and flags, written into the packet of a segment. -/
def numbered (ip : Bytes) (t offset : Nat) (last : Bool) (s : Bytes) : Bytes :=
  let s := setBytes s (t + 4) (toBe32 (seqAt t ip + UInt32.ofNat offset))
  if last then s else s.set (t + 13) (byteAt ip (t + 13) &&& ~~~(0x01 ||| 0x08))

/-- What the IP header of `ip` has to be, for segments of length `n`. -/
def SegmentFits (ip : Bytes) (n : Nat) : Prop :=
  if isV6 ip then n ≤ 65535 + 40 else byteAt ip 9 = 6 ∧ 20 ≤ ihlOf ip ∧ n ≤ 65535

instance (ip : Bytes) (n : Nat) : Decidable (SegmentFits ip n) :=
  inferInstanceAs (Decidable (if isV6 ip then n ≤ 65535 + 40 else byteAt ip 9 = 6 ∧ 20 ≤ ihlOf ip ∧ n ≤ 65535))

/-- The IP header is in front of the TCP header, whose length the pseudo-header can hold. -/
theorem SegmentFits.bounds {ip : Bytes} {n t : Nat} (h : SegmentFits ip n) (ht : ipHeaderLen ip ≤ t) :
    ipHeaderLenOf (isV6 ip) ≤ t ∧ n - t ≤ 65535 ∧ (isV6 ip = false → ihlOf ip ≤ t) := by
  unfold SegmentFits at h
  unfold ipHeaderLen at ht
  unfold ipHeaderLenOf
  cases h6 : isV6 ip
  · simp only [h6, Bool.false_eq_true, if_false] at h ht ⊢
    omega
  · simp only [h6, if_true] at h ht ⊢
    exact ⟨ht, by omega, fun h4 => by cases h4⟩

theorem SegmentFits.mono {ip : Bytes} {n n' : Nat} (h : SegmentFits ip n) (hle : n' ≤ n) :
    SegmentFits ip n' := by
  unfold SegmentFits at h ⊢
  split
  · next h6 => rw [if_pos h6] at h; omega
  · next h6 => rw [if_neg h6] at h; exact ⟨h.1, h.2.1, by omega⟩

section
variable {ip c : Bytes} {t h : Nat} (hge : t + 20 ≤ h) (hle : h ≤ ip.length)
include hge hle

omit hge in
theorem length_take_append : (ip.take h ++ c).length = h + c.length := by
  rw [List.length_append, List.length_take]
  omega

omit hge in
theorem byteAt_take_append {i : Nat} (hi : i < h) : byteAt (ip.take h ++ c) i = byteAt ip i := by
  rw [byteAt_append_left (by rw [List.length_take]; omega), byteAt_take hi]

omit hge in
theorem length_numbered (offset : Nat) (last : Bool) :
    (numbered ip t offset last (ip.take h ++ c)).length = h + c.length := by
  have := length_take_append (c := c) hle
  unfold numbered
  cases last <;> simp [this]

theorem byteAt_numbered (offset : Nat) (last : Bool) (i : Nat) :
    byteAt (numbered ip t offset last (ip.take h ++ c)) i =
      if t + 4 ≤ i ∧ i < t + 8 then byteAt (toBe32 (seqAt t ip + UInt32.ofNat offset)) (i - (t + 4))
      else if i = t + 13 then
        if last then byteAt ip (t + 13) else byteAt ip (t + 13) &&& ~~~(0x01 ||| 0x08)
      else byteAt (ip.take h ++ c) i := by
  have h4 : (toBe32 (seqAt t ip + UInt32.ofNat offset)).length = 4 := rfl
  have hlen := length_take_append (c := c) hle
  have hset : ∀ i, byteAt (setBytes (ip.take h ++ c) (t + 4)
      (toBe32 (seqAt t ip + UInt32.ofNat offset))) i =
      if t + 4 ≤ i ∧ i < t + 8 then byteAt (toBe32 (seqAt t ip + UInt32.ofNat offset)) (i - (t + 4))
      else byteAt (ip.take h ++ c) i := by
    intro i
    rw [byteAt_setBytes, h4, hlen]
    by_cases hi : t + 4 ≤ i ∧ i < t + 8
    · rw [if_pos hi, if_pos ⟨hi.1, by omega, by omega⟩]
    · rw [if_neg hi, if_neg (by omega)]
  unfold numbered
  cases last
  · simp only [Bool.false_eq_true, if_false]
    rw [byteAt_set, length_setBytes, hset, hlen]
    by_cases hi : i = t + 13
    · rw [if_pos ⟨hi.symm, by omega⟩, if_neg (by omega), if_pos hi]
    · rw [if_neg (fun h => hi h.1.symm)]
      simp only [if_neg hi]
  · simp only [if_true, hset]
    by_cases hi : i = t + 13
    · rw [if_neg (by omega), if_neg (by omega), if_pos hi, hi, byteAt_take_append hle (by omega)]
    · simp only [if_neg hi]

/-- The IP header is in front of what `numbered` writes. -/
theorem byteAt_numbered_of_lt (offset : Nat) (last : Bool) {i : Nat} (hi : i < t + 4) :
    byteAt (numbered ip t offset last (ip.take h ++ c)) i = byteAt ip i := by
  rw [byteAt_numbered hge hle, if_neg (by omega), if_neg (by omega), byteAt_take_append hle (by omega)]

/-- Whether the length fields of a segment can be written. -/
theorem writable_numbered (hoff : ipHeaderLen ip ≤ t) (offset : Nat) (last : Bool) :
    Writable (isV6 ip) (numbered ip t offset last (ip.take h ++ c)) (h + c.length) ↔
      SegmentFits ip (h + c.length) := by
  have hlen := length_numbered (c := c) (t := t) hle offset last
  have h0 := byteAt_numbered_of_lt (c := c) hge hle offset last (show 0 < t + 4 by omega)
  have hihl : ihlOf (numbered ip t offset last (ip.take h ++ c)) = ihlOf ip := by
    unfold ihlOf; rw [h0]
  unfold Writable SegmentFits
  unfold ipHeaderLen at hoff
  cases h6 : isV6 ip
  · simp only [h6, Bool.false_eq_true, if_false] at hoff ⊢
    rw [Ipv4Writable, hlen, hihl]
    constructor
    · rintro ⟨-, h9, h20, -, hn⟩
      rw [byteAt_numbered_of_lt hge hle offset last (by omega)] at h9
      exact ⟨h9, h20, hn⟩
    · rintro ⟨h9, h20, hn⟩
      rw [byteAt_numbered_of_lt hge hle offset last (by omega)]
      exact ⟨by omega, h9, h20, by omega, hn⟩
  · simp only [h6, if_true] at hoff ⊢
    rw [hlen]
    omega

/-- The fields that are written last: lengths and checksums. -/
theorem finish_segment (hoff : ipHeaderLen ip ≤ t) (offset : Nat) (last : Bool)
    (hfits : SegmentFits ip (h + c.length)) :
    ∃ q checksum, updateLengths (ipVersion (isV6 ip)) (numbered ip t offset last (ip.take h ++ c))
        (h + c.length) = .ok q ∧
      tcpChecksum (ipVersion (isV6 ip)) (setBytes q (t + 16) [0, 0]) t = .ok checksum ∧
      SegmentOf ip t h c offset last
        (setBytes (setBytes q (t + 16) [0, 0]) (t + 16) (toBe16 checksum)) := by
  have hlen := length_numbered (c := c) (t := t) hle offset last
  have hnum := byteAt_numbered (c := c) hge hle offset last
  obtain ⟨ht, htcp, hihl⟩ := hfits.bounds hoff
  have hfield : ∀ i, t ≤ i → ¬ LengthField (isV6 ip) i := fun i hi hf => by
    have := hf.bounds.1
    omega
  obtain ⟨q, hq, hqsame, hqstated, hqver⟩ := updateLengths_ok (isV6 ip)
    (numbered ip t offset last (ip.take h ++ c)) (h + c.length)
    ((writable_numbered hge hle hoff offset last).2 hfits)
  have hqlen : q.length = h + c.length := by rw [hqsame.1, hlen]
  obtain ⟨checksum, hck, hckval⟩ := tcpChecksum_ok (isV6 ip) (setBytes q (t + 16) [0, 0]) t
    (by rw [length_setBytes]; omega) (by rw [length_setBytes]; omega) (by rw [length_setBytes]; omega)
  -- the checksum is written last, and nothing else is touched then
  have hout := sameExcept_checksum q (t + 16) checksum
  have houtn : ∀ i, ¬ LengthField (isV6 ip) i → i ≠ t + 16 → i ≠ t + 17 →
      byteAt (setBytes (setBytes q (t + 16) [0, 0]) (t + 16) (toBe16 checksum)) i =
        byteAt (numbered ip t offset last (ip.take h ++ c)) i := by
    intro i h1 h2 h3
    rw [hout.2 i (not_or.2 ⟨h2, h3⟩), hqsame.2 i h1]
  have h20 := ipHeaderLenOf_ge (isV6 ip)
  refine ⟨q, checksum, hq, hck, ⟨?_, ?_⟩, ?_, ?_, ?_, ?_, ?_⟩
  · rw [hout.1, hqlen, length_take_append hle]
  · intro i hi
    simp only [Changed, not_or] at hi
    rw [houtn i hi.1 hi.2.2.2.1 hi.2.2.2.2, hnum, if_neg hi.2.1, if_neg hi.2.2.1]
  · intro k hk
    rw [houtn _ (hfield _ (by omega)) (by omega) (by omega), hnum, if_pos (by omega), Nat.add_sub_cancel_left]
  · rw [houtn _ (hfield _ (by omega)) (by omega) (by omega), hnum, if_neg (by omega), if_pos rfl]
  · rw [hout.1, hqlen, ← hqstated]
    exact statedLength_congr _ fun i _ _ => hout.2 i (by omega)
  · intro h4
    have hihl4 := hihl h4
    have hver := (hqver h4).2
    rw [show ihlOf (numbered ip t offset last (ip.take h ++ c)) = ihlOf ip by
      unfold ihlOf; rw [byteAt_numbered_of_lt hge hle offset last (by omega)]] at hver
    rw [take_setBytes, take_setBytes, setBytes_of_le _ (by simp; omega), setBytes_of_le _ (by simp; omega)]
    exact hver
  · exact hckval.verifies ht (by rw [length_setBytes]; omega) (wordAt_setBytes 0 (by omega))

end

/-- What the segmenter cuts out of the payload at an offset. -/
theorem slice_chunk (payload : Bytes) (g j : Nat) :
    slice payload (j * g) (min (j * g + g) payload.length) = chunk g payload j := by
  rw [chunk, slice, List.take_eq_take_iff, List.length_drop]
  omega

/-- The `j`-th chunk is the last. -/
def lastChunk (g : Nat) (payload : Bytes) (j : Nat) : Bool := !decide (j * g + g < payload.length)

section
variable {offload : VirtioNetHdr} {ip payload : Bytes} {l : GsoLayout} {g : Nat}
  (hl : LayoutOf offload ip l) (hg : offload.gsoSize.toNat = g) (hpay : ip.drop l.headerLen = payload)
include hl hg hpay

/-- One turn of the loop, up to the length fields. -/
theorem buildSegment_eq (scratch : Bytes) {j : Nat} (ho : j * g < 2 ^ 32) :
    buildSegment offload ip l scratch (j * g) =
      let s := numbered ip l.tcpOffset (j * g) (lastChunk g payload j)
        (ip.take l.headerLen ++ chunk g payload j)
      match updateLengths (ipVersion (isV6 ip)) s (l.headerLen + (chunk g payload j).length) with
      | .error e => (.error e, s)
      | .ok s =>
        let s := setBytes s (l.tcpOffset + 16) [0, 0]
        match tcpChecksum (ipVersion (isV6 ip)) s l.tcpOffset with
        | .error e => (.error e, s)
        | .ok checksum => (.ok (), setBytes s (l.tcpOffset + 16) (toBe16 checksum)) := by
  have hnum : numbered ip l.tcpOffset (j * g) (lastChunk g payload j)
      (ip.take l.headerLen ++ chunk g payload j) =
      let s := setBytes (ip.take l.headerLen ++ chunk g payload j) (l.tcpOffset + 4)
        (toBe32 (seqAt l.tcpOffset ip + UInt32.ofNat (j * g)))
      if min (j * g + g) payload.length < payload.length then
        s.set (l.tcpOffset + 13) (byteAt ip (l.tcpOffset + 13) &&& ~~~(0x01 ||| 0x08))
      else s := by
    unfold numbered lastChunk
    by_cases hlast : j * g + g < payload.length
    · rw [if_neg (by simpa using hlast)]
      dsimp only
      rw [if_pos (by omega)]
    · rw [if_pos (by simpa using hlast)]
      dsimp only
      rw [if_neg (by omega)]
  unfold buildSegment
  simp only [hg, hpay, slice_chunk, clear, List.nil_append, if_neg (Nat.not_le.2 ho), hl.version, hnum]
  rfl

variable (hoff : ipHeaderLen ip ≤ l.tcpOffset)
include hoff

theorem buildSegment_ok {j : Nat} (ho : j * g < 2 ^ 32)
    (hfits : SegmentFits ip (l.headerLen + (chunk g payload j).length)) :
    ∃ out, (∀ scratch, buildSegment offload ip l scratch (j * g) = (.ok (), out)) ∧
      SegmentOf ip l.tcpOffset l.headerLen (chunk g payload j) (j * g) (lastChunk g payload j) out := by
  obtain ⟨q, checksum, hq, hck, hseg⟩ :=
    finish_segment hl.ge hl.le hoff (j * g) (lastChunk g payload j) hfits
  refine ⟨_, fun scratch => ?_, hseg⟩
  rw [buildSegment_eq hl hg hpay scratch ho]
  simp only [hq, hck]

theorem buildSegment_error {j : Nat} (ho : j * g < 2 ^ 32)
    (hfits : ¬ SegmentFits ip (l.headerLen + (chunk g payload j).length)) :
    ∃ e out, ∀ scratch, buildSegment offload ip l scratch (j * g) = (.error e, out) := by
  obtain ⟨e, he⟩ := updateLengths_error (isV6 ip) _ _ (fun h =>
    hfits ((writable_numbered hl.ge hl.le hoff (j * g) (lastChunk g payload j)).1 h))
  refine ⟨e, numbered ip l.tcpOffset (j * g) (lastChunk g payload j)
    (ip.take l.headerLen ++ chunk g payload j), fun scratch => ?_⟩
  rw [buildSegment_eq hl hg hpay scratch ho]
  simp only [he]

end

/-! ## All segments -/

theorem segmentLoop_push {build : Bytes → Nat → Except String Unit × Bytes} {seg : Nat → Bytes}
    (offsets : List Nat) (h : ∀ o ∈ offsets, ∀ scratch, build scratch o = (.ok (), seg o)) :
    ∀ scratch out, ∃ scratch', segmentLoop push build offsets scratch out =
      (.ok (), scratch', out ++ offsets.map seg) := by
  induction offsets with
  | nil => intro scratch out; exact ⟨scratch, by simp [segmentLoop]⟩
  | cons o offsets ih =>
    intro scratch out
    obtain ⟨scratch', heq⟩ := ih (fun o' ho' => h o' (List.mem_cons_of_mem _ ho')) (seg o) (out ++ [seg o])
    refine ⟨scratch', ?_⟩
    simp only [segmentLoop, h o List.mem_cons_self, push, heq]
    simp

section
variable {offload : VirtioNetHdr} {ip payload : Bytes} {l : GsoLayout} {g : Nat}
  (hl : LayoutOf offload ip l) (hg : offload.gsoSize.toNat = g) (hpay : ip.drop l.headerLen = payload)
  (hoff : ipHeaderLen ip ≤ l.tcpOffset) (hmore : g < payload.length)
include hl hg hpay hoff

/-- **Segmentation succeeds** if the first segment fits: no other is longer. -/
theorem segments_ok (h32 : payload.length < 2 ^ 32) (hfits : SegmentFits ip (l.headerLen + g)) :
    ∃ segs : List Bytes, (∀ scratch out, ∃ scratch', segmentLoop push (buildSegment offload ip l)
        (stepBy payload.length g) scratch out = (.ok (), scratch', out ++ segs)) ∧
      segs.length = chunkCount g payload.length ∧
      ∀ j (hj : j < segs.length), SegmentOf ip l.tcpOffset l.headerLen (chunk g payload j) (j * g)
        (decide (j + 1 = segs.length)) segs[j] := by
  have hgpos : 0 < g := hg ▸ hl.gsoSize_pos
  have hcount := lt_chunkCount_iff hgpos payload.length
  have hbuild : ∀ j < chunkCount g payload.length, ∃ out,
      (∀ scratch, buildSegment offload ip l scratch (j * g) = (.ok (), out)) ∧
      SegmentOf ip l.tcpOffset l.headerLen (chunk g payload j) (j * g)
        (decide (j + 1 = chunkCount g payload.length)) out := by
    intro j hj
    have hle := length_chunk_le g payload j
    have hlast : lastChunk g payload j = decide (j + 1 = chunkCount g payload.length) := by
      have hnext := hcount (j + 1)
      rw [Nat.succ_mul] at hnext
      rw [lastChunk, Bool.eq_iff_iff, Bool.not_eq_true', decide_eq_false_iff_not, decide_eq_true_iff, ← hnext]
      omega
    rw [← hlast]
    exact buildSegment_ok hl hg hpay hoff (by have := (hcount j).1 hj; omega) (hfits.mono (by omega))
  -- the segment at an offset
  let seg : Nat → Bytes := fun o => (buildSegment offload ip l [] o).2
  have hseg : ∀ o ∈ stepBy payload.length g, ∀ scratch,
      buildSegment offload ip l scratch o = (.ok (), seg o) := by
    intro o ho scratch
    obtain ⟨j, hj, rfl⟩ := List.mem_map.1 ho
    obtain ⟨out, hout, -⟩ := hbuild j (List.mem_range.1 hj)
    simp only [seg, hout]
  have hlen : ((stepBy payload.length g).map seg).length = chunkCount g payload.length := by
    simp [stepBy, chunkCount]
  refine ⟨(stepBy payload.length g).map seg, segmentLoop_push _ hseg, hlen, fun j hj => ?_⟩
  rw [hlen] at hj
  obtain ⟨out, hout, hof⟩ := hbuild j hj
  have : ((stepBy payload.length g).map seg)[j] = out := by
    simp only [stepBy, List.getElem_map, List.getElem_range, seg, hout]
  rwa [this, hlen]

include hmore in
/-- **Segmentation fails at once** if the first segment does not fit. -/
theorem segments_error (hfits : ¬ SegmentFits ip (l.headerLen + g)) {σ : Type}
    (emit : Bytes → σ → Except String Unit × σ) (scratch : Bytes) (st : σ) :
    ∃ e scratch', segmentLoop emit (buildSegment offload ip l) (stepBy payload.length g) scratch st =
      (.error e, scratch', st) := by
  have hpos : 0 < chunkCount g payload.length := by
    rw [lt_chunkCount_iff (hg ▸ hl.gsoSize_pos)]
    omega
  have hfirst : (chunk g payload 0).length = g := by
    rw [length_chunk]
    omega
  obtain ⟨n, hn⟩ := Nat.exists_eq_succ_of_ne_zero (Nat.pos_iff_ne_zero.1 hpos)
  have hsteps : stepBy payload.length g = 0 * g :: ((List.range n).map Nat.succ).map (· * g) := by
    rw [stepBy, show (payload.length + g - 1) / g = n + 1 from hn, List.range_succ_eq_map, List.map_cons]
  obtain ⟨e, out, he⟩ := buildSegment_error (j := 0) hl hg hpay hoff (by omega) (by rwa [hfirst])
  refine ⟨e, out, ?_⟩
  rw [hsteps, segmentLoop, he]

end

/-! ## What a segment is -/

theorem be32_toBe32 (n : UInt32) : be32 (byteAt (toBe32 n) 0) (byteAt (toBe32 n) 1)
    (byteAt (toBe32 n) 2) (byteAt (toBe32 n) 3) = n := by
  have := n.toNat_lt
  apply UInt32.toNat_inj.1
  simp only [be32, beNat, toBe32, byteAt, List.getD_cons_zero, List.getD_cons_succ, List.foldl_cons,
    List.foldl_nil, UInt32.toNat_ofNat', UInt8.toNat_ofNat']
  omega

theorem Changed.lt {isIpv6 : Bool} {t h i : Nat} (hc : Changed isIpv6 t i) (hge : t + 20 ≤ h) : i < h := by
  rcases hc with hf | hc
  · unfold LengthField at hf
    split at hf <;> omega
  · omega

section
variable {ip c out : Bytes} {t h offset : Nat} {last : Bool} (hs : SegmentOf ip t h c offset last out)
  (hge : t + 20 ≤ h) (hle : h ≤ ip.length)
include hs

theorem SegmentOf.seqAt_eq : seqAt t out = seqAt t ip + UInt32.ofNat offset := by
  have h0 := hs.seq 0 (by omega)
  have h1 := hs.seq 1 (by omega)
  have h2 := hs.seq 2 (by omega)
  have h3 := hs.seq 3 (by omega)
  rw [seqAt, show byteAt out (t + 4) = _ from h0, show byteAt out (t + 5) = _ from h1,
    show byteAt out (t + 6) = _ from h2, show byteAt out (t + 7) = _ from h3, be32_toBe32]

include hle in
theorem SegmentOf.byteAt_header {i : Nat} (hi : i < h) (hc : ¬ Changed (isV6 ip) t i) :
    byteAt out i = byteAt ip i := by
  rw [hs.same.2 i hc, byteAt_take_append hle hi]

include hge hle in
/-- The payload of a segment. -/
theorem SegmentOf.drop_eq : out.drop h = c := by
  rw [hs.same.drop_eq fun i hi => hi.lt hge]
  exact List.drop_left' (by rw [List.length_take]; omega)

end

section
variable {ip payload : Bytes} {t h g : Nat} {segs : List Bytes} (hge : t + 20 ≤ h) (hle : h ≤ ip.length)
  (hall : ∀ j (hj : j < segs.length), SegmentOf ip t h (chunk g payload j) (j * g)
    (decide (j + 1 = segs.length)) segs[j])
include hge hle hall

theorem map_drop_segments : segs.map (·.drop h) = (List.range segs.length).map (chunk g payload) := by
  apply List.ext_getElem
  · simp
  · intro j hj hj'
    rw [List.getElem_map, List.getElem_map, List.getElem_range]
    exact (hall j (by simpa using hj)).drop_eq hge hle

/-- The payloads of the segments make up the payload. -/
theorem flatMap_drop_segments (hg : 0 < g) (hcount : segs.length = chunkCount g payload.length) :
    segs.flatMap (·.drop h) = payload := by
  rw [List.flatMap_def, map_drop_segments hge hle hall, ← List.flatMap_def, hcount]
  exact flatMap_chunk hg _

end

/-! ## Single packets -/

/-- **Completing a checksum.**  The field at `field` held the folded sum of the pseudo-header;
the complement of the sum of the segment takes its place. -/
theorem transport_complete {protocol : UInt8} {isIpv6 : Bool} {packet : Bytes} {start j : Nat} (c : UInt16)
    (hlen : packet.length ≤ 65535) (hip : ipHeaderLenOf isIpv6 ≤ start + 2 * j)
    (hfield : start + 2 * j + 2 ≤ packet.length)
    (hold : wordAt packet (start + 2 * j) =
      onesSum (transportPseudoHeader protocol isIpv6 packet (packet.length - start)))
    (hc : c = finalizeChecksum (addBytes 0 (packet.drop start))) :
    Verifies (transportPseudoHeader protocol isIpv6 (setBytes packet (start + 2 * j) (toBe16 c))
      (packet.length - start) ++ (setBytes packet (start + 2 * j) (toBe16 c)).drop start) := by
  rw [transportPseudoHeader_setBytes _ hip, drop_setBytes _ _ (by omega), Nat.add_sub_cancel_left]
  refine verifies_complete _ c ?_ (length_transportPseudoHeader ?_) ?_ ?_
  · rw [List.length_drop]; omega
  · exact Nat.le_trans hip (by omega)
  · simp only [wordAt, byteAt_drop]
    exact hold
  · rw [hc, toNat_finalizeChecksum, toNat_addBytes_zero (by rw [List.length_drop]; omega)]

/-! ## Segmentation -/

/-- What comes out of a packet that the segmenter accepts, by the number of segments. -/
def Segments (offload : VirtioNetHdr) (ip : Bytes) (l : GsoLayout) (segs : List Bytes) : Prop :=
  (ip.drop l.headerLen).length ≤ offload.gsoSize.toNat ∧
    segs = [if offload.needsChecksum then
      setBytes ip (l.tcpOffset + 16) (toBe16 (finalizeChecksum (addBytes 0 (ip.drop l.tcpOffset))))
    else ip] ∨
  offload.gsoSize.toNat < (ip.drop l.headerLen).length ∧
    segs.length = chunkCount offload.gsoSize.toNat (ip.drop l.headerLen).length ∧
    ∀ j (hj : j < segs.length), SegmentOf ip l.tcpOffset l.headerLen
      (chunk offload.gsoSize.toNat (ip.drop l.headerLen) j) (j * offload.gsoSize.toNat)
      (decide (j + 1 = segs.length)) segs[j]

section
variable (offload : VirtioNetHdr) (ip : Bytes)

/-- **All or nothing.**  An error comes before the first segment. -/
theorem segmentTcpGsoInto_cases (hoff : ipHeaderLen ip ≤ tcpOffset offload ip) (hlen : ip.length < 2 ^ 32)
    (scratch : Bytes) :
    (∃ e scratch', segmentTcpGsoInto push offload ip scratch [] = (.error e, scratch', [])) ∨
    ∃ l scratch' segs, segmentTcpGsoInto push offload ip scratch [] = (.ok (), scratch', segs) ∧
      LayoutOf offload ip l ∧ Segments offload ip l segs := by
  unfold segmentTcpGsoInto
  cases hlayout : gsoLayout offload ip with
  | error e => exact Or.inl ⟨e, scratch, rfl⟩
  | ok l =>
    have hl := gsoLayout_ok hlayout
    have hoff' : ipHeaderLen ip ≤ l.tcpOffset := by rw [hl.tcpOffset]; exact hoff
    dsimp only
    by_cases hmore : (ip.drop l.headerLen).length ≤ offload.gsoSize.toNat
    · rw [if_pos hmore]
      right
      cases hneeds : offload.needsChecksum with
      | false => exact ⟨l, _, _, rfl, hl, Or.inl ⟨hmore, by rw [hneeds]; rfl⟩⟩
      | true => exact ⟨l, _, _, rfl, hl, Or.inl ⟨hmore, by rw [hneeds]; rfl⟩⟩
    · rw [if_neg hmore]
      have hmore' := Nat.lt_of_not_le hmore
      by_cases hfits : SegmentFits ip (l.headerLen + offload.gsoSize.toNat)
      · obtain ⟨segs, hloop, hcount, hall⟩ := segments_ok hl rfl rfl hoff'
          (by rw [List.length_drop]; omega) hfits
        obtain ⟨scratch', heq⟩ := hloop scratch []
        exact Or.inr ⟨l, scratch', segs, heq, hl, Or.inr ⟨hmore', hcount, hall⟩⟩
      · exact Or.inl (segments_error hl rfl rfl hoff' hmore' hfits push scratch [])

/-- A packet that is cut into segments. -/
theorem segmentTcpGsoPacket_many {l : GsoLayout} {g : Nat} {payload : Bytes}
    (hlayout : gsoLayout offload ip = .ok l) (hg : offload.gsoSize.toNat = g)
    (hpay : ip.drop l.headerLen = payload) (hoff : ipHeaderLen ip ≤ l.tcpOffset) (hmore : g < payload.length)
    (h32 : payload.length < 2 ^ 32) (hfits : SegmentFits ip (l.headerLen + g)) :
    ∃ segs, segmentTcpGsoPacket offload ip = .ok segs ∧ segs.length = chunkCount g payload.length ∧
      ∀ j (hj : j < segs.length), SegmentOf ip l.tcpOffset l.headerLen (chunk g payload j) (j * g)
        (decide (j + 1 = segs.length)) segs[j] := by
  obtain ⟨segs, hloop, hcount, hall⟩ := segments_ok (gsoLayout_ok hlayout) hg hpay hoff h32 hfits
  obtain ⟨scratch', heq⟩ := hloop [] []
  refine ⟨segs, ?_, hcount, hall⟩
  rw [segmentTcpGsoPacket, segmentTcpGsoInto, hlayout]
  simp only [hpay, hg, if_neg (Nat.not_le.2 hmore), heq, List.nil_append]

theorem segmentTcpGsoPacket_ok {segs : List Bytes} (hoff : ipHeaderLen ip ≤ tcpOffset offload ip)
    (hlen : ip.length < 2 ^ 32) (hok : segmentTcpGsoPacket offload ip = .ok segs) :
    ∃ l, LayoutOf offload ip l ∧ Segments offload ip l segs := by
  unfold segmentTcpGsoPacket at hok
  rcases segmentTcpGsoInto_cases offload ip hoff hlen [] with
    ⟨e, scratch', heq⟩ | ⟨l, scratch', segs', heq, hl, hsegs⟩
  · rw [heq] at hok
    cases hok
  · rw [heq] at hok
    obtain rfl := Except.ok.inj hok
    exact ⟨l, hl, hsegs⟩

/-- A packet that cannot be materialized hands out nothing. -/
theorem materialized_of_error {e : String}
    (hoff : offload.isTcpGso = true → ipHeaderLen ip ≤ tcpOffset offload ip) (hlen : ip.length < 2 ^ 32)
    (herr : (materializeOffloadInto push offload ip [] []).1 = .error e) : materialized offload ip = [] := by
  unfold materialized
  unfold materializeOffloadInto at herr ⊢
  by_cases hgso : offload.isTcpGso = true
  · rw [if_pos hgso] at herr ⊢
    rcases segmentTcpGsoInto_cases offload ip (hoff hgso) hlen [] with
      ⟨e', scratch', heq⟩ | ⟨l, scratch', segs, heq, -, -⟩
    · rw [heq]
    · rw [heq] at herr
      cases herr
  · rw [if_neg hgso] at herr ⊢
    split
    · rfl
    · next hnone =>
      rw [if_neg hnone] at herr
      rcases hv : validateChecksumOffload offload ip with e' | (_ | ⟨csumStart, checksumIndex⟩)
      · rfl
      · rw [hv] at herr
        cases herr
      · rw [hv] at herr
        cases herr

/-- `hdr_len` is not read. -/
theorem segmentTcpGsoPacket_hdrLen (hdrLen : UInt16) :
    segmentTcpGsoPacket { offload with hdrLen } ip = segmentTcpGsoPacket offload ip := rfl

end

/-- A packet that is not cut. -/
theorem sameExcept_single (offload : VirtioNetHdr) (ip : Bytes) (t : Nat) (checksum : UInt16) :
    SameExcept (fun i => i = t + 16 ∨ i = t + 17)
      (if offload.needsChecksum then setBytes ip (t + 16) (toBe16 checksum) else ip) ip := by
  split
  · refine sameExcept_setBytes _ _ _ fun j h1 h2 => ?_
    simp only [toBe16, List.length_cons, List.length_nil] at h2
    omega
  · exact SameExcept.refl _ _

theorem seqAt_of_sameExcept {ip q : Bytes} {t : Nat}
    (h : SameExcept (fun i => i = t + 16 ∨ i = t + 17) q ip) : seqAt t q = seqAt t ip := by
  rw [seqAt, h.2 (t + 4) (by omega), h.2 (t + 5) (by omega), h.2 (t + 6) (by omega),
    h.2 (t + 7) (by omega)]
  rfl

/-- **Segmentation is correct.**  The packets emitted for a super-frame carry its payload in
chunks of at most `gso_size` bytes, with consecutive sequence numbers.  Several packets have
right lengths and checksums and the original's header otherwise.  Of a single packet only the
checksum changes, and completing it gives a right one, unless the field lies in the address
fields: only an IHL of 0 lets `csum_start` put it there. -/
theorem segmentation_correct (offload : VirtioNetHdr) (ip : Bytes) (segs : List Bytes)
    (hlen : ip.length ≤ 65535) (hoff : ipHeaderLen ip ≤ tcpOffset offload ip)
    (hok : segmentTcpGsoPacket offload ip = .ok segs) :
    let t := tcpOffset offload ip
    let h := gsoHeaderLen offload ip
    let g := offload.gsoSize.toNat
    segs.length = max 1 (((ip.drop h).length + g - 1) / g) ∧
    (∀ p ∈ segs, (p.drop h).length ≤ g) ∧
    segs.flatMap (fun p => p.drop h) = ip.drop h ∧
    (∀ j (hj : j < segs.length), seqAt t segs[j] = seqAt t ip + UInt32.ofNat (j * g)) ∧
    (∀ hdrLen, segmentTcpGsoPacket { offload with hdrLen } ip = .ok segs) ∧
    (1 < segs.length → ∀ j (hj : j < segs.length),
      statedLength (isV6 ip) segs[j] = segs[j].length ∧
      (isV6 ip = false → Verifies (segs[j].take (ihlOf ip))) ∧
      TcpVerifies (isV6 ip) t segs[j] ∧
      byteAt segs[j] (t + 13) = (if j + 1 = segs.length then byteAt ip (t + 13)
        else byteAt ip (t + 13) &&& ~~~(0x01 ||| 0x08)) ∧
      ∀ i < h, ¬ Changed (isV6 ip) t i → byteAt segs[j] i = byteAt ip i) ∧
    (segs.length = 1 → ∀ p ∈ segs, SameExcept (fun i => i = t + 16 ∨ i = t + 17) p ip ∧
      (offload.needsChecksum = true → ipHeaderLenOf (isV6 ip) ≤ t + 16 →
        wordAt ip (t + 16) = onesSum (pseudoHeader (isV6 ip) ip (ip.length - t)) →
        TcpVerifies (isV6 ip) t p)) := by
  intro t h g
  obtain ⟨l, hl, hcases⟩ := segmentTcpGsoPacket_ok offload ip hoff (by omega) hok
  have ht : l.tcpOffset = t := hl.tcpOffset
  have hh : l.headerLen = h := by rw [hl.headerLen, hl.tcpOffset]; rfl
  have hge : t + 20 ≤ h := by rw [← ht, ← hh]; exact hl.ge
  have hle : h ≤ ip.length := by rw [← hh]; exact hl.le
  have hg : 0 < g := hl.gsoSize_pos
  rw [Segments, ht, hh, show offload.gsoSize.toNat = g from rfl] at hcases
  have hhdr : ∀ hdrLen, segmentTcpGsoPacket { offload with hdrLen } ip = .ok segs :=
    fun hdrLen => (segmentTcpGsoPacket_hdrLen offload ip hdrLen).trans hok
  have hcount := lt_chunkCount_iff hg (ip.drop h).length
  rcases hcases with ⟨hone, rfl⟩ | ⟨hmore, hlength, hall⟩
  · -- one packet, as it came but for the checksum
    have hsame := sameExcept_single offload ip t
      (finalizeChecksum (addBytes 0 (ip.drop t)))
    have hdrop := hsame.drop_eq (n := h) fun i hi => by omega
    refine ⟨?_, ?_, ?_, ?_, hhdr, ?_, ?_⟩
    · have := hcount 1
      show 1 = max 1 (chunkCount g (ip.drop h).length)
      omega
    · intro p hp
      rw [List.mem_singleton.1 hp, hdrop]
      exact hone
    · rw [List.flatMap_singleton, hdrop]
    · intro j hj
      obtain rfl : j = 0 := by rw [List.length_singleton] at hj; omega
      rw [Nat.zero_mul, List.getElem_singleton, seqAt_of_sameExcept hsame]
      exact (UInt32.add_zero _).symm
    · intro hmany
      exact absurd hmany (Nat.lt_irrefl 1)
    · intro _ p hp
      rw [List.mem_singleton.1 hp]
      refine ⟨hsame, fun hneeds hip hold => ?_⟩
      have hver := transport_complete (j := 8) _ hlen hip (by omega) hold rfl
      rw [if_pos hneeds, TcpVerifies, length_setBytes]
      exact hver
  · refine ⟨?_, ?_, ?_, ?_, hhdr, ?_, ?_⟩
    · have := hcount 0
      show _ = max 1 (chunkCount g (ip.drop h).length)
      omega
    · intro p hp
      obtain ⟨j, hj, rfl⟩ := List.getElem_of_mem hp
      rw [(hall j hj).drop_eq hge hle]
      exact length_chunk_le _ _ _
    · exact flatMap_drop_segments hge hle hall hg hlength
    · intro j hj
      exact (hall j hj).seqAt_eq
    · intro _ j hj
      have hj' := hall j hj
      refine ⟨hj'.stated, hj'.ipChecksum, hj'.tcpChecksum, ?_, fun i hi => hj'.byteAt_header hle hi⟩
      simpa only [decide_eq_true_eq] using hj'.flags
    · intro hsingle
      have := hcount 1
      omega

/-- An IPv4 super-frame with three bytes of payload. -/
def threeBytes : Bytes :=
  [0x45, 0, 0, 43, 0, 0, 0, 0, 64, 6, 0x66, 0xcb, 10, 0, 0, 1, 10, 0, 0, 2] ++
  [0, 80, 0x1f, 0x90, 0, 0, 0, 100, 0, 0, 0, 0, 0x50, 0x10, 0xff, 0xff, 0x14, 0x20, 0, 0] ++ [1, 2, 3]

/-- Its header, with two bytes a segment. -/
def threeBytesHdr : VirtioNetHdr := ⟨1, 1, 40, 2, 20, 16, 0⟩

/-- Two segments, and one if all three bytes fit. -/
theorem segmentation_correct_threeBytes :
    (∃ segs, segmentTcpGsoPacket threeBytesHdr threeBytes = .ok segs ∧ segs.length = 2 ∧
      segs.flatMap (fun p => p.drop 40) = [1, 2, 3] ∧ ∀ p ∈ segs, TcpVerifies false 20 p) ∧
    ∃ p, segmentTcpGsoPacket { threeBytesHdr with gsoSize := 3 } threeBytes = .ok [p] ∧
      TcpVerifies false 20 p := by
  have hcut : segmentTcpGsoPacket threeBytesHdr threeBytes = .ok (materialized threeBytesHdr threeBytes) := by
    decide +kernel
  have hwhole : segmentTcpGsoPacket { threeBytesHdr with gsoSize := 3 } threeBytes =
      .ok [setBytes threeBytes 36 [0x77, 0x89]] := by
    decide +kernel
  obtain ⟨hcount, -, hpay, -, -, hmany, -⟩ := segmentation_correct _ _ _ (by decide) (by decide) hcut
  obtain ⟨-, -, -, -, -, -, hone⟩ := segmentation_correct _ _ _ (by decide) (by decide) hwhole
  have hlen : (materialized threeBytesHdr threeBytes).length = 2 := hcount.trans (by decide)
  refine ⟨⟨_, hcut, hlen, hpay, fun p hp => ?_⟩, _, hwhole, ?_⟩
  · obtain ⟨j, hj, rfl⟩ := List.getElem_of_mem hp
    exact (hmany (by omega) j hj).2.2.1
  · exact (hone rfl _ (List.mem_singleton.2 rfl)).2 rfl (by decide) (by decide)

end EzVpn
