import EzVpn.Lib.OnesSum

/-!
# Checksums and length fields

The checksum arithmetic of src/tunnel/offload.rs, on `u32` accumulators that wrap, and
the functions that rewrite the length and checksum fields of a packet in place.  Those
check everything before they write, so an error leaves the packet as it was.

`addBytes` and `foldChecksum` compute the sums of `Lib.OnesSum` (`toNat_addBytes`,
`toNat_foldChecksum`) as long as the words fit `u32`, which a packet's always do.
-/

namespace EzVpn

open Lib Bytes

def addBytes (sum : UInt32) : Bytes → UInt32
  | [] => sum
  | [last] => sum + (be16 last 0).toUInt32
  | a :: b :: rest => addBytes (sum + (be16 a b).toUInt32) rest

/-- The `while` loop of `fold_checksum`; two turns are always enough. -/
def foldLoop : Nat → UInt32 → UInt32
  | 0, sum => sum
  | fuel + 1, sum => if sum >>> 16 ≠ 0 then foldLoop fuel ((sum &&& (0xffff : UInt32)) + (sum >>> 16)) else sum

def foldChecksum (sum : UInt32) : UInt16 := (foldLoop 3 sum).toUInt16

def finalizeChecksum (sum : UInt32) : UInt16 := ~~~foldChecksum sum

def updateIpv4LengthsAndChecksum (packet : Bytes) (packetLen : Nat) : Except String Bytes :=
  if packet.length < 20 then .error "IPv4 packet too short"
  else if byteAt packet 9 ≠ 6 then .error s!"IPv4 protocol {byteAt packet 9} is not TCP"
  else
    let ihl := (byteAt packet 0 &&& 0x0f).toNat * 4
    if ihl < 20 ∨ ihl > packet.length then .error s!"invalid IPv4 IHL {ihl}"
    else if packetLen > 65535 then .error s!"IPv4 packet too large for total_len: {packetLen}"
    else
      let packet := setBytes packet 2 (toBe16 (UInt16.ofNat packetLen))
      let packet := setBytes packet 10 [0, 0]
      let checksum := finalizeChecksum (addBytes 0 (packet.take ihl))
      .ok (setBytes packet 10 (toBe16 checksum))

def updateIpv6PayloadLength (packet : Bytes) (packetLen : Nat) : Except String Bytes :=
  if packet.length < 40 then .error "IPv6 packet too short"
  else if packetLen < 40 then .error "IPv6 packet length underflow"
  else if packetLen - 40 > 65535 then .error s!"IPv6 payload too large: {packetLen - 40}"
  else .ok (setBytes packet 4 (toBe16 (UInt16.ofNat (packetLen - 40))))

def tcpChecksumIpv4 (packet : Bytes) (tcpOffset : Nat) : Except String UInt16 :=
  if packet.length < 20 ∨ tcpOffset ≥ packet.length then
    .error "invalid TCP offset for IPv4 checksum"
  else
    let tcpLen := packet.length - tcpOffset
    if tcpLen > 65535 then .error s!"TCP segment too large for IPv4 checksum: {tcpLen}"
    else
      let sum := addBytes 0 (slice packet 12 20)
      let sum := sum + 6
      let sum := sum + UInt32.ofNat tcpLen
      .ok (finalizeChecksum (addBytes sum (packet.drop tcpOffset)))

def tcpChecksumIpv6 (packet : Bytes) (tcpOffset : Nat) : Except String UInt16 :=
  if packet.length < 40 ∨ tcpOffset ≥ packet.length then
    .error "invalid TCP offset for IPv6 checksum"
  else
    let tcpLen := packet.length - tcpOffset
    if tcpLen ≥ 2 ^ 32 then .error s!"TCP segment too large for IPv6 checksum: {tcpLen}"
    else
      let sum := addBytes 0 (slice packet 8 24)
      let sum := addBytes sum (slice packet 24 40)
      let sum := sum + ((UInt32.ofNat tcpLen >>> 16) &&& 0xffff)
      let sum := sum + (UInt32.ofNat tcpLen &&& 0xffff)
      let sum := sum + 6
      .ok (finalizeChecksum (addBytes sum (packet.drop tcpOffset)))

/-- The folded sum of the pseudo-header, not complemented, that a `NEEDS_CSUM` frame
carries in its TCP checksum field. -/
def tcpPseudoHeaderPartial (ipPacket : Bytes) (isIpv6 : Bool) (tcpLen : Nat) : UInt16 :=
  let sum :=
    if isIpv6 then
      let sum := addBytes 0 (slice ipPacket 8 40)
      let sum := sum + ((UInt32.ofNat tcpLen >>> 16) &&& 0xffff)
      sum + (UInt32.ofNat tcpLen &&& 0xffff)
    else addBytes 0 (slice ipPacket 12 20) + (UInt32.ofNat tcpLen &&& 0xffff)
  foldChecksum (sum + 6)

/-! ## What the sums are -/

theorem toNat_be16 (a b : UInt8) : (be16 a b).toNat = a.toNat * 256 + b.toNat := by
  have := a.toNat_lt
  have := b.toNat_lt
  rw [be16, UInt16.toNat_ofNat']
  omega

theorem be16_inj {a b c d : UInt8} (h : (be16 a b).toNat = (be16 c d).toNat) : a = c ∧ b = d := by
  rw [toNat_be16, toNat_be16] at h
  have := a.toNat_lt
  have := b.toNat_lt
  have := c.toNat_lt
  have := d.toNat_lt
  exact ⟨UInt8.toNat_inj.1 (by omega), UInt8.toNat_inj.1 (by omega)⟩

theorem toNat_addBytes (sum : UInt32) (b : Bytes) :
    (addBytes sum b).toNat = (sum.toNat + wordSum b) % 2 ^ 32 := by
  induction b using wordSum.induct generalizing sum with
  | case1 =>
    have := sum.toNat_lt
    simp only [addBytes, wordSum, Nat.add_zero]
    omega
  | case2 x =>
    rw [addBytes, wordSum, UInt32.toNat_add, UInt16.toNat_toUInt32, toNat_be16, UInt8.toNat_zero,
      Nat.add_zero]
  | case3 x y rest ih =>
    rw [addBytes, ih, wordSum, UInt32.toNat_add, UInt16.toNat_toUInt32, toNat_be16]
    omega

theorem wordSum_lt {b : Bytes} (h : b.length ≤ 131072) : wordSum b < 2 ^ 32 := by
  have := wordSum_le b
  omega

/-- The sum of a byte string as long as a packet fits `u32`. -/
theorem toNat_addBytes_zero {b : Bytes} (h : b.length ≤ 131072) : (addBytes 0 b).toNat = wordSum b := by
  rw [toNat_addBytes, show (0 : UInt32).toNat = 0 from rfl, Nat.zero_add, Nat.mod_eq_of_lt (wordSum_lt h)]

theorem toNat_shiftRight_16 (s : UInt32) : (s >>> 16).toNat = s.toNat / 65536 := by
  rw [UInt32.toNat_shiftRight]
  exact Nat.shiftRight_eq_div_pow _ _

theorem toNat_and_ffff (s : UInt32) : (s &&& 0xffff).toNat = s.toNat % 65536 := by
  rw [UInt32.toNat_and]
  exact Nat.and_two_pow_sub_one_eq_mod s.toNat 16

theorem toNat_foldStep (s : UInt32) :
    ((s &&& (0xffff : UInt32)) + (s >>> 16)).toNat = s.toNat % 65536 + s.toNat / 65536 := by
  have := s.toNat_lt
  rw [UInt32.toNat_add, toNat_and_ffff, toNat_shiftRight_16]
  omega

theorem carry_fold (n : Nat) : carry (n % 65536 + n / 65536) = carry n := by
  unfold carry
  split <;> split <;> omega

/-- Enough turns reduce the sum to its representative. -/
theorem toNat_foldLoop (fuel : Nat) (s : UInt32)
    (h : s.toNat < 65536 ∨ s.toNat < 131071 ∧ 1 ≤ fuel ∨ 2 ≤ fuel) :
    (foldLoop fuel s).toNat = carry s.toNat := by
  induction fuel generalizing s with
  | zero =>
    simp only [foldLoop, carry]
    split <;> omega
  | succ fuel ih =>
    have hlt := s.toNat_lt
    unfold foldLoop
    split
    · next hs =>
      have hge : s.toNat / 65536 ≠ 0 := by
        intro h0
        exact hs (UInt32.toNat_inj.1 (by rw [toNat_shiftRight_16, h0]; rfl))
      rw [ih _ (by rw [toNat_foldStep]; omega), toNat_foldStep, carry_fold]
    · next hs =>
      have h0 : s.toNat / 65536 = 0 := by
        rw [← toNat_shiftRight_16, not_not.1 hs]
        rfl
      unfold carry
      split <;> omega

theorem toNat_foldChecksum (s : UInt32) : (foldChecksum s).toNat = carry s.toNat := by
  have h := toNat_foldLoop 3 s (by omega)
  have := carry_le s.toNat
  rw [foldChecksum, UInt32.toNat_toUInt16, h]
  omega

theorem toNat_finalizeChecksum (s : UInt32) :
    (finalizeChecksum s).toNat = 65535 - carry s.toNat := by
  rw [finalizeChecksum, UInt16.toNat_not, toNat_foldChecksum]
  rfl

/-! ## What a right checksum is -/

/-- What the TCP checksum covers besides the segment. -/
def pseudoHeader (isIpv6 : Bool) (packet : Bytes) (tcpLen : Nat) : Bytes :=
  if isIpv6 then slice packet 8 40 ++ toBe32 (UInt32.ofNat tcpLen) ++ [0, 0, 0, 6]
  else slice packet 12 20 ++ [0, 6] ++ toBe16 (UInt16.ofNat tcpLen)

/-- The same for any transport protocol. -/
def transportPseudoHeader (protocol : UInt8) (isIpv6 : Bool) (packet : Bytes) (len : Nat) : Bytes :=
  if isIpv6 then slice packet 8 40 ++ toBe32 (UInt32.ofNat len) ++ [0, 0, 0, protocol]
  else slice packet 12 20 ++ [0, protocol] ++ toBe16 (UInt16.ofNat len)

/-- The length of the IPv4 header, options included, that a packet states. -/
def ihlOf (packet : Bytes) : Nat := (byteAt packet 0 &&& 0x0f).toNat * 4

/-- The TCP checksum of a packet whose TCP header is at `tcpOffset` is right. -/
def TcpVerifies (isIpv6 : Bool) (tcpOffset : Nat) (packet : Bytes) : Prop :=
  Verifies (pseudoHeader isIpv6 packet (packet.length - tcpOffset) ++ packet.drop tcpOffset)

instance (isIpv6 : Bool) (tcpOffset : Nat) (packet : Bytes) :
    Decidable (TcpVerifies isIpv6 tcpOffset packet) := inferInstanceAs (Decidable (Verifies _))

theorem wordSum_toBe16 (n : Nat) (h : n < 65536) : wordSum (toBe16 (UInt16.ofNat n)) = n := by
  simp only [toBe16, wordSum, UInt8.toNat_ofNat', UInt16.toNat_ofNat']
  omega

theorem wordSum_toBe32 (n : Nat) (h : n < 2 ^ 32) :
    wordSum (toBe32 (UInt32.ofNat n)) = n / 65536 + n % 65536 := by
  simp only [toBe32, wordSum, UInt8.toNat_ofNat', UInt32.toNat_ofNat']
  omega

section
variable {protocol : UInt8} {isIpv6 : Bool} {packet : Bytes}

theorem length_transportPseudoHeader {len : Nat} (h : (if isIpv6 then 40 else 20) ≤ packet.length) :
    (transportPseudoHeader protocol isIpv6 packet len).length % 2 = 0 := by
  cases isIpv6
  · simp only [transportPseudoHeader, Bool.false_eq_true, if_false] at h ⊢
    simp [length_slice h, toBe16]
  · simp only [transportPseudoHeader, if_true] at h ⊢
    simp [length_slice h, toBe32]

/-- The pseudo-header has the addresses of the packet, and nothing behind them. -/
theorem transportPseudoHeader_setBytes {i : Nat} (v : Bytes) (h : (if isIpv6 then 40 else 20) ≤ i) :
    transportPseudoHeader protocol isIpv6 (setBytes packet i v) =
      transportPseudoHeader protocol isIpv6 packet := by
  funext len
  cases isIpv6
  · simp only [transportPseudoHeader, Bool.false_eq_true, if_false] at h ⊢
    rw [slice_setBytes packet v h]
  · simp only [transportPseudoHeader, if_true] at h ⊢
    rw [slice_setBytes packet v h]

end

theorem wordSum_slice_le {b : Bytes} {i j : Nat} (h : j ≤ b.length) :
    wordSum (slice b i j) ≤ 65535 * ((j - i + 1) / 2) := by
  have := wordSum_le (slice b i j)
  rwa [length_slice h] at this

theorem wordSum_drop_le (b : Bytes) (n : Nat) :
    wordSum (b.drop n) ≤ 65535 * ((b.length - n + 1) / 2) := by
  have := wordSum_le (b.drop n)
  rwa [List.length_drop] at this

/-- The checksum that `tcpChecksumIpv4` and `tcpChecksumIpv6` return: the complement of
the sum over pseudo-header and segment. -/
def IsTcpChecksum (isIpv6 : Bool) (packet : Bytes) (tcpOffset : Nat) (c : UInt16) : Prop :=
  c.toNat = 65535 - carry (wordSum (pseudoHeader isIpv6 packet (packet.length - tcpOffset)) +
    wordSum (packet.drop tcpOffset))

section
variable {packet : Bytes} {tcpOffset : Nat}

theorem tcpChecksumIpv4_ok (h20 : 20 ≤ packet.length) (ht : tcpOffset < packet.length)
    (hlen : packet.length - tcpOffset ≤ 65535) :
    ∃ c, tcpChecksumIpv4 packet tcpOffset = .ok c ∧ IsTcpChecksum false packet tcpOffset c := by
  have h1 : wordSum (slice packet 12 20) ≤ 65535 * 4 := wordSum_slice_le h20
  have h2 := wordSum_drop_le packet tcpOffset
  unfold tcpChecksumIpv4
  rw [if_neg (by omega), if_neg (by omega)]
  refine ⟨_, rfl, ?_⟩
  have hsum : (addBytes (addBytes 0 (slice packet 12 20) + 6 + UInt32.ofNat (packet.length - tcpOffset))
      (packet.drop tcpOffset)).toNat =
      wordSum (slice packet 12 20) + 6 + (packet.length - tcpOffset) + wordSum (packet.drop tcpOffset) := by
    rw [toNat_addBytes, UInt32.toNat_add, UInt32.toNat_add, toNat_addBytes, UInt32.toNat_ofNat']
    rw [show (0 : UInt32).toNat = 0 from rfl, show (6 : UInt32).toNat = 6 from rfl]
    omega
  rw [IsTcpChecksum, toNat_finalizeChecksum, hsum, pseudoHeader]
  simp only [Bool.false_eq_true, if_false]
  rw [wordSum_append _ (by simp [length_slice h20]), wordSum_append _ (by simp [length_slice h20]),
    wordSum_toBe16 _ (by omega)]
  rfl

theorem tcpChecksumIpv6_ok (h40 : 40 ≤ packet.length) (ht : tcpOffset < packet.length)
    (hlen : packet.length - tcpOffset ≤ 65535) :
    ∃ c, tcpChecksumIpv6 packet tcpOffset = .ok c ∧ IsTcpChecksum true packet tcpOffset c := by
  have h1 : wordSum (slice packet 8 24) ≤ 65535 * 8 := wordSum_slice_le (by omega)
  have h2 : wordSum (slice packet 24 40) ≤ 65535 * 8 := wordSum_slice_le h40
  have h3 := wordSum_drop_le packet tcpOffset
  unfold tcpChecksumIpv6
  rw [if_neg (by omega), if_neg (by omega)]
  refine ⟨_, rfl, ?_⟩
  have hsum : (addBytes (addBytes (addBytes 0 (slice packet 8 24)) (slice packet 24 40) +
        ((UInt32.ofNat (packet.length - tcpOffset) >>> 16) &&& 0xffff) +
        (UInt32.ofNat (packet.length - tcpOffset) &&& 0xffff) + 6) (packet.drop tcpOffset)).toNat =
      wordSum (slice packet 8 24) + wordSum (slice packet 24 40) + (packet.length - tcpOffset) / 65536 +
        (packet.length - tcpOffset) % 65536 + 6 + wordSum (packet.drop tcpOffset) := by
    simp only [toNat_addBytes, UInt32.toNat_add, toNat_and_ffff, toNat_shiftRight_16, UInt32.toNat_ofNat']
    rw [show (0 : UInt32).toNat = 0 from rfl, show (6 : UInt32).toNat = 6 from rfl]
    omega
  rw [IsTcpChecksum, toNat_finalizeChecksum, hsum, pseudoHeader]
  simp only [if_true]
  rw [wordSum_append _ (by simp [length_slice h40, toBe32]), wordSum_append _ (by simp [length_slice h40]),
    wordSum_toBe32 _ (by omega), ← slice_append_slice packet (show 8 ≤ 24 by omega) (show 24 ≤ 40 by omega),
    wordSum_append _ (by simp [length_slice (show 24 ≤ packet.length by omega)])]
  show _ = 65535 - carry (_ + _ + (_ + _) + 6 + _)
  rw [← Nat.add_assoc]

/-- Writing the checksum where the packet has zeros makes it verify. -/
theorem IsTcpChecksum.verifies {isIpv6 : Bool} {c : UInt16} (hc : IsTcpChecksum isIpv6 packet tcpOffset c)
    (ht : (if isIpv6 then 40 else 20) ≤ tcpOffset) (hlen : tcpOffset + 18 ≤ packet.length)
    (h0 : wordAt packet (tcpOffset + 16) = 0) :
    TcpVerifies isIpv6 tcpOffset (setBytes packet (tcpOffset + 16) (toBe16 c)) := by
  have hpseudo : pseudoHeader isIpv6 (setBytes packet (tcpOffset + 16) (toBe16 c)) =
      pseudoHeader isIpv6 packet := transportPseudoHeader_setBytes _ (by omega)
  rw [TcpVerifies, hpseudo, length_setBytes, drop_setBytes _ _ (by omega), Nat.add_sub_cancel_left]
  refine verifies_setBytes _ (j := 8) c ?_ (length_transportPseudoHeader (by omega)) ?_ hc
  · rw [List.length_drop]; omega
  · simp only [wordAt, byteAt_drop]
    exact h0

end

/-- The sum that a super-frame carries instead of a checksum. -/
theorem toNat_tcpPseudoHeaderPartial {packet : Bytes} {isIpv6 : Bool} {tcpLen : Nat}
    (hip : (if isIpv6 then 40 else 20) ≤ packet.length) (hlen : tcpLen ≤ 65535) :
    (tcpPseudoHeaderPartial packet isIpv6 tcpLen).toNat = onesSum (pseudoHeader isIpv6 packet tcpLen) := by
  unfold tcpPseudoHeaderPartial pseudoHeader
  rw [toNat_foldChecksum, onesSum_eq]
  cases isIpv6
  · simp only [Bool.false_eq_true, if_false] at hip ⊢
    have h1 : wordSum (slice packet 12 20) ≤ 65535 * 4 := wordSum_slice_le hip
    have hsum : (addBytes 0 (slice packet 12 20) + (UInt32.ofNat tcpLen &&& 0xffff) + 6).toNat =
        wordSum (slice packet 12 20) + 6 + tcpLen := by
      simp only [toNat_addBytes, UInt32.toNat_add, toNat_and_ffff, UInt32.toNat_ofNat']
      rw [show (0 : UInt32).toNat = 0 from rfl, show (6 : UInt32).toNat = 6 from rfl]
      omega
    rw [hsum, wordSum_append _ (by simp [length_slice hip]), wordSum_append _ (by simp [length_slice hip]),
      wordSum_toBe16 _ (by omega)]
    rfl
  · simp only [if_true] at hip ⊢
    have h1 : wordSum (slice packet 8 40) ≤ 65535 * 16 := wordSum_slice_le hip
    have hsum : (addBytes 0 (slice packet 8 40) + ((UInt32.ofNat tcpLen >>> 16) &&& 0xffff) +
        (UInt32.ofNat tcpLen &&& 0xffff) + 6).toNat =
        wordSum (slice packet 8 40) + (tcpLen / 65536 + tcpLen % 65536) + 6 := by
      simp only [toNat_addBytes, UInt32.toNat_add, toNat_and_ffff, toNat_shiftRight_16, UInt32.toNat_ofNat']
      rw [show (0 : UInt32).toNat = 0 from rfl, show (6 : UInt32).toNat = 6 from rfl]
      omega
    rw [hsum, wordSum_append _ (by simp [length_slice hip, toBe32]), wordSum_append _ (by simp [length_slice hip]),
      wordSum_toBe32 _ (by omega)]
    rfl

/-! ## What the rewritten fields are -/

theorem byteAt_toBe16 (n : Nat) (h : n < 65536) :
    (be16 (byteAt (toBe16 (UInt16.ofNat n)) 0) (byteAt (toBe16 (UInt16.ofNat n)) 1)).toNat = n := by
  rw [toNat_be16]
  simp only [toBe16, byteAt, List.getD_cons_zero, List.getD_cons_succ, UInt8.toNat_ofNat',
    UInt16.toNat_ofNat']
  omega

/-- The header checksum of an IPv4 packet is the complement of the folded sum of the header. -/
def HeaderChecksum (packet : Bytes) : Prop :=
  wordAt packet 10 = 65535 - onesSum ((setBytes packet 10 [0, 0]).take (ihlOf packet))

instance (packet : Bytes) : Decidable (HeaderChecksum packet) := inferInstanceAs (Decidable (_ = _))

/-- The header checksum is about the header. -/
theorem HeaderChecksum.congr {p q : Bytes} {n : Nat} (h : HeaderChecksum p) (hlen : q.length = p.length)
    (hsame : ∀ i < n, byteAt q i = byteAt p i) (h20 : 20 ≤ n) (hihl : ihlOf p ≤ n) : HeaderChecksum q := by
  have hihlq : ihlOf q = ihlOf p := by unfold ihlOf; rw [hsame 0 (by omega)]
  have htake : (setBytes q 10 [0, 0]).take (ihlOf p) = (setBytes p 10 [0, 0]).take (ihlOf p) := by
    apply ext_byteAt
    · simp [hlen]
    · intro i hi
      rw [List.length_take] at hi
      rw [byteAt_take (by omega), byteAt_take (by omega), byteAt_setBytes, byteAt_setBytes, hlen,
        hsame i (by omega)]
  unfold HeaderChecksum at h ⊢
  rw [hihlq, htake, ← h, wordAt, wordAt, hsame 10 (by omega), hsame 11 (by omega)]

/-- What `update_ipv4_lengths_and_checksum` checks. -/
def Ipv4Writable (packet : Bytes) (n : Nat) : Prop :=
  20 ≤ packet.length ∧ byteAt packet 9 = 6 ∧ 20 ≤ ihlOf packet ∧ ihlOf packet ≤ packet.length ∧ n ≤ 65535

theorem updateIpv4LengthsAndChecksum_eq {packet : Bytes} {n : Nat} (h : Ipv4Writable packet n) :
    updateIpv4LengthsAndChecksum packet n =
      .ok (setBytes (setBytes (setBytes packet 2 (toBe16 (UInt16.ofNat n))) 10 [0, 0]) 10
        (toBe16 (finalizeChecksum (addBytes 0 ((setBytes (setBytes packet 2
          (toBe16 (UInt16.ofNat n))) 10 [0, 0]).take (ihlOf packet)))))) := by
  obtain ⟨h20, hproto, hihl, hihl', hn⟩ := h
  unfold updateIpv4LengthsAndChecksum
  unfold ihlOf at hihl hihl' ⊢
  rw [if_neg (by omega), if_neg (not_not.2 hproto), if_neg (by omega), if_neg (by omega)]

theorem updateIpv4LengthsAndChecksum_error {packet : Bytes} {n : Nat} (h : ¬ Ipv4Writable packet n) :
    ∃ e, updateIpv4LengthsAndChecksum packet n = .error e := by
  unfold updateIpv4LengthsAndChecksum
  split
  · exact ⟨_, rfl⟩
  · split
    · exact ⟨_, rfl⟩
    · next h20 hproto =>
      dsimp only
      split
      · exact ⟨_, rfl⟩
      · next hihl =>
        split
        · exact ⟨_, rfl⟩
        · next hn =>
          refine absurd ?_ h
          unfold Ipv4Writable ihlOf
          exact ⟨by omega, not_not.1 hproto, by omega, by omega, by omega⟩

theorem ihlOf_le (packet : Bytes) : ihlOf packet ≤ 60 := by
  have : (byteAt packet 0 &&& 0x0f).toNat ≤ 15 := by
    rw [UInt8.toNat_and]
    exact Nat.and_le_right
  unfold ihlOf
  omega

/-- The length and the checksum are written, and the header verifies. -/
theorem updateIpv4LengthsAndChecksum_ok {packet : Bytes} {n : Nat} (h : Ipv4Writable packet n) :
    ∃ q, updateIpv4LengthsAndChecksum packet n = .ok q ∧
      SameExcept (fun i => i = 2 ∨ i = 3 ∨ i = 10 ∨ i = 11) q packet ∧
      (be16 (byteAt q 2) (byteAt q 3)).toNat = n ∧ HeaderChecksum q ∧
      Verifies (q.take (ihlOf packet)) := by
  obtain ⟨h20, hproto, hihl, hihl', hn⟩ := id h
  have hsum : ∀ q : Bytes, (addBytes 0 (q.take (ihlOf packet))).toNat = wordSum (q.take (ihlOf packet)) := by
    intro q
    have := ihlOf_le packet
    apply toNat_addBytes_zero
    rw [List.length_take]
    omega
  rw [updateIpv4LengthsAndChecksum_eq h]
  refine ⟨_, rfl, ?_, ?_, ?_, ?_⟩
  · refine (sameExcept_setBytes _ 10 _ ?_).trans ((sameExcept_setBytes _ 10 _ ?_).trans
      (sameExcept_setBytes _ 2 _ ?_)) <;> intro j h1 h2 <;> simp [toBe16] at h2 <;> omega
  · have hbyte : ∀ v k, k < 2 → byteAt (setBytes (setBytes (setBytes packet 2 (toBe16 (UInt16.ofNat n)))
        10 [0, 0]) 10 v) (2 + k) = byteAt (toBe16 (UInt16.ofNat n)) k := by
      intro v k hk
      rw [byteAt_setBytes_of_lt (by omega), byteAt_setBytes_of_lt (by omega), byteAt_setBytes,
        if_pos ⟨by omega, by simp [toBe16]; omega, by omega⟩, Nat.add_sub_cancel_left]
    rw [hbyte _ 0 (by omega), hbyte _ 1 (by omega), byteAt_toBe16 n (by omega)]
  · -- clearing the field again gives what the sum was taken over
    have hihlq : ∀ v, ihlOf (setBytes (setBytes (setBytes packet 2 (toBe16 (UInt16.ofNat n))) 10 [0, 0]) 10 v) =
        ihlOf packet := by
      intro v
      unfold ihlOf
      rw [byteAt_setBytes_of_lt (by omega), byteAt_setBytes_of_lt (by omega), byteAt_setBytes_of_lt (by omega)]
    rw [HeaderChecksum, wordAt_setBytes _ (by simp; omega), hihlq, setBytes_setBytes _ _ (by simp [toBe16]),
      setBytes_setBytes _ _ (by simp), toNat_finalizeChecksum, hsum, onesSum_eq]
  · rw [take_setBytes]
    refine verifies_setBytes [] (j := 5) _ ?_ rfl ?_ ?_
    · simp; omega
    · simp only [wordAt]
      rw [byteAt_take (by omega), byteAt_setBytes, if_pos (by simp; omega), byteAt_take (by omega),
        byteAt_setBytes, if_pos (by simp; omega)]
      rfl
    · rw [toNat_finalizeChecksum, hsum, show wordSum [] = 0 from rfl, Nat.zero_add]

theorem updateIpv6PayloadLength_ok {packet : Bytes} {n : Nat} (h40 : 40 ≤ packet.length)
    (hn : 40 ≤ n) (hn' : n - 40 ≤ 65535) :
    ∃ q, updateIpv6PayloadLength packet n = .ok q ∧ SameExcept (fun i => i = 4 ∨ i = 5) q packet ∧
      (be16 (byteAt q 4) (byteAt q 5)).toNat = n - 40 := by
  unfold updateIpv6PayloadLength
  rw [if_neg (by omega), if_neg (by omega), if_neg (by omega)]
  refine ⟨_, rfl, sameExcept_setBytes _ 4 _ ?_, ?_⟩
  · intro j h1 h2
    simp only [toBe16, List.length_cons, List.length_nil] at h2
    omega
  · rw [byteAt_setBytes, if_pos ⟨by omega, by simp [toBe16], by omega⟩, byteAt_setBytes,
      if_pos ⟨by omega, by simp [toBe16], by omega⟩]
    exact byteAt_toBe16 _ (by omega)

end EzVpn
