import EzVpn.Offload.Checksum

/-!
# Checksum arithmetic

What the accumulators of src/tunnel/offload.rs are worth as numbers.  `add_bytes` adds with
`wrapping_add`; up to 131072 bytes no addition wraps (`addsExactly_of_length`), so its result is the
sum of the words.  The `while` loop of `fold_checksum` is given its own meaning here
(`FoldsTo`), without the bound on its turns that `foldLoop` has: it always ends, in one value
(`foldsTo_iff`).

There are two ways to write zero in one's complement, 0 and `0xffff`, and `carry` keeps them
apart.  That is why completing a field that held the sum of the pseudo-header gives the very
checksum that is computed from scratch, and not only one that verifies too
(`finalizeChecksum_complete`).
-/

namespace EzVpn

open Lib Bytes

/-- No addition of `addBytes sum b` wraps. -/
def AddsExactly (sum : UInt32) : Bytes → Prop
  | [] => True
  | [last] => sum.toNat + (be16 last 0).toNat < 2 ^ 32
  | a :: b :: rest =>
    sum.toNat + (be16 a b).toNat < 2 ^ 32 ∧ AddsExactly (sum + (be16 a b).toUInt32) rest

/-- The `while` loop of `fold_checksum`, started with the first value, ends with the second. -/
inductive FoldsTo : UInt32 → UInt32 → Prop
  | done {sum : UInt32} : sum >>> 16 = 0 → FoldsTo sum sum
  | turn {sum last : UInt32} : sum >>> 16 ≠ 0 →
      FoldsTo ((sum &&& (0xffff : UInt32)) + (sum >>> 16)) last → FoldsTo sum last

/-! ## The accumulator -/

theorem addsExactly_of_lt {sum : UInt32} {b : Bytes} (h : sum.toNat + wordSum b < 2 ^ 32) :
    AddsExactly sum b := by
  induction b using wordSum.induct generalizing sum with
  | case1 => trivial
  | case2 x =>
    show sum.toNat + (be16 x 0).toNat < 2 ^ 32
    rw [wordSum] at h
    rwa [toNat_be16, UInt8.toNat_zero, Nat.add_zero]
  | case3 x y rest ih =>
    rw [wordSum, ← toNat_be16] at h
    refine ⟨by omega, ih ?_⟩
    rw [UInt32.toNat_add, UInt16.toNat_toUInt32, Nat.mod_eq_of_lt (by omega)]
    omega

theorem addsExactly_of_length {b : Bytes} (h : b.length ≤ 131072) : AddsExactly 0 b := by
  apply addsExactly_of_lt
  show 0 + wordSum b < 2 ^ 32
  have := wordSum_lt h
  omega

theorem addBytes_split (b : Bytes) {n : Nat} (hn : n % 2 = 0) :
    addBytes 0 b = addBytes 0 (b.take n) + addBytes 0 (b.drop n) := by
  apply UInt32.toNat_inj.1
  rw [UInt32.toNat_add, toNat_addBytes, toNat_addBytes, toNat_addBytes, ← wordSum_take_add_drop b hn,
    show (0 : UInt32).toNat = 0 from rfl]
  omega

/-! ## The loop over the carries -/

theorem shiftRight_eq_zero_iff (s : UInt32) : s >>> 16 = 0 ↔ s.toNat < 65536 := by
  rw [← UInt32.toNat_inj, toNat_shiftRight_16, show (0 : UInt32).toNat = 0 from rfl]
  omega

theorem FoldsTo.toNat_eq {s r : UInt32} (h : FoldsTo s r) : r.toNat = carry s.toNat := by
  induction h with
  | done hs =>
    rw [shiftRight_eq_zero_iff] at hs
    unfold carry
    split <;> omega
  | turn _ _ ih => rw [ih, toNat_foldStep, carry_fold]

/-- One turn leaves at most 17 bits, a second one 16. -/
theorem exists_foldsTo (s : UInt32) : ∃ r, FoldsTo s r := by
  have step : ∀ s : UInt32, (s >>> 16 ≠ 0 → ∃ r, FoldsTo ((s &&& (0xffff : UInt32)) + (s >>> 16)) r) →
      ∃ r, FoldsTo s r := by
    intro s h
    by_cases hs : s >>> 16 = 0
    · exact ⟨s, .done hs⟩
    · obtain ⟨r, hr⟩ := h hs
      exact ⟨r, .turn hs hr⟩
  have hlt := s.toNat_lt
  apply step
  intro _
  apply step
  intro hs
  refine ⟨_, .done ?_⟩
  rw [ne_eq, shiftRight_eq_zero_iff, toNat_foldStep] at hs
  rw [shiftRight_eq_zero_iff, toNat_foldStep, toNat_foldStep]
  omega

/-- The loop ends, and `foldLoop 3` is what it ends with. -/
theorem foldsTo_iff (s r : UInt32) : FoldsTo s r ↔ r = foldLoop 3 s := by
  have hvalue : ∀ {r}, FoldsTo s r → r = foldLoop 3 s := by
    intro r h
    apply UInt32.toNat_inj.1
    rw [h.toNat_eq, toNat_foldLoop 3 s (by omega)]
  constructor
  · exact hvalue
  · rintro rfl
    obtain ⟨r, hr⟩ := exists_foldsTo s
    rwa [← hvalue hr]

theorem foldChecksum_mod (s : UInt32) : (foldChecksum s).toNat % 65535 = s.toNat % 65535 := by
  rw [toNat_foldChecksum, carry]
  split <;> omega

theorem foldChecksum_eq_zero {s : UInt32} (h : foldChecksum s = 0) : s = 0 := by
  have hzero : carry s.toNat = 0 := by rw [← toNat_foldChecksum, h]; rfl
  apply UInt32.toNat_inj.1
  unfold carry at hzero
  split at hzero
  · assumption
  · omega

/-! ## Writing a checksum -/

/-- The complement of the sum, put where the string has a zero word, makes the sum `0xffff`. -/
theorem foldChecksum_setBytes {b : Bytes} {j : Nat} (hlen : b.length ≤ 131072) (hj : 2 * j + 2 ≤ b.length)
    (h0 : wordAt b (2 * j) = 0) :
    foldChecksum (addBytes 0 (setBytes b (2 * j) (toBe16 (finalizeChecksum (addBytes 0 b))))) = 0xffff := by
  have hverifies : Verifies ([] ++ setBytes b (2 * j) (toBe16 (finalizeChecksum (addBytes 0 b)))) := by
    apply verifies_setBytes [] _ hj rfl h0
    rw [toNat_finalizeChecksum, toNat_addBytes_zero hlen, show wordSum [] = 0 from rfl, Nat.zero_add]
  rw [List.nil_append, Verifies, onesSum_eq] at hverifies
  apply UInt16.toNat_inj.1
  rw [toNat_foldChecksum, toNat_addBytes_zero (by rw [length_setBytes]; exact hlen)]
  exact hverifies

section
variable {isIpv6 : Bool} {packet : Bytes} {tcpOffset j : Nat}

/-- **Completing a checksum** is computing it.  The word at `2 * j` of the segment held the sum
of the pseudo-header. -/
theorem finalizeChecksum_complete {c : UInt16} (hip : (if isIpv6 then 40 else 20) ≤ tcpOffset)
    (hj : tcpOffset + 2 * j + 2 ≤ packet.length) (hlen : packet.length - tcpOffset ≤ 65535)
    (hheld : wordAt packet (tcpOffset + 2 * j) =
      (tcpPseudoHeaderPartial packet isIpv6 (packet.length - tcpOffset)).toNat)
    (hc : IsTcpChecksum isIpv6 (setBytes packet (tcpOffset + 2 * j) [0, 0]) tcpOffset c) :
    c = finalizeChecksum (addBytes 0 (packet.drop tcpOffset)) := by
  have hpseudo : pseudoHeader isIpv6 (setBytes packet (tcpOffset + 2 * j) [0, 0]) =
      pseudoHeader isIpv6 packet := transportPseudoHeader_setBytes _ (by omega)
  have hword : wordAt (packet.drop tcpOffset) (2 * j) =
      carry (wordSum (pseudoHeader isIpv6 packet (packet.length - tcpOffset))) := by
    rw [toNat_tcpPseudoHeaderPartial (by omega) hlen, onesSum_eq] at hheld
    rw [← hheld]
    simp only [wordAt, byteAt_drop]
    rfl
  have hsum : wordSum (setBytes (packet.drop tcpOffset) (2 * j) [0, 0]) + wordAt (packet.drop tcpOffset) (2 * j) =
      wordSum (packet.drop tcpOffset) :=
    wordSum_setBytes _ j 0 0 (by rw [List.length_drop]; omega)
  apply UInt16.toNat_inj.1
  rw [IsTcpChecksum, hpseudo, length_setBytes, drop_setBytes _ _ (by omega), Nat.add_sub_cancel_left] at hc
  rw [hc, toNat_finalizeChecksum, toNat_addBytes_zero (by rw [List.length_drop]; omega), ← hsum, hword,
    carry_add_carry, Nat.add_comm]

end

/-- **The checksum arithmetic is the one's complement sum.** -/
theorem checksum_arithmetic :
    (∀ b : Bytes, b.length ≤ 131072 →
      AddsExactly 0 b ∧ (addBytes 0 b).toNat = wordSum b ∧
      ∀ n, n % 2 = 0 →
        addBytes 0 b = addBytes 0 (b.take n) + addBytes 0 (b.drop n) ∧
        (addBytes 0 b).toNat = (addBytes 0 (b.take n)).toNat + (addBytes 0 (b.drop n)).toNat) ∧
    (∀ s : UInt32,
      (∃ r, FoldsTo s r ∧ (∀ r', FoldsTo s r' → r' = r) ∧ foldChecksum s = r.toUInt16) ∧
      (foldChecksum s).toNat % 65535 = s.toNat % 65535 ∧ (foldChecksum s = 0 → s = 0)) ∧
    (∀ (b : Bytes) (j : Nat), b.length ≤ 131072 → 2 * j + 2 ≤ b.length → wordAt b (2 * j) = 0 →
      foldChecksum (addBytes 0 (setBytes b (2 * j) (toBe16 (finalizeChecksum (addBytes 0 b))))) = 0xffff) ∧
    (∀ (packet : Bytes) (tcpOffset j : Nat), tcpOffset + 2 * j + 2 ≤ packet.length →
      packet.length - tcpOffset ≤ 65535 →
      (20 ≤ tcpOffset →
        wordAt packet (tcpOffset + 2 * j) =
          (tcpPseudoHeaderPartial packet false (packet.length - tcpOffset)).toNat →
        tcpChecksumIpv4 (setBytes packet (tcpOffset + 2 * j) [0, 0]) tcpOffset =
          .ok (finalizeChecksum (addBytes 0 (packet.drop tcpOffset)))) ∧
      (40 ≤ tcpOffset →
        wordAt packet (tcpOffset + 2 * j) =
          (tcpPseudoHeaderPartial packet true (packet.length - tcpOffset)).toNat →
        tcpChecksumIpv6 (setBytes packet (tcpOffset + 2 * j) [0, 0]) tcpOffset =
          .ok (finalizeChecksum (addBytes 0 (packet.drop tcpOffset))))) := by
  refine ⟨?_, ?_, ?_, ?_⟩
  · intro b hb
    refine ⟨addsExactly_of_length hb, toNat_addBytes_zero hb, ?_⟩
    intro n hn
    refine ⟨addBytes_split b hn, ?_⟩
    rw [toNat_addBytes_zero hb, toNat_addBytes_zero (by rw [List.length_take]; omega),
      toNat_addBytes_zero (by rw [List.length_drop]; omega), wordSum_take_add_drop b hn]
  · intro s
    refine ⟨⟨foldLoop 3 s, (foldsTo_iff s _).2 rfl, ?_, rfl⟩, foldChecksum_mod s, foldChecksum_eq_zero⟩
    intro r' h
    exact (foldsTo_iff s r').1 h
  · intro b j hb hj h0
    exact foldChecksum_setBytes hb hj h0
  · intro packet tcpOffset j hj hlen
    have hsame : (setBytes packet (tcpOffset + 2 * j) [0, 0]).length = packet.length := length_setBytes _ _ _
    rw [← hsame] at hlen
    constructor
    · intro h20 hheld
      obtain ⟨c, hok, hc⟩ := tcpChecksumIpv4_ok (by omega) (by omega) hlen
      rw [hok, finalizeChecksum_complete h20 hj (by omega) hheld hc]
    · intro h40 hheld
      obtain ⟨c, hok, hc⟩ := tcpChecksumIpv6_ok (by omega) (by omega) hlen
      rw [hok, finalizeChecksum_complete h40 hj (by omega) hheld hc]

/-- A segment of twenty zeros between zero addresses, with the pseudo-header's sum in its
checksum field. -/
theorem checksum_arithmetic_zeros :
    tcpChecksumIpv4 (setBytes (setBytes (List.replicate 40 0) 36 [0, 26]) 36 [0, 0]) 20 =
      .ok (finalizeChecksum (addBytes 0 ((setBytes (List.replicate 40 0) 36 [0, 26]).drop 20))) :=
  (checksum_arithmetic.2.2.2 _ 20 8 (by decide) (by decide)).1 (by decide) (by decide +kernel)

end EzVpn
