import Mathlib.Data.List.Chain
import EzVpn.Offload.Integrity

/-!
# A segmented burst is merged again

The other direction of the round trip: the segments of a super-frame are planned as one
group, and assembling the group gives the super-frame back, virtio header included, with PSH
cleared (`superframe_remerged`).

The planner goes by each packet and its predecessor, so the segments are shown to be plain
TCP packets that chain (`SegmentOf.plainTcp`, `SegmentOf.canChain`).  The assembler goes by
the first segment; what it has to make up are the fields that depend on the length, and
`PartialFields.ext` says that there is one way to set them.
-/

namespace EzVpn

open Lib Bytes

/-! ## Plain TCP packets -/

/-- A TCP packet with payload, consistent length, no IP options or extension headers, no
fragment, no ECN mark and none of FIN, SYN, RST and URG. -/
structure PlainTcp (isIpv6 : Bool) (p : Bytes) : Prop where
  v4 : isIpv6 = false → byteAt p 0 = 0x45 ∧ byteAt p 9 = 6 ∧
    be16 (byteAt p 6) (byteAt p 7) &&& 0x3fff = 0 ∧ byteAt p 1 &&& 0x03 = 0
  v6 : isIpv6 = true → byteAt p 0 >>> 4 = 6 ∧ byteAt p 6 = 6 ∧
    ((byteAt p 0 <<< 4) ||| (byteAt p 1 >>> 4)) &&& 0x03 = 0
  stated : statedLength isIpv6 p = p.length
  tcp_ge : 20 ≤ tcpHeaderLenAt (ipHeaderLenOf isIpv6) p
  payload : ipHeaderLenOf isIpv6 + tcpHeaderLenAt (ipHeaderLenOf isIpv6) p < p.length
  flags : byteAt p (ipHeaderLenOf isIpv6 + 13) &&& tcpFlagsNoCoalesce = 0

/-- What the planner notes about such a packet. -/
def metaOf (isIpv6 : Bool) (p : Bytes) : TcpSegmentMeta where
  isIpv6 := isIpv6
  ipHeaderLen := ipHeaderLenOf isIpv6
  tcpHeaderLen := tcpHeaderLenAt (ipHeaderLenOf isIpv6) p
  seq := seqAt (ipHeaderLenOf isIpv6) p
  payloadLen := p.length - ipHeaderLenOf isIpv6 - tcpHeaderLenAt (ipHeaderLenOf isIpv6) p

section
variable {isIpv6 : Bool} {p : Bytes} (h : PlainTcp isIpv6 p)
include h

theorem PlainTcp.parseIpHeader : parseIpHeader p = some (isIpv6, ipHeaderLenOf isIpv6) := by
  have hge := h.tcp_ge
  have hpay := h.payload
  have hstated := h.stated
  have hempty : ¬ p.isEmpty = true := by
    rw [List.isEmpty_iff]
    rintro rfl
    rw [List.length_nil] at hpay
    omega
  unfold EzVpn.parseIpHeader
  rw [if_neg hempty]
  cases isIpv6
  · obtain ⟨h0, h9, hfrag, hecn⟩ := h.v4 rfl
    simp only [statedLength, ipHeaderLenOf, Bool.false_eq_true, if_false] at hstated hpay ⊢
    have h4 : byteAt p 0 >>> 4 = 4 := by rw [h0]; rfl
    have h5 : byteAt p 0 &&& 0x0f = 5 := by rw [h0]; rfl
    rw [if_pos h4, if_neg (by omega), if_neg (not_or.2 ⟨not_not.2 h5, not_not.2 h9⟩),
      if_neg (not_not.2 hfrag), if_neg (not_not.2 hecn), if_neg (not_not.2 hstated)]
  · obtain ⟨h6, hnext, hecn⟩ := h.v6 rfl
    simp only [statedLength, ipHeaderLenOf, if_true] at hstated hpay ⊢
    have h4 : ¬ byteAt p 0 >>> 4 = 4 := by rw [h6]; decide
    rw [if_neg h4, if_pos h6, if_neg (by omega), if_neg (not_not.2 hnext), if_neg (not_not.2 hecn),
      if_neg (by omega)]

theorem PlainTcp.parse : parseCoalescibleTcp p = some (metaOf isIpv6 p) := by
  have hge := h.tcp_ge
  have hpay := h.payload
  unfold parseCoalescibleTcp
  rw [h.parseIpHeader]
  unfold tcpHeaderLenAt at hge hpay
  dsimp only
  rw [if_neg (by omega), if_neg (by omega), if_neg (not_not.2 h.flags), if_neg (by omega)]
  rfl

end

/-! ## The segments -/

/-- The segmenter clears FIN and PSH, and FIN is not set. -/
theorem clear_fin_psh (b : UInt8) (h : b &&& tcpFlagsNoCoalesce = 0) :
    b &&& ~~~(0x01 ||| 0x08) = b &&& ~~~0x08 ∧ (b &&& ~~~0x08) &&& tcpFlagsNoCoalesce = 0 := by
  revert b
  exact byte_forall (by decide +kernel)

/-! The header bytes that the segmenter leaves alone. -/

theorem not_changed_tcp {isIpv6 : Bool} {t k : Nat} (ht : ipHeaderLenOf isIpv6 ≤ t) (hk : t ≤ k)
    (hseq : ¬ (t + 4 ≤ k ∧ k < t + 8)) (hrest : k ≠ t + 13 ∧ k ≠ t + 16 ∧ k ≠ t + 17) :
    ¬ Changed isIpv6 t k := by
  have h20 := ipHeaderLenOf_ge isIpv6
  rintro (hf | hf)
  · have := hf.bounds.1
    omega
  · omega

theorem not_changed_ipv4 {k : Nat} (hk : k < 20) (h : k ≠ 2 ∧ k ≠ 3 ∧ k ≠ 10 ∧ k ≠ 11) :
    ¬ Changed false (ipHeaderLenOf false) k := by
  simp only [Changed, LengthField, ipHeaderLenOf, Bool.false_eq_true, if_false]
  omega

theorem not_changed_ipv6 {k : Nat} (hk : k < 40) (h : k ≠ 4 ∧ k ≠ 5) :
    ¬ Changed true (ipHeaderLenOf true) k := by
  simp only [Changed, LengthField, ipHeaderLenOf, if_true]
  omega

section
variable {ip c out : Bytes} {t h offset : Nat} {last : Bool} (hs : SegmentOf ip t h c offset last out)
  (hip : PlainTcp (isV6 ip) ip) (ht : t = ipHeaderLenOf (isV6 ip)) (hh : h = t + tcpHeaderLenAt t ip)
include hs hip ht hh

theorem SegmentOf.byteAt_kept {i : Nat} (hi : i < h) (hc : ¬ Changed (isV6 ip) t i) :
    byteAt out i = byteAt ip i := by
  have := hip.payload
  rw [← ht] at this
  exact hs.byteAt_header (by omega) hi hc

theorem SegmentOf.tcpHeaderLenAt_eq : tcpHeaderLenAt t out = tcpHeaderLenAt t ip := by
  have hge := hip.tcp_ge
  rw [← ht] at hge
  rw [tcpHeaderLenAt, tcpHeaderLenAt, hs.byteAt_kept hip ht hh (by omega)]
  exact not_changed_tcp (Nat.le_of_eq ht.symm) (by omega) (by omega) (by omega)

theorem SegmentOf.length_eq : out.length = h + c.length := by
  have := hip.payload
  rw [← ht] at this
  rw [hs.same.1, length_take_append (by omega)]

/-- What the planner notes about a segment. -/
theorem SegmentOf.metaOf_eq : metaOf (isV6 ip) out =
    ⟨isV6 ip, t, tcpHeaderLenAt t ip, seqAt t ip + UInt32.ofNat offset, c.length⟩ := by
  rw [metaOf, ← ht, hs.tcpHeaderLenAt_eq hip ht hh, hs.seqAt_eq, hs.length_eq hip ht hh, hh]
  congr 1
  omega

/-- **A segment of a plain TCP packet is one.** -/
theorem SegmentOf.plainTcp (hc : 0 < c.length) : PlainTcp (isV6 ip) out := by
  have h20 := ipHeaderLenOf_ge (isV6 ip)
  have hge := hip.tcp_ge
  have htcp := hs.tcpHeaderLenAt_eq hip ht hh
  have hlen := hs.length_eq hip ht hh
  have hkept := fun {i} => hs.byteAt_kept hip ht hh (i := i)
  refine ⟨fun h4 => ?_, fun h6 => ?_, hs.stated, ?_, ?_, ?_⟩
  · rw [ht, h4] at hkept
    have hn : ∀ i ∈ [0, 1, 6, 7, 9], ¬ Changed false (ipHeaderLenOf false) i :=
      fun i hi => not_changed_ipv4 (by revert i; decide) (by revert i; decide)
    rw [hkept (by omega) (hn 0 (by simp)), hkept (by omega) (hn 1 (by simp)), hkept (by omega) (hn 6 (by simp)),
      hkept (by omega) (hn 7 (by simp)), hkept (by omega) (hn 9 (by simp))]
    exact hip.v4 h4
  · rw [ht, h6] at hkept
    have hn : ∀ i ∈ [0, 1, 6], ¬ Changed true (ipHeaderLenOf true) i :=
      fun i hi => not_changed_ipv6 (by revert i; decide) (by revert i; decide)
    rw [hkept (by omega) (hn 0 (by simp)), hkept (by omega) (hn 1 (by simp)), hkept (by omega) (hn 6 (by simp))]
    exact hip.v6 h6
  · rw [← ht, htcp, ht]
    exact hge
  · rw [← ht, htcp]
    omega
  · have hflags := hs.flags
    rw [ht] at hflags
    rw [hflags]
    split
    · exact hip.flags
    · rw [(clear_fin_psh _ hip.flags).1]
      exact (clear_fin_psh _ hip.flags).2

end

/-- **Consecutive segments chain.** -/
theorem SegmentOf.canChain {ip c c' out out' : Bytes} {t h offset : Nat} {last last' : Bool}
    (hs : SegmentOf ip t h c offset last out) (hs' : SegmentOf ip t h c' (offset + c.length) last' out')
    (hip : PlainTcp (isV6 ip) ip) (ht : t = ipHeaderLenOf (isV6 ip)) (hh : h = t + tcpHeaderLenAt t ip) :
    canChain out (metaOf (isV6 ip) out) out' (metaOf (isV6 ip) out') = true := by
  have hge := hip.tcp_ge
  have hlen := hs.length_eq hip ht hh
  have hlen' := hs'.length_eq hip ht hh
  have hkept : ∀ i < h, ¬ Changed (isV6 ip) t i → byteAt out i = byteAt out' i := fun i hi hc =>
    (hs.byteAt_kept hip ht hh hi hc).trans (hs'.byteAt_kept hip ht hh hi hc).symm
  -- a stretch of the header without a field that changes
  have hslice : ∀ i j, j ≤ h → (∀ k, i ≤ k → k < j → ¬ Changed (isV6 ip) t k) →
      slice out i j = slice out' i j := fun i j hj hc =>
    slice_congr (by omega) (by omega) fun k h1 h2 => hkept k (by omega) (hc k h1 h2)
  rw [← ht] at hge
  rw [hs.metaOf_eq hip ht hh, hs'.metaOf_eq hip ht hh, EzVpn.canChain]
  dsimp only
  rw [if_neg (by simp), if_neg, if_neg, if_neg, decide_eq_true_eq, UInt32.ofNat_add, UInt32.add_assoc]
  · simp only [not_or, not_not]
    refine ⟨hslice _ _ (by omega) ?_, hslice _ _ (by omega) ?_, hslice _ _ (by omega) ?_,
      hslice _ _ (by omega) ?_⟩ <;>
    · intro k h1 h2
      exact not_changed_tcp (Nat.le_of_eq ht.symm) (by omega) (by omega) (by omega)
  · rintro ⟨h4, hor⟩
    rw [Bool.not_eq_true] at h4
    rw [h4] at ht hkept hslice
    subst ht
    have h20 : ipHeaderLenOf false = 20 := rfl
    rcases hor with hor | hor | hor
    · exact hor (hkept 1 (by omega) (not_changed_ipv4 (by omega) (by omega)))
    · exact hor (hkept 8 (by omega) (not_changed_ipv4 (by omega) (by omega)))
    · exact hor (hslice 12 20 (by omega) fun k h1 h2 => not_changed_ipv4 h2 (by omega))
  · rintro ⟨h6, hor⟩
    rw [h6] at ht hkept hslice
    subst ht
    have h40 : ipHeaderLenOf true = 40 := rfl
    rcases hor with hor | hor | hor
    · exact hor (hslice 0 4 (by omega) fun k h1 h2 => not_changed_ipv6 (by omega) (by omega))
    · exact hor (hslice 8 40 (by omega) fun k h1 h2 => not_changed_ipv6 h2 (by omega))
    · exact hor (hkept 7 (by omega) (not_changed_ipv6 (by omega) (by omega)))

/-! ## The plan -/

/-- The packet `b` may follow `a` in a group. -/
def Follows (isIpv6 : Bool) (a b : Bytes) : Prop :=
  canChain a (metaOf isIpv6 a) b (metaOf isIpv6 b) = true

section
variable {isIpv6 : Bool} {g h : Nat}

theorem payloadLen_metaOf {p : Bytes} (hh : (metaOf isIpv6 p).headerLen = h) :
    (metaOf isIpv6 p).payloadLen = (p.drop h).length := by
  rw [← hh, List.length_drop]
  exact Nat.sub_sub _ _ _

/-- **The group is not closed early**: the inner loop takes all packets that follow. -/
theorem groupEnd_chain (rest : List Bytes) : ∀ (merged stop : Nat) (last : Bytes),
    (∀ p ∈ rest, PlainTcp isIpv6 p ∧ (metaOf isIpv6 p).headerLen = h) →
    (last :: rest).IsChain (Follows isIpv6) → Uniform g (rest.map (·.drop h)) →
    merged + (rest.flatMap (·.drop h)).length ≤ 65535 →
    groupEnd g merged last (metaOf isIpv6 last) stop rest = stop + rest.length := by
  induction rest with
  | nil => intro merged stop last _ _ _ _; rfl
  | cons p rest ih =>
    intro merged stop last hplain hchain huni hfits
    obtain ⟨hp, hhead⟩ := hplain p List.mem_cons_self
    have hpay := payloadLen_metaOf hhead
    obtain ⟨hfollows, hchain'⟩ := List.isChain_cons_cons.1 hchain
    rw [List.flatMap_cons, List.length_append] at hfits
    have hgo : (p.drop h).length ≤ g → ¬ ((metaOf isIpv6 p).payloadLen > g ∨
        merged + (metaOf isIpv6 p).payloadLen > 65535 ∨
        !canChain last (metaOf isIpv6 last) p (metaOf isIpv6 p)) := by
      intro hle
      rw [hpay, show canChain last (metaOf isIpv6 last) p (metaOf isIpv6 p) = true from hfollows]
      rintro (h1 | h1 | h1)
      · omega
      · omega
      · cases h1
    rw [groupEnd, hp.parse]
    dsimp only
    cases rest with
    | nil =>
      rw [if_neg (hgo huni.2)]
      split <;> rfl
    | cons q rest =>
      obtain ⟨hfull, huni'⟩ : (p.drop h).length = g ∧ _ := huni
      rw [if_neg (hgo (Nat.le_of_eq hfull)), if_neg (by omega),
        ih _ _ _ (fun r hr => hplain r (List.mem_cons_of_mem _ hr)) hchain' huni' (by omega)]
      simp only [List.length_cons]
      omega

theorem planTunWriteGroups_chain {p : Bytes} {rest : List Bytes} (hne : rest ≠ [])
    (hplain : ∀ q ∈ p :: rest, PlainTcp isIpv6 q ∧ (metaOf isIpv6 q).headerLen = h)
    (hchain : (p :: rest).IsChain (Follows isIpv6)) (huni : Uniform g ((p :: rest).map (·.drop h)))
    (hfits : h + ((p :: rest).flatMap (·.drop h)).length ≤ 65535) :
    planTunWriteGroups (p :: rest) = [(0, (p :: rest).length, true)] := by
  obtain ⟨hp, hhead⟩ := hplain p List.mem_cons_self
  have hpay := payloadLen_metaOf hhead
  obtain ⟨hfull, huni'⟩ : (p.drop h).length = g ∧ Uniform g (rest.map (·.drop h)) := by
    cases rest with
    | nil => exact absurd rfl hne
    | cons q rest => exact huni
  rw [List.flatMap_cons, List.length_append] at hfits
  have hstop := groupEnd_chain (g := g) rest ((metaOf isIpv6 p).headerLen + (metaOf isIpv6 p).payloadLen) 1 p
    (fun q hq => hplain q (List.mem_cons_of_mem _ hq)) hchain huni' (by omega)
  have hlen := List.length_pos_of_ne_nil hne
  rw [planTunWriteGroups, List.length_cons, planLoop, hp.parse]
  dsimp only
  rw [hpay, hfull] at hstop ⊢
  rw [hstop, Nat.zero_add, Nat.add_sub_cancel_left, List.drop_length, decide_eq_true (by omega), Nat.add_comm]
  cases rest.length <;> rfl

end

/-- One group over everything is a run. -/
theorem Tiles.run_of_one {i n : Nat} {ps : List Bytes} (h : Tiles i ps [(i, n, true)]) :
    ∃ m p rest, ps = p :: rest ∧ Run m p rest := by
  cases h with
  | @run _ m p ps rest _ hrun hrest =>
    cases hrest
    exact ⟨m, p, ps, by rw [List.append_nil], hrun⟩

/-! ## The fields that depend on the length -/

section
variable {isIpv6 : Bool} {t : Nat} {p q : Bytes} (hp : PartialFields isIpv6 t p) (hq : PartialFields isIpv6 t q)
  (hsame : SameExcept (fun i => LengthField isIpv6 i ∨ i = t + 16 ∨ i = t + 17) p q)
  (ht : ipHeaderLenOf isIpv6 ≤ t)
include hp hq hsame ht

omit ht in
/-- The header checksum is over the rest of the header. -/
theorem PartialFields.wordAt_ipChecksum (h4 : isIpv6 = false) (hihl : ihlOf q = 20)
    (hrest : ∀ j < 20, j ≠ 10 → j ≠ 11 → byteAt p j = byteAt q j) : wordAt p 10 = wordAt q 10 := by
  have hihlp : ihlOf p = 20 := by
    rw [← hihl, ihlOf, ihlOf, hrest 0 (by omega) (by omega) (by omega)]
  have htake : (setBytes p 10 [0, 0]).take 20 = (setBytes q 10 [0, 0]).take 20 := by
    apply ext_byteAt
    · simp [hsame.1]
    · intro j hj
      rw [List.length_take, length_setBytes, hsame.1] at hj
      rw [byteAt_take (by omega), byteAt_take (by omega), byteAt_setBytes, byteAt_setBytes, hsame.1]
      split
      · rfl
      · next hout =>
        simp only [List.length_cons, List.length_nil] at hout
        exact hrest j (by omega) (by omega) (by omega)
  have hckp := hp.ipChecksum h4
  have hckq := hq.ipChecksum h4
  rw [HeaderChecksum, hihlp, htake] at hckp
  rw [HeaderChecksum, hihl] at hckq
  rw [hckp, hckq]

/-- The length, then the checksum over the header. -/
theorem PartialFields.byteAt_lengthField (hihl : isIpv6 = false → ihlOf q = 20) {i : Nat}
    (hi : LengthField isIpv6 i) : byteAt p i = byteAt q i := by
  have hstated : statedLength isIpv6 p = statedLength isIpv6 q := by rw [hp.stated, hq.stated, hsame.1]
  unfold statedLength at hstated
  cases isIpv6
  · simp only [Bool.false_eq_true, if_false] at hstated
    obtain ⟨h2, h3⟩ := be16_inj hstated
    have hrest : ∀ j < 20, j ≠ 10 → j ≠ 11 → byteAt p j = byteAt q j := by
      intro j hj h10 h11
      by_cases hlen : j = 2 ∨ j = 3
      · rcases hlen with rfl | rfl
        · exact h2
        · exact h3
      · have : ipHeaderLenOf false = 20 := rfl
        refine hsame.2 j ?_
        unfold LengthField
        simp only [Bool.false_eq_true, if_false]
        omega
    obtain ⟨h10, h11⟩ := wordAt_inj (hp.wordAt_ipChecksum hq hsame rfl (hihl rfl) hrest)
    rcases hi with rfl | rfl | rfl | rfl
    · exact h2
    · exact h3
    · exact h10
    · exact h11
  · simp only [if_true] at hstated
    obtain ⟨h4, h5⟩ := be16_inj (Nat.add_left_cancel hstated)
    rcases hi with rfl | rfl
    · exact h4
    · exact h5

/-- **There is one way to set the fields.** -/
theorem PartialFields.ext (hihl : isIpv6 = false → ihlOf q = 20) (hlen : t + 18 ≤ q.length) : p = q := by
  have hlength : ∀ i, i ≠ t + 16 → i ≠ t + 17 → byteAt p i = byteAt q i := by
    intro i h1 h2
    by_cases hi : LengthField isIpv6 i
    · exact hp.byteAt_lengthField hq hsame ht hihl hi
    · exact hsame.2 i (by rintro (h | h | h); exacts [hi h, h1 h, h2 h])
  have hpseudo : pseudoHeader isIpv6 p (p.length - t) = pseudoHeader isIpv6 q (q.length - t) := by
    have h20 := ipHeaderLenOf_ge isIpv6
    unfold pseudoHeader
    rw [hsame.1]
    cases isIpv6
    · simp only [Bool.false_eq_true, if_false]
      rw [slice_congr (by rw [hsame.1]; omega) (by omega) fun k _ _ => hlength k (by omega) (by omega)]
    · have : 40 ≤ t := ht
      simp only [if_true]
      rw [slice_congr (by rw [hsame.1]; omega) (by omega) fun k _ _ => hlength k (by omega) (by omega)]
  obtain ⟨h16, h17⟩ := wordAt_inj (hp.tcpChecksum.trans ((congrArg onesSum hpseudo).trans hq.tcpChecksum.symm))
  refine ext_byteAt hsame.1 fun i _ => ?_
  by_cases h1 : i = t + 16
  · rw [h1]; exact h16
  · by_cases h2 : i = t + 17
    · rw [h2]; exact h17
    · exact hlength i h1 h2

end

/-- The flags are not among what the fields depend on. -/
theorem PartialFields.set_flags {isIpv6 : Bool} {t : Nat} {p : Bytes} (h : PartialFields isIpv6 t p)
    (ht : ipHeaderLenOf isIpv6 ≤ t) (hihl : isIpv6 = false → ihlOf p = 20) (b : UInt8) :
    PartialFields isIpv6 t (p.set (t + 13) b) := by
  have h20 := ipHeaderLenOf_ge isIpv6
  have hset : ∀ i, i ≠ t + 13 → byteAt (p.set (t + 13) b) i = byteAt p i := by
    intro i hi
    rw [byteAt_set, if_neg fun h => hi h.1.symm]
  refine ⟨?_, fun h4 => ?_, ?_⟩
  · rw [List.length_set, ← h.stated]
    exact statedLength_congr _ fun i _ _ => hset i (by omega)
  · exact (h.ipChecksum h4).congr (by simp) (n := 20) (fun i hi => hset i (by omega)) (Nat.le_refl _)
      (Nat.le_of_eq (hihl h4))
  · rw [wordAt, hset _ (by omega), hset _ (by omega), List.length_set]
    show wordAt p (t + 16) = _
    rw [h.tcpChecksum]
    congr 1
    exact (congrFun (transportPseudoHeader_setBytes [b] (Nat.le_trans ht (by omega))) _).symm

/-! ## Super-frames -/

/-- A well-formed TCP super-frame: what the virtio header says is so. -/
structure Superframe (offload : VirtioNetHdr) (ip : Bytes) : Prop where
  plain : PlainTcp (isV6 ip) ip
  fields : PartialFields (isV6 ip) (ipHeaderLenOf (isV6 ip)) ip
  length : ip.length ≤ 65535
  flags : offload.flags = virtioNetHdrFNeedsCsum
  gsoType : offload.gsoType = if isV6 ip then virtioNetHdrGsoTcpv6 else virtioNetHdrGsoTcpv4
  csumStart : offload.csumStart.toNat = ipHeaderLenOf (isV6 ip)
  csumOffset : offload.csumOffset = 16
  hdrLen : offload.hdrLen.toNat = ipHeaderLenOf (isV6 ip) + tcpHeaderLenAt (ipHeaderLenOf (isV6 ip)) ip
  gsoSize : 0 < offload.gsoSize.toNat
  more : offload.gsoSize.toNat < (ip.drop offload.hdrLen.toNat).length

section
variable {offload : VirtioNetHdr} {ip : Bytes} (h : Superframe offload ip)
include h

theorem Superframe.ihlOf (h4 : isV6 ip = false) : EzVpn.ihlOf ip = 20 := by
  rw [EzVpn.ihlOf, (h.plain.v4 h4).1]
  rfl

theorem Superframe.ipHeaderLen : EzVpn.ipHeaderLen ip = ipHeaderLenOf (isV6 ip) := by
  unfold EzVpn.ipHeaderLen ipHeaderLenOf
  split
  · rfl
  · next h6 => exact h.ihlOf (by simpa using h6)

theorem Superframe.segmentFits : SegmentFits ip (offload.hdrLen.toNat + offload.gsoSize.toNat) := by
  have hmore := h.more
  have hlength := h.length
  rw [List.length_drop] at hmore
  unfold SegmentFits
  split
  · omega
  · next h6 =>
    have h4 : isV6 ip = false := by simpa using h6
    exact ⟨(h.plain.v4 h4).2.1, Nat.le_of_eq (h.ihlOf h4).symm, by omega⟩

theorem Superframe.normalizedGsoType : offload.normalizedGsoType =
    if isV6 ip then virtioNetHdrGsoTcpv6 else virtioNetHdrGsoTcpv4 := by
  rw [VirtioNetHdr.normalizedGsoType, h.gsoType]
  cases isV6 ip <;> decide

theorem Superframe.isTcpGso : offload.isTcpGso = true := by
  have hsize : offload.gsoSize ≠ 0 := by
    intro h0
    have hpos := h.gsoSize
    rw [h0] at hpos
    exact absurd hpos (by decide)
  unfold VirtioNetHdr.isTcpGso
  rw [h.normalizedGsoType]
  cases isV6 ip <;> simpa using hsize

/-- The segments. -/
theorem Superframe.segments : ∃ segs, segmentTcpGsoPacket offload ip = .ok segs ∧
    segs.length = chunkCount offload.gsoSize.toNat (ip.drop offload.hdrLen.toNat).length ∧
    ∀ j (hj : j < segs.length), SegmentOf ip (ipHeaderLenOf (isV6 ip)) offload.hdrLen.toNat
      (chunk offload.gsoSize.toNat (ip.drop offload.hdrLen.toNat) j) (j * offload.gsoSize.toNat)
      (decide (j + 1 = segs.length)) segs[j] := by
  have hplain := h.plain
  have hlength := h.length
  have hversion : byteAt ip 0 >>> 4 = ipVersion (isV6 ip) := by
    cases h6 : isV6 ip
    · rw [(hplain.v4 h6).1]; rfl
    · exact (hplain.v6 h6).1
  have hneeds : offload.needsChecksum = true := by
    rw [VirtioNetHdr.needsChecksum, h.flags]
    decide
  have hlayout := gsoLayout_eq h.isTcpGso hversion h.normalizedGsoType hneeds
    (by rw [h.csumStart]; exact hplain.tcp_ge) (by rw [h.csumStart]; exact Nat.le_of_lt hplain.payload)
  rw [h.csumStart, ← h.hdrLen] at hlayout
  exact segmentTcpGsoPacket_many offload ip hlayout rfl rfl (Nat.le_of_eq h.ipHeaderLen) h.more
    (by rw [List.length_drop]; omega) h.segmentFits

/-- The assembler makes the virtio header up from the first segment. -/
theorem Superframe.superframeHdr_toBytes {m : TcpSegmentMeta} (h6 : m.isIpv6 = isV6 ip)
    (hip : m.ipHeaderLen = ipHeaderLenOf (isV6 ip)) (hhead : m.headerLen = offload.hdrLen.toNat)
    (hpay : m.payloadLen = offload.gsoSize.toNat) : (superframeHdr m).toBytes = offload.toBytes := by
  have hcsum : offload.csumStart = UInt16.ofNat m.ipHeaderLen := by
    rw [hip, ← h.csumStart, UInt16.ofNat_toNat]
  have hhdr : offload.hdrLen = UInt16.ofNat m.headerLen := by rw [hhead, UInt16.ofNat_toNat]
  have hsize : offload.gsoSize = UInt16.ofNat m.payloadLen := by rw [hpay, UInt16.ofNat_toNat]
  unfold VirtioNetHdr.toBytes superframeHdr
  rw [h.flags, h.gsoType, hhdr, hsize, hcsum, h.csumOffset, h6]

variable {segs : List Bytes}
  (hcount : segs.length = chunkCount offload.gsoSize.toNat (ip.drop offload.hdrLen.toNat).length)
  (hall : ∀ j (hj : j < segs.length), SegmentOf ip (ipHeaderLenOf (isV6 ip)) offload.hdrLen.toNat
    (chunk offload.gsoSize.toNat (ip.drop offload.hdrLen.toNat) j) (j * offload.gsoSize.toNat)
    (decide (j + 1 = segs.length)) segs[j])
include hcount hall

omit hall in
theorem Superframe.two : 2 ≤ segs.length := by
  rw [hcount]
  exact (lt_chunkCount_iff h.gsoSize _ 1).2 (by rw [Nat.one_mul]; exact h.more)

theorem Superframe.flatMap_drop : segs.flatMap (·.drop offload.hdrLen.toNat) = ip.drop offload.hdrLen.toNat := by
  have hge := h.plain.tcp_ge
  have hpay := h.plain.payload
  have hdr := h.hdrLen
  exact flatMap_drop_segments (by omega) (by omega) hall h.gsoSize hcount

theorem Superframe.plainTcp {p : Bytes} (hp : p ∈ segs) :
    PlainTcp (isV6 ip) p ∧ (metaOf (isV6 ip) p).headerLen = offload.hdrLen.toNat := by
  obtain ⟨j, hj, rfl⟩ := List.getElem_of_mem hp
  have hs := hall j hj
  refine ⟨hs.plainTcp h.plain rfl h.hdrLen (length_chunk_pos h.gsoSize (by omega)), ?_⟩
  rw [h.hdrLen, ← hs.tcpHeaderLenAt_eq h.plain rfl h.hdrLen]
  rfl

theorem Superframe.isChain : segs.IsChain (Follows (isV6 ip)) := by
  rw [List.isChain_iff_getElem]
  intro j hj
  have hs' := hall (j + 1) hj
  have hfull := length_chunk_of_lt h.gsoSize (l := ip.drop offload.hdrLen.toNat) (j := j) (by omega)
  have hoffset : (j + 1) * offload.gsoSize.toNat = j * offload.gsoSize.toNat +
      (chunk offload.gsoSize.toNat (ip.drop offload.hdrLen.toNat) j).length := by
    rw [hfull, Nat.succ_mul]
  rw [hoffset] at hs'
  exact (hall j (by omega)).canChain hs' h.plain rfl h.hdrLen

theorem Superframe.uniform : Uniform offload.gsoSize.toNat (segs.map (·.drop offload.hdrLen.toNat)) := by
  have hge := h.plain.tcp_ge
  have hpay := h.plain.payload
  have hdr := h.hdrLen
  rw [map_drop_segments (by omega) (by omega) hall]
  refine Uniform.of_getElem fun j hj => ?_
  rw [List.length_map, List.length_range] at hj ⊢
  rw [List.getElem_map, List.getElem_range]
  exact ⟨length_chunk_pos h.gsoSize (by omega), length_chunk_le _ _ _,
    fun hlt => length_chunk_of_lt h.gsoSize (by omega)⟩

/-- **One group.** -/
theorem Superframe.plan : planTunWriteGroups segs = [(0, segs.length, true)] := by
  have htwo := h.two hcount
  have hlength := h.length
  have hmore := h.more
  have hdrop := h.flatMap_drop hcount hall
  rw [List.length_drop] at hmore
  have hplain := fun p => h.plainTcp hcount hall (p := p)
  have hchain := h.isChain hcount hall
  have huni := h.uniform hcount hall
  cases segs with
  | nil => cases htwo
  | cons p rest =>
    refine planTunWriteGroups_chain ?_ hplain hchain huni ?_
    · rintro rfl
      exact absurd htwo (by simp)
    · rw [hdrop, List.length_drop]
      omega

/-- What the assembler starts from: the header of the first segment and all payloads. -/
theorem Superframe.header_append {p : Bytes} (hp : segs.head? = some p) :
    SameExcept (fun i => LengthField (isV6 ip) i ∨ i = ipHeaderLenOf (isV6 ip) + 16 ∨
      i = ipHeaderLenOf (isV6 ip) + 17) (p.take offload.hdrLen.toNat ++ ip.drop offload.hdrLen.toNat)
      (ip.set (ipHeaderLenOf (isV6 ip) + 13) (byteAt ip (ipHeaderLenOf (isV6 ip) + 13) &&& ~~~0x08)) := by
  have htwo := h.two hcount
  have hge := h.plain.tcp_ge
  have hpay := h.plain.payload
  have hdr := h.hdrLen
  obtain ⟨rest, rfl⟩ : ∃ rest, segs = p :: rest := by
    cases segs with
    | nil => cases hp
    | cons q rest => exact ⟨rest, by rw [Option.some.inj hp]⟩
  have hs := hall 0 (by omega)
  rw [decide_eq_false (show ¬ 0 + 1 = (p :: rest).length by omega), Nat.zero_mul, List.getElem_cons_zero] at hs
  have hlen := hs.length_eq h.plain rfl hdr
  have htake : (p.take offload.hdrLen.toNat).length = offload.hdrLen.toNat := by rw [List.length_take]; omega
  refine ⟨?_, fun i hi => ?_⟩
  · rw [List.length_append, htake, List.length_drop, List.length_set]
    omega
  · rw [byteAt_set]
    by_cases hlt : i < offload.hdrLen.toNat
    · rw [byteAt_append_left (by omega), byteAt_take hlt]
      by_cases h13 : i = ipHeaderLenOf (isV6 ip) + 13
      · rw [if_pos ⟨h13.symm, by omega⟩, h13, hs.flags, if_neg (by simp)]
        exact (clear_fin_psh _ h.plain.flags).1
      · rw [if_neg fun hc => h13 hc.1.symm]
        by_cases hseq : ipHeaderLenOf (isV6 ip) + 4 ≤ i ∧ i < ipHeaderLenOf (isV6 ip) + 8
        · have hq := hs.seq (i - (ipHeaderLenOf (isV6 ip) + 4)) (by omega)
          rw [show UInt32.ofNat 0 = 0 from rfl, UInt32.add_zero, byteAt_toBe32_seqAt (by omega),
            Nat.add_sub_cancel' hseq.1] at hq
          exact hq
        · refine hs.byteAt_kept h.plain rfl hdr hlt ?_
          rintro (hc | hc | hc | hc)
          · exact hi (Or.inl hc)
          · exact hseq hc
          · exact h13 hc
          · exact hi (Or.inr hc)
    · rw [byteAt_append_right (by omega), htake, byteAt_drop, Nat.add_sub_cancel' (by omega), if_neg (by omega)]

end

/-- **A segmented burst is merged again, exactly.**  Planning the segments of a super-frame
gives one group, and assembling it the virtio header and the super-frame, with PSH cleared. -/
theorem superframe_remerged (offload : VirtioNetHdr) (ip : Bytes) (h : Superframe offload ip) :
    ∃ segs, segmentTcpGsoPacket offload ip = .ok segs ∧
      planTunWriteGroups segs = [(0, segs.length, true)] ∧
      assembleTcpGsoSuperframe (members segs (0, segs.length, true)) =
        .ok (offload.toBytes ++ ip.set (ipHeaderLenOf (isV6 ip) + 13)
          (byteAt ip (ipHeaderLenOf (isV6 ip) + 13) &&& ~~~0x08)) := by
  obtain ⟨segs, hsegs, hcount, hall⟩ := h.segments
  have hplan := h.plan hcount hall
  refine ⟨segs, hsegs, hplan, ?_⟩
  have hdrop := h.flatMap_drop hcount hall
  have htiles := plan_tiles segs
  rw [hplan] at htiles
  obtain ⟨m, p, rest, rfl, hrun⟩ := htiles.run_of_one
  obtain ⟨hp, hhead⟩ := h.plainTcp hcount hall List.mem_cons_self
  obtain rfl : metaOf (isV6 ip) p = m := Option.some.inj (hp.parse.symm.trans hrun.parse)
  have hpay : (metaOf (isV6 ip) p).payloadLen = offload.gsoSize.toNat := by
    have huni := h.uniform hcount hall
    have htwo := h.two hcount
    rw [payloadLen_metaOf hhead]
    cases rest with
    | nil => exact absurd htwo (by simp)
    | cons q rest => exact huni.1
  obtain ⟨ip', hasm, hsame, hfields⟩ := assemble_ok hrun
  have hmem : members (p :: rest) (0, (p :: rest).length, true) = p :: rest := by simp [members]
  rw [hmem, hasm, h.superframeHdr_toBytes rfl rfl hhead hpay]
  rw [payloads, hhead, hdrop] at hsame
  have heq := hfields.ext (h.fields.set_flags (Nat.le_refl _) h.ihlOf _)
    (hsame.trans (h.header_append hcount hall rfl)) (Nat.le_refl _) ?_ ?_
  · rw [heq]
  · intro h4
    rw [ihlOf, byteAt_set, if_neg (by omega)]
    exact h.ihlOf h4
  · have hge := h.plain.tcp_ge
    have hlt := h.plain.payload
    show ipHeaderLenOf (isV6 ip) + 18 ≤ _
    rw [List.length_set]
    omega

theorem superframe_threeBytes : Superframe threeBytesHdr threeBytes := by
  have h6 : isV6 threeBytes = false := by decide
  refine ⟨⟨fun _ => by decide, fun h => absurd (h6.symm.trans h) (by decide), ?_, ?_, ?_, ?_⟩,
    ⟨?_, fun _ => ?_, ?_⟩, ?_, ?_, ?_, ?_, ?_, ?_, ?_, ?_⟩ <;> decide +kernel

theorem superframe_remerged_threeBytes :
    ∃ segs, segmentTcpGsoPacket threeBytesHdr threeBytes = .ok segs ∧
      planTunWriteGroups segs = [(0, segs.length, true)] ∧
      assembleTcpGsoSuperframe (members segs (0, segs.length, true)) =
        .ok (threeBytesHdr.toBytes ++ threeBytes) := by
  have h := superframe_remerged threeBytesHdr threeBytes superframe_threeBytes
  rwa [show threeBytes.set _ _ = threeBytes by decide +kernel] at h

end EzVpn
