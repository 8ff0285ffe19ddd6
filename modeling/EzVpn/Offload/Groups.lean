import Mathlib.Algebra.GroupWithZero.Nat
import EzVpn.Lib.Chunks
import EzVpn.Offload.Coalesce

/-!
# What a planned group is

`Segment` lists what `parse_coalescible_tcp` has checked of a packet, `Member` what the
planner knows of the packet at a position of a run, relative to the head of the run.
`plan_tiles` says that the planned groups tile the batch, each a single packet or a `Run`:
at least two members with payloads of one size, but for a shorter last one.
-/

namespace EzVpn

open Lib Bytes

/-! ## Single packets -/

/-- What `parseCoalescibleTcp` returns, and what it has checked. -/
structure Segment (p : Bytes) (m : TcpSegmentMeta) : Prop where
  ipHeaderLen : m.ipHeaderLen = if m.isIpv6 then 40 else 20
  v4 : m.isIpv6 = false → byteAt p 0 = 0x45 ∧ byteAt p 9 = 6 ∧
    (be16 (byteAt p 2) (byteAt p 3)).toNat = p.length
  v6 : m.isIpv6 = true → byteAt p 0 >>> 4 = 6 ∧ byteAt p 6 = 6 ∧
    (be16 (byteAt p 4) (byteAt p 5)).toNat = p.length - 40
  tcpHeaderLen : m.tcpHeaderLen = (byteAt p (m.ipHeaderLen + 12) >>> 4).toNat * 4
  tcp_ge : 20 ≤ m.tcpHeaderLen
  length : p.length = m.headerLen + m.payloadLen
  payload_pos : 0 < m.payloadLen
  flags : byteAt p (m.ipHeaderLen + 13) &&& tcpFlagsNoCoalesce = 0
  seq : m.seq = be32 (byteAt p (m.ipHeaderLen + 4)) (byteAt p (m.ipHeaderLen + 5))
    (byteAt p (m.ipHeaderLen + 6)) (byteAt p (m.ipHeaderLen + 7))

theorem eq_0x45 (b : UInt8) (h4 : b >>> 4 = 4) (h5 : b &&& 0x0f = 5) : b = 0x45 := by
  have key : ∀ n : Fin 256, UInt8.ofBitVec ⟨n⟩ >>> 4 = 4 → UInt8.ofBitVec ⟨n⟩ &&& 0x0f = 5 →
      UInt8.ofBitVec ⟨n⟩ = 0x45 := by decide +kernel
  obtain ⟨⟨n, hn⟩⟩ := b
  exact key ⟨n, hn⟩ h4 h5

theorem parseIpHeader_some {p : Bytes} {isIpv6 : Bool} {n : Nat}
    (h : parseIpHeader p = some (isIpv6, n)) :
    isIpv6 = false ∧ n = 20 ∧ byteAt p 0 = 0x45 ∧ byteAt p 9 = 6 ∧
      (be16 (byteAt p 2) (byteAt p 3)).toNat = p.length ∨
    isIpv6 = true ∧ n = 40 ∧ byteAt p 0 >>> 4 = 6 ∧ byteAt p 6 = 6 ∧
      (be16 (byteAt p 4) (byteAt p 5)).toNat = p.length - 40 := by
  unfold parseIpHeader at h
  by_cases hempty : p.isEmpty = true
  · simp [hempty] at h
  · simp only [if_neg hempty] at h
    by_cases h4 : byteAt p 0 >>> 4 = 4
    · simp only [if_pos h4] at h
      split at h
      · cases h
      · split at h
        · cases h
        · next hopt =>
          split at h
          · cases h
          · split at h
            · cases h
            · split at h
              · cases h
              · next hlen =>
                cases h
                rw [not_or, not_not, not_not] at hopt
                exact Or.inl ⟨rfl, rfl, eq_0x45 _ h4 hopt.1, hopt.2, not_not.1 hlen⟩
    · simp only [if_neg h4] at h
      split at h
      · next h6 =>
        split at h
        · cases h
        · split at h
          · cases h
          · next hproto =>
            split at h
            · cases h
            · split at h
              · cases h
              · next hlen =>
                cases h
                exact Or.inr ⟨rfl, rfl, h6, not_not.1 hproto, not_not.1 hlen⟩
      · cases h

theorem segment_of_parse {p : Bytes} {m : TcpSegmentMeta} (h : parseCoalescibleTcp p = some m) :
    Segment p m := by
  unfold parseCoalescibleTcp at h
  split at h
  · cases h
  · next isIpv6 n hip =>
    dsimp only at h
    split at h
    · cases h
    · split at h
      · cases h
      · next htcp =>
        split at h
        · cases h
        · next hflags =>
          split at h
          · cases h
          · next hpay =>
            have hip' := parseIpHeader_some hip
            obtain rfl := (Option.some.inj h).symm
            refine ⟨?_, fun hv => ?_, fun hv => ?_, rfl, ?_, ?_, Nat.pos_of_ne_zero hpay, not_not.1 hflags, rfl⟩
            · rcases hip' with ⟨rfl, rfl, -⟩ | ⟨rfl, rfl, -⟩ <;> rfl
            · rcases hip' with ⟨-, -, h⟩ | ⟨rfl, -⟩
              · exact h
              · cases hv
            · rcases hip' with ⟨rfl, -⟩ | ⟨-, -, h⟩
              · cases hv
              · exact h
            · show 20 ≤ (byteAt p (n + 12) >>> 4).toNat * 4
              omega
            · show p.length = n + (byteAt p (n + 12) >>> 4).toNat * 4 +
                (p.length - n - (byteAt p (n + 12) >>> 4).toNat * 4)
              omega

/-! ## Chained packets -/

/-- The header bytes in which the members of a run agree. -/
def Kept (m : TcpSegmentMeta) (i : Nat) : Prop :=
  (m.isIpv6 = true ∧ (i < 4 ∨ i = 7 ∨ 8 ≤ i ∧ i < 40)) ∨
  (m.isIpv6 = false ∧ (i = 1 ∨ i = 8 ∨ 12 ≤ i ∧ i < 20)) ∨
  (m.ipHeaderLen ≤ i ∧ i < m.ipHeaderLen + 4) ∨
  (m.ipHeaderLen + 8 ≤ i ∧ i < m.ipHeaderLen + 12) ∨
  (m.ipHeaderLen + 14 ≤ i ∧ i < m.ipHeaderLen + 16) ∨
  (m.ipHeaderLen + 20 ≤ i ∧ i < m.ipHeaderLen + m.tcpHeaderLen)

theorem canChain_kept {a b : Bytes} {ma mb : TcpSegmentMeta} (h : canChain a ma b mb = true) :
    mb.isIpv6 = ma.isIpv6 ∧ mb.tcpHeaderLen = ma.tcpHeaderLen ∧
      mb.seq = ma.seq + UInt32.ofNat ma.payloadLen ∧ ∀ i, Kept ma i → byteAt a i = byteAt b i := by
  unfold canChain at h
  split at h
  · cases h
  · next hsame =>
    rw [not_or, not_not, not_not] at hsame
    split at h
    · cases h
    · next h6 =>
      split at h
      · cases h
      · next h4 =>
        simp only [] at h
        split at h
        · cases h
        · next htcp =>
          simp only [not_or, not_not, ← hsame.2] at htcp
          obtain ⟨hports, hack, hwindow, hopts⟩ := htcp
          refine ⟨hsame.1.symm, hsame.2.symm, of_decide_eq_true h, fun i hi => ?_⟩
          rcases hi with ⟨hv, hi⟩ | ⟨hv, hi⟩ | hi | hi | hi | hi
          · simp only [hv, true_and, not_or, not_not] at h6
            rcases hi with hi | rfl | hi
            · exact byteAt_of_slice_eq h6.1 (Nat.zero_le _) hi
            · exact h6.2.2
            · exact byteAt_of_slice_eq h6.2.1 hi.1 hi.2
          · simp only [hv, Bool.false_eq_true, not_false_eq_true, true_and, not_or, not_not] at h4
            rcases hi with rfl | rfl | hi
            · exact h4.1
            · exact h4.2.1
            · exact byteAt_of_slice_eq h4.2.2 hi.1 hi.2
          · exact byteAt_of_slice_eq hports hi.1 hi.2
          · exact byteAt_of_slice_eq hack hi.1 hi.2
          · exact byteAt_of_slice_eq hwindow hi.1 hi.2
          · exact byteAt_of_slice_eq hopts hi.1 hi.2

/-- The packet `p`, which parsed to `mp`, is the `k`-th of a run with head `head`. -/
structure Member (m : TcpSegmentMeta) (head : Bytes) (k : Nat) (p : Bytes) (mp : TcpSegmentMeta) :
    Prop where
  segment : Segment p mp
  isIpv6 : mp.isIpv6 = m.isIpv6
  tcpHeaderLen : mp.tcpHeaderLen = m.tcpHeaderLen
  kept : ∀ i, Kept m i → byteAt head i = byteAt p i
  seq : mp.seq = m.seq + UInt32.ofNat (k * m.payloadLen)

section
variable {m mp mq : TcpSegmentMeta} {head p q : Bytes} {k : Nat}

theorem Member.ipHeaderLen (h : Member m head k p mp) (hm : Segment head m) :
    mp.ipHeaderLen = m.ipHeaderLen := by
  rw [h.segment.ipHeaderLen, hm.ipHeaderLen, h.isIpv6]

theorem Member.headerLen (h : Member m head k p mp) (hm : Segment head m) :
    mp.headerLen = m.headerLen := by
  unfold TcpSegmentMeta.headerLen
  rw [h.ipHeaderLen hm, h.tcpHeaderLen]

/-- The head is the first member. -/
theorem member_head (hm : Segment head m) : Member m head 0 head m :=
  ⟨hm, rfl, rfl, fun _ _ => rfl, by rw [Nat.zero_mul]; exact (UInt32.add_zero _).symm⟩

/-- A packet that chains to a full-sized member is the next member. -/
theorem Member.next (h : Member m head k p mp) (hm : Segment head m) (hfull : mp.payloadLen = m.payloadLen)
    (hq : Segment q mq) (hchain : canChain p mp q mq = true) : Member m head (k + 1) q mq := by
  obtain ⟨h6, htcp, hseq, hkept⟩ := canChain_kept hchain
  refine ⟨hq, h6.trans h.isIpv6, htcp.trans h.tcpHeaderLen, fun i hi => (h.kept i hi).trans (hkept i ?_), ?_⟩
  · unfold Kept at hi ⊢
    rw [h.isIpv6, h.ipHeaderLen hm, h.tcpHeaderLen]
    exact hi
  · rw [hseq, h.seq, hfull, UInt32.add_assoc, ← UInt32.ofNat_add, Nat.succ_mul]

end

/-! ## Runs -/

/-- The packets are the members from the `k`-th on; only the last may be short. -/
def Members (m : TcpSegmentMeta) (head : Bytes) : Nat → List Bytes → Prop
  | _, [] => True
  | k, p :: ps =>
    (∃ mp, Member m head k p mp ∧ mp.payloadLen ≤ m.payloadLen ∧
      (ps ≠ [] → mp.payloadLen = m.payloadLen)) ∧ Members m head (k + 1) ps

/-- The bytes of payload in the packets. -/
def payloadSum (m : TcpSegmentMeta) (ps : List Bytes) : Nat := (ps.map (·.length - m.headerLen)).sum

/-- **The inner loop** stops within the batch, and what it took are members. -/
theorem groupEnd_members {m : TcpSegmentMeta} {head : Bytes} (hm : Segment head m) (rest : List Bytes) :
    ∀ (mergedIpLen k stop : Nat) (last : Bytes) (prev : TcpSegmentMeta), Member m head k last prev →
      prev.payloadLen = m.payloadLen → ∃ n, n ≤ rest.length ∧
        groupEnd m.payloadLen mergedIpLen last prev stop rest = stop + n ∧
        Members m head (k + 1) (rest.take n) ∧
        (n ≠ 0 → mergedIpLen + payloadSum m (rest.take n) ≤ 65535) := by
  induction rest with
  | nil =>
    intro mergedIpLen k stop last prev hlast hfull
    exact ⟨0, Nat.le_refl _, rfl, trivial, fun h => absurd rfl h⟩
  | cons packet rest ih =>
    intro mergedIpLen k stop last prev hlast hfull
    unfold groupEnd
    split
    · exact ⟨0, Nat.zero_le _, rfl, trivial, fun h => absurd rfl h⟩
    · next next hparse =>
      have hseg := segment_of_parse hparse
      split
      · exact ⟨0, Nat.zero_le _, rfl, trivial, fun h => absurd rfl h⟩
      · next hok =>
        simp only [not_or, Nat.not_lt, Bool.not_eq_true, Bool.not_eq_false'] at hok
        obtain ⟨hsize, hfits, hchain⟩ := hok
        have hnext := hlast.next hm hfull hseg hchain
        have hpay : packet.length - m.headerLen = next.payloadLen := by
          rw [hseg.length, hnext.headerLen hm, Nat.add_sub_cancel_left]
        split
        · -- a shorter packet closes the run
          refine ⟨1, by simp, rfl, ?_, fun _ => ?_⟩
          · exact ⟨⟨next, hnext, hsize, fun h => absurd rfl h⟩, trivial⟩
          · simpa [payloadSum, hpay] using hfits
        · next hlt =>
          have hfull' : next.payloadLen = m.payloadLen := by omega
          obtain ⟨n, hn, hstop, hmem, hsum⟩ :=
            ih (mergedIpLen + next.payloadLen) (k + 1) (stop + 1) packet next hnext hfull'
          refine ⟨n + 1, by simpa using hn, by rw [hstop]; omega, ?_, fun _ => ?_⟩
          · exact ⟨⟨next, hnext, hsize, fun _ => hfull'⟩, hmem⟩
          · simp only [List.take_succ_cons, payloadSum, List.map_cons, List.sum_cons, hpay]
            by_cases hn0 : n = 0
            · subst hn0
              simpa using hfits
            · have := hsum hn0
              unfold payloadSum at this
              omega

/-- A group that is coalesced. -/
structure Run (m : TcpSegmentMeta) (head : Bytes) (rest : List Bytes) : Prop where
  parse : parseCoalescibleTcp head = some m
  two : rest ≠ []
  members : Members m head 0 (head :: rest)
  fits : m.headerLen + payloadSum m (head :: rest) ≤ 65535

/-- The groups tile the packets, the first of which has the index `i`. -/
inductive Tiles : Nat → List Bytes → List (Nat × Nat × Bool) → Prop
  | nil {i : Nat} : Tiles i [] []
  | single {i : Nat} {p : Bytes} {rest : List Bytes} {gs : List (Nat × Nat × Bool)}
      (h : Tiles (i + 1) rest gs) : Tiles i (p :: rest) ((i, i + 1, false) :: gs)
  | run {i : Nat} {m : TcpSegmentMeta} {p : Bytes} {ps rest : List Bytes} {gs : List (Nat × Nat × Bool)}
      (hrun : Run m p ps) (h : Tiles (i + 1 + ps.length) rest gs) :
      Tiles i (p :: (ps ++ rest)) ((i, i + 1 + ps.length, true) :: gs)

theorem planLoop_tiles (fuel : Nat) : ∀ (i : Nat) (batch : List Bytes), batch.length ≤ fuel →
    Tiles i batch (planLoop fuel i batch) := by
  induction fuel with
  | zero =>
    intro i batch hlen
    obtain rfl := List.eq_nil_of_length_eq_zero (Nat.le_zero.1 hlen)
    exact .nil
  | succ fuel ih =>
    intro i batch hlen
    cases batch with
    | nil => exact .nil
    | cons packet rest =>
      rw [List.length_cons] at hlen
      unfold planLoop
      split
      · exact .single (ih (i + 1) rest (by omega))
      · next first hparse =>
        have hseg := segment_of_parse hparse
        obtain ⟨n, hn, hstop, hmem, hsum⟩ := groupEnd_members hseg rest
          (first.headerLen + first.payloadLen) 0 (i + 1) packet first (member_head hseg) rfl
        simp only [hstop, Nat.add_sub_cancel_left]
        by_cases hn0 : n = 0
        · subst hn0
          rw [Nat.add_zero, List.drop_zero, decide_eq_false (show ¬ i + 1 - i ≥ 2 by omega)]
          exact .single (ih (i + 1) rest (by omega))
        · have hlen' : (rest.take n).length = n := by rw [List.length_take]; omega
          have hrun : Run first packet (rest.take n) := by
            have hne : rest.take n ≠ [] := by
              intro h0
              rw [h0] at hlen'
              exact hn0 hlen'.symm
            refine ⟨hparse, hne, ⟨⟨first, member_head hseg, Nat.le_refl _, fun _ => rfl⟩, hmem⟩, ?_⟩
            have := hsum hn0
            have hpay : packet.length - first.headerLen = first.payloadLen := by
              rw [hseg.length, Nat.add_sub_cancel_left]
            simp only [payloadSum, List.map_cons, List.sum_cons, hpay] at this ⊢
            omega
          have hrest : Tiles (i + 1 + (rest.take n).length) (rest.drop n)
              (planLoop fuel (i + 1 + n) (rest.drop n)) := by
            rw [hlen']
            exact ih (i + 1 + n) (rest.drop n) (by rw [List.length_drop]; omega)
          have htiles := Tiles.run (i := i) hrun hrest
          rw [hlen', List.take_append_drop] at htiles
          rw [decide_eq_true (show i + 1 + n - i ≥ 2 by omega)]
          exact htiles

/-- **The planned groups tile the batch.** -/
theorem plan_tiles (batch : List Bytes) : Tiles 0 batch (planTunWriteGroups batch) :=
  planLoop_tiles batch.length 0 batch (Nat.le_refl _)

end EzVpn
