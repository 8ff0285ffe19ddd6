import EzVpn.Bounds.Materialize
import EzVpn.Offload.Groups

/-!
# Bounds of the write side

The same for the functions that plan and assemble super-frames.  `packetCode_never_panics`
puts both sides together.
-/

namespace EzVpn.Checked

open Lib Bytes Lib.Checked

/-! ## Planning -/

def parseIpHeader (packet : Bytes) : Option (Option (Bool × Nat)) :=
  -- `packet.first()?`
  match packet.head? with
  | none => some none
  | some first =>
    let version := first >>> 4
    if version = 4 then
      if packet.length < 20 then some none
      else do
        let b0 ← index packet 0
        let b9 ← index packet 9
        if b0 &&& 0x0f ≠ 5 ∨ b9 ≠ 6 then some none
        else
          let b6 ← index packet 6
          let b7 ← index packet 7
          if be16 b6 b7 &&& 0x3fff ≠ 0 then some none
          else
            let b1 ← index packet 1
            if b1 &&& 0x03 ≠ 0 then some none
            else
              let b2 ← index packet 2
              let b3 ← index packet 3
              if (be16 b2 b3).toNat ≠ packet.length then some none else some (some (false, 20))
    else if version = 6 then
      if packet.length < 40 then some none
      else do
        let b6 ← index packet 6
        if b6 ≠ 6 then some none
        else
          let b0 ← index packet 0
          let b1 ← index packet 1
          if ((b0 <<< 4) ||| (b1 >>> 4)) &&& 0x03 ≠ 0 then some none
          else
            let b4 ← index packet 4
            let b5 ← index packet 5
            let payloadLen ← sub packet.length 40
            if (be16 b4 b5).toNat ≠ payloadLen then some none else some (some (true, 40))
    else some none

def parseCoalescibleTcp (packet : Bytes) : Option (Option TcpSegmentMeta) := do
  match ← parseIpHeader packet with
  | none => some none
  | some (isIpv6, ipHeaderLen) =>
    let tcpOffset := ipHeaderLen
    if packet.length < tcpOffset + 20 then some none
    else
      let dataOffset ← index packet (tcpOffset + 12)
      let tcpHeaderLen := (dataOffset >>> 4).toNat * 4
      if tcpHeaderLen < 20 ∨ tcpOffset + tcpHeaderLen > packet.length then some none
      else
        let flags ← index packet (tcpOffset + 13)
        if flags &&& tcpFlagsNoCoalesce ≠ 0 then some none
        else
          let tcpLen ← sub packet.length tcpOffset
          let payloadLen ← sub tcpLen tcpHeaderLen
          if payloadLen = 0 then some none
          else
            let s4 ← index packet (tcpOffset + 4)
            let s5 ← index packet (tcpOffset + 5)
            let s6 ← index packet (tcpOffset + 6)
            let s7 ← index packet (tcpOffset + 7)
            some (some { isIpv6, ipHeaderLen, tcpHeaderLen, seq := be32 s4 s5 s6 s7, payloadLen })

/-- Whether two packets differ in a range, both of which are read. -/
def differ (a b : Bytes) (i j i' j' : Nat) : Option Bool := do
  let x ← range a i j
  let y ← range b i' j'
  some (x != y)

/-- The part of `can_chain` on the TCP headers. -/
def canChainTcp (a : Bytes) (ma : TcpSegmentMeta) (b : Bytes) (mb : TcpSegmentMeta) : Option Bool := do
  let t := ma.ipHeaderLen
  let ports ← differ a b t (t + 4) t (t + 4)
  let ack ← differ a b (t + 8) (t + 12) (t + 8) (t + 12)
  let window ← differ a b (t + 14) (t + 16) (t + 14) (t + 16)
  let options ← differ a b (t + 20) (t + ma.tcpHeaderLen) (t + 20) (t + mb.tcpHeaderLen)
  if ports ∨ ack ∨ window ∨ options then some false
  else some (decide (mb.seq = ma.seq + UInt32.ofNat ma.payloadLen))

def canChain (a : Bytes) (ma : TcpSegmentMeta) (b : Bytes) (mb : TcpSegmentMeta) : Option Bool :=
  if ma.isIpv6 ≠ mb.isIpv6 ∨ ma.tcpHeaderLen ≠ mb.tcpHeaderLen then some false
  else if ma.isIpv6 then do
    let words ← differ a b 0 4 0 4
    let addrs ← differ a b 8 40 8 40
    let a7 ← index a 7
    let b7 ← index b 7
    if words ∨ addrs ∨ a7 ≠ b7 then some false else canChainTcp a ma b mb
  else do
    let a1 ← index a 1
    let b1 ← index b 1
    let a8 ← index a 8
    let b8 ← index b 8
    let addrs ← differ a b 12 20 12 20
    if a1 ≠ b1 ∨ a8 ≠ b8 ∨ addrs then some false else canChainTcp a ma b mb

/-- The inner loop of `plan_tun_write_groups`, on indices; the length of the batch bounds the
number of turns. -/
def groupEnd (batch : List Bytes) (segSize : Nat) : Nat → Nat → TcpSegmentMeta → Nat → Option Nat
  | 0, _, _, stop => some stop
  | fuel + 1, mergedIpLen, prev, stop =>
    if stop < batch.length then do
      let packet ← index batch stop
      match ← parseCoalescibleTcp packet with
      | none => some stop
      | some next =>
        let close ← orElse (next.payloadLen > segSize || mergedIpLen + next.payloadLen > 65535) (do
          let lastIndex ← sub stop 1
          let last ← index batch lastIndex
          let chain ← canChain last prev packet next
          some (!chain))
        if close then some stop
        else if next.payloadLen < segSize then some (stop + 1)
        else groupEnd batch segSize fuel (mergedIpLen + next.payloadLen) next (stop + 1)
    else some stop

/-- The outer loop. -/
def planLoop (batch : List Bytes) : Nat → Nat → Option (List (Nat × Nat × Bool))
  | 0, _ => some []
  | fuel + 1, i =>
    if i < batch.length then do
      let packet ← index batch i
      match ← parseCoalescibleTcp packet with
      | none =>
        let groups ← planLoop batch fuel (i + 1)
        some ((i, i + 1, false) :: groups)
      | some first =>
        let stop ← groupEnd batch first.payloadLen batch.length (first.headerLen + first.payloadLen) first (i + 1)
        let width ← sub stop i
        let groups ← planLoop batch fuel stop
        some ((i, stop, decide (width ≥ 2)) :: groups)
    else some []

def planTunWriteGroups (batch : List Bytes) : Option (List (Nat × Nat × Bool)) :=
  planLoop batch batch.length 0

theorem parseIpHeader_eq (packet : Bytes) : parseIpHeader packet = some (EzVpn.parseIpHeader packet) := by
  cases packet with
  | nil => rfl
  | cons first rest =>
    refine ite_eq (fun _ => ?_) fun _ => ite_eq (fun _ => ?_) fun _ => rfl
    · refine ite_eq (fun _ => rfl) fun hlen => ?_
      refine bind_eq (index_eq (by omega)) (bind_eq (index_eq (by omega)) ?_)
      refine ite_eq (fun _ => rfl) fun _ => ?_
      refine bind_eq (index_eq (by omega)) (bind_eq (index_eq (by omega)) ?_)
      refine ite_eq (fun _ => rfl) fun _ => ?_
      refine bind_eq (index_eq (by omega)) ?_
      refine ite_eq (fun _ => rfl) fun _ => ?_
      refine bind_eq (index_eq (by omega)) (bind_eq (index_eq (by omega)) ?_)
      exact ite_eq (fun _ => rfl) fun _ => rfl
    · refine ite_eq (fun _ => rfl) fun hlen => ?_
      refine bind_eq (index_eq (by omega)) ?_
      refine ite_eq (fun _ => rfl) fun _ => ?_
      refine bind_eq (index_eq (by omega)) (bind_eq (index_eq (by omega)) ?_)
      refine ite_eq (fun _ => rfl) fun _ => ?_
      refine bind_eq (index_eq (by omega)) (bind_eq (index_eq (by omega)) ?_)
      refine bind_eq (sub_eq (by omega)) ?_
      exact ite_eq (fun _ => rfl) fun _ => rfl

theorem parseCoalescibleTcp_eq (packet : Bytes) :
    parseCoalescibleTcp packet = some (EzVpn.parseCoalescibleTcp packet) := by
  refine bind_eq (parseIpHeader_eq packet) ?_
  unfold EzVpn.parseCoalescibleTcp
  rcases EzVpn.parseIpHeader packet with _ | ⟨isIpv6, n⟩
  · rfl
  · refine ite_eq (fun _ => rfl) fun hlen => ?_
    refine bind_eq (index_eq (by omega)) ?_
    refine ite_eq (fun _ => rfl) fun htcp => ?_
    refine bind_eq (index_eq (by omega)) ?_
    refine ite_eq (fun _ => rfl) fun _ => ?_
    refine bind_eq (sub_eq (by omega)) (bind_eq (sub_eq (by omega)) ?_)
    refine ite_eq (fun _ => rfl) fun _ => ?_
    refine bind_eq (index_eq (by omega)) (bind_eq (index_eq (by omega)) ?_)
    exact bind_eq (index_eq (by omega)) (bind_eq (index_eq (by omega)) rfl)

theorem differ_eq {a b : Bytes} {i j i' j' : Nat} (h : i ≤ j) (hj : j ≤ a.length) (h' : i' ≤ j')
    (hj' : j' ≤ b.length) : differ a b i j i' j' = some (slice a i j != slice b i' j') :=
  bind_eq (range_eq h hj) (bind_eq (range_eq h' hj') rfl)

section
variable {a b : Bytes} {ma mb : TcpSegmentMeta} (ha : Segment a ma) (hb : Segment b mb)
include ha hb

/-- `can_chain` as the planner calls it, on two packets that parsed. -/
theorem canChain_eq : canChain a ma b mb = some (EzVpn.canChain a ma b mb) := by
  have hlena := ha.length
  have hlenb := hb.length
  have htcpa := ha.tcp_ge
  have htcpb := hb.tcp_ge
  unfold TcpSegmentMeta.headerLen at hlena hlenb
  refine ite_eq (fun _ => rfl) fun hsame => ?_
  rw [not_or, not_not, not_not] at hsame
  have hipb : mb.ipHeaderLen = ma.ipHeaderLen := by rw [ha.ipHeaderLen, hb.ipHeaderLen, hsame.1]
  have hip := ha.ipHeaderLen
  have htcp : canChainTcp a ma b mb = some (
      let t := ma.ipHeaderLen
      if slice a t (t + 4) ≠ slice b t (t + 4) ∨ slice a (t + 8) (t + 12) ≠ slice b (t + 8) (t + 12) ∨
          slice a (t + 14) (t + 16) ≠ slice b (t + 14) (t + 16) ∨
          slice a (t + 20) (t + ma.tcpHeaderLen) ≠ slice b (t + 20) (t + mb.tcpHeaderLen) then false
      else decide (mb.seq = ma.seq + UInt32.ofNat ma.payloadLen)) := by
    refine bind_eq (differ_eq (by omega) (by omega) (by omega) (by omega)) ?_
    refine bind_eq (differ_eq (by omega) (by omega) (by omega) (by omega)) ?_
    refine bind_eq (differ_eq (by omega) (by omega) (by omega) (by omega)) ?_
    refine bind_eq (differ_eq (by omega) (by omega) (by omega) (by omega)) ?_
    simp only [bne_iff_ne]
    exact ite_eq (fun _ => rfl) fun _ => rfl
  cases h6 : ma.isIpv6
  · simp only [h6, Bool.false_eq_true, if_false, false_and, not_false_eq_true, true_and] at hip ⊢
    refine bind_eq (index_eq (by omega)) (bind_eq (index_eq (by omega)) ?_)
    refine bind_eq (index_eq (by omega)) (bind_eq (index_eq (by omega)) ?_)
    refine bind_eq (differ_eq (by omega) (by omega) (by omega) (by omega)) ?_
    simp only [bne_iff_ne]
    exact ite_eq (fun _ => rfl) fun _ => htcp
  · simp only [h6, if_true, true_and, not_true_eq_false, false_and, if_false] at hip ⊢
    refine bind_eq (differ_eq (by omega) (by omega) (by omega) (by omega)) ?_
    refine bind_eq (differ_eq (by omega) (by omega) (by omega) (by omega)) ?_
    refine bind_eq (index_eq (by omega)) (bind_eq (index_eq (by omega)) ?_)
    simp only [bne_iff_ne]
    exact ite_eq (fun _ => rfl) fun _ => htcp

end

/-- The inner loop; `last` is the packet that `prev` was parsed from. -/
theorem groupEnd_eq (batch : List Bytes) (segSize : Nat) (fuel : Nat) :
    ∀ (mergedIpLen : Nat) (prev : TcpSegmentMeta) (stop : Nat) (last : Bytes), batch.length ≤ stop + fuel →
      batch[stop]? = some last → Segment last prev →
      groupEnd batch segSize fuel mergedIpLen prev (stop + 1) =
        some (EzVpn.groupEnd segSize mergedIpLen last prev (stop + 1) (batch.drop (stop + 1))) := by
  induction fuel with
  | zero =>
    intro mergedIpLen prev stop last hfuel _ _
    rw [List.drop_eq_nil_of_le (by omega)]
    rfl
  | succ fuel ih =>
    intro mergedIpLen prev stop last hfuel hlast hseg
    unfold groupEnd
    by_cases hstop : stop + 1 < batch.length
    · rw [if_pos hstop, List.drop_eq_getElem_cons hstop, EzVpn.groupEnd]
      refine bind_eq (index_getElem hstop) (bind_eq (parseCoalescibleTcp_eq _) ?_)
      cases hparse : EzVpn.parseCoalescibleTcp batch[stop + 1] with
      | none => rfl
      | some next =>
        have hnext := segment_of_parse hparse
        refine bind_eq (orElse_eq fun _ => bind_eq (sub_eq (by omega)) (bind_eq hlast
          (bind_eq (canChain_eq hseg hnext) rfl))) ?_
        simp only [Bool.or_eq_true, decide_eq_true_eq, or_assoc]
        refine ite_eq (fun _ => rfl) fun _ => ite_eq (fun _ => rfl) fun _ => ?_
        exact ih _ next (stop + 1) _ (by omega) (List.getElem?_eq_getElem hstop) hnext
    · rw [if_neg hstop, List.drop_eq_nil_of_le (by omega)]
      rfl

theorem planLoop_eq (batch : List Bytes) (fuel : Nat) : ∀ i, batch.length ≤ i + fuel →
    planLoop batch fuel i = some (EzVpn.planLoop fuel i (batch.drop i)) := by
  induction fuel with
  | zero =>
    intro i hfuel
    rw [List.drop_eq_nil_of_le (by omega)]
    rfl
  | succ fuel ih =>
    intro i hfuel
    unfold planLoop
    by_cases hi : i < batch.length
    · rw [if_pos hi, List.drop_eq_getElem_cons hi, EzVpn.planLoop]
      refine bind_eq (index_getElem hi) (bind_eq (parseCoalescibleTcp_eq _) ?_)
      cases hparse : EzVpn.parseCoalescibleTcp batch[i] with
      | none => exact bind_eq (ih (i + 1) (by omega)) rfl
      | some first =>
        have hseg := segment_of_parse hparse
        obtain ⟨n, -, hstop, -⟩ := groupEnd_members hseg (batch.drop (i + 1))
          (first.headerLen + first.payloadLen) 0 (i + 1) batch[i] first (member_head hseg) rfl
        refine bind_eq (groupEnd_eq batch _ _ _ first i _ (by omega) (List.getElem?_eq_getElem hi) hseg) ?_
        dsimp only
        rw [hstop, List.drop_drop, Nat.add_sub_cancel' (Nat.le_add_right _ _)]
        exact bind_eq (sub_eq (by omega)) (bind_eq (ih _ (by omega)) rfl)
    · rw [if_neg hi, List.drop_eq_nil_of_le (by omega)]
      rfl

theorem planTunWriteGroups_eq (batch : List Bytes) :
    planTunWriteGroups batch = some (EzVpn.planTunWriteGroups batch) :=
  planLoop_eq batch batch.length 0 (by omega)

/-! ## Assembling -/

/-- The loop that copies the payloads. -/
def concatPayloads (headerLen : Nat) : List Bytes → Option Bytes
  | [] => some []
  | segment :: segments => do
    let payload ← rangeFrom segment headerLen
    let payloads ← concatPayloads headerLen segments
    some (payload ++ payloads)

/-- The partial checksum of a super-frame, and the virtio header in front. -/
def finishSuperframe (first : TcpSegmentMeta) (totalPayload : Nat) (ipFrame : Bytes) :
    Option (Except String Bytes) := do
  let checksumIndex := first.ipHeaderLen + 16
  let ipFrame ← store ipFrame checksumIndex 0
  let ipFrame ← store ipFrame (checksumIndex + 1) 0
  let tcpLen := first.tcpHeaderLen + totalPayload
  let partialSum ← tcpPseudoHeaderPartial ipFrame first.isIpv6 tcpLen
  let ipFrame ← copyFromSlice ipFrame checksumIndex (checksumIndex + 2) (toBe16 partialSum)
  some (.ok ((superframeHdr first).toBytes ++ ipFrame))

def assembleTcpGsoSuperframe (segments : List Bytes) : Option (Except String Bytes) :=
  if segments.length < 2 then
    some (.error s!"GSO super-frame needs at least 2 segments, got {segments.length}")
  else do
    let head ← index segments 0
    match ← parseCoalescibleTcp head with
    | none => some (.error "first segment is not a coalescible TCP segment")
    | some first =>
      let headerLen := first.headerLen
      -- `checked_sub`
      match totalPayload headerLen segments with
      | .error e => some (.error e)
      | .ok totalPayload =>
        let mergedIpLen := headerLen + totalPayload
        if mergedIpLen > 65535 then some (.error s!"merged GSO frame too large: {mergedIpLen} bytes")
        else
          let header ← rangeTo head headerLen
          let payloads ← concatPayloads headerLen segments
          let out := (superframeHdr first).toBytes ++ (header ++ payloads)
          let ipFrame ← rangeFrom out virtioNetHdrLen
          let updated ←
            if first.isIpv6 then updateIpv6PayloadLength ipFrame mergedIpLen
            else updateIpv4LengthsAndChecksum ipFrame mergedIpLen
          match updated with
          | .error e => some (.error e)
          | .ok ipFrame => finishSuperframe first totalPayload ipFrame

theorem concatPayloads_eq {headerLen n : Nat} {segments : List Bytes} (h : totalPayload headerLen segments = .ok n) :
    concatPayloads headerLen segments = some (segments.flatMap (·.drop headerLen)) := by
  induction segments generalizing n with
  | nil => rfl
  | cons segment segments ih =>
    unfold totalPayload at h
    split at h
    · cases h
    · next hlong =>
      split at h
      · cases h
      · next m hm => exact bind_eq (rangeFrom_eq (by omega)) (bind_eq (ih hm) rfl)

theorem finishSuperframe_eq {p ipFrame : Bytes} {first : TcpSegmentMeta} (hp : Segment p first)
    (hlen : first.headerLen ≤ ipFrame.length) (totalPayload : Nat) :
    finishSuperframe first totalPayload ipFrame = some (.ok (
      let checksumIndex := first.ipHeaderLen + 16
      let ipFrame := setBytes ipFrame checksumIndex [0, 0]
      let partialSum := EzVpn.tcpPseudoHeaderPartial ipFrame first.isIpv6 (first.tcpHeaderLen + totalPayload)
      (superframeHdr first).toBytes ++ setBytes ipFrame checksumIndex (toBe16 partialSum))) := by
  have htcp := hp.tcp_ge
  unfold TcpSegmentMeta.headerLen at hlen
  refine bind_eq (store_eq (by omega)) (bind_eq (store_eq (by rw [List.length_set]; omega)) ?_)
  refine bind_eq (tcpPseudoHeaderPartial_eq ?_ _) (bind_eq (copyFromSlice_eq rfl ?_) rfl)
  · rw [← hp.ipHeaderLen, List.length_set, List.length_set]
    omega
  · rw [List.length_set, List.length_set]
    omega

theorem assembleTcpGsoSuperframe_eq (segments : List Bytes) :
    assembleTcpGsoSuperframe segments = some (EzVpn.assembleTcpGsoSuperframe segments) := by
  refine ite_eq (fun _ => rfl) fun hlen => ?_
  cases segments with
  | nil => exact absurd (by simp) hlen
  | cons head rest =>
    refine bind_eq (x := head) rfl (bind_eq (parseCoalescibleTcp_eq head) ?_)
    rw [List.headD_cons]
    cases hparse : EzVpn.parseCoalescibleTcp head with
    | none => rfl
    | some first =>
      have hseg := segment_of_parse hparse
      have hhead := hseg.length
      dsimp only
      cases htotal : totalPayload first.headerLen (head :: rest) with
      | error e => rfl
      | ok total =>
        refine ite_eq (fun _ => rfl) fun _ => ?_
        refine bind_eq (rangeTo_eq (by omega)) (bind_eq (concatPayloads_eq htotal) ?_)
        refine bind_eq (rangeFrom_eq (by simp [VirtioNetHdr.toBytes, toLe16, virtioNetHdrLen])) ?_
        rw [List.drop_left' (show (superframeHdr first).toBytes.length = virtioNetHdrLen from rfl)]
        have hframe : first.headerLen ≤
            (head.take first.headerLen ++ (head :: rest).flatMap (·.drop first.headerLen)).length := by
          rw [List.length_append, List.length_take]
          omega
        generalize head.take first.headerLen ++ (head :: rest).flatMap (·.drop first.headerLen) = frame at hframe
        refine ite_eq (fun _ => ?_) fun _ => ?_
        · refine bind_eq (updateIpv6PayloadLength_eq _ _) ?_
          cases hq : EzVpn.updateIpv6PayloadLength frame (first.headerLen + total) with
          | error e => rfl
          | ok q =>
            have hqlen := @length_updateLengths 6 _ _ _ hq
            exact finishSuperframe_eq hseg (by omega) total
        · refine bind_eq (updateIpv4LengthsAndChecksum_eq _ _) ?_
          cases hq : EzVpn.updateIpv4LengthsAndChecksum frame (first.headerLen + total) with
          | error e => rfl
          | ok q =>
            have hqlen := @length_updateLengths 4 _ _ _ hq
            exact finishSuperframe_eq hseg (by omega) total

end EzVpn.Checked

namespace EzVpn

open Lib Bytes

/-- **The packet code never panics**: with every check of the language made, each function
returns, on all inputs, what the plain model returns.  `can_chain` is called by the planner
only on packets that parsed; on the others it may index past the end. -/
theorem packetCode_never_panics {σ : Type} (emit : Bytes → σ → Except String Unit × σ) :
    (∀ frame vnetHdrEnabled,
      Checked.splitTunFrame frame vnetHdrEnabled = some (splitTunFrame frame vnetHdrEnabled)) ∧
    (∀ offload ipPacket scratch st, Checked.materializeOffloadInto emit offload ipPacket scratch st =
      some (materializeOffloadInto emit offload ipPacket scratch st)) ∧
    (∀ offload ipPacket scratch st, Checked.segmentTcpGsoInto emit offload ipPacket scratch st =
      some (segmentTcpGsoInto emit offload ipPacket scratch st)) ∧
    (∀ packet, Checked.parseCoalescibleTcp packet = some (parseCoalescibleTcp packet)) ∧
    (∀ a b ma mb, parseCoalescibleTcp a = some ma → parseCoalescibleTcp b = some mb →
      Checked.canChain a ma b mb = some (canChain a ma b mb)) ∧
    (∀ batch, Checked.planTunWriteGroups batch = some (planTunWriteGroups batch)) ∧
    (∀ segments, Checked.assembleTcpGsoSuperframe segments = some (assembleTcpGsoSuperframe segments)) ∧
    (∀ packet, Checked.extractSourceIp packet = some (extractSourceIp packet)) ∧
    (∀ packet, Checked.extractDestIp packet = some (extractDestIp packet)) ∧
    (∀ packet, Checked.extractUdpPorts packet = some (extractUdpPorts packet)) := by
  refine ⟨Checked.splitTunFrame_eq, Checked.materializeOffloadInto_eq emit, Checked.segmentTcpGsoInto_eq emit,
    Checked.parseCoalescibleTcp_eq, ?_, Checked.planTunWriteGroups_eq, Checked.assembleTcpGsoSuperframe_eq,
    Checked.extractIp_eq (by omega) (by omega), Checked.extractIp_eq (by omega) (by omega),
    Checked.extractUdpPorts_eq⟩
  intro a b ma mb ha hb
  exact Checked.canChain_eq (segment_of_parse ha) (segment_of_parse hb)

/-- Two segments in sequence, through the check of the planner. -/
theorem packetCode_never_panics_chain :
    let segment := fun i => (materialized threeBytesHdr threeBytes).getD i []
    parseCoalescibleTcp (segment 0) = some ⟨false, 20, 20, 100, 2⟩ ∧
    parseCoalescibleTcp (segment 1) = some ⟨false, 20, 20, 102, 1⟩ ∧
    Checked.canChain (segment 0) ⟨false, 20, 20, 100, 2⟩ (segment 1) ⟨false, 20, 20, 102, 1⟩ = some true := by
  intro segment
  have h0 : parseCoalescibleTcp (segment 0) = some ⟨false, 20, 20, 100, 2⟩ := by decide +kernel
  have h1 : parseCoalescibleTcp (segment 1) = some ⟨false, 20, 20, 102, 1⟩ := by decide +kernel
  obtain ⟨-, -, -, -, hchain, -⟩ := packetCode_never_panics push
  refine ⟨h0, h1, (hchain _ _ _ _ h0 h1).trans ?_⟩
  decide +kernel

end EzVpn
