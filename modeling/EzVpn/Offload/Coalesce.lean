import EzVpn.Offload.Checksum
import EzVpn.Offload.Virtio

/-!
# Coalescing TUN writes

The write side of src/tunnel/offload.rs: which packets of a batch form a run of TCP
segments (`plan_tun_write_groups`), and the super-frame such a run is written as
(`assemble_tcp_gso_superframe`).
-/

namespace EzVpn

open Lib Bytes

/-- FIN, SYN, RST, URG. -/
def tcpFlagsNoCoalesce : UInt8 := 0x01 ||| 0x02 ||| 0x04 ||| 0x20

structure TcpSegmentMeta where
  isIpv6 : Bool
  ipHeaderLen : Nat
  tcpHeaderLen : Nat
  seq : UInt32
  payloadLen : Nat
deriving DecidableEq

def TcpSegmentMeta.headerLen (m : TcpSegmentMeta) : Nat := m.ipHeaderLen + m.tcpHeaderLen

/-- The checks on the IP header: the version and the length of the header. -/
def parseIpHeader (packet : Bytes) : Option (Bool × Nat) :=
  if packet.isEmpty then none
  else
    let version := byteAt packet 0 >>> 4
    if version = 4 then
      if packet.length < 20 then none
      -- no options, and TCP
      else if byteAt packet 0 &&& 0x0f ≠ 5 ∨ byteAt packet 9 ≠ 6 then none
      -- no fragments
      else if be16 (byteAt packet 6) (byteAt packet 7) &&& 0x3fff ≠ 0 then none
      -- no ECN
      else if byteAt packet 1 &&& 0x03 ≠ 0 then none
      else if (be16 (byteAt packet 2) (byteAt packet 3)).toNat ≠ packet.length then none
      else some (false, 20)
    else if version = 6 then
      if packet.length < 40 then none
      else if byteAt packet 6 ≠ 6 then none
      else if ((byteAt packet 0 <<< 4) ||| (byteAt packet 1 >>> 4)) &&& 0x03 ≠ 0 then none
      else if (be16 (byteAt packet 4) (byteAt packet 5)).toNat ≠ packet.length - 40 then none
      else some (true, 40)
    else none

def parseCoalescibleTcp (packet : Bytes) : Option TcpSegmentMeta :=
  match parseIpHeader packet with
  | none => none
  | some (isIpv6, ipHeaderLen) =>
    let tcpOffset := ipHeaderLen
    if packet.length < tcpOffset + 20 then none
    else
      let tcpHeaderLen := (byteAt packet (tcpOffset + 12) >>> 4).toNat * 4
      if tcpHeaderLen < 20 ∨ tcpOffset + tcpHeaderLen > packet.length then none
      else if byteAt packet (tcpOffset + 13) &&& tcpFlagsNoCoalesce ≠ 0 then none
      else
        let payloadLen := packet.length - tcpOffset - tcpHeaderLen
        if payloadLen = 0 then none
        else
          let seq := be32 (byteAt packet (tcpOffset + 4)) (byteAt packet (tcpOffset + 5))
            (byteAt packet (tcpOffset + 6)) (byteAt packet (tcpOffset + 7))
          some { isIpv6, ipHeaderLen, tcpHeaderLen, seq, payloadLen }

def canChain (a : Bytes) (ma : TcpSegmentMeta) (b : Bytes) (mb : TcpSegmentMeta) : Bool :=
  if ma.isIpv6 ≠ mb.isIpv6 ∨ ma.tcpHeaderLen ≠ mb.tcpHeaderLen then false
  else if ma.isIpv6 ∧ (slice a 0 4 ≠ slice b 0 4 ∨ slice a 8 40 ≠ slice b 8 40 ∨
      byteAt a 7 ≠ byteAt b 7) then false
  else if ¬ ma.isIpv6 ∧ (byteAt a 1 ≠ byteAt b 1 ∨ byteAt a 8 ≠ byteAt b 8 ∨
      slice a 12 20 ≠ slice b 12 20) then false
  else
    let t := ma.ipHeaderLen
    if slice a t (t + 4) ≠ slice b t (t + 4) ∨ slice a (t + 8) (t + 12) ≠ slice b (t + 8) (t + 12) ∨
        slice a (t + 14) (t + 16) ≠ slice b (t + 14) (t + 16) ∨
        slice a (t + 20) (t + ma.tcpHeaderLen) ≠ slice b (t + 20) (t + mb.tcpHeaderLen) then false
    else mb.seq = ma.seq + UInt32.ofNat ma.payloadLen

/-- The inner loop of `plan_tun_write_groups`: `last` is `batch[end - 1]`, `prev` what it
parsed to, and the list is `batch[end..]`; returns the final `end`. -/
def groupEnd (segSize : Nat) : Nat → Bytes → TcpSegmentMeta → Nat → List Bytes → Nat
  | _, _, _, stop, [] => stop
  | mergedIpLen, last, prev, stop, packet :: rest =>
    match parseCoalescibleTcp packet with
    | none => stop
    | some next =>
      if next.payloadLen > segSize ∨ mergedIpLen + next.payloadLen > 65535 ∨
          !canChain last prev packet next then stop
      else if next.payloadLen < segSize then stop + 1
      else groupEnd segSize (mergedIpLen + next.payloadLen) packet next (stop + 1) rest

/-- The outer loop, with `i` and `batch[i..]`.  Each turn takes at least one packet, so
the length of the batch bounds the number of turns. -/
def planLoop : Nat → Nat → List Bytes → List (Nat × Nat × Bool)
  | _, _, [] => []
  | 0, _, _ => []
  | fuel + 1, i, packet :: rest =>
    match parseCoalescibleTcp packet with
    | none => (i, i + 1, false) :: planLoop fuel (i + 1) rest
    | some first =>
      let stop :=
        groupEnd first.payloadLen (first.headerLen + first.payloadLen) packet first (i + 1) rest
      (i, stop, decide (stop - i ≥ 2)) :: planLoop fuel stop (rest.drop (stop - (i + 1)))

/-- The groups `(start, end, coalesce)` of a batch. -/
def planTunWriteGroups (batch : List Bytes) : List (Nat × Nat × Bool) :=
  planLoop batch.length 0 batch

/-- The loop of `assemble_tcp_gso_superframe` that adds up the payloads. -/
def totalPayload (headerLen : Nat) : List Bytes → Except String Nat
  | [] => .ok 0
  | segment :: segments =>
    if segment.length ≤ headerLen then .error "segment shorter than flow headers"
    else
      match totalPayload headerLen segments with
      | .error e => .error e
      | .ok n => .ok (segment.length - headerLen + n)

/-- The virtio header of a super-frame. -/
def superframeHdr (first : TcpSegmentMeta) : VirtioNetHdr where
  flags := virtioNetHdrFNeedsCsum
  gsoType := if first.isIpv6 then virtioNetHdrGsoTcpv6 else virtioNetHdrGsoTcpv4
  hdrLen := UInt16.ofNat first.headerLen
  gsoSize := UInt16.ofNat first.payloadLen
  csumStart := UInt16.ofNat first.ipHeaderLen
  csumOffset := 16
  numBuffers := 0

def assembleTcpGsoSuperframe (segments : List Bytes) : Except String Bytes :=
  if segments.length < 2 then
    .error s!"GSO super-frame needs at least 2 segments, got {segments.length}"
  else
    match parseCoalescibleTcp (segments.headD []) with
    | none => .error "first segment is not a coalescible TCP segment"
    | some first => do
      let headerLen := first.headerLen
      let totalPayload ← totalPayload headerLen segments
      let mergedIpLen := headerLen + totalPayload
      if mergedIpLen > 65535 then .error s!"merged GSO frame too large: {mergedIpLen} bytes"
      else
        let ipFrame := (segments.headD []).take headerLen ++ segments.flatMap (·.drop headerLen)
        let ipFrame ←
          if first.isIpv6 then updateIpv6PayloadLength ipFrame mergedIpLen
          else updateIpv4LengthsAndChecksum ipFrame mergedIpLen
        let checksumIndex := first.ipHeaderLen + 16
        let ipFrame := setBytes ipFrame checksumIndex [0, 0]
        let tcpLen := first.tcpHeaderLen + totalPayload
        let partialSum := tcpPseudoHeaderPartial ipFrame first.isIpv6 tcpLen
        .ok ((superframeHdr first).toBytes ++ setBytes ipFrame checksumIndex (toBe16 partialSum))

end EzVpn
