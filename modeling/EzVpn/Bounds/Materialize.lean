import EzVpn.Lib.Checked
import EzVpn.Net.Packet
import EzVpn.Offload.SegmentSpec

/-!
# Bounds of the read side

The packet functions once more, now with every index, slice, subtraction and `unreachable!()`
of the source as an operation that may panic (`Lib.Checked`).  For each, `_eq` says that it
does not: it returns what the plain model returns, for all inputs.  Here are the functions
that read addresses and ports and those that turn a TUN frame into packets.

Where the source skips a read by short-circuit, the read is made here all the same if it is
in bounds anyway; where it is not, the short-circuit is kept.  `from_bytes` and `to_bytes` of
the virtio header index an array of fixed length by constants, and stay as they are.
-/

namespace EzVpn.Checked

open Lib Bytes Lib.Checked

/-! ## Reading addresses and ports -/

/-- `read_ipv4_addr` and `read_ipv6_addr`: the slice, then the `expect` on its length. -/
def readAddr (n : Nat) (packet : Bytes) (offset : Nat) : Option (BitVec (8 * n)) := do
  let bytes ← range packet offset (offset + n)
  if bytes.length = n then some (BitVec.ofNat (8 * n) (beNat bytes)) else unreachable

def extractIp (offset4 offset6 : Nat) (packet : Bytes) : Option (Option PacketIp) :=
  let len := packet.length
  if len < ipv4MinHeader then some none
  else do
    let b0 ← index packet 0
    let version := b0 >>> 4
    if version = ipVersion4 then
      let addr ← readAddr 4 packet offset4
      some (some (.v4 addr))
    else if version = ipVersion6 then
      if len < ipv6MinHeader then some none
      else
        let addr ← readAddr 16 packet offset6
        some (some (.v6 addr))
    else some none

def extractSourceIp : Bytes → Option (Option PacketIp) := extractIp 12 8

def extractDestIp : Bytes → Option (Option PacketIp) := extractIp 16 24

def extractUdpPorts (packet : Bytes) : Option (Option (UInt16 × UInt16)) :=
  if packet.length < ipv4MinHeader then some none
  else do
    let b0 ← index packet 0
    if b0 >>> 4 = ipVersion4 then
      let ihl := (b0 &&& 0x0f).toNat * 4
      if ihl < ipv4MinHeader ∨ packet.length < ihl + 8 then some none
      else
        let protocol ← index packet 9
        if protocol ≠ 17 then some none
        else
          let s0 ← index packet ihl
          let s1 ← index packet (ihl + 1)
          let d0 ← index packet (ihl + 2)
          let d1 ← index packet (ihl + 3)
          some (some (be16 s0 s1, be16 d0 d1))
    else if b0 >>> 4 = ipVersion6 then
      if packet.length < ipv6MinHeader + 8 then some none
      else
        let next ← index packet 6
        if next ≠ 17 then some none
        else
          let s0 ← index packet 40
          let s1 ← index packet 41
          let d0 ← index packet 42
          let d1 ← index packet 43
          some (some (be16 s0 s1, be16 d0 d1))
    else some none

theorem readAddr_eq {n : Nat} {packet : Bytes} {offset : Nat} (h : offset + n ≤ packet.length) :
    readAddr n packet offset = some (BitVec.ofNat (8 * n) (beNat (slice packet offset (offset + n)))) :=
  bind_eq (range_eq (Nat.le_add_right _ _) h) (if_pos ((length_slice h).trans (Nat.add_sub_cancel_left _ _)))

theorem extractIp_eq {offset4 offset6 : Nat} (h4 : offset4 + 4 ≤ 20) (h6 : offset6 + 16 ≤ 40) (packet : Bytes) :
    extractIp offset4 offset6 packet = some (EzVpn.extractIp offset4 offset6 packet) := by
  unfold extractIp EzVpn.extractIp ipv4MinHeader ipv6MinHeader
  refine ite_eq (fun _ => rfl) fun _ => ?_
  refine bind_eq (index_eq (by omega)) ?_
  refine ite_eq (fun _ => ?_) fun _ => ite_eq (fun _ => ?_) fun _ => rfl
  · exact bind_eq (readAddr_eq (by omega)) rfl
  · refine ite_eq (fun _ => rfl) fun _ => ?_
    exact bind_eq (readAddr_eq (by omega)) rfl

theorem extractUdpPorts_eq (packet : Bytes) : extractUdpPorts packet = some (EzVpn.extractUdpPorts packet) := by
  unfold extractUdpPorts EzVpn.extractUdpPorts ipv4MinHeader ipv6MinHeader
  refine ite_eq (fun _ => rfl) fun _ => ?_
  refine bind_eq (index_eq (by omega)) ?_
  refine ite_eq (fun _ => ?_) fun _ => ite_eq (fun _ => ?_) fun _ => rfl
  · refine ite_eq (fun _ => rfl) fun _ => ?_
    refine bind_eq (index_eq (by omega)) ?_
    refine ite_eq (fun _ => rfl) fun _ => ?_
    refine bind_eq (index_eq (by omega)) (bind_eq (index_eq (by omega)) ?_)
    exact bind_eq (index_eq (by omega)) (bind_eq (index_eq (by omega)) rfl)
  · refine ite_eq (fun _ => rfl) fun _ => ?_
    refine bind_eq (index_eq (by omega)) ?_
    refine ite_eq (fun _ => rfl) fun _ => ?_
    refine bind_eq (index_eq (by omega)) (bind_eq (index_eq (by omega)) ?_)
    exact bind_eq (index_eq (by omega)) (bind_eq (index_eq (by omega)) rfl)

/-! ## Frames -/

def splitTunFrame (frame : Bytes) (vnetHdrEnabled : Bool) :
    Option (Except String (Option VirtioNetHdr × Bytes)) :=
  if !vnetHdrEnabled then
    some (if frame.isEmpty then .error "zero-length TUN frame" else .ok (none, frame))
  else if frame.length < virtioNetHdrLen then
    some (.error s!"TUN frame shorter than virtio header: {frame.length} < {virtioNetHdrLen}")
  else do
    let header ← rangeTo frame virtioNetHdrLen
    match VirtioNetHdr.fromBytes header with
    | .error e => some (.error e)
    | .ok offload =>
      let ipPacket ← rangeFrom frame virtioNetHdrLen
      some (
        if ipPacket.isEmpty then .error "empty IP payload after virtio header"
        else if offload.gsoType = virtioNetHdrGsoNone then
          if offload.flags ≠ 0 ∨ offload.csumStart ≠ 0 ∨ offload.csumOffset ≠ 0 then
            .ok (some offload, ipPacket)
          else .ok (none, ipPacket)
        else if offload.isTcpGso then .ok (some offload, ipPacket)
        else .error s!"unsupported GSO type from TUN: 0x{hex02 offload.gsoType}")

theorem splitTunFrame_eq (frame : Bytes) (vnetHdrEnabled : Bool) :
    splitTunFrame frame vnetHdrEnabled = some (EzVpn.splitTunFrame frame vnetHdrEnabled) := by
  refine ite_eq (fun _ => rfl) fun _ => ite_eq (fun _ => rfl) fun hlen => ?_
  refine bind_eq (rangeTo_eq (by omega)) ?_
  cases VirtioNetHdr.fromBytes (frame.take virtioNetHdrLen) with
  | error e => rfl
  | ok offload => exact bind_eq (rangeFrom_eq (by omega)) rfl

/-! ## Lengths and checksums -/

def updateIpv4LengthsAndChecksum (packet : Bytes) (packetLen : Nat) : Option (Except String Bytes) :=
  if packet.length < 20 then some (.error "IPv4 packet too short")
  else do
    let protocol ← index packet 9
    if protocol ≠ 6 then some (.error s!"IPv4 protocol {protocol} is not TCP")
    else
      let b0 ← index packet 0
      let ihl := (b0 &&& 0x0f).toNat * 4
      if ihl < 20 ∨ ihl > packet.length then some (.error s!"invalid IPv4 IHL {ihl}")
      else if packetLen > 65535 then some (.error s!"IPv4 packet too large for total_len: {packetLen}")
      else
        let packet ← copyFromSlice packet 2 4 (toBe16 (UInt16.ofNat packetLen))
        let packet ← store packet 10 0
        let packet ← store packet 11 0
        let header ← rangeTo packet ihl
        let checksum := finalizeChecksum (addBytes 0 header)
        let packet ← copyFromSlice packet 10 12 (toBe16 checksum)
        some (.ok packet)

def updateIpv6PayloadLength (packet : Bytes) (packetLen : Nat) : Option (Except String Bytes) :=
  if packet.length < 40 then some (.error "IPv6 packet too short")
  -- `checked_sub`
  else if packetLen < 40 then some (.error "IPv6 packet length underflow")
  else if packetLen - 40 > 65535 then some (.error s!"IPv6 payload too large: {packetLen - 40}")
  else do
    let packet ← copyFromSlice packet 4 6 (toBe16 (UInt16.ofNat (packetLen - 40)))
    some (.ok packet)

def tcpChecksumIpv4 (packet : Bytes) (tcpOffset : Nat) : Option (Except String UInt16) :=
  if packet.length < 20 ∨ tcpOffset ≥ packet.length then
    some (.error "invalid TCP offset for IPv4 checksum")
  else
    let tcpLen := packet.length - tcpOffset
    if tcpLen > 65535 then some (.error s!"TCP segment too large for IPv4 checksum: {tcpLen}")
    else do
      let addrs ← range packet 12 20
      let sum := addBytes 0 addrs
      let sum := sum + 6
      let sum := sum + UInt32.ofNat tcpLen
      let segment ← rangeFrom packet tcpOffset
      some (.ok (finalizeChecksum (addBytes sum segment)))

def tcpChecksumIpv6 (packet : Bytes) (tcpOffset : Nat) : Option (Except String UInt16) :=
  if packet.length < 40 ∨ tcpOffset ≥ packet.length then
    some (.error "invalid TCP offset for IPv6 checksum")
  else
    let tcpLen := packet.length - tcpOffset
    if tcpLen ≥ 2 ^ 32 then some (.error s!"TCP segment too large for IPv6 checksum: {tcpLen}")
    else do
      let source ← range packet 8 24
      let dest ← range packet 24 40
      let sum := addBytes 0 source
      let sum := addBytes sum dest
      let sum := sum + ((UInt32.ofNat tcpLen >>> 16) &&& 0xffff)
      let sum := sum + (UInt32.ofNat tcpLen &&& 0xffff)
      let sum := sum + 6
      let segment ← rangeFrom packet tcpOffset
      some (.ok (finalizeChecksum (addBytes sum segment)))

def tcpPseudoHeaderPartial (ipPacket : Bytes) (isIpv6 : Bool) (tcpLen : Nat) : Option UInt16 := do
  let sum ←
    if isIpv6 then do
      let addrs ← range ipPacket 8 40
      let sum := addBytes 0 addrs
      let sum := sum + ((UInt32.ofNat tcpLen >>> 16) &&& 0xffff)
      some (sum + (UInt32.ofNat tcpLen &&& 0xffff))
    else do
      let addrs ← range ipPacket 12 20
      some (addBytes 0 addrs + (UInt32.ofNat tcpLen &&& 0xffff))
  some (foldChecksum (sum + 6))

theorem updateIpv4LengthsAndChecksum_eq (packet : Bytes) (packetLen : Nat) :
    updateIpv4LengthsAndChecksum packet packetLen =
      some (EzVpn.updateIpv4LengthsAndChecksum packet packetLen) := by
  refine ite_eq (fun _ => rfl) fun hlen => ?_
  refine bind_eq (index_eq (by omega)) ?_
  refine ite_eq (fun _ => rfl) fun _ => ?_
  refine bind_eq (index_eq (by omega)) ?_
  refine ite_eq (fun _ => rfl) fun hihl => ite_eq (fun _ => rfl) fun _ => ?_
  refine bind_eq (copyFromSlice_eq rfl (by omega)) ?_
  refine bind_eq (store_eq (by rw [length_setBytes]; omega)) ?_
  refine bind_eq (store_eq (by rw [List.length_set, length_setBytes]; omega)) ?_
  refine bind_eq (rangeTo_eq (by rw [List.length_set, List.length_set, length_setBytes]; omega)) ?_
  exact bind_eq (copyFromSlice_eq rfl (by rw [List.length_set, List.length_set, length_setBytes]; omega)) rfl

theorem updateIpv6PayloadLength_eq (packet : Bytes) (packetLen : Nat) :
    updateIpv6PayloadLength packet packetLen = some (EzVpn.updateIpv6PayloadLength packet packetLen) := by
  refine ite_eq (fun _ => rfl) fun hlen => ite_eq (fun _ => rfl) fun _ => ite_eq (fun _ => rfl) fun _ => ?_
  exact bind_eq (copyFromSlice_eq rfl (by omega)) rfl

theorem tcpChecksumIpv4_eq (packet : Bytes) (tcpOffset : Nat) :
    tcpChecksumIpv4 packet tcpOffset = some (EzVpn.tcpChecksumIpv4 packet tcpOffset) := by
  refine ite_eq (fun _ => rfl) fun hlen => ite_eq (fun _ => rfl) fun _ => ?_
  exact bind_eq (range_eq (by omega) (by omega)) (bind_eq (rangeFrom_eq (by omega)) rfl)

theorem tcpChecksumIpv6_eq (packet : Bytes) (tcpOffset : Nat) :
    tcpChecksumIpv6 packet tcpOffset = some (EzVpn.tcpChecksumIpv6 packet tcpOffset) := by
  refine ite_eq (fun _ => rfl) fun hlen => ite_eq (fun _ => rfl) fun _ => ?_
  refine bind_eq (range_eq (by omega) (by omega)) (bind_eq (range_eq (by omega) (by omega)) ?_)
  exact bind_eq (rangeFrom_eq (by omega)) rfl

theorem tcpPseudoHeaderPartial_eq {ipPacket : Bytes} {isIpv6 : Bool}
    (h : (if isIpv6 then 40 else 20) ≤ ipPacket.length) (tcpLen : Nat) :
    tcpPseudoHeaderPartial ipPacket isIpv6 tcpLen =
      some (EzVpn.tcpPseudoHeaderPartial ipPacket isIpv6 tcpLen) := by
  cases isIpv6
  · exact bind_eq (range_eq (by omega) h) rfl
  · exact bind_eq (range_eq (by omega) h) rfl

/-! ## Materializing -/

def ipHeaderLenForTcp (ipPacket : Bytes) (version : UInt8) : Option (Except String Nat) :=
  if version = 4 then do
    let b0 ← index ipPacket 0
    let ihl := (b0 &&& 0x0f).toNat * 4
    let bad ← orElse (ihl < 20 || ipPacket.length < ihl) (do
      let protocol ← index ipPacket 9
      some (protocol != 6))
    some (if bad then .error "IPv4 GSO packet is not plain TCP" else .ok ihl)
  else if version = 6 then do
    let bad ← orElse (ipPacket.length < 40) (do
      let next ← index ipPacket 6
      some (next != 6))
    some (if bad then .error "IPv6 GSO packet is not plain TCP" else .ok 40)
  else some (.error s!"unsupported IP version {version}")

/-- The checks on the TCP header, whose offset is known. -/
def layoutAt (ipPacket : Bytes) (version : UInt8) (tcpOffset : Nat) : Option (Except String GsoLayout) :=
  if tcpOffset + 20 > ipPacket.length then
    some (.error s!"invalid TCP offset {tcpOffset} for packet length {ipPacket.length}")
  else do
    let dataOffset ← index ipPacket (tcpOffset + 12)
    let tcpHeaderLen := (dataOffset >>> 4).toNat * 4
    let headerLen := tcpOffset + tcpHeaderLen
    if tcpHeaderLen < 20 ∨ headerLen > ipPacket.length then
      some (.error (s!"invalid TCP header length {tcpHeaderLen} " ++
        s!"(offset {tcpOffset}, packet length {ipPacket.length})"))
    else some (.ok ⟨version, tcpOffset, headerLen⟩)

def gsoLayout (offload : VirtioNetHdr) (ipPacket : Bytes) : Option (Except String GsoLayout) :=
  if !offload.isTcpGso then some (.error "offload header is not TCP GSO")
  else if ipPacket.isEmpty then some (.error "empty IP packet")
  else do
    let b0 ← index ipPacket 0
    let version := b0 >>> 4
    let normalizedType := offload.normalizedGsoType
    if version ≠ 4 ∧ version ≠ 6 then some (.error s!"unsupported IP version {version}")
    else if ¬ (version = 4 ∧ normalizedType = virtioNetHdrGsoTcpv4) ∧
        ¬ (version = 6 ∧ normalizedType = virtioNetHdrGsoTcpv6) then
      some (.error s!"IP version/GSO mismatch (ip v{version}, gso type 0x{hex02 normalizedType})")
    else
      let tcpOffset ←
        if offload.needsChecksum then some (.ok offload.csumStart.toNat)
        else ipHeaderLenForTcp ipPacket version
      match tcpOffset with
      | .error e => some (.error e)
      | .ok tcpOffset => layoutAt ipPacket version tcpOffset

/-- The two `match version` of the loop, whose third arm is `unreachable!()`. -/
def byVersion {α : Type} (version : UInt8) (v4 v6 : Option α) : Option α :=
  if version = 4 then v4 else if version = 6 then v6 else unreachable

/-- The end of a turn: lengths and checksum. -/
def finishSegment (layout : GsoLayout) (packetLen : Nat) (scratch : Bytes) :
    Option (Except String Unit × Bytes) := do
  let checksumIndex := layout.tcpOffset + 16
  let updated ← byVersion layout.version (updateIpv4LengthsAndChecksum scratch packetLen)
    (updateIpv6PayloadLength scratch packetLen)
  match updated with
  | .error e => some (.error e, scratch)
  | .ok scratch =>
    let scratch ← store scratch checksumIndex 0
    let scratch ← store scratch (checksumIndex + 1) 0
    let checksum ← byVersion layout.version (tcpChecksumIpv4 scratch layout.tcpOffset)
      (tcpChecksumIpv6 scratch layout.tcpOffset)
    match checksum with
    | .error e => some (.error e, scratch)
    | .ok checksum =>
      let scratch ← copyFromSlice scratch checksumIndex (checksumIndex + 2) (toBe16 checksum)
      some (.ok (), scratch)

def buildSegment (offload : VirtioNetHdr) (ipPacket : Bytes) (layout : GsoLayout) (scratch : Bytes)
    (chunkOffset : Nat) : Option (Except String Unit × Bytes) := do
  let payload ← rangeFrom ipPacket layout.headerLen
  let gsoSize := offload.gsoSize.toNat
  let tcpOffset := layout.tcpOffset
  let s4 ← index ipPacket (tcpOffset + 4)
  let s5 ← index ipPacket (tcpOffset + 5)
  let s6 ← index ipPacket (tcpOffset + 6)
  let s7 ← index ipPacket (tcpOffset + 7)
  let baseSeq := be32 s4 s5 s6 s7
  let originalTcpFlags ← index ipPacket (tcpOffset + 13)
  let chunkEnd := min (chunkOffset + gsoSize) payload.length
  let chunk ← range payload chunkOffset chunkEnd
  let header ← rangeTo ipPacket layout.headerLen
  let scratch := clear scratch ++ header ++ chunk
  if chunkOffset ≥ 2 ^ 32 then
    some (.error s!"TCP GSO payload offset {chunkOffset} exceeds u32 range for sequence number", scratch)
  else
    let seq := baseSeq + UInt32.ofNat chunkOffset
    let scratch ← copyFromSlice scratch (tcpOffset + 4) (tcpOffset + 8) (toBe32 seq)
    let scratch ←
      if chunkEnd < payload.length then
        store scratch (tcpOffset + 13) (originalTcpFlags &&& ~~~(0x01 ||| 0x08))
      else some scratch
    finishSegment layout (layout.headerLen + chunk.length) scratch

/-- `(0..len).step_by(step)`, which does not take a step of 0. -/
def stepBy (len step : Nat) : Option (List Nat) := if step = 0 then none else some (EzVpn.stepBy len step)

section
variable {σ : Type} (emit : Bytes → σ → Except String Unit × σ)

def segmentLoop (build : Bytes → Nat → Option (Except String Unit × Bytes)) :
    List Nat → Bytes → σ → Option (Except String Unit × Bytes × σ)
  | [], scratch, st => some (.ok (), scratch, st)
  | chunkOffset :: offsets, scratch, st => do
    let (built, scratch) ← build scratch chunkOffset
    match built with
    | .error e => some (.error e, scratch, st)
    | .ok () =>
      match emit scratch st with
      | (.error e, st) => some (.error e, scratch, st)
      | (.ok (), st) => segmentLoop build offsets scratch st

/-- Complete a partial checksum in the buffer, and hand the packet out. -/
def complete (ipPacket scratch : Bytes) (start index : Nat) (st : σ) :
    Option (Except String Unit × Bytes × σ) := do
  let scratch := clear scratch ++ ipPacket
  let segment ← rangeFrom scratch start
  let checksum := finalizeChecksum (addBytes 0 segment)
  let scratch ← copyFromSlice scratch index (index + 2) (toBe16 checksum)
  some (emitScratch emit scratch st)

def segmentTcpGsoInto (offload : VirtioNetHdr) (ipPacket scratch : Bytes) (st : σ) :
    Option (Except String Unit × Bytes × σ) := do
  let layout ← gsoLayout offload ipPacket
  match layout with
  | .error e => some (.error e, scratch, st)
  | .ok layout =>
    let payload ← rangeFrom ipPacket layout.headerLen
    let gsoSize := offload.gsoSize.toNat
    if payload.length ≤ gsoSize then
      if !offload.needsChecksum then
        let (result, st) := emit ipPacket st
        some (result, scratch, st)
      else complete emit ipPacket scratch layout.tcpOffset (layout.tcpOffset + 16) st
    else
      let offsets ← stepBy payload.length gsoSize
      segmentLoop emit (buildSegment offload ipPacket layout) offsets scratch st

def materializeOffloadInto (offload : VirtioNetHdr) (ipPacket scratch : Bytes) (st : σ) :
    Option (Except String Unit × Bytes × σ) :=
  if offload.isTcpGso then segmentTcpGsoInto emit offload ipPacket scratch st
  else if offload.gsoType ≠ virtioNetHdrGsoNone then
    some (.error s!"unsupported GSO type from offload metadata: 0x{hex02 offload.gsoType}", scratch, st)
  else
    -- `validate_checksum_offload` indexes nothing
    match validateChecksumOffload offload ipPacket with
    | .error e => some (.error e, scratch, st)
    | .ok none =>
      let (result, st) := emit ipPacket st
      some (result, scratch, st)
    | .ok (some (csumStart, checksumIndex)) => complete emit ipPacket scratch csumStart checksumIndex st

end

theorem ipHeaderLenForTcp_eq {ipPacket : Bytes} (h : 0 < ipPacket.length) (version : UInt8) :
    ipHeaderLenForTcp ipPacket version = some (EzVpn.ipHeaderLenForTcp ipPacket version) := by
  refine ite_eq (fun _ => ?_) fun _ => ite_eq (fun _ => ?_) fun _ => rfl
  · refine bind_eq (index_eq h) ?_
    refine bind_eq (orElse_eq fun hihl => bind_eq (index_eq ?_) rfl) ?_
    · simp only [Bool.or_eq_false_iff, decide_eq_false_iff_not] at hihl
      omega
    · simp only [Bool.or_eq_true, decide_eq_true_eq, bne_iff_ne, or_assoc]
  · refine bind_eq (orElse_eq fun hlen => bind_eq (index_eq ?_) rfl) ?_
    · rw [decide_eq_false_iff_not] at hlen
      omega
    · simp only [Bool.or_eq_true, decide_eq_true_eq, bne_iff_ne]

theorem layoutAt_eq (ipPacket : Bytes) (version : UInt8) (t : Nat) : layoutAt ipPacket version t =
    some (if t + 20 > ipPacket.length then
        .error s!"invalid TCP offset {t} for packet length {ipPacket.length}"
      else if tcpHeaderLenAt t ipPacket < 20 ∨ t + tcpHeaderLenAt t ipPacket > ipPacket.length then
        .error (s!"invalid TCP header length {tcpHeaderLenAt t ipPacket} " ++
          s!"(offset {t}, packet length {ipPacket.length})")
      else .ok ⟨version, t, t + tcpHeaderLenAt t ipPacket⟩) := by
  refine ite_eq (fun _ => rfl) fun _ => ?_
  exact bind_eq (index_eq (by omega)) (ite_eq (fun _ => rfl) fun _ => rfl)

theorem gsoLayout_eq (offload : VirtioNetHdr) (ipPacket : Bytes) :
    gsoLayout offload ipPacket = some (EzVpn.gsoLayout offload ipPacket) := by
  refine ite_eq (fun _ => rfl) fun _ => ite_eq (fun _ => rfl) fun hempty => ?_
  have hpos : 0 < ipPacket.length := List.length_pos_iff.2 fun h => hempty (List.isEmpty_iff.2 h)
  refine bind_eq (index_eq hpos) ?_
  refine ite_eq (fun _ => rfl) fun _ => ite_eq (fun _ => rfl) fun _ => ?_
  dsimp only
  split
  · exact layoutAt_eq _ _ _
  · rw [ipHeaderLenForTcp_eq hpos]
    cases EzVpn.ipHeaderLenForTcp ipPacket (byteAt ipPacket 0 >>> 4) with
    | error e => rfl
    | ok t => exact layoutAt_eq _ _ _

section
variable {version : UInt8} {isIpv6 : Bool}

/-- The version was checked at the top. -/
theorem byVersion_eq {α : Type} {a b : α} (h : version = ipVersion isIpv6) :
    byVersion version (some a) (some b) = some (if version = 4 then a else b) := by
  rw [h]
  cases isIpv6 <;> rfl

theorem length_updateLengths {packet q : Bytes} {n : Nat} (h : updateLengths version packet n = .ok q) :
    q.length = packet.length := by
  unfold updateLengths EzVpn.updateIpv4LengthsAndChecksum EzVpn.updateIpv6PayloadLength at h
  dsimp only at h
  split at h
  · repeat (split at h; · cases h)
    rw [← Except.ok.inj h]
    simp
  · repeat (split at h; · cases h)
    rw [← Except.ok.inj h]
    simp

end

/-- The end of a turn, as in the plain model. -/
theorem finishSegment_eq {layout : GsoLayout} {isIpv6 : Bool} (hv : layout.version = ipVersion isIpv6)
    {scratch : Bytes} (hlen : layout.tcpOffset + 20 ≤ scratch.length) (packetLen : Nat) :
    finishSegment layout packetLen scratch =
      some (match updateLengths layout.version scratch packetLen with
        | .error e => (.error e, scratch)
        | .ok scratch =>
          let scratch := setBytes scratch (layout.tcpOffset + 16) [0, 0]
          match tcpChecksum layout.version scratch layout.tcpOffset with
          | .error e => (.error e, scratch)
          | .ok checksum => (.ok (), setBytes scratch (layout.tcpOffset + 16) (toBe16 checksum))) := by
  have hupdate : byVersion layout.version (updateIpv4LengthsAndChecksum scratch packetLen)
      (updateIpv6PayloadLength scratch packetLen) = some (updateLengths layout.version scratch packetLen) := by
    rw [updateIpv4LengthsAndChecksum_eq, updateIpv6PayloadLength_eq, byVersion_eq hv]
    rfl
  refine bind_eq hupdate ?_
  cases hq : updateLengths layout.version scratch packetLen with
  | error e => rfl
  | ok q =>
    have hqlen := length_updateLengths hq
    have hchecksum : byVersion layout.version
        (tcpChecksumIpv4 ((q.set (layout.tcpOffset + 16) 0).set (layout.tcpOffset + 16 + 1) 0) layout.tcpOffset)
        (tcpChecksumIpv6 ((q.set (layout.tcpOffset + 16) 0).set (layout.tcpOffset + 16 + 1) 0) layout.tcpOffset) =
        some (tcpChecksum layout.version (setBytes q (layout.tcpOffset + 16) [0, 0]) layout.tcpOffset) := by
      rw [tcpChecksumIpv4_eq, tcpChecksumIpv6_eq, byVersion_eq hv]
      rfl
    refine bind_eq (store_eq (by omega)) (bind_eq (store_eq (by rw [List.length_set]; omega)) ?_)
    refine bind_eq hchecksum ?_
    dsimp only
    cases tcpChecksum layout.version (setBytes q (layout.tcpOffset + 16) [0, 0]) layout.tcpOffset with
    | error e => rfl
    | ok checksum => exact bind_eq (copyFromSlice_eq rfl (by rw [List.length_set, List.length_set]; omega)) rfl

section
variable {offload : VirtioNetHdr} {ipPacket : Bytes} {layout : GsoLayout} (hl : LayoutOf offload ipPacket layout)
include hl

theorem buildSegment_eq (scratch : Bytes) {chunkOffset : Nat}
    (ho : chunkOffset ≤ (ipPacket.drop layout.headerLen).length) :
    buildSegment offload ipPacket layout scratch chunkOffset =
      some (EzVpn.buildSegment offload ipPacket layout scratch chunkOffset) := by
  have hge := hl.ge
  have hle := hl.le
  have hlen : ∀ c : Bytes, layout.tcpOffset + 20 ≤ (clear scratch ++ ipPacket.take layout.headerLen ++ c).length := by
    intro c
    simp only [clear, List.nil_append, List.length_append, List.length_take]
    omega
  refine bind_eq (rangeFrom_eq hle) ?_
  refine bind_eq (index_eq (by omega)) (bind_eq (index_eq (by omega)) ?_)
  refine bind_eq (index_eq (by omega)) (bind_eq (index_eq (by omega)) ?_)
  refine bind_eq (index_eq (by omega)) ?_
  refine bind_eq (range_eq (by omega) (by omega)) (bind_eq (rangeTo_eq hle) ?_)
  refine ite_eq (fun _ => rfl) fun _ => ?_
  have hlen' := hlen (slice (ipPacket.drop layout.headerLen) chunkOffset
    (min (chunkOffset + offload.gsoSize.toNat) (ipPacket.drop layout.headerLen).length))
  refine bind_eq (copyFromSlice_eq rfl (by omega)) ?_
  dsimp only
  split
  · refine bind_eq (store_eq (by rw [length_setBytes]; omega)) ?_
    exact finishSegment_eq hl.version (by rw [List.length_set, length_setBytes]; omega) _
  · exact finishSegment_eq hl.version (by rw [length_setBytes]; omega) _

end

section
variable {σ : Type} (emit : Bytes → σ → Except String Unit × σ)

/-- What was validated is in bounds. -/
theorem validateChecksumOffload_some {offload : VirtioNetHdr} {ipPacket : Bytes} {csumStart checksumIndex : Nat}
    (h : validateChecksumOffload offload ipPacket = .ok (some (csumStart, checksumIndex))) :
    csumStart ≤ ipPacket.length ∧ checksumIndex + 2 ≤ ipPacket.length := by
  unfold validateChecksumOffload at h
  split at h
  · cases h
  · split at h
    · cases h
    · split at h
      · cases h
      · dsimp only at h
        split at h
        · cases h
        · split at h
          · cases h
          · split at h
            · cases h
            · obtain ⟨rfl, rfl⟩ := Prod.mk.inj (Option.some.inj (Except.ok.inj h))
              omega

/-- The loop panics only if a turn does. -/
theorem segmentLoop_eq {build : Bytes → Nat → Option (Except String Unit × Bytes)}
    {plain : Bytes → Nat → Except String Unit × Bytes} (offsets : List Nat)
    (h : ∀ o ∈ offsets, ∀ scratch, build scratch o = some (plain scratch o)) : ∀ scratch st,
    segmentLoop emit build offsets scratch st = some (EzVpn.segmentLoop emit plain offsets scratch st) := by
  induction offsets with
  | nil => intro scratch st; rfl
  | cons o offsets ih =>
    intro scratch st
    refine bind_eq (h o List.mem_cons_self scratch) ?_
    rw [EzVpn.segmentLoop]
    rcases plain scratch o with ⟨_ | ⟨⟩, built⟩
    · rfl
    · dsimp only
      rcases emit built st with ⟨_ | ⟨⟩, st'⟩
      · rfl
      · exact ih (fun o' ho' => h o' (List.mem_cons_of_mem _ ho')) built st'

theorem complete_eq {ipPacket scratch : Bytes} {start index : Nat} (hstart : start ≤ ipPacket.length)
    (hindex : index + 2 ≤ ipPacket.length) (st : σ) : complete emit ipPacket scratch start index st =
      some (emitScratch emit (setBytes ipPacket index
        (toBe16 (finalizeChecksum (addBytes 0 (ipPacket.drop start))))) st) := by
  exact bind_eq (rangeFrom_eq hstart) (bind_eq (copyFromSlice_eq rfl hindex) rfl)

theorem segmentTcpGsoInto_eq (offload : VirtioNetHdr) (ipPacket scratch : Bytes) (st : σ) :
    segmentTcpGsoInto emit offload ipPacket scratch st =
      some (EzVpn.segmentTcpGsoInto emit offload ipPacket scratch st) := by
  unfold EzVpn.segmentTcpGsoInto
  refine bind_eq (gsoLayout_eq offload ipPacket) ?_
  cases hlayout : EzVpn.gsoLayout offload ipPacket with
  | error e => rfl
  | ok layout =>
    have hl := gsoLayout_ok hlayout
    have hge := hl.ge
    have hle := hl.le
    refine bind_eq (rangeFrom_eq hle) ?_
    refine ite_eq (fun _ => ite_eq (fun _ => rfl) fun _ => ?_) fun _ => ?_
    · exact complete_eq emit (by omega) (by omega) st
    · refine bind_eq (if_neg (Nat.pos_iff_ne_zero.1 hl.gsoSize_pos)) ?_
      refine segmentLoop_eq emit _ (fun o ho scratch => buildSegment_eq hl scratch ?_) scratch st
      obtain ⟨j, hj, rfl⟩ := List.mem_map.1 ho
      exact Nat.le_of_lt ((lt_chunkCount_iff hl.gsoSize_pos _ j).1 (List.mem_range.1 hj))

theorem materializeOffloadInto_eq (offload : VirtioNetHdr) (ipPacket scratch : Bytes) (st : σ) :
    materializeOffloadInto emit offload ipPacket scratch st =
      some (EzVpn.materializeOffloadInto emit offload ipPacket scratch st) := by
  unfold materializeOffloadInto EzVpn.materializeOffloadInto
  split
  · exact segmentTcpGsoInto_eq emit offload ipPacket scratch st
  · split
    · rfl
    · rcases hv : validateChecksumOffload offload ipPacket with e | (_ | ⟨csumStart, checksumIndex⟩)
      · rfl
      · rfl
      · obtain ⟨hstart, hindex⟩ := validateChecksumOffload_some hv
        dsimp only
        rw [complete_eq emit hstart hindex]
        rfl

end

end EzVpn.Checked
