import EzVpn.Offload.Checksum
import EzVpn.Offload.Virtio

/-!
# Segmenting super-frames

The read side of src/tunnel/offload.rs: a TCP super-frame is cut into plain packets
(`segment_tcp_gso_into`), a packet with a partial checksum is completed
(`materialize_offload_into`).  Each packet is built in a scratch buffer that the caller
keeps, and handed to a callback.

The callback is `emit : Bytes → σ → Except String Unit × σ`, with the state `σ` of what
it captures.  `materializeOffloadInto_eq` says that the packets handed out depend on the
header and the packet alone, not on what the scratch buffer held.
-/

namespace EzVpn

open Lib Bytes

/-- `Vec::clear`. -/
def clear (_buf : Bytes) : Bytes := []

def ipHeaderLenForTcp (ipPacket : Bytes) (version : UInt8) : Except String Nat :=
  if version = 4 then
    let ihl := (byteAt ipPacket 0 &&& 0x0f).toNat * 4
    if ihl < 20 ∨ ipPacket.length < ihl ∨ byteAt ipPacket 9 ≠ 6 then
      .error "IPv4 GSO packet is not plain TCP"
    else .ok ihl
  else if version = 6 then
    if ipPacket.length < 40 ∨ byteAt ipPacket 6 ≠ 6 then .error "IPv6 GSO packet is not plain TCP"
    else .ok 40
  else .error s!"unsupported IP version {version}"

/-- What `segment_tcp_gso_into` finds out before it emits anything. -/
structure GsoLayout where
  version : UInt8
  tcpOffset : Nat
  headerLen : Nat
deriving DecidableEq

/-- The checks at the top of `segment_tcp_gso_into`. -/
def gsoLayout (offload : VirtioNetHdr) (ipPacket : Bytes) : Except String GsoLayout :=
  if !offload.isTcpGso then .error "offload header is not TCP GSO"
  else if ipPacket.isEmpty then .error "empty IP packet"
  else
    let version := byteAt ipPacket 0 >>> 4
    let normalizedType := offload.normalizedGsoType
    if version ≠ 4 ∧ version ≠ 6 then .error s!"unsupported IP version {version}"
    else if ¬ (version = 4 ∧ normalizedType = virtioNetHdrGsoTcpv4) ∧
        ¬ (version = 6 ∧ normalizedType = virtioNetHdrGsoTcpv6) then
      .error s!"IP version/GSO mismatch (ip v{version}, gso type 0x{hex02 normalizedType})"
    else do
      -- `hdr_len` is not trusted
      let tcpOffset ←
        if offload.needsChecksum then .ok offload.csumStart.toNat
        else ipHeaderLenForTcp ipPacket version
      if tcpOffset + 20 > ipPacket.length then
        .error s!"invalid TCP offset {tcpOffset} for packet length {ipPacket.length}"
      else
        let tcpHeaderLen := (byteAt ipPacket (tcpOffset + 12) >>> 4).toNat * 4
        let headerLen := tcpOffset + tcpHeaderLen
        if tcpHeaderLen < 20 ∨ headerLen > ipPacket.length then
          .error (s!"invalid TCP header length {tcpHeaderLen} " ++
            s!"(offset {tcpOffset}, packet length {ipPacket.length})")
        else .ok ⟨version, tcpOffset, headerLen⟩

def updateLengths (version : UInt8) (packet : Bytes) (packetLen : Nat) : Except String Bytes :=
  if version = 4 then updateIpv4LengthsAndChecksum packet packetLen
  else updateIpv6PayloadLength packet packetLen

def tcpChecksum (version : UInt8) (packet : Bytes) (tcpOffset : Nat) : Except String UInt16 :=
  if version = 4 then tcpChecksumIpv4 packet tcpOffset else tcpChecksumIpv6 packet tcpOffset

/-- One turn of the loop over the chunks, up to `emit`: the segment that starts at
`chunkOffset` of the payload, built in `scratch`.  After an error the buffer holds what
had been built. -/
def buildSegment (offload : VirtioNetHdr) (ipPacket : Bytes) (layout : GsoLayout) (scratch : Bytes)
    (chunkOffset : Nat) : Except String Unit × Bytes :=
  let payload := ipPacket.drop layout.headerLen
  let gsoSize := offload.gsoSize.toNat
  let tcpOffset := layout.tcpOffset
  let checksumIndex := tcpOffset + 16
  let baseSeq := be32 (byteAt ipPacket (tcpOffset + 4)) (byteAt ipPacket (tcpOffset + 5))
    (byteAt ipPacket (tcpOffset + 6)) (byteAt ipPacket (tcpOffset + 7))
  let originalTcpFlags := byteAt ipPacket (tcpOffset + 13)
  let chunkEnd := min (chunkOffset + gsoSize) payload.length
  let chunk := slice payload chunkOffset chunkEnd
  let scratch := clear scratch ++ ipPacket.take layout.headerLen ++ chunk
  if chunkOffset ≥ 2 ^ 32 then
    (.error s!"TCP GSO payload offset {chunkOffset} exceeds u32 range for sequence number", scratch)
  else
    let seq := baseSeq + UInt32.ofNat chunkOffset
    let scratch := setBytes scratch (tcpOffset + 4) (toBe32 seq)
    -- FIN and PSH on the last segment only
    let scratch :=
      if chunkEnd < payload.length then
        scratch.set (tcpOffset + 13) (originalTcpFlags &&& ~~~(0x01 ||| 0x08))
      else scratch
    match updateLengths layout.version scratch (layout.headerLen + chunk.length) with
    | .error e => (.error e, scratch)
    | .ok scratch =>
      let scratch := setBytes scratch checksumIndex [0, 0]
      match tcpChecksum layout.version scratch tcpOffset with
      | .error e => (.error e, scratch)
      | .ok checksum => (.ok (), setBytes scratch checksumIndex (toBe16 checksum))

/-- `(0..len).step_by(step)`. -/
def stepBy (len step : Nat) : List Nat := (List.range ((len + step - 1) / step)).map (· * step)

section
variable {σ : Type} (emit : Bytes → σ → Except String Unit × σ)

/-- The loop over the chunks. -/
def segmentLoop (build : Bytes → Nat → Except String Unit × Bytes) :
    List Nat → Bytes → σ → Except String Unit × Bytes × σ
  | [], scratch, st => (.ok (), scratch, st)
  | chunkOffset :: offsets, scratch, st =>
    match build scratch chunkOffset with
    | (.error e, scratch) => (.error e, scratch, st)
    | (.ok (), scratch) =>
      match emit scratch st with
      | (.error e, st) => (.error e, scratch, st)
      | (.ok (), st) => segmentLoop build offsets scratch st

/-- Hand out what the buffer holds. -/
def emitScratch (scratch : Bytes) (st : σ) : Except String Unit × Bytes × σ :=
  let (result, st) := emit scratch st
  (result, scratch, st)

def segmentTcpGsoInto (offload : VirtioNetHdr) (ipPacket scratch : Bytes) (st : σ) :
    Except String Unit × Bytes × σ :=
  match gsoLayout offload ipPacket with
  | .error e => (.error e, scratch, st)
  | .ok layout =>
    let payload := ipPacket.drop layout.headerLen
    let gsoSize := offload.gsoSize.toNat
    if payload.length ≤ gsoSize then
      if !offload.needsChecksum then
        let (result, st) := emit ipPacket st
        (result, scratch, st)
      else
        let scratch := clear scratch ++ ipPacket
        let checksum := finalizeChecksum (addBytes 0 (scratch.drop layout.tcpOffset))
        emitScratch emit (setBytes scratch (layout.tcpOffset + 16) (toBe16 checksum)) st
    else
      segmentLoop emit (buildSegment offload ipPacket layout) (stepBy payload.length gsoSize) scratch st

def validateChecksumOffload (offload : VirtioNetHdr) (ipPacket : Bytes) :
    Except String (Option (Nat × Nat)) :=
  if offload.gsoType ≠ virtioNetHdrGsoNone then
    .error s!"checksum completion requires GSO_NONE, got 0x{hex02 offload.gsoType}"
  else if ipPacket.isEmpty then .error "empty IP packet"
  else if !offload.needsChecksum then .ok none
  else
    let unsupportedFlags := offload.flags &&& ~~~(virtioNetHdrFNeedsCsum ||| virtioNetHdrFDataValid)
    if unsupportedFlags ≠ 0 then
      .error s!"unsupported checksum offload flags: 0x{hex02 unsupportedFlags}"
    else
      let csumStart := offload.csumStart.toNat
      if csumStart ≥ ipPacket.length then
        .error s!"invalid csum_start {csumStart} for packet length {ipPacket.length}"
      else
        -- both are `u16`, so `checked_add` does not overflow
        let checksumIndex := csumStart + offload.csumOffset.toNat
        if checksumIndex + 2 > ipPacket.length then
          .error (s!"invalid csum_offset {offload.csumOffset} " ++
            s!"(checksum index {checksumIndex} beyond packet length {ipPacket.length})")
        else .ok (some (csumStart, checksumIndex))

def materializeOffloadInto (offload : VirtioNetHdr) (ipPacket scratch : Bytes) (st : σ) :
    Except String Unit × Bytes × σ :=
  if offload.isTcpGso then segmentTcpGsoInto emit offload ipPacket scratch st
  else if offload.gsoType ≠ virtioNetHdrGsoNone then
    (.error s!"unsupported GSO type from offload metadata: 0x{hex02 offload.gsoType}", scratch, st)
  else
    match validateChecksumOffload offload ipPacket with
    | .error e => (.error e, scratch, st)
    | .ok none =>
      let (result, st) := emit ipPacket st
      (result, scratch, st)
    | .ok (some (csumStart, checksumIndex)) =>
      let scratch := clear scratch ++ ipPacket
      let checksum := finalizeChecksum (addBytes 0 (scratch.drop csumStart))
      emitScratch emit (setBytes scratch checksumIndex (toBe16 checksum)) st

end

/-- A callback that collects the packets. -/
def push (packet : Bytes) (out : List Bytes) : Except String Unit × List Bytes :=
  (.ok (), out ++ [packet])

/-- `segment_tcp_gso_packet`: the packets of a super-frame. -/
def segmentTcpGsoPacket (offload : VirtioNetHdr) (ipPacket : Bytes) : Except String (List Bytes) :=
  match segmentTcpGsoInto push offload ipPacket [] [] with
  | (.error e, _, _) => .error e
  | (.ok (), _, out) => .ok out

/-- The packets handed to the callback, all of them if it never fails. -/
def materialized (offload : VirtioNetHdr) (ipPacket : Bytes) : List Bytes :=
  (materializeOffloadInto push offload ipPacket [] []).2.2

/-! ## What is handed out -/

section
variable {σ : Type} (f : σ → Bytes → σ)

/-- A callback that never fails. -/
def emitAll (packet : Bytes) (st : σ) : Except String Unit × σ := (.ok (), f st packet)

/-- `r` ended as the collecting run `t` did, and took what `t` collected past `out`, in
order. -/
def Folds (st : σ) (out : List Bytes) (r : Except String Unit × Bytes × σ)
    (t : Except String Unit × Bytes × List Bytes) : Prop :=
  r.1 = t.1 ∧ ∃ packets, t.2.2 = out ++ packets ∧ r.2.2 = packets.foldl f st

variable {f}

theorem folds_none (result : Except String Unit) (scratch scratch' : Bytes) (st : σ)
    (out : List Bytes) : Folds f st out (result, scratch, st) (result, scratch', out) :=
  ⟨rfl, [], (List.append_nil out).symm, rfl⟩

theorem folds_one (packet scratch scratch' : Bytes) (st : σ) (out : List Bytes) :
    Folds f st out (.ok (), scratch, f st packet) (.ok (), scratch', out ++ [packet]) :=
  ⟨rfl, [packet], rfl, rfl⟩

/-- The loop clears the buffer before it builds a segment, so the two runs may start with
different ones. -/
theorem folds_segmentLoop {build : Bytes → Nat → Except String Unit × Bytes}
    (hbuild : ∀ s s' offset, build s offset = build s' offset) (offsets : List Nat) :
    ∀ scratch scratch' st out, Folds f st out
      (segmentLoop (emitAll f) build offsets scratch st)
      (segmentLoop push build offsets scratch' out) := by
  induction offsets with
  | nil => intro scratch scratch' st out; exact folds_none _ _ _ _ _
  | cons offset offsets ih =>
    intro scratch scratch' st out
    unfold segmentLoop
    rw [hbuild scratch scratch']
    rcases build scratch' offset with ⟨_ | ⟨⟩, built⟩
    · exact folds_none _ _ _ _ _
    · obtain ⟨hres, packets, hout, hst⟩ := ih built built (f st built) (out ++ [built])
      refine ⟨hres, built :: packets, ?_, hst⟩
      rw [List.append_cons]
      exact hout

theorem folds_segmentTcpGsoInto (offload : VirtioNetHdr) (ipPacket scratch scratch' : Bytes) (st : σ)
    (out : List Bytes) : Folds f st out
      (segmentTcpGsoInto (emitAll f) offload ipPacket scratch st)
      (segmentTcpGsoInto push offload ipPacket scratch' out) := by
  unfold segmentTcpGsoInto
  cases gsoLayout offload ipPacket with
  | error e => exact folds_none _ _ _ _ _
  | ok layout =>
    dsimp only
    split
    · split <;> exact folds_one _ _ _ _ _
    · exact folds_segmentLoop (fun _ _ _ => rfl) _ _ _ _ _

theorem folds_materializeOffloadInto (offload : VirtioNetHdr) (ipPacket scratch scratch' : Bytes)
    (st : σ) (out : List Bytes) : Folds f st out
      (materializeOffloadInto (emitAll f) offload ipPacket scratch st)
      (materializeOffloadInto push offload ipPacket scratch' out) := by
  unfold materializeOffloadInto
  split
  · exact folds_segmentTcpGsoInto _ _ _ _ _ _
  · split
    · exact folds_none _ _ _ _ _
    · rcases validateChecksumOffload offload ipPacket with e | (_ | ⟨csumStart, checksumIndex⟩)
      · exact folds_none _ _ _ _ _
      · exact folds_one _ _ _ _ _
      · exact folds_one _ _ _ _ _

/-- **No residue.**  A callback that never fails is given the materialized packets, one
after the other, whatever the buffer held. -/
theorem materializeOffloadInto_eq (offload : VirtioNetHdr) (ipPacket scratch : Bytes) (st : σ) :
    (materializeOffloadInto (emitAll f) offload ipPacket scratch st).1 =
        (materializeOffloadInto push offload ipPacket [] []).1 ∧
      (materializeOffloadInto (emitAll f) offload ipPacket scratch st).2.2 =
        (materialized offload ipPacket).foldl f st := by
  obtain ⟨hres, packets, hout, hst⟩ :=
    folds_materializeOffloadInto (f := f) offload ipPacket scratch [] st []
  refine ⟨hres, ?_⟩
  rw [hst, materialized, hout, List.nil_append]

end

end EzVpn
