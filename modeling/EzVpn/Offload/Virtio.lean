import EzVpn.Lib.Bytes

/-!
# TUN frames

The `virtio_net_hdr` in front of each packet of a TUN device with vnet headers, and
`split_tun_frame` (src/tunnel/offload.rs), which takes it off.
-/

namespace EzVpn

open Lib Bytes

def virtioNetHdrLen : Nat := 10
def virtioNetHdrFNeedsCsum : UInt8 := 1
def virtioNetHdrFDataValid : UInt8 := 2
def virtioNetHdrGsoNone : UInt8 := 0
def virtioNetHdrGsoTcpv4 : UInt8 := 1
def virtioNetHdrGsoTcpv6 : UInt8 := 4
def virtioNetHdrGsoEcn : UInt8 := 0x80

structure VirtioNetHdr where
  flags : UInt8
  gsoType : UInt8
  hdrLen : UInt16
  gsoSize : UInt16
  csumStart : UInt16
  csumOffset : UInt16
  numBuffers : UInt16
deriving DecidableEq

/-- `{:02x}`. -/
def hex02 (n : UInt8) : String :=
  String.ofList [Nat.digitChar (n.toNat / 16), Nat.digitChar (n.toNat % 16)]

namespace VirtioNetHdr

def fromBytes (bytes : Bytes) : Except String VirtioNetHdr :=
  if bytes.length ≠ virtioNetHdrLen then
    .error s!"virtio_net_hdr must be {virtioNetHdrLen} bytes, got {bytes.length}"
  else
    .ok {
      flags := byteAt bytes 0
      gsoType := byteAt bytes 1
      hdrLen := le16 (byteAt bytes 2) (byteAt bytes 3)
      gsoSize := le16 (byteAt bytes 4) (byteAt bytes 5)
      csumStart := le16 (byteAt bytes 6) (byteAt bytes 7)
      csumOffset := le16 (byteAt bytes 8) (byteAt bytes 9)
      numBuffers := 0 }

def toBytes (h : VirtioNetHdr) : Bytes :=
  [h.flags, h.gsoType] ++ toLe16 h.hdrLen ++ toLe16 h.gsoSize ++ toLe16 h.csumStart ++
    toLe16 h.csumOffset

def normalizedGsoType (h : VirtioNetHdr) : UInt8 := h.gsoType &&& ~~~virtioNetHdrGsoEcn

def isTcpGso (h : VirtioNetHdr) : Bool :=
  (h.normalizedGsoType == virtioNetHdrGsoTcpv4 || h.normalizedGsoType == virtioNetHdrGsoTcpv6) &&
    h.gsoSize != 0

def needsChecksum (h : VirtioNetHdr) : Bool := (h.flags &&& virtioNetHdrFNeedsCsum) != 0

end VirtioNetHdr

def splitTunFrame (frame : Bytes) (vnetHdrEnabled : Bool) :
    Except String (Option VirtioNetHdr × Bytes) :=
  if !vnetHdrEnabled then
    if frame.isEmpty then .error "zero-length TUN frame" else .ok (none, frame)
  else if frame.length < virtioNetHdrLen then
    .error s!"TUN frame shorter than virtio header: {frame.length} < {virtioNetHdrLen}"
  else
    match VirtioNetHdr.fromBytes (frame.take virtioNetHdrLen) with
    | .error e => .error e
    | .ok offload =>
      let ipPacket := frame.drop virtioNetHdrLen
      if ipPacket.isEmpty then .error "empty IP payload after virtio header"
      else if offload.gsoType = virtioNetHdrGsoNone then
        if offload.flags ≠ 0 ∨ offload.csumStart ≠ 0 ∨ offload.csumOffset ≠ 0 then
          .ok (some offload, ipPacket)
        else .ok (none, ipPacket)
      else if offload.isTcpGso then .ok (some offload, ipPacket)
      else .error s!"unsupported GSO type from TUN: 0x{hex02 offload.gsoType}"

/-! ## Round trip -/

theorem le16_toLe16 (n : UInt16) : le16 (byteAt (toLe16 n) 0) (byteAt (toLe16 n) 1) = n := by
  have := n.toNat_lt
  apply UInt16.toNat_inj.1
  simp only [le16, be16, toLe16, byteAt, List.getD_cons_zero, List.getD_cons_succ, UInt16.toNat_ofNat',
    UInt8.toNat_ofNat']
  omega

theorem VirtioNetHdr.fromBytes_toBytes (h : VirtioNetHdr) :
    fromBytes h.toBytes = .ok { h with numBuffers := 0 } := by
  have h1 := le16_toLe16 h.hdrLen
  have h2 := le16_toLe16 h.gsoSize
  have h3 := le16_toLe16 h.csumStart
  have h4 := le16_toLe16 h.csumOffset
  unfold fromBytes
  rw [if_neg (by simp [toBytes, toLe16, virtioNetHdrLen])]
  show Except.ok (VirtioNetHdr.mk h.flags h.gsoType
    (le16 (byteAt (toLe16 h.hdrLen) 0) (byteAt (toLe16 h.hdrLen) 1))
    (le16 (byteAt (toLe16 h.gsoSize) 0) (byteAt (toLe16 h.gsoSize) 1))
    (le16 (byteAt (toLe16 h.csumStart) 0) (byteAt (toLe16 h.csumStart) 1))
    (le16 (byteAt (toLe16 h.csumOffset) 0) (byteAt (toLe16 h.csumOffset) 1)) 0) = _
  rw [h1, h2, h3, h4]

/-- What is made of a header in front of a packet. -/
theorem splitTunFrame_append (h : VirtioNetHdr) {ipPacket : Bytes} (hne : ipPacket ≠ []) :
    splitTunFrame (h.toBytes ++ ipPacket) true =
      if h.gsoType = virtioNetHdrGsoNone then
        if h.flags ≠ 0 ∨ h.csumStart ≠ 0 ∨ h.csumOffset ≠ 0 then
          .ok (some { h with numBuffers := 0 }, ipPacket)
        else .ok (none, ipPacket)
      else if h.isTcpGso then .ok (some { h with numBuffers := 0 }, ipPacket)
      else .error s!"unsupported GSO type from TUN: 0x{hex02 h.gsoType}" := by
  have hlen : h.toBytes.length = 10 := rfl
  unfold splitTunFrame
  rw [if_neg (by simp), if_neg (by simp [hlen, virtioNetHdrLen]), virtioNetHdrLen,
    List.take_append_of_le_length (by omega), List.take_of_length_le (by omega),
    VirtioNetHdr.fromBytes_toBytes, List.drop_left' hlen]
  dsimp only
  rw [if_neg (by simpa using hne)]
  rfl

theorem not_isTcpGso {h : VirtioNetHdr} (hnone : h.gsoType = virtioNetHdrGsoNone) : ¬ h.isTcpGso = true := by
  rw [VirtioNetHdr.isTcpGso, VirtioNetHdr.normalizedGsoType, hnone]
  simp [virtioNetHdrGsoNone, virtioNetHdrGsoEcn, virtioNetHdrGsoTcpv4, virtioNetHdrGsoTcpv6]

/-- A header of a TCP super-frame comes back, with the packet behind it. -/
theorem splitTunFrame_toBytes {h : VirtioNetHdr} {ipPacket : Bytes} (hgso : h.isTcpGso = true)
    (hbuf : h.numBuffers = 0) (hne : ipPacket ≠ []) :
    splitTunFrame (h.toBytes ++ ipPacket) true = .ok (some h, ipPacket) := by
  have hh : { h with numBuffers := 0 } = h := by rw [← hbuf]
  rw [splitTunFrame_append h hne, if_neg (fun hnone => not_isTcpGso hnone hgso), if_pos hgso, hh]

end EzVpn
