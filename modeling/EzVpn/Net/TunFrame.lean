import EzVpn.Net.TunWriter
import EzVpn.Offload.Segment

/-!
# Frames, written and read

`compose_tun_frame` and `split_tun_frame` (src/tunnel/offload.rs) on a device with vnet
headers.  A frame that was composed splits into the same packet and header, but for
`num_buffers`, which the ten bytes have no room for; a GSO type that is no TCP offload is
refused; and a header that asks for nothing is not returned at all.  The last is harmless:
`materialize_offload_into` hands out the packet as it is for such a header
(`materializeOffloadInto_plain`).
-/

namespace EzVpn

open Lib Bytes

/-- A header that asks for nothing. -/
def PlainHeader (h : VirtioNetHdr) : Prop :=
  h.gsoType = virtioNetHdrGsoNone ∧ h.flags = 0 ∧ h.csumStart = 0 ∧ h.csumOffset = 0

instance (h : VirtioNetHdr) : Decidable (PlainHeader h) := inferInstanceAs (Decidable (_ ∧ _))

/-- The header that a frame composed with `offload` is split into. -/
def returnedHeader : Option VirtioNetHdr → Option VirtioNetHdr
  | none => none
  | some h => if PlainHeader h then none else some { h with numBuffers := 0 }

/-- Giving no header is giving the plain one. -/
theorem returnedHeader_eq (offload : Option VirtioNetHdr) :
    returnedHeader offload =
      if PlainHeader (offload.getD plainHdr) then none
      else some { offload.getD plainHdr with numBuffers := 0 } := by
  cases offload with
  | none => rfl
  | some h => rfl

theorem plainHeader_of_returnedHeader {offload : Option VirtioNetHdr} (h : returnedHeader offload = none) :
    PlainHeader (offload.getD plainHdr) := by
  rw [returnedHeader_eq] at h
  by_contra hplain
  rw [if_neg hplain] at h
  cases h

theorem composeTunFrame_eq (offload : Option VirtioNetHdr) {ipPacket : Bytes} (hne : ipPacket ≠ []) :
    composeTunFrame true offload ipPacket = .ok ((offload.getD plainHdr).toBytes ++ ipPacket) := by
  unfold composeTunFrame
  rw [if_neg (by simpa using hne), if_neg (by simp), if_pos rfl]

/-- The header of a frame is refused, dropped or returned. -/
theorem splitTunFrame_header (offload : Option VirtioNetHdr) {ipPacket : Bytes} (hne : ipPacket ≠ []) :
    splitTunFrame ((offload.getD plainHdr).toBytes ++ ipPacket) true =
      if (offload.getD plainHdr).gsoType ≠ virtioNetHdrGsoNone ∧ (offload.getD plainHdr).isTcpGso = false then
        .error s!"unsupported GSO type from TUN: 0x{hex02 (offload.getD plainHdr).gsoType}"
      else .ok (returnedHeader offload, ipPacket) := by
  rw [splitTunFrame_append _ hne, returnedHeader_eq]
  generalize offload.getD plainHdr = h
  by_cases hnone : h.gsoType = virtioNetHdrGsoNone
  · have hknown : ¬ (h.gsoType ≠ virtioNetHdrGsoNone ∧ h.isTcpGso = false) := fun hbad => hbad.1 hnone
    rw [if_pos hnone, if_neg hknown]
    by_cases hplain : PlainHeader h
    · have hmeta : ¬ (h.flags ≠ 0 ∨ h.csumStart ≠ 0 ∨ h.csumOffset ≠ 0) := by
        obtain ⟨_, hflags, hstart, hoffset⟩ := hplain
        simp [hflags, hstart, hoffset]
      rw [if_neg hmeta, if_pos hplain]
    · -- some field of the checksum metadata is set
      have hmeta : h.flags ≠ 0 ∨ h.csumStart ≠ 0 ∨ h.csumOffset ≠ 0 := by
        by_contra hzero
        simp only [not_or, not_not] at hzero
        exact hplain ⟨hnone, hzero⟩
      rw [if_pos hmeta, if_neg hplain]
  · have hplain : ¬ PlainHeader h := fun hplain => hnone hplain.1
    rw [if_neg hnone, if_neg hplain]
    by_cases hgso : h.isTcpGso = true
    · rw [if_pos hgso, if_neg (by simp [hgso])]
    · rw [if_neg hgso, if_pos ⟨hnone, by simpa using hgso⟩]

/-- Materializing with a header that asks for nothing hands out the packet. -/
theorem materializeOffloadInto_plain {σ : Type} (emit : Bytes → σ → Except String Unit × σ)
    {h : VirtioNetHdr} (hplain : PlainHeader h) {ipPacket : Bytes} (hne : ipPacket ≠ [])
    (scratch : Bytes) (st : σ) :
    materializeOffloadInto emit h ipPacket scratch st =
      ((emit ipPacket st).1, scratch, (emit ipPacket st).2) := by
  have hneeds : h.needsChecksum = false := by
    rw [VirtioNetHdr.needsChecksum, hplain.2.1]
    rfl
  have hvalid : validateChecksumOffload h ipPacket = .ok none := by
    unfold validateChecksumOffload
    rw [if_neg (not_not.2 hplain.1), if_neg (by simpa using hne), hneeds]
    rfl
  unfold materializeOffloadInto
  rw [if_neg (not_isTcpGso hplain.1), if_neg (not_not.2 hplain.1), hvalid]

/-- **Splitting inverts composing.** -/
theorem splitTunFrame_composeTunFrame {ipPacket : Bytes} (hne : ipPacket ≠ [])
    (offload : Option VirtioNetHdr) :
    ∃ frame, composeTunFrame true offload ipPacket = .ok frame ∧
      ((∃ e, splitTunFrame frame true = .error e) ↔
        ∃ h, offload = some h ∧ h.gsoType ≠ virtioNetHdrGsoNone ∧ h.isTcpGso = false) ∧
      (∀ result, splitTunFrame frame true = .ok result → result = (returnedHeader offload, ipPacket)) ∧
      (returnedHeader offload = none →
        ∀ (σ : Type) (emit : Bytes → σ → Except String Unit × σ) (scratch : Bytes) (st : σ),
          materializeOffloadInto emit (offload.getD plainHdr) ipPacket scratch st =
            ((emit ipPacket st).1, scratch, (emit ipPacket st).2)) := by
  refine ⟨_, composeTunFrame_eq offload hne, ?_, ?_, ?_⟩
  · rw [splitTunFrame_header offload hne]
    constructor
    · rintro ⟨e, he⟩
      split at he
      · next hbad =>
        cases offload with
        | none => exact absurd rfl hbad.1
        | some h => exact ⟨h, rfl, hbad⟩
      · cases he
    · rintro ⟨h, rfl, hbad⟩
      exact ⟨_, if_pos hbad⟩
  · intro result hresult
    rw [splitTunFrame_header offload hne] at hresult
    split at hresult
    · cases hresult
    · exact (Except.ok.inj hresult).symm
  · intro hnone σ emit scratch st
    exact materializeOffloadInto_plain emit (plainHeader_of_returnedHeader hnone) hne scratch st

/-- A TCP GSO header comes back without its `num_buffers`. -/
theorem splitTunFrame_composeTunFrame_gso :
    ∃ frame, composeTunFrame true (some ⟨1, virtioNetHdrGsoTcpv4, 40, 1240, 20, 16, 1⟩) [0x45] = .ok frame ∧
      splitTunFrame frame true = .ok (some ⟨1, virtioNetHdrGsoTcpv4, 40, 1240, 20, 16, 0⟩, [0x45]) := by
  obtain ⟨frame, hframe, herror, hresult, _⟩ := splitTunFrame_composeTunFrame (show ([0x45] : Bytes) ≠ [] by decide)
    (some ⟨1, virtioNetHdrGsoTcpv4, 40, 1240, 20, 16, 1⟩)
  refine ⟨frame, hframe, ?_⟩
  cases hsplit : splitTunFrame frame true with
  | ok result => rw [hresult result hsplit]; decide
  | error e =>
    obtain ⟨h, hh, -, hgso⟩ := herror.1 ⟨e, hsplit⟩
    obtain rfl := Option.some.inj hh
    cases hgso

end EzVpn
